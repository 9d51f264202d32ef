import Triage.Proofs.RegistryHistory

/-! What one request does to the entries of a registry, and what every registry with a history
keeps to. -/
namespace Triage.Registry
variable {r r' : Registry} {q : Request}

/-- What an accepted request does: the entry of its name is replaced in place, or a new one comes to
the end. A mere pattern takes over the category of the entry that it replaces. -/
inductive Takes (r : Registry) : Request → Registry → Prop
  | newPattern {n : String} {p : Bytes} (hn : n ∉ r.names) :
      Takes r (.pattern n p) ⟨r.signatures ++ [⟨n, [p], .custom⟩]⟩
  | knownPattern {n : String} {p : Bytes} {front back : List Signature} {old : Signature}
      (hr : r.signatures = front ++ old :: back) (hn : old.name = n) :
      Takes r (.pattern n p) ⟨front ++ ⟨n, [p], old.category⟩ :: back⟩
  | newSignature {s : Signature} (hn : s.name ∉ r.names) :
      Takes r (.signature s) ⟨r.signatures ++ [s]⟩
  | knownSignature {s : Signature} {front back : List Signature} {old : Signature}
      (hr : r.signatures = front ++ old :: back) (hn : old.name = s.name) :
      Takes r (.signature s) ⟨front ++ s :: back⟩

theorem stored_of_not_mem {n : String} (p : Bytes) (hn : n ∉ r.names) :
    r.stored (.pattern n p) = ⟨n, [p], .custom⟩ := by
  have hg : r.get? n = none := Keyed.get?_eq_none_iff.mpr hn
  simp [stored, hg]

theorem stored_of_get? {n : String} {s : Signature} (p : Bytes) (hg : r.get? n = some s) :
    r.stored (.pattern n p) = ⟨n, [p], s.category⟩ := by
  simp [stored, hg]

/-- A signature goes to the end, or takes the place of the only one of its name. -/
theorem Sound.put_cases (h : r.Sound) (s : Signature) :
    (s.name ∉ r.names ∧ Keyed.put Signature.name s r.signatures = r.signatures ++ [s]) ∨
    ∃ front old back, r.signatures = front ++ old :: back ∧ old.name = s.name ∧
      Keyed.put Signature.name s r.signatures = front ++ s :: back := by
  by_cases hn : s.name ∈ r.names
  · obtain ⟨old, ho, he⟩ := List.mem_map.mp hn
    obtain ⟨front, back, hr⟩ := List.append_of_mem ho
    have hnd := h.nodup
    rw [names, hr, List.map_append, List.nodup_append] at hnd
    have hf : s.name ∉ front.map Signature.name := by
      intro hm
      exact hnd.2.2 _ hm _ (by simp [he]) rfl
    exact Or.inr ⟨front, old, back, hr, he, by rw [hr, Keyed.put_append_cons he hf]⟩
  · exact Or.inl ⟨hn, Keyed.put_of_not_mem hn⟩

theorem Sound.takes_after (h : r.Sound) (hq : q.Valid) : Takes r q (r.after q) := by
  rw [after_eq, if_pos hq]
  cases q with
  | pattern n p =>
    cases h.put_cases (r.stored (.pattern n p)) with
    | inl hnew =>
      have hn : n ∉ r.names := hnew.1
      rw [hnew.2, stored_of_not_mem p hn]
      exact .newPattern hn
    | inr hknown =>
      obtain ⟨front, old, back, hr, hn, hput⟩ := hknown
      have hg : r.get? n = some old := h.get?_iff.mpr ⟨by simp [hr], hn⟩
      rw [hput, stored_of_get? p hg]
      exact .knownPattern hr hn
  | signature s =>
    cases h.put_cases s with
    | inl hnew =>
      rw [stored, hnew.2]
      exact .newSignature hnew.1
    | inr hknown =>
      obtain ⟨front, old, back, hr, hn, hput⟩ := hknown
      rw [stored, hput]
      exact .knownSignature hr hn

theorem submit_of_valid (r : Registry) (hq : q.Valid) : r.submit q = .ok (r.after q) := by
  have hs := hq
  rw [Request.Valid, ← r.stored_patterns q] at hs
  rw [after_eq, if_pos hq, submit_eq_add, add_of_valid r hs]

theorem submit_of_not_valid (r : Registry) (hq : ¬ q.Valid) :
    ∃ text, r.submit q = .error (.invalidInput text) := by
  rw [Request.Valid, ← r.stored_patterns q] at hq
  rw [submit_eq_add]
  exact add_of_not_valid r hq

theorem submit_eq_ok_iff : r.submit q = .ok r' ↔ q.Valid ∧ r.after q = r' := by
  by_cases hq : q.Valid
  · simp [submit_of_valid r hq, hq]
  · obtain ⟨text, he⟩ := submit_of_not_valid r hq
    simp [he, hq]

/-- Of the registry, a request reads no more than the entry of its name. -/
theorem stored_congr (hg : r.get? q.name = r'.get? q.name) : r.stored q = r'.stored q := by
  cases q with
  | pattern n p =>
    rw [Request.name] at hg
    simp [stored, hg]
  | signature s => rfl

theorem get?_after (r : Registry) (q : Request) (n : String) : (r.after q).get? n =
    if q.Valid ∧ q.name = n then some (r.stored q) else r.get? n := by
  rw [after_eq]
  by_cases hq : q.Valid
  · simp [hq, get?, Keyed.get?_put, stored_name]
  · simp [hq]

namespace History

/-- The history after one more request. -/
def snoc (h : History) (q : Request) : History := ⟨h.seeded, h.requests ++ [q]⟩

theorem registry_snoc (h : History) (q : Request) :
    (h.snoc q).registry = h.registry.after q := by
  rw [registry, snoc, List.foldl_append]
  rfl

/-- Names stay distinct and in the order in which they were first taken, look-up finds exactly the
entry of a name, and no entry lacks patterns or has an empty one. A request without proper patterns
is refused and changes nothing; any other one is taken, and only the entry of its name changes. -/
theorem requests_keep_entries (h : History) :
    h.registry.names.Nodup ∧
    (∀ n s, h.registry.get? n = some s ↔ s ∈ h.registry.signatures ∧ s.name = n) ∧
    (∀ s ∈ h.registry.signatures, s.patterns ≠ [] ∧ [] ∉ s.patterns) ∧
    h.registry.names = h.names ∧
    ∀ q : Request,
      (q.patterns = [] ∨ [] ∈ q.patterns →
        (∃ text, h.registry.submit q = .error (.invalidInput text)) ∧
        (h.snoc q).registry = h.registry) ∧
      (q.patterns ≠ [] ∧ [] ∉ q.patterns →
        h.registry.submit q = .ok (h.snoc q).registry ∧
        Takes h.registry q (h.snoc q).registry ∧
        ∀ n, n ≠ q.name → (h.snoc q).registry.get? n = h.registry.get? n) := by
  refine ⟨h.sound.nodup, fun n s => h.sound.get?_iff, h.sound.patterns, h.names_registry, ?_⟩
  intro q
  rw [registry_snoc]
  constructor
  · intro hp
    have hq : ¬ q.Valid := by
      intro hv
      cases hp with
      | inl hnil => exact hv.1 hnil
      | inr hmem => exact hv.2 hmem
    refine ⟨submit_of_not_valid h.registry hq, ?_⟩
    rw [after_eq, if_neg hq]
  · intro hq
    refine ⟨submit_of_valid h.registry hq, h.sound.takes_after hq, ?_⟩
    intro n hn
    have hne : q.name ≠ n := Ne.symm hn
    simp [get?_after, hne]

end History
end Triage.Registry
