import Triage.Proofs.Occurrence
import Triage.Proofs.RegistryHistory

/-! What the searches of a registry find. The lists of offsets and the searches for a mere
occurrence go different ways and part at an empty pattern; they agree on every registry that has a
history, since no request brings an empty pattern in. -/
namespace Triage.Registry
variable {r : Registry} {data : Bytes} {n : String}

/-- Some pattern of a signature with the name stands at the offset. -/
def HitAt (r : Registry) (n : String) (data : Bytes) (i : Nat) : Prop :=
  ∃ s ∈ r.signatures, s.name = n ∧ ∃ p ∈ s.patterns, Bytes.OccursAt p data i

/-- The signature with the name is the one that is looked up. -/
theorem Sound.hitAt_iff (h : r.Sound) {i : Nat} : r.HitAt n data i ↔
    ∃ s, r.get? n = some s ∧ ∃ p ∈ s.patterns, Bytes.OccursAt p data i := by
  simp only [HitAt, h.get?_iff, and_assoc]

theorem find_ascending : (r.find n data).Pairwise (· < ·) := by
  rw [find]
  cases r.get? n with
  | none => exact List.Pairwise.nil
  | some s => exact s.offsets_ascending data

theorem Sound.mem_find (h : r.Sound) {i : Nat} : i ∈ r.find n data ↔ r.HitAt n data i := by
  rw [find, h.hitAt_iff]
  cases hg : r.get? n with
  | none => simp
  | some s =>
    have hp := (h.patterns s (Keyed.mem_of_get? hg)).2
    simpa using Signature.mem_offsets hp data i

theorem Sound.find_ne_nil_iff (h : r.Sound) : r.find n data ≠ [] ↔ ∃ i, r.HitAt n data i := by
  constructor
  · intro hn
    obtain ⟨i, hi⟩ := List.exists_mem_of_ne_nil _ hn
    exact ⟨i, h.mem_find.mp hi⟩
  · rintro ⟨i, hi⟩
    exact List.ne_nil_of_mem (h.mem_find.mpr hi)

/-- Here an empty pattern would count. -/
theorem Sound.occursIn_iff_hitAt (h : r.Sound) :
    r.occursIn n data = true ↔ ∃ i, r.HitAt n data i := by
  simp only [occursIn, h.hitAt_iff]
  cases r.get? n with
  | none => simp
  | some s =>
    simp only [Option.map_some, Option.getD_some, Signature.occursIn_iff, Option.some.injEq]
    constructor
    · rintro ⟨p, hp, i, ho⟩
      exact ⟨i, s, rfl, p, hp, ho⟩
    · rintro ⟨i, t, rfl, p, hp, ho⟩
      exact ⟨p, hp, i, ho⟩

theorem Sound.occursIn_name (h : r.Sound) {s : Signature} (hs : s ∈ r.signatures) :
    r.occursIn s.name data = s.occursIn data := by
  simp [occursIn, h.get?_of_mem hs]

theorem Sound.occursIn_iff_find (h : r.Sound) : r.occursIn n data = true ↔ r.find n data ≠ [] := by
  rw [h.occursIn_iff_hitAt, h.find_ne_nil_iff]

theorem keys_findAll (r : Registry) (data : Bytes) :
    (r.findAll data).map Prod.fst = r.names.filter fun n => !(r.find n data).isEmpty := by
  rw [findAll, List.filter_map, List.map_map]
  exact List.map_id _

theorem mem_findAll {os : List Nat} (h : (n, os) ∈ r.findAll data) : os = r.find n data := by
  rw [findAll, List.mem_filter] at h
  obtain ⟨m, -, hm⟩ := List.mem_map.mp h.1
  rw [Prod.mk.injEq] at hm
  rw [← hm.2, hm.1]

theorem Sound.mem_keys_findAll (h : r.Sound) :
    n ∈ (r.findAll data).map Prod.fst ↔ ∃ i, r.HitAt n data i := by
  rw [keys_findAll, List.mem_filter, ← h.find_ne_nil_iff]
  constructor
  · rintro ⟨-, hn⟩
    simpa using hn
  · intro hn
    refine ⟨?_, by simpa using hn⟩
    obtain ⟨i, s, hs, rfl, -⟩ := h.find_ne_nil_iff.mp hn
    exact List.mem_map_of_mem hs

theorem Sound.matching_eq (h : r.Sound) (c : Category) (data : Bytes) : r.matching c data =
    ((r.findAll data).map Prod.fst).filter fun n => (r.get? n).map Signature.category = some c := by
  rw [keys_findAll, List.filter_filter, names, List.filter_map, matching, inCategory,
    List.filter_filter]
  congr 1
  -- both sides now filter the signatures, so the two tests are compared at one of them
  apply List.filter_congr
  intro s hs
  have hg := h.get?_of_mem hs
  have ho : s.occursIn data = !(r.find s.name data).isEmpty := by
    rw [← h.occursIn_name hs, Bool.eq_iff_iff, h.occursIn_iff_find]
    simp
  have hc : decide ((r.get? s.name).map Signature.category = some c) = (s.category == c) := by
    simp [hg, Bool.beq_eq_decide_eq]
  rw [Function.comp_apply, ho, hc, Bool.and_comm]

namespace History

/-- The search for everything lists exactly the names with hits, once each and in the order in which
they were first registered, and stores with each name exactly its hits, ascending. -/
theorem findAll_lists_hits (h : History) (data : Bytes) :
    ((h.registry.findAll data).map Prod.fst).Nodup ∧
    ((h.registry.findAll data).map Prod.fst).Sublist h.names ∧
    (∀ n, n ∈ (h.registry.findAll data).map Prod.fst ↔ ∃ i, h.registry.HitAt n data i) ∧
    ∀ n os, (n, os) ∈ h.registry.findAll data → os = h.registry.find n data ∧
      os.Pairwise (· < ·) ∧ ∀ i, i ∈ os ↔ h.registry.HitAt n data i := by
  have hs : ((h.registry.findAll data).map Prod.fst).Sublist h.registry.names := by
    rw [keys_findAll]
    exact List.filter_sublist
  refine ⟨hs.nodup h.sound.nodup, h.names_registry ▸ hs, fun n => h.sound.mem_keys_findAll, ?_⟩
  intro n os ho
  have he := mem_findAll ho
  subst he
  exact ⟨rfl, find_ascending, fun i => h.sound.mem_find⟩

/-- The searches that stop at a first occurrence find what the lists of offsets say. -/
theorem occursIn_and_matching_agree_with_find (h : History) (data : Bytes) :
    (∀ n, h.registry.occursIn n data = true ↔ h.registry.find n data ≠ []) ∧
    ∀ c, h.registry.matching c data = ((h.registry.findAll data).map Prod.fst).filter
      fun n => (h.registry.get? n).map Signature.category = some c :=
  ⟨fun _ => h.sound.occursIn_iff_find, fun c => h.sound.matching_eq c data⟩

end History
end Triage.Registry
