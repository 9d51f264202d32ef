import Triage.Keyed
import Triage.Signature.Registry

/-! Registries by their history: the registry that was there at first, and the requests that it has
got since, refused ones included. -/
namespace Triage

inductive Request where
  | pattern (name : String) (bytes : Bytes)
  | signature (s : Signature)

namespace Request

def name : Request → String
  | pattern n _ => n
  | signature s => s.name

def patterns : Request → List Bytes
  | pattern _ p => [p]
  | signature s => s.patterns

/-- A request is taken whatever the registry holds, or by no registry. -/
def Valid (q : Request) : Prop := q.patterns ≠ [] ∧ [] ∉ q.patterns

instance : DecidablePred Valid := fun q =>
  inferInstanceAs (Decidable (q.patterns ≠ [] ∧ [] ∉ q.patterns))

end Request

namespace Registry

def submit (r : Registry) : Request → Result Registry
  | .pattern n p => r.addPattern n p
  | .signature s => r.add s

/-- A refused request leaves the registry as it was. -/
def after (r : Registry) (q : Request) : Registry :=
  match r.submit q with
  | .ok r' => r'
  | .error _ => r

/-- What a valid request puts into the registry. -/
def stored (r : Registry) : Request → Signature
  | .pattern n p => ⟨n, [p], ((r.get? n).map Signature.category).getD .custom⟩
  | .signature s => s

structure History where
  /-- Whether the built-in signatures were there at first. -/
  seeded : Bool
  requests : List Request

namespace History

def start (h : History) : Registry := if h.seeded then .builtin else .empty

def registry (h : History) : Registry := h.requests.foldl after h.start

/-- Each name once, in the order in which the names were first taken. -/
def names (h : History) : List String :=
  (h.start.names ++ (h.requests.filter Request.Valid).map Request.name).eraseDups

end History

theorem stored_name (r : Registry) (q : Request) : (r.stored q).name = q.name := by
  cases q <;> rfl

theorem stored_patterns (r : Registry) (q : Request) : (r.stored q).patterns = q.patterns := by
  cases q <;> rfl

theorem submit_eq_add (r : Registry) (q : Request) : r.submit q = r.add (r.stored q) := by
  cases q <;> rfl

theorem add_of_valid (r : Registry) {s : Signature} (h : s.patterns ≠ [] ∧ [] ∉ s.patterns) :
    r.add s = .ok ⟨Keyed.put Signature.name s r.signatures⟩ := by
  have h1 : s.patterns.isEmpty = false := by simpa using h.1
  have h2 : s.patterns.any List.isEmpty = false := by
    rw [List.any_eq_false]
    intro p hp he
    exact h.2 (List.isEmpty_iff.mp he ▸ hp)
  simp only [add, Signature.check, h1, h2]
  rfl

theorem add_of_not_valid (r : Registry) {s : Signature}
    (h : ¬ (s.patterns ≠ [] ∧ [] ∉ s.patterns)) :
    ∃ text, r.add s = .error (.invalidInput text) := by
  by_cases h1 : s.patterns = []
  · simp only [add, Signature.check, h1]
    exact ⟨_, rfl⟩
  · have hm : [] ∈ s.patterns := Decidable.byContradiction fun hm => h ⟨h1, hm⟩
    have h1' : s.patterns.isEmpty = false := by simpa using h1
    have h2 : s.patterns.any List.isEmpty = true := List.any_eq_true.mpr ⟨[], hm, rfl⟩
    simp only [add, Signature.check, h1', h2]
    exact ⟨_, rfl⟩

/-- All that one request can do. -/
theorem after_eq (r : Registry) (q : Request) : r.after q =
    if q.Valid then ⟨Keyed.put Signature.name (r.stored q) r.signatures⟩ else r := by
  split
  · rename_i h
    rw [Request.Valid, ← r.stored_patterns q] at h
    rw [after, submit_eq_add, add_of_valid r h]
  · rename_i h
    rw [Request.Valid, ← r.stored_patterns q] at h
    obtain ⟨text, he⟩ := add_of_not_valid r h
    rw [after, submit_eq_add, he]

structure Sound (r : Registry) : Prop where
  nodup : r.names.Nodup
  patterns : ∀ s ∈ r.signatures, s.patterns ≠ [] ∧ [] ∉ s.patterns

theorem Sound.get?_of_mem {r : Registry} (h : r.Sound) {s : Signature} (hs : s ∈ r.signatures) :
    r.get? s.name = some s :=
  Keyed.get?_of_mem h.nodup hs

theorem Sound.get?_iff {r : Registry} (h : r.Sound) {n : String} {s : Signature} :
    r.get? n = some s ↔ s ∈ r.signatures ∧ s.name = n := by
  constructor
  · intro hg
    exact ⟨Keyed.mem_of_get? hg, Keyed.key_of_get? hg⟩
  · intro hs
    exact hs.2 ▸ h.get?_of_mem hs.1

theorem sound_empty : empty.Sound := ⟨List.nodup_nil, by simp [empty]⟩

/-- The built-in signatures pass the check that they are never put to. -/
theorem sound_builtin : builtin.Sound := ⟨by decide, by decide⟩

theorem Sound.after {r : Registry} (h : r.Sound) (q : Request) : (r.after q).Sound := by
  rw [after_eq]
  split
  · rename_i hq
    refine ⟨Keyed.nodup_put (r.stored q) h.nodup, ?_⟩
    intro s hs
    rcases Keyed.mem_of_mem_put hs with rfl | hs
    · rw [stored_patterns]
      exact hq
    · exact h.patterns s hs
  · exact h

theorem names_after (r : Registry) (q : Request) : (r.after q).names =
    if q.Valid then if q.name ∈ r.names then r.names else r.names ++ [q.name] else r.names := by
  rw [after_eq]
  split
  · rw [names, Keyed.map_put, stored_name]
    rfl
  · rfl

theorem sound_foldl {r : Registry} (h : r.Sound) (qs : List Request) :
    (qs.foldl Registry.after r).Sound := by
  induction qs generalizing r with
  | nil => exact h
  | cons q qs ih => exact ih (h.after q)

theorem eraseDups_of_nodup {l : List String} (h : l.Nodup) : l.eraseDups = l := by
  induction l with
  | nil => rfl
  | cons a l ih =>
    have hf : (l.filter fun b => !b == a) = l := by
      rw [List.filter_eq_self]
      intro b hb
      have hne : b ≠ a := fun he => (List.nodup_cons.mp h).1 (he ▸ hb)
      simpa using hne
    rw [List.eraseDups_cons, hf, ih (List.nodup_cons.mp h).2]

theorem eraseDups_append_cons_of_mem {a : String} {l : List String} (h : a ∈ l)
    (m : List String) : (l ++ a :: m).eraseDups = (l ++ m).eraseDups := by
  rw [List.eraseDups_append, List.eraseDups_append, List.removeAll, List.removeAll]
  simp [h]

theorem names_foldl {r : Registry} (h : r.Sound) (qs : List Request) :
    (qs.foldl Registry.after r).names =
      (r.names ++ (qs.filter Request.Valid).map Request.name).eraseDups := by
  induction qs generalizing r with
  | nil => simp [eraseDups_of_nodup h.nodup]
  | cons q qs ih =>
    rw [List.foldl_cons, ih (h.after q), names_after]
    by_cases hq : q.Valid
    · -- a name that is known already is dropped on the right, and on the left it keeps its place
      by_cases hn : q.name ∈ r.names
      · simp [hq, hn, eraseDups_append_cons_of_mem hn]
      · simp [hq, hn]
    · simp [hq]

namespace History

theorem sound_start (h : History) : h.start.Sound := by
  rw [start]
  split
  · exact sound_builtin
  · exact sound_empty

theorem sound (h : History) : h.registry.Sound := sound_foldl h.sound_start h.requests

theorem names_registry (h : History) : h.registry.names = h.names :=
  names_foldl h.sound_start h.requests

end History
end Registry
end Triage
