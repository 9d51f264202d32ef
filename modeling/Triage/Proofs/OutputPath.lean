import Mathlib.Data.List.DropRight
import Triage.Unpack

/-! Where an unpacked file goes. The place is made by adding to the text of a path, while paths are the
same if their components are; the last segment is the only one that the added text can change. -/
namespace Triage.Path

/-- The components of the directory in which a path stands. The root and the empty path have none. -/
def parent? (p : String) : Option (List Component) :=
  ((components p).getLast?.filter (· ≠ .root)).map fun _ => (components p).dropLast

/-- The text behind the last separator. -/
def fileText (p : String) : List Char := p.toList.rtakeWhile (· ≠ '/')

/-- What stands before the components that the segments give. -/
def lead (p : String) : List Component :=
  if isAbsolute p then [.root]
  else if (segments p).head? = some ['.'] then [.current]
  else []

theorem components_eq (p : String) :
    components p = lead p ++ (segments p).filterMap componentOf := by
  rw [components, lead]
  split
  · rfl
  · split <;> rfl

section
variable {sep : Char} {t : List Char}

theorem splitFrom_of_not_mem (ht : sep ∉ t) (acc : List Char) :
    splitFrom sep acc t = [acc.reverse ++ t] := by
  induction t generalizing acc with
  | nil => simp [splitFrom]
  | cons c t ih =>
    rw [List.mem_cons, not_or] at ht
    rw [splitFrom, if_neg (Ne.symm ht.1), ih ht.2]
    simp

/-- Text without a separator goes to the last segment. -/
theorem splitFrom_append (ht : sep ∉ t) (acc s : List Char) :
    ∃ init last, splitFrom sep acc s = init ++ [last] ∧
      splitFrom sep acc (s ++ t) = init ++ [last ++ t] ∧
      (init = [] → last = acc.reverse ++ s) := by
  induction s generalizing acc with
  | nil => exact ⟨[], acc.reverse, rfl, splitFrom_of_not_mem ht acc, by simp⟩
  | cons c s ih =>
    by_cases hc : c = sep
    · obtain ⟨init, last, hs, hst, -⟩ := ih []
      refine ⟨acc.reverse :: init, last, ?_, ?_, by simp⟩
      · rw [splitFrom, if_pos hc, hs]
        rfl
      · rw [List.cons_append, splitFrom, if_pos hc, hst]
        rfl
    · obtain ⟨init, last, hs, hst, hl⟩ := ih (c :: acc)
      refine ⟨init, last, ?_, ?_, ?_⟩
      · rw [splitFrom, if_neg hc, hs]
      · rw [List.cons_append, splitFrom, if_neg hc, hst]
      · intro hi
        rw [hl hi]
        simp

theorem rtakeWhile_append_sep (xs s : List Char) :
    (xs ++ sep :: s).rtakeWhile (· ≠ sep) = s.rtakeWhile (· ≠ sep) := by
  induction s using List.reverseRecOn with
  | nil => simp
  | append_singleton s c ih =>
    rw [← List.cons_append, ← List.append_assoc, List.rtakeWhile_concat, List.rtakeWhile_concat, ih]

theorem getLast?_splitFrom {acc : List Char} (ha : sep ∉ acc) (s : List Char) :
    (splitFrom sep acc s).getLast? = some ((acc.reverse ++ s).rtakeWhile (· ≠ sep)) := by
  induction s generalizing acc with
  | nil =>
    have hall : acc.reverse.rtakeWhile (· ≠ sep) = acc.reverse := by
      rw [List.rtakeWhile_eq_self_iff]
      intro c hc
      simpa using fun h : c = sep => ha (h ▸ List.mem_reverse.mp hc)
    rw [splitFrom, List.append_nil, hall]
    rfl
  | cons c s ih =>
    rw [splitFrom]
    split
    · rename_i hc
      subst hc
      rw [rtakeWhile_append_sep, List.getLast?_cons, ih (List.not_mem_nil)]
      simp
    · rename_i hc
      rw [ih (by simpa [ha] using Ne.symm hc)]
      simp

end

theorem getLast?_segments (p : String) : (segments p).getLast? = some (fileText p) := by
  rw [segments, getLast?_splitFrom List.not_mem_nil]
  rfl

theorem componentOf_eq_none_iff {s : List Char} : componentOf s = none ↔ s = [] ∨ s = ['.'] := by
  rw [componentOf]
  split
  · simp [*]
  · split <;> simp [*]

theorem eq_of_componentOf_name {s x : List Char} (h : componentOf s = some (.name x)) : s = x := by
  rw [componentOf] at h
  split at h
  · cases h
  · split at h <;> cases h
    rfl

theorem componentOf_ne_root (s : List Char) : componentOf s ≠ some .root := by
  rw [componentOf]
  split
  · simp
  · split <;> simp

end Triage.Path

namespace Triage.Unpack
open Triage.Path

theorem toList_defaultOutput (p : String) :
    (defaultOutput p).toList = p.toList ++ suffix.toList := String.toList_append

theorem componentOf_append_suffix (s : List Char) :
    componentOf (s ++ suffix.toList) = some (.name (s ++ suffix.toList)) := by
  have hl : suffix.toList.length = 9 := rfl
  have hlong : 9 ≤ (s ++ suffix.toList).length := by
    rw [List.length_append]
    omega
  -- A text of nine characters or more is none of those that have a meaning of their own.
  have hne (t : List Char) (ht : t.length < 9) : s ++ suffix.toList ≠ t := by
    intro h
    rw [h] at hlong
    omega
  rw [componentOf, if_neg, if_neg (hne _ (by decide))]
  exact not_or.mpr ⟨hne _ (by decide), hne _ (by decide)⟩

theorem segments_defaultOutput (p : String) :
    ∃ init, segments p = init ++ [fileText p] ∧
      segments (defaultOutput p) = init ++ [fileText p ++ suffix.toList] ∧
      (init = [] → fileText p = p.toList) := by
  have hs : '/' ∉ suffix.toList := by decide
  obtain ⟨init, last, hp, ho, hl⟩ := splitFrom_append hs [] p.toList
  have hlast : last = fileText p := by
    have h := getLast?_segments p
    rw [segments, hp, List.getLast?_append] at h
    simpa using h
  subst hlast
  refine ⟨init, hp, ?_, fun h => by simpa using hl h⟩
  rw [segments, toList_defaultOutput, ho]

theorem isAbsolute_defaultOutput (p : String) : isAbsolute (defaultOutput p) = isAbsolute p := by
  rw [isAbsolute, isAbsolute, toList_defaultOutput]
  cases p.toList with
  | nil => rfl
  | cons c cs => rfl

/-- Only a lone `.` changes its meaning in front. -/
theorem lead_defaultOutput {p : String} (hp : p.toList ≠ ['.']) :
    lead (defaultOutput p) = lead p := by
  obtain ⟨init, hs, ho, hf⟩ := segments_defaultOutput p
  have hh : (segments (defaultOutput p)).head? = some ['.'] ↔ (segments p).head? = some ['.'] := by
    rw [hs, ho]
    cases init with
    | nil =>
      have hc := componentOf_append_suffix (fileText p)
      have hne : fileText p ++ suffix.toList ≠ ['.'] := by
        intro h
        rw [h] at hc
        cases hc
      rw [hf rfl] at hne
      simp [hf rfl, hne, hp]
    | cons d ds => simp
  rw [lead, lead, isAbsolute_defaultOutput]
  simp only [hh]

/-- The components up to the last segment stay, and the last one is a name. -/
theorem components_defaultOutput {p : String} (hp : p.toList ≠ ['.']) :
    ∃ dir, components p = dir ++ (componentOf (fileText p)).toList ∧
      components (defaultOutput p) = dir ++ [.name (fileText p ++ suffix.toList)] := by
  obtain ⟨init, hs, ho, -⟩ := segments_defaultOutput p
  refine ⟨lead p ++ init.filterMap componentOf, ?_, ?_⟩
  · rw [components_eq, hs, List.filterMap_append, List.append_assoc]
    cases h : componentOf (fileText p) <;> simp [h]
  · rw [components_eq, lead_defaultOutput hp, ho, List.filterMap_append, List.append_assoc]
    simp [componentOf_append_suffix]

theorem components_defaultOutput_ne (p : String) :
    components (defaultOutput p) ≠ components p := by
  by_cases hp : p.toList = ['.']
  · have hdot : p = "." := String.toList_inj.mp hp
    rw [hdot]
    decide
  · obtain ⟨dir, hc, ho⟩ := components_defaultOutput hp
    rw [hc, ho]
    intro h
    have hname := Option.toList_eq_singleton_iff.mp (List.append_cancel_left h).symm
    have hself := List.self_eq_append_right.mp (eq_of_componentOf_name hname)
    exact absurd hself (by decide)

theorem parent?_defaultOutput {p : String} (he : fileText p ≠ []) (hd : fileText p ≠ ['.']) :
    parent? (defaultOutput p) = parent? p ∧ (parent? p).isSome = true := by
  have hp : p.toList ≠ ['.'] := by
    intro h
    rw [fileText, h] at hd
    exact hd (by decide)
  obtain ⟨dir, hc, ho⟩ := components_defaultOutput hp
  obtain ⟨c, hcomp⟩ : ∃ c, componentOf (fileText p) = some c := by
    rw [← Option.ne_none_iff_exists', Ne, componentOf_eq_none_iff, not_or]
    exact ⟨he, hd⟩
  have hroot : c ≠ .root := by
    intro h
    exact componentOf_ne_root (fileText p) (h ▸ hcomp)
  rw [hcomp, Option.toList_some] at hc
  simp [parent?, hc, ho, hroot, Option.filter]

/-- The place is another path than the input, different inputs have different places, and a place is in
the directory of its input whenever the text of the input ends in a name or in `..`. -/
theorem defaultOutput_beside_input (p q : String) :
    components (defaultOutput p) ≠ components p ∧
    (defaultOutput p = defaultOutput q ↔ p = q) ∧
    (fileText p ≠ [] ∧ fileText p ≠ ['.'] →
      parent? (defaultOutput p) = parent? p ∧ (parent? p).isSome = true) := by
  refine ⟨components_defaultOutput_ne p, ?_, fun h => parent?_defaultOutput h.1 h.2⟩
  constructor
  · intro h
    have ht := congrArg String.toList h
    rw [toList_defaultOutput, toList_defaultOutput] at ht
    exact String.toList_inj.mp (List.append_cancel_right ht)
  · intro h
    rw [h]

/-- A doubled separator, and a last segment that leads up. -/
theorem defaultOutput_beside_input_up :
    (fileText "./a//.." ≠ [] ∧ fileText "./a//.." ≠ ['.']) ∧
    parent? (defaultOutput "./a//..") = some [.current, .name ['a']] := by
  have hf : fileText "./a//.." ≠ [] ∧ fileText "./a//.." ≠ ['.'] := by decide
  have hp : parent? "./a//.." = some [.current, .name ['a']] := by decide
  exact ⟨hf, ((defaultOutput_beside_input "./a//.." "").2.2 hf).1.trans hp⟩

end Triage.Unpack
