import Triage.AntiDebug
import Triage.Image
import Triage.Proofs.Occurrence

/-! The traces of a debugger check against plain occurrence. The names are looked for all at once, and
hits of one may lie inside those of another or come in any number; the other marks are looked for
one after the other, and packers by their category. -/
namespace Triage

namespace Bytes
variable {n : Nat} {needles : List Bytes}

theorem getElem_markAll (seen : Vector Bool n) (hits : List (Fin n)) (k : Fin n) :
    (markAll seen hits)[k.1] = (seen[k.1] || hits.contains k) := by
  induction hits generalizing seen with
  | nil => simp [markAll]
  | cons j hits ih =>
    have hstep : markAll seen (j :: hits) = markAll (seen.set j.1 true j.2) hits := rfl
    rw [hstep, ih, List.contains_cons]
    by_cases hj : j = k
    · subst hj
      simp
    · have hv : j.1 ≠ k.1 := fun he => hj (Fin.ext he)
      have hb : (k == j) = false := beq_false_of_ne (Ne.symm hj)
      simp [hv, hb]

theorem contains_frontHits (needles : List Bytes) (text : Bytes) (k : Fin needles.length) :
    (frontHits needles text).contains k = (needles.get k).isPrefixOf text := by
  rw [Bool.eq_iff_iff]
  simp [frontHits]

/-- A mark once made stays, so at the end each needle is marked that was met anywhere. -/
theorem getElem_seenIn (seen : Vector Bool needles.length) (text : Bytes)
    (k : Fin needles.length) :
    (seenIn needles seen text)[k.1] = (seen[k.1] || occursIn (needles.get k) text) := by
  induction text generalizing seen with
  | nil =>
    rw [seenIn, getElem_markAll, contains_frontHits, occursIn]
    cases needles.get k <;> rfl
  | cons b rest ih =>
    rw [seenIn, ih, getElem_markAll, contains_frontHits, occursIn, Bool.or_assoc]

theorem toList_seenIn (needles : List Bytes) (text : Bytes) :
    (seenIn needles (Vector.replicate _ false) text).toList =
      needles.map fun p => occursIn p text := by
  apply List.ext_getElem
  · simp
  · intro k hk hk'
    have hg := getElem_seenIn (Vector.replicate _ false) text ⟨k, by simpa using hk⟩
    simpa using hg

end Bytes

namespace AntiDebug
variable {r : Registry} {data : Bytes}

theorem map_filter_zip_map {α : Type} (names : List α) (f : α → Bool) :
    ((names.zip (names.map f)).filter fun e => e.2).map (fun e => e.1) = names.filter f := by
  induction names with
  | nil => rfl
  | cons n names ih => cases hf : f n <;> simp [hf, ih]

theorem apisIn_eq_filter (data : Bytes) :
    apisIn data = apiNames.filter fun n => Bytes.occursIn (Bytes.ofAscii n) data := by
  rw [apisIn, Bytes.toList_seenIn, List.map_map]
  exact map_filter_zip_map apiNames _

theorem mem_apisIn {n : String} :
    n ∈ apisIn data ↔ n ∈ apiNames ∧ Bytes.occursIn (Bytes.ofAscii n) data = true := by
  rw [apisIn_eq_filter, List.mem_filter]

end AntiDebug
end Triage
