import Mathlib.Data.List.Perm.Subperm
import Mathlib.Logic.Function.Iterate
import Triage.Bytes.Scan

/-! The rounds of a search against plain occurrence. Before each round the hits so far are exactly the
occurrences in front of its start, so the last round leaves none out. Only what a finder has to
answer is used, not how it looks. -/
namespace Triage.Bytes
variable {needle hay : Bytes}

theorem occursAt_nil_iff (i : Nat) : OccursAt [] hay i ↔ i ≤ hay.length := by
  simp [OccursAt]

theorem occursAt_cons_iff (b : UInt8) (i : Nat) :
    OccursAt (b :: needle) hay i ↔ hay[i]? = some b ∧ OccursAt needle hay (i + 1) := by
  by_cases hi : i < hay.length
  · have hd : hay.drop i = hay[i] :: hay.drop (i + 1) := List.drop_eq_getElem_cons hi
    have hl : i + (needle.length + 1) ≤ hay.length ↔ i + 1 + needle.length ≤ hay.length := by omega
    simp only [OccursAt, hd, List.length_cons, List.take_succ_cons, List.cons.injEq, hl,
      List.getElem?_eq_getElem hi, Option.some.injEq]
    exact and_left_comm
  · have hn : hay[i]? = none := List.getElem?_eq_none (by omega)
    simp only [OccursAt, hn, List.length_cons]
    constructor
    · intro h
      omega
    · intro h
      cases h.1

theorem occursAt_part {n : Nat} (hn : n ≤ hay.length) (i : Nat) :
    OccursAt needle (hay.toArray[n...*]).toList i ↔ OccursAt needle hay (n + i) := by
  have hp : (hay.toArray[n...*]).toList = hay.drop n := by simp
  have hl : i + needle.length ≤ hay.length - n ↔ n + i + needle.length ≤ hay.length := by omega
  simp only [hp, OccursAt, List.length_drop, List.drop_drop, hl]

theorem standsAt_iff (part : Subarray UInt8) (needle : Bytes) (i : Nat) :
    standsAt part needle i = true ↔ OccursAt needle part.toList i := by
  induction needle generalizing i with
  | nil => simp [standsAt, occursAt_nil_iff]
  | cons b needle ih =>
    rw [standsAt, occursAt_cons_iff]
    by_cases hi : i < part.size
    · have hl : i < part.toList.length := by simpa using hi
      rw [dif_pos hi, Bool.and_eq_true, ih, List.getElem?_eq_getElem hl,
        Subarray.getElem_eq_getElem_toList]
      simp
    · simp [hi]

/-- A finder answers with the first occurrence in the part that it is given. -/
def FindsFirst (needle : Bytes) (find : Scan.Finder) : Prop :=
  ∀ part i, find part = some i ↔
    OccursAt needle part.toList i ∧ ∀ j < i, ¬ OccursAt needle part.toList j

theorem FindsFirst.not_occursAt {find : Scan.Finder} (hf : FindsFirst needle find)
    {part : Subarray UInt8} (h : find part = none) (i : Nat) : ¬ OccursAt needle part.toList i := by
  induction i using Nat.strongRecOn with
  | ind i ih =>
    intro ho
    have hs := (hf part i).mpr ⟨ho, ih⟩
    rw [h] at hs
    cases hs

/-- From `i` on, given that nothing stands before `i`. -/
theorem firstFrom_eq_some_iff {part : Subarray UInt8} {i : Nat}
    (hi : ∀ j < i, ¬ OccursAt needle part.toList j) (k : Nat) :
    firstFrom needle part i = some k ↔
      OccursAt needle part.toList k ∧ ∀ j < k, ¬ OccursAt needle part.toList j := by
  fun_induction firstFrom needle part i with
  | case1 i hle hs =>
    have ho := (standsAt_iff part needle i).mp hs
    constructor
    · intro h
      cases h
      exact ⟨ho, hi⟩
    · intro hk
      have hki : ¬ k < i := fun h => hi k h hk.1
      have hik : ¬ i < k := fun h => hk.2 i h ho
      rw [show i = k by omega]
  | case2 i hle hs ih =>
    apply ih
    intro j hj ho
    rcases Nat.lt_or_eq_of_le (Nat.le_of_lt_succ hj) with hlt | rfl
    · exact hi j hlt ho
    · exact hs ((standsAt_iff part needle j).mpr ho)
  | case3 i hle =>
    simp only [reduceCtorEq, false_iff, not_and]
    intro hk
    have hlen := hk.1
    rw [Subarray.length_toList] at hlen
    exact absurd hk (hi k (by omega))

theorem findsFirst_firstFrom (needle : Bytes) :
    FindsFirst needle fun part => firstFrom needle part 0 := fun _ k =>
  firstFrom_eq_some_iff (fun _ h => absurd h (Nat.not_lt_zero _)) k

namespace Scan
variable {find : Finder}

theorem of_done {hay : Array UInt8} {s : Scan} {found : Array Nat}
    (h : s.round find hay = .done found) :
    found = s.found ∧ (s.start ≤ hay.size → find hay[s.start...*] = none) := by
  obtain ⟨hs, hr⟩ | ⟨-, hf, hr⟩ | ⟨-, i, -, hr⟩ := round_cases find hay s <;>
    cases h.symm.trans hr
  · exact ⟨rfl, fun hle => absurd hle (by omega)⟩
  · exact ⟨rfl, fun _ => hf⟩

/-- The hits so far are the occurrences in front of the start, which may have come to the end. -/
structure Covers (needle hay : Bytes) (s : Scan) : Prop where
  start_le : s.start ≤ hay.length
  ascending : s.found.toList.Pairwise (· < ·)
  mem_iff : ∀ i, i ∈ s.found.toList ↔ i < s.start ∧ OccursAt needle hay i

theorem covers_start (needle hay : Bytes) : Covers needle hay fresh where
  start_le := Nat.zero_le _
  ascending := List.Pairwise.nil
  mem_iff i := by simp [fresh]

/-- The first hit from the start on is the only occurrence that the start passes. -/
theorem Covers.hit (hn : needle ≠ []) (hf : FindsFirst needle find) {s t : Scan}
    (hc : s.Covers needle hay) (hr : s.round find hay.toArray = .hit t) : t.Covers needle hay := by
  obtain ⟨-, i, hi, rfl⟩ := of_hit find hay.toArray hr
  obtain ⟨ho, hb⟩ := (hf _ i).mp hi
  rw [occursAt_part hc.start_le] at ho
  have hbefore : ∀ j, s.start ≤ j → j < s.start + i → ¬ OccursAt needle hay j := by
    intro j hj hlt hoj
    apply hb (j - s.start) (by omega)
    rwa [occursAt_part hc.start_le, Nat.add_sub_cancel' hj]
  have hlen := List.length_pos_iff.mpr hn
  have hend := ho.1
  refine ⟨?_, ?_, ?_⟩
  · show s.start + i + 1 ≤ hay.length
    omega
  · rw [Array.toList_push, List.pairwise_append]
    refine ⟨hc.ascending, List.pairwise_singleton _ _, ?_⟩
    intro j hj k hk
    rw [List.mem_singleton] at hk
    have := ((hc.mem_iff j).mp hj).1
    omega
  · intro j
    show j ∈ (s.found.push (s.start + i)).toList ↔ j < s.start + i + 1 ∧ OccursAt needle hay j
    rw [Array.toList_push, List.mem_append, List.mem_singleton, hc.mem_iff]
    constructor
    · intro h
      rcases h with ⟨hj, hoj⟩ | rfl
      · exact ⟨by omega, hoj⟩
      · exact ⟨Nat.lt_succ_self _, ho⟩
    · intro h
      obtain ⟨hj, hoj⟩ := h
      by_cases hs : j < s.start
      · exact Or.inl ⟨hs, hoj⟩
      · have hlt : ¬ j < s.start + i := fun h => hbefore j (by omega) h hoj
        exact Or.inr (by omega)

/-- Behind the start of the last round there is no occurrence. -/
theorem Covers.done (hf : FindsFirst needle find) {s : Scan} {found : Array Nat}
    (hc : s.Covers needle hay) (hr : s.round find hay.toArray = .done found) :
    found = s.found ∧ ∀ i, OccursAt needle hay i → i < s.start := by
  obtain ⟨rfl, hnone⟩ := of_done hr
  refine ⟨rfl, ?_⟩
  intro i ho
  by_contra hi
  apply hf.not_occursAt (hnone (by simpa using hc.start_le)) (i - s.start)
  rwa [occursAt_part hc.start_le, Nat.add_sub_cancel' (by omega)]

/-- All occurrences, each once and in ascending order. -/
structure Lists (needle hay : Bytes) (found : List Nat) : Prop where
  ascending : found.Pairwise (· < ·)
  mem_iff : ∀ i, i ∈ found ↔ OccursAt needle hay i

theorem Covers.run (hn : needle ≠ []) (hf : FindsFirst needle find) {s : Scan} {found : Array Nat}
    (hc : s.Covers needle hay) (h : s.run find hay.toArray = some found) :
    Lists needle hay found.toList := by
  fun_induction Scan.run find hay.toArray s with
  | case1 s next hr ih => exact ih (hc.hit hn hf hr) h
  | case2 s last hr =>
    cases h
    obtain ⟨rfl, hbehind⟩ := hc.done hf hr
    refine ⟨hc.ascending, ?_⟩
    intro i
    rw [hc.mem_iff]
    exact ⟨And.right, fun ho => ⟨hbehind i ho, ho⟩⟩
  | case3 s hr => cases h

theorem Lists.nodup {found : List Nat} (h : Lists needle hay found) : found.Nodup :=
  h.ascending.imp Nat.ne_of_lt

theorem Lists.length_le (hn : needle ≠ []) {found : List Nat} (h : Lists needle hay found) :
    found.length ≤ hay.length := by
  have hs : found ⊆ List.range hay.length := by
    intro i hi
    have hlen := List.length_pos_iff.mpr hn
    have hend := ((h.mem_iff i).mp hi).1
    exact List.mem_range.mpr (by omega)
  simpa using (List.subperm_of_subset h.nodup hs).length_le

theorem Lists.unique {xs ys : List Nat} (hx : Lists needle hay xs) (hy : Lists needle hay ys) :
    xs = ys := by
  have hm (i : Nat) : i ∈ xs ↔ i ∈ ys := (hx.mem_iff i).trans (hy.mem_iff i).symm
  have hp : xs.Perm ys := (List.perm_ext_iff_of_nodup hx.nodup hy.nodup).mpr hm
  exact hp.eq_of_pairwise (fun a b _ _ hab hba => absurd hba (Nat.lt_asymm hab)) hx.ascending
    hy.ascending

theorem offsets_nil (find : Finder) (hay : Bytes) : offsets find [] hay = [] := rfl

theorem run_eq_some_offsets (find : Finder) (hn : needle ≠ []) (hay : Bytes) :
    fresh.run find hay.toArray = some (offsets find needle hay).toArray := by
  have he : ¬ needle.isEmpty = true := by simpa using hn
  simp [offsets, he]

theorem lists_offsets (hn : needle ≠ []) (hf : FindsFirst needle find) :
    Lists needle hay (offsets find needle hay) :=
  (covers_start needle hay).run hn hf (run_eq_some_offsets find hn hay)

/-- The round after a hit. A search that has come to an end stays there. -/
def Round.next (find : Finder) (hay : Array UInt8) : Round → Round
  | .hit s => s.round find hay
  | .done found => .done found
  | .outside => .outside

theorem iterate_next_ne_outside (find : Finder) (hay : Array UInt8) (n : Nat) (s : Scan) :
    (Round.next find hay)^[n] (.hit s) ≠ .outside := by
  suffices h : ∀ r : Round, r ≠ .outside → (Round.next find hay)^[n] r ≠ .outside from
    h (.hit s) (by simp)
  induction n with
  | zero => exact fun r hr => hr
  | succ n ih =>
    intro r hr
    rw [Function.iterate_succ_apply]
    cases r with
    | hit s => exact ih _ (s.round_ne_outside find hay)
    | done found => exact ih _ (by simp [Round.next])
    | outside => exact absurd rfl hr

/-- There is one round for each hit and one that finds no more. -/
theorem iterate_next_of_run {hay : Array UInt8} {s : Scan} {found : Array Nat}
    (h : s.run find hay = some found) :
    ∃ n, found.size = s.found.size + n ∧ (Round.next find hay)^[n + 1] (.hit s) = .done found := by
  fun_induction Scan.run find hay s with
  | case1 s next hr ih =>
    obtain ⟨n, hn, hd⟩ := ih h
    obtain ⟨-, i, -, rfl⟩ := of_hit find hay hr
    rw [Array.size_push] at hn
    refine ⟨n + 1, by omega, ?_⟩
    rw [Function.iterate_succ_apply, Round.next, hr]
    exact hd
  | case2 s last hr =>
    cases h
    obtain ⟨rfl, -⟩ := of_done hr
    exact ⟨0, rfl, hr⟩
  | case3 s hr => cases h

theorem iterate_next_offsets (find : Finder) (hn : needle ≠ []) (hay : Bytes) :
    (Round.next find hay.toArray)^[(offsets find needle hay).length + 1] (.hit fresh) =
      .done (offsets find needle hay).toArray := by
  obtain ⟨n, hsize, hd⟩ := iterate_next_of_run (run_eq_some_offsets find hn hay)
  have hlen : (offsets find needle hay).length = n := by simpa [fresh] using hsize
  rw [hlen]
  exact hd

/-- No round asks for text from behind the end, and there is one round more than there are hits. These
are listed in ascending order, each occurrence once; an empty needle has none. The finder does not
matter as long as it finds the first occurrence. -/
theorem rounds_list_occurrences (needle hay : Bytes) (find : Finder)
    (hf : FindsFirst needle find) :
    let found := offsets find needle hay
    let after (n : Nat) := (Round.next find hay.toArray)^[n] (.hit fresh)
    (∀ n, after n ≠ .outside) ∧
    (needle ≠ [] → after (found.length + 1) = .done found.toArray ∧ found.length ≤ hay.length) ∧
    found.Pairwise (· < ·) ∧
    (∀ i, i ∈ found ↔ needle ≠ [] ∧ i + needle.length ≤ hay.length ∧
      (hay.drop i).take needle.length = needle) ∧
    Bytes.offsets needle hay = found := by
  intro found after
  refine ⟨fun n => iterate_next_ne_outside find hay.toArray n _, ?_⟩
  by_cases hn : needle = []
  · subst hn
    have hfound : found = [] := offsets_nil find hay
    rw [hfound]
    exact ⟨fun h => absurd rfl h, List.Pairwise.nil, by simp, offsets_nil _ hay⟩
  · have hl : Lists needle hay found := lists_offsets hn hf
    refine ⟨fun _ => ⟨iterate_next_offsets find hn hay, hl.length_le hn⟩, hl.ascending, ?_, ?_⟩
    · intro i
      rw [hl.mem_iff]
      exact ⟨fun h => ⟨hn, h⟩, And.right⟩
    · exact (lists_offsets hn (findsFirst_firstFrom needle)).unique hl

/-- Two hits that overlap, and one that ends where the text ends: four rounds. -/
theorem rounds_list_occurrences_overlapping :
    let needle : Bytes := [7, 7]
    let hay : Bytes := [7, 7, 7, 1, 7, 7]
    let find : Finder := fun part => firstFrom needle part 0
    FindsFirst needle find ∧ offsets find needle hay = [0, 1, 4] ∧
    (Round.next find hay.toArray)^[4] (.hit fresh) = .done #[0, 1, 4] := by
  intro needle hay find
  have hf : FindsFirst needle find := findsFirst_firstFrom needle
  have ho : offsets find needle hay = [0, 1, 4] := by decide +kernel
  have hr := (rounds_list_occurrences needle hay find hf).2.1 (by decide)
  rw [ho] at hr
  exact ⟨hf, ho, hr.1⟩

end Scan
end Triage.Bytes
