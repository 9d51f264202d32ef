import Triage.Signature
import Triage.Proofs.ScanRounds

/-! Searches against plain occurrence: which offsets a search lists, in which order, and when the
search for a mere occurrence succeeds. Overlapping hits and hits at the very end are covered. -/
namespace Triage.Bytes
variable {needle hay rest : Bytes}

theorem occursAt_zero : OccursAt needle hay 0 ↔ needle <+: hay := by
  constructor
  · intro h
    rw [List.prefix_iff_eq_take]
    simpa using h.2.symm
  · intro h
    exact ⟨by simpa using h.length_le, by simpa using (List.prefix_iff_eq_take.mp h).symm⟩

theorem isPrefixOf_iff_occursAt : needle.isPrefixOf hay = true ↔ OccursAt needle hay 0 := by
  rw [List.isPrefixOf_iff_prefix, occursAt_zero]

theorem occursAt_succ (b : UInt8) (i : Nat) :
    OccursAt needle (b :: rest) (i+1) ↔ OccursAt needle rest i := by
  simp only [OccursAt, List.length_cons, List.drop_succ_cons]
  have hl : i + 1 + needle.length ≤ rest.length + 1 ↔ i + needle.length ≤ rest.length := by omega
  rw [hl]

theorem not_occursAt_nil (hn : needle ≠ []) (i : Nat) : ¬ OccursAt needle [] i := by
  intro h
  have hl := h.1
  have hp := List.length_pos_iff.mpr hn
  simp only [List.length_nil] at hl
  omega

/-- The hits found in one walk over the text, whose first byte has offset `i`. -/
def hitsFrom (needle : Bytes) : Nat → Bytes → List Nat
  | _, [] => []
  | i, b :: rest =>
    if needle.isPrefixOf (b :: rest) then i :: hitsFrom needle (i + 1) rest
    else hitsFrom needle (i + 1) rest

theorem le_of_mem_hitsFrom {start j : Nat} (h : j ∈ hitsFrom needle start hay) : start ≤ j := by
  induction hay generalizing start with
  | nil => simp [hitsFrom] at h
  | cons b rest ih =>
    rw [hitsFrom] at h
    split at h
    · rcases List.mem_cons.mp h with rfl | h
      · exact Nat.le_refl _
      · exact Nat.le_of_succ_le (ih h)
    · exact Nat.le_of_succ_le (ih h)

theorem hitsFrom_ascending (start : Nat) : (hitsFrom needle start hay).Pairwise (· < ·) := by
  induction hay generalizing start with
  | nil => simp [hitsFrom]
  | cons b rest ih =>
    rw [hitsFrom]
    split
    · rw [List.pairwise_cons]
      exact ⟨fun j hj => le_of_mem_hitsFrom hj, ih (start+1)⟩
    · exact ih (start+1)

/-- The empty needle is left out: it stands at the end of the text too, where no search looks. -/
theorem mem_hitsFrom (hn : needle ≠ []) (start j : Nat) :
    j ∈ hitsFrom needle start hay ↔ ∃ i, j = start + i ∧ OccursAt needle hay i := by
  induction hay generalizing start with
  | nil => simp [hitsFrom, not_occursAt_nil hn]
  | cons b rest ih =>
    have hrest : j ∈ hitsFrom needle (start+1) rest ↔
        ∃ i, j = start + (i+1) ∧ OccursAt needle (b :: rest) (i+1) := by
      rw [ih (start+1)]
      simp only [occursAt_succ, Nat.add_assoc, Nat.add_comm 1]
    rw [hitsFrom]
    split
    · rename_i hp
      rw [List.mem_cons, hrest]
      constructor
      · rintro (rfl | ⟨i, hj, ho⟩)
        · exact ⟨0, rfl, isPrefixOf_iff_occursAt.mp hp⟩
        · exact ⟨i+1, hj, ho⟩
      · rintro ⟨i, hj, ho⟩
        cases i with
        | zero => exact Or.inl hj
        | succ i => exact Or.inr ⟨i, hj, ho⟩
    · rename_i hp
      rw [hrest]
      constructor
      · rintro ⟨i, hj, ho⟩
        exact ⟨i+1, hj, ho⟩
      · rintro ⟨i, hj, ho⟩
        cases i with
        | zero => exact absurd (isPrefixOf_iff_occursAt.mpr ho) hp
        | succ i => exact ⟨i, hj, ho⟩

theorem offsets_ascending : (offsets needle hay).Pairwise (· < ·) := by
  by_cases hn : needle = []
  · subst hn
    exact List.Pairwise.nil
  · exact (Scan.lists_offsets hn (findsFirst_firstFrom needle)).ascending

theorem mem_offsets {i : Nat} : i ∈ offsets needle hay ↔ needle ≠ [] ∧ OccursAt needle hay i := by
  by_cases hn : needle = []
  · subst hn
    simp [offsets, Scan.offsets_nil]
  · rw [offsets, (Scan.lists_offsets hn (findsFirst_firstFrom needle)).mem_iff]
    exact ⟨fun h => ⟨hn, h⟩, And.right⟩

theorem offsets_eq_hitsFrom (hn : needle ≠ []) : offsets needle hay = hitsFrom needle 0 hay := by
  refine (Scan.lists_offsets hn (findsFirst_firstFrom needle)).unique ⟨hitsFrom_ascending 0, ?_⟩
  intro i
  simp [mem_hitsFrom hn]

/-- The search for a mere occurrence finds the empty needle everywhere. -/
theorem occursIn_iff : occursIn needle hay = true ↔ ∃ i, OccursAt needle hay i := by
  induction hay with
  | nil =>
    rw [occursIn, List.isEmpty_iff]
    constructor
    · rintro rfl
      exact ⟨0, by simp [OccursAt]⟩
    · rintro ⟨i, ho⟩
      exact Decidable.byContradiction fun hn => not_occursAt_nil hn i ho
  | cons b rest ih =>
    rw [occursIn, Bool.or_eq_true, isPrefixOf_iff_occursAt, ih]
    constructor
    · rintro (h | ⟨i, ho⟩)
      · exact ⟨0, h⟩
      · exact ⟨i+1, (occursAt_succ b i).mpr ho⟩
    · rintro ⟨i, ho⟩
      cases i with
      | zero => exact Or.inl ho
      | succ i => exact Or.inr ⟨i, (occursAt_succ b i).mp ho⟩

end Triage.Bytes

namespace Triage.Signature

theorem mem_eraseReps_loop (a x : Nat) (xs acc : List Nat) :
    x ∈ List.eraseRepsBy.loop (· == ·) a xs acc ↔ x ∈ acc ∨ x = a ∨ x ∈ xs := by
  induction xs generalizing a acc with
  | nil => simp [List.eraseRepsBy.loop, or_comm]
  | cons b xs ih =>
    rw [List.eraseRepsBy.loop]
    split
    · rename_i h
      have hab : a = b := by simpa using h
      simp [ih, hab]
    · rw [ih, List.mem_cons, List.mem_cons]
      grind

theorem mem_eraseReps {x : Nat} {xs : List Nat} : x ∈ xs.eraseReps ↔ x ∈ xs := by
  cases xs with
  | nil => rfl
  | cons a xs => simp [List.eraseReps, List.eraseRepsBy, mem_eraseReps_loop]

/-- The loop keeps what it has passed in descending order, all of it below the current element. -/
theorem eraseReps_loop_ascending (a : Nat) (xs acc : List Nat) (hs : (a :: xs).Pairwise (· ≤ ·))
    (hd : acc.Pairwise (· > ·)) (hb : ∀ y ∈ acc, y < a) :
    (List.eraseRepsBy.loop (· == ·) a xs acc).Pairwise (· < ·) := by
  induction xs generalizing a acc with
  | nil =>
    rw [List.eraseRepsBy.loop, List.pairwise_reverse]
    exact List.pairwise_cons.mpr ⟨hb, hd⟩
  | cons b xs ih =>
    have hab := (List.pairwise_cons.mp hs).1 b (by simp)
    have ht := (List.pairwise_cons.mp hs).2
    rw [List.eraseRepsBy.loop]
    split
    · rename_i h
      have he : a = b := by simpa using h
      exact ih a acc (he ▸ ht) hd hb
    · rename_i h
      have hne : a ≠ b := by simpa using h
      refine ih b (a :: acc) ht (List.pairwise_cons.mpr ⟨hb, hd⟩) ?_
      intro y hy
      rcases List.mem_cons.mp hy with rfl | hy
      · omega
      · have hya := hb y hy
        omega

theorem eraseReps_ascending {xs : List Nat} (hs : xs.Pairwise (· ≤ ·)) :
    xs.eraseReps.Pairwise (· < ·) := by
  cases xs with
  | nil => exact List.Pairwise.nil
  | cons a xs => exact eraseReps_loop_ascending a xs [] hs List.Pairwise.nil (by simp)

/-- One pattern needs no sorting, since its search is ascending already. -/
theorem offsets_ascending (s : Signature) (data : Bytes) :
    (s.offsets data).Pairwise (· < ·) := by
  rw [offsets]
  split
  · exact Bytes.offsets_ascending
  · apply eraseReps_ascending
    have htrans (a b c : Nat) (hab : decide (a ≤ b) = true) (hbc : decide (b ≤ c) = true) :
        decide (a ≤ c) = true := by
      simp only [decide_eq_true_eq] at hab hbc ⊢
      exact Nat.le_trans hab hbc
    have htotal (a b : Nat) : (decide (a ≤ b) || decide (b ≤ a)) = true := by
      simpa using Nat.le_total a b
    simpa using List.pairwise_mergeSort htrans htotal
      (s.patterns.flatMap fun p => Bytes.offsets p data)

theorem mem_offsets_iff_exists (s : Signature) (data : Bytes) (i : Nat) :
    i ∈ s.offsets data ↔ ∃ p ∈ s.patterns, i ∈ Bytes.offsets p data := by
  rw [offsets]
  split
  · rename_i p h
    simp [h]
  · simp [mem_eraseReps]

theorem mem_offsets {s : Signature} (hs : [] ∉ s.patterns) (data : Bytes) (i : Nat) :
    i ∈ s.offsets data ↔ ∃ p ∈ s.patterns, Bytes.OccursAt p data i := by
  rw [mem_offsets_iff_exists]
  constructor
  · rintro ⟨p, hp, hi⟩
    exact ⟨p, hp, (Bytes.mem_offsets.mp hi).2⟩
  · rintro ⟨p, hp, ho⟩
    have hn : p ≠ [] := fun he => hs (he ▸ hp)
    exact ⟨p, hp, Bytes.mem_offsets.mpr ⟨hn, ho⟩⟩

theorem occursIn_iff (s : Signature) (data : Bytes) :
    s.occursIn data = true ↔ ∃ p ∈ s.patterns, ∃ i, Bytes.OccursAt p data i := by
  simp [occursIn, Bytes.occursIn_iff]

end Triage.Signature
