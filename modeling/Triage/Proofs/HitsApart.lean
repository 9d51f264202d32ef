import Triage.Proofs.Occurrence

/-! Hits that do not overlap. Taking each hit from the left as soon as it comes finds as many of
them as there can be, whether or not the needle can overlap itself. -/
namespace Triage.Bytes
variable {needle hay rest : Bytes} {k : Nat} {is : List Nat} {b : UInt8}

/-- Offsets of hits from left to right, none before `k` and each past the end of the one before. -/
structure HitsApart (needle hay : Bytes) (k : Nat) (is : List Nat) : Prop where
  start : ∀ i ∈ is, k ≤ i
  apart : is.Pairwise fun i j => i + needle.length ≤ j
  occurs : ∀ i ∈ is, OccursAt needle hay i

namespace HitsApart

theorem nil : HitsApart needle hay k [] := ⟨by simp, List.Pairwise.nil, by simp⟩

theorem tail {i : Nat} (h : HitsApart needle hay k (i :: is)) :
    HitsApart needle hay (i + needle.length) is :=
  ⟨(List.pairwise_cons.mp h.apart).1, (List.pairwise_cons.mp h.apart).2,
    fun j hj => h.occurs j (List.mem_cons_of_mem i hj)⟩

theorem cons {i : Nat} (h : HitsApart needle hay (i + needle.length) is)
    (hi : OccursAt needle hay i) (hk : k ≤ i) : HitsApart needle hay k (i :: is) := by
  refine ⟨?_, List.pairwise_cons.mpr ⟨h.start, h.apart⟩, ?_⟩
  · intro j hj
    cases hj with
    | head => exact hk
    | tail _ hj =>
      have hle := h.start j hj
      omega
  · intro j hj
    cases hj with
    | head => exact hi
    | tail _ hj => exact h.occurs j hj

theorem mono {m : Nat} (h : HitsApart needle hay k is) (hm : m ≤ k) :
    HitsApart needle hay m is :=
  ⟨fun i hi => Nat.le_trans hm (h.start i hi), h.apart, h.occurs⟩

theorem shift {hay' : Bytes} {d : Nat} (h : HitsApart needle hay k is)
    (ho : ∀ i, OccursAt needle hay i → OccursAt needle hay' (d + i)) :
    HitsApart needle hay' (d + k) (is.map (d + ·)) := by
  refine ⟨?_, ?_, ?_⟩
  · intro j hj
    obtain ⟨i, hi, rfl⟩ := List.mem_map.mp hj
    exact Nat.add_le_add_left (h.start i hi) d
  · rw [List.pairwise_map]
    apply h.apart.imp
    intro i j hij
    omega
  · intro j hj
    obtain ⟨i, hi, rfl⟩ := List.mem_map.mp hj
    exact ho i (h.occurs i hi)

theorem under_cons (b : UInt8) (h : HitsApart needle rest k is) :
    HitsApart needle (b :: rest) (1 + k) (is.map (1 + ·)) := by
  apply h.shift
  intro i hi
  rw [Nat.add_comm]
  exact (occursAt_succ b i).mpr hi

/-- Hits that leave the first byte out are hits of the rest. -/
theorem of_cons (h : HitsApart needle (b :: rest) (k + 1) is) :
    ∃ js, HitsApart needle rest k js ∧ js.length = is.length := by
  refine ⟨is.map (· - 1), ⟨?_, ?_, ?_⟩, List.length_map _⟩
  · intro j hj
    obtain ⟨i, hi, rfl⟩ := List.mem_map.mp hj
    have hle := h.start i hi
    omega
  · rw [List.pairwise_map]
    apply h.apart.imp_of_mem
    intro i j hi hj hij
    have hle := h.start i hi
    omega
  · intro j hj
    obtain ⟨i, hi, rfl⟩ := List.mem_map.mp hj
    have hle := h.start i hi
    apply (occursAt_succ b (i - 1)).mp
    rw [Nat.sub_add_cancel (by omega)]
    exact h.occurs i hi

end HitsApart

/-- No choice of hits apart is larger than the count. -/
theorem length_le_countApartFrom (hn : needle ≠ []) (h : HitsApart needle hay k is) :
    is.length ≤ countApartFrom needle k hay := by
  have hlen : 0 < needle.length := List.length_pos_iff.mpr hn
  induction hay generalizing k is with
  | nil =>
    cases is with
    | nil => simp
    | cons i is => exact absurd (h.occurs i (by simp)) (not_occursAt_nil hn i)
  | cons b rest ih =>
    cases k with
    | succ k =>
      obtain ⟨js, hjs, hl⟩ := h.of_cons
      rw [countApartFrom, ← hl]
      exact ih hjs
    | zero =>
      rw [countApartFrom]
      split
      · -- the hit here overlaps at most the first one of the choice, which it stands in for
        cases is with
        | nil => simp
        | cons i is =>
          have ht : HitsApart needle (b :: rest) (needle.length - 1 + 1) is :=
            h.tail.mono (by omega)
          obtain ⟨js, hjs, hl⟩ := ht.of_cons
          rw [List.length_cons, ← hl]
          exact Nat.succ_le_succ (ih hjs)
      · rename_i hp
        have hz : ∀ i ∈ is, 0 + 1 ≤ i := by
          intro i hi
          cases i with
          | zero => exact absurd (isPrefixOf_iff_occursAt.mpr (h.occurs 0 hi)) hp
          | succ i => omega
        obtain ⟨js, hjs, hl⟩ := HitsApart.of_cons ⟨hz, h.apart, h.occurs⟩
        rw [← hl]
        exact ih hjs

theorem exists_hitsApart (needle hay : Bytes) (k : Nat) :
    ∃ is, HitsApart needle hay k is ∧ is.length = countApartFrom needle k hay := by
  induction hay generalizing k with
  | nil => exact ⟨[], .nil, by rw [countApartFrom]; rfl⟩
  | cons b rest ih =>
    cases k with
    | succ k =>
      obtain ⟨js, hjs, hl⟩ := ih k
      exact ⟨_, (hjs.under_cons b).mono (by omega), by rw [List.length_map, hl, countApartFrom]⟩
    | zero =>
      rw [countApartFrom]
      split
      · rename_i hp
        obtain ⟨js, hjs, hl⟩ := ih (needle.length - 1)
        have ht : HitsApart needle (b :: rest) (0 + needle.length) (js.map (1 + ·)) :=
          (hjs.under_cons b).mono (by omega)
        exact ⟨_, ht.cons (isPrefixOf_iff_occursAt.mp hp) (Nat.le_refl 0), by simp [hl]⟩
      · obtain ⟨js, hjs, hl⟩ := ih 0
        exact ⟨_, (hjs.under_cons b).mono (by omega), by rw [List.length_map, hl]⟩

/-- A text in which each hit of another is found again, all at one distance, has no fewer hits. -/
theorem countApart_le_of_shift (hn : needle ≠ []) {hay' : Bytes} {d : Nat}
    (ho : ∀ i, OccursAt needle hay i → OccursAt needle hay' (d + i)) :
    countApart needle hay ≤ countApart needle hay' := by
  obtain ⟨is, his, hl⟩ := exists_hitsApart needle hay 0
  have hle := length_le_countApartFrom hn ((his.shift ho).mono d.zero_le)
  rw [List.length_map, hl] at hle
  exact hle

end Triage.Bytes
