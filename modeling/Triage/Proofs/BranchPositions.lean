import Mathlib.Algebra.BigOperators.Ring.Finset
import Mathlib.Order.Interval.Finset.Nat
import Triage.Obfuscation
import Triage.Proofs.HitsApart

/-! Needles of which no two hits share a byte. Counting from the left then misses nothing, the counts
of several needles add up to a number of places, and the places need room. The codes of the calls
and jumps through a register are such needles. -/
namespace Triage
namespace Bytes
variable {needle hay p q : Bytes} {needles : List Bytes} {n i j : Nat}

/-- Different needles of one length, none of which goes on as another one, or it itself, begins. -/
structure NoOverlap (n : Nat) (needles : List Bytes) : Prop where
  pos : 0 < n
  nodup : needles.Nodup
  length_eq : ∀ p ∈ needles, p.length = n
  clear : ∀ p ∈ needles, ∀ q ∈ needles, ∀ k < n, 0 < k → p.drop k ≠ q.take (n - k)

namespace NoOverlap

theorem ne_nil (h : NoOverlap n needles) (hp : p ∈ needles) : p ≠ [] := by
  intro he
  have hl := h.length_eq p hp
  have hn := h.pos
  rw [he, List.length_nil] at hl
  omega

/-- The bytes that two hits would share are the end of one needle and the start of the other. -/
theorem apart (h : NoOverlap n needles) (hp : p ∈ needles) (hq : q ∈ needles)
    (hi : OccursAt p hay i) (hj : OccursAt q hay j) (hij : i < j) : i + n ≤ j := by
  by_contra hlt
  obtain ⟨k, rfl⟩ : ∃ k, j = i + k := ⟨j - i, by omega⟩
  have hk : p.drop k = q.take (n - k) := by
    calc
      p.drop k = ((hay.drop i).take p.length).drop k := by rw [hi.2]
      _ = (hay.drop (i + k)).take (n - k) := by
        rw [List.drop_take, List.drop_drop, h.length_eq p hp]
      _ = ((hay.drop (i + k)).take q.length).take (n - k) := by
        rw [List.take_take, h.length_eq q hq, Nat.min_eq_left (Nat.sub_le n k)]
      _ = q.take (n - k) := by rw [hj.2]
  exact h.clear p hp q hq k (by omega) (by omega) hk

theorem unique (h : NoOverlap n needles) (hp : p ∈ needles) (hq : q ∈ needles)
    (hi : OccursAt p hay i) (hj : OccursAt q hay i) : p = q := by
  rw [← hi.2, ← hj.2, h.length_eq p hp, h.length_eq q hq]

/-- What the count from the left skips holds no further hit. -/
theorem countApart_eq (h : NoOverlap n needles) (hp : p ∈ needles) (hay : Bytes) :
    countApart p hay = (offsets p hay).length := by
  have hn := h.ne_nil hp
  apply Nat.le_antisymm
  · obtain ⟨is, his, hl⟩ := exists_hitsApart p hay 0
    have hd : is.Nodup := by
      apply his.apart.imp
      intro i j hij he
      have hpos := List.length_pos_iff.mpr hn
      omega
    have hs : is ⊆ offsets p hay := fun i hi => mem_offsets.mpr ⟨hn, his.occurs i hi⟩
    rw [countApart, ← hl]
    exact (List.subperm_of_subset hd hs).length_le
  · apply length_le_countApartFrom hn
    refine ⟨fun i _ => Nat.zero_le i, ?_, fun i hi => (mem_offsets.mp hi).2⟩
    apply offsets_ascending.imp_of_mem
    intro i j hi hj hij
    rw [h.length_eq p hp]
    exact h.apart hp hp (mem_offsets.mp hi).2 (mem_offsets.mp hj).2 hij

end NoOverlap

/-- The places of all hits of the needles. -/
def places (needles : List Bytes) (hay : Bytes) : Finset Nat :=
  needles.toFinset.biUnion fun p => (offsets p hay).toFinset

theorem card_offsets (needle hay : Bytes) :
    (offsets needle hay).toFinset.card = (offsets needle hay).length :=
  List.toFinset_card_of_nodup (offsets_ascending.imp fun h => Nat.ne_of_lt h)

namespace NoOverlap

theorem mem_places (h : NoOverlap n needles) :
    i ∈ places needles hay ↔ ∃ p ∈ needles, OccursAt p hay i := by
  simp only [places, Finset.mem_biUnion, List.mem_toFinset, mem_offsets]
  constructor
  · intro ⟨p, hp, _, ho⟩
    exact ⟨p, hp, ho⟩
  · intro ⟨p, hp, ho⟩
    exact ⟨p, hp, h.ne_nil hp, ho⟩

/-- No place is counted for two needles. -/
theorem card_places (h : NoOverlap n needles) (hay : Bytes) :
    (places needles hay).card = (needles.map fun p => (offsets p hay).length).sum := by
  have hd : (needles.toFinset : Set Bytes).PairwiseDisjoint fun p => (offsets p hay).toFinset := by
    intro p hp q hq hne
    apply Finset.disjoint_left.mpr
    intro i hi hj
    rw [List.mem_toFinset, mem_offsets] at hi hj
    exact hne (h.unique (List.mem_toFinset.mp hp) (List.mem_toFinset.mp hq) hi.2 hj.2)
  rw [places, Finset.card_biUnion hd, List.sum_toFinset _ h.nodup]
  simp only [card_offsets]

theorem sum_countApart (h : NoOverlap n needles) (hay : Bytes) :
    (needles.map fun p => countApart p hay).sum = (places needles hay).card := by
  rw [h.card_places]
  congr 1
  exact List.map_congr_left fun p hp => h.countApart_eq hp hay

theorem disjoint_windows (h : NoOverlap n needles) (hp : p ∈ needles) (hq : q ∈ needles)
    (hi : OccursAt p hay i) (hj : OccursAt q hay j) (hne : i ≠ j) :
    Disjoint (Finset.Ico i (i + n)) (Finset.Ico j (j + n)) := by
  apply Finset.disjoint_left.mpr
  intro x hx hx'
  rw [Finset.mem_Ico] at hx hx'
  rcases Nat.lt_or_gt_of_ne hne with hij | hij
  · have hle := h.apart hp hq hi hj hij
    omega
  · have hle := h.apart hq hp hj hi hij
    omega

/-- Each place takes `n` bytes of the text for itself. -/
theorem mul_card_places_le (h : NoOverlap n needles) (hay : Bytes) :
    n * (places needles hay).card ≤ hay.length := by
  have hsub : (places needles hay).biUnion (fun i => Finset.Ico i (i + n)) ⊆
      Finset.range hay.length := by
    intro x hx
    obtain ⟨i, hi, hxi⟩ := Finset.mem_biUnion.mp hx
    obtain ⟨p, hp, ho⟩ := h.mem_places.mp hi
    have hle := ho.1
    rw [h.length_eq p hp] at hle
    rw [Finset.mem_Ico] at hxi
    rw [Finset.mem_range]
    omega
  have hd : (places needles hay : Set Nat).PairwiseDisjoint fun i => Finset.Ico i (i + n) := by
    intro i hi j hj hne
    obtain ⟨p, hp, ho⟩ := h.mem_places.mp hi
    obtain ⟨q, hq, ho'⟩ := h.mem_places.mp hj
    exact h.disjoint_windows hp hq ho ho' hne
  have hcard := Finset.card_le_card hsub
  rw [Finset.card_biUnion hd] at hcard
  simpa [Nat.mul_comm n] using hcard

end NoOverlap

theorem occursAt_pair (a b : UInt8) :
    OccursAt [a, b] hay i ↔ hay[i]? = some a ∧ hay[i+1]? = some b := by
  induction hay generalizing i with
  | nil => simp [OccursAt]
  | cons c rest ih =>
    cases i with
    | zero =>
      rw [occursAt_zero]
      cases rest with
      | nil => simp
      | cons d rest => simp [eq_comm]
    | succ i => rw [occursAt_succ, ih, List.getElem?_cons_succ, List.getElem?_cons_succ]

end Bytes

namespace Obfuscation
open Bytes

/-- The second byte of a call or jump through a register. -/
def branchOperands : List UInt8 := [0xD0, 0xD1, 0xE0]

/-- A call or jump through a register stands at `i`. -/
def BranchAt (data : Bytes) (i : Nat) : Prop :=
  i + 1 < data.length ∧ data[i]? = some 0xFF ∧ ∃ b ∈ branchOperands, data[i+1]? = some b

instance (data : Bytes) : DecidablePred (BranchAt data) :=
  fun i => inferInstanceAs (Decidable (i + 1 < data.length ∧ _ ∧ _))

theorem noOverlap_branchPatterns : NoOverlap 2 branchPatterns :=
  ⟨by decide, by decide, by decide, by decide⟩

theorem branchAt_iff {data : Bytes} {i : Nat} :
    BranchAt data i ↔ ∃ p ∈ branchPatterns, OccursAt p data i := by
  have hp : branchPatterns = branchOperands.map fun b => [0xFF, b] := rfl
  rw [hp]
  constructor
  · intro ⟨_, ha, b, hb, h⟩
    exact ⟨_, List.mem_map_of_mem hb, (occursAt_pair 0xFF b).mpr ⟨ha, h⟩⟩
  · intro ⟨p, hm, ho⟩
    obtain ⟨b, hb, rfl⟩ := List.mem_map.mp hm
    obtain ⟨ha, h⟩ := (occursAt_pair 0xFF b).mp ho
    obtain ⟨hl, _⟩ := List.getElem?_eq_some_iff.mp h
    exact ⟨hl, ha, b, hb, h⟩

theorem branchCount_eq_card (data : Bytes) :
    branchCount data = (places branchPatterns data).card := by
  rw [← noOverlap_branchPatterns.sum_countApart, branchCount, List.sum_eq_foldl, List.foldl_map]

/-- The three counts from the left add up to the number of places of a branch, which the lists of
all hits give as well, and a branch takes two bytes. -/
theorem branchCount_counts_places (data : Bytes) :
    branchCount data = ((Finset.range data.length).filter (BranchAt data)).card ∧
    branchCount data = (branchPatterns.map fun p => (offsets p data).length).sum ∧
    2 * branchCount data ≤ data.length := by
  have hs : places branchPatterns data = (Finset.range data.length).filter (BranchAt data) := by
    ext i
    rw [noOverlap_branchPatterns.mem_places, Finset.mem_filter, Finset.mem_range, ← branchAt_iff]
    constructor
    · intro h
      exact ⟨Nat.lt_of_succ_lt h.1, h⟩
    · intro h
      exact h.2
  refine ⟨?_, ?_, ?_⟩
  · rw [branchCount_eq_card, hs]
  · rw [branchCount_eq_card, noOverlap_branchPatterns.card_places]
  · rw [branchCount_eq_card]
    exact noOverlap_branchPatterns.mul_card_places_le data

end Obfuscation
end Triage
