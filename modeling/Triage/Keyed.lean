/-! Lists with one element for each key, in the order in which the keys first came: what `put`, `get?` and
`erase` do to the keys, and when a list keeps one element for each of them. -/
namespace Triage.Keyed

section
variable {α κ : Type} [DecidableEq κ] (key : α → κ)

/-- Takes the place of the element with its key, or goes to the end. -/
def put (x : α) : List α → List α
  | [] => [x]
  | y :: ys => if key y = key x then x :: ys else y :: put x ys

def get? (k : κ) (xs : List α) : Option α := xs.find? fun x => key x = k

/-- The other elements keep their order. -/
def erase (k : κ) (xs : List α) : List α := xs.eraseP fun x => key x = k

end

variable {α κ : Type} [DecidableEq κ] {key : α → κ}

theorem mem_of_get? {k : κ} {xs : List α} {x : α} (h : get? key k xs = some x) : x ∈ xs :=
  List.mem_of_find?_eq_some h

theorem key_of_get? {k : κ} {xs : List α} {x : α} (h : get? key k xs = some x) : key x = k := by
  simpa using List.find?_some h

theorem get?_of_mem {xs : List α} {x : α} (hn : (xs.map key).Nodup) (hx : x ∈ xs) :
    get? key (key x) xs = some x := by
  induction xs with
  | nil => simp at hx
  | cons y ys ih =>
    rw [List.map_cons, List.nodup_cons] at hn
    rcases List.mem_cons.mp hx with rfl | hx
    · simp [get?]
    · have hne : key y ≠ key x := by
        intro he
        exact hn.1 (he ▸ List.mem_map_of_mem hx)
      have ht := ih hn.2 hx
      simpa [get?, hne] using ht

/-- A new key goes to the end, and a known one keeps its place. -/
theorem map_put (x : α) (xs : List α) : (put key x xs).map key =
    if key x ∈ xs.map key then xs.map key else xs.map key ++ [key x] := by
  induction xs with
  | nil => simp [put]
  | cons y ys ih =>
    by_cases h : key y = key x
    · simp [put, h]
    · have h' : key x ≠ key y := Ne.symm h
      simp only [put, h, if_false, List.map_cons, ih, List.mem_cons, h', false_or]
      split <;> simp

theorem mem_map_put {x : α} {xs : List α} {k : κ} :
    k ∈ (put key x xs).map key ↔ k = key x ∨ k ∈ xs.map key := by
  rw [map_put]
  split
  · rename_i h
    constructor
    · exact Or.inr
    · rintro (rfl | hk)
      · exact h
      · exact hk
  · rw [List.mem_append, List.mem_singleton, or_comm]

theorem mem_of_mem_put {x y : α} {xs : List α} (h : y ∈ put key x xs) : y = x ∨ y ∈ xs := by
  induction xs with
  | nil => simpa [put] using h
  | cons z zs ih =>
    by_cases hz : key z = key x
    · rw [put, if_pos hz, List.mem_cons] at h
      exact h.imp id (List.mem_cons_of_mem z)
    · rw [put, if_neg hz, List.mem_cons] at h
      rcases h with rfl | h
      · simp
      · exact (ih h).imp id (List.mem_cons_of_mem z)

theorem nodup_put (x : α) {xs : List α} (hn : (xs.map key).Nodup) :
    ((put key x xs).map key).Nodup := by
  rw [map_put]
  split
  · exact hn
  · rename_i h
    rw [List.nodup_append]
    refine ⟨hn, by simp, ?_⟩
    intro a ha b hb he
    rw [List.mem_singleton.mp hb] at he
    exact h (he ▸ ha)

theorem map_erase (k : κ) (xs : List α) : (erase key k xs).map key = (xs.map key).erase k := by
  induction xs with
  | nil => rfl
  | cons y ys ih =>
    by_cases h : key y = k
    · simp [erase, h]
    · have hk : (key y == k) = false := by simpa using h
      rw [erase] at ih
      simp [erase, h, hk, ih]

theorem get?_eq_none_iff {k : κ} {xs : List α} : get? key k xs = none ↔ k ∉ xs.map key := by
  simp [get?]

theorem get?_put (x : α) (k : κ) (xs : List α) :
    get? key k (put key x xs) = if key x = k then some x else get? key k xs := by
  induction xs with
  | nil => by_cases h : key x = k <;> simp [put, get?, h]
  | cons y ys ih =>
    by_cases hy : key y = key x
    · by_cases h : key x = k <;> simp [put, get?, hy, h]
    · rw [put, if_neg hy]
      by_cases hk : key y = k
      · have h : key x ≠ k := fun he => hy (hk.trans he.symm)
        simp [get?, hk, h]
      · simpa [get?, hk] using ih

theorem mem_put {x y : α} {xs : List α} (hn : (xs.map key).Nodup) :
    y ∈ put key x xs ↔ y = x ∨ y ∈ xs ∧ key y ≠ key x := by
  have hy : y ∈ put key x xs ↔ get? key (key y) (put key x xs) = some y :=
    ⟨get?_of_mem (nodup_put x hn), mem_of_get?⟩
  rw [hy, get?_put]
  split
  · rename_i h
    simp [h, eq_comm]
  · rename_i h
    have hne : y ≠ x := fun he => h (he ▸ rfl)
    have hm : get? key (key y) xs = some y ↔ y ∈ xs := ⟨mem_of_get?, get?_of_mem hn⟩
    simp [hm, hne, Ne.symm h]

theorem mem_erase {k : κ} {y : α} {xs : List α} (hn : (xs.map key).Nodup) :
    y ∈ erase key k xs ↔ y ∈ xs ∧ key y ≠ k := by
  induction xs with
  | nil => simp [erase]
  | cons z zs ih =>
    rw [List.map_cons, List.nodup_cons] at hn
    by_cases hz : key z = k
    · -- only the first element goes, and no other has its key
      have hzs : ∀ x ∈ zs, key x ≠ k := fun x hx he => hn.1 (hz ▸ he ▸ List.mem_map_of_mem hx)
      have he : erase key k (z :: zs) = zs := by simp [erase, hz]
      rw [he, List.mem_cons]
      constructor
      · exact fun hy => ⟨Or.inr hy, hzs y hy⟩
      · rintro ⟨rfl | hy, hne⟩
        · exact absurd hz hne
        · exact hy
    · have he : erase key k (z :: zs) = z :: erase key k zs := by simp [erase, hz]
      rw [he, List.mem_cons, List.mem_cons, ih hn.2]
      constructor
      · rintro (rfl | ⟨hy, hne⟩)
        · exact ⟨Or.inl rfl, hz⟩
        · exact ⟨Or.inr hy, hne⟩
      · rintro ⟨rfl | hy, hne⟩
        · exact Or.inl rfl
        · exact Or.inr ⟨hy, hne⟩

theorem nodup_erase (k : κ) {xs : List α} (hn : (xs.map key).Nodup) :
    ((erase key k xs).map key).Nodup := by
  rw [map_erase]
  exact hn.erase k

theorem get?_erase (k j : κ) {xs : List α} (hn : (xs.map key).Nodup) :
    get? key j (erase key k xs) = if k = j then none else get? key j xs := by
  split
  · rename_i h
    rw [get?_eq_none_iff, map_erase, hn.mem_erase_iff]
    exact fun hj => hj.1 h.symm
  · rename_i h
    cases hx : get? key j xs with
    | none =>
      rw [get?_eq_none_iff, map_erase]
      exact fun hj => get?_eq_none_iff.mp hx (List.mem_of_mem_erase hj)
    | some x =>
      have hk : key x = j := key_of_get? hx
      have hm : x ∈ erase key k xs := (mem_erase hn).mpr ⟨mem_of_get? hx, hk ▸ Ne.symm h⟩
      exact hk ▸ get?_of_mem (nodup_erase k hn) hm

theorem put_of_not_mem {x : α} {xs : List α} (h : key x ∉ xs.map key) :
    put key x xs = xs ++ [x] := by
  induction xs with
  | nil => rfl
  | cons y ys ih =>
    simp only [List.map_cons, List.mem_cons, not_or] at h
    rw [put, if_neg (Ne.symm h.1), ih h.2, List.cons_append]

/-- An element takes the place of the first one with its key, and everything around stays. -/
theorem put_append_cons {x y : α} {xs : List α} (hy : key y = key x) (hx : key x ∉ xs.map key)
    (ys : List α) : put key x (xs ++ y :: ys) = xs ++ x :: ys := by
  induction xs with
  | nil => simp [put, hy]
  | cons z zs ih =>
    simp only [List.map_cons, List.mem_cons, not_or] at hx
    rw [List.cons_append, put, if_neg (Ne.symm hx.1), ih hx.2, List.cons_append]

/-- Elements whose keys are new and distinct are put at the end, in their order. -/
theorem foldl_put {xs ys : List α} (hn : ((xs ++ ys).map key).Nodup) :
    ys.foldl (fun zs y => put key y zs) xs = xs ++ ys := by
  induction ys generalizing xs with
  | nil => simp
  | cons y ys ih =>
    have hput : put key y xs = xs ++ [y] := by
      apply put_of_not_mem
      rw [List.map_append, List.nodup_append] at hn
      exact fun hy => hn.2.2 _ hy _ List.mem_cons_self rfl
    rw [List.foldl_cons, hput, ih (by simpa using hn)]
    simp

end Triage.Keyed
