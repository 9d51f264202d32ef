import Triage.Bytes

/-! Numbers as they are read from their digits, and what is read from printed ones. The reading is
plain place value, and knows nothing of the printers and of the other readers. -/
namespace Triage.Numeral

/-- The value of a decimal digit or of a letter from `a` to `f`. -/
def digit? (c : Char) : Option Nat :=
  if '0' ≤ c ∧ c ≤ '9' then some (c.toNat - 48)
  else if 'a' ≤ c ∧ c ≤ 'f' then some (c.toNat - 87)
  else none

/-- One more digit behind a number. -/
def next? (base n : Nat) (c : Char) : Option Nat :=
  ((digit? c).filter (· < base)).map (n * base + ·)

/-- The number that digits stand for, zero if there are none. -/
def value? (base : Nat) (ds : List Char) : Option Nat := ds.foldlM (next? base) 0

/-- The number that a text of at least one digit stands for. -/
def read? (base : Nat) (ds : List Char) : Option Nat :=
  if ds.isEmpty then none else value? base ds

theorem read?_of_ne_nil {base : Nat} {ds : List Char} (h : ds ≠ []) :
    read? base ds = value? base ds := by
  simp [read?, h]

theorem value?_append_single (base : Nat) (ds : List Char) (c : Char) :
    value? base (ds ++ [c]) = (value? base ds).bind fun n => next? base n c := by
  simp [value?, List.foldlM_append]

theorem digit?_digitChar : ∀ n < 16, digit? (Nat.digitChar n) = some n := by decide

theorem next?_digitChar {base d : Nat} (hb : base ≤ 16) (hd : d < base) (n : Nat) :
    next? base n (Nat.digitChar d) = some (n * base + d) := by
  simp [next?, digit?_digitChar d (by omega), hd]

theorem value?_append_digitChar {base d : Nat} (hb : base ≤ 16) (hd : d < base) {ds : List Char}
    {n : Nat} (h : value? base ds = some n) :
    value? base (ds ++ [Nat.digitChar d]) = some (n * base + d) := by
  rw [value?_append_single, h, Option.bind_some, next?_digitChar hb hd]

theorem value?_toDigits {base : Nat} (h1 : 1 < base) (hb : base ≤ 16) (n : Nat) :
    value? base (Nat.toDigits base n) = some n := by
  induction n using Nat.strongRecOn with
  | ind n ih =>
    rw [Nat.toDigits_eq_if h1]
    split
    · rename_i hn
      have h0 : value? base [] = some 0 := rfl
      simpa using value?_append_digitChar hb hn h0
    · rename_i hn
      have hlt : n / base < n := Nat.div_lt_self (by omega) h1
      have hm : n % base < base := Nat.mod_lt n (by omega)
      rw [value?_append_digitChar hb hm (ih (n / base) hlt), Nat.div_add_mod']

theorem read?_toDigits {base : Nat} (h1 : 1 < base) (hb : base ≤ 16) (n : Nat) :
    read? base (Nat.toDigits base n) = some n := by
  rw [read?_of_ne_nil Nat.toDigits_ne_nil, value?_toDigits h1 hb]

/-- The hexadecimal digits with their values, the letters in both cases. -/
def hexDigits : List (Char × Nat) :=
  ['0', '1', '2', '3', '4', '5', '6', '7', '8', '9', 'a', 'b', 'c', 'd', 'e', 'f'].zipIdx ++
    ['A', 'B', 'C', 'D', 'E', 'F'].zipIdx 10

/-- The character is a hexadecimal digit, and its value is `n`. -/
def HexDigit (n : Nat) (c : Char) : Prop := (c, n) ∈ hexDigits

instance (n : Nat) (c : Char) : Decidable (HexDigit n c) :=
  inferInstanceAs (Decidable ((c, n) ∈ hexDigits))

theorem HexDigit.lt {n : Nat} {c : Char} (h : HexDigit n c) : n < 16 := by
  have ht : ∀ p ∈ hexDigits, p.2 < 16 := by decide
  exact ht _ h

theorem hexDigit_of_toNat {k low high : Nat}
    (ht : ∀ n < high, low ≤ n → HexDigit n (Char.ofNat (n + k))) {c : Char}
    (hl : low + k ≤ c.toNat) (hh : c.toNat < high + k) : HexDigit (c.toNat - k) c := by
  have h := ht (c.toNat - k) (by omega) (by omega)
  rwa [Nat.sub_add_cancel (by omega), Char.ofNat_toNat] at h

theorem toNat_of_isDigit {c : Char} (hc : c.isDigit = true) : 48 ≤ c.toNat ∧ c.toNat ≤ 57 := by
  simp only [Char.isDigit, Bool.and_eq_true, decide_eq_true_iff, ge_iff_le,
    UInt32.le_iff_toNat_le] at hc
  exact hc

theorem hexValue?_eq_some_iff {c : Char} {n : Nat} :
    Bytes.hexValue? c = some n ↔ HexDigit n c := by
  constructor
  · intro h
    -- the digits lie in three blocks of code points, each with the values in order
    have hd : ∀ n < 10, 0 ≤ n → HexDigit n (Char.ofNat (n + 48)) := by decide
    have hl : ∀ n < 16, 10 ≤ n → HexDigit n (Char.ofNat (n + 87)) := by decide
    have hu : ∀ n < 16, 10 ≤ n → HexDigit n (Char.ofNat (n + 55)) := by decide
    unfold Bytes.hexValue? at h
    split at h
    · rename_i hc
      obtain rfl := Option.some.inj h
      obtain ⟨h48, h57⟩ := toNat_of_isDigit hc
      exact hexDigit_of_toNat hd h48 (Nat.lt_succ_of_le h57)
    · split at h
      · rename_i hc
        obtain rfl := Option.some.inj h
        exact hexDigit_of_toNat hl hc.1 (Nat.lt_succ_of_le hc.2)
      · split at h
        · rename_i hc
          obtain rfl := Option.some.inj h
          exact hexDigit_of_toNat hu hc.1 (Nat.lt_succ_of_le hc.2)
        · cases h
  · intro h
    have ht : ∀ p ∈ hexDigits, Bytes.hexValue? p.1 = some p.2 := by decide
    exact ht _ h

end Triage.Numeral
