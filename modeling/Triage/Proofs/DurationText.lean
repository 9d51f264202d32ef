import Mathlib.Algebra.Order.Field.Rat
import Mathlib.Data.List.DropRight
import Mathlib.Tactic.FieldSimp
import Mathlib.Tactic.Linarith
import Mathlib.Tactic.Positivity
import Triage.Error
import Triage.Proofs.Numeral

/-! The text of a span of time against the span: the number and the unit that are read from it make up
exactly the span, whichever unit was taken. -/
namespace Triage.Numeral

theorem value?_lastDigits (width n : Nat) :
    value? 10 (Decimal.lastDigits width n) = some (n % 10 ^ width) := by
  induction width generalizing n with
  | zero => simp [Decimal.lastDigits, value?, Nat.mod_one]
  | succ w ih =>
    have hd : n % 10 < 10 := Nat.mod_lt n (by decide)
    have hm : n % 10 ^ (w + 1) = n / 10 % 10 ^ w * 10 + n % 10 := by
      rw [Nat.pow_succ', Nat.mod_mul, Nat.mul_comm, Nat.add_comm]
    rw [Decimal.lastDigits, value?_append_digitChar (by decide) hd (ih (n / 10)), hm]

theorem length_lastDigits (width n : Nat) : (Decimal.lastDigits width n).length = width := by
  induction width generalizing n with
  | zero => rfl
  | succ w ih => simp [Decimal.lastDigits, ih]

theorem isDigit_lastDigits (width n : Nat) :
    ∀ c ∈ Decimal.lastDigits width n, c.isDigit = true := by
  induction width generalizing n with
  | zero => simp [Decimal.lastDigits]
  | succ w ih =>
    intro c hc
    rw [Decimal.lastDigits, List.mem_append, List.mem_singleton] at hc
    rcases hc with hc | rfl
    · exact ih (n / 10) c hc
    · simpa using Nat.mod_lt n (by decide)

/-- Behind a point, zeros at the end change nothing. -/
theorem value?_rdropWhile_zero {ds : List Char} {n : Nat} (h : value? 10 ds = some n) :
    ∃ m, value? 10 (ds.rdropWhile (· == '0')) = some m ∧
      (m : ℚ) / 10 ^ (ds.rdropWhile (· == '0')).length = n / 10 ^ ds.length := by
  induction ds using List.reverseRecOn generalizing n with
  | nil => exact ⟨n, h, rfl⟩
  | append_singleton ds c ih =>
    by_cases hc : c = '0'
    · subst hc
      rw [value?_append_single] at h
      obtain ⟨k, hk, hn⟩ := Option.bind_eq_some_iff.mp h
      have hnk : n = k * 10 := by
        rw [show '0' = Nat.digitChar 0 from rfl, next?_digitChar (by decide) (by decide)] at hn
        exact (Option.some.inj hn).symm
      obtain ⟨m, hm, he⟩ := ih hk
      refine ⟨m, ?_, ?_⟩
      · rwa [List.rdropWhile_concat_pos _ _ _ (by decide)]
      · rw [List.rdropWhile_concat_pos _ _ _ (by decide), he, hnk, List.length_append,
          List.length_singleton, pow_succ]
        push_cast
        field_simp
    · rw [List.rdropWhile_concat_neg _ _ _ (by simpa using hc)]
      exact ⟨n, h, rfl⟩

/-- The number that digits stand for, with more of them behind a point or not. -/
def decimal? (text : List Char) : Option ℚ :=
  match text.dropWhile (· ≠ '.') with
  | [] => (read? 10 text).map fun n => (n : ℚ)
  | _ :: frac => do
    let whole ← read? 10 (text.takeWhile (· ≠ '.'))
    let part ← read? 10 frac
    return whole + part / 10 ^ frac.length

theorem ne_point_of_mem_toDigits {n : Nat} : ∀ c ∈ Nat.toDigits 10 n, (decide (c ≠ '.')) = true := by
  intro c hc
  have hd := Nat.isDigit_of_mem_toDigits (by decide) (by decide) hc
  rw [decide_eq_true_iff]
  intro h
  rw [h] at hd
  exact absurd hd (by decide)

theorem decimal?_toDigits (n : Nat) : decimal? (Nat.toDigits 10 n) = some (n : ℚ) := by
  have hd : (Nat.toDigits 10 n).dropWhile (· ≠ '.') = [] :=
    List.dropWhile_eq_nil_iff.mpr ne_point_of_mem_toDigits
  rw [decimal?, hd, read?_toDigits (by decide) (by decide)]
  rfl

theorem decimal?_toDigits_point (n : Nat) {ds : List Char} (hne : ds ≠ []) {m : Nat}
    (hm : value? 10 ds = some m) :
    decimal? (Nat.toDigits 10 n ++ '.' :: ds) = some ((n : ℚ) + m / 10 ^ ds.length) := by
  have hd : (Nat.toDigits 10 n ++ '.' :: ds).dropWhile (· ≠ '.') = '.' :: ds := by
    rw [List.dropWhile_append_of_pos ne_point_of_mem_toDigits]
    rfl
  have ht : (Nat.toDigits 10 n ++ '.' :: ds).takeWhile (· ≠ '.') = Nat.toDigits 10 n := by
    rw [List.takeWhile_append_of_pos ne_point_of_mem_toDigits]
    simp
  rw [decimal?, hd, ht]
  simp [read?_toDigits, read?_of_ne_nil hne, hm]

end Triage.Numeral

namespace Triage.Duration

def seconds (d : Duration) : ℚ := d.secs + d.nanos / 10 ^ 9

/-- The units with their lengths in seconds. -/
def units : List (List Char × ℚ) :=
  [(['s'], 1), (['m', 's'], 1 / 10 ^ 3), (['µ', 's'], 1 / 10 ^ 6), (['n', 's'], 1 / 10 ^ 9)]

def isNumeric (c : Char) : Bool := c.isDigit || c == '.'

/-- The number at the front of a text, and the length of the unit behind it. -/
def measured? (text : List Char) : Option (ℚ × ℚ) := do
  let number ← Numeral.decimal? (text.takeWhile isNumeric)
  let length ← units.lookup (text.dropWhile isNumeric)
  return (number, length)

/-- So many units are the whole span, and no larger unit fits into it. -/
structure Measures (d : Duration) (number length : ℚ) : Prop where
  exact : number * length = d.seconds
  one_le : d.seconds ≠ 0 → 1 ≤ number
  lt_thousand : length ≠ 1 → number < 1000

theorem seconds_eq (d : Duration) : d.seconds = d.toNanos / 10 ^ 9 := by
  rw [seconds, toNanos]
  push_cast
  field_simp
  norm_num

theorem seconds_injective {d e : Duration} (h : d.seconds = e.seconds) : d = e := by
  rw [seconds_eq, seconds_eq, div_left_inj' (by norm_num), Nat.cast_inj, toNanos, toNanos] at h
  have hd := d.nanos_lt
  have he := e.nanos_lt
  cases d
  cases e
  simp only [mk.injEq]
  dsimp only at h hd he
  omega

theorem toList_decimal (whole part width : Nat) (unit : String) :
    (decimal whole part width unit).toList =
      (Nat.toDigits 10 whole ++ fraction width part) ++ unit.toList := by
  simp [decimal]

theorem fraction_eq {part : Nat} (hp : part ≠ 0) (width : Nat) :
    fraction width part = '.' :: (Decimal.lastDigits width part).rdropWhile (· == '0') := by
  rw [fraction, if_neg hp]
  rfl

theorem isNumeric_fraction (width part : Nat) : ∀ c ∈ fraction width part, isNumeric c = true := by
  intro c hc
  by_cases hp : part = 0
  · simp [fraction, hp] at hc
  · rw [fraction_eq hp] at hc
    rcases List.mem_cons.mp hc with rfl | hc
    · rfl
    · have hd := Numeral.isDigit_lastDigits width part c ((List.rdropWhile_prefix _ _).mem hc)
      simp [isNumeric, hd]

/-- The digits behind the point are those of a part of one. -/
theorem decimal?_fraction (whole : Nat) {width part : Nat} (hp : part < 10 ^ width) :
    Numeral.decimal? (Nat.toDigits 10 whole ++ fraction width part) =
      some ((whole : ℚ) + part / 10 ^ width) := by
  by_cases h0 : part = 0
  · simp [h0, fraction, Numeral.decimal?_toDigits]
  · have hv := Numeral.value?_lastDigits width part
    rw [Nat.mod_eq_of_lt hp] at hv
    obtain ⟨m, hm, he⟩ := Numeral.value?_rdropWhile_zero hv
    rw [Numeral.length_lastDigits] at he
    have hne : (Decimal.lastDigits width part).rdropWhile (· == '0') ≠ [] := by
      intro hnil
      rw [hnil] at hm he
      cases hm
      have hzero : (part : ℚ) / 10 ^ width = 0 := by simpa using he.symm
      rw [div_eq_zero_iff] at hzero
      simp [h0] at hzero
    rw [fraction_eq h0, Numeral.decimal?_toDigits_point whole hne hm, he]

theorem measured?_decimal (whole : Nat) {width part : Nat} (hp : part < 10 ^ width) {unit : String}
    {length : ℚ} (hu : units.lookup unit.toList = some length)
    (hh : unit.toList.takeWhile isNumeric = []) :
    measured? (decimal whole part width unit).toList =
      some ((whole : ℚ) + part / 10 ^ width, length) := by
  have hn : ∀ c ∈ Nat.toDigits 10 whole ++ fraction width part, isNumeric c = true := by
    intro c hc
    rcases List.mem_append.mp hc with hc | hc
    · simp [isNumeric, Nat.isDigit_of_mem_toDigits (by decide) (by decide) hc]
    · exact isNumeric_fraction width part c hc
  have hd : unit.toList.dropWhile isNumeric = unit.toList := by
    have h := List.takeWhile_append_dropWhile (p := isNumeric) (l := unit.toList)
    rwa [hh, List.nil_append] at h
  rw [measured?, toList_decimal, List.takeWhile_append_of_pos hn, List.dropWhile_append_of_pos hn,
    hh, hd, List.append_nil, decimal?_fraction whole hp, hu]
  rfl

/-- The whole part and the rest, put together again. -/
theorem div_add_mod_div (n width : Nat) :
    ((n / 10 ^ width : Nat) : ℚ) + ((n % 10 ^ width : Nat) : ℚ) / 10 ^ width = n / 10 ^ width := by
  have h : ((n / 10 ^ width * 10 ^ width + n % 10 ^ width : Nat) : ℚ) = n := by
    rw [Nat.div_add_mod']
  rw [Nat.cast_add, Nat.cast_mul, Nat.cast_pow] at h
  field_simp
  exact h

theorem measured?_nanos (n width : Nat) {unit : String} {length : ℚ}
    (hu : units.lookup unit.toList = some length) (hh : unit.toList.takeWhile isNumeric = []) :
    measured? (decimal (n / 10 ^ width) (n % 10 ^ width) width unit).toList =
      some ((n : ℚ) / 10 ^ width, length) := by
  have hp : n % 10 ^ width < 10 ^ width := Nat.mod_lt n (Nat.pow_pos (by decide))
  rw [measured?_decimal _ hp hu hh, div_add_mod_div]

theorem measures_secs {d : Duration} (h : 0 < d.secs) :
    d.Measures ((d.secs : ℚ) + d.nanos / 10 ^ 9) 1 where
  exact := mul_one _
  one_le _ := by
    have h1 : (1 : ℚ) ≤ d.secs := by exact_mod_cast h
    have h2 : (0 : ℚ) ≤ d.nanos / 10 ^ 9 := by positivity
    linarith
  lt_thousand h := absurd rfl h

/-- A unit of `10 ^ width` nanoseconds, for a span that is below a thousand of them. -/
theorem measures_nanos {d : Duration} (hs : d.secs = 0) {width : Nat} {length : ℚ}
    (hl : length * 10 ^ 9 = 10 ^ width) (hlow : d.nanos ≠ 0 → 10 ^ width ≤ d.nanos)
    (hhigh : d.nanos < 1000 * 10 ^ width) : d.Measures ((d.nanos : ℚ) / 10 ^ width) length where
  exact := by
    have hlen : length = 10 ^ width / 10 ^ 9 := eq_div_of_mul_eq (by norm_num) hl
    rw [seconds, hs, hlen, Nat.cast_zero, zero_add]
    field_simp
  one_le h := by
    have hn : d.nanos ≠ 0 := by
      intro h0
      exact h (by simp [seconds, hs, h0])
    rw [le_div_iff₀ (by positivity), one_mul]
    exact_mod_cast hlow hn
  lt_thousand _ := by
    rw [div_lt_iff₀ (by positivity)]
    exact_mod_cast hhigh

theorem measured?_text (d : Duration) :
    ∃ number length, measured? d.text.toList = some (number, length) ∧
      d.Measures number length := by
  have hlt := d.nanos_lt
  rw [text]
  split
  · rename_i hs
    exact ⟨_, _, measured?_decimal d.secs hlt rfl (by decide), measures_secs hs⟩
  · have h0 : d.secs = 0 := by omega
    split
    · exact ⟨_, _, measured?_nanos d.nanos 6 rfl (by decide),
        measures_nanos h0 (by norm_num) (by omega) (by omega)⟩
    · split
      · exact ⟨_, _, measured?_nanos d.nanos 3 rfl (by decide),
          measures_nanos h0 (by norm_num) (by omega) (by omega)⟩
      · have hu : units.lookup "ns".toList = some (1 / 10 ^ 9) := rfl
        have hr := measured?_nanos d.nanos 0 hu (by decide)
        rw [Nat.pow_zero, Nat.div_one, Nat.mod_one] at hr
        exact ⟨_, _, hr, measures_nanos h0 (by norm_num) (by omega) (by omega)⟩

theorem text_injective {d e : Duration} (h : d.text = e.text) : d = e := by
  obtain ⟨n, u, hd, hm⟩ := measured?_text d
  obtain ⟨n', u', he, hm'⟩ := measured?_text e
  rw [h, he] at hd
  cases hd
  exact seconds_injective (hm.exact.symm.trans hm'.exact)

end Triage.Duration

namespace Triage.Error

theorem message_timeout (d : Duration) :
    (timeout d).message = "Operation timeout after " ++ d.text := rfl

/-- The number and the unit behind the words make up the budget exactly, and the unit is the largest that
fits; so no two budgets have one text. -/
theorem timeout_message_exact (d e : Duration) :
    (∃ shown : String, (timeout d).message = "Operation timeout after " ++ shown ∧
      ∃ number length, Duration.measured? shown.toList = some (number, length) ∧
        d.Measures number length) ∧
    ((timeout d).message = (timeout e).message ↔ d = e) := by
  refine ⟨⟨d.text, message_timeout d, Duration.measured?_text d⟩, ?_⟩
  rw [message_timeout, message_timeout]
  constructor
  · intro h
    have ht := congrArg String.toList h
    rw [String.toList_append, String.toList_append] at ht
    exact Duration.text_injective (String.toList_inj.mp (List.append_cancel_left ht))
  · intro h
    rw [h]

end Triage.Error
