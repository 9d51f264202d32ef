import Triage.Json.Value
import Triage.Proofs.Numeral

/-! Numbers by the grammar of their texts and by place value; only the rounding of a significand times a
power of ten is the one that floats come with. The reader takes each of these texts for the number
that it stands for, and no other, and what is written for an integer of a word is one of them. -/
namespace Triage.Json.Number
open Triage.Numeral (value? next? value?_append_single toNat_of_isDigit)

/-! ### The texts of a number -/

/-- One digit or more. -/
structure Digits (cs : List Char) : Prop where
  ne_nil : cs ≠ []
  isDigit : ∀ c ∈ cs, c.isDigit = true

/-- No other digit stands behind a leading zero. -/
structure WholeText (cs : List Char) : Prop extends Digits cs where
  leading : cs.head? = some '0' → cs = ['0']

inductive FractionText : Option (List Char) → List Char → Prop where
  | absent : FractionText none []
  | present {ds : List Char} (h : Digits ds) : FractionText (some ds) ('.' :: ds)

/-- The sign of an exponent may be left out, or stand there as a plus. -/
inductive SignText : Bool → List Char → Prop where
  | absent : SignText false []
  | plus : SignText false ['+']
  | minus : SignText true ['-']

inductive ExponentText : Option (Bool × List Char) → List Char → Prop where
  | absent : ExponentText none []
  | present {mark : Char} {neg : Bool} {sign ds : List Char} (hm : mark = 'e' ∨ mark = 'E')
    (hs : SignText neg sign) (h : Digits ds) :
    ExponentText (some (neg, ds)) (mark :: (sign ++ ds))

/-- A number as it is written. -/
structure Spelling where
  neg : Bool
  whole : List Char
  /-- The digits behind the point, if there is one. -/
  frac : Option (List Char)
  /-- Whether the exponent has a minus, and its digits. -/
  exp : Option (Bool × List Char)

inductive SpellingText : Spelling → List Char → Prop where
  | mk (neg : Bool) {frac : Option (List Char)} {exp : Option (Bool × List Char)}
    {ws fs es : List Char} (hw : WholeText ws) (hf : FractionText frac fs)
    (he : ExponentText exp es) :
    SpellingText ⟨neg, ws, frac, exp⟩ ((if neg then ['-'] else []) ++ (ws ++ (fs ++ es)))

/-! ### What they stand for -/

/-- A word has room for the digits `held` and then for `taken`, which make it `n`, and for none of
`left`. -/
structure Filled (held taken left : List Char) (n : Nat) : Prop where
  value : value? 10 (held ++ taken) = some n
  fits : n < UInt64.size
  full : ∀ d ∈ left.head?, ∃ m ≥ UInt64.size, value? 10 (held ++ taken ++ [d]) = some m

/-- Digits before and behind a point as a significand of one word and a power of ten. Where the word is
full, a digit before the point still counts as a place, and one behind it is left out. -/
inductive Significand : List Char → List Char → Nat → Int → Prop where
  | mk {w w' f f' : List Char} {n sig : Nat} (hw : Filled [] w w' n) (hf : Filled w f f' sig) :
    Significand (w ++ w') (f ++ f') sig (w'.length - f.length)

/-- The written power of ten. -/
inductive Power : Option (Bool × List Char) → Int → Prop where
  | absent : Power none 0
  | plus {ds : List Char} {n : Nat} (h : value? 10 ds = some n) : Power (some (false, ds)) n
  | minus {ds : List Char} {n : Nat} (h : value? 10 ds = some n) : Power (some (true, ds)) (-n)

/-- The float for a significand times a power of ten, of which `x` is written and `e` comes from the
point. If `x` does not fit 32 bits, nothing is computed. -/
inductive Scaled (neg : Bool) (sig : Nat) (e x : Int) : Number → Prop where
  | near {f : Float} (hx : x.natAbs ≤ 0x7FFFFFFF)
    (hf : scale sig.toUInt64.toFloat (e + x) = some f) :
    Scaled neg sig e x (.float (if neg then -f else f))
  | beyond (hx : x.natAbs ≤ 0x7FFFFFFF) (hf : scale sig.toUInt64.toFloat (e + x) = none) :
    Scaled neg sig e x .huge
  | far (hx : 0x7FFFFFFF < x) (hs : sig ≠ 0) : Scaled neg sig e x .huge
  | zero (hx : 0x7FFFFFFF < x.natAbs) (hs : sig = 0 ∨ x < 0) :
    Scaled neg sig e x (.float (if neg then -0 else 0))

/-- The number that is written. -/
inductive Spelling.Means : Spelling → Number → Prop where
  | nat {ws : List Char} {n : Nat} (h : value? 10 ws = some n) (hn : n < UInt64.size) :
    Means ⟨false, ws, none, none⟩ (.nat n)
  | neg {ws : List Char} {n : Nat} (h : value? 10 ws = some n) (h0 : 0 < n)
    (hn : n ≤ 0x8000000000000000) : Means ⟨true, ws, none, none⟩ (.neg n)
  /-- Zero with a minus, and integers below those of a signed word. -/
  | low {ws : List Char} {n : Nat} (h : value? 10 ws = some n) (hn : n < UInt64.size)
    (hl : n = 0 ∨ 0x8000000000000000 < n) :
    Means ⟨true, ws, none, none⟩ (.float (-n.toUInt64.toFloat))
  | float {neg : Bool} {ws : List Char} {frac : Option (List Char)}
    {exp : Option (Bool × List Char)} {sig : Nat} {e x : Int} {r : Number}
    (hk : frac.isSome ∨ exp.isSome ∨ ∃ n ≥ UInt64.size, value? 10 ws = some n)
    (hs : Significand ws (frac.getD []) sig e) (hx : Power exp x) (h : Scaled neg sig e x r) :
    Means ⟨neg, ws, frac, exp⟩ r

/-- The texts of a number. -/
def NumberText (n : Number) (cs : List Char) : Prop := ∃ s, SpellingText s cs ∧ s.Means n

/-! ### Reading the parts of a text -/

/-- The parts of a number with the digits as the reader has them. -/
def Spelling.parts (s : Spelling) : Parts where
  neg := s.neg
  whole := s.whole.map digitValue
  frac := s.frac.map fun ds => ds.map digitValue
  exp := s.exp.map fun x => ⟨x.1, x.2.map digitValue⟩

theorem ne_of_isDigit {c a : Char} (hc : c.isDigit = true) (ha : a.isDigit = false) : c ≠ a := by
  rintro rfl
  rw [ha] at hc
  cases hc

theorem eq_zero_of_digitValue {c : Char} (hc : c.isDigit = true) (hv : digitValue c = 0) :
    c = '0' := by
  have h48 := (toNat_of_isDigit hc).1
  rw [digitValue] at hv
  rw [← Char.ofNat_toNat c, show c.toNat = 48 by omega]

/-- A text that cannot prolong digits before it. -/
def NoDigit (rest : List Char) : Prop := ∀ c ∈ rest.head?, c.isDigit = false

theorem noDigit_cons {c : Char} (hc : c.isDigit = false) (rest : List Char) :
    NoDigit (c :: rest) := by
  simpa [NoDigit] using hc

/-- Characters with which a number can go on. -/
def isNumeric (c : Char) : Bool :=
  c.isDigit || c == '.' || c == 'e' || c == 'E' || c == '+' || c == '-'

/-- A text that cannot prolong a number before it. -/
def Stops (rest : List Char) : Prop := ∀ c ∈ rest.head?, isNumeric c = false

theorem stops_nil : Stops [] := by simp [Stops]

theorem stops_cons {c : Char} (hc : isNumeric c = false) (rest : List Char) : Stops (c :: rest) := by
  simpa [Stops] using hc

theorem Stops.noDigit {rest : List Char} (hr : Stops rest) : NoDigit rest := by
  intro c hc
  have hn := hr c hc
  simp only [isNumeric, Bool.or_eq_false_iff] at hn
  exact hn.1.1.1.1.1

theorem Stops.head_ne {rest : List Char} (hr : Stops rest) {a : Char} (ha : isNumeric a = true) :
    rest.head? ≠ some a := by
  intro hh
  rw [hr a hh] at ha
  cases ha

section
variable {ds : List Nat} {cs rest : List Char}

theorem Digits.head (h : Digits cs) : ∃ c rest, cs = c :: rest ∧ c.isDigit = true := by
  obtain ⟨c, rest, rfl⟩ := List.exists_cons_of_ne_nil h.ne_nil
  exact ⟨c, rest, rfl, h.isDigit c List.mem_cons_self⟩

theorem takeDigits_digits (h : Digits cs) (hr : NoDigit rest) :
    takeDigits (cs ++ rest) = (cs.map digitValue, rest) := by
  have ht : rest.takeWhile Char.isDigit = [] ∧ rest.dropWhile Char.isDigit = rest := by
    cases rest with
    | nil => exact ⟨rfl, rfl⟩
    | cons c rest => simp [hr c rfl]
  rw [takeDigits, List.takeWhile_append_of_pos h.isDigit, List.dropWhile_append_of_pos h.isDigit,
    ht.1, ht.2, List.append_nil]

theorem digits_takeDigits (h : takeDigits cs = (ds, rest)) (hne : ds ≠ []) :
    ∃ ws, Digits ws ∧ ws.map digitValue = ds ∧ cs = ws ++ rest := by
  obtain ⟨hd, hr⟩ := Prod.mk.inj h
  refine ⟨cs.takeWhile Char.isDigit, ⟨?_, ?_⟩, hd, ?_⟩
  · intro hn
    rw [hn] at hd
    exact hne hd.symm
  · exact List.all_eq_true.mp List.all_takeWhile
  · rw [← hr, List.takeWhile_append_dropWhile]

theorem readWhole_wholeText (h : WholeText cs) (hr : NoDigit rest) :
    readWhole (cs ++ rest) = some (cs.map digitValue, rest) := by
  rw [readWhole, takeDigits_digits h.toDigits hr]
  obtain ⟨c, cs, rfl, hc⟩ := h.head
  rw [List.map_cons]
  cases hv : digitValue c with
  | succ n => cases cs <;> rfl
  | zero =>
    have hz := h.leading (congrArg some (eq_zero_of_digitValue hc hv))
    rw [List.cons.injEq] at hz
    rw [hz.2]
    rfl

theorem wholeText_readWhole (h : readWhole cs = some (ds, rest)) :
    ∃ ws, WholeText ws ∧ ws.map digitValue = ds ∧ cs = ws ++ rest := by
  unfold readWhole at h
  split at h
  · cases h
  · cases h
  · rename_i ds' rest' hnil hzero htake
    cases h
    obtain ⟨ws, hd, rfl, rfl⟩ := digits_takeDigits htake hnil
    refine ⟨ws, ⟨hd, ?_⟩, rfl, rfl⟩
    intro hz
    obtain ⟨c, tail, rfl, -⟩ := hd.head
    cases tail with
    | nil => simpa using hz
    | cons d tail =>
      obtain rfl : c = '0' := by simpa using hz
      exact absurd rfl (hzero _ _)

theorem readFraction_fractionText {frac : Option (List Char)} (h : FractionText frac cs)
    (hr : NoDigit rest) (hp : rest.head? ≠ some '.') :
    readFraction (cs ++ rest) = some (frac.map fun ds => ds.map digitValue, rest) := by
  cases h with
  | absent =>
    cases rest with
    | nil => rfl
    | cons c rest =>
      have hc : c ≠ '.' := by simpa using hp
      simp [readFraction, hc]
  | present h =>
    rw [List.cons_append, readFraction, takeDigits_digits h hr]
    obtain ⟨d, ds, rfl, -⟩ := h.head
    rfl

theorem fractionText_readFraction {frac : Option (List Nat)}
    (h : readFraction cs = some (frac, rest)) :
    ∃ ds fs, FractionText ds fs ∧ ds.map (fun ds => ds.map digitValue) = frac ∧ cs = fs ++ rest := by
  unfold readFraction at h
  split at h
  · split at h
    · cases h
    · rename_i cs ds rest' hnil htake
      cases h
      obtain ⟨fs, hd, rfl, rfl⟩ := digits_takeDigits htake hnil
      exact ⟨some fs, '.' :: fs, .present hd, rfl, rfl⟩
  · cases h
    exact ⟨none, [], .absent, rfl, rfl⟩

theorem FractionText.noDigit_append {frac : Option (List Char)} (h : FractionText frac cs)
    (hr : NoDigit rest) : NoDigit (cs ++ rest) := by
  cases h with
  | absent => exact hr
  | present h => exact noDigit_cons (by decide) _

theorem readExponentDigits_digits (neg : Bool) (h : Digits cs) (hr : NoDigit rest) :
    readExponentDigits neg (cs ++ rest) = some (some ⟨neg, cs.map digitValue⟩, rest) := by
  rw [readExponentDigits, takeDigits_digits h hr]
  obtain ⟨d, ds, rfl, -⟩ := h.head
  rfl

theorem digits_readExponentDigits {neg : Bool} {exp : Option Exponent}
    (h : readExponentDigits neg cs = some (exp, rest)) :
    ∃ es, Digits es ∧ exp = some ⟨neg, es.map digitValue⟩ ∧ cs = es ++ rest := by
  unfold readExponentDigits at h
  split at h
  · cases h
  · rename_i ds rest' hnil htake
    cases h
    obtain ⟨es, hd, rfl, rfl⟩ := digits_takeDigits htake hnil
    exact ⟨es, hd, rfl, rfl⟩

theorem readExponent_exponentText {exp : Option (Bool × List Char)} (h : ExponentText exp cs)
    (hr : Stops rest) :
    readExponent (cs ++ rest) = some (exp.map fun x => ⟨x.1, x.2.map digitValue⟩, rest) := by
  cases h with
  | absent =>
    cases rest with
    | nil => rfl
    | cons c rest =>
      have hc : c ≠ 'e' ∧ c ≠ 'E' := by
        simpa using And.intro (hr.head_ne (a := 'e') (by decide)) (hr.head_ne (a := 'E') (by decide))
      simp [readExponent, hc]
  | present hm hs h =>
    simp only [List.cons_append, List.append_assoc, readExponent, hm, if_true]
    cases hs with
    | absent =>
      -- the first digit is not taken for a sign
      obtain ⟨c, ds, rfl, hc⟩ := h.head
      have hp : c ≠ '+' := ne_of_isDigit hc (by decide)
      have hn : c ≠ '-' := ne_of_isDigit hc (by decide)
      simpa [hp, hn] using readExponentDigits_digits false h hr.noDigit
    | plus => exact readExponentDigits_digits false h hr.noDigit
    | minus => exact readExponentDigits_digits true h hr.noDigit

theorem exponentText_readExponent {exp : Option Exponent}
    (h : readExponent cs = some (exp, rest)) :
    ∃ x es, ExponentText x es ∧ x.map (fun x => (⟨x.1, x.2.map digitValue⟩ : Exponent)) = exp ∧
      cs = es ++ rest := by
  unfold readExponent at h
  split at h
  · split at h
    · rename_i c cs hm
      split at h
      · obtain ⟨es, hd, rfl, rfl⟩ := digits_readExponentDigits h
        exact ⟨_, c :: ('+' :: es), .present hm .plus hd, rfl, rfl⟩
      · obtain ⟨es, hd, rfl, rfl⟩ := digits_readExponentDigits h
        exact ⟨_, c :: ('-' :: es), .present hm .minus hd, rfl, rfl⟩
      · obtain ⟨es, hd, rfl, rfl⟩ := digits_readExponentDigits h
        exact ⟨_, c :: es, .present hm .absent hd, rfl, rfl⟩
    · cases h
      exact ⟨none, [], .absent, rfl, rfl⟩
  · cases h
    exact ⟨none, [], .absent, rfl, rfl⟩

/-- An exponent prolongs neither the digits nor the fraction before it. -/
theorem ExponentText.head {exp : Option (Bool × List Char)} (h : ExponentText exp cs)
    (hr : Stops rest) : NoDigit (cs ++ rest) ∧ (cs ++ rest).head? ≠ some '.' := by
  cases h with
  | absent => exact ⟨hr.noDigit, hr.head_ne (by decide)⟩
  | present hm hs h => rcases hm with rfl | rfl <;> exact ⟨noDigit_cons (by decide) _, by simp⟩

end

section
variable {s : Spelling} {n : Number} {cs rest : List Char}

theorem SpellingText.head (h : SpellingText s cs) :
    ∃ c ds, cs = c :: ds ∧ (c = '-' ∨ c.isDigit = true) := by
  cases h with
  | mk neg hw hf he =>
    obtain ⟨c, ds, rfl, hc⟩ := hw.head
    cases neg with
    | true => exact ⟨_, _, rfl, Or.inl rfl⟩
    | false => exact ⟨_, _, rfl, Or.inr hc⟩

theorem read_spellingText (h : SpellingText s cs) (hr : Stops rest) :
    read (cs ++ rest) = some (ofParts s.parts, rest) := by
  cases h with
  | @mk neg frac exp ws fs es hw hf he =>
    obtain ⟨hd, hp⟩ := he.head hr
    have hu : readUnsigned neg (ws ++ (fs ++ (es ++ rest))) =
        some (ofParts (Spelling.parts ⟨neg, ws, frac, exp⟩), rest) := by
      simp [readUnsigned, readWhole_wholeText hw (hf.noDigit_append hd),
        readFraction_fractionText hf hd hp, readExponent_exponentText he hr, Spelling.parts]
    simp only [List.append_assoc]
    cases neg with
    | true => exact hu
    | false =>
      obtain ⟨c, ds, rfl, hc⟩ := hw.head
      have hm : c ≠ '-' := ne_of_isDigit hc (by decide)
      simpa [read, hm] using hu

theorem spellingText_readUnsigned {neg : Bool} (h : readUnsigned neg cs = some (n, [])) :
    ∃ s, SpellingText s ((if neg then ['-'] else []) ++ cs) ∧ ofParts s.parts = n := by
  simp only [readUnsigned, Option.bind_eq_bind, Option.bind_eq_some_iff, Option.pure_def,
    Option.some.injEq, Prod.mk.injEq] at h
  obtain ⟨⟨whole, r₁⟩, hr₁, ⟨frac, r₂⟩, hr₂, ⟨exp, r₃⟩, hr₃, rfl, rfl⟩ := h
  obtain ⟨ws, hw, rfl, rfl⟩ := wholeText_readWhole hr₁
  obtain ⟨ds, fs, hf, rfl, rfl⟩ := fractionText_readFraction hr₂
  obtain ⟨x, es, he, rfl, rfl⟩ := exponentText_readExponent hr₃
  rw [List.append_nil]
  exact ⟨_, .mk neg hw hf he, rfl⟩

theorem spellingText_read (h : read cs = some (n, [])) :
    ∃ s, SpellingText s cs ∧ ofParts s.parts = n := by
  unfold read at h
  split at h
  · exact spellingText_readUnsigned h
  · exact spellingText_readUnsigned h

end

/-! ### What the reader makes of the parts -/

theorem lt_size_iff {n : Nat} : n < UInt64.size ↔ n ≤ maxWord := Nat.lt_succ_iff

theorem next?_ten {c : Char} (hc : c.isDigit = true) (n : Nat) :
    next? 10 n c = some (n * 10 + digitValue c) := by
  have hd : 48 ≤ c.toNat ∧ c.toNat ≤ 57 := toNat_of_isDigit hc
  have hle : '0' ≤ c ∧ c ≤ '9' := hd
  have hlt : c.toNat - 48 < 10 := by omega
  simp [next?, Numeral.digit?, hle, hlt, digitValue]

theorem le_foldl (ds : List Nat) (sig : Nat) : sig ≤ ds.foldl (fun n d => n * 10 + d) sig := by
  induction ds generalizing sig with
  | nil => exact Nat.le_refl _
  | cons d ds ih =>
    have := ih (sig * 10 + d)
    rw [List.foldl_cons]
    omega

section
variable {held cs : List Char} {m : Nat}

theorem value?_append_digit (hm : value? 10 held = some m) {c : Char} (hc : c.isDigit = true) :
    value? 10 (held ++ [c]) = some (m * 10 + digitValue c) := by
  rw [value?_append_single, hm, Option.bind_some, next?_ten hc]

theorem value?_append_digits (hm : value? 10 held = some m) (hd : ∀ c ∈ cs, c.isDigit = true) :
    value? 10 (held ++ cs) = some ((cs.map digitValue).foldl (fun n d => n * 10 + d) m) := by
  induction cs generalizing held m with
  | nil => simpa using hm
  | cons c cs ih =>
    rw [List.forall_mem_cons] at hd
    rw [List.append_cons, ih (value?_append_digit hm hd.1) hd.2]
    rfl

theorem value?_digits (hd : ∀ c ∈ cs, c.isDigit = true) :
    value? 10 cs = some (ofDigits (cs.map digitValue)) := by
  have h0 : value? 10 [] = some 0 := rfl
  exact value?_append_digits h0 hd

theorem exists_filled (hm : value? 10 held = some m) (hlt : m < UInt64.size)
    (hd : ∀ c ∈ cs, c.isDigit = true) :
    ∃ taken left n, cs = taken ++ left ∧ Filled held taken left n := by
  induction cs generalizing held m with
  | nil => exact ⟨[], [], m, rfl, by simpa using hm, hlt, by simp⟩
  | cons c cs ih =>
    rw [List.forall_mem_cons] at hd
    have hc := value?_append_digit hm hd.1
    by_cases hk : m * 10 + digitValue c < UInt64.size
    · obtain ⟨taken, left, n, rfl, hf⟩ := ih hc hk hd.2
      refine ⟨c :: taken, left, n, rfl, ?_, hf.fits, ?_⟩
      · simpa using hf.value
      · simpa using hf.full
    · refine ⟨[], c :: cs, m, rfl, by simpa using hm, hlt, ?_⟩
      intro d hd
      cases hd
      exact ⟨_, Nat.le_of_not_lt hk, by simpa using hc⟩

/-- The reader takes the digits that fill the word, and leaves the others. -/
theorem gather_filled {taken left : List Char} {n : Nat} (hf : Filled held taken left n)
    (hm : value? 10 held = some m) (hd : ∀ c ∈ taken ++ left, c.isDigit = true) :
    gather m ((taken ++ left).map digitValue) = (n, left.map digitValue) := by
  induction taken generalizing held m with
  | nil =>
    have hn : m = n := by simpa [hm] using hf.value
    subst hn
    cases left with
    | nil => rfl
    | cons d left =>
      obtain ⟨k, hk, hv⟩ := hf.full d rfl
      have hd' : d.isDigit = true := hd d (by simp)
      rw [List.append_nil, value?_append_digit hm hd'] at hv
      have hge : ¬ m * 10 + digitValue d ≤ maxWord := by
        rw [← lt_size_iff]
        have := Option.some.inj hv
        omega
      simp [gather, hge]
  | cons c taken ih =>
    rw [List.cons_append, List.forall_mem_cons] at hd
    have hc := value?_append_digit hm hd.1
    have hle : m * 10 + digitValue c ≤ n := by
      have hv := hf.value
      have ht : ∀ d ∈ taken, d.isDigit = true := fun d hdm => hd.2 d (List.mem_append_left _ hdm)
      rw [List.append_cons, value?_append_digits hc ht] at hv
      exact Option.some.inj hv ▸ le_foldl _ _
    have hf' : Filled (held ++ [c]) taken left n := by
      refine ⟨?_, hf.fits, ?_⟩
      · simpa using hf.value
      · simpa using hf.full
    have hfit : m * 10 + digitValue c ≤ maxWord :=
      Nat.le_trans hle (lt_size_iff.mp hf.fits)
    rw [List.cons_append, List.map_cons, gather, if_pos hfit, ih hf' hc hd.2]

end

/-- All that is written for digits are digits. -/
structure Spelling.Decimal (s : Spelling) : Prop where
  whole : ∀ c ∈ s.whole, c.isDigit = true
  frac : ∀ c ∈ s.frac.getD [], c.isDigit = true
  exp : ∀ x ∈ s.exp, ∀ c ∈ x.2, c.isDigit = true

theorem SpellingText.decimal {s : Spelling} {cs : List Char} (h : SpellingText s cs) : s.Decimal := by
  cases h with
  | mk neg hw hf he =>
    refine ⟨hw.isDigit, ?_, ?_⟩
    · cases hf with
      | absent => simp
      | present h => exact h.isDigit
    · cases he with
      | absent => simp
      | present hm hs h => simpa using h.isDigit

theorem exists_significand {ws fs : List Char} (hw : ∀ c ∈ ws, c.isDigit = true)
    (hf : ∀ c ∈ fs, c.isDigit = true) : ∃ sig e, Significand ws fs sig e := by
  have h0 : value? 10 [] = some 0 := rfl
  obtain ⟨w, w', n, rfl, hn⟩ := exists_filled h0 (by decide) hw
  obtain ⟨f, f', sig, rfl, hs⟩ := exists_filled (by simpa using hn.value) hn.fits hf
  exact ⟨sig, _, .mk hn hs⟩

theorem exists_power {exp : Option (Bool × List Char)}
    (h : ∀ x ∈ exp, ∀ c ∈ x.2, c.isDigit = true) : ∃ x, Power exp x := by
  rcases exp with _ | ⟨neg, ds⟩
  · exact ⟨0, .absent⟩
  · have hv := value?_digits (h _ rfl)
    cases neg with
    | false => exact ⟨_, .plus hv⟩
    | true => exact ⟨_, .minus hv⟩

theorem exists_scaled (neg : Bool) (sig : Nat) (e x : Int) : ∃ r, Scaled neg sig e x r := by
  by_cases hx : x.natAbs ≤ 0x7FFFFFFF
  · cases hf : scale sig.toUInt64.toFloat (e + x) with
    | none => exact ⟨_, .beyond hx hf⟩
    | some f => exact ⟨_, .near hx hf⟩
  · by_cases hs : sig = 0 ∨ x < 0
    · exact ⟨_, .zero (by omega) hs⟩
    · exact ⟨_, .far (by omega) (by omega)⟩

theorem Spelling.Decimal.exists_means {s : Spelling} (h : s.Decimal) : ∃ r, s.Means r := by
  obtain ⟨neg, ws, frac, exp⟩ := s
  have hfloat : (frac.isSome ∨ exp.isSome ∨ ∃ n ≥ UInt64.size, value? 10 ws = some n) →
      ∃ r, Means ⟨neg, ws, frac, exp⟩ r := by
    intro hk
    obtain ⟨sig, e, hs⟩ := exists_significand h.whole h.frac
    obtain ⟨x, hx⟩ := exists_power h.exp
    obtain ⟨r, hr⟩ := exists_scaled neg sig e x
    exact ⟨r, .float hk hs hx hr⟩
  obtain ⟨n, hv⟩ : ∃ n, value? 10 ws = some n := ⟨_, value?_digits h.whole⟩
  cases frac with
  | some fs => exact hfloat (Or.inl rfl)
  | none =>
    cases exp with
    | some x => exact hfloat (Or.inr (Or.inl rfl))
    | none =>
      by_cases hn : n < UInt64.size
      · cases neg with
        | false => exact ⟨_, .nat hv hn⟩
        | true =>
          by_cases hl : n = 0 ∨ 0x8000000000000000 < n
          · exact ⟨_, .low hv hn hl⟩
          · exact ⟨_, .neg hv (by omega) (by omega)⟩
      · exact hfloat (Or.inr (Or.inr ⟨n, Nat.le_of_not_lt hn, hv⟩))

section
variable {neg : Bool} {sig : Nat} {e x : Int} {r : Number}

theorem Scaled.finish (h : Scaled neg sig e x r) (hx : x.natAbs ≤ maxExponent) :
    assemble.finish neg sig (e + x) = r := by
  rw [maxExponent] at hx
  cases h with
  | near _ hf =>
    rw [assemble.finish, hf]
    rfl
  | beyond _ hf => rw [assemble.finish, hf]
  | far h hs => omega
  | zero h hs => omega

theorem Scaled.eq_of_lt (h : Scaled neg sig e x r) (hx : maxExponent < x.natAbs) :
    r = if sig ≠ 0 ∧ 0 < x then huge else float (signed neg 0) := by
  rw [maxExponent] at hx
  cases h with
  | near h hf => omega
  | beyond h hf => omega
  | far h hs => rw [if_pos ⟨hs, by omega⟩]
  | zero h hs =>
    have hno : ¬ (sig ≠ 0 ∧ 0 < x) := by omega
    rw [if_neg hno]
    rfl

theorem assemble_scaled {exp : Option (Bool × List Char)}
    (hd : ∀ x ∈ exp, ∀ c ∈ x.2, c.isDigit = true) (hx : Power exp x) (h : Scaled neg sig e x r) :
    assemble neg sig e (exp.map fun x => ⟨x.1, x.2.map digitValue⟩) = r := by
  cases hx with
  | absent => simpa [assemble] using h.finish (Nat.zero_le _)
  | @plus ds n hn =>
    have he : ofDigits (ds.map digitValue) = n :=
      Option.some.inj ((value?_digits (hd _ rfl)).symm.trans hn)
    simp only [Option.map_some, assemble, he]
    split
    · exact h.finish (by omega)
    · rename_i hlt
      have hpos : 0 < n := by omega
      simp [h.eq_of_lt (by omega), hpos]
  | @minus ds n hn =>
    have he : ofDigits (ds.map digitValue) = n :=
      Option.some.inj ((value?_digits (hd _ rfl)).symm.trans hn)
    simp only [Option.map_some, assemble, he]
    split
    · exact h.finish (by omega)
    · rename_i hlt
      simp [h.eq_of_lt (by omega)]

end

theorem ofParts_float {p : Parts} {n sig : Nat} {dropped ignored : List Nat}
    (hw : gather 0 p.whole = (n, dropped)) (hf : gather n (p.frac.getD []) = (sig, ignored))
    (hk : p.frac.isSome ∨ p.exp.isSome ∨ dropped ≠ []) :
    ofParts p = assemble p.neg sig
      ((dropped.length : Int) - ((p.frac.getD []).length - ignored.length : Nat)) p.exp := by
  obtain ⟨neg, whole, frac, exp⟩ := p
  dsimp only at hw hf hk
  rw [ofParts]
  dsimp only
  rw [hw]
  dsimp only
  split
  · simp at hk
  · simp [hf]

section
variable {s : Spelling}

/-- With a fraction, with an exponent or with more digits than a word holds, a number is a float. -/
theorem ofParts_significand (hd : s.Decimal) {sig : Nat} {e : Int}
    (hs : Significand s.whole (s.frac.getD []) sig e)
    (hk : s.frac.isSome ∨ s.exp.isSome ∨ ∃ n ≥ UInt64.size, value? 10 s.whole = some n) :
    ofParts s.parts = assemble s.neg sig e s.parts.exp := by
  have hwhole := hd.whole
  have hfrac := hd.frac
  have hparts : s.parts.frac.getD [] = (s.frac.getD []).map digitValue := by
    rw [Spelling.parts]
    cases s.frac <;> rfl
  generalize hws : s.whole = ws at hs hk hwhole
  generalize hfs : s.frac.getD [] = fs at hs hfrac hparts
  cases hs with
  | @mk w w' f f' n sig hw hf =>
    have hgw : gather 0 s.parts.whole = (n, w'.map digitValue) := by
      rw [Spelling.parts, hws]
      exact gather_filled hw rfl hwhole
    have hgf : gather n (s.parts.frac.getD []) = (sig, f'.map digitValue) := by
      rw [hparts]
      exact gather_filled hf hw.value hfrac
    have hlen : ((f ++ f').map digitValue).length - (f'.map digitValue).length = f.length := by
      simp
    rw [ofParts_float hgw hgf ?_, hparts, hlen, List.length_map]
    · rfl
    · refine hk.imp (by simp [Spelling.parts]) (Or.imp (by simp [Spelling.parts]) ?_)
      -- digits that all fit the word would give a number that fits it
      rintro ⟨m, hm, hv⟩ hnil
      rw [List.map_eq_nil_iff.mp hnil, List.append_nil] at hv
      have hn := Option.some.inj (hw.value.symm.trans hv)
      have hlt := hw.fits
      omega

theorem gather_word {ws : List Char} {n : Nat} (hd : ∀ c ∈ ws, c.isDigit = true)
    (hv : value? 10 ws = some n) (hn : n < UInt64.size) :
    gather 0 (ws.map digitValue) = (n, []) := by
  have hf : Filled [] ws [] n := ⟨hv, hn, nofun⟩
  simpa using gather_filled hf rfl (by simpa using hd)

theorem ofParts_of_means (hd : s.Decimal) {r : Number} (h : s.Means r) : ofParts s.parts = r := by
  cases h with
  | nat hv hn => simp [ofParts, Spelling.parts, gather_word hd.whole hv hn]
  | @neg ws n hv h0 hn =>
    have hlt : n < UInt64.size := Nat.lt_of_le_of_lt hn (by decide)
    simp [ofParts, Spelling.parts, gather_word hd.whole hv hlt, h0, hn]
  | @low ws n hv hn hl =>
    have hno : ¬ (0 < n ∧ n ≤ 0x8000000000000000) := by omega
    simp [ofParts, Spelling.parts, gather_word hd.whole hv hn, hno]
  | float hk hs hx h =>
    rw [ofParts_significand hd hs hk]
    exact assemble_scaled hd.exp hx h

end

section
variable {n : Number} {cs : List Char}

theorem NumberText.head (h : NumberText n cs) :
    ∃ c ds, cs = c :: ds ∧ (c = '-' ∨ c.isDigit = true) := by
  obtain ⟨s, hs, -⟩ := h
  exact hs.head

theorem read_numberText (h : NumberText n cs) {rest : List Char} (hr : Stops rest) :
    read (cs ++ rest) = some (n, rest) := by
  obtain ⟨s, hs, hn⟩ := h
  rw [read_spellingText hs hr, ofParts_of_means hs.decimal hn]

theorem read_eq_some_iff : read cs = some (n, []) ↔ NumberText n cs := by
  constructor
  · intro h
    obtain ⟨s, hs, rfl⟩ := spellingText_read h
    obtain ⟨r, hr⟩ := hs.decimal.exists_means
    exact ⟨s, hs, ofParts_of_means hs.decimal hr ▸ hr⟩
  · intro h
    simpa using read_numberText h stops_nil

end

/-! ### Numbers as they are written -/

/-- The text of the number is read as that number, to its end. -/
def ReadsBack (n : Number) : Prop := read n.text = some (n, [])

theorem head_toDigits {n : Nat} (hn : 0 < n) : (Nat.toDigits 10 n).head? ≠ some '0' := by
  induction n using Nat.strongRecOn with
  | ind n ih =>
    rw [Nat.toDigits_eq_if (by decide)]
    split
    · simpa using Nat.ne_of_gt hn
    · have hh := ih (n / 10) (by omega) (by omega)
      cases hd : Nat.toDigits 10 (n / 10) with
      | nil => exact absurd hd Nat.toDigits_ne_nil
      | cons c cs => simpa [hd] using hh

theorem wholeText_toDigits (n : Nat) : WholeText (Nat.toDigits 10 n) where
  ne_nil := Nat.toDigits_ne_nil
  isDigit _ hc := Nat.isDigit_of_mem_toDigits (by decide) (by decide) hc
  leading hz := by
    rcases Nat.eq_zero_or_pos n with rfl | hn
    · exact Nat.toDigits_zero 10
    · exact absurd hz (head_toDigits hn)

theorem readsBack_nat {n : Nat} (hn : n ≤ maxWord) : (nat n).ReadsBack := by
  have ht : (nat n).text = Nat.toDigits 10 n := by
    rw [text, Nat.toString_eq_ofList_toDigits, String.toList_ofList]
  have hs := SpellingText.mk false (wholeText_toDigits n) .absent .absent
  have hv : value? 10 (Nat.toDigits 10 n) = some n :=
    Numeral.value?_toDigits (by decide) (by decide) n
  rw [ReadsBack, ht, read_eq_some_iff]
  exact ⟨_, by simpa using hs, .nat hv (lt_size_iff.mpr hn)⟩

/-- A float is read back if its significand and exponent are those of its text. -/
theorem readsBack_float {x : Float} (neg : Bool) (sig : Nat) (e : Int)
    (hr : read (floatText x) = some (assemble neg sig e none, []))
    (hs : (scale sig.toUInt64.toFloat e).map (signed neg) = some x) : (float x).ReadsBack := by
  obtain ⟨f, hf, rfl⟩ := Option.map_eq_some_iff.mp hs
  show read (floatText (signed neg f)) = _
  rw [hr, assemble, assemble.finish, hf]

end Triage.Json.Number
