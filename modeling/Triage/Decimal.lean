/-!
Decimal text of binary floating-point numbers, computed exactly: with a fixed number of places,
and with the fewest digits that still single out the number.
-/
namespace Triage.Decimal

/-- The magnitude `mant * 2 ^ exp` of a finite number and its sign. -/
structure Binary where
  neg : Bool
  mant : Nat
  exp : Int
  /-- The next smaller magnitude is only half as far away as the next larger one. -/
  narrow : Bool
  deriving DecidableEq

/-- `none` for infinities and NaN. -/
def Binary.ofFloat? (x : Float) : Option Binary :=
  let bits := x.toBits.toNat
  let e : Nat := bits / Nat.pow 2 52 % 2048
  let f : Nat := bits % Nat.pow 2 52
  let neg := bits / Nat.pow 2 63 % 2 == 1
  if e = 2047 then none
  else if e = 0 then some ⟨neg, f, -1074, false⟩
  else some ⟨neg, f + Nat.pow 2 52, (e : Int) - 1075, f == 0 && e > 1⟩

/-- `num / den` to the nearest integer, a half to the even one. -/
def roundDiv (num den : Nat) : Nat :=
  let q := num / den
  let r := 2 * (num % den)
  if r < den then q else if den < r then q + 1 else q + q % 2

/-- The last `width` decimal digits of `n`. -/
def lastDigits : (width n : Nat) → List Char
  | 0, _ => []
  | w + 1, n => lastDigits w (n / 10) ++ [Nat.digitChar (n % 10)]

/-- Exactly `places` digits after the point, rounded from the exact value. -/
def fixed (places : Nat) (x : Float) : String :=
  match Binary.ofFloat? x with
  | none => "NaN"
  | some b =>
    let n := roundDiv (b.mant * Nat.pow 10 places * Nat.pow 2 b.exp.toNat)
      (Nat.pow 2 (-b.exp).toNat)
    (if b.neg then "-" else "") ++ toString (n / Nat.pow 10 places) ++
      (if places = 0 then "" else "." ++ String.ofList (lastDigits places n))

/-- The decimal `digits * 10 ^ exp`. -/
structure Digits where
  digits : Nat
  exp : Int
  deriving DecidableEq

/--
The multiple of `10 ^ k` that reads back as `b`, if there is one: of the two around the value, the
nearer, and the even one when both are equally near.
-/
def nearestOn (b : Binary) (k : Int) : Option Nat :=
  let q := b.exp - 2
  let unit := Nat.pow 2 q.toNat * Nat.pow 10 (-k).toNat
  let grid := Nat.pow 10 k.toNat * Nat.pow 2 (-q).toNat
  let value := 4 * b.mant * unit
  let low := (4 * b.mant - if b.narrow then 1 else 2) * unit
  let high := (4 * b.mant + 2) * unit
  let inside (d : Nat) : Bool :=
    if b.mant % 2 = 0 then decide (low ≤ d * grid ∧ d * grid ≤ high)
    else decide (low < d * grid ∧ d * grid < high)
  let d := value / grid
  match inside d && d ≠ 0, inside (d + 1) with
  | true, true => some (roundDiv value grid)
  | true, false => some d
  | false, true => some (d + 1)
  | false, false => none

/-- The first grid, from `10 ^ k` downwards, with a multiple that reads back as `b`. -/
def searchFrom (b : Binary) : Nat → Int → Digits
  | 0, _ => ⟨0, 0⟩
  | n + 1, k =>
    match nearestOn b k with
    | some d => ⟨d, k⟩
    | none => searchFrom b n (k - 1)

/-- The decimal of fewest digits that reads back as `b`. -/
def shortest (b : Binary) : Digits :=
  if b.mant = 0 then ⟨0, 0⟩ else searchFrom b 400 ((b.exp + 53) * 30103 / 100000 + 1)

/-- Decimal digits of a positive number, first to last. -/
def digitChars (n : Nat) : List Char := (toString n).toList

end Triage.Decimal
