import Triage.Decimal

/-!
JSON documents and their numbers. An integer below `2 ^ 64` in size is kept as it is; every other number
is a float, read with one rounding of its leading digits and one of its power of ten.
-/
namespace Triage.Json

inductive Number where
  /-- An integer from 0 to `2 ^ 64 - 1`. -/
  | nat (n : Nat)
  /-- The integer `-n`, from `-2 ^ 63` to -1. -/
  | neg (n : Nat)
  | float (x : Float)
  /-- Well formed, and too large for a float. -/
  | huge

namespace Number

def maxWord : Nat := 0xFFFFFFFFFFFFFFFF

/-- Takes digits into the significand while it fits a word; gives the digits that were not taken. -/
def gather : Nat → List Nat → Nat × List Nat
  | sig, [] => (sig, [])
  | sig, d :: ds => if sig * 10 + d ≤ maxWord then gather (sig * 10 + d) ds else (sig, d :: ds)

/-- `f * 10 ^ e`, in steps of at most `10 ^ 308`. -/
def scale (f : Float) (e : Int) : Option Float :=
  if e.natAbs ≤ 308 then
    if 0 ≤ e then
      let g := f * Float.ofScientific 1 false e.toNat
      if g.isInf then none else some g
    else some (f / Float.ofScientific 1 false (-e).toNat)
  else if f == 0 then some f
  else if 0 ≤ e then none
  else scale (f / 1e308) (e + 308)
termination_by e.natAbs

/-- A decimal exponent as written: its sign and its digits. -/
structure Exponent where
  neg : Bool
  digits : List Nat

/-- The parts of a number as they stand in the text. -/
structure Parts where
  neg : Bool
  whole : List Nat
  frac : Option (List Nat)
  exp : Option Exponent

def ofDigits (ds : List Nat) : Nat := ds.foldl (fun n d => n * 10 + d) 0

def maxExponent : Nat := 0x7FFFFFFF

def signed (neg : Bool) (f : Float) : Float := if neg then -f else f

/-- The float with the given significand, the exponent `e` and the written exponent added to it. -/
def assemble (neg : Bool) (sig : Nat) (e : Int) (exp : Option Exponent) : Number :=
  match exp with
  | none => finish e
  | some x =>
    let n := ofDigits x.digits
    if n ≤ maxExponent then finish (if x.neg then e - n else e + n)
    else if sig ≠ 0 ∧ x.neg = false then huge
    else float (signed neg 0)
where
  finish (e : Int) : Number :=
    match scale sig.toUInt64.toFloat e with
    | some f => float (signed neg f)
    | none => huge

def ofParts (p : Parts) : Number :=
  let (sig, dropped) := gather 0 p.whole
  match p.frac, p.exp, dropped with
  | none, none, [] =>
    if p.neg = false then nat sig
    else if 0 < sig ∧ sig ≤ 0x8000000000000000 then neg sig
    else float (-sig.toUInt64.toFloat)
  | frac, exp, _ =>
    let fracDigits := frac.getD []
    let (sig', ignored) := gather sig fracDigits
    let taken := fracDigits.length - ignored.length
    assemble p.neg sig' ((dropped.length : Int) - taken) exp

def digitValue (c : Char) : Nat := c.toNat - 48

/-- Decimal digits at the front of a text. -/
def takeDigits (cs : List Char) : List Nat × List Char :=
  ((cs.takeWhile Char.isDigit).map digitValue, cs.dropWhile Char.isDigit)

def readFraction : List Char → Option (Option (List Nat) × List Char)
  | '.' :: cs =>
    match takeDigits cs with
    | ([], _) => none
    | (ds, rest) => some (some ds, rest)
  | cs => some (none, cs)

def readExponentDigits (neg : Bool) (cs : List Char) : Option (Option Exponent × List Char) :=
  match takeDigits cs with
  | ([], _) => none
  | (ds, rest) => some (some ⟨neg, ds⟩, rest)

def readExponent : List Char → Option (Option Exponent × List Char)
  | c :: cs =>
    if c = 'e' ∨ c = 'E' then
      match cs with
      | '+' :: cs => readExponentDigits false cs
      | '-' :: cs => readExponentDigits true cs
      | cs => readExponentDigits false cs
    else some (none, c :: cs)
  | [] => some (none, [])

/-- Digits before the point: one zero, or digits that do not start with zero. -/
def readWhole (cs : List Char) : Option (List Nat × List Char) :=
  match takeDigits cs with
  | ([], _) => none
  | (0 :: _ :: _, _) => none
  | (ds, rest) => some (ds, rest)

def readUnsigned (neg : Bool) (cs : List Char) : Option (Number × List Char) := do
  let (whole, cs) ← readWhole cs
  let (frac, cs) ← readFraction cs
  let (exp, cs) ← readExponent cs
  return (ofParts ⟨neg, whole, frac, exp⟩, cs)

/-- A number at the front of a text, and what follows it. -/
def read : List Char → Option (Number × List Char)
  | '-' :: cs => readUnsigned true cs
  | cs => readUnsigned false cs

/-- A decimal exponent with its sign, which is written also when positive. -/
def exponentText (e : Int) : List Char :=
  'e' :: (if e < 0 then '-' else '+') :: Decimal.digitChars e.natAbs

/--
Digits with the leading one at `10 ^ e`: positional from `10 ^ -5` to below `10 ^ 16`, always with a
digit on both sides of the point, and scientific elsewhere.
-/
def layout (ds : List Char) (e : Int) : List Char :=
  if 0 ≤ e ∧ e < 16 then
    let n := e.toNat + 1
    let frac := ds.drop n
    ds.take n ++ List.replicate (n - ds.length) '0' ++ '.' :: (if frac.isEmpty then ['0'] else frac)
  else if -5 ≤ e ∧ e < 0 then '0' :: '.' :: (List.replicate (-e - 1).toNat '0' ++ ds)
  else match ds with
    | d :: r :: rs => d :: '.' :: r :: rs ++ exponentText e
    | ds => ds ++ exponentText e

/-- The fewest digits that single out the number; no text for infinities and NaN. -/
def floatText (x : Float) : List Char :=
  match Decimal.Binary.ofFloat? x with
  | none => "null".toList
  | some b =>
    let d := Decimal.shortest b
    let ds := Decimal.digitChars d.digits
    (if b.neg then ['-'] else []) ++ layout ds (d.exp + ds.length - 1)

def text : Number → List Char
  | nat n => (toString n).toList
  | neg n => '-' :: (toString n).toList
  | float x => floatText x
  | huge => "null".toList

end Number

/-- A document. A text that escapes half of a surrogate pair has no characters of its own: it is kept as
`none`, which a reader of strings refuses and a reader that skips the member does not mind. -/
inductive Value where
  | null
  | bool (b : Bool)
  | num (n : Number)
  | str (s : Option String)
  | arr (xs : List Value)
  /-- Members in the order of the text, repeated names included. -/
  | obj (ms : List (Option String × Value))

namespace Value

def text (s : String) : Value := str (some s)
def nat (n : Nat) : Value := num (.nat n)
def float (x : Float) : Value := num (.float x)
def record (ms : List (String × Value)) : Value := obj (ms.map fun (k, v) => (some k, v))

end Value
end Triage.Json
