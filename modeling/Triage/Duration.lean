import Triage.Decimal

/-! Spans of time and their text, which is exact to the nanosecond. -/
namespace Triage

/-- Whole seconds and nanoseconds below one second. -/
structure Duration where
  secs : Nat
  nanos : Nat
  nanos_lt : nanos < 1000000000 := by omega

namespace Duration

instance : DecidableEq Duration := fun a b =>
  if h : a.secs = b.secs ∧ a.nanos = b.nanos then
    isTrue (by cases a; cases b; simp_all)
  else isFalse (by intro e; subst e; simp at h)

/-- Full seconds among the nanoseconds are carried over. -/
def ofParts (secs nanos : Nat) : Duration :=
  ⟨secs + nanos / 1000000000, nanos % 1000000000, Nat.mod_lt _ (by decide)⟩

def ofSecs (n : Nat) : Duration := ⟨n, 0, by decide⟩

def ofMillis (n : Nat) : Duration := ofParts 0 (n * 1000000)

def toNanos (d : Duration) : Nat := d.secs * 1000000000 + d.nanos

def toMillis (d : Duration) : Nat := d.toNanos / 1000000

/-- A point and the digits of `part / 10 ^ width` up to the last that is not zero. -/
def fraction (width part : Nat) : List Char :=
  if part = 0 then []
  else '.' :: ((Decimal.lastDigits width part).reverse.dropWhile (· == '0')).reverse

/-- `whole` and a fraction of `width` places, in the given unit. -/
def decimal (whole part width : Nat) (unit : String) : String :=
  toString whole ++ String.ofList (fraction width part) ++ unit

/-- Written in the largest of s, ms, µs and ns that leaves a whole part; no digit is dropped. -/
def text (d : Duration) : String :=
  if d.secs > 0 then decimal d.secs d.nanos 9 "s"
  else if d.nanos ≥ 1000000 then decimal (d.nanos / 1000000) (d.nanos % 1000000) 6 "ms"
  else if d.nanos ≥ 1000 then decimal (d.nanos / 1000) (d.nanos % 1000) 3 "µs"
  else decimal d.nanos 0 0 "ns"

end Duration
end Triage
