import Triage.Text.Case
import Triage.Text.Property

/-! Sets of code points, as ranges in ascending order with gaps between them. -/
namespace Triage.Regex

abbrev ScalarSet := List (Nat × Nat)

namespace ScalarSet

def maxScalar : Nat := 0x10FFFF

def has (s : ScalarSet) (n : Nat) : Bool := Text.inRanges s n

/-- Any list of ranges in ascending order and merged. -/
def ofRanges (rs : List (Nat × Nat)) : ScalarSet :=
  (rs.mergeSort fun x y => x.1 ≤ y.1).foldl step [] |>.reverse
where
  step : List (Nat × Nat) → Nat × Nat → List (Nat × Nat)
    | (a, b) :: done, (c, d) => if c ≤ b + 1 then (a, max b d) :: done else (c, d) :: (a, b) :: done
    | [], r => [r]

def union (s t : ScalarSet) : ScalarSet := ofRanges (s ++ t)

/-- The gaps from `n` on. -/
def gapsFrom (n : Nat) : ScalarSet → ScalarSet
  | [] => if n ≤ maxScalar then [(n, maxScalar)] else []
  | (a, b) :: rest => if n < a then (n, a - 1) :: gapsFrom (b + 1) rest else gapsFrom (b + 1) rest

def compl (s : ScalarSet) : ScalarSet := gapsFrom 0 s

def inter (s t : ScalarSet) : ScalarSet := compl (union (compl s) (compl t))

def diff (s t : ScalarSet) : ScalarSet := inter s (compl t)

def symmDiff (s t : ScalarSet) : ScalarSet := union (diff s t) (diff t s)

def isAscii (s : ScalarSet) : Bool := s.all fun r => r.2 < 128

/-- The other members of those pairs that have one member in the set. -/
def caseImage (p : Text.CasePairs) (s : ScalarSet) : ScalarSet :=
  (List.range p.count).flatMap fun k =>
    let x := p.low + k * p.step
    let y := p.high + k * p.step
    (if has s x then [(y, y)] else []) ++ (if has s y then [(x, x)] else [])

def foldOnce (s : ScalarSet) : ScalarSet :=
  union s (Text.casePairs.flatMap fun p => caseImage p s)

/-- With every code point that differs from a member only in case. -/
def foldCase (s : ScalarSet) : ScalarSet := foldOnce (foldOnce s)

def ofCategories (cs : List Text.Category) : ScalarSet :=
  ofRanges (cs.flatMap Text.Category.ranges)

def ofProperty (p : Text.Property) : ScalarSet :=
  union (diff (ofCategories p.categories) (Text.Ranges.read p.less)) (Text.Ranges.read p.more)

def digit : ScalarSet := ofCategories [.decimalNumber]

def space : ScalarSet := ofProperty Text.whiteSpaceProperty

/-- Letters, marks, decimal digits, connectors and the two joiners. -/
def word : ScalarSet :=
  [Text.alphabeticProperty, Text.joinControlProperty].foldl (fun s p => union s (ofProperty p))
    (ofCategories [.nonspacingMark, .spacingMark, .enclosingMark, .decimalNumber,
      .connectorPunctuation])

end ScalarSet
end Triage.Regex
