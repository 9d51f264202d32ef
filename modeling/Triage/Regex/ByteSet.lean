import Triage.Bytes

/-! Sets of bytes, one bit for each. -/
namespace Triage.Regex

abbrev ByteSet := BitVec 256

namespace ByteSet

def empty : ByteSet := 0#256

def all : ByteSet := BitVec.allOnes 256

def has (s : ByteSet) (b : UInt8) : Bool := s.getLsbD b.toNat

def single (b : UInt8) : ByteSet := 1#256 <<< b.toNat

/-- The bytes from `lo` to `hi`. -/
def range (lo hi : Nat) : ByteSet :=
  (BitVec.ofNat 256 (Nat.pow 2 (hi + 1 - lo) - 1)) <<< lo

def ofRanges (rs : List (Nat × Nat)) : ByteSet :=
  rs.foldl (fun s r => s ||| range r.1 r.2) empty

def upper : ByteSet := range 65 90
def lower : ByteSet := range 97 122

/-- With the other case of each ASCII letter. -/
def foldCase (s : ByteSet) : ByteSet :=
  s ||| ((s &&& upper) <<< 32) ||| ((s &&& lower) >>> 32)

def digit : ByteSet := range 48 57

/-- Letters, digits and the low line. -/
def word : ByteSet := digit ||| upper ||| lower ||| single 95

/-- The six blanks of ASCII. -/
def space : ByteSet := range 9 13 ||| single 32

/-- The members as ranges in ascending order with gaps between them. -/
def ranges (s : ByteSet) : List (Nat × Nat) :=
  (List.range 256).foldr (fun i rs =>
    if s.getLsbD i then
      match rs with
      | (a, b) :: rest => if a = i + 1 then (i, b) :: rest else (i, i) :: rs
      | [] => [(i, i)]
    else rs) []

def isAscii (s : ByteSet) : Bool := s &&& ~~~(range 0 127) == empty

end ByteSet
end Triage.Regex
