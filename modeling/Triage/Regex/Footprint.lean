import Triage.Regex.Pattern

/-!
The room that an automaton for a pattern takes, in bytes. A pattern is refused if the automaton that
reads forwards or the one that reads backwards takes too much. Only the former remembers groups.
-/
namespace Triage.Regex

namespace Footprint

/-- A state without what it leads to. -/
def state : Nat := 32

/-- One range of bytes in a state that has several. -/
def range : Nat := 8

/-- One state that another can go to without reading. -/
def branch : Nat := 4

/-- A state for these ranges, and one behind it. -/
def ofSet (ranges : Nat) : Nat := 2 * state + range * ranges

/-! ### Characters as sequences of ranges of bytes -/

abbrev ByteRange := Nat × Nat

/-- Numbers of `k + 1` digits to the base 64 from `lo` to `hi`, as sequences of ranges of digits. -/
def digitRanges : Nat → Nat → Nat → List (List ByteRange)
  | 0, lo, hi => [[(lo, hi)]]
  | k + 1, lo, hi =>
    let unit := 64 ^ (k + 1)
    let a := lo / unit
    let b := hi / unit
    if a = b then (digitRanges k (lo % unit) (hi % unit)).map ((a, a) :: ·)
    else
      let ragged := lo % unit != 0
      let cut := hi % unit != unit - 1
      let head := if ragged then (digitRanges k (lo % unit) (unit - 1)).map ((a, a) :: ·) else []
      let first := if ragged then a + 1 else a
      let middle := if first + (if cut then 1 else 0) ≤ b then
        (digitRanges k 0 (unit - 1)).map ((first, if cut then b - 1 else b) :: ·) else []
      let last := if cut then (digitRanges k 0 (hi % unit)).map ((b, b) :: ·) else []
      head ++ middle ++ last

/-- Digits as bytes: the first one after its mark, the others as continuations. -/
def marked (mark : Nat) : List ByteRange → List ByteRange
  | [] => []
  | (a, b) :: rest => (a + mark, b + mark) :: rest.map fun r => (r.1 + 0x80, r.2 + 0x80)

/-- The stretches of code points of one length in UTF-8: bounds, digits after the first, mark. -/
def stretches : List (Nat × Nat × Nat × Nat) :=
  [(0, 0x7F, 0, 0), (0x80, 0x7FF, 1, 0xC0), (0x800, 0xD7FF, 2, 0xE0), (0xE000, 0xFFFF, 2, 0xE0),
   (0x10000, 0x10FFFF, 3, 0xF0)]

def sequencesOfRange (lo hi : Nat) : List (List ByteRange) :=
  stretches.flatMap fun (a, b, k, mark) =>
    if max lo a ≤ min hi b then (digitRanges k (max lo a) (min hi b)).map (marked mark) else []

/-- The encodings of the members, in order. -/
def sequences (s : ScalarSet) : List (List ByteRange) :=
  s.flatMap fun r => sequencesOfRange r.1 r.2

/-- Neighbouring sequences that begin alike, without their beginning. -/
def byHead : List (List ByteRange) → List (ByteRange × List (List ByteRange))
  | [] => []
  | [] :: rest => byHead rest
  | (r :: tail) :: rest =>
    match byHead rest with
    | (q, tails) :: groups =>
      if q = r then (q, tail :: tails) :: groups else (r, [tail]) :: (q, tails) :: groups
    | [] => [(r, [tail])]

/-- States by what they lead to; number 0 is the end. -/
abbrev States := List (List (ByteRange × Nat))

/-- The number of a state, which is new or known. -/
def intern (key : List (ByteRange × Nat)) (known : States) : Nat × States :=
  match known.idxOf? key with
  | some i => (known.length - i, known)
  | none => (known.length + 1, key :: known)

/-- The state that reads one of the sequences; states that lead to the same are shared. -/
def addState : Nat → List (List ByteRange) → States → Nat × States
  | 0, _, known => (0, known)
  | depth + 1, seqs, known =>
    match byHead seqs with
    | [] => (0, known)
    | groups =>
      let (key, known) := groups.foldl (fun (key, known) (r, tails) =>
        let (i, known) := addState depth tails known
        ((r, i) :: key, known)) ([], known)
      intern key known

/-- Number of different beginnings of the sequences, each in as many parts as it has. -/
def beginnings : Nat → List (List ByteRange) → Nat
  | 0, _ => 0
  | depth + 1, seqs =>
    ((byHead seqs).map fun (_, tails) => 1 + beginnings depth tails).sum

/-- A set of characters: read forwards, ends are shared; read backwards, beginnings. -/
def ofScalars (backwards : Bool) (s : ScalarSet) : Nat :=
  if s.isAscii then ofSet s.length
  else if backwards then
    let seqs := sequences s
    2 * state + branch * seqs.length + state * beginnings 4 seqs
  else (addState 4 (sequences s) []).2.foldl (fun n key => n + (state + range * key.length)) state

/-! ### A choice between literals -/

/-- Texts up to the first empty one, and the texts behind that. -/
def untilEmpty : List Bytes → List Bytes × Option (List Bytes)
  | [] => ([], none)
  | [] :: rest => ([], some rest)
  | t :: rest =>
    let (before, behind) := untilEmpty rest
    (t :: before, behind)

/-- Texts in stretches, an empty text being the end of one; empty texts at the beginning count once. -/
def stretchesOf : Nat → List Bytes → List (List Bytes)
  | 0, _ => []
  | fuel + 1, texts =>
    match untilEmpty texts with
    | (before, none) => [before]
    | (before, some rest) =>
      before :: stretchesOf fuel (if before.isEmpty then rest.dropWhile List.isEmpty else rest)

/-- First bytes in the order of their first appearance. -/
def firstBytes (texts : List Bytes) : List UInt8 := (texts.filterMap List.head?).eraseDups

/-- The rests of the texts that begin with a byte. -/
def restsAfter (b : UInt8) (texts : List Bytes) : List Bytes :=
  texts.filterMap fun t =>
    match t with
    | c :: rest => if c = b then some rest else none
    | [] => none

/-- The tree of the texts, without the state at its end. -/
def ofTree : Nat → List Bytes → Nat
  | 0, _ => 0
  | depth + 1, texts =>
    let chunks := stretchesOf (texts.length + 1) texts
    let filled := chunks.filter fun c => !c.isEmpty
    let own := (filled.map fun c =>
      let n := (firstBytes c).length
      if n = 1 then state else state + range * n).sum
    let below := (filled.map fun c =>
      ((firstBytes c).map fun b =>
        let rests := restsAfter b c
        if rests.all List.isEmpty then 0 else ofTree depth rests).sum).sum
    own + below + state + branch * (filled.length + chunks.length - 1)

def ofLiterals (backwards : Bool) (texts : List Bytes) : Nat :=
  let texts := if backwards then texts.map List.reverse else texts
  state + ofTree ((texts.map List.length).foldl max 0 + 1) texts

def literal? : Pattern → Option Bytes
  | .literal bs => some bs
  | _ => none

/-! ### Patterns -/

/-- From `min` to `max` rounds of what takes room `x`. -/
def ofRounds (x : Nat) (consumes : Bool) (min : Nat) (max : Option Nat) : Nat :=
  let choice := state + 2 * branch
  match min, max with
  | 0, some 1 => choice + x + state
  | 0, none => if consumes then choice + x else 2 * choice + x + state
  | n, none => n * x + choice
  | n, some m =>
    if m ≤ n then n * x
    else (if n = 0 then state else n * x) + state + (m - n) * (choice + x)

mutual

def ofPattern (backwards : Bool) : Pattern → Nat
  | .empty | .look _ => state
  | .literal bs => state * bs.length
  | .bytes s => ofSet s.ranges.length
  | .scalars s => ofScalars backwards s
  | .rep x min max _ => ofRounds (ofPattern backwards x) x.consumes min max
  | .group x => (if backwards then 0 else 2 * state) + ofPattern backwards x
  | .cat xs => ofPatterns backwards xs
  | .alt xs =>
    match xs.mapM literal? with
    | some texts => ofLiterals backwards texts
    | none => 2 * state + branch * xs.length + ofPatterns backwards xs

def ofPatterns (backwards : Bool) : List Pattern → Nat
  | [] => 0
  | x :: xs => ofPattern backwards x + ofPatterns backwards xs

end

mutual

/-- Whether every match begins where the data begin or, backwards, ends where they end. -/
def isBound (backwards : Bool) : Pattern → Bool
  | .look .textStart => !backwards
  | .look .textEnd => backwards
  | .group x => isBound backwards x
  | .rep x min _ _ => min != 0 && isBound backwards x
  | .cat xs => if backwards then lastBound xs else firstBound xs
  | .alt xs => allBound backwards xs
  | _ => false

def firstBound : List Pattern → Bool
  | [] => false
  | x :: xs => isBound false x || (x.weightless && firstBound xs)

def lastBound : List Pattern → Bool
  | [] => false
  | x :: xs => (lastBound xs) || (Pattern.allWeightless xs && isBound true x)

def allBound (backwards : Bool) : List Pattern → Bool
  | [] => true
  | x :: xs => isBound backwards x && allBound backwards xs

end

/-- The automaton: what may stand before a match, the pattern, and the state of a match. Forwards
the ends of the whole match are remembered as those of a group. -/
def total (backwards : Bool) (p : Pattern) : Nat :=
  let before := if isBound backwards p then state else state + 2 * branch + ofSet 1
  before + ofPattern backwards (.group p) + state

def limit : Nat := 10 * 1048576

def fits (p : Pattern) : Bool := total false p ≤ limit && total true p ≤ limit

end Footprint

/-- The pattern of an expression, unless it takes too much room. -/
def Expr.toPattern? (e : Expr) : Option Pattern := do
  let (p, _) ← e.resolve {}
  if Footprint.fits p then some p else none

end Triage.Regex
