import Triage.Regex.ByteSet
import Triage.Regex.Expr
import Triage.Text.Utf8

/-!
Regular expressions over bytes, with every flag resolved, in a simple form: literals stand together,
choices between single characters are sets, and what choices begin with in common stands before them.
-/
namespace Triage.Regex

/-- Conditions on a place, given the bytes on both sides. -/
inductive Look where
  | textStart | textEnd
  /-- After a line feed; before one. -/
  | lineStart | lineEnd
  /-- The same with carriage returns, alone or before a line feed. -/
  | crlfStart | crlfEnd
  | word (unicode : Bool) | notWord (unicode : Bool)
  | wordStart (unicode : Bool) | wordEnd (unicode : Bool)
  | wordStartHalf (unicode : Bool) | wordEndHalf (unicode : Bool)
  deriving DecidableEq

inductive Pattern where
  | empty
  /-- These bytes, of which there is at least one. -/
  | literal (bs : Bytes)
  /-- One byte of the set. -/
  | bytes (s : ByteSet)
  /-- One character of the set, in UTF-8. -/
  | scalars (s : ScalarSet)
  | look (l : Look)
  /-- From `min` to `max` rounds. -/
  | rep (x : Pattern) (min : Nat) (max : Option Nat) (greedy : Bool)
  /-- A group whose ends are remembered. -/
  | group (x : Pattern)
  | cat (xs : List Pattern)
  /-- The first of these that leads to a match. -/
  | alt (xs : List Pattern)

namespace Pattern

mutual

/-- No match takes a byte. -/
def weightless : Pattern → Bool
  | .empty | .look _ => true
  | .literal _ | .bytes _ | .scalars _ => false
  | .rep x _ _ _ => x.weightless
  | .group x => x.weightless
  | .cat xs => allWeightless xs
  | .alt xs => allWeightless xs

def allWeightless : List Pattern → Bool
  | [] => true
  | x :: xs => x.weightless && allWeightless xs

end

mutual

/-- Every match takes at least one byte. -/
def consumes : Pattern → Bool
  | .empty | .look _ => false
  | .literal _ | .scalars _ => true
  | .bytes s => s != ByteSet.empty
  | .rep x min _ _ => min != 0 && x.consumes
  | .group x => x.consumes
  | .cat xs => anyConsumes xs
  | .alt xs => allConsume xs

def anyConsumes : List Pattern → Bool
  | [] => false
  | x :: xs => x.consumes || anyConsumes xs

def allConsume : List Pattern → Bool
  | [] => true
  | x :: xs => x.consumes && allConsume xs

end

mutual

/-- Number of parts. -/
def size : Pattern → Nat
  | .empty | .literal _ | .bytes _ | .scalars _ | .look _ => 1
  | .rep x _ _ _ => x.size + 1
  | .group x => x.size + 1
  | .cat xs => sizes xs + 1
  | .alt xs => sizes xs + 1

def sizes : List Pattern → Nat
  | [] => 0
  | x :: xs => x.size + sizes xs

end

mutual

/-- The same pattern; a group is the same as no other. -/
def same : Pattern → Pattern → Bool
  | .empty, .empty => true
  | .literal a, .literal b => a == b
  | .bytes s, .bytes t => s == t
  | .scalars s, .scalars t => s == t
  | .look l, .look m => l == m
  | .rep x a b g, .rep y c d h => a == c && b == d && g == h && x.same y
  | .cat xs, .cat ys => allSame xs ys
  | .alt xs, .alt ys => allSame xs ys
  | _, _ => false

def allSame : List Pattern → List Pattern → Bool
  | [], [] => true
  | x :: xs, y :: ys => x.same y && allSame xs ys
  | _, _ => false

end

/-- One byte of a set; a set of one byte is a literal. -/
def ofBytes (s : ByteSet) : Pattern :=
  match s.ranges with
  | [(a, b)] => if a = b then .literal [a.toUInt8] else .bytes s
  | _ => .bytes s

/-- One character of a set; a set of one character is a literal. -/
def ofScalars (s : ScalarSet) : Pattern :=
  match s with
  | [] => .bytes ByteSet.empty
  | [(a, b)] => if a = b then .literal (Utf8.encodeChar (Char.ofNat a)) else .scalars s
  | _ => .scalars s

def ofText (bs : Bytes) : Pattern := if bs.isEmpty then .empty else .literal bs

/-- The parts of a row. -/
def parts : Pattern → List Pattern
  | .empty => []
  | .cat xs => xs
  | x => [x]

/-- A part in front of others, literals being joined. -/
def joinLiterals : Pattern → List Pattern → List Pattern
  | .literal a, .literal b :: xs => .literal (a ++ b) :: xs
  | x, xs => x :: xs

/-- Patterns in a row. -/
def inRow (xs : List Pattern) : Pattern :=
  match (xs.flatMap parts).foldr joinLiterals [] with
  | [] => .empty
  | [x] => x
  | ys => .cat ys

/-- The branches of a choice. -/
def branches : Pattern → List Pattern
  | .alt xs => xs
  | x => [x]

/-- The character that a literal consists of. -/
def singleChar? : Pattern → Option (Nat × Nat)
  | .literal bs =>
    match Utf8.first? bs with
    | some (n, k) => if k = bs.length then some (n, n) else none
    | none => none
  | _ => none

def singleByte? : Pattern → Option ByteSet
  | .literal [b] => some (ByteSet.single b)
  | _ => none

def scalarClass? : Pattern → Option ScalarSet
  | .scalars s => some s
  | .bytes s => if s.isAscii then some s.ranges else none
  | _ => none

def byteClass? : Pattern → Option ByteSet
  | .bytes s => some s
  | .scalars s => if s.isAscii then some (ByteSet.ofRanges s) else none
  | _ => none

/-- A choice between single characters or sets as one set. -/
def asSet? (xs : List Pattern) : Option Pattern :=
  ((xs.mapM singleChar?).map fun rs => ofScalars (ScalarSet.ofRanges rs)) <|>
  ((xs.mapM singleByte?).map fun ss => ofBytes (ss.foldl (· ||| ·) ByteSet.empty)) <|>
  ((xs.mapM scalarClass?).map fun ss => ofScalars (ScalarSet.ofRanges ss.flatten)) <|>
  ((xs.mapM byteClass?).map fun ss => ofBytes (ss.foldl (· ||| ·) ByteSet.empty))

/-- What two rows begin with in common. -/
def commonStart : List Pattern → List Pattern → List Pattern
  | x :: xs, y :: ys => if x.same y then x :: commonStart xs ys else []
  | _, _ => []

/-- The parts of a row of several. -/
def row? : Pattern → Option (List Pattern)
  | .cat xs => some xs
  | _ => none

/-- What all branches, being rows, begin with in common, and what is left of them. -/
def liftStart? (xs : List Pattern) : Option (List Pattern × List Pattern) :=
  match xs.mapM row? with
  | some (r :: rs) =>
    match rs.foldl commonStart r with
    | [] => none
    | start => some (start, (r :: rs).map fun ys => inRow (ys.drop start.length))
  | _ => none

/-- Patterns to choose from; the first argument bounds how often a common beginning is lifted. -/
def oneOfWithin : Nat → List Pattern → Pattern
  | 0, xs => .alt xs
  | fuel + 1, xs =>
    match xs.flatMap branches with
    | [] => .bytes ByteSet.empty
    | [x] => x
    | ys =>
      match asSet? ys with
      | some s => s
      | none =>
        match liftStart? ys with
        | some (start, rests) => inRow (start ++ [oneOfWithin fuel rests])
        | none => .alt ys

/-- Patterns to choose from. -/
def oneOf (xs : List Pattern) : Pattern := oneOfWithin (sizes xs + 1) xs

/-- From `min` to `max` rounds of `x`; rounds that take no byte are not repeated. -/
def repeated (x : Pattern) (min : Nat) (max : Option Nat) (greedy : Bool) : Pattern :=
  let (min, max) :=
    if x.weightless then (Nat.min min 1, some (Nat.min (max.getD 1) 1)) else (min, max)
  match min, max with
  | 0, some 0 => .empty
  | 1, some 1 => x
  | min, max => .rep x min max greedy

end Pattern

/-- The flags in force at some point of an expression. -/
structure Flags where
  ignoreCase : Bool := false
  multiLine : Bool := false
  dotAll : Bool := false
  swapGreed : Bool := false
  unicode : Bool := false
  crlf : Bool := false
  deriving DecidableEq

def Flags.apply (f : Flags) (c : FlagChange) : Flags where
  ignoreCase := c.ignoreCase.getD f.ignoreCase
  multiLine := c.multiLine.getD f.multiLine
  dotAll := c.dotAll.getD f.dotAll
  swapGreed := c.swapGreed.getD f.swapGreed
  unicode := c.unicode.getD f.unicode
  crlf := c.crlf.getD f.crlf

/-- Ranges of a named class, all within ASCII. -/
def Posix.ranges : Posix → List (Nat × Nat)
  | alnum => [(48, 57), (65, 90), (97, 122)]
  | alpha => [(65, 90), (97, 122)]
  | ascii => [(0, 127)]
  | blank => [(9, 9), (32, 32)]
  | cntrl => [(0, 31), (127, 127)]
  | digit => [(48, 57)]
  | graph => [(33, 126)]
  | lower => [(97, 122)]
  | print => [(32, 126)]
  | punct => [(33, 47), (58, 64), (91, 96), (123, 126)]
  | space => [(9, 13), (32, 32)]
  | upper => [(65, 90)]
  | word => [(48, 57), (65, 90), (95, 95), (97, 122)]
  | xdigit => [(48, 57), (65, 70), (97, 102)]

def Shorthand.bytes : Shorthand → ByteSet
  | digit => ByteSet.digit
  | space => ByteSet.space
  | word => ByteSet.word

def Shorthand.scalars : Shorthand → ScalarSet
  | digit => ScalarSet.digit
  | space => ScalarSet.space
  | word => ScalarSet.word

/-- The characters with a property; cases are joined before the rest is taken. -/
def propertyScalars? (fold : Bool) (name : PropertyName) (negated : Bool) : Option ScalarSet := do
  let s ← name.scalars?
  let s := if fold then s.foldCase else s
  return if negated then s.compl else s

/-- The byte that a literal stands for in a class; a character beyond ASCII stands for none. -/
def Literal.byte? (l : Literal) : Option Nat :=
  if l.char.toNat < 128 ∨ l.raw then some l.char.toNat else none

mutual

def ClassItem.bytes? (fold : Bool) : ClassItem → Option ByteSet
  | .literal l => l.byte?.map fun n => ByteSet.range n n
  | .range lo hi => do return ByteSet.range (← lo.byte?) (← hi.byte?)
  | .posix k negated =>
    let s := ByteSet.ofRanges k.ranges
    let s := if fold then s.foldCase else s
    some (if negated then ~~~s else s)
  | .shorthand k negated => some (if negated then ~~~k.bytes else k.bytes)
  | .property _ _ => none
  | .nested negated s => do
    let s ← s.bytes? fold
    let s := if fold then s.foldCase else s
    return if negated then ~~~s else s

/-- The bytes of a class; cases are joined before two sets are combined. -/
def ClassSet.bytes? (fold : Bool) : ClassSet → Option ByteSet
  | .items xs => itemBytes? fold xs
  | .op k a b => do
    let a ← a.bytes? fold
    let b ← b.bytes? fold
    let a := if fold then a.foldCase else a
    let b := if fold then b.foldCase else b
    return match k with
      | .inter => a &&& b
      | .diff => a &&& ~~~b
      | .symmDiff => a ^^^ b

def itemBytes? (fold : Bool) : List ClassItem → Option ByteSet
  | [] => some ByteSet.empty
  | x :: xs => do return (← x.bytes? fold) ||| (← itemBytes? fold xs)

end

mutual

def ClassItem.scalars? (fold : Bool) : ClassItem → Option ScalarSet
  | .literal l => some [(l.char.toNat, l.char.toNat)]
  | .range lo hi => some [(lo.char.toNat, hi.char.toNat)]
  | .posix k negated =>
    let s := ScalarSet.ofRanges k.ranges
    let s := if fold then s.foldCase else s
    some (if negated then s.compl else s)
  | .shorthand k negated => some (if negated then k.scalars.compl else k.scalars)
  | .property name negated => propertyScalars? fold name negated
  | .nested negated s => do
    let s ← s.scalars? fold
    let s := if fold then s.foldCase else s
    return if negated then s.compl else s

/-- The characters of a class; cases are joined before two sets are combined. -/
def ClassSet.scalars? (fold : Bool) : ClassSet → Option ScalarSet
  | .items xs => itemScalars? fold xs
  | .op k a b => do
    let a ← a.scalars? fold
    let b ← b.scalars? fold
    let a := if fold then a.foldCase else a
    let b := if fold then b.foldCase else b
    return match k with
      | .inter => a.inter b
      | .diff => a.diff b
      | .symmDiff => a.symmDiff b

def itemScalars? (fold : Bool) : List ClassItem → Option ScalarSet
  | [] => some []
  | x :: xs => do return (← x.scalars? fold).union (← itemScalars? fold xs)

end

/-- A class as a pattern. -/
def setPattern? (f : Flags) (negated : Bool) (s : ClassSet) : Option Pattern :=
  if f.unicode then do
    let t ← s.scalars? f.ignoreCase
    let t := if f.ignoreCase then t.foldCase else t
    return .ofScalars (if negated then t.compl else t)
  else do
    let t ← s.bytes? f.ignoreCase
    let t := if f.ignoreCase then t.foldCase else t
    return .ofBytes (if negated then ~~~t else t)

/-- A character by itself: a raw byte, its cases if these do not count, or its UTF-8 bytes. -/
def literalPattern (f : Flags) (l : Literal) : Pattern :=
  let n := l.char.toNat
  if f.unicode then
    if f.ignoreCase ∧ Text.caseVariants n ≠ [] then
      .scalars (ScalarSet.ofRanges ((n, n) :: (Text.caseVariants n).map fun v => (v, v)))
    else .literal (Utf8.encodeChar l.char)
  else if l.raw ∧ 128 ≤ n then .literal [n.toUInt8]
  else if f.ignoreCase ∧ l.char.isAlpha then .bytes (ByteSet.range n n).foldCase
  else .literal (Utf8.encodeChar l.char)

/-- Any byte or character, lines being ended by line feeds and, on request, carriage returns. -/
def dotPattern (f : Flags) : Pattern :=
  let ends : List (Nat × Nat) :=
    if f.dotAll then [] else if f.crlf then [(10, 10), (13, 13)] else [(10, 10)]
  if f.unicode then .scalars (ScalarSet.compl ends) else .bytes (~~~(ByteSet.ofRanges ends))

def anchorLook (f : Flags) : Anchor → Look
  | .lineStart =>
    if f.multiLine then if f.crlf then .crlfStart else .lineStart else .textStart
  | .lineEnd => if f.multiLine then if f.crlf then .crlfEnd else .lineEnd else .textEnd
  | .textStart => .textStart
  | .textEnd => .textEnd
  | .wordBoundary => .word f.unicode
  | .notWordBoundary => .notWord f.unicode
  | .wordStart => .wordStart f.unicode
  | .wordEnd => .wordEnd f.unicode
  | .wordStartHalf => .wordStartHalf f.unicode
  | .wordEndHalf => .wordEndHalf f.unicode

mutual

/-- Resolves the flags; gives the pattern and the flags for what follows in the same group. -/
def Expr.resolve (f : Flags) : Expr → Option (Pattern × Flags)
  | .empty => some (.empty, f)
  | .flags c => some (.empty, f.apply c)
  | .literal l => some (literalPattern f l, f)
  | .dot => some (dotPattern f, f)
  | .anchor a => some (.look (anchorLook f a), f)
  | .shorthand k negated =>
    if f.unicode then some (.ofScalars (if negated then k.scalars.compl else k.scalars), f)
    else some (.ofBytes (if negated then ~~~k.bytes else k.bytes), f)
  | .property name negated =>
    if f.unicode then (propertyScalars? f.ignoreCase name negated).map fun s => (.ofScalars s, f)
    else none
  | .set negated s => (setPattern? f negated s).map (·, f)
  | .rep e min max greedy => do
    let (x, f) ← e.resolve f
    return (x.repeated min max (greedy != f.swapGreed), f)
  | .group remembered c e => do
    let (x, _) ← e.resolve (f.apply c)
    return (if remembered then .group x else x, f)
  | .alt es => do
    let (xs, f) ← resolveAll f es
    return (.oneOf xs, f)
  | .cat es => do
    let (xs, f) ← resolveAll f es
    return (.inRow xs, f)

def resolveAll (f : Flags) : List Expr → Option (List Pattern × Flags)
  | [] => some ([], f)
  | e :: es => do
    let (x, f) ← e.resolve f
    let (xs, f) ← resolveAll f es
    return (x :: xs, f)

end

end Triage.Regex
