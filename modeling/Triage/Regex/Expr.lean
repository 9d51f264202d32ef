import Triage.Regex.PropertyName

/-! Regular expressions as they are written. -/
namespace Triage.Regex

/-- A character, and whether it was written as `\x` with two digits, which can mean a byte. -/
structure Literal where
  char : Char
  raw : Bool := false
  deriving DecidableEq

/-- Conditions on a place between two bytes. -/
inductive Anchor where
  | lineStart | lineEnd
  | textStart | textEnd
  | wordBoundary | notWordBoundary
  | wordStart | wordEnd
  | wordStartHalf | wordEndHalf
  deriving DecidableEq

/-- Classes with a letter of their own. -/
inductive Shorthand where
  | digit | space | word
  deriving DecidableEq

/-- Classes with a name between colons. -/
inductive Posix where
  | alnum | alpha | ascii | blank | cntrl | digit | graph | lower | print | punct | space | upper
  | word | xdigit
  deriving DecidableEq

inductive SetOp where
  | inter | diff | symmDiff
  deriving DecidableEq

mutual

inductive ClassItem where
  | literal (l : Literal)
  | range (lo hi : Literal)
  | posix (name : Posix) (negated : Bool)
  | shorthand (kind : Shorthand) (negated : Bool)
  | property (name : PropertyName) (negated : Bool)
  | nested (negated : Bool) (set : ClassSet)

/-- What stands between brackets. -/
inductive ClassSet where
  | items (xs : List ClassItem)
  | op (kind : SetOp) (left right : ClassSet)

end

/-- What a group of flags says about each flag; `none` leaves it as it is. -/
structure FlagChange where
  ignoreCase : Option Bool := none
  multiLine : Option Bool := none
  dotAll : Option Bool := none
  swapGreed : Option Bool := none
  unicode : Option Bool := none
  crlf : Option Bool := none
  verbose : Option Bool := none
  deriving DecidableEq

inductive Expr where
  | empty
  /-- Flags for what follows in the same group. -/
  | flags (change : FlagChange)
  | literal (l : Literal)
  | dot
  | anchor (kind : Anchor)
  | shorthand (kind : Shorthand) (negated : Bool)
  | property (name : PropertyName) (negated : Bool)
  | set (negated : Bool) (s : ClassSet)
  | rep (e : Expr) (min : Nat) (max : Option Nat) (greedy : Bool)
  /-- A group with flags of its own; it may be one whose ends are remembered. -/
  | group (remembered : Bool) (change : FlagChange) (e : Expr)
  | alt (es : List Expr)
  | cat (es : List Expr)

mutual

def ClassItem.depth : ClassItem → Nat
  | .nested _ s => s.depth + 1
  | _ => 0

/-- Two or more items nest one level deeper than a single one. -/
def ClassSet.depth : ClassSet → Nat
  | .items [] => 0
  | .items [x] => x.depth
  | .items (x :: y :: xs) => max x.depth (max y.depth (itemsDepth xs)) + 1
  | .op _ a b => max a.depth b.depth + 1

def itemsDepth : List ClassItem → Nat
  | [] => 0
  | x :: xs => max x.depth (itemsDepth xs)

end

mutual

/-- How deep the expression nests. -/
def Expr.depth : Expr → Nat
  | .set _ s => s.depth + 1
  | .rep e _ _ _ => e.depth + 1
  | .group _ _ e => e.depth + 1
  | .alt es => exprsDepth es + 1
  | .cat es => exprsDepth es + 1
  | _ => 0

def exprsDepth : List Expr → Nat
  | [] => 0
  | e :: es => max e.depth (exprsDepth es)

end

/-- Expressions in a row. -/
def Expr.inRow : List Expr → Expr
  | [] => .empty
  | [e] => e
  | es => .cat es

/-- Expressions to choose from. -/
def Expr.oneOf : List Expr → Expr
  | [e] => e
  | es => .alt es

end Triage.Regex
