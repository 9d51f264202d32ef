import Triage.Regex.Pattern

/-!
Patterns in the form in which they are searched for. Repetitions are kept in a few forms, each with
one rule for how a search goes on.
-/
namespace Triage.Regex

inductive Node where
  | empty
  /-- One byte of the set. -/
  | set (s : ByteSet)
  /-- One character of the set, in UTF-8. -/
  | scalar (s : ScalarSet)
  | look (l : Look)
  | seq (a b : Node)
  /-- `a`, or else `b`. -/
  | alt (a b : Node)
  /-- `x` or nothing, `x` being preferred if greedy. -/
  | opt (x : Node) (greedy : Bool)
  /-- At least one round of `x`. -/
  | plus (x : Node) (greedy : Bool)
  /-- Any number of further rounds of `x`. -/
  | more (x : Node) (greedy : Bool)
  /-- Exactly `n` rounds of `x`. -/
  | times (x : Node) (n : Nat)
  /-- At most `n` rounds of `x`. -/
  | upTo (x : Node) (n : Nat) (greedy : Bool)
  deriving DecidableEq

namespace Node

/-- Every match takes at least one byte. -/
def consumes : Node → Bool
  | set _ | scalar _ => true
  | seq a b => a.consumes || b.consumes
  | alt a b => a.consumes && b.consumes
  | plus x _ => x.consumes
  | times x n => n != 0 && x.consumes
  | empty | look _ | opt _ _ | more _ _ | upTo _ _ _ => false

/-- Number of goals that a search can meet within the expression. -/
def places : Node → Nat
  | empty | set _ | scalar _ | look _ => 1
  | seq a b | alt a b => 1 + a.places + b.places
  | opt x _ | more x _ => 1 + x.places
  | plus x _ => 2 + x.places
  | times x n | upTo x n _ => (n + 1) * (x.places + 1)

/-- Nodes in a row. -/
def inRow : List Node → Node
  | [] => empty
  | [n] => n
  | n :: ns => seq n (inRow ns)

/-- Nodes to choose from. -/
def oneOf : List Node → Node
  | [] => set ByteSet.empty
  | [n] => n
  | n :: ns => alt n (oneOf ns)

/-- The bytes one after another. -/
def ofBytes (bs : Bytes) : Node := inRow (bs.map fun b => set (ByteSet.single b))

/-- From `min` to `max` rounds of `x`. -/
def rep (x : Node) (min : Nat) (max : Option Nat) (greedy : Bool) : Node :=
  match min, max with
  | 0, some 0 => empty
  | 1, some 1 => x
  | 0, some 1 => opt x greedy
  | 0, none => if x.consumes then more x greedy else opt (plus x greedy) greedy
  | 1, none => plus x greedy
  | n, none => seq (times x (n - 1)) (plus x greedy)
  | n, some m =>
    if m ≤ n then times x n
    else if n = 0 then upTo x m greedy
    else seq (times x n) (upTo x (m - n) greedy)

end Node

mutual

/-- The node of a pattern. -/
def Pattern.toNode : Pattern → Node
  | .empty => .empty
  | .literal bs => .ofBytes bs
  | .bytes s => .set s
  | .scalars s => .scalar s
  | .look l => .look l
  | .rep x min max greedy => x.toNode.rep min max greedy
  | .group x => x.toNode
  | .cat xs => .inRow (nodesOf xs)
  | .alt xs => .oneOf (nodesOf xs)

def nodesOf : List Pattern → List Node
  | [] => []
  | x :: xs => x.toNode :: nodesOf xs

end

end Triage.Regex
