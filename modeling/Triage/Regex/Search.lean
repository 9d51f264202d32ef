import Triage.Regex.Footprint
import Triage.Regex.Node
import Triage.Regex.Parser
import Triage.Error
import Triage.Json.Record

/-!
Searching bytes for a regular expression. A search keeps the list of all goals that can still
succeed, most preferred first, and moves them through the data together, one byte at a time; so its
time is bounded by the data times the expression.
-/
namespace Triage.Regex

/-- A place in the data: the bytes before it, last first, and the bytes after it. -/
structure Cursor where
  before : Bytes
  after : Bytes

namespace Cursor

def wordBefore (c : Cursor) (unicode : Bool) : Bool :=
  if unicode then (Utf8.last? c.before).any fun u => ScalarSet.word.has u.1
  else c.before.head?.any ByteSet.word.has

def wordAfter (c : Cursor) (unicode : Bool) : Bool :=
  if unicode then (Utf8.first? c.after).any fun u => ScalarSet.word.has u.1
  else c.after.head?.any ByteSet.word.has

/-- No part of a character that is not valid UTF-8 stands before the place. -/
def clearBefore (c : Cursor) (unicode : Bool) : Bool :=
  !unicode || c.before.isEmpty || (Utf8.last? c.before).isSome

/-- No part of a character that is not valid UTF-8 stands after the place. -/
def clearAfter (c : Cursor) (unicode : Bool) : Bool :=
  !unicode || c.after.isEmpty || (Utf8.first? c.after).isSome

end Cursor

def Look.holds (l : Look) (c : Cursor) : Bool :=
  let prev := c.before.head?
  let next := c.after.head?
  match l with
  | textStart => prev.isNone
  | textEnd => next.isNone
  | lineStart => prev.isNone || prev == some 10
  | lineEnd => next.isNone || next == some 10
  | crlfStart => prev.isNone || prev == some 10 || (prev == some 13 && next != some 10)
  | crlfEnd => next.isNone || next == some 13 || (next == some 10 && prev != some 13)
  | word u => c.wordBefore u != c.wordAfter u
  | notWord u => c.clearBefore u && c.clearAfter u && c.wordBefore u == c.wordAfter u
  | wordStart u => !c.wordBefore u && c.wordAfter u
  | wordEnd u => c.wordBefore u && !c.wordAfter u
  | wordStartHalf u => c.clearBefore u && !c.wordBefore u
  | wordEndHalf u => c.clearAfter u && !c.wordAfter u

/-- What is left to match: these nodes one after another. -/
abbrev Goal := List Node

/-- The preferred one first. -/
def prefer (greedy : Bool) (x y : Goal) : List Goal := if greedy then [x, y] else [y, x]

/-- The goals that replace one whose first node takes no byte by itself. -/
def unfoldGoal (c : Cursor) (n : Node) (k : Goal) : List Goal :=
  match n with
  | .empty => [k]
  | .look l => if l.holds c then [k] else []
  | .seq a b => [a :: b :: k]
  | .alt a b => [a :: k, b :: k]
  | .opt x g => prefer g (x :: k) k
  | .plus x g => [x :: .more x g :: k]
  | .more x g => prefer g (x :: .more x g :: k) k
  | .times _ 0 => [k]
  | .times x (n + 1) => [x :: .times x n :: k]
  | .upTo _ 0 _ => [k]
  | .upTo x (n + 1) g => prefer g (x :: .upTo x n g :: k) k
  | .set _ | .scalar _ => []

/-- Goals that wait for a byte, and whether a goal of lower preference is reached here. -/
structure Front where
  waiting : List Goal
  matched : Bool

/--
Unfolds goals until each waits for a byte, in order of preference and none twice. A goal with
nothing left is a match: what is less preferred is dropped. The first argument bounds the steps.
-/
def settle (c : Cursor) : Nat → (todo seen : List Goal) → Front
  | 0, _, _ => ⟨[], false⟩
  | _, [], _ => ⟨[], false⟩
  | fuel + 1, g :: todo, seen =>
    if seen.contains g then settle c fuel todo seen
    else
      match g with
      | [] => ⟨[], true⟩
      | n :: k =>
        match n with
        | .set _ | .scalar _ =>
          let r := settle c fuel todo (g :: seen)
          ⟨g :: r.waiting, r.matched⟩
        | n => settle c fuel (unfoldGoal c n k ++ todo) (g :: seen)

/-- What is left of a waiting goal after the first byte of `b :: rest`. -/
def advance (b : UInt8) (rest : Bytes) : Goal → Option Goal
  | .set s :: k => if s.has b then some k else none
  | .scalar s :: k =>
    match Utf8.first? (b :: rest) with
    | some (n, size) =>
      if s.has n then some (List.replicate (size - 1) (.set ByteSet.all) ++ k) else none
    | none => none
  | _ => none

/-- Number of steps in which any list of `n` goals settles. -/
def settleBound (places n : Nat) : Nat := 3 * places + n + 3

/--
Length of the preferred match among the goals, `taken` bytes being matched already and `best` being
the match to fall back on.
-/
def run (places : Nat) (before : Bytes) : (after : Bytes) → List Goal → (taken : Nat) →
    (best : Option Nat) → Option Nat
  | [], goals, taken, best =>
    let f := settle ⟨before, []⟩ (settleBound places goals.length) goals []
    if f.matched then some taken else best
  | b :: rest, goals, taken, best =>
    let f := settle ⟨before, b :: rest⟩ (settleBound places goals.length) goals []
    let best := if f.matched then some taken else best
    match f.waiting.filterMap (advance b rest) with
    | [] => best
    | next => run places (b :: before) rest next (taken + 1) best

/-- Length of the preferred match that starts at a place. -/
def Node.matchAt (n : Node) (c : Cursor) : Option Nat :=
  run n.places c.before c.after [[n]] 0 none

/-- A stretch of the data. -/
structure Span where
  start : Nat
  stop : Nat
  deriving DecidableEq

/--
All matches from the left, none within another. `skip` bytes still belong to the last match, which
stopped at `last`; an empty match does not stand right behind another match.
-/
def spansFrom (matchAt : Cursor → Option Nat) (before : Bytes) :
    (after : Bytes) → (pos skip : Nat) → (last : Option Nat) → List Span
  | after, pos, 0, last =>
    let hit := (matchAt ⟨before, after⟩).filter fun len => len ≠ 0 || last ≠ some pos
    match hit, after with
    | none, [] => []
    | some len, [] => [⟨pos, pos + len⟩]
    | none, b :: rest => spansFrom matchAt (b :: before) rest (pos + 1) 0 last
    | some len, b :: rest =>
      ⟨pos, pos + len⟩ :: spansFrom matchAt (b :: before) rest (pos + 1) (len - 1) (some (pos + len))
  | [], _, _ + 1, _ => []
  | b :: rest, pos, skip + 1, last => spansFrom matchAt (b :: before) rest (pos + 1) skip last

def spans (matchAt : Cursor → Option Nat) (data : Bytes) : List Span :=
  spansFrom matchAt [] data 0 0 none

end Triage.Regex

namespace Triage

/-- A hit of a regular expression: its bytes, each as the character of its number. -/
structure RegexMatch where
  offset : Nat
  text : String
  span : Nat × Nat
  deriving DecidableEq

namespace RegexMatch

def ofSpan (data : Bytes) (s : Regex.Span) : RegexMatch :=
  ⟨s.start, Bytes.latin1 ((data.drop s.start).take (s.stop - s.start)), (s.start, s.stop)⟩

/-- All hits of a regular expression, from left to right. -/
def findAll (pattern : String) (data : Bytes) : Result (List RegexMatch) :=
  match (Regex.Expr.parse? pattern).bind Regex.Expr.toPattern? with
  | none => .error (.invalidPattern "not a regular expression over bytes")
  | some p => .ok ((Regex.spans p.toNode.matchAt data).map (ofSpan data))

end RegexMatch

open Json

instance : Document RegexMatch where
  toJson m := .record
    [("offset", .nat m.offset), ("text", .text m.text),
     ("span", .arr [.nat m.span.1, .nat m.span.2])]
  ofJson? v := do
    let f ← v.fields? ["offset", "text", "span"]
    let pair : Value → Option (Nat × Nat)
      | .arr [a, b] => do return (← a.nat?, ← b.nat?)
      | _ => none
    return {
      offset := ← f.required "offset" Value.nat?
      text := ← f.required "text" Value.string?
      span := ← f.required "span" pair }

end Triage
