import Triage.Bytes
import Triage.Regex.Expr
import Triage.Text.Property

/-!
Reading regular expressions. In verbose mode white space and comments may stand between any two
characters that belong together, also inside classes, numbers and escapes.
-/
namespace Triage.Regex

/-- Drops white space, and comments up to the end of their line. -/
def skipVerbose : (comment : Bool) → List Char → List Char
  | _, [] => []
  | true, c :: cs => if c = '\n' then skipVerbose false cs else skipVerbose true cs
  | false, c :: cs =>
    if Text.isBlank c then skipVerbose false cs
    else if c = '#' then skipVerbose true cs
    else c :: cs

def skip (verbose : Bool) (cs : List Char) : List Char :=
  if verbose then skipVerbose false cs else cs

/-- Characters that mean something else unless a backslash stands before them. -/
def isMeta (c : Char) : Bool := "\\.+*?()|[]\x7b\x7d^$#&-~".toList.contains c

/-- Letters, digits and angle brackets have or may get a meaning after a backslash. -/
def isEscapable (c : Char) : Bool :=
  isMeta c || (c.toNat < 128 && !c.isAlphanum && c ≠ '<' && c ≠ '>')

/-- `n` hexadecimal digits. -/
def hexDigits (verbose : Bool) : Nat → List Char → Option (List Nat × List Char)
  | 0, cs => some ([], cs)
  | _ + 1, [] => none
  | n + 1, c :: cs => do
    let d ← Bytes.hexValue? c
    let (ds, rest) ← hexDigits verbose n (skip verbose cs)
    return (d :: ds, rest)

/-- Hexadecimal digits up to a closing brace. -/
def bracedHex (verbose : Bool) : Nat → List Char → Option (List Nat × List Char)
  | 0, _ => none
  | n + 1, cs =>
    match skip verbose cs with
    | [] => none
    | '}' :: cs => some ([], skip verbose cs)
    | c :: cs => do
      let d ← Bytes.hexValue? c
      let (ds, rest) ← bracedHex verbose n cs
      return (d :: ds, rest)

def ofHex (ds : List Nat) : Nat := ds.foldl (fun n d => n * 16 + d) 0

def scalar? (n : Nat) : Option Char :=
  if n.isValidChar then some (Char.ofNat n) else none

/-- The rest of an escape of a code point, after its letter. -/
def readHex (verbose : Bool) (letter : Char) (cs : List Char) :
    Option (Literal × List Char) :=
  match skip verbose cs with
  | '{' :: cs => do
    let (ds, rest) ← bracedHex verbose (cs.length + 1) cs
    if ds.isEmpty then none
    else return (⟨← scalar? (ofHex ds), false⟩, rest)
  | cs => do
    let width := if letter = 'x' then 2 else if letter = 'u' then 4 else 8
    let (ds, rest) ← hexDigits verbose width cs
    return (⟨← scalar? (ofHex ds), letter = 'x'⟩, rest)

/-- What an escape can stand for. -/
inductive Escape where
  | literal (l : Literal)
  | anchor (a : Anchor)
  | shorthand (kind : Shorthand) (negated : Bool)
  | property (name : PropertyName) (negated : Bool)

/-- The text of a property, up to a closing brace. -/
def bracedProperty (verbose : Bool) : Nat → List Char → Option (List Char × List Char)
  | 0, _ => none
  | n + 1, cs =>
    match skip verbose cs with
    | [] => none
    | '}' :: cs => some ([], cs)
    | c :: cs => do
      let (name, rest) ← bracedProperty verbose n cs
      return (c :: name, rest)

/-- The parts of a text before and after the first `sep`. -/
def cutAt (sep : List Char) : List Char → Option (List Char × List Char)
  | [] => none
  | c :: cs =>
    if sep.isPrefixOf (c :: cs) then some ([], (c :: cs).drop sep.length)
    else (cutAt sep cs).map fun (a, b) => (c :: a, b)

/-- A name and a value have a sign between them; the sign for unequal is read like the others. -/
def PropertyName.ofText (text : List Char) : PropertyName :=
  match cutAt ['!', '='] text <|> cutAt [':'] text <|> cutAt ['='] text with
  | some (name, value) => .valued name value
  | none => .simple text

def readProperty (verbose : Bool) (cs : List Char) : Option (PropertyName × List Char) :=
  match skip verbose cs with
  | [] => none
  | '{' :: cs => do
    let (text, rest) ← bracedProperty verbose (cs.length + 1) cs
    return (.ofText text, rest)
  | '\\' :: _ => none
  | c :: cs => some (.simple [c], skip verbose cs)

def isBoundaryLetter (c : Char) : Bool := c.isAlpha || c == '-'

/-- Letters and hyphens, with what may stand between them in verbose mode. -/
def boundaryName (verbose : Bool) : Nat → List Char → List Char × List Char
  | 0, cs => ([], cs)
  | n + 1, cs =>
    match cs with
    | c :: rest =>
      if isBoundaryLetter c then
        let (name, rest) := boundaryName verbose n (skip verbose rest)
        (c :: name, rest)
      else ([], c :: rest)
    | [] => ([], [])

/-- A word boundary, special if a name in braces follows; braces of a repetition are left. -/
def readBoundary (verbose : Bool) (cs : List Char) : Option (Escape × List Char) :=
  match cs with
  | '{' :: inner =>
    match skip verbose inner with
    | [] => none
    | c :: rest =>
      if isBoundaryLetter c then
        match boundaryName verbose inner.length (c :: rest) with
        | (name, '}' :: rest) =>
          match String.ofList name with
          | "start" => some (.anchor .wordStart, rest)
          | "end" => some (.anchor .wordEnd, rest)
          | "start-half" => some (.anchor .wordStartHalf, rest)
          | "end-half" => some (.anchor .wordEndHalf, rest)
          | _ => none
        | _ => none
      else some (.anchor .wordBoundary, cs)
  | cs => some (.anchor .wordBoundary, cs)

/-- The rest of an escape after the backslash. -/
def readEscape (verbose : Bool) : List Char → Option (Escape × List Char)
  | [] => none
  | c :: cs =>
    let char (n : Nat) : Option (Escape × List Char) := some (.literal ⟨Char.ofNat n, false⟩, cs)
    match c with
    | 'x' | 'u' | 'U' => do
      let (l, rest) ← readHex verbose c cs
      return (.literal l, rest)
    | 'p' | 'P' => do
      let (name, rest) ← readProperty verbose cs
      return (.property name (c == 'P'), rest)
    | 'd' => some (.shorthand .digit false, cs)
    | 's' => some (.shorthand .space false, cs)
    | 'w' => some (.shorthand .word false, cs)
    | 'D' => some (.shorthand .digit true, cs)
    | 'S' => some (.shorthand .space true, cs)
    | 'W' => some (.shorthand .word true, cs)
    | 'a' => char 7
    | 'f' => char 12
    | 't' => char 9
    | 'n' => char 10
    | 'r' => char 13
    | 'v' => char 11
    | 'A' => some (.anchor .textStart, cs)
    | 'z' => some (.anchor .textEnd, cs)
    | 'b' => readBoundary verbose cs
    | 'B' => some (.anchor .notWordBoundary, cs)
    | '<' => some (.anchor .wordStart, cs)
    | '>' => some (.anchor .wordEnd, cs)
    | c => if isEscapable c then some (.literal ⟨c, false⟩, cs) else none

def posixNames : List (String × Posix) :=
  [("alnum", .alnum), ("alpha", .alpha), ("ascii", .ascii), ("blank", .blank), ("cntrl", .cntrl),
   ("digit", .digit), ("graph", .graph), ("lower", .lower), ("print", .print), ("punct", .punct),
   ("space", .space), ("upper", .upper), ("word", .word), ("xdigit", .xdigit)]

/-- A named class after its opening bracket; anything else there opens a nested class. -/
def readPosix? (cs : List Char) : Option (ClassItem × List Char) :=
  match cs with
  | ':' :: cs =>
    let (negated, cs) := match cs with
      | '^' :: cs => (true, cs)
      | cs => (false, cs)
    match cs.dropWhile (· ≠ ':') with
    | ':' :: ']' :: rest =>
      (posixNames.lookup (String.ofList (cs.takeWhile (· ≠ ':')))).map
        fun k => (.posix k negated, rest)
    | _ => none
  | _ => none

/-- The character after a hyphen. In verbose mode blanks and one mark of a comment are passed. -/
def peekPast (verbose : Bool) (cs : List Char) : Option Char :=
  if verbose then
    match cs.dropWhile Text.isBlank with
    | '#' :: rest => (rest.dropWhile Text.isBlank).head? <|> cs.head?
    | rest => rest.head? <|> cs.head?
  else cs.head?

def readClassEscape (verbose : Bool) (cs : List Char) : Option (ClassItem × List Char) :=
  match cs with
  | [] => none
  | '\\' :: cs => do
    match ← readEscape verbose cs with
    | (.literal l, rest) => return (.literal l, rest)
    | (.shorthand k negated, rest) => return (.shorthand k negated, rest)
    | (.property name negated, rest) => return (.property name negated, rest)
    | (.anchor _, _) => none
  | c :: cs => some (.literal ⟨c, false⟩, cs)

/-- A single item of a class, or a range. -/
def readRange (verbose : Bool) (cs : List Char) : Option (ClassItem × List Char) := do
  let (first, cs) ← readClassEscape verbose cs
  match skip verbose cs with
  | [] => none
  | '-' :: cs =>
    let next := peekPast verbose cs
    if next = some ']' ∨ next = some '-' then return (first, '-' :: cs)
    else
      let (second, rest) ← readClassEscape verbose (skip verbose cs)
      match first, second with
      | .literal lo, .literal hi => if lo.char ≤ hi.char then some (.range lo hi, rest) else none
      | _, _ => none
  | cs => return (first, cs)

/-- Hyphens at the beginning of a class. -/
def leadingHyphens (verbose : Bool) : Nat → List Char → List ClassItem × List Char
  | 0, cs => ([], cs)
  | n + 1, cs =>
    match cs with
    | '-' :: cs =>
      let (items, rest) := leadingHyphens verbose n (skip verbose cs)
      (.literal ⟨'-', false⟩ :: items, rest)
    | cs => ([], cs)

/-- The opening of a class: whether it is negated, and the items that only can stand here. -/
def readClassOpen (verbose : Bool) (cs : List Char) :
    Option (Bool × List ClassItem × List Char) := do
  let (negated, cs) := match skip verbose cs with
    | '^' :: cs => (true, skip verbose cs)
    | cs => (false, cs)
  match leadingHyphens verbose cs.length cs with
  | (_, []) => none
  | ([], ']' :: cs) =>
    match skip verbose cs with
    | [] => none
    | cs => some (negated, [.literal ⟨']', false⟩], cs)
  | (items, cs) => some (negated, items, cs)

/-- The items so far as the right side of a pending operation. -/
def closeOperand (pending : Option (SetOp × ClassSet)) (items : List ClassItem) : ClassSet :=
  match pending with
  | none => .items items
  | some (op, left) => .op op left (.items items)

/-- The rest of a class after its opening. -/
def readClassBody (verbose : Bool) : Nat → Option (SetOp × ClassSet) → List ClassItem →
    List Char → Option (ClassSet × List Char)
  | 0, _, _, _ => none
  | n + 1, pending, items, cs =>
    match skip verbose cs with
    | [] => none
    | '[' :: cs =>
      match readPosix? cs with
      | some (item, rest) => readClassBody verbose n pending (item :: items) rest
      | none => do
        let (negated, first, cs) ← readClassOpen verbose cs
        let (inner, rest) ← readClassBody verbose n none first cs
        readClassBody verbose n pending (.nested negated inner :: items) rest
    | ']' :: cs => some (closeOperand pending items, cs)
    | '&' :: '&' :: cs =>
      readClassBody verbose n (some (.inter, closeOperand pending items)) [] cs
    | '-' :: '-' :: cs =>
      readClassBody verbose n (some (.diff, closeOperand pending items)) [] cs
    | '~' :: '~' :: cs =>
      readClassBody verbose n (some (.symmDiff, closeOperand pending items)) [] cs
    | cs => do
      let (item, rest) ← readRange verbose cs
      readClassBody verbose n pending (item :: items) rest

def readClass (verbose : Bool) (cs : List Char) : Option (Expr × List Char) := do
  let (negated, first, cs) ← readClassOpen verbose cs
  let (s, rest) ← readClassBody verbose (cs.length + 1) none first cs
  return (.set negated s, rest)

/-- Decimal digits with what may stand between them in verbose mode. -/
def countDigits (verbose : Bool) : Nat → List Char → List Nat × List Char
  | 0, cs => ([], cs)
  | n + 1, cs =>
    match cs with
    | c :: rest =>
      if c.isDigit then
        let (ds, rest) := countDigits verbose n (skip verbose rest)
        ((c.toNat - 48) :: ds, rest)
      else ([], c :: rest)
    | [] => ([], [])

/-- White space after a number, also outside of verbose mode. -/
def skipAfterCount (verbose : Bool) : Nat → List Char → List Char
  | 0, cs => cs
  | n + 1, cs =>
    match cs with
    | c :: rest => if Text.isBlank c then skipAfterCount verbose n (skip verbose rest) else c :: rest
    | [] => []

/-- A count below `2 ^ 32`; the outer option is about the digits being there. -/
def readCount (verbose : Bool) (cs : List Char) : Option Nat × List Char :=
  let (ds, rest) := countDigits verbose cs.length (cs.dropWhile Text.isBlank)
  let rest := skipAfterCount verbose rest.length rest
  let n := ds.foldl (fun n d => n * 10 + d) 0
  (if ds.isEmpty ∨ 0x100000000 ≤ n then none else some n, rest)

/-- The inside of counting braces: least and greatest number of rounds. -/
def readBounds (verbose : Bool) (cs : List Char) :
    Option ((Nat × Option Nat) × List Char) := do
  let cs := skip verbose cs
  if cs.isEmpty then none
  let (low, cs) := readCount verbose cs
  match cs with
  | ',' :: cs =>
    match skip verbose cs with
    | '}' :: rest => return ((← low, none), rest)
    | [] => none
    | cs =>
      let lo ← low
      match readCount verbose cs with
      | (some hi, '}' :: rest) => if lo ≤ hi then some ((lo, some hi), rest) else none
      | _ => none
  | '}' :: rest => do
    let n ← low
    return ((n, some n), rest)
  | _ => none

/-- Sets the flag of a letter; `none` for an unknown letter and for one given before. -/
def FlagChange.set? (f : FlagChange) (c : Char) (value : Bool) : Option FlagChange :=
  match c with
  | 'i' => if f.ignoreCase.isSome then none else some { f with ignoreCase := some value }
  | 'm' => if f.multiLine.isSome then none else some { f with multiLine := some value }
  | 's' => if f.dotAll.isSome then none else some { f with dotAll := some value }
  | 'U' => if f.swapGreed.isSome then none else some { f with swapGreed := some value }
  | 'u' => if f.unicode.isSome then none else some { f with unicode := some value }
  | 'R' => if f.crlf.isSome then none else some { f with crlf := some value }
  | 'x' => if f.verbose.isSome then none else some { f with verbose := some value }
  | _ => none

/-- What ends a group of flags: a bracket that closes it, or a colon before its expression. -/
inductive FlagsEnd where
  | close
  | colon
  deriving DecidableEq

/-- Letters of flags. A hyphen turns what follows off, comes once, and something follows it. -/
def readFlags : (negated last : Bool) → FlagChange → List Char →
    Option (FlagChange × FlagsEnd × List Char)
  | _, _, _, [] => none
  | negated, last, f, c :: cs =>
    if c = ':' then if last then none else some (f, .colon, cs)
    else if c = ')' then if last then none else some (f, .close, cs)
    else if c = '-' then if negated then none else readFlags true true f cs
    else do
      let f ← f.set? c (!negated)
      readFlags negated false f cs

def isNameChar (first : Bool) (c : Char) : Bool :=
  c == '_' || (if first then Text.isLetter c
    else c == '.' || c == '[' || c == ']' || Text.isLetterOrNumber c)

/-- The name of a group, up to the closing angle bracket. -/
def readGroupName (cs : List Char) : Option (List Char × List Char) :=
  match cs.dropWhile (· ≠ '>') with
  | '>' :: rest =>
    match cs.takeWhile (· ≠ '>') with
    | [] => none
    | c :: name =>
      if isNameChar true c && name.all (isNameChar false) then some (c :: name, rest) else none
  | _ => none

/-- What stands after an opening bracket. -/
inductive GroupStart where
  /-- Flags for the rest of the enclosing group. -/
  | flags (change : FlagChange)
  | group (remembered : Bool) (change : FlagChange) (name : Option (List Char))

def readGroupStart (verbose : Bool) (cs : List Char) : Option (GroupStart × List Char) :=
  match skip verbose cs with
  | '?' :: '=' :: _ | '?' :: '!' :: _ | '?' :: '<' :: '=' :: _ | '?' :: '<' :: '!' :: _ => none
  | '?' :: 'P' :: '<' :: cs | '?' :: '<' :: cs => do
    let (name, rest) ← readGroupName cs
    return (.group true {} (some name), rest)
  | '?' :: cs => do
    match ← readFlags false false {} cs with
    | (f, .colon, rest) => return (.group false f none, rest)
    | (f, .close, rest) => if f = {} then none else return (.flags f, rest)
  | cs => some (.group true {} none, cs)

/-- A group whose closing bracket is still to come. -/
structure Open where
  alts : List Expr
  items : List Expr
  verbose : Bool
  remembered : Bool
  change : FlagChange

/-- What has been read; finished alternatives and items have the last one first. -/
structure State where
  groups : List Open := []
  alts : List Expr := []
  items : List Expr := []
  verbose : Bool := false
  names : List (List Char) := []

namespace State

def push (s : State) (e : Expr) : State := { s with items := e :: s.items }

/-- The expression of the current group. -/
def current (s : State) : Expr := .oneOf (.inRow s.items.reverse :: s.alts).reverse

/-- Repeats the last item; there has to be one, and it must not be a group of flags. -/
def repeatLast (s : State) (min : Nat) (max : Option Nat) (greedy : Bool) : Option State :=
  match s.items with
  | [] | .flags _ :: _ => none
  | e :: es => some { s with items := .rep e min max greedy :: es }

def openGroup (s : State) : GroupStart → Option State
  | .flags f =>
    some { s with items := .flags f :: s.items, verbose := f.verbose.getD s.verbose }
  | .group remembered f name =>
    if name.any s.names.contains then none
    else some {
      groups := ⟨s.alts, s.items, s.verbose, remembered, f⟩ :: s.groups
      verbose := f.verbose.getD s.verbose
      names := name.toList ++ s.names }

def closeGroup (s : State) : Option State :=
  match s.groups with
  | [] => none
  | g :: gs => some { s with
      groups := gs, alts := g.alts, verbose := g.verbose
      items := .group g.remembered g.change s.current :: g.items }

end State

/-- A question mark after a repetition makes it lazy. -/
def readGreedy : List Char → Bool × List Char
  | '?' :: cs => (false, cs)
  | cs => (true, cs)

/-- Reads what begins with `c`. -/
def readNext (s : State) (c : Char) (cs : List Char) : Option (State × List Char) :=
  let repeated (min : Nat) (max : Option Nat) : Option (State × List Char) := do
    let (greedy, rest) := readGreedy cs
    return (← s.repeatLast min max greedy, rest)
  match c with
  | '(' => do
    let (start, rest) ← readGroupStart s.verbose cs
    return (← s.openGroup start, rest)
  | ')' => do return (← s.closeGroup, cs)
  | '|' => some ({ s with alts := .inRow s.items.reverse :: s.alts, items := [] }, cs)
  | '[' => do
    let (e, rest) ← readClass s.verbose cs
    return (s.push e, rest)
  | '?' => repeated 0 (some 1)
  | '*' => repeated 0 none
  | '+' => repeated 1 none
  | '{' => do
    let ((min, max), rest) ← readBounds s.verbose cs
    let (greedy, rest) := readGreedy (skip s.verbose rest)
    return (← s.repeatLast min max greedy, rest)
  | '\\' => do
    match ← readEscape s.verbose cs with
    | (.literal l, rest) => return (s.push (.literal l), rest)
    | (.anchor a, rest) => return (s.push (.anchor a), rest)
    | (.shorthand k negated, rest) => return (s.push (.shorthand k negated), rest)
    | (.property name negated, rest) => return (s.push (.property name negated), rest)
  | '.' => some (s.push .dot, cs)
  | '^' => some (s.push (.anchor .lineStart), cs)
  | '$' => some (s.push (.anchor .lineEnd), cs)
  | c => some (s.push (.literal ⟨c, false⟩), cs)

/-- Reads to the end. The first argument bounds the number of items. -/
def readAll : Nat → State → List Char → Option Expr
  | 0, _, _ => none
  | n + 1, s, cs =>
    match skip s.verbose cs with
    | [] => if s.groups.isEmpty then some s.current else none
    | c :: cs => do
      let (s, rest) ← readNext s c cs
      readAll n s rest

def maxDepth : Nat := 250

/-- The expression that a text stands for. -/
def Expr.parse? (text : String) : Option Expr := do
  let e ← readAll (text.length + 1) {} text.toList
  if e.depth ≤ maxDepth then some e else none

end Triage.Regex
