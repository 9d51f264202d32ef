import Triage.Bytes
import Triage.Json.Value

/-! Reading JSON text. -/
namespace Triage.Json

def isBlank (c : Char) : Bool := c == ' ' || c == '\n' || c == '\t' || c == '\r'

def skipBlank (cs : List Char) : List Char := cs.dropWhile isBlank

/-- A piece of a string: a character, or a sixteen-bit unit given by an escape. -/
inductive Piece where
  | char (c : Char)
  | unit (n : Nat)

/-- Joins surrogate pairs; a surrogate outside of a pair spoils the string. -/
def joinPieces : List Piece → Option (List Char)
  | [] => some []
  | .char c :: ps => (joinPieces ps).map (c :: ·)
  | .unit u :: ps =>
    if u < 0xD800 ∨ 0xDFFF < u then (joinPieces ps).map (Char.ofNat u :: ·)
    else if 0xDC00 ≤ u then none
    else match ps with
      | .unit l :: ps =>
        if 0xDC00 ≤ l ∧ l ≤ 0xDFFF then
          (joinPieces ps).map (Char.ofNat (0x10000 + (u - 0xD800) * 0x400 + (l - 0xDC00)) :: ·)
        else none
      | _ => none

/-- The characters named by a one-letter escape. -/
def shortEscape? : Char → Option Char
  | '"' => some '"'
  | '\\' => some '\\'
  | '/' => some '/'
  | 'b' => some '\x08'
  | 'f' => some '\x0c'
  | 'n' => some '\n'
  | 'r' => some '\r'
  | 't' => some '\t'
  | _ => none

/-- The rest of a string after its opening quote. -/
def readPieces : List Char → Option (List Piece × List Char)
  | [] => none
  | '"' :: cs => some ([], cs)
  | '\\' :: 'u' :: a :: b :: c :: d :: cs => do
    let high := (← Bytes.hexValue? a) * 16 + (← Bytes.hexValue? b)
    let low := (← Bytes.hexValue? c) * 16 + (← Bytes.hexValue? d)
    let (ps, rest) ← readPieces cs
    return (.unit (high * 256 + low) :: ps, rest)
  | '\\' :: c :: cs => do
    let e ← shortEscape? c
    let (ps, rest) ← readPieces cs
    return (.char e :: ps, rest)
  | c :: cs =>
    if c < ' ' ∨ c = '\\' then none
    else do
      let (ps, rest) ← readPieces cs
      return (.char c :: ps, rest)

def readString (cs : List Char) : Option (Option String × List Char) := do
  let (ps, rest) ← readPieces cs
  return ((joinPieces ps).map String.ofList, rest)

mutual

/-- A value at the front of a text. The first argument bounds the number of calls. -/
def readValue : Nat → List Char → Option (Value × List Char)
  | 0, _ => none
  | n + 1, cs =>
    match skipBlank cs with
    | 'n' :: 'u' :: 'l' :: 'l' :: cs => some (.null, cs)
    | 't' :: 'r' :: 'u' :: 'e' :: cs => some (.bool true, cs)
    | 'f' :: 'a' :: 'l' :: 's' :: 'e' :: cs => some (.bool false, cs)
    | '"' :: cs => do
      let (s, cs) ← readString cs
      return (.str s, cs)
    | '[' :: cs =>
      match skipBlank cs with
      | ']' :: cs => some (.arr [], cs)
      | cs => do
        let (xs, cs) ← readElements n cs
        return (.arr xs, cs)
    | '{' :: cs =>
      match skipBlank cs with
      | '}' :: cs => some (.obj [], cs)
      | cs => do
        let (ms, cs) ← readMembers n cs
        return (.obj ms, cs)
    | cs => do
      let (x, cs) ← Number.read cs
      return (.num x, cs)

/-- At least one element, and the closing bracket. -/
def readElements : Nat → List Char → Option (List Value × List Char)
  | 0, _ => none
  | n + 1, cs => do
    let (v, cs) ← readValue n cs
    match skipBlank cs with
    | ',' :: cs =>
      let (vs, cs) ← readElements n cs
      return (v :: vs, cs)
    | ']' :: cs => return ([v], cs)
    | _ => none

/-- At least one member, and the closing brace. -/
def readMembers : Nat → List Char → Option (List (Option String × Value) × List Char)
  | 0, _ => none
  | n + 1, cs =>
    match skipBlank cs with
    | '"' :: cs => do
      let (k, cs) ← readString cs
      match skipBlank cs with
      | ':' :: cs =>
        let (v, cs) ← readValue n cs
        match skipBlank cs with
        | ',' :: cs =>
          let (ms, cs) ← readMembers n cs
          return ((k, v) :: ms, cs)
        | '}' :: cs => return ([(k, v)], cs)
        | _ => none
      | _ => none
    | _ => none

end

/-- The document that a whole text holds. -/
def read? (s : String) : Option Value := do
  let cs := s.toList
  let (v, rest) ← readValue (2 * cs.length + 2) cs
  if (skipBlank rest).isEmpty then some v else none

end Triage.Json
