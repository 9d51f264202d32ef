import Triage.Bytes
import Triage.Json.Value

/-! Writing JSON text, on one line or indented by two blanks a level. -/
namespace Triage.Json

/-- A character inside a string; only quotes, backslashes and control characters are escaped. -/
def charText (c : Char) : List Char :=
  if c = '"' then ['\\', '"']
  else if c = '\\' then ['\\', '\\']
  else if c = '\x08' then ['\\', 'b']
  else if c = '\x0c' then ['\\', 'f']
  else if c = '\n' then ['\\', 'n']
  else if c = '\r' then ['\\', 'r']
  else if c = '\t' then ['\\', 't']
  else if c < ' ' then
    ['\\', 'u', '0', '0', Bytes.hexDigit (c.toNat / 16), Bytes.hexDigit (c.toNat % 16)]
  else [c]

def stringText (s : Option String) : List Char :=
  '"' :: ((s.getD "").toList.flatMap charText ++ ['"'])

/-- Where line breaks and blanks go. -/
structure Layout where
  /-- What stands before the first item at the given depth and after the last one. -/
  line : Nat → List Char
  colon : List Char

def Layout.compact : Layout := ⟨fun _ => [], [':']⟩

def Layout.pretty : Layout := ⟨fun depth => '\n' :: List.replicate (2 * depth) ' ', [':', ' ']⟩

mutual

def Value.render (l : Layout) (depth : Nat) : Value → List Char
  | .null => "null".toList
  | .bool b => (if b then "true" else "false").toList
  | .num n => n.text
  | .str s => stringText s
  | .arr [] => ['[', ']']
  | .arr (x :: xs) =>
    '[' :: (l.line (depth + 1) ++ x.render l (depth + 1) ++ renderElements l depth xs)
  | .obj [] => ['{', '}']
  | .obj ((k, v) :: ms) =>
    '{' :: (l.line (depth + 1) ++ stringText k ++ l.colon ++ v.render l (depth + 1) ++
      renderMembers l depth ms)

/-- Further elements and the closing bracket. -/
def renderElements (l : Layout) (depth : Nat) : List Value → List Char
  | [] => l.line depth ++ [']']
  | x :: xs => ',' :: (l.line (depth + 1) ++ x.render l (depth + 1) ++ renderElements l depth xs)

/-- Further members and the closing brace. -/
def renderMembers (l : Layout) (depth : Nat) : List (Option String × Value) → List Char
  | [] => l.line depth ++ ['}']
  | (k, v) :: ms =>
    ',' :: (l.line (depth + 1) ++ stringText k ++ l.colon ++ v.render l (depth + 1) ++
      renderMembers l depth ms)

end

def Value.compact (v : Value) : String := String.ofList (v.render .compact 0)

def Value.pretty (v : Value) : String := String.ofList (v.render .pretty 0)

end Triage.Json
