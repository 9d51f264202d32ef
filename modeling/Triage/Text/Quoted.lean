import Triage.Text.Property

/-! Texts in quotes, in which every character can be seen, after version 17.0 of the standard. -/
namespace Triage.Text

/-- Categories without a shape of their own. -/
def shapelessCategories : List Category :=
  [.control, .format, .privateUse, .unassigned, .lineSeparator, .paragraphSeparator,
   .spaceSeparator]

/-- All blanks but one are without a shape, and so are code points for no character. -/
def isShapeless (n : Nat) : Bool :=
  n != 0x20 && shapelessCategories.any (fun c => inRanges c.ranges n) &&
    !inRanges (Ranges.read newCharacters) n

/-- Marks that are drawn on the character before them, but not the two voice marks of half width,
which stand by themselves. -/
def extendsPrevious (n : Nat) : Bool :=
  (graphemeExtendProperty.has n || inRanges (Ranges.read newExtenders) n) &&
    !(0xFF9E ≤ n && n ≤ 0xFF9F)

/-- A character that is not written as it is. -/
def isHidden (c : Char) : Bool :=
  let n := c.toNat
  isShapeless n || extendsPrevious n || defaultIgnorableCodePointProperty.has n

/-- A character between quotes. -/
def quotedChar (c : Char) : List Char :=
  if c = '\x00' then ['\\', '0']
  else if c = '\t' then ['\\', 't']
  else if c = '\r' then ['\\', 'r']
  else if c = '\n' then ['\\', 'n']
  else if c = '"' then ['\\', '"']
  else if c = '\\' then ['\\', '\\']
  else if c.toNat < 0x7F ∧ 0x20 ≤ c.toNat then [c]
  else if isHidden c then '\\' :: 'u' :: '{' :: (Nat.toDigits 16 c.toNat ++ ['}'])
  else [c]

def quoted (s : String) : String :=
  String.ofList ('"' :: (s.toList.flatMap quotedChar ++ ['"']))

end Triage.Text
