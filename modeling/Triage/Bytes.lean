/-! Byte strings, the places at which one stands inside another, and their hexadecimal text. -/
namespace Triage

/-- A string of bytes. -/
abbrev Bytes := List UInt8

namespace Bytes

/-- The bytes `needle` stand in `hay` at offset `i`. -/
def OccursAt (needle hay : Bytes) (i : Nat) : Prop :=
  i + needle.length ≤ hay.length ∧ (hay.drop i).take needle.length = needle

instance (needle hay : Bytes) (i : Nat) : Decidable (OccursAt needle hay i) :=
  inferInstanceAs (Decidable (_ ∧ _))

/-- Whether `needle` stands somewhere in `hay`. -/
def occursIn (needle : Bytes) : Bytes → Bool
  | [] => needle.isEmpty
  | b :: rest => needle.isPrefixOf (b :: rest) || occursIn needle rest

/-- The needles that stand at the very front of a text, by their places in the list. -/
def frontHits (needles : List Bytes) (text : Bytes) : List (Fin needles.length) :=
  (List.finRange needles.length).filter fun k => (needles.get k).isPrefixOf text

/-- Marks needles as seen. -/
def markAll {n : Nat} (seen : Vector Bool n) (hits : List (Fin n)) : Vector Bool n :=
  hits.foldl (fun s k => s.set k.1 true k.2) seen

/-- One pass over a text for all needles at once, which marks each of them at each of its hits. -/
def seenIn (needles : List Bytes) (seen : Vector Bool needles.length) :
    Bytes → Vector Bool needles.length
  | [] => markAll seen (frontHits needles [])
  | b :: rest => seenIn needles (markAll seen (frontHits needles (b :: rest))) rest

/-- Hits counted from the left without overlap; the first `skip` bytes belong to the last hit. -/
def countApartFrom (needle : Bytes) : Nat → Bytes → Nat
  | _, [] => 0
  | skip + 1, _ :: rest => countApartFrom needle skip rest
  | 0, b :: rest =>
    if needle.isPrefixOf (b :: rest) then countApartFrom needle (needle.length - 1) rest + 1
    else countApartFrom needle 0 rest

/-- Number of hits of a nonempty `needle` taken from the left without overlap. -/
def countApart (needle hay : Bytes) : Nat :=
  countApartFrom needle 0 hay

/-- The lower-case hexadecimal digit of a number below 16. -/
def hexDigit (n : Nat) : Char := Nat.digitChar n

/-- The number of a hexadecimal digit, in either case. -/
def hexValue? (c : Char) : Option Nat :=
  if c.isDigit then some (c.toNat - 48)
  else if 'a' ≤ c ∧ c ≤ 'f' then some (c.toNat - 87)
  else if 'A' ≤ c ∧ c ≤ 'F' then some (c.toNat - 55)
  else none

theorem hexValue?_hexDigit : ∀ n < 16, hexValue? (hexDigit n) = some n := by decide

/-- Two lower-case hexadecimal digits. -/
def hexOfByte (b : UInt8) : List Char :=
  [hexDigit (b.toNat / 16), hexDigit (b.toNat % 16)]

/-- Lower-case hexadecimal text. -/
def hex (data : Bytes) : String :=
  String.ofList (data.flatMap hexOfByte)

theorem toNat_charOfNat {n : Nat} (h : n.isValidChar) : (Char.ofNat n).toNat = n := by
  rw [Char.ofNat, dif_pos h]
  rfl

/-- Each byte read as the code point of the same number. -/
def latin1 (data : Bytes) : String :=
  String.ofList (data.map fun b => Char.ofNat b.toNat)

/-- The bytes of an ASCII text. -/
def ofAscii (s : String) : Bytes :=
  s.toList.map fun c => c.toNat.toUInt8

end Bytes
end Triage
