import Triage.Bytes

/-!
UTF-8. Decoding never fails: each longest run of bytes that starts a character and does not finish
it, and each byte that starts none, becomes one replacement character.
-/
namespace Triage.Utf8

/-- Bounds of a byte. -/
structure Span where
  low : UInt8
  high : UInt8

def Span.has (s : Span) (b : UInt8) : Bool := s.low ≤ b && b ≤ s.high

def tail : Span := ⟨0x80, 0xBF⟩

/-- What has to follow a first byte; `none` for a byte that starts no character. -/
def followers (b : UInt8) : Option (List Span) :=
  if b < 0x80 then some []
  else if b < 0xC2 then none
  else if b < 0xE0 then some [tail]
  else if b = 0xE0 then some [⟨0xA0, 0xBF⟩, tail]
  else if b = 0xED then some [⟨0x80, 0x9F⟩, tail]
  else if b < 0xF0 then some [tail, tail]
  else if b = 0xF0 then some [⟨0x90, 0xBF⟩, tail, tail]
  else if b < 0xF4 then some [tail, tail, tail]
  else if b = 0xF4 then some [⟨0x80, 0x8F⟩, tail, tail]
  else none

/-- Number of bytes, from the first on, that lie in their spans. -/
def fitting : List Span → Bytes → Nat
  | s :: ss, b :: bs => if s.has b then fitting ss bs + 1 else 0
  | _, _ => 0

/-- The bits that a first byte with `n` followers adds to the code point. -/
def leadBits (b : UInt8) (n : Nat) : Nat :=
  if n = 0 then b.toNat else b.toNat % Nat.pow 2 (6 - n)

/-- Six bits from each follower. -/
def codePoint (lead : Nat) (bs : Bytes) : Nat :=
  bs.foldl (fun n b => n * 64 + b.toNat % 64) lead

/-- What stands at the front of a byte string. -/
inductive Unit where
  /-- A character of `size` bytes. -/
  | scalar (n size : Nat)
  /-- The beginning of a character, of `size` bytes, that does not go on. -/
  | broken (size : Nat)

def Unit.size : Unit → Nat
  | scalar _ s => s
  | broken s => s

/-- The character, or the broken one, that begins with byte `b` before `rest`. -/
def front (b : UInt8) (rest : Bytes) : Unit :=
  match followers b with
  | none => .broken 1
  | some ss =>
    let k := fitting ss rest
    if k = ss.length then .scalar (codePoint (leadBits b k) (rest.take k)) (k + 1)
    else .broken (k + 1)

def replacement : Char := Char.ofNat 0xFFFD

def Unit.char : Unit → Char
  | scalar n _ => Char.ofNat n
  | broken _ => replacement

/-- Decodes what follows the first `skip` bytes. -/
def decodeFrom : Nat → Bytes → List Char
  | _, [] => []
  | skip + 1, _ :: bs => decodeFrom skip bs
  | 0, b :: bs =>
    let u := front b bs
    u.char :: decodeFrom (u.size - 1) bs

def decode (data : Bytes) : String := String.ofList (decodeFrom 0 data)

def encodeChar (c : Char) : Bytes := String.utf8EncodeChar c

def encode (s : String) : Bytes := s.toList.flatMap encodeChar

/-- The character at the front, with its number of bytes. -/
def first? : Bytes → Option (Nat × Nat)
  | [] => none
  | b :: bs =>
    match front b bs with
    | .scalar n k => some (n, k)
    | .broken _ => none

/-- The character that begins at the last byte that does not go on with one, or three bytes before
the last; the string is given with its last byte first. Bytes behind that character do not count. -/
def last? (rev : Bytes) : Option (Nat × Nat) :=
  let back := ((rev.take 3).takeWhile tail.has).length
  first? (rev.take (back + 1)).reverse

end Triage.Utf8
