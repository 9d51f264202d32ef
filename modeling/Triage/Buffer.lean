import Triage.Bytes
import Triage.Error

/-!
A byte buffer whose every access is checked against its length. It grows by moving to a fresh piece
of memory, and wipes the old piece before it is given back.
-/
namespace Triage

structure Buffer where
  bytes : Bytes := []
  /-- How many bytes can be held before the buffer has to move. -/
  room : Nat := bytes.length
  length_le_room : bytes.length ≤ room := by exact Nat.le_refl _
  deriving DecidableEq

namespace Buffer

/-- A buffer of `n` zero bytes. -/
def zeroed (n : Nat) : Buffer := { bytes := List.replicate n 0 }

def ofBytes (data : Bytes) : Buffer := { bytes := data }

def size (b : Buffer) : Nat := b.bytes.length

def isEmpty (b : Buffer) : Bool := b.bytes.isEmpty

/-- The sum of two words, unless it wraps around. -/
def sum? (a b : UInt64) : Option UInt64 := if a + b < a then none else some (a + b)

/-- Where a stretch of bytes ends, all of which must be in the buffer. -/
def stop (b : Buffer) (offset length : UInt64) : Result UInt64 :=
  match (sum? offset length).filter fun e => e.toNat ≤ b.size with
  | some e => .ok e
  | none => .error (.outOfBounds offset.toNat length.toNat b.size)

/-- The bytes from `offset` to `offset + length`. -/
def read (b : Buffer) (offset length : UInt64) : Result Bytes :=
  (b.stop offset length).map fun e => (b.bytes.take e.toNat).drop offset.toNat

/-- Puts `data` over the bytes from `offset` on. -/
def overwrite : (offset : Nat) → (data : Bytes) → Bytes → Bytes
  | _, _, [] => []
  | n + 1, data, b :: bs => b :: overwrite n data bs
  | 0, d :: ds, _ :: bs => d :: overwrite 0 ds bs
  | 0, [], bs => bs

theorem length_overwrite (offset : Nat) (data bs : Bytes) :
    (overwrite offset data bs).length = bs.length := by
  fun_induction overwrite offset data bs with
  | case1 => rfl
  | case2 n data b bs ih => simp [ih]
  | case3 d ds b bs ih => simp [ih]
  | case4 => rfl

/-- Replaces the bytes from `offset` on by `data`; the size stays. -/
def write (b : Buffer) (offset : UInt64) (data : Bytes) : Result Unit × Buffer :=
  match b.stop offset data.length.toUInt64 with
  | .ok _ =>
    (.ok (), { b with
      bytes := overwrite offset.toNat data b.bytes
      length_le_room := by
        rw [length_overwrite]
        exact b.length_le_room })
  | .error e => (.error e, b)

/-- What a read puts into the buffer stands at its front, and behind that whatever was there before. -/
def receive (b : Buffer) (data : Bytes) : Buffer :=
  { b with
    bytes := overwrite 0 data b.bytes
    length_le_room := by
      rw [length_overwrite]
      exact b.length_le_room }

/-- Zeroes every byte; the size stays. -/
def clear (b : Buffer) : Buffer :=
  { b with
    bytes := b.bytes.map fun _ => 0
    length_le_room := by
      rw [List.length_map]
      exact b.length_le_room }

/-- The buffer in a fresh piece of memory, and what is left in the old one. -/
def moveTo (b : Buffer) (room : Nat) (h : b.size ≤ room) : Buffer × Buffer :=
  (⟨b.bytes, room, h⟩, b.clear)

/-- Appends where there is room enough. -/
def extend (b : Buffer) (data : Bytes) (h : b.size + data.length ≤ b.room) : Buffer :=
  { b with
    bytes := b.bytes ++ data
    length_le_room := by
      rw [List.length_append]
      exact h }

/-- Appends, after a move if there is not room enough. The room at least doubles by a move. -/
def append (b : Buffer) (data : Bytes) : Buffer :=
  let needed := b.size + data.length
  if h : needed ≤ b.room then b.extend data h
  else (b.moveTo (max needed (2 * b.room)) (by omega)).1.extend data (Nat.le_max_left ..)

/-- Shows the size and no content. -/
def summary (b : Buffer) : String := s!"SafeBuffer \x7b len: {b.size} \x7d"

end Buffer
end Triage
