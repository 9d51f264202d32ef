import Triage.Bytes

/-! The search for all hits of a needle goes in rounds. A round looks for the first hit from an offset
on, and the next round starts one byte behind that hit, so hits that overlap are found too. -/
namespace Triage.Bytes

/-- Whether `needle` stands in `part` at `i`. -/
def standsAt (part : Subarray UInt8) : (needle : Bytes) → (i : Nat) → Bool
  | [], i => decide (i ≤ part.size)
  | b :: needle, i =>
    if h : i < part.size then part[i] == b && standsAt part needle (i + 1) else false

/-- The first hit at `i` or later. -/
def firstFrom (needle : Bytes) (part : Subarray UInt8) (i : Nat) : Option Nat :=
  if i ≤ part.size then
    if standsAt part needle i then some i else firstFrom needle part (i + 1)
  else none
termination_by part.size + 1 - i

/-- The text from `start` on; there is none from behind its end. -/
def partFrom? (hay : Array UInt8) (start : Nat) : Option (Subarray UInt8) :=
  if start ≤ hay.size then some hay[start...*] else none

/-- A search between two rounds: where the next one starts, and the hits so far. -/
structure Scan where
  start : Nat
  found : Array Nat

namespace Scan

def fresh : Scan := ⟨0, #[]⟩

/-- What a round comes to. -/
inductive Round where
  | hit (next : Scan)
  | done (found : Array Nat)
  /-- The round asked for the text from behind its end. -/
  | outside

/-- The first hit in a part of the text, counted from the front of the part. -/
abbrev Finder := Subarray UInt8 → Option Nat

variable (find : Finder) (hay : Array UInt8)

def round (s : Scan) : Round :=
  if s.start ≤ hay.size then
    match partFrom? hay s.start with
    | some part =>
      match find part with
      | some i => .hit ⟨s.start + i + 1, s.found.push (s.start + i)⟩
      | none => .done s.found
    | none => .outside
  else .done s.found

/-- A round that looks at the text starts at most at its end. -/
theorem round_cases (s : Scan) :
    (hay.size < s.start ∧ s.round find hay = .done s.found) ∨
    (s.start ≤ hay.size ∧ find hay[s.start...*] = none ∧ s.round find hay = .done s.found) ∨
    (s.start ≤ hay.size ∧ ∃ i, find hay[s.start...*] = some i ∧
      s.round find hay = .hit ⟨s.start + i + 1, s.found.push (s.start + i)⟩) := by
  by_cases hs : s.start ≤ hay.size
  · cases hf : find hay[s.start...*] with
    | none => exact Or.inr (Or.inl ⟨hs, rfl, by simp [round, partFrom?, hs, hf]⟩)
    | some i => exact Or.inr (Or.inr ⟨hs, i, rfl, by simp [round, partFrom?, hs, hf]⟩)
  · exact Or.inl ⟨by omega, by simp [round, hs]⟩

theorem of_hit {s t : Scan} (h : s.round find hay = .hit t) :
    s.start ≤ hay.size ∧ ∃ i, find hay[s.start...*] = some i ∧
      t = ⟨s.start + i + 1, s.found.push (s.start + i)⟩ := by
  obtain ⟨-, hr⟩ | ⟨-, -, hr⟩ | ⟨hs, i, hi, hr⟩ := round_cases find hay s <;> cases h.symm.trans hr
  exact ⟨hs, i, hi, rfl⟩

theorem round_ne_outside (s : Scan) : s.round find hay ≠ .outside := by
  obtain ⟨-, hr⟩ | ⟨-, -, hr⟩ | ⟨-, i, -, hr⟩ := round_cases find hay s <;> simp [hr]

/-- All rounds; no answer if one of them asks for the text from behind its end. -/
def run (s : Scan) : Option (Array Nat) :=
  match _h : s.round find hay with
  | .hit next => run next
  | .done found => some found
  | .outside => none
termination_by hay.size + 1 - s.start
decreasing_by
  -- The start moves on, whatever is found.
  obtain ⟨hs, i, -, rfl⟩ := of_hit find hay _h
  show hay.size + 1 - (s.start + i + 1) < hay.size + 1 - s.start
  omega

theorem isSome_run (s : Scan) : (s.run find hay).isSome = true := by
  fun_induction run find hay s with
  | case1 s next h ih => exact ih
  | case2 s found h => rfl
  | case3 s h => exact absurd h (round_ne_outside find hay s)

/-- The hits that the rounds find. An empty needle has none, and needs no round. -/
def offsets (needle hay : Bytes) : List Nat :=
  if needle.isEmpty then []
  else ((fresh.run find hay.toArray).get (isSome_run find hay.toArray fresh)).toList

end Scan

/-- All offsets of `needle` in `hay`, ascending and overlapping; an empty needle has none. -/
def offsets (needle hay : Bytes) : List Nat :=
  Scan.offsets (fun part => firstFrom needle part 0) needle hay

end Triage.Bytes
