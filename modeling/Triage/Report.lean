import Triage.AntiDebug
import Triage.Decompiler
import Triage.Keyed
import Triage.Obfuscation
import Triage.Unpack

/-! What an analysis finds, as one flat document. -/
namespace Triage

structure Report where
  path : Option String
  size : Nat
  sha256 : String
  antiDebug : AntiDebug
  obfuscation : Obfuscation
  packer : Option Packer
  /-- Names that were found, with their offsets. -/
  signatures : List (String × List Nat)
  decompile : Option Decompiled := none
  unpack : Option UnpackOutcome := none

namespace Report

open Json

/-- A member that is left out when there is nothing to say. -/
def memberIfSome {α : Type} [Document α] (name : String) : Option α → List (String × Value)
  | some a => [(name, Document.toJson a)]
  | none => []

def members (r : Report) : List (String × Value) :=
  [("path", .ofOption r.path), ("size", .nat r.size), ("sha256", .text r.sha256)] ++
    r.antiDebug.members ++ r.obfuscation.members ++
    [("packer", match r.packer with
      | some p => Document.toJson p
      | none => .null),
     ("signatures", .record (r.signatures.map fun (n, os) => (n, .arr (os.map .nat))))] ++
    memberIfSome "decompile" r.decompile ++ memberIfSome "unpack" r.unpack

/-- Members of its own; all others are first taken in whole. -/
def ownNames : List String :=
  ["path", "size", "sha256", "packer", "signatures", "decompile", "unpack"]

mutual

/-- A value that can be taken in whole: proper texts, numbers in range, at most `depth` levels. -/
def isWhole (depth : Nat) : Value → Bool
  | .null | .bool _ => true
  | .num .huge => false
  | .num _ => true
  | .str s => s.isSome
  | .arr xs => depth != 0 && areWhole (depth - 1) xs
  | .obj ms => depth != 0 && membersAreWhole (depth - 1) ms

def areWhole (depth : Nat) : List Value → Bool
  | [] => true
  | v :: vs => isWhole depth v && areWhole depth vs

def membersAreWhole (depth : Nat) : List (Option String × Value) → Bool
  | [] => true
  | (k, v) :: ms => k.isSome && isWhole depth v && membersAreWhole depth ms

end

def maxLevels : Nat := 126

/-- A repeated name keeps its first place and gets its last value. -/
def offsets? : Value → Option (List (String × List Nat))
  | .obj ms => do
    let named ← namedMembers ms
    let entries ← named.mapM fun (k, v) => (v.list? Value.nat?).map (k, ·)
    return entries.foldl (fun es e => Keyed.put Prod.fst e es) []
  | _ => none

def ofJson? : Value → Option Report
  | .obj ms => do
    let named ← namedMembers ms
    if named.any fun (k, v) => !ownNames.contains k && !isWhole maxLevels v then none
    let f ← (Value.obj ms).fields? (ownNames ++ AntiDebug.memberNames ++ Obfuscation.memberNames)
    return {
      path := ← f.optional "path" Value.string?
      size := ← f.required "size" Value.nat?
      sha256 := ← f.required "sha256" Value.string?
      antiDebug := ← AntiDebug.ofFields? f
      obfuscation := ← Obfuscation.ofFields? f
      packer := ← f.optional "packer" Document.ofJson?
      signatures := ← f.required "signatures" offsets?
      decompile := ← f.optional "decompile" Document.ofJson?
      unpack := ← f.optional "unpack" Document.ofJson? }
  | _ => none

instance : Document Report where
  toJson r := .record r.members
  ofJson? := ofJson?

end Report
end Triage
