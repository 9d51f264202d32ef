import Triage.Bytes.Histogram
import Triage.Config

/-! Heuristics that tell obfuscated code from plain code. -/
namespace Triage

structure Obfuscation where
  /-- Bits per byte, from 0 to 8. -/
  entropy : Float
  controlFlow : Bool
  strings : Bool
  instructions : Bool

namespace Obfuscation

/-- Calls and jumps through a register. -/
def branchPatterns : List Bytes := [[0xFF, 0xD0], [0xFF, 0xD1], [0xFF, 0xE0]]

def branchCount (data : Bytes) : Nat :=
  branchPatterns.foldl (fun n p => n + Bytes.countApart p data) 0

/-- More indirect branches than the configured share of the length. -/
def controlFlowIn (c : ObfuscationConfig) (data : Bytes) : Bool :=
  data.length.toFloat * c.indirectBranchDensity < (branchCount data).toFloat

def isPrintable (b : UInt8) : Bool := 0x20 ≤ b && b ≤ 0x7E

/-- Share of printable ASCII bytes; zero for no bytes. -/
def printableRatio (data : Bytes) : Float :=
  if data.isEmpty then 0 else (data.countP isPrintable).toFloat / data.length.toFloat

def stringsIn (c : ObfuscationConfig) (data : Bytes) : Bool :=
  printableRatio data < c.printableRatioThreshold

/-- Nothing is known yet that looks at single instructions. -/
def instructionsIn (_ : Bytes) : Bool := false

def analyze (c : ObfuscationConfig) (data : Bytes) : Obfuscation :=
  ⟨data.entropy, controlFlowIn c data, stringsIn c data, instructionsIn data⟩

open Json

/-- The members of its document, which a report holds among its own. -/
def members (o : Obfuscation) : List (String × Value) :=
  [("entropy", .float o.entropy), ("control_flow_obfuscation", .bool o.controlFlow),
   ("string_obfuscation", .bool o.strings), ("instruction_obfuscation", .bool o.instructions)]

def memberNames : List String :=
  ["entropy", "control_flow_obfuscation", "string_obfuscation", "instruction_obfuscation"]

def ofFields? (f : Fields) : Option Obfuscation := do
  return {
    entropy := ← f.required "entropy" Value.float?
    controlFlow := ← f.required "control_flow_obfuscation" Value.bool?
    strings := ← f.required "string_obfuscation" Value.bool?
    instructions := ← f.required "instruction_obfuscation" Value.bool? }

instance : Document Obfuscation where
  toJson o := .record o.members
  ofJson? v := (v.fields? memberNames).bind ofFields?

end Obfuscation
end Triage
