import Triage.Signature.Registry

/-! Traces of code that looks for a debugger. -/
namespace Triage

structure AntiDebug where
  packed : Bool
  apis : List String
  timing : Bool
  processBlock : Bool
  deriving DecidableEq

namespace AntiDebug

/-- System functions that tell of a debugger. -/
def apiNames : List String :=
  ["IsDebuggerPresent", "CheckRemoteDebuggerPresent", "NtQueryInformationProcess",
   "OutputDebugString"]

/-- Clock functions, the name of the time-stamp instruction, and its code. -/
def timingMarks : List Bytes :=
  ["GetTickCount", "QueryPerformanceCounter", "rdtsc"].map Bytes.ofAscii ++ [[0x0F, 0x31]]

/-- Loads of the process environment block, in 32 and in 64 bits. -/
def processBlockMarks : List Bytes :=
  [[0x64, 0xA1, 0x30, 0x00, 0x00, 0x00],
   [0x65, 0x48, 0x8B, 0x04, 0x25, 0x60, 0x00, 0x00, 0x00]]

def isPacked (r : Registry) (data : Bytes) : Bool := !(r.matching .packer data).isEmpty

/-- In the order of `apiNames`, however the hits come. -/
def apisIn (data : Bytes) : List String :=
  let seen := Bytes.seenIn (apiNames.map Bytes.ofAscii) (Vector.replicate _ false) data
  ((apiNames.zip seen.toList).filter fun e => e.2).map fun e => e.1

def hasTiming (data : Bytes) : Bool := timingMarks.any fun m => Bytes.occursIn m data

def hasProcessBlock (data : Bytes) : Bool := processBlockMarks.any fun m => Bytes.occursIn m data

def detect (r : Registry) (data : Bytes) : AntiDebug :=
  ⟨isPacked r data, apisIn data, hasTiming data, hasProcessBlock data⟩

open Json

/-- The members of its document, which a report holds among its own. -/
def members (a : AntiDebug) : List (String × Value) :=
  [("packed", .bool a.packed), ("anti_debug_apis", .arr (a.apis.map .text)),
   ("timing_checks", .bool a.timing), ("debugger_detection", .bool a.processBlock)]

def memberNames : List String :=
  ["packed", "anti_debug_apis", "timing_checks", "debugger_detection"]

def ofFields? (f : Fields) : Option AntiDebug := do
  return {
    packed := ← f.required "packed" Value.bool?
    apis := ← f.required "anti_debug_apis" (Value.list? Value.string?)
    timing := ← f.required "timing_checks" Value.bool?
    processBlock := ← f.required "debugger_detection" Value.bool? }

instance : Document AntiDebug where
  toJson a := .record a.members
  ofJson? v := (v.fields? memberNames).bind ofFields?

end AntiDebug
end Triage
