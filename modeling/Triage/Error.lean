import Triage.Duration

/-! What can go wrong, and how it is worded. -/
namespace Triage

inductive Error where
  | outOfBounds (offset length size : Nat)
  | invalidInput (reason : String)
  | fileAccess (path cause : String)
  | io (cause : String)
  | fileTooLarge (limit found : Nat)
  | unsupportedPlatform (name : String)
  | backendUnavailable (name : String)
  | notImplemented (what : String)
  | toolInvocation (reason : String)
  | timeout (budget : Duration)
  | invalidPattern (reason : String)
  | serialization (reason : String)
  deriving DecidableEq

namespace Error

def message : Error → String
  | outOfBounds o l s => s!"Out of bounds access: offset {o} + length {l} exceeds size {s}"
  | invalidInput r => s!"Invalid input: {r}"
  | fileAccess p c => s!"I/O error on {p}: {c}"
  | io c => s!"I/O error: {c}"
  | fileTooLarge limit found =>
    s!"File size of {found} bytes exceeds the maximum allowed size of {limit} bytes"
  | unsupportedPlatform n => s!"API hooking not implemented for platform: {n}"
  | backendUnavailable n => s!"Decompiler {n} is not available"
  | notImplemented w => s!"Not implemented: {w}"
  | toolInvocation r => s!"Tool invocation failed: {r}"
  | timeout b => "Operation timeout after " ++ b.text
  | invalidPattern r => s!"Pattern error: {r}"
  | serialization r => s!"Serialization error: {r}"

/-- Whether the rest of an analysis can go on without the failed step. -/
def recoverable : Error → Bool
  | toolInvocation _ | timeout _ | backendUnavailable _ | notImplemented _ => true
  | _ => false

end Error

/-- The result of an operation that can fail. -/
abbrev Result := Except Error

end Triage
