import Triage.Error

/-! Intercepted calls, and what answers them. -/
namespace Triage

/-- A function of a library. -/
structure Target where
  library : String
  function : String
  deriving DecidableEq

namespace Target

/-- The text under which a target is kept. -/
def key (t : Target) : String := t.library ++ ":" ++ t.function

end Target

structure Call where
  target : Target
  args : List UInt64
  deriving DecidableEq

/-- What becomes of an intercepted call. -/
inductive Action where
  | callThrough
  | ret (value : UInt64)
  deriving DecidableEq

/-- What a handler does to the table of hooks before it says what becomes of the call. Handlers may
also leave something of type `μ` for later calls. -/
inductive Script (μ : Type) where
  | finish (a : Action)
  | memory (next : μ → Script μ)
  | leave (m : μ) (next : Script μ)
  | hook (t : Target) (handler : Call → Script μ) (next : Result Unit → Script μ)
  | unhook (t : Target) (next : Bool → Script μ)
  | clear (next : Script μ)
  | keys (next : List String → Script μ)
  | dispatch (c : Call) (next : Option Action → Script μ)

abbrev Handler (μ : Type) := Call → Script μ

/-- The mechanism that redirects calls, with a state of its own. -/
structure Backend (σ : Type) where
  label : String
  mechanism : String
  install : Target → σ → Result Unit × σ
  remove : Target → σ → σ

inductive Platform where
  | windows
  | linux
  | unsupported (name : String)
  deriving DecidableEq

namespace Platform

def name : Platform → String
  | windows => "windows"
  | linux => "linux"
  | unsupported n => n

def isSupported : Platform → Bool
  | unsupported _ => false
  | _ => true

/-- A backend that takes every target. -/
def accepting (σ : Type) (label mechanism : String) : Backend σ where
  label
  mechanism
  install _ s := (.ok (), s)
  remove _ s := s

def backend? (σ : Type) : Platform → Option (Backend σ)
  | windows => some (accepting σ "WindowsBackend" "inline detour")
  | linux => some (accepting σ "LinuxBackend" "symbol interposition")
  | unsupported _ => none

end Platform
end Triage
