import Triage.Hook
import Triage.Keyed
import Triage.Text.Quoted

/-! Hooks by the key of their target, in the order in which the keys came. -/
namespace Triage

structure HookEntry (μ : Type) where
  target : Target
  handler : Handler μ

/-- The key under which an entry is kept. -/
def HookEntry.key {μ : Type} (e : HookEntry μ) : String := e.target.key

structure Hooks (μ σ : Type) where
  platform : Platform
  backend : Option (Backend σ)
  state : σ
  /-- What handlers have left behind. -/
  memory : μ
  entries : List (HookEntry μ) := []

namespace Hooks

variable {μ σ : Type}

def forPlatform (p : Platform) (s : σ) (m : μ) : Hooks μ σ := ⟨p, p.backend? σ, s, m, []⟩

def withBackend (p : Platform) (b : Backend σ) (s : σ) (m : μ) : Hooks μ σ := ⟨p, some b, s, m, []⟩

def keys (h : Hooks μ σ) : List String := h.entries.map HookEntry.key

def find? (h : Hooks μ σ) (t : Target) : Option (HookEntry μ) :=
  Keyed.get? HookEntry.key t.key h.entries

def isHooked (h : Hooks μ σ) (t : Target) : Bool := (h.find? t).isSome

def size (h : Hooks μ σ) : Nat := h.entries.length

/-- The backend is asked first and may refuse. A key that is hooked again keeps its place. -/
def hook (h : Hooks μ σ) (t : Target) (handler : Handler μ) : Result Unit × Hooks μ σ :=
  match h.backend with
  | none => (.error (.unsupportedPlatform h.platform.name), h)
  | some b =>
    if t.library.isEmpty || t.function.isEmpty then
      (.error (.invalidInput "hook target needs both a module and a function name"), h)
    else
      match b.install t h.state with
      | (.error e, s) => (.error e, { h with state := s })
      | (.ok _, s) =>
        (.ok (), { h with state := s, entries := Keyed.put HookEntry.key ⟨t, handler⟩ h.entries })

/-- Tells the backend that a target is free again. -/
def release (h : Hooks μ σ) (t : Target) : Hooks μ σ :=
  match h.backend with
  | some b => { h with state := b.remove t h.state }
  | none => h

def unhook (h : Hooks μ σ) (t : Target) : Bool × Hooks μ σ :=
  match h.find? t with
  | none => (false, h)
  | some e => (true, { h.release e.target with entries := Keyed.erase HookEntry.key t.key h.entries })

def clear (h : Hooks μ σ) : Hooks μ σ :=
  { h.entries.foldl (fun h e => h.release e.target) h with entries := [] }

/-- Runs a script; `inner` runs the calls that it dispatches. -/
def runWith (inner : Call → Hooks μ σ → Option (Option Action × Hooks μ σ)) :
    Script μ → Hooks μ σ → Option (Action × Hooks μ σ)
  | .finish a, h => some (a, h)
  | .memory next, h => runWith inner (next h.memory) h
  | .leave m next, h => runWith inner next { h with memory := m }
  | .hook t handler next, h =>
    let (r, h) := h.hook t handler
    runWith inner (next r) h
  | .unhook t next, h =>
    let (r, h) := h.unhook t
    runWith inner (next r) h
  | .clear next, h => runWith inner next h.clear
  | .keys next, h => runWith inner (next h.keys) h
  | .dispatch c next, h =>
    match inner c h with
    | some (a, h) => runWith inner (next a) h
    | none => none

/-- Runs the handler of a call, if it has one. `none` if handlers are nested deeper than `depth`. -/
def dispatch : Nat → Call → Hooks μ σ → Option (Option Action × Hooks μ σ)
  | 0, _, _ => none
  | depth + 1, c, h =>
    match h.find? c.target with
    | none => some (none, h)
    | some e => (runWith (dispatch depth) (e.handler c) h).map fun (a, h) => (some a, h)

end Hooks

def Platform.describe : Platform → String
  | windows => "Windows"
  | linux => "Linux"
  | unsupported n => s!"Unsupported({Text.quoted n})"

def Platform.describeLong : Platform → String
  | unsupported n => s!"Unsupported(\n        {Text.quoted n},\n    )"
  | p => p.describe

namespace Hooks

variable {μ σ : Type}

/-- On one line. -/
def describe (h : Hooks μ σ) : String :=
  let keys := ", ".intercalate (h.keys.map Text.quoted)
  s!"HookRegistry \x7b platform: {h.platform.describe}, hooks: [{keys}] \x7d"

/-- On a line for each part. -/
def describeLong (h : Hooks μ σ) : String :=
  let keys := String.join (h.keys.map fun k => "        " ++ Text.quoted k ++ ",\n")
  let list := if h.entries.isEmpty then "[]" else "[\n" ++ keys ++ "    ]"
  s!"HookRegistry \x7b\n    platform: {h.platform.describeLong},\n    hooks: {list},\n\x7d"

end Hooks
end Triage
