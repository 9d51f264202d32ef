import Triage.Config
import Triage.Host
import Triage.Path

/-! Outside decompilers: one is probed once, before its first use, and keeps the verdict. -/
namespace Triage

inductive DecompilerKind where
  | ghidra
  | ida
  | radare2
  deriving DecidableEq

namespace DecompilerKind

def all : List DecompilerKind := [ghidra, ida, radare2]

def name : DecompilerKind → String
  | ghidra => "ghidra"
  | ida => "ida"
  | radare2 => "radare2"

/-- Reads a name, or the short one, in any mixture of ASCII cases. -/
def parse (s : String) : Result DecompilerKind :=
  let t := s.map Char.toLower
  match ((all.map fun k => (k.name, k)) ++ [("r2", radare2)]).lookup t with
  | some k => .ok k
  | none => .error (.invalidInput s!"unknown decompiler: {t}")

end DecompilerKind

structure Decompiled where
  success : Bool
  code : String
  errors : String
  deriving DecidableEq

def Decompiled.failure (errors : String) : Decompiled := ⟨false, "", errors⟩

/-- The names that a structural analysis lists. -/
structure BinaryStructure where
  functions : List String := []
  strings : List String := []
  imports : List String := []
  exports : List String := []
  deriving DecidableEq

structure Decompiler where
  kind : DecompilerKind
  tools : ToolConfig
  /-- The result of the probe, once it has been made. -/
  verdict : Option Bool := none

namespace Decompiler

variable {ω : Type}

/-- A path of several components has to be a file; a bare name is looked up. -/
def programExists (h : Host ω) (program : String) (w : ω) : Bool :=
  if 1 < (Path.components program).length then h.isFile w program
  else
    match h.env w "PATH" with
    | some paths => (Path.searchList paths).any fun dir => h.isFile w (Path.join dir program)
    | none => false

/-- Whether the program answers the question for its version. -/
def versionOk (h : Host ω) (tools : ToolConfig) (program flag : String) (w : ω) : Bool × ω :=
  match h.runTool ⟨program, [flag], .ofSecs tools.probeTimeoutSecs.toNat⟩ w with
  | (.ok out, w) => (out.success, w)
  | (.error _, w) => (false, w)

def probe (h : Host ω) (kind : DecompilerKind) (tools : ToolConfig) (w : ω) : Bool × ω :=
  match kind with
  | .radare2 => versionOk h tools tools.radare2 "-v" w
  | .ghidra =>
    match tools.ghidra (h.env w) with
    | some program => versionOk h tools program "-version" w
    | none => (false, w)
  | .ida => (programExists h (tools.ida (h.env w)) w, w)

/-- Probes at the first call. -/
def available (h : Host ω) (d : Decompiler) (w : ω) : Bool × Decompiler × ω :=
  match d.verdict with
  | some v => (v, d, w)
  | none =>
    let (v, w) := probe h d.kind d.tools w
    (v, { d with verdict := some v }, w)

/-- Seeks the address, if there is one, and prints the function there. -/
def commandArgs (path : String) (address : Option UInt64) : List String :=
  ["-q", "-A"] ++
    (match address with
      | some a => ["-c", "s 0x" ++ String.ofList (Nat.toDigits 16 a.toNat)]
      | none => []) ++
    ["-c", "pdf", path]

def runRadare2 (h : Host ω) (tools : ToolConfig) (path : String) (address : Option UInt64)
    (w : ω) : Decompiled × ω :=
  let budget := Duration.ofSecs tools.decompileTimeoutSecs.toNat
  match h.runTool ⟨tools.radare2, commandArgs path address, budget⟩ w with
  | (.ok out, w) => (⟨out.success, out.stdout, out.stderr⟩, w)
  | (.error e, w) => (.failure e.message, w)

def decompile (h : Host ω) (d : Decompiler) (path : String) (address : Option UInt64) (w : ω) :
    Result Decompiled × Decompiler × ω :=
  match available h d w with
  | (false, d, w) => (.error (.backendUnavailable d.kind.name), d, w)
  | (true, d, w) =>
    match d.kind with
    | .radare2 =>
      let (r, w) := runRadare2 h d.tools path address w
      (.ok r, d, w)
    | k => (.error (.notImplemented s!"{k.name} decompilation"), d, w)

/-- Nothing is listed yet. -/
def analyzeBinary (h : Host ω) (d : Decompiler) (_path : String) (w : ω) :
    Result BinaryStructure × Decompiler × ω :=
  match available h d w with
  | (false, d, w) => (.error (.backendUnavailable d.kind.name), d, w)
  | (true, d, w) => (.ok {}, d, w)

end Decompiler

open Json

instance : Document DecompilerKind where
  toJson k := .text k.name
  ofJson? := Value.choice? (DecompilerKind.all.map fun k => (k.name, k))

instance : Document Decompiled where
  toJson d := .record
    [("success", .bool d.success), ("code", .text d.code), ("errors", .text d.errors)]
  ofJson? v := do
    let f ← v.fields? ["success", "code", "errors"]
    return {
      success := ← f.required "success" Value.bool?
      code := ← f.required "code" Value.string?
      errors := ← f.required "errors" Value.string? }

instance : Document BinaryStructure where
  toJson b := .record
    [("functions", .arr (b.functions.map .text)), ("strings", .arr (b.strings.map .text)),
     ("imports", .arr (b.imports.map .text)), ("exports", .arr (b.exports.map .text))]
  ofJson? v := do
    let f ← v.fields? ["functions", "strings", "imports", "exports"]
    let texts := Value.list? Value.string?
    return {
      functions := ← f.required "functions" texts
      strings := ← f.required "strings" texts
      imports := ← f.required "imports" texts
      exports := ← f.required "exports" texts }

end Triage
