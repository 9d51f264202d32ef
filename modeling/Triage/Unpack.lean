import Triage.Image
import Triage.Packer
import Triage.Text.Property

/-! Unpacking images with an outside program. -/
namespace Triage

structure UnpackOutcome where
  packer : Option Packer
  success : Bool
  outputPath : Option String
  message : String
  deriving DecidableEq

namespace UnpackOutcome

def failed (packer : Option Packer) (message : String) : UnpackOutcome :=
  ⟨packer, false, none, message⟩

end UnpackOutcome

namespace Unpack

def suffix : String := ".unpacked"

/-- Where the result goes if nothing else is said. -/
def defaultOutput (input : String) : String := input ++ suffix

def exitCodeText : Option Int → String
  | some n => s!"Some({n})"
  | none => "None"

def upxCommand (tools : ToolConfig) (input output : String) : Command :=
  ⟨tools.upx, ["-d", input, "-o", output], .ofSecs tools.unpackTimeoutSecs.toNat⟩

variable {ω : Type}

def runUpx (h : Host ω) (tools : ToolConfig) (input output : String) (w : ω) :
    UnpackOutcome × ω :=
  match h.runTool (upxCommand tools input output) w with
  | (.ok out, w) =>
    if out.success then (⟨some .upx, true, some output, Text.trim out.stdout⟩, w)
    else
      let code := exitCodeText out.exitCode
      let stderr := Text.trim out.stderr
      (.failed (some .upx) s!"upx exited with {code}: {stderr}", w)
  | (.error e, w) => (.failed (some .upx) e.message, w)

/-- Unpacks an image that has been loaded from a file; `output` may say where to. -/
def image (h : Host ω) (tools : ToolConfig) (r : Registry) (i : Image) (output : Option String)
    (w : ω) : Result UnpackOutcome × ω :=
  match Packer.detect r i.bytes, i.source with
  | none, _ => (.ok (.failed none "no packer detected"), w)
  | some _, none => (.error (.invalidInput "unpacking requires an image loaded from a file"), w)
  | some p, some input =>
    match p.strategy with
    | .upx =>
      let (o, w) := runUpx h tools input (output.getD (defaultOutput input)) w
      (.ok o, w)
    | .generic =>
      (.ok (.failed (some p) s!"generic unpacking is not supported for {p.name}"), w)

/-- The packer of a file. -/
def detect (h : Host ω) (r : Registry) (path : String) (w : ω) : Result (Option Packer) := do
  let i ← Image.load h path {} w
  return Packer.detect r i.bytes

/-- Loads a file and unpacks it. -/
def file (h : Host ω) (tools : ToolConfig) (r : Registry) (path : String)
    (output : Option String) (w : ω) : Result UnpackOutcome × ω :=
  match Image.load h path {} w with
  | .ok i => image h tools r i output w
  | .error e => (.error e, w)

end Unpack

open Json

instance : Document UnpackOutcome where
  toJson o := .record
    [("packer", match o.packer with
      | some p => Document.toJson p
      | none => .null),
     ("success", .bool o.success), ("output_path", .ofOption o.outputPath),
     ("message", .text o.message)]
  ofJson? v := do
    let f ← v.fields? ["packer", "success", "output_path", "message"]
    return {
      packer := ← f.optional "packer" Document.ofJson?
      success := ← f.required "success" Value.bool?
      outputPath := ← f.optional "output_path" Value.string?
      message := ← f.required "message" Value.string? }

end Triage
