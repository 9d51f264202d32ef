import Triage.Report

/-! One image with its configuration and signatures, and the analysis of it. -/
namespace Triage

structure Session where
  image : Image
  config : Config := {}
  registry : Registry := .builtin

/-- The steps of an analysis that need outside programs. -/
structure SessionOptions where
  decompiler : Option DecompilerKind := none
  address : Option UInt64 := none
  unpack : Bool := false
  unpackOutput : Option String := none

namespace Session

variable {ω : Type}

def load (h : Host ω) (path : String) (config : Config) (w : ω) : Result Session := do
  return { image := ← Image.load h path config.io w, config }

/-- Failures of the tool and of its use are part of the result. -/
def decompile (h : Host ω) (s : Session) (kind : DecompilerKind) (address : Option UInt64)
    (w : ω) : Decompiled × ω :=
  match s.image.source with
  | none => (.failure "decompilation requires an image loaded from a file", w)
  | some path =>
    match Decompiler.decompile h { kind, tools := s.config.tools } path address w with
    | (.ok r, _, w) => (r, w)
    | (.error e, _, w) => (.failure e.message, w)

def unpack (h : Host ω) (s : Session) (packer : Option Packer) (output : Option String)
    (w : ω) : UnpackOutcome × ω :=
  match Unpack.image h s.config.tools s.registry s.image output w with
  | (.ok o, w) => (o, w)
  | (.error e, w) => (.failed packer e.message, w)

/-- The part of the report that needs no outside program. -/
def inspect (s : Session) : Report where
  path := s.image.source
  size := s.image.size
  sha256 := s.image.sha256
  antiDebug := AntiDebug.detect s.registry s.image.bytes
  obfuscation := Obfuscation.analyze s.config.obfuscation s.image.bytes
  packer := Packer.detect s.registry s.image.bytes
  signatures := s.registry.findAll s.image.bytes

def analyze (h : Host ω) (s : Session) (o : SessionOptions) (w : ω) : Report × ω :=
  let base := s.inspect
  let (decompiled, w) := match o.decompiler with
    | some kind =>
      let (d, w) := s.decompile h kind o.address w
      (some d, w)
    | none => (none, w)
  let (unpacked, w) :=
    if o.unpack then
      let (u, w) := s.unpack h base.packer o.unpackOutput w
      (some u, w)
    else (none, w)
  ({ base with decompile := decompiled, unpack := unpacked }, w)

end Session
end Triage
