import Triage.Signature.Registry

/-! Packers that can be told from their markers. -/
namespace Triage

/-- How an image is unpacked. -/
inductive Strategy where
  | upx
  | generic
  deriving DecidableEq

inductive Packer where
  | upx
  | peCompact
  | asPack
  | fsg
  | mew
  deriving DecidableEq

def Strategy.name : Strategy → String
  | upx => "upx"
  | generic => "generic"

namespace Packer

/-- In the order in which they are looked for. -/
def priority : List Packer := [upx, peCompact, asPack, fsg, mew]

/-- Also the name of the signature that holds its markers. -/
def name : Packer → String
  | upx => "upx"
  | peCompact => "pecompact"
  | asPack => "aspack"
  | fsg => "fsg"
  | mew => "mew"

def strategy : Packer → Strategy
  | upx => .upx
  | _ => .generic

/-- Reads a name in any mixture of ASCII cases. -/
def parse (s : String) : Result Packer :=
  match priority.find? fun p => p.name == s.map Char.toLower with
  | some p => .ok p
  | none => .error (.invalidInput s!"unknown packer: {s}")

/-- The first packer of the order with a marker in the data. -/
def detect (r : Registry) (data : Bytes) : Option Packer :=
  priority.find? fun p => r.occursIn p.name data

end Packer

open Json

instance : Document Strategy where
  toJson s := .text s.name
  ofJson? := Value.choice? ([Strategy.upx, .generic].map fun s => (s.name, s))

instance : Document Packer where
  toJson p := .text p.name
  ofJson? := Value.choice? (Packer.priority.map fun p => (p.name, p))

end Triage
