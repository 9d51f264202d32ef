import Triage.Bytes.Scan
import Triage.Json.Record

/-! Named sets of byte patterns. -/
namespace Triage

inductive Category where
  | packer
  | api
  | shellcode
  /-- Added without a category. -/
  | custom
  deriving DecidableEq

namespace Category

def all : List Category := [packer, api, shellcode, custom]

def name : Category → String
  | packer => "packer"
  | api => "api"
  | shellcode => "shellcode"
  | custom => "custom"

def ofName? (s : String) : Option Category := all.find? fun c => c.name == s

end Category

structure Signature where
  name : String
  patterns : List Bytes
  category : Category
  deriving DecidableEq

namespace Signature

/-- A signature needs a pattern, and no pattern may be empty. -/
def check (s : Signature) : Result Unit :=
  if s.patterns.isEmpty then .error (.invalidInput s!"signature '{s.name}' has no patterns")
  else if s.patterns.any List.isEmpty then
    .error (.invalidInput s!"signature '{s.name}' contains an empty pattern")
  else .ok ()

/-- Offsets of all hits of any pattern, ascending and each once. -/
def offsets (s : Signature) (data : Bytes) : List Nat :=
  match s.patterns with
  | [p] => Bytes.offsets p data
  | ps => (ps.flatMap fun p => Bytes.offsets p data).mergeSort.eraseReps

/-- Whether some pattern stands somewhere in the data. -/
def occursIn (s : Signature) (data : Bytes) : Bool :=
  s.patterns.any fun p => Bytes.occursIn p data

end Signature

open Json

instance : Document Category where
  toJson c := .text c.name
  ofJson? := Value.choice? (Category.all.map fun c => (c.name, c))

instance : Document Signature where
  toJson s := .record
    [("name", .text s.name),
     ("patterns", .arr (s.patterns.map fun p => .arr (p.map fun b => .nat b.toNat))),
     ("category", Document.toJson s.category)]
  ofJson? v := do
    let f ← v.fields? ["name", "patterns", "category"]
    return {
      name := ← f.required "name" Value.string?
      patterns := ← f.required "patterns" (Value.list? (Value.list? Value.byte?))
      category := ← f.required "category" Document.ofJson? }

end Triage
