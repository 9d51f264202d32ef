import Triage.Image
import Triage.Obfuscation

/-! An image in use. What takes long to compute of it is computed once, when it is first asked for, and
then kept. -/
namespace Triage

/-- A place for a value. -/
structure Once (α : Type) where
  kept : Option α := none

namespace Once
variable {α : Type}

/-- The value kept, or else a new one, which is kept from now on. -/
def get (c : Once α) (compute : Unit → α) : α × Once α :=
  match c.kept with
  | some a => (a, c)
  | none =>
    let a := compute ()
    (a, ⟨some a⟩)

end Once

namespace Image

structure Memo where
  image : Image
  entropyKept : Once Float := {}
  sha256Kept : Once String := {}

/-- Nothing is computed yet. -/
def memo (i : Image) : Memo := { image := i }

namespace Memo

def entropy (m : Memo) : Float × Memo :=
  let r := m.entropyKept.get fun _ => m.image.entropy
  (r.1, { m with entropyKept := r.2 })

def sha256 (m : Memo) : String × Memo :=
  let r := m.sha256Kept.get fun _ => m.image.sha256
  (r.1, { m with sha256Kept := r.2 })

def analyze (c : ObfuscationConfig) (m : Memo) : Obfuscation × Memo :=
  let data := m.image.bytes
  let e := m.entropy
  (⟨e.1, Obfuscation.controlFlowIn c data, Obfuscation.stringsIn c data,
    Obfuscation.instructionsIn data⟩, e.2)

end Memo
end Image
end Triage
