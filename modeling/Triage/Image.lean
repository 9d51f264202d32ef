import Triage.Bytes.Histogram
import Triage.Config
import Triage.Digest
import Triage.Host

/-! The bytes under analysis, and the file they came from. -/
namespace Triage

structure Image where
  source : Option String := none
  bytes : Bytes
  deriving DecidableEq

namespace Image

def ofBytes (data : Bytes) : Image := ⟨none, data⟩

def size (i : Image) : Nat := i.bytes.length

def isEmpty (i : Image) : Bool := i.bytes.isEmpty

def entropy (i : Image) : Float := i.bytes.entropy

def sha256 (i : Image) : String := Bytes.hex (Digest.sha256 i.bytes)

/-- Reads a file of at most the configured size. -/
def load {ω : Type} (h : Host ω) (path : String) (c : IoConfig) (w : ω) : Result Image :=
  match h.fileSize w path with
  | .error e => .error (.fileAccess path e.message)
  | .ok n =>
    if c.maxFileSize.toNat < n then .error (.fileTooLarge c.maxFileSize.toNat n)
    else
      match h.readFile w path with
      | .error e => .error (.fileAccess path e.message)
      | .ok data => .ok ⟨some path, data⟩

end Image
end Triage
