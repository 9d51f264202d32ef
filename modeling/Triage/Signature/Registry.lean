import Triage.Keyed
import Triage.Signature

/-!
A registry keeps signatures in the order in which their names first came in, one for each name, and
searches data for all of them.
-/
namespace Triage

structure Registry where
  signatures : List Signature := []
  deriving DecidableEq

namespace Registry

def empty : Registry := {}

def get? (r : Registry) (name : String) : Option Signature :=
  Keyed.get? Signature.name name r.signatures

def contains (r : Registry) (name : String) : Bool := (r.get? name).isSome

/-- Replaces the signature of the same name in place, or goes to the end. -/
def add (r : Registry) (s : Signature) : Result Registry := do
  s.check
  return ⟨Keyed.put Signature.name s r.signatures⟩

/-- A signature of one pattern; it keeps the category that the name already has. -/
def addPattern (r : Registry) (name : String) (pattern : Bytes) : Result Registry :=
  r.add ⟨name, [pattern], ((r.get? name).map Signature.category).getD .custom⟩

def names (r : Registry) : List String := r.signatures.map Signature.name

def size (r : Registry) : Nat := r.signatures.length

def isEmpty (r : Registry) : Bool := r.signatures.isEmpty

def inCategory (r : Registry) (c : Category) : List Signature :=
  r.signatures.filter fun s => s.category == c

/-- Offsets of the named signature; none for an unknown name. -/
def find (r : Registry) (name : String) (data : Bytes) : List Nat :=
  ((r.get? name).map fun s => s.offsets data).getD []

/-- Names that have hits, with their offsets. -/
def findAll (r : Registry) (data : Bytes) : List (String × List Nat) :=
  (r.names.map fun n => (n, r.find n data)).filter fun h => !h.2.isEmpty

/-- Whether the named signature stands in the data. -/
def occursIn (r : Registry) (name : String) (data : Bytes) : Bool :=
  ((r.get? name).map fun s => s.occursIn data).getD false

/-- Names of the category that stand in the data. -/
def matching (r : Registry) (c : Category) (data : Bytes) : List String :=
  ((r.inCategory c).filter fun s => s.occursIn data).map Signature.name

/-- The signatures that every analysis starts from. -/
def builtin : Registry := ⟨[
  ⟨"execve", [[0x31, 0xC0, 0x50, 0x68, 0x2F, 0x2F, 0x73, 0x68]], .shellcode⟩,
  ⟨"bind_shell", [[0x31, 0xC0, 0x31, 0xDB, 0x31, 0xC9]], .shellcode⟩,
  ⟨"reverse_shell", [[0x31, 0xC0, 0x31, 0xDB, 0x31, 0xC9, 0x31, 0xD2]], .shellcode⟩,
  ⟨"loadlibrary", [Bytes.ofAscii "LoadLibrary"], .api⟩,
  ⟨"getprocaddress", [Bytes.ofAscii "GetProcAddress"], .api⟩,
  ⟨"upx", ["UPX!", "UPX0", "UPX1"].map Bytes.ofAscii, .packer⟩,
  ⟨"pecompact", ["PEC2", "PEC2MSCE"].map Bytes.ofAscii, .packer⟩,
  ⟨"aspack", [Bytes.ofAscii "ASPack"], .packer⟩,
  ⟨"fsg", [Bytes.ofAscii "FSG!"], .packer⟩,
  ⟨"mew", [Bytes.ofAscii "MEW"], .packer⟩]⟩

end Registry
end Triage
