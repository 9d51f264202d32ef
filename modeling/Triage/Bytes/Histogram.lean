import Triage.Bytes

/-! Counts of byte values and the Shannon entropy they give. -/
namespace Triage

/-- One count for each byte value. -/
abbrev Histogram := Vector Nat 256

namespace Histogram

def empty : Histogram := Vector.replicate 256 0

/-- One more occurrence of `b`. -/
def add (h : Histogram) (b : UInt8) : Histogram :=
  h.set b.toNat (h.get ⟨b.toNat, b.toNat_lt⟩ + 1) b.toNat_lt

def ofBytes (data : Bytes) : Histogram :=
  data.foldl add empty

/-- Number of occurrences of `b`. -/
def count (h : Histogram) (b : UInt8) : Nat :=
  h.get ⟨b.toNat, b.toNat_lt⟩

/-- What a value of probability `p` adds to the entropy. -/
def term (p : Float) : Float := -p * p.log2

/-- Bits per byte in [0, 8], summed in byte order; zero when there are no bytes. -/
def entropy (h : Histogram) (total : Nat) : Float :=
  if total = 0 then 0
  else
    let n := total.toFloat
    let sum := h.toList.foldl (fun s c => if c = 0 then s else s + term (c.toFloat / n)) 0
    if sum ≤ 0 then 0 else if sum < 8 then sum else 8

end Histogram

namespace Bytes

/-- Shannon entropy in bits per byte. -/
def entropy (data : Bytes) : Float :=
  (Histogram.ofBytes data).entropy data.length

end Bytes
end Triage
