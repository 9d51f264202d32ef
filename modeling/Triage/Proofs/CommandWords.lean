import Triage.Decompiler
import Triage.Proofs.Numeral

/-! What the words of a decompiler's command tell: the path and the address can be read off them, and
no other request has the same words. -/
namespace Triage.Decompiler

def isSeek (word : String) : Bool := "s ".toList.isPrefixOf word.toList

/-- The address of a seek, in lower-case hexadecimal digits behind `0x`. -/
def seekAddress? (word : String) : Option UInt64 :=
  if "s 0x".toList.isPrefixOf word.toList then
    ((Numeral.read? 16 (word.toList.drop 4)).filter (· < UInt64.size)).map UInt64.ofNat
  else none

def seekWord (address : UInt64) : String :=
  "s 0x" ++ String.ofList (Nat.toDigits 16 address.toNat)

/-- The words before the command that prints. -/
def frontWords (address : Option UInt64) : List String :=
  ["-q", "-A"] ++ address.toList.flatMap fun a => ["-c", seekWord a]

theorem commandArgs_eq (path : String) (address : Option UInt64) :
    commandArgs path address = frontWords address ++ ["-c", "pdf", path] := by
  cases address with
  | none => rfl
  | some a => rfl

theorem toList_seekWord (a : UInt64) :
    (seekWord a).toList = 's' :: ' ' :: '0' :: 'x' :: Nat.toDigits 16 a.toNat := by
  simp [seekWord]

theorem isSeek_seekWord (a : UInt64) : isSeek (seekWord a) = true := by
  simp [isSeek, toList_seekWord]

theorem seekAddress?_seekWord (a : UInt64) : seekAddress? (seekWord a) = some a := by
  have hr := Numeral.read?_toDigits (by decide) (Nat.le_refl 16) a.toNat
  have ha : (some a.toNat).filter (· < UInt64.size) = some a.toNat := by
    simp [Option.filter, a.toNat_lt_size]
  have hp : "s 0x".toList.isPrefixOf (seekWord a).toList = true := by simp [toList_seekWord]
  have hd : (seekWord a).toList.drop 4 = Nat.toDigits 16 a.toNat := by
    rw [toList_seekWord]
    rfl
  rw [seekAddress?, if_pos hp, hd, hr, ha, Option.map_some, UInt64.ofNat_toNat]

/-- The only seek stands among the words in front if there is an address, and names it. -/
theorem seek_mem_frontWords {word : String} (address : Option UInt64) (hs : isSeek word = true) :
    word ∈ frontWords address ↔ ∃ a, address = some a ∧ word = seekWord a := by
  have hne : word ∉ ["-q", "-A", "-c"] := by
    intro hm
    have hall : ∀ w ∈ ["-q", "-A", "-c"], isSeek w = false := by decide
    rw [hall word hm] at hs
    cases hs
  simp only [List.mem_cons, List.not_mem_nil, or_false, not_or] at hne
  cases address with
  | none => simp [frontWords, hne]
  | some a => simp [frontWords, hne]

theorem frontWords_injective {a b : Option UInt64} (h : frontWords a = frontWords b) : a = b := by
  cases a with
  | none =>
    cases b with
    | none => rfl
    | some b => simp [frontWords] at h
  | some a =>
    have hm : seekWord a ∈ frontWords b :=
      h ▸ (seek_mem_frontWords (some a) (isSeek_seekWord a)).mpr ⟨a, rfl, rfl⟩
    obtain ⟨c, rfl, hw⟩ := (seek_mem_frontWords b (isSeek_seekWord a)).mp hm
    rw [← seekAddress?_seekWord a, hw, seekAddress?_seekWord]

/-- Different requests have different words. The path comes last, and before the command that prints
there is a seek exactly if an address is given, from whose digits the address is read back. -/
theorem commandArgs_tell_request (p q : String) (a b : Option UInt64) :
    (commandArgs p a = commandArgs q b ↔ p = q ∧ a = b) ∧
    (commandArgs p a).getLast? = some p ∧
    ∃ front, commandArgs p a = front ++ ["-c", "pdf", p] ∧
      ((∃ word ∈ front, isSeek word = true) ↔ a.isSome = true) ∧
      ∀ word ∈ front, isSeek word = true → seekAddress? word = a := by
  refine ⟨?_, ?_, frontWords a, commandArgs_eq p a, ?_, ?_⟩
  · constructor
    · intro h
      rw [commandArgs_eq, commandArgs_eq] at h
      obtain ⟨hf, hl⟩ := List.append_inj' h rfl
      exact ⟨by simpa using hl, frontWords_injective hf⟩
    · intro h
      rw [h.1, h.2]
  · rw [commandArgs_eq]
    simp
  · constructor
    · intro h
      obtain ⟨word, hm, hs⟩ := h
      obtain ⟨c, rfl, -⟩ := (seek_mem_frontWords a hs).mp hm
      rfl
    · intro h
      obtain ⟨c, rfl⟩ := Option.isSome_iff_exists.mp h
      have hs := isSeek_seekWord c
      exact ⟨seekWord c, (seek_mem_frontWords (some c) hs).mpr ⟨c, rfl, rfl⟩, hs⟩
  · intro word hm hs
    obtain ⟨c, rfl, rfl⟩ := (seek_mem_frontWords a hs).mp hm
    exact seekAddress?_seekWord c

end Triage.Decompiler
