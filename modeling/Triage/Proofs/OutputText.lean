import Mathlib.Data.List.Forall2
import Triage.Host
import Triage.Proofs.BufferContents

/-! The text of what a program has written. It comes in reads that may end anywhere, also inside a
character, and passes through a chunk that still holds parts of earlier reads. -/
namespace Triage

namespace Utf8
variable {b : UInt8} {ss : List Span} {bs : Bytes}

theorem Span.has_iff {s : Span} :
    s.has b = true ↔ s.low.toNat ≤ b.toNat ∧ b.toNat ≤ s.high.toNat := by
  simp [has, UInt8.le_iff_toNat_le]

theorem tail_has_iff : tail.has b = true ↔ 0x80 ≤ b.toNat ∧ b.toNat ≤ 0xBF := Span.has_iff

/-- Bytes that lie in their spans, one in each. -/
def Fit (ss : List Span) (bs : Bytes) : Prop := List.Forall₂ (fun s b => s.has b = true) ss bs

theorem Fit.fitting_append (h : Fit ss bs) (rest : Bytes) :
    fitting ss (bs ++ rest) = bs.length := by
  induction h with
  | nil => cases rest <;> rfl
  | cons hb _ ih => simp [fitting, hb, ih]

theorem front_of_fit (hf : followers b = some ss) (h : Fit ss bs) (rest : Bytes) :
    front b (bs ++ rest) = .scalar (codePoint (leadBits b bs.length) bs) (bs.length + 1) := by
  have hl : ss.length = bs.length := h.length_eq
  simp [front, hf, h.fitting_append, hl]

theorem decodeFrom_length_append (bs rest : Bytes) :
    decodeFrom bs.length (bs ++ rest) = decodeFrom 0 rest := by
  induction bs with
  | nil => rfl
  | cons b bs ih => simpa [decodeFrom] using ih

/-- A character in bytes, as the decoder takes it apart. -/
structure Spelt (c : Char) (b : UInt8) (ss : List Span) (bs : Bytes) : Prop where
  encode_eq : encodeChar c = b :: bs
  followers_eq : followers b = some ss
  fit : Fit ss bs
  codePoint_eq : codePoint (leadBits b bs.length) bs = c.toNat

theorem Spelt.decodeFrom_append {c : Char} (h : Spelt c b ss bs) (rest : Bytes) :
    decodeFrom 0 (encodeChar c ++ rest) = c :: decodeFrom 0 rest := by
  rw [h.encode_eq, List.cons_append, decodeFrom, front_of_fit h.followers_eq h.fit]
  simp [Unit.char, Unit.size, h.codePoint_eq, Char.ofNat_toNat, decodeFrom_length_append]

theorem toNat_ofNat {n : Nat} (h : n < 256) : (UInt8.ofNat n).toNat = n :=
  UInt8.toNat_ofNat_of_lt' h

theorem followers_one (h : b.toNat < 0x80) : followers b = some [] := by
  simp [followers, UInt8.lt_iff_toNat_lt, h]

theorem followers_two (h : 0xC2 ≤ b.toNat) (h' : b.toNat < 0xE0) : followers b = some [tail] := by
  have h1 : ¬ b.toNat < 0x80 := by omega
  have h2 : ¬ b.toNat < 0xC2 := by omega
  simp [followers, UInt8.lt_iff_toNat_lt, h1, h2, h']

/-- What may come second in a character of three or four bytes. After the first of its leads it would
else say what fewer bytes can, and after another one it would name what is no character. -/
def second (b : UInt8) (first last : Nat) (least most : UInt8) : Span :=
  if b.toNat = first then ⟨least, 0xBF⟩ else if b.toNat = last then ⟨0x80, most⟩ else tail

theorem second_has {first last : Nat} {least most x : UInt8} (hx : 0x80 ≤ x.toNat)
    (hx' : x.toNat ≤ 0xBF) (hl : b.toNat = first → least.toNat ≤ x.toNat)
    (hm : b.toNat = last → x.toNat ≤ most.toNat) :
    (second b first last least most).has x = true := by
  rw [second]
  split
  · rename_i hf
    exact Span.has_iff.mpr ⟨hl hf, hx'⟩
  · split
    · rename_i hf
      exact Span.has_iff.mpr ⟨hx, hm hf⟩
    · exact tail_has_iff.mpr ⟨hx, hx'⟩

theorem followers_three (h : 0xE0 ≤ b.toNat) (h' : b.toNat < 0xF0) :
    followers b = some [second b 0xE0 0xED 0xA0 0x9F, tail] := by
  have h1 : ¬ b.toNat < 0x80 := by omega
  have h2 : ¬ b.toNat < 0xC2 := by omega
  have h3 : ¬ b.toNat < 0xE0 := by omega
  simp only [followers, second, UInt8.lt_iff_toNat_lt, ← UInt8.toNat_inj, UInt8.reduceToNat, h1,
    h2, h3, h', if_false, if_true]
  by_cases hf : b.toNat = 0xE0
  · simp only [hf, if_true]
  · by_cases hl : b.toNat = 0xED
    · simp only [hl, if_true, Nat.reduceEqDiff, if_false]
    · simp only [hf, hl, if_false]

theorem followers_four (h : 0xF0 ≤ b.toNat) (h' : b.toNat ≤ 0xF4) :
    followers b = some [second b 0xF0 0xF4 0x90 0x8F, tail, tail] := by
  have h1 : ¬ b.toNat < 0x80 := by omega
  have h2 : ¬ b.toNat < 0xC2 := by omega
  have h3 : ¬ b.toNat < 0xE0 := by omega
  have h4 : ¬ b.toNat = 0xE0 := by omega
  have h5 : ¬ b.toNat = 0xED := by omega
  have h6 : ¬ b.toNat < 0xF0 := by omega
  simp only [followers, second, UInt8.lt_iff_toNat_lt, ← UInt8.toNat_inj, UInt8.reduceToNat, h1,
    h2, h3, h4, h5, h6, if_false]
  by_cases hf : b.toNat = 0xF0
  · simp only [hf, if_true]
  · by_cases hl : b.toNat = 0xF4
    · simp only [hl, if_true, Nat.reduceEqDiff, Nat.lt_irrefl, if_false]
    · have hm : b.toNat < 0xF4 := by omega
      simp only [hf, hl, hm, if_true, if_false]

/-- The six bits of a code point that stand above `m`, behind the mark of a follower. -/
def follower (v m : Nat) : UInt8 := UInt8.ofNat (v / m % 64 + 128)

theorem toNat_follower (v m : Nat) : (follower v m).toNat = v / m % 64 + 128 :=
  toNat_ofNat (by omega)

theorem tail_has_follower (v m : Nat) : tail.has (follower v m) = true := by
  rw [tail_has_iff, toNat_follower]
  omega

theorem encodeChar_eq (c : Char) : encodeChar c =
    if c.toNat ≤ 0x7F then [UInt8.ofNat c.toNat]
    else if c.toNat ≤ 0x7FF then [UInt8.ofNat (c.toNat / 64 % 32 + 192), follower c.toNat 1]
    else if c.toNat ≤ 0xFFFF then
      [UInt8.ofNat (c.toNat / 4096 % 16 + 224), follower c.toNat 64, follower c.toNat 1]
    else
      [UInt8.ofNat (c.toNat / 262144 % 8 + 240), follower c.toNat 4096, follower c.toNat 64,
        follower c.toNat 1] := by
  simp only [follower, Nat.div_one]
  exact String.utf8EncodeChar.eq_1 c

variable {c : Char}

theorem spelt_one (h : c.toNat ≤ 0x7F) : ∃ b ss bs, Spelt c b ss bs := by
  have hb : (UInt8.ofNat c.toNat).toNat = c.toNat := toNat_ofNat (by omega)
  exact ⟨UInt8.ofNat c.toNat, [], [], (encodeChar_eq c).trans (if_pos h),
    followers_one (by omega), .nil, hb⟩

theorem spelt_two (h : 0x7F < c.toNat) (h' : c.toNat ≤ 0x7FF) : ∃ b ss bs, Spelt c b ss bs := by
  obtain ⟨b, hb⟩ : ∃ b, b = UInt8.ofNat (c.toNat / 64 % 32 + 192) := ⟨_, rfl⟩
  have hn : b.toNat = c.toNat / 64 % 32 + 192 := hb ▸ toNat_ofNat (by omega)
  refine ⟨b, [tail], [follower c.toNat 1], ?_, followers_two (by omega) (by omega),
    .cons (tail_has_follower _ _) .nil, ?_⟩
  · rw [encodeChar_eq, if_neg (by omega), if_pos h', hb]
  · change b.toNat % 32 * 64 + (follower c.toNat 1).toNat % 64 = c.toNat
    rw [hn, toNat_follower]
    omega

theorem spelt_three (h : 0x7FF < c.toNat) (h' : c.toNat ≤ 0xFFFF)
    (hv : c.toNat < 0xD800 ∨ 0xDFFF < c.toNat) : ∃ b ss bs, Spelt c b ss bs := by
  obtain ⟨b, hb⟩ : ∃ b, b = UInt8.ofNat (c.toNat / 4096 % 16 + 224) := ⟨_, rfl⟩
  have hn : b.toNat = c.toNat / 4096 % 16 + 224 := hb ▸ toNat_ofNat (by omega)
  have hx := toNat_follower c.toNat 64
  have hs : (second b 0xE0 0xED 0xA0 0x9F).has (follower c.toNat 64) = true := by
    refine second_has (by omega) (by omega) ?_ ?_
    · intro hb
      change 0xA0 ≤ (follower c.toNat 64).toNat
      omega
    · intro hb
      change (follower c.toNat 64).toNat ≤ 0x9F
      omega
  refine ⟨b, _, [follower c.toNat 64, follower c.toNat 1], ?_,
    followers_three (by omega) (by omega), .cons hs (.cons (tail_has_follower _ _) .nil), ?_⟩
  · rw [encodeChar_eq, if_neg (by omega), if_neg (by omega), if_pos h', hb]
  · change (b.toNat % 16 * 64 + (follower c.toNat 64).toNat % 64) * 64 +
      (follower c.toNat 1).toNat % 64 = c.toNat
    rw [hn, hx, toNat_follower]
    omega

theorem spelt_four (h : 0xFFFF < c.toNat) (h' : c.toNat < 0x110000) :
    ∃ b ss bs, Spelt c b ss bs := by
  obtain ⟨b, hb⟩ : ∃ b, b = UInt8.ofNat (c.toNat / 262144 % 8 + 240) := ⟨_, rfl⟩
  have hn : b.toNat = c.toNat / 262144 % 8 + 240 := hb ▸ toNat_ofNat (by omega)
  have hx := toNat_follower c.toNat 4096
  have hs : (second b 0xF0 0xF4 0x90 0x8F).has (follower c.toNat 4096) = true := by
    refine second_has (by omega) (by omega) ?_ ?_
    · intro hb
      change 0x90 ≤ (follower c.toNat 4096).toNat
      omega
    · intro hb
      change (follower c.toNat 4096).toNat ≤ 0x8F
      omega
  refine ⟨b, _, [follower c.toNat 4096, follower c.toNat 64, follower c.toNat 1], ?_,
    followers_four (by omega) (by omega),
    .cons hs (.cons (tail_has_follower _ _) (.cons (tail_has_follower _ _) .nil)), ?_⟩
  · rw [encodeChar_eq, if_neg (by omega), if_neg (by omega), if_neg (by omega), hb]
  · change ((b.toNat % 8 * 64 + (follower c.toNat 4096).toNat % 64) * 64 +
      (follower c.toNat 64).toNat % 64) * 64 + (follower c.toNat 1).toNat % 64 = c.toNat
    rw [hn, hx, toNat_follower, toNat_follower]
    omega

theorem exists_spelt (c : Char) : ∃ b ss bs, Spelt c b ss bs := by
  have hv : c.toNat < 0xD800 ∨ 0xDFFF < c.toNat ∧ c.toNat < 0x110000 := c.valid
  by_cases h1 : c.toNat ≤ 0x7F
  · exact spelt_one h1
  · by_cases h2 : c.toNat ≤ 0x7FF
    · exact spelt_two (by omega) h2
    · by_cases h3 : c.toNat ≤ 0xFFFF
      · exact spelt_three (by omega) h3 (by omega)
      · exact spelt_four (by omega) (by omega)

theorem decode_encode (s : String) : decode (encode s) = s := by
  have hl (cs : List Char) : decodeFrom 0 (cs.flatMap encodeChar) = cs := by
    induction cs with
    | nil => rfl
    | cons c cs ih =>
      obtain ⟨b, ss, bs, h⟩ := exists_spelt c
      rw [List.flatMap_cons, h.decodeFrom_append, ih]
  rw [decode, encode, hl, String.ofList_toList]

end Utf8

namespace Buffer
variable {b : Buffer} {data : Bytes}

theorem overwrite_zero {data bs : Bytes} (h : data.length ≤ bs.length) :
    overwrite 0 data bs = data ++ bs.drop data.length := by
  induction data generalizing bs with
  | nil => cases bs <;> rfl
  | cons d ds ih =>
    cases bs with
    | nil => simp at h
    | cons b bs => simpa [overwrite] using ih (Nat.le_of_succ_le_succ h)

theorem size_receive : (b.receive data).size = b.size := length_overwrite ..

theorem take_receive (h : data.length ≤ b.size) :
    (b.receive data).bytes.take data.length = data := by
  change (overwrite 0 data b.bytes).take data.length = data
  rw [overwrite_zero h, List.take_left]

end Buffer

namespace ToolOutput

/-- What a chunk can take in, read by read, up to the end of a stream. -/
def AreReads (reads : List Bytes) : Prop := ∀ r ∈ reads, r ≠ [] ∧ r.length ≤ chunkSize

instance (reads : List Bytes) : Decidable (AreReads reads) :=
  inferInstanceAs (Decidable (∀ r ∈ reads, _))

/-- One read stages just what it has brought, whatever is left in the chunk behind it. -/
theorem drainInto_cons {chunk staged : Buffer} {piece : Bytes} (hn : piece ≠ [])
    (hl : piece.length ≤ chunk.size) (reads : List Bytes) :
    drainInto chunk staged (piece :: reads) =
      drainInto (chunk.receive piece) (staged.append piece) reads := by
  have hm : min piece.length chunk.size = piece.length := Nat.min_eq_left hl
  have hz : ¬ piece.length = 0 := fun h => hn (List.eq_nil_of_length_eq_zero h)
  simp only [drainInto, hm, hz, if_false, Buffer.take_receive hl]

theorem bytes_drainInto {chunk : Buffer} (hc : chunk.size = chunkSize) (staged : Buffer)
    {reads : List Bytes} (h : AreReads reads) :
    (drainInto chunk staged reads).bytes = staged.bytes ++ reads.flatten := by
  induction reads generalizing chunk staged with
  | nil => simp [drainInto]
  | cons piece reads ih =>
    obtain ⟨hn, hl⟩ := h piece (by simp)
    have hs : (chunk.receive piece).size = chunkSize := Buffer.size_receive.trans hc
    rw [drainInto_cons hn (hc ▸ hl), ih hs _ fun r hr => h r (List.mem_cons_of_mem piece hr),
      Buffer.bytes_append, List.flatten_cons, List.append_assoc]

theorem bytes_drain {reads : List Bytes} (h : AreReads reads) :
    (drain reads).bytes = reads.flatten := by
  have hc : (Buffer.zeroed chunkSize).size = chunkSize := List.length_replicate
  exact bytes_drainInto hc (.zeroed 0) h

theorem text_eq {reads : List Bytes} (h : AreReads reads) :
    text reads = Utf8.decode reads.flatten := by
  rw [text, bytes_drain h]

/-- However what a program writes is cut into reads, the text that is kept of it is that of all the
bytes together. So any text comes back as it was written, and bytes that are no text give one and
the same text under every cut. -/
theorem text_ignores_reads (reads : List Bytes) (h : AreReads reads) :
    (∀ s, reads.flatten = Utf8.encode s → text reads = s) ∧
    (∀ others, AreReads others → others.flatten = reads.flatten → text others = text reads) ∧
    ∀ (ω : Type) (host : Host ω) (c : Command) (w w' : ω) (code : Option Int)
      (others : List Bytes),
      (host.run c w = (.finished ⟨code, reads, others⟩, w') →
        ∃ o, host.runTool c w = (.ok o, w') ∧ o.stdout = text reads) ∧
      (host.run c w = (.finished ⟨code, others, reads⟩, w') →
        ∃ o, host.runTool c w = (.ok o, w') ∧ o.stderr = text reads) := by
  refine ⟨?_, ?_, ?_⟩
  · intro s hs
    rw [text_eq h, hs, Utf8.decode_encode]
  · intro others ho he
    rw [text_eq ho, text_eq h, he]
  · intro ω host c w w' code others
    constructor
    · intro hr
      exact ⟨.ofCompletion ⟨code, reads, others⟩, by rw [Host.runTool, hr], rfl⟩
    · intro hr
      exact ⟨.ofCompletion ⟨code, others, reads⟩, by rw [Host.runTool, hr], rfl⟩

/-- Characters of two, three and four bytes, none of them read at once. -/
theorem text_ignores_reads_inside_characters :
    AreReads [[0xC3], [0xA9, 0xE2], [0x82], [0xAC, 0xF0, 0x9D], [0x84, 0x9E]] ∧
    text [[0xC3], [0xA9, 0xE2], [0x82], [0xAC, 0xF0, 0x9D], [0x84, 0x9E]] = "é€𝄞" :=
  ⟨by decide, (text_ignores_reads _ (by decide)).1 "é€𝄞" (by decide)⟩

end ToolOutput
end Triage
