import Triage.Proofs.MatchOrder
import Triage.Proofs.Numeral
import Triage.Proofs.Occurrence

/-! Bytes written as escapes. The search for the expression and the plain search for the bytes agree,
up to hits that overlap one taken before. -/
namespace Triage.Regex
open Triage.Numeral (HexDigit hexValue?_eq_some_iff)

/-- A text that gives each byte by two hexadecimal digits, of either case, behind a backslash. -/
inductive Escaped : Bytes → List Char → Prop where
  | nil : Escaped [] []
  | cons {b : UInt8} {bs : Bytes} {high low : Char} {cs : List Char}
    (hh : HexDigit (b.toNat / 16) high) (hl : HexDigit (b.toNat % 16) low) (ht : Escaped bs cs) :
    Escaped (b :: bs) ('\\' :: 'x' :: high :: low :: cs)

/-- What one escape is read as. -/
def rawByte (b : UInt8) : Literal := ⟨Char.ofNat b.toNat, true⟩

def escapes (bs : Bytes) : List Expr := bs.map fun b => .literal (rawByte b)

theorem escapes_cons (b : UInt8) (bs : Bytes) :
    escapes (b :: bs) = .literal (rawByte b) :: escapes bs := rfl

theorem readHex_byte {b : UInt8} {high low : Char} (hh : HexDigit (b.toNat / 16) high)
    (hl : HexDigit (b.toNat % 16) low) (cs : List Char) :
    readHex false 'x' (high :: low :: cs) = some (rawByte b, cs) := by
  rw [← hexValue?_eq_some_iff] at hh hl
  have hbrace : high ≠ '{' := by
    rintro rfl
    cases hh
  have hv := Bytes.isValidChar_toNat b
  have hn : ofHex [b.toNat / 16, b.toNat % 16] = b.toNat := by
    simp only [ofHex, List.foldl]
    omega
  simp [readHex, skip, hbrace, hexDigits, hh, hl, hn, scalar?, hv, rawByte]

theorem readNext_byte {b : UInt8} {high low : Char} (hh : HexDigit (b.toNat / 16) high)
    (hl : HexDigit (b.toNat % 16) low) {s : State} (hs : s.verbose = false)
    (cs : List Char) : readNext s '\\' ('x' :: high :: low :: cs) =
      some (s.push (.literal (rawByte b)), cs) := by
  simp [readNext, readEscape, hs, readHex_byte hh hl]

/-- Reading adds one literal for each byte. -/
theorem readAll_escaped {bs : Bytes} {cs : List Char} (h : Escaped bs cs) {n : Nat}
    (hn : bs.length < n) (items : List Expr) :
    readAll n { items } cs = some (.inRow (items.reverse ++ escapes bs)) := by
  induction h generalizing n items with
  | nil =>
    obtain ⟨n, rfl⟩ := Nat.exists_eq_add_of_lt hn
    simp [readAll, skip, State.current, Expr.oneOf, escapes]
  | @cons b bs high low cs hh hl ht ih =>
    obtain ⟨n, rfl⟩ : ∃ m, n = m + 1 := ⟨n - 1, by omega⟩
    have hr := ih (Nat.lt_of_succ_lt_succ hn) (.literal (rawByte b) :: items)
    rw [readAll]
    simp only [skip, Bool.false_eq_true, if_false]
    rw [readNext_byte hh hl rfl]
    simp [State.push, hr, escapes_cons]

theorem Escaped.length_le {bs : Bytes} {cs : List Char} (h : Escaped bs cs) :
    bs.length ≤ cs.length := by
  induction h with
  | nil => exact Nat.le_refl 0
  | cons hh hl ht ih =>
    simp only [List.length_cons]
    omega

theorem exprsDepth_escapes (bs : Bytes) : exprsDepth (escapes bs) = 0 := by
  induction bs with
  | nil => rfl
  | cons b bs ih =>
    simp [escapes_cons, exprsDepth, Expr.depth, ih]

theorem depth_inRow_escapes (bs : Bytes) : (Expr.inRow (escapes bs)).depth ≤ 1 := by
  have hd := exprsDepth_escapes bs
  rcases bs with _ | ⟨b, _ | ⟨c, bs⟩⟩
  · exact Nat.zero_le 1
  · exact Nat.zero_le 1
  · show exprsDepth (escapes (b :: c :: bs)) + 1 ≤ 1
    omega

theorem parse?_escaped {bs : Bytes} {text : String} (h : Escaped bs text.toList) :
    Expr.parse? text = some (.inRow (escapes bs)) := by
  have hn : bs.length < text.length + 1 := by
    have hl := h.length_le
    rw [String.length_toList] at hl
    omega
  have hr := readAll_escaped h hn []
  have hd : (Expr.inRow (escapes bs)).depth ≤ maxDepth :=
    Nat.le_trans (depth_inRow_escapes bs) (by decide)
  rw [List.reverse_nil, List.nil_append] at hr
  simp [Expr.parse?, hr, hd]

/-- Escapes mean bytes also where the byte alone is no character of ASCII. -/
theorem literalPattern_rawByte (b : UInt8) : literalPattern {} (rawByte b) = .literal [b] := by
  have hn : (rawByte b).char.toNat = b.toNat := Bytes.toNat_charOfNat (Bytes.isValidChar_toNat b)
  have hr : (rawByte b).raw = true := rfl
  by_cases hb : 128 ≤ b.toNat
  · simp [literalPattern, hn, hr, hb]
  · have hv : (rawByte b).char.val.toNat = b.toNat := hn
    have hle : b.toNat ≤ 127 := by omega
    have he : Utf8.encodeChar (rawByte b).char = [b] := by
      simp [Utf8.encodeChar, String.utf8EncodeChar, hv, hle]
    simp [literalPattern, hn, hb, he]

theorem resolveAll_escapes (bs : Bytes) :
    resolveAll {} (escapes bs) = some (bs.map fun b => .literal [b], {}) := by
  induction bs with
  | nil => rfl
  | cons b bs ih =>
    simp [escapes_cons, resolveAll, Expr.resolve, literalPattern_rawByte, ih]

theorem foldr_joinLiterals (b : UInt8) (bs : Bytes) :
    ((b :: bs).map fun b => Pattern.literal [b]).foldr Pattern.joinLiterals [] =
      [.literal (b :: bs)] := by
  induction bs generalizing b with
  | nil => rfl
  | cons c bs ih =>
    rw [List.map_cons, List.foldr_cons, ih c]
    rfl

theorem inRow_literals {bs : Bytes} (hn : bs ≠ []) :
    Pattern.inRow (bs.map fun b => .literal [b]) = .literal bs := by
  have hp : (bs.map fun b => Pattern.literal [b]).flatMap Pattern.parts =
      bs.map fun b => .literal [b] := by
    rw [List.flatMap_map]
    exact List.map_eq_flatMap.symm
  cases bs with
  | nil => exact absurd rfl hn
  | cons b bs => rw [Pattern.inRow, hp, foldr_joinLiterals]

theorem resolve_escapes {bs : Bytes} (hn : bs ≠ []) :
    (Expr.inRow (escapes bs)).resolve {} = some (.literal bs, {}) := by
  have hr := resolveAll_escapes bs
  have hi := inRow_literals hn
  rcases bs with _ | ⟨b, _ | ⟨c, bs⟩⟩
  · exact absurd rfl hn
  · simp [escapes, Expr.inRow, Expr.resolve, literalPattern_rawByte]
  · show (Expr.cat (escapes (b :: c :: bs))).resolve {} = _
    rw [← hi, Expr.resolve, hr]
    rfl

/-- Escaped bytes are one literal, which must not be too long. -/
theorem compile?_escaped {bs : Bytes} (hn : bs ≠ []) {text : String}
    (h : Escaped bs text.toList) : compile? text =
      if Footprint.fits (.literal bs) then some (.literal bs) else none := by
  simp [compile?, parse?_escaped h, Expr.toPattern?, resolve_escapes hn]

theorem ByteSet.has_single (b c : UInt8) : (single b).has c = true ↔ b = c := by
  have hc : c.toNat < 256 := c.toNat_lt
  rw [has, single, BitVec.getLsbD_shiftLeft, BitVec.getLsbD_one, ← UInt8.toNat_inj]
  simp [hc]
  omega

/-- What is left to match of some bytes. -/
def goalOf (bs : Bytes) : Goal := if bs = [] then [] else [.ofBytes bs]

theorem settle_nil (c : Cursor) (places : Nat) :
    settle c (settleBound places 1) [goalOf []] [] = ⟨[], true⟩ := by
  rw [settleBound]
  simp [settle, goalOf]

theorem settle_cons (c : Cursor) (places : Nat) (b : UInt8) (bs : Bytes) :
    settle c (settleBound places 1) [goalOf (b :: bs)] [] =
      ⟨[.set (.single b) :: goalOf bs], false⟩ := by
  rw [settleBound]
  cases bs with
  | nil => simp [settle, goalOf, Node.ofBytes, Node.inRow]
  | cons d bs => simp [settle, goalOf, Node.ofBytes, Node.inRow, unfoldGoal]

theorem advance_single (b c : UInt8) (rest : Bytes) (k : Goal) :
    advance c rest (.set (.single b) :: k) = if b = c then some k else none := by
  simp only [advance, ByteSet.has_single]

theorem run_goalOf (places taken : Nat) (before after bs : Bytes) :
    run places before after [goalOf bs] taken none =
      if bs.isPrefixOf after then some (taken + bs.length) else none := by
  induction bs generalizing before after taken with
  | nil => cases after <;> simp [run, settle_nil]
  | cons b bs ih =>
    cases after with
    | nil => simp [run, settle_cons]
    | cons c after =>
      rw [run, List.length_singleton, settle_cons]
      by_cases hbc : b = c
      · simpa [advance_single, hbc, Nat.add_assoc, Nat.add_comm 1] using
          ih (taken + 1) (c :: before) after
      · simp [advance_single, hbc]

/-- A literal matches where its bytes stand, and all of it. -/
theorem matchAt_literal {bs : Bytes} (hn : bs ≠ []) (c : Cursor) :
    (Pattern.literal bs).toNode.matchAt c =
      if bs.isPrefixOf c.after then some bs.length else none := by
  have hg : [(Pattern.literal bs).toNode] = goalOf bs := by
    rw [goalOf, if_neg hn, Pattern.toNode]
  rw [Node.matchAt, hg, run_goalOf, Nat.zero_add]

end Triage.Regex

namespace Triage.Bytes

/-- From the left, each offset that is not below `k`, which is `width` past the last one taken. -/
def apartFrom (width k : Nat) : List Nat → List Nat
  | [] => []
  | o :: os => if k ≤ o then o :: apartFrom width (o + width) os else apartFrom width k os

theorem apartFrom_sublist (width k : Nat) (os : List Nat) : (apartFrom width k os).Sublist os := by
  induction os generalizing k with
  | nil => exact List.Sublist.refl _
  | cons o os ih =>
    rw [apartFrom]
    split
    · exact (ih _).cons_cons o
    · exact (ih k).cons o

/-- Of two bounds that all offsets meet, it does not matter which is taken. -/
theorem apartFrom_congr {width k m : Nat} {os : List Nat} (hk : ∀ o ∈ os, k ≤ o)
    (hm : ∀ o ∈ os, m ≤ o) : apartFrom width k os = apartFrom width m os := by
  cases os with
  | nil => rfl
  | cons o os =>
    rw [apartFrom, apartFrom, if_pos (hk o List.mem_cons_self), if_pos (hm o List.mem_cons_self)]

end Triage.Bytes

namespace Triage.Regex

section
variable {needle : Bytes} {matchAt : Cursor → Option Nat}

/-- No match of a literal is empty, so none is left out for that. -/
theorem filter_literal (hn : needle ≠ [])
    (hm : ∀ c, matchAt c = if needle.isPrefixOf c.after then some needle.length else none)
    (c : Cursor) (last : Option Nat) (pos : Nat) :
    ((matchAt c).filter fun len => len ≠ 0 || last ≠ some pos) =
      if needle.isPrefixOf c.after then some needle.length else none := by
  rw [hm]
  cases needle.isPrefixOf c.after <;> simp [hn]

theorem spansFrom_literal (hn : needle ≠ [])
    (hm : ∀ c, matchAt c = if needle.isPrefixOf c.after then some needle.length else none)
    (before after : Bytes) (pos skip : Nat) (last : Option Nat) :
    spansFrom matchAt before after pos skip last =
      (Bytes.apartFrom needle.length (pos + skip) (Bytes.hitsFrom needle pos after)).map
        fun o => ⟨o, o + needle.length⟩ := by
  have hlen : 0 < needle.length := List.length_pos_iff.mpr hn
  fun_induction spansFrom matchAt before after pos skip last with
  | case1 before pos last hit h => rfl
  | case2 before pos last len hit h =>
    have hp := (filter_literal hn hm ⟨before, []⟩ last pos).symm.trans h
    simp [hn] at hp
  | case3 before pos last b rest hit h ih =>
    have hp := (filter_literal hn hm ⟨before, b :: rest⟩ last pos).symm.trans h
    have hnp : ¬ needle.isPrefixOf (b :: rest) = true := by simpa using hp
    -- no hit lies before the next place, so they can be taken from there or from here
    have hle : ∀ o ∈ Bytes.hitsFrom needle (pos + 1) rest, pos + 1 ≤ o :=
      fun o => Bytes.le_of_mem_hitsFrom
    rw [ih, Bytes.hitsFrom, if_neg hnp]
    exact congrArg _ (Bytes.apartFrom_congr hle fun o ho => Nat.le_of_succ_le (hle o ho))
  | case4 before pos last len b rest hit h ih =>
    have hp := (filter_literal hn hm ⟨before, b :: rest⟩ last pos).symm.trans h
    obtain ⟨hpre, rfl⟩ : needle.isPrefixOf (b :: rest) = true ∧ needle.length = len := by
      simpa using hp
    have he : pos + 1 + (needle.length - 1) = pos + needle.length := by omega
    have hle : pos + 0 ≤ pos := Nat.le_refl pos
    rw [ih, Bytes.hitsFrom, if_pos hpre, he, Bytes.apartFrom, if_pos hle, List.map_cons]
  | case5 before pos last n => rfl
  | case6 before b rest pos skip last ih =>
    have he : pos + 1 + skip = pos + skip.succ := by omega
    have hlt : ¬ pos + skip.succ ≤ pos := by omega
    rw [ih, Bytes.hitsFrom, he]
    split
    · rw [Bytes.apartFrom, if_neg hlt]
    · rfl

end
end Triage.Regex

namespace Triage.RegexMatch
open Regex

theorem ofSpan_occursAt {needle data : Bytes} {o : Nat} (h : Bytes.OccursAt needle data o) :
    ofSpan data ⟨o, o + needle.length⟩ = ⟨o, Bytes.latin1 needle, (o, o + needle.length)⟩ := by
  have hl : o + needle.length - o = needle.length := Nat.add_sub_cancel_left ..
  rw [ofSpan, hl, h.2]

/-- The matches of bytes that are written as escapes are hits of the plain search for these bytes: the
first one, and then always the first that does not overlap the last one taken. -/
theorem findAll_escaped (needle data : Bytes) (text : String) (hn : needle ≠ [])
    (ht : Escaped needle text.toList) (hc : (compile? text).isSome) :
    findAll text data =
      .ok ((Bytes.apartFrom needle.length 0 (Bytes.offsets needle data)).map fun o =>
        ⟨o, Bytes.latin1 needle, (o, o + needle.length)⟩) := by
  have hp : compile? text = some (.literal needle) := by
    rw [compile?_escaped hn ht] at hc ⊢
    split at hc
    · rw [if_pos ‹_›]
    · cases hc
  have ho : Bytes.offsets needle data = Bytes.hitsFrom needle 0 data :=
    Bytes.offsets_eq_hitsFrom hn
  have hs := spansFrom_literal hn (matchAt_literal hn) [] data 0 0 none
  rw [findAll_of_compile? hp, spans, hs, List.map_map, Nat.add_zero, ← ho]
  congr 1
  apply List.map_congr_left
  intro o hm
  exact ofSpan_occursAt (Bytes.mem_offsets.mp ((Bytes.apartFrom_sublist ..).mem hm)).2

/-- Bytes beyond ASCII around a line feed, digits of both cases, and a needle that overlaps itself. -/
theorem findAll_escaped_overlapping :
    let needle : Bytes := [0xE9, 0x0A, 0xE9]
    let data : Bytes := [0xE9, 0x0A, 0xE9, 0x0A, 0xE9, 0x0A, 0xE9]
    Bytes.offsets needle data = [0, 2, 4] ∧
    findAll "\\xe9\\x0A\\xE9" data =
      .ok [⟨0, Bytes.latin1 needle, (0, 3)⟩, ⟨4, Bytes.latin1 needle, (4, 7)⟩] := by
  intro needle data
  have ht : Escaped needle "\\xe9\\x0A\\xE9".toList :=
    .cons (by decide) (by decide) (.cons (by decide) (by decide)
      (.cons (by decide) (by decide) .nil))
  have hc : (compile? "\\xe9\\x0A\\xE9").isSome = true := by decide +kernel
  have ho : Bytes.offsets needle data = [0, 2, 4] := by decide +kernel
  have hm := findAll_escaped needle data _ (by decide) ht hc
  rw [ho] at hm
  exact ⟨ho, hm⟩

end Triage.RegexMatch
