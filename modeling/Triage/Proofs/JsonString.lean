import Triage.Json.Printer
import Triage.Json.Reader
import Triage.Proofs.Numeral

/-! Strings in a document. Their texts are given by themselves: escapes by a table and by the place value
of four digits, characters beyond sixteen bits by the formula for surrogate pairs. The reader takes
each of these texts for what it stands for, and no other, and what is written for a string is one of
them. -/
namespace Triage.Json
open Triage.Numeral (HexDigit hexValue?_eq_some_iff)

/-! ### The texts of a string -/

/-- Escapes of one letter, and what they stand for. -/
def shortEscapes : List (Char × Char) :=
  [('"', '"'), ('\\', '\\'), ('/', '/'), ('b', '\x08'), ('f', '\x0c'), ('n', '\n'), ('r', '\r'),
   ('t', '\t')]

/-- Texts behind an opening quote, by the pieces of the string. -/
inductive PiecesText : List Piece → List Char → Prop where
  | close : PiecesText [] ['"']
  | plain {c : Char} {ps : List Piece} {cs : List Char} (hq : c ≠ '"') (hb : c ≠ '\\')
    (hc : ¬ c < ' ') (h : PiecesText ps cs) : PiecesText (.char c :: ps) (c :: cs)
  | short {c d : Char} {ps : List Piece} {cs : List Char} (hd : (d, c) ∈ shortEscapes)
    (h : PiecesText ps cs) : PiecesText (.char c :: ps) ('\\' :: d :: cs)
  | unit {a b c d : Char} {i j k l : Nat} {ps : List Piece} {cs : List Char}
    (ha : HexDigit i a) (hb : HexDigit j b) (hc : HexDigit k c) (hd : HexDigit l d)
    (h : PiecesText ps cs) :
    PiecesText (.unit (i * 0x1000 + j * 0x100 + k * 0x10 + l) :: ps)
      ('\\' :: 'u' :: a :: b :: c :: d :: cs)

/-- The characters that pieces stand for. A unit is the number of its character, unless it belongs to a
pair of surrogates, which stand for one character together. -/
inductive Joined : List Piece → List Char → Prop where
  | nil : Joined [] []
  | char {c : Char} {ps : List Piece} {cs : List Char} (h : Joined ps cs) :
    Joined (.char c :: ps) (c :: cs)
  | unit {u : Nat} {c : Char} {ps : List Piece} {cs : List Char} (hc : c.toNat = u)
    (h : Joined ps cs) : Joined (.unit u :: ps) (c :: cs)
  | pair {u l : Nat} {c : Char} {ps : List Piece} {cs : List Char} (hu : 0xD800 ≤ u ∧ u ≤ 0xDBFF)
    (hl : 0xDC00 ≤ l ∧ l ≤ 0xDFFF) (hc : c.toNat = 0x10000 + (u - 0xD800) * 0x400 + (l - 0xDC00))
    (h : Joined ps cs) : Joined (.unit u :: .unit l :: ps) (c :: cs)

/-- The texts of a string, from behind its opening quote to its closing one. A surrogate outside of a
pair leaves the string without characters. -/
inductive Quoted : Option String → List Char → Prop where
  | proper {s : String} {ps : List Piece} {cs : List Char} (hp : PiecesText ps cs)
    (hj : Joined ps s.toList) : Quoted (some s) cs
  | broken {ps : List Piece} {cs : List Char} (hp : PiecesText ps cs) (hn : ∀ s, ¬ Joined ps s) :
    Quoted none cs

/-! ### Reading them -/

theorem shortEscape?_eq_some_iff {c d : Char} :
    shortEscape? d = some c ↔ (d, c) ∈ shortEscapes := by
  constructor
  · intro h
    unfold shortEscape? at h
    split at h <;> cases h <;> decide
  · intro h
    have ht : ∀ p ∈ shortEscapes, shortEscape? p.1 = some p.2 := by decide
    exact ht _ h

theorem readPieces_plain {c : Char} (hq : c ≠ '"') (hb : c ≠ '\\') (hc : ¬ c < ' ')
    (cs : List Char) :
    readPieces (c :: cs) = (readPieces cs).map fun r => (.char c :: r.1, r.2) := by
  have hn : ¬ (c < ' ' ∨ c = '\\') := by simp [hc, hb]
  rw [readPieces, if_neg hn]
  · cases readPieces cs <;> rfl
  · exact hq
  · exact fun _ _ _ _ _ h => absurd h hb
  · exact fun _ _ h => absurd h hb

theorem readPieces_short {c d : Char} (hd : shortEscape? d = some c) (cs : List Char) :
    readPieces ('\\' :: d :: cs) = (readPieces cs).map fun r => (.char c :: r.1, r.2) := by
  have hu : d ≠ 'u' := by
    rintro rfl
    cases hd
  simp only [readPieces, hu, hd, false_implies, implies_true, Option.bind_eq_bind,
    Option.bind_some]
  cases readPieces cs <;> rfl

/-- A unit of four digits has sixteen bits. -/
theorem PiecesText.unit_lt {ps : List Piece} {cs : List Char} (h : PiecesText ps cs) :
    ∀ u, .unit u ∈ ps → u < 0x10000 := by
  induction h with
  | close => simp
  | plain hq hb hc h ih => simpa using ih
  | short hd h ih => simpa using ih
  | unit ha hb hc hd h ih =>
    intro u hu
    rcases List.mem_cons.mp hu with hu | hu
    · cases hu
      have := ha.lt
      have := hb.lt
      have := hc.lt
      have := hd.lt
      omega
    · exact ih u hu

/-- The reader takes the four digits by twos. -/
theorem unit_eq (i j k l : Nat) :
    (i * 16 + j) * 256 + (k * 16 + l) = i * 0x1000 + j * 0x100 + k * 0x10 + l := by
  omega

theorem readPieces_piecesText {ps : List Piece} {ts : List Char} (h : PiecesText ps ts)
    (rest : List Char) : readPieces (ts ++ rest) = some (ps, rest) := by
  induction h with
  | close => rfl
  | plain hq hb hc h ih =>
    rw [List.cons_append, readPieces_plain hq hb hc, ih]
    rfl
  | short hd h ih =>
    rw [List.cons_append, List.cons_append, readPieces_short (shortEscape?_eq_some_iff.mpr hd), ih]
    rfl
  | unit ha hb hc hd h ih =>
    rw [← hexValue?_eq_some_iff] at ha hb hc hd
    simp [readPieces, ha, hb, hc, hd, ih, unit_eq]

theorem piecesText_readPieces {cs rest : List Char} {ps : List Piece}
    (h : readPieces cs = some (ps, rest)) : ∃ ts, PiecesText ps ts ∧ cs = ts ++ rest := by
  fun_induction readPieces cs generalizing ps with
  | case1 => cases h
  | case2 cs =>
    cases h
    exact ⟨_, .close, rfl⟩
  | case3 a b c d cs ih =>
    simp only [Option.bind_eq_bind, Option.bind_eq_some_iff, Option.pure_def,
      Option.some.injEq, Prod.mk.injEq] at h
    obtain ⟨i, ha, j, hb, k, hc, l, hd, ⟨qs, r⟩, hr, rfl, rfl⟩ := h
    rw [hexValue?_eq_some_iff] at ha hb hc hd
    obtain ⟨ts, ht, rfl⟩ := ih hr
    rw [unit_eq]
    exact ⟨_, .unit ha hb hc hd ht, rfl⟩
  | case4 c cs hu ih =>
    simp only [Option.bind_eq_bind, Option.bind_eq_some_iff, Option.pure_def,
      Option.some.injEq, Prod.mk.injEq] at h
    obtain ⟨e, he, ⟨qs, r⟩, hr, rfl, rfl⟩ := h
    obtain ⟨ts, ht, rfl⟩ := ih hr
    exact ⟨_, .short (shortEscape?_eq_some_iff.mp he) ht, rfl⟩
  | case5 => cases h
  | case6 c cs hq hu hs hc ih =>
    simp only [Option.bind_eq_bind, Option.bind_eq_some_iff, Option.pure_def,
      Option.some.injEq, Prod.mk.injEq] at h
    obtain ⟨⟨qs, r⟩, hr, rfl, rfl⟩ := h
    obtain ⟨ts, ht, rfl⟩ := ih hr
    exact ⟨_, .plain hq (fun hb => hc (Or.inr hb)) (fun hl => hc (Or.inl hl)) ht, rfl⟩

/-- No character has the number of a surrogate. -/
theorem toNat_cases (c : Char) : c.toNat < 0xD800 ∨ 0xDFFF < c.toNat ∧ c.toNat < 0x110000 :=
  c.valid

theorem joinPieces_joined {ps : List Piece} {cs : List Char} (h : Joined ps cs) :
    joinPieces ps = some cs := by
  induction h with
  | nil => rfl
  | char h ih => simp [joinPieces, ih]
  | @unit u c ps cs hc h ih =>
    subst hc
    have hu : c.toNat < 0xD800 ∨ 0xDFFF < c.toNat := (toNat_cases c).imp_right And.left
    rw [joinPieces.eq_def]
    simp only [hu, if_true, ih, Char.ofNat_toNat, Option.map_some]
  | @pair u l c ps cs hu hl hc h ih =>
    have hs : ¬ (u < 0xD800 ∨ 0xDFFF < u) := by omega
    have hh : ¬ 0xDC00 ≤ u := by omega
    simp [joinPieces, hs, hh, hl, ih, ← hc]

theorem joined_joinPieces {ps : List Piece} (hb : ∀ u, .unit u ∈ ps → u < 0x10000) {cs : List Char}
    (h : joinPieces ps = some cs) : Joined ps cs := by
  fun_induction joinPieces ps generalizing cs with
  | case1 =>
    cases h
    exact .nil
  | case2 c ps ih =>
    obtain ⟨cs, hcs, rfl⟩ := Option.map_eq_some_iff.mp h
    exact .char (ih (fun u hu => hb u (List.mem_cons_of_mem _ hu)) hcs)
  | case3 u ps hu ih =>
    obtain ⟨cs, hcs, rfl⟩ := Option.map_eq_some_iff.mp h
    have hlt := hb u List.mem_cons_self
    have hv : u.isValidChar := by
      rcases hu with hu | hu
      · exact Or.inl hu
      · exact Or.inr ⟨hu, by omega⟩
    exact .unit (Bytes.toNat_charOfNat hv) (ih (fun u hu => hb u (List.mem_cons_of_mem _ hu)) hcs)
  | case4 => cases h
  | case5 u hs hh l ps hl ih =>
    obtain ⟨cs, hcs, rfl⟩ := Option.map_eq_some_iff.mp h
    have hv : (0x10000 + (u - 0xD800) * 0x400 + (l - 0xDC00)).isValidChar := by
      right
      omega
    refine .pair (by omega) hl (Bytes.toNat_charOfNat hv) (ih ?_ hcs)
    exact fun u hu => hb u (List.mem_cons_of_mem _ (List.mem_cons_of_mem _ hu))
  | case6 => cases h
  | case7 => cases h

theorem readString_quoted {s : Option String} {ts : List Char} (h : Quoted s ts)
    (rest : List Char) : readString (ts ++ rest) = some (s, rest) := by
  cases h with
  | proper hp hj => simp [readString, readPieces_piecesText hp, joinPieces_joined hj]
  | @broken ps ts hp hn =>
    have hj : joinPieces ps = none := by
      rw [Option.eq_none_iff_forall_ne_some]
      exact fun l hl => hn l (joined_joinPieces hp.unit_lt hl)
    simp [readString, readPieces_piecesText hp, hj]

theorem quoted_readString {s : Option String} {cs rest : List Char}
    (h : readString cs = some (s, rest)) : ∃ ts, Quoted s ts ∧ cs = ts ++ rest := by
  simp only [readString, Option.bind_eq_bind, Option.bind_eq_some_iff, Option.pure_def,
    Option.some.injEq, Prod.mk.injEq] at h
  obtain ⟨⟨ps, r⟩, hr, rfl, rfl⟩ := h
  obtain ⟨ts, hp, rfl⟩ := piecesText_readPieces hr
  refine ⟨ts, ?_, rfl⟩
  cases hj : joinPieces ps with
  | none =>
    refine .broken hp fun l hl => ?_
    rw [joinPieces_joined hl] at hj
    cases hj
  | some l =>
    refine .proper hp ?_
    rw [String.toList_ofList]
    exact joined_joinPieces hp.unit_lt hj

theorem readString_eq_some_iff {s : Option String} {cs : List Char} :
    readString cs = some (s, []) ↔ Quoted s cs := by
  constructor
  · intro h
    obtain ⟨ts, ht, rfl⟩ := quoted_readString h
    rwa [List.append_nil]
  · intro h
    simpa using readString_quoted h []

/-! ### Writing one of them -/

theorem hexDigit_hexDigit {n : Nat} (hn : n < 16) : HexDigit n (Bytes.hexDigit n) :=
  hexValue?_eq_some_iff.mp (Bytes.hexValue?_hexDigit n hn)

theorem charText_cases (c : Char) :
    (∃ d, (d, c) ∈ shortEscapes ∧ charText c = ['\\', d]) ∨
    (c < ' ' ∧ charText c =
      ['\\', 'u', '0', '0', Bytes.hexDigit (c.toNat / 16), Bytes.hexDigit (c.toNat % 16)]) ∨
    (c ≠ '"' ∧ c ≠ '\\' ∧ ¬ c < ' ' ∧ charText c = [c]) := by
  by_cases hs : ∃ d, (d, c) ∈ shortEscapes ∧ charText c = ['\\', d]
  · exact Or.inl hs
  · right
    have hne : ∀ a d, (d, a) ∈ shortEscapes → charText a = ['\\', d] → c ≠ a := by
      rintro a d hd ht rfl
      exact hs ⟨d, hd, ht⟩
    have hq := hne '"' '"' (by decide) rfl
    have hb := hne '\\' '\\' (by decide) rfl
    simp only [charText, hq, hb, hne '\x08' 'b' (by decide) rfl, hne '\x0c' 'f' (by decide) rfl,
      hne '\n' 'n' (by decide) rfl, hne '\r' 'r' (by decide) rfl, hne '\t' 't' (by decide) rfl,
      if_false]
    by_cases hc : c < ' '
    · exact Or.inl ⟨hc, if_pos hc⟩
    · exact Or.inr ⟨hq, hb, hc, if_neg hc⟩

/-- What is written for a character is one piece, and it stands for that character. -/
theorem exists_piece (c : Char) {ps : List Piece} {ts cs : List Char} (hp : PiecesText ps ts)
    (hj : Joined ps cs) : ∃ p, PiecesText (p :: ps) (charText c ++ ts) ∧ Joined (p :: ps) (c :: cs) := by
  obtain ⟨d, hd, ht⟩ | ⟨hc, ht⟩ | ⟨hq, hb, hc, ht⟩ := charText_cases c
  · exact ⟨.char c, ht ▸ .short hd hp, .char hj⟩
  · have hn : c.toNat < 32 := hc
    have hhigh := hexDigit_hexDigit (n := c.toNat / 16) (by omega)
    have hlow := hexDigit_hexDigit (n := c.toNat % 16) (by omega)
    have h0 : HexDigit 0 '0' := by decide
    have hu := PiecesText.unit h0 h0 hhigh hlow hp
    rw [ht]
    exact ⟨_, hu, .unit (by omega) hj⟩
  · exact ⟨.char c, ht ▸ .plain hq hb hc hp, .char hj⟩

theorem exists_pieces (cs : List Char) :
    ∃ ps, PiecesText ps (cs.flatMap charText ++ ['"']) ∧ Joined ps cs := by
  induction cs with
  | nil => exact ⟨[], .close, .nil⟩
  | cons c cs ih =>
    obtain ⟨ps, hp, hj⟩ := ih
    obtain ⟨p, hp, hj⟩ := exists_piece c hp hj
    refine ⟨p :: ps, ?_, hj⟩
    rwa [List.flatMap_cons, List.append_assoc]

theorem quoted_written (s : String) : Quoted (some s) (s.toList.flatMap charText ++ ['"']) := by
  obtain ⟨ps, hp, hj⟩ := exists_pieces s.toList
  exact .proper hp hj

end Triage.Json
