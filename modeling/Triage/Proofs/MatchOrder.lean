import Triage.Regex.Search

/-! The matches of a regular expression, from left to right. Whatever the expression is, they lie within
the data and apart from each other, and the search for them moves on past empty ones, up to the end of
the data. -/
namespace Triage.Regex

/-- A matcher that takes no more bytes than there are. -/
def Bounded (matchAt : Cursor → Option Nat) : Prop :=
  ∀ c len, matchAt c = some len → len ≤ c.after.length

/-- What a search falls back on was matched before the bytes that are left. -/
theorem run_le {places taken len : Nat} {before after : Bytes} {goals : List Goal}
    {best : Option Nat} (hb : ∀ n, best = some n → n ≤ taken)
    (h : run places before after goals taken best = some len) : len ≤ taken + after.length := by
  have hbest : ∀ (taken : Nat) (best : Option Nat) (matched : Bool),
      (∀ n, best = some n → n ≤ taken) →
      ∀ n, (if matched = true then some taken else best) = some n → n ≤ taken := by
    intro taken best matched hb n hn
    cases matched with
    | true => exact Nat.le_of_eq (Option.some.inj hn).symm
    | false => exact hb n hn
  induction after generalizing before goals taken best with
  | nil =>
    rw [run] at h
    exact hbest _ _ _ hb len h
  | cons b rest ih =>
    rw [run] at h
    split at h
    · exact Nat.le_add_right_of_le (hbest _ _ _ hb len h)
    · have hle := ih (fun n hn => Nat.le_succ_of_le (hbest _ _ _ hb n hn)) h
      rw [List.length_cons]
      omega

theorem bounded_matchAt (n : Node) : Bounded n.matchAt := by
  intro c len h
  have hle := run_le (by simp) h
  omega

/-- The place behind the first `i` bytes. -/
def Cursor.ofOffset (data : Bytes) (i : Nat) : Cursor := ⟨(data.take i).reverse, data.drop i⟩

section
variable {before after : Bytes} {pos : Nat}

theorem Cursor.ofOffset_append (hpos : before.length = pos) :
    ofOffset (before.reverse ++ after) pos = ⟨before, after⟩ := by
  subst hpos
  simp [ofOffset]

theorem Bounded.stop_le {matchAt : Cursor → Option Nat} (hb : Bounded matchAt)
    (hpos : before.length = pos) {len : Nat} (hm : matchAt ⟨before, after⟩ = some len) :
    pos + len ≤ (before.reverse ++ after).length := by
  have hl : len ≤ after.length := hb _ len hm
  rw [List.length_append, List.length_reverse]
  omega

end

/-- Spans of matches, none before `start`, taken wherever there is one that is not within the one
before it. An empty one is left out right behind another, or if an earlier one stopped there at `last`. -/
structure Sweep (matchAt : Cursor → Option Nat) (data : Bytes) (start : Nat) (last : Option Nat)
    (ss : List Span) : Prop where
  bounds : ∀ s ∈ ss, start ≤ s.start ∧ s.start ≤ s.stop ∧ s.stop ≤ data.length
  matched : ∀ s ∈ ss, matchAt (.ofOffset data s.start) = some (s.stop - s.start)
  fresh : ∀ s ∈ ss, s.start = s.stop → last ≠ some s.start
  apart : ss.Pairwise fun s t => s.start < t.start ∧ s.stop ≤ t.start ∧
    (t.start = t.stop → s.stop ≠ t.start)
  complete : ∀ i len, start ≤ i → i ≤ data.length → matchAt (.ofOffset data i) = some len →
    ⟨i, i + len⟩ ∈ ss ∨ (∃ s ∈ ss, s.start < i ∧ i < s.stop) ∨
      (len = 0 ∧ (last = some i ∨ ∃ s ∈ ss, s.stop = i))

namespace Sweep
variable {matchAt : Cursor → Option Nat} {data : Bytes} {start : Nat} {last : Option Nat}
  {ss : List Span}

theorem nil (h : data.length < start) : Sweep matchAt data start last [] where
  bounds := by simp
  matched := by simp
  fresh := by simp
  apart := List.Pairwise.nil
  complete i len hs hi _ := by omega

/-- Nothing is taken at a place without a match, or with an empty one right behind another match. -/
theorem pass (h : Sweep matchAt data (start + 1) last ss)
    (hn : ∀ len, matchAt (.ofOffset data start) = some len → len = 0 ∧ last = some start) :
    Sweep matchAt data start last ss where
  bounds s hs := by
    have hb := h.bounds s hs
    omega
  matched := h.matched
  fresh := h.fresh
  apart := h.apart
  complete i len hs hi hm := by
    rcases Nat.eq_or_lt_of_le hs with rfl | hlt
    · have hz := hn len hm
      exact Or.inr (Or.inr ⟨hz.1, Or.inl hz.2⟩)
    · exact h.complete i len hlt hi hm

/-- A match is taken, and the next one is looked for behind it and behind its first place. -/
theorem take {len : Nat} (h : Sweep matchAt data (start + 1 + (len - 1)) (some (start + len)) ss)
    (hm : matchAt (.ofOffset data start) = some len) (hl : start + len ≤ data.length)
    (hf : len = 0 → last ≠ some start) (hp : ∀ e, last = some e → e ≤ start) :
    Sweep matchAt data start last (⟨start, start + len⟩ :: ss) where
  bounds := by
    rw [List.forall_mem_cons]
    refine ⟨⟨Nat.le_refl _, Nat.le_add_right _ _, hl⟩, ?_⟩
    intro s hs
    have hb := h.bounds s hs
    omega
  matched := by
    rw [List.forall_mem_cons]
    exact ⟨by simpa using hm, h.matched⟩
  fresh := by
    rw [List.forall_mem_cons]
    refine ⟨fun he => hf (by simpa using he), ?_⟩
    intro s hs _ he
    have hb := h.bounds s hs
    have hle := hp s.start he
    omega
  apart := by
    rw [List.pairwise_cons]
    refine ⟨?_, h.apart⟩
    intro s hs
    have hb := h.bounds s hs
    dsimp only
    exact ⟨by omega, by omega, fun he heq => h.fresh s hs he (congrArg some heq)⟩
  complete i k hs hi hk := by
    have hmem : (⟨start, start + len⟩ : Span) ∈ (⟨start, start + len⟩ : Span) :: ss :=
      List.mem_cons_self
    rcases Nat.eq_or_lt_of_le hs with rfl | hlt
    · rw [hm, Option.some.injEq] at hk
      exact Or.inl (hk ▸ hmem)
    · by_cases hin : i < start + len
      · exact Or.inr (Or.inl ⟨_, hmem, hlt, hin⟩)
      · rcases h.complete i k (by omega) hi hk with hmem' | ⟨s, hs', hin'⟩ | ⟨hz, hl' | ⟨s, hs', he⟩⟩
        · exact Or.inl (List.mem_cons_of_mem _ hmem')
        · exact Or.inr (Or.inl ⟨s, List.mem_cons_of_mem _ hs', hin'⟩)
        · exact Or.inr (Or.inr ⟨hz, Or.inr ⟨_, hmem, Option.some.inj hl'⟩⟩)
        · exact Or.inr (Or.inr ⟨hz, Or.inr ⟨s, List.mem_cons_of_mem _ hs', he⟩⟩)

end Sweep

section
variable {m last : Option Nat} {pos len : Nat}

/-- What the loop takes for a match. -/
theorem filter_eq_some_iff :
    (m.filter fun len => len ≠ 0 || last ≠ some pos) = some len ↔
      m = some len ∧ (len = 0 → last ≠ some pos) := by
  rw [Option.filter_eq_some_iff]
  simp [Decidable.imp_iff_not_or]

theorem of_filter_eq_none (h : (m.filter fun len => len ≠ 0 || last ≠ some pos) = none)
    (hm : m = some len) : len = 0 ∧ last = some pos := by
  subst hm
  simpa [Option.filter] using h

end

/-- The loop over the bytes of the data. The first `skip` of those that are left belong to the last
match, so the places of the next one begin behind them. -/
theorem sweep_spansFrom {matchAt : Cursor → Option Nat} (hb : Bounded matchAt)
    (before after : Bytes) (pos skip : Nat) (last : Option Nat) (hpos : before.length = pos)
    (hs : skip ≤ after.length) (hp : ∀ e, last = some e → e ≤ pos + skip) :
    Sweep matchAt (before.reverse ++ after) (pos + skip) last
      (spansFrom matchAt before after pos skip last) := by
  fun_induction spansFrom matchAt before after pos skip last with
  | case1 before pos last hit h =>
    have hn : Sweep matchAt (before.reverse ++ []) (pos + 1) last [] := .nil (by simp; omega)
    refine hn.pass ?_
    rw [Cursor.ofOffset_append hpos]
    exact fun len => of_filter_eq_none h
  | case2 before pos last len hit h =>
    obtain ⟨hm, hf⟩ := filter_eq_some_iff.mp h
    have hn : Sweep matchAt (before.reverse ++ []) (pos + 1 + (len - 1)) (some (pos + len)) [] :=
      .nil (by simp; omega)
    exact hn.take (by rw [Cursor.ofOffset_append hpos, hm]) (hb.stop_le hpos hm) hf hp
  | case3 before pos last b rest hit h ih =>
    have hi := ih (by simp [hpos]) (Nat.zero_le _) (fun e he => Nat.le_succ_of_le (hp e he))
    rw [List.reverse_cons, List.append_assoc, List.singleton_append] at hi
    refine hi.pass ?_
    rw [Cursor.ofOffset_append hpos]
    exact fun len => of_filter_eq_none h
  | case4 before pos last len b rest hit h ih =>
    obtain ⟨hm, hf⟩ := filter_eq_some_iff.mp h
    have hl : len ≤ (b :: rest).length := hb _ len hm
    rw [List.length_cons] at hl
    have hi := ih (by simp [hpos]) (by omega) (by simp; omega)
    rw [List.reverse_cons, List.append_assoc, List.singleton_append] at hi
    exact hi.take (by rw [Cursor.ofOffset_append hpos, hm]) (hb.stop_le hpos hm) hf hp
  | case5 before pos last n => simp at hs
  | case6 before b rest pos skip last ih =>
    have he : pos + 1 + skip = pos + skip.succ := by omega
    have hi := ih (by simp [hpos]) (Nat.le_of_succ_le_succ hs) (he ▸ hp)
    rw [List.reverse_cons, List.append_assoc, List.singleton_append, he] at hi
    exact hi

theorem sweep_spans {matchAt : Cursor → Option Nat} (hb : Bounded matchAt) (data : Bytes) :
    Sweep matchAt data 0 none (spans matchAt data) :=
  sweep_spansFrom hb [] data 0 0 none rfl (Nat.zero_le _) nofun

/-- The pattern that a text stands for. -/
def compile? (text : String) : Option Pattern := (Expr.parse? text).bind Expr.toPattern?

end Triage.Regex

namespace Triage

theorem Bytes.isValidChar_toNat (b : UInt8) : b.toNat.isValidChar :=
  Or.inl (Nat.lt_trans b.toNat_lt (by decide))

theorem Bytes.toNat_latin1 (data : Bytes) :
    (latin1 data).toList.map Char.toNat = data.map UInt8.toNat := by
  rw [latin1, String.toList_ofList, List.map_map]
  exact List.map_congr_left fun b _ => toNat_charOfNat (isValidChar_toNat b)

namespace RegexMatch
open Regex

theorem findAll_of_compile? {text : String} {p : Pattern} (h : compile? text = some p)
    (data : Bytes) : findAll text data = .ok ((spans p.toNode.matchAt data).map (ofSpan data)) := by
  rw [compile?] at h
  rw [findAll, h]

/-- The match is a stretch of the data, and its text shows the bytes of it, one character for each. -/
structure Shows (m : RegexMatch) (data : Bytes) : Prop where
  offset : m.offset = m.span.1
  ordered : m.span.1 ≤ m.span.2
  within : m.span.2 ≤ data.length
  length : m.text.length = m.span.2 - m.span.1
  text : ∀ k < m.span.2 - m.span.1,
    m.text.toList[k]?.map Char.toNat = data[m.span.1 + k]?.map UInt8.toNat

theorem shows_ofSpan {data : Bytes} {s : Span} (hle : s.start ≤ s.stop)
    (hl : s.stop ≤ data.length) : (ofSpan data s).Shows data where
  offset := rfl
  ordered := hle
  within := hl
  length := by
    have h := congrArg List.length (Bytes.toNat_latin1 ((data.drop s.start).take (s.stop - s.start)))
    simp only [List.length_map, List.length_take, List.length_drop, String.length_toList] at h
    simp only [ofSpan, h]
    omega
  text k hk := by
    have h := congrArg (·[k]?) (Bytes.toNat_latin1 ((data.drop s.start).take (s.stop - s.start)))
    simp only [List.getElem?_map] at h
    simp only [ofSpan] at hk ⊢
    rw [h, List.getElem?_take_of_lt hk, List.getElem?_drop]

/-- An expression that can be searched for gives its matches from left to right. Each is a stretch of
the data. A later one begins behind the beginning of an earlier one, not before its end, and if empty
not at its end either. Nothing else is left out: wherever there is a match, it is one of these, or it
begins within one of these, or it is empty and stands at the end of one. -/
theorem matches_in_order (text : String) (data : Bytes) (p : Pattern)
    (hp : compile? text = some p) : ∃ ms, findAll text data = .ok ms ∧
      (∀ m ∈ ms, m.Shows data) ∧
      (ms.Pairwise fun m n => m.span.1 < n.span.1 ∧ m.span.2 ≤ n.span.1 ∧
        (n.span.1 = n.span.2 → m.span.2 ≠ n.span.1)) ∧
      (∀ m ∈ ms, p.toNode.matchAt (.ofOffset data m.span.1) = some (m.span.2 - m.span.1)) ∧
      ∀ i len, i ≤ data.length → p.toNode.matchAt (.ofOffset data i) = some len →
        (∃ m ∈ ms, m.span = (i, i + len)) ∨ (∃ m ∈ ms, m.span.1 < i ∧ i < m.span.2) ∨
          (len = 0 ∧ ∃ m ∈ ms, m.span.2 = i) := by
  have h := sweep_spans (bounded_matchAt p.toNode) data
  refine ⟨_, findAll_of_compile? hp data, ?_, ?_, ?_, ?_⟩
  · rw [List.forall_mem_map]
    intro s hs
    have hb := h.bounds s hs
    exact shows_ofSpan hb.2.1 hb.2.2
  · rw [List.pairwise_map]
    exact h.apart
  · rw [List.forall_mem_map]
    exact h.matched
  · intro i len hi hm
    rcases h.complete i len (Nat.zero_le i) hi hm with hs | ⟨s, hs, hin⟩ | ⟨hz, hn | ⟨s, hs, he⟩⟩
    · exact Or.inl ⟨_, List.mem_map_of_mem hs, rfl⟩
    · exact Or.inr (Or.inl ⟨_, List.mem_map_of_mem hs, hin⟩)
    · cases hn
    · exact Or.inr (Or.inr ⟨hz, _, List.mem_map_of_mem hs, he⟩)

/-- An empty match before the bytes, one at their end, and none right behind the long one. -/
theorem matches_in_order_past_empty :
    let data : Bytes := [0x61, 0xE9, 0xE9, 0x0A]
    ∃ p, compile? "\\xe9+|x*?" = some p ∧
      spans p.toNode.matchAt data = [⟨0, 0⟩, ⟨1, 3⟩, ⟨4, 4⟩] ∧
      ∃ ms, findAll "\\xe9+|x*?" data = .ok ms ∧ ∀ m ∈ ms, m.Shows data := by
  intro data
  have h : (compile? "\\xe9+|x*?").map (fun p => spans p.toNode.matchAt data) =
      some [⟨0, 0⟩, ⟨1, 3⟩, ⟨4, 4⟩] := by decide +kernel
  obtain ⟨p, hp, hs⟩ := Option.map_eq_some_iff.mp h
  obtain ⟨ms, hm, hshow, -⟩ := matches_in_order "\\xe9+|x*?" data p hp
  exact ⟨p, hp, hs, ms, hm, hshow⟩

end RegexMatch
end Triage
