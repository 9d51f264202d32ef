import Triage.Proofs.JsonNumber
import Triage.Proofs.JsonString

/-! The texts that hold a document, with blanks wherever they may stand. The reader takes each of them,
and the printer writes one of them, on one line or on many. -/
namespace Triage.Json

/-- Blanks, ends of lines and tabulators only. -/
def Blank (ws : List Char) : Prop := ∀ c ∈ ws, c ∈ [' ', '\n', '\r', '\t']

theorem blank_nil : Blank [] := by simp [Blank]

theorem isBlank_iff {c : Char} : isBlank c = true ↔ c ∈ [' ', '\n', '\r', '\t'] := by
  simp only [isBlank, Bool.or_eq_true, beq_iff_eq, List.mem_cons, List.not_mem_nil, or_false]
  grind

theorem skipBlank_append {ws : List Char} (hw : Blank ws) (cs : List Char) :
    skipBlank (ws ++ cs) = skipBlank cs := by
  induction ws with
  | nil => rfl
  | cons c ws ih =>
    rw [Blank, List.forall_mem_cons, ← isBlank_iff] at hw
    simpa [skipBlank, hw.1] using ih hw.2

theorem skipBlank_cons {c : Char} (hc : isBlank c = false) (cs : List Char) :
    skipBlank (c :: cs) = c :: cs := by
  simp [skipBlank, hc]

theorem skipBlank_skipBlank (cs : List Char) : skipBlank (skipBlank cs) = skipBlank cs := by
  induction cs with
  | nil => rfl
  | cons c cs ih => cases hc : isBlank c <;> simp_all [skipBlank]

theorem isNumeric_of_blank {c : Char} (hc : c ∈ [' ', '\n', '\r', '\t']) :
    Number.isNumeric c = false := by
  simp only [List.mem_cons, List.not_mem_nil, or_false] at hc
  rcases hc with rfl | rfl | rfl | rfl <;> decide

theorem stops_append {ws rest : List Char} (hw : Blank ws) (hr : Number.Stops rest) :
    Number.Stops (ws ++ rest) := by
  cases ws with
  | nil => exact hr
  | cons c ws => exact Number.stops_cons (isNumeric_of_blank (hw c List.mem_cons_self)) _

mutual

/-- A text, from its first sign to its last, that holds a value. -/
inductive Written : Value → List Char → Prop where
  | null : Written .null ['n', 'u', 'l', 'l']
  | bool (b : Bool) : Written (.bool b) (if b then "true" else "false").toList
  | num {n : Number} {cs : List Char} (h : Number.NumberText n cs) : Written (.num n) cs
  | str {s : Option String} {cs : List Char} (h : Quoted s cs) :
    Written (.str s) ('"' :: cs)
  | noElements {ws : List Char} (hw : Blank ws) : Written (.arr []) ('[' :: (ws ++ [']']))
  | arr {vs : List Value} {cs : List Char} (h : WrittenElements vs cs) :
    Written (.arr vs) ('[' :: cs)
  | noMembers {ws : List Char} (hw : Blank ws) : Written (.obj []) ('{' :: (ws ++ ['}']))
  | obj {ms : List (Option String × Value)} {cs : List Char} (h : WrittenMembers ms cs) :
    Written (.obj ms) ('{' :: cs)

/-- One element or more, up to the closing bracket. -/
inductive WrittenElements : List Value → List Char → Prop where
  | last {v : Value} {ws cs ws' : List Char} (hw : Blank ws) (h : Written v cs) (hw' : Blank ws') :
    WrittenElements [v] (ws ++ (cs ++ (ws' ++ [']'])))
  | more {v : Value} {vs : List Value} {ws cs ws' ds : List Char} (hw : Blank ws)
    (h : Written v cs) (hw' : Blank ws') (ht : WrittenElements vs ds) :
    WrittenElements (v :: vs) (ws ++ (cs ++ (ws' ++ ',' :: ds)))

/-- One member or more, up to the closing brace. -/
inductive WrittenMembers : List (Option String × Value) → List Char → Prop where
  | last {m : Option String × Value} {cs : List Char} (h : WrittenMember m cs) :
    WrittenMembers [m] (cs ++ ['}'])
  | more {m : Option String × Value} {ms : List (Option String × Value)} {cs ds : List Char}
    (h : WrittenMember m cs) (ht : WrittenMembers ms ds) :
    WrittenMembers (m :: ms) (cs ++ ',' :: ds)

inductive WrittenMember : Option String × Value → List Char → Prop where
  | mk {k : Option String} {v : Value} {ws ks ws₁ ws₂ cs ws₃ : List Char} (hw : Blank ws)
    (hk : Quoted k ks) (hw₁ : Blank ws₁) (hw₂ : Blank ws₂) (h : Written v cs)
    (hw₃ : Blank ws₃) :
    WrittenMember (k, v) (ws ++ '"' :: (ks ++ (ws₁ ++ ':' :: (ws₂ ++ (cs ++ ws₃)))))

end

theorem readValue_skipBlank (n : Nat) (cs : List Char) :
    readValue n (skipBlank cs) = readValue n cs := by
  cases n with
  | zero => rfl
  | succ n => rw [readValue, readValue, skipBlank_skipBlank]

theorem readElements_skipBlank (n : Nat) (cs : List Char) :
    readElements n (skipBlank cs) = readElements n cs := by
  cases n with
  | zero => rfl
  | succ n => rw [readElements, readElements, readValue_skipBlank]

theorem readMembers_skipBlank (n : Nat) (cs : List Char) :
    readMembers n (skipBlank cs) = readMembers n cs := by
  cases n with
  | zero => rfl
  | succ n => rw [readMembers, readMembers, skipBlank_skipBlank]

theorem isBlank_numberHead {c : Char} (hc : c = '-' ∨ c.isDigit = true) : isBlank c = false := by
  have hne : ∀ a, a ≠ '-' → a.isDigit = false → c ≠ a := by
    rintro a ha hd rfl
    rcases hc with hc | hc
    · exact ha hc
    · rw [hd] at hc
      cases hc
  simp [isBlank, hne ' ' (by decide) (by decide), hne '\n' (by decide) (by decide),
    hne '\t' (by decide) (by decide), hne '\r' (by decide) (by decide)]

/-- A value starts with a sign that is neither a blank nor a closing bracket. -/
theorem Written.head {v : Value} {cs : List Char} (h : Written v cs) :
    ∃ c ds, cs = c :: ds ∧ isBlank c = false ∧ c ≠ ']' := by
  cases h with
  | null => exact ⟨_, _, rfl, by decide, by decide⟩
  | bool b => cases b <;> exact ⟨_, _, rfl, by decide, by decide⟩
  | num h =>
    obtain ⟨c, ds, rfl, hc⟩ := h.head
    refine ⟨c, ds, rfl, isBlank_numberHead hc, ?_⟩
    rintro rfl
    exact absurd hc (by decide)
  | _ => exact ⟨_, _, rfl, by decide, by decide⟩

theorem WrittenElements.head {vs : List Value} {cs : List Char} (h : WrittenElements vs cs)
    (rest : List Char) : ∃ c ds, skipBlank (cs ++ rest) = c :: ds ∧ c ≠ ']' := by
  cases h with
  | last hw h hw' =>
    obtain ⟨c, ds, rfl, hb, hc⟩ := h.head
    rw [List.append_assoc, skipBlank_append hw]
    exact ⟨c, _, skipBlank_cons hb _, hc⟩
  | more hw h hw' ht =>
    obtain ⟨c, ds, rfl, hb, hc⟩ := h.head
    rw [List.append_assoc, skipBlank_append hw]
    exact ⟨c, _, skipBlank_cons hb _, hc⟩

theorem WrittenMember.head {m : Option String × Value} {cs : List Char}
    (h : WrittenMember m cs) (rest : List Char) : ∃ ds, skipBlank (cs ++ rest) = '"' :: ds := by
  cases h with
  | mk hw =>
    rw [List.append_assoc, skipBlank_append hw]
    exact ⟨_, skipBlank_cons (by decide) _⟩

theorem WrittenMembers.head {ms : List (Option String × Value)} {cs : List Char}
    (h : WrittenMembers ms cs) (rest : List Char) : ∃ ds, skipBlank (cs ++ rest) = '"' :: ds := by
  cases h with
  | last h =>
    rw [List.append_assoc]
    exact h.head _
  | more h ht =>
    rw [List.append_assoc]
    exact h.head _

theorem readValue_num {n : Nat} {x : Number} {ws cs rest : List Char} (hw : Blank ws)
    (h : Number.NumberText x cs) (hr : Number.Stops rest) :
    readValue (n+1) (ws ++ (cs ++ rest)) = some (.num x, rest) := by
  have hx := Number.read_numberText h hr
  obtain ⟨c, ds, rfl, hc⟩ := h.head
  rw [List.cons_append] at hx ⊢
  rw [readValue, skipBlank_append hw, skipBlank_cons (isBlank_numberHead hc)]
  generalize ds ++ rest = tail at hx ⊢
  split
  case h_7 => simp [hx]
  all_goals
    rename_i heq
    cases heq
    exact absurd hc (by decide)

section
variable {n : Nat}

/-- The reader takes written elements, members and values with `n` calls. -/
structure ReadsWritten (n : Nat) : Prop where
  value : ∀ {v cs}, Written v cs → cs.length < n → ∀ {ws rest}, Blank ws → Number.Stops rest →
    readValue n (ws ++ (cs ++ rest)) = some (v, rest)
  elements : ∀ {vs cs}, WrittenElements vs cs → cs.length < n → ∀ rest,
    readElements n (cs ++ rest) = some (vs, rest)
  members : ∀ {ms cs}, WrittenMembers ms cs → cs.length < n → ∀ rest,
    readMembers n (cs ++ rest) = some (ms, rest)

theorem ReadsWritten.succ_value (ih : ReadsWritten n) {v : Value} {cs ws rest : List Char}
    (h : Written v cs) (hn : cs.length < n + 1) (hw : Blank ws) (hr : Number.Stops rest) :
    readValue (n+1) (ws ++ (cs ++ rest)) = some (v, rest) := by
  cases h with
  | null =>
    rw [readValue, skipBlank_append hw]
    rfl
  | bool b =>
    rw [readValue, skipBlank_append hw]
    cases b <;> rfl
  | num h => exact readValue_num hw h hr
  | str h =>
    rw [readValue, skipBlank_append hw, List.cons_append, skipBlank_cons (by decide)]
    simp [readString_quoted h]
  | noElements hb =>
    rw [readValue, skipBlank_append hw, List.cons_append, skipBlank_cons (by decide)]
    simp only [List.append_assoc, skipBlank_append hb]
    rfl
  | arr h =>
    rw [List.length_cons] at hn
    obtain ⟨c, ds, hs, hc⟩ := h.head rest
    have he := ih.elements h (by omega) rest
    rw [← readElements_skipBlank, hs] at he
    rw [readValue, skipBlank_append hw, List.cons_append, skipBlank_cons (by decide)]
    simp [hs, hc, he]
  | noMembers hb =>
    rw [readValue, skipBlank_append hw, List.cons_append, skipBlank_cons (by decide)]
    simp only [List.append_assoc, skipBlank_append hb]
    rfl
  | obj h =>
    rw [List.length_cons] at hn
    obtain ⟨ds, hs⟩ := h.head rest
    have he := ih.members h (by omega) rest
    rw [← readMembers_skipBlank, hs] at he
    rw [readValue, skipBlank_append hw, List.cons_append, skipBlank_cons (by decide)]
    simp [hs, he]

theorem ReadsWritten.succ_elements (ih : ReadsWritten n) {vs : List Value} {cs : List Char}
    (h : WrittenElements vs cs) (hn : cs.length < n + 1) (rest : List Char) :
    readElements (n+1) (cs ++ rest) = some (vs, rest) := by
  cases h with
  | @last v ws cs ws' hw h hw' =>
    simp only [List.length_append, List.length_cons, List.length_nil] at hn
    have hs : Number.Stops (ws' ++ ']' :: rest) :=
      stops_append hw' (Number.stops_cons (by decide) rest)
    have hv := ih.value h (by omega) hw hs
    have hb : skipBlank (ws' ++ ']' :: rest) = ']' :: rest := by
      rw [skipBlank_append hw', skipBlank_cons (by decide)]
    simp [readElements, hv, hb]
  | @more v vs ws cs ws' ds hw h hw' ht =>
    simp only [List.length_append, List.length_cons] at hn
    have hs : Number.Stops (ws' ++ ',' :: (ds ++ rest)) :=
      stops_append hw' (Number.stops_cons (by decide) _)
    have hv := ih.value h (by omega) hw hs
    have hb : skipBlank (ws' ++ ',' :: (ds ++ rest)) = ',' :: (ds ++ rest) := by
      rw [skipBlank_append hw', skipBlank_cons (by decide)]
    have htail := ih.elements ht (by omega) rest
    simp [readElements, hv, hb, htail]

/-- One member is read, and the sign after it tells whether there are more. -/
theorem ReadsWritten.member (ih : ReadsWritten n) {m : Option String × Value} {cs : List Char}
    (h : WrittenMember m cs) (hn : cs.length < n) {e : Char} (he : e = ',' ∨ e = '}')
    (rest : List Char) : readMembers (n+1) (cs ++ e :: rest) =
      if e = ',' then (readMembers n rest).map fun r => (m :: r.1, r.2) else some ([m], rest) := by
  cases h with
  | @mk k v ws ks ws₁ ws₂ cs ws₃ hw hk hw₁ hw₂ h hw₃ =>
    simp only [List.length_append, List.length_cons] at hn
    have hread := readString_quoted hk
    have hs : Number.Stops (ws₃ ++ e :: rest) := by
      apply stops_append hw₃
      rcases he with rfl | rfl <;> exact Number.stops_cons (by decide) rest
    have hv := ih.value h (by omega) hw₂ hs
    have hb : skipBlank (ws₃ ++ e :: rest) = e :: rest := by
      rw [skipBlank_append hw₃]
      rcases he with rfl | rfl <;> exact skipBlank_cons (by decide) rest
    have hc : ∀ ds, skipBlank (ws₁ ++ ':' :: ds) = ':' :: ds := by
      intro ds
      rw [skipBlank_append hw₁, skipBlank_cons (by decide)]
    simp only [List.append_assoc, List.cons_append]
    rw [readMembers, skipBlank_append hw, skipBlank_cons (by decide)]
    simp only [hread, Option.bind_eq_bind, Option.bind_some, hc, hv, hb]
    rcases he with rfl | rfl
    · cases hm : readMembers n rest <;> simp [hm]
    · rfl

theorem ReadsWritten.succ_members (ih : ReadsWritten n) {ms : List (Option String × Value)}
    {cs : List Char} (h : WrittenMembers ms cs) (hn : cs.length < n + 1) (rest : List Char) :
    readMembers (n+1) (cs ++ rest) = some (ms, rest) := by
  cases h with
  | last h =>
    simp only [List.length_append, List.length_cons, List.length_nil] at hn
    rw [List.append_assoc, List.singleton_append, ih.member h (by omega) (Or.inr rfl)]
    rfl
  | more h ht =>
    simp only [List.length_append, List.length_cons] at hn
    rw [List.append_assoc, List.cons_append, ih.member h (by omega) (Or.inl rfl), if_pos rfl,
      ih.members ht (by omega)]
    rfl

theorem readsWritten (n : Nat) : ReadsWritten n := by
  induction n with
  | zero => constructor <;> exact fun _ h => absurd h (Nat.not_lt_zero _)
  | succ n ih =>
    exact ⟨fun h hn _ _ => ih.succ_value h hn, ih.succ_elements, ih.succ_members⟩

end

theorem read?_written {v : Value} {ws cs ws' : List Char} (hw : Blank ws) (h : Written v cs)
    (hw' : Blank ws') : read? (String.ofList (ws ++ (cs ++ ws'))) = some v := by
  have hs : Number.Stops ws' := by simpa using stops_append hw' Number.stops_nil
  have hn : cs.length < 2 * (ws ++ (cs ++ ws')).length + 2 := by
    simp only [List.length_append]
    omega
  have hb : skipBlank ws' = [] := by simpa [skipBlank] using skipBlank_append hw' []
  rw [read?, String.toList_ofList]
  simp [-List.length_append, (readsWritten _).value h hn hw hs, hb]

/-- A whole text holds a value, with blanks around it. -/
def Holds (text : String) (v : Value) : Prop :=
  ∃ ws cs ws', Blank ws ∧ Written v cs ∧ Blank ws' ∧ text = String.ofList (ws ++ (cs ++ ws'))

theorem read?_holds {text : String} {v : Value} (h : Holds text v) : read? text = some v := by
  obtain ⟨ws, cs, ws', hw, hv, hw', rfl⟩ := h
  exact read?_written hw hv hw'

mutual

/-- Proper texts throughout, and numbers that are read back from their text. -/
def Value.Printable : Value → Prop
  | .null | .bool _ => True
  | .num n => n.ReadsBack
  | .str s => s.isSome = true
  | .arr vs => PrintableElements vs
  | .obj ms => PrintableMembers ms

def PrintableElements : List Value → Prop
  | [] => True
  | v :: vs => v.Printable ∧ PrintableElements vs

def PrintableMembers : List (Option String × Value) → Prop
  | [] => True
  | (k, v) :: ms => k.isSome = true ∧ v.Printable ∧ PrintableMembers ms

end

/-- What the layout adds can be skipped. -/
structure Layout.Loose (l : Layout) : Prop where
  line : ∀ depth, Blank (l.line depth)
  colon : ∃ ws, Blank ws ∧ l.colon = ':' :: ws

theorem loose_pretty : Layout.pretty.Loose where
  line depth := by
    intro c hc
    simp only [Layout.pretty, List.mem_cons, List.mem_replicate] at hc
    rcases hc with rfl | ⟨-, rfl⟩ <;> decide
  colon := ⟨[' '], by simp [Blank], rfl⟩

theorem loose_compact : Layout.compact.Loose where
  line _ := blank_nil
  colon := ⟨[], blank_nil, rfl⟩

theorem stringText_eq_cons {k : Option String} (hk : k.isSome = true) : ∃ ks,
    stringText k = '"' :: ks ∧ Quoted k ks := by
  obtain ⟨s, rfl⟩ := Option.isSome_iff_exists.mp hk
  exact ⟨_, rfl, quoted_written s⟩

section
variable {l : Layout}

theorem writtenMember (hl : l.Loose) (depth : Nat) {k : Option String} {v : Value}
    {cs ws : List Char} (hk : k.isSome = true) (h : Written v cs) (hw : Blank ws) :
    WrittenMember (k, v) (l.line depth ++ stringText k ++ l.colon ++ cs ++ ws) := by
  obtain ⟨ks, ht, hr⟩ := stringText_eq_cons hk
  obtain ⟨ws₂, hw₂, hc⟩ := hl.colon
  rw [ht, hc]
  simpa using WrittenMember.mk (hl.line depth) hr blank_nil hw₂ h hw

mutual

theorem written_render (hl : l.Loose) : ∀ (v : Value) (depth : Nat), v.Printable →
    Written v (v.render l depth)
  | .null, _, _ => .null
  | .bool b, _, _ => .bool b
  | .num _, _, h => .num (Number.read_eq_some_iff.mp h)
  | .str s, _, h => by
    obtain ⟨ks, ht, hr⟩ := stringText_eq_cons h
    rw [Value.render, ht]
    exact .str hr
  | .arr [], _, _ => .noElements blank_nil
  | .arr (v :: vs), depth, h => by
    rw [Value.render]
    exact .arr (writtenElements_render hl vs depth h.2 (written_render hl v (depth+1) h.1))
  | .obj [], _, _ => .noMembers blank_nil
  | .obj ((k, v) :: ms), depth, h => by
    rw [Value.render]
    exact .obj (writtenMembers_render hl ms depth h.2.2 h.1 (written_render hl v (depth+1) h.2.1))

theorem writtenElements_render (hl : l.Loose) : ∀ (vs : List Value) (depth : Nat),
    PrintableElements vs → ∀ {v : Value} {cs : List Char}, Written v cs →
      WrittenElements (v :: vs) (l.line (depth+1) ++ cs ++ renderElements l depth vs)
  | [], depth, _, v, cs, h => by
    simpa [renderElements] using WrittenElements.last (hl.line (depth+1)) h (hl.line depth)
  | v :: vs, depth, hp, u, cs, h => by
    have ht := writtenElements_render hl vs depth hp.2 (written_render hl v (depth+1) hp.1)
    simpa [renderElements] using WrittenElements.more (hl.line (depth+1)) h blank_nil ht

theorem writtenMembers_render (hl : l.Loose) : ∀ (ms : List (Option String × Value)) (depth : Nat),
    PrintableMembers ms → ∀ {k : Option String} {v : Value} {cs : List Char}, k.isSome = true →
      Written v cs → WrittenMembers ((k, v) :: ms)
        (l.line (depth+1) ++ stringText k ++ l.colon ++ cs ++ renderMembers l depth ms)
  | [], depth, _, k, v, cs, hk, h => by
    have hm := writtenMember hl (depth+1) hk h (hl.line depth)
    simpa [renderMembers] using WrittenMembers.last hm
  | (k, v) :: ms, depth, hp, j, u, cs, hj, h => by
    have ht := writtenMembers_render hl ms depth hp.2.2 hp.1 (written_render hl v (depth+1) hp.2.1)
    have hm := writtenMember hl (depth+1) hj h blank_nil
    simpa [renderMembers] using WrittenMembers.more hm ht

end
end

theorem read?_render {l : Layout} (hl : l.Loose) {v : Value} (h : v.Printable) :
    read? (String.ofList (v.render l 0)) = some v := by
  simpa using read?_written blank_nil (written_render hl v 0 h) blank_nil

end Triage.Json
