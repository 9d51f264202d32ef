import Triage.Json.Record
import Triage.Proofs.JsonText

/-! Records by name: members that are written under distinct names are found under them again, also
among members of other names, and a document is read from its own text. -/
namespace Triage.Json

theorem namedMembers_record (ms : List (String × Value)) :
    namedMembers (ms.map fun (k, v) => (some k, v)) = some ms := by
  induction ms with
  | nil => rfl
  | cons m ms ih =>
    rw [namedMembers] at ih
    simp [namedMembers, ih]

section
variable {ms : List (String × Value)}

theorem fields?_record {names : List String} (hn : (ms.map Prod.fst).Nodup)
    (hk : ∀ k ∈ ms.map Prod.fst, k ∈ names) :
    (Value.record ms).fields? names = some ⟨false, ms⟩ := by
  have hf : ms.filter (fun m => names.contains m.1) = ms := by
    rw [List.filter_eq_self]
    intro m hm
    exact List.contains_iff_mem.mpr (hk _ (List.mem_map_of_mem hm))
  rw [Value.record, Value.fields?, namedMembers_record, Option.bind_eq_bind, Option.bind_some, hf,
    if_pos hn]

theorem lookup_of_mem (hn : (ms.map Prod.fst).Nodup) {k : String} {v : Value}
    (h : (k, v) ∈ ms) : ms.lookup k = some v := by
  induction ms with
  | nil => simp at h
  | cons m ms ih =>
    rw [List.map_cons, List.nodup_cons] at hn
    rcases List.mem_cons.mp h with rfl | h
    · simp
    · have hne : (k == m.1) = false := by
        rw [beq_eq_false_iff_ne]
        exact fun he => hn.1 (he ▸ List.mem_map.mpr ⟨_, h, rfl⟩)
      rw [List.lookup_cons, hne]
      exact ih hn.2 h

theorem lookup_of_not_mem {k : String} (h : k ∉ ms.map Prod.fst) : ms.lookup k = none := by
  rw [List.lookup_eq_none_iff]
  intro m hm
  rw [bne_iff_ne]
  exact fun he => h (he ▸ List.mem_map_of_mem hm)

theorem get?_cons (positional : Bool) (j k : String) (v : Value) : Fields.get?
    ⟨positional, (j, v) :: ms⟩ k = if k = j then some v else Fields.get? ⟨positional, ms⟩ k := by
  rw [Fields.get?, List.lookup_cons]
  by_cases h : k = j
  · simp [h]
  · rw [if_neg h, beq_false_of_ne h]
    rfl

variable {α : Type} {item : Value → Option α} {k : String} {v : Value}

theorem required_of_mem (hn : (ms.map Prod.fst).Nodup) (h : (k, v) ∈ ms) :
    Fields.required ⟨false, ms⟩ k item = item v := by
  rw [Fields.required, Fields.get?, lookup_of_mem hn h, Option.bind_some]

theorem optional_of_mem (hn : (ms.map Prod.fst).Nodup) (h : (k, v) ∈ ms) :
    Fields.optional ⟨false, ms⟩ k item = v.nullable? item := by
  rw [Fields.optional, Fields.get?, lookup_of_mem hn h]

theorem optional_of_not_mem (h : k ∉ ms.map Prod.fst) :
    Fields.optional ⟨false, ms⟩ k item = some none := by
  simp [Fields.optional, Fields.get?, lookup_of_not_mem h]

end

theorem nullable?_of_ne_null {α : Type} {item : Value → Option α} {v : Value} (hv : v ≠ .null) :
    v.nullable? item = (item v).map some := by
  cases v with
  | null => exact absurd rfl hv
  | _ => rfl

@[simp] theorem nullable?_ofOption (s : Option String) :
    (Value.ofOption s).nullable? Value.string? = some s := by
  cases s <;> rfl

theorem list?_map {α : Type} {item : Value → Option α} {toValue : α → Value}
    (h : ∀ a, item (toValue a) = some a) (as : List α) :
    (Value.arr (as.map toValue)).list? item = some as := by
  rw [Value.list?]
  induction as with
  | nil => rfl
  | cons a as ih => simp [h, ih]

@[simp] theorem string?_text (s : String) : (Value.text s).string? = some s := rfl

@[simp] theorem list?_texts (ss : List String) :
    (Value.arr (ss.map .text)).list? Value.string? = some ss :=
  list?_map string?_text ss

@[simp] theorem list?_nats (ns : List Nat) :
    (Value.arr (ns.map .nat)).list? Value.nat? = some ns := by
  have h : ∀ n, Value.nat? (.nat n) = some n := fun _ => rfl
  exact list?_map h ns

@[simp] theorem word?_nat (n : UInt64) : (Value.nat n.toNat).word? = some n := by
  simp [Value.word?, Value.nat, Value.nat?]

@[simp] theorem byte?_nat (b : UInt8) : (Value.nat b.toNat).byte? = some b := by
  simp [Value.byte?, Value.nat, Value.nat?, b.toNat_lt]

@[simp] theorem printable_null : Value.null.Printable := trivial

@[simp] theorem printable_bool (b : Bool) : (Value.bool b).Printable := trivial

@[simp] theorem printable_text (s : String) : (Value.text s).Printable := rfl

@[simp] theorem printable_ofOption (s : Option String) : (Value.ofOption s).Printable := by
  cases s with
  | none => exact printable_null
  | some s => exact printable_text s

theorem printable_nat {n : Nat} (hn : n ≤ Number.maxWord) : (Value.nat n).Printable :=
  Number.readsBack_nat hn

@[simp] theorem printable_word (n : UInt64) : (Value.nat n.toNat).Printable :=
  printable_nat (Nat.le_of_lt_succ n.toNat_lt)

@[simp] theorem printable_byte (b : UInt8) : (Value.nat b.toNat).Printable :=
  printable_nat (Nat.le_trans (Nat.le_of_lt b.toNat_lt) (by decide))

theorem printable_arr {vs : List Value} : (Value.arr vs).Printable ↔ ∀ v ∈ vs, v.Printable := by
  show PrintableElements vs ↔ _
  induction vs with
  | nil => simp [PrintableElements]
  | cons v vs ih => rw [PrintableElements, ih, List.forall_mem_cons]

theorem printable_record {ms : List (String × Value)} :
    (Value.record ms).Printable ↔ ∀ m ∈ ms, m.2.Printable := by
  show PrintableMembers (ms.map fun (k, v) => (some k, v)) ↔ _
  induction ms with
  | nil => simp [PrintableMembers]
  | cons m ms ih => simp [PrintableMembers, ih]

/-! ### Objects that may have other members -/

/-- The values of the members of one name, in their order. -/
def valuesOf (k : String) (ms : List (Option String × Value)) : List Value :=
  (ms.filter fun m => m.1 = some k).map Prod.snd

/-- All names are proper texts, and no known one stands there twice. -/
structure Distinct (names : List String) (ms : List (Option String × Value)) : Prop where
  proper : ∀ m ∈ ms, m.1.isSome = true
  once : ∀ k ∈ names, (valuesOf k ms).length ≤ 1

theorem exists_named {ms : List (Option String × Value)} (h : ∀ m ∈ ms, m.1.isSome = true) :
    ∃ ns : List (String × Value), ms = ns.map fun m => (some m.1, m.2) := by
  induction ms with
  | nil => exact ⟨[], rfl⟩
  | cons m ms ih =>
    rw [List.forall_mem_cons] at h
    obtain ⟨ns, rfl⟩ := ih h.2
    obtain ⟨k, hk⟩ := Option.isSome_iff_exists.mp h.1
    exact ⟨(k, m.2) :: ns, by simp [← hk]⟩

theorem named_of_namedMembers {ms : List (Option String × Value)} {ns : List (String × Value)}
    (h : namedMembers ms = some ns) : ms = ns.map fun m => (some m.1, m.2) := by
  induction ms generalizing ns with
  | nil =>
    cases h
    rfl
  | cons m ms ih =>
    simp only [namedMembers, List.mapM_cons, Option.bind_eq_bind, Option.bind_eq_some_iff,
      Option.map_eq_some_iff, Option.pure_def, Option.some.injEq] at h
    obtain ⟨_, ⟨k, hk, rfl⟩, ns, hns, rfl⟩ := h
    rw [ih hns, List.map_cons, ← hk]

section
variable {names : List String} {k : String} (ns : List (String × Value))

/-- The members that are not dropped. -/
def known (names : List String) (ns : List (String × Value)) : List (String × Value) :=
  ns.filter fun m => names.contains m.1

theorem known_cons (m : String × Value) :
    known names (m :: ns) = if m.1 ∈ names then m :: known names ns else known names ns := by
  simp [known, List.filter_cons]

theorem valuesOf_named_cons (m : String × Value) :
    valuesOf k ((m :: ns).map fun m => (some m.1, m.2)) =
      if m.1 = k then m.2 :: valuesOf k (ns.map fun m => (some m.1, m.2))
      else valuesOf k (ns.map fun m => (some m.1, m.2)) := by
  by_cases hm : m.1 = k <;> simp [valuesOf, hm]

theorem lookup_known (hk : k ∈ names) :
    (known names ns).lookup k = (valuesOf k (ns.map fun m => (some m.1, m.2))).head? := by
  induction ns with
  | nil => rfl
  | cons m ns ih =>
    obtain ⟨j, v⟩ := m
    rw [known_cons, valuesOf_named_cons]
    by_cases hj : j = k
    · simp [hj, hk]
    · have hkj : (k == j) = false := beq_eq_false_iff_ne.mpr (Ne.symm hj)
      rw [if_neg hj, ← ih]
      split
      · rw [List.lookup_cons, hkj]
      · rfl

theorem count_known (k : String) : ((known names ns).map Prod.fst).count k =
    if k ∈ names then (valuesOf k (ns.map fun m => (some m.1, m.2))).length else 0 := by
  induction ns with
  | nil => simp [known, valuesOf]
  | cons m ns ih =>
    rw [known_cons, valuesOf_named_cons]
    by_cases hn : m.1 ∈ names <;> by_cases hm : m.1 = k <;> simp_all

theorem nodup_known : ((known names ns).map Prod.fst).Nodup ↔
    ∀ k ∈ names, (valuesOf k (ns.map fun m => (some m.1, m.2))).length ≤ 1 := by
  rw [List.nodup_iff_count]
  apply forall_congr'
  intro k
  rw [count_known]
  by_cases hk : k ∈ names <;> simp [hk]

end

section
variable {names : List String} {ms : List (Option String × Value)} {f : Fields}

/-- What it takes for the fields to be found, and which they are. -/
theorem of_fields? (h : (Value.obj ms).fields? names = some f) :
    Distinct names ms ∧ ∀ k ∈ names, f.get? k = (valuesOf k ms).head? := by
  simp only [Value.fields?, Option.bind_eq_bind, Option.bind_eq_some_iff] at h
  obtain ⟨ns, hns, h⟩ := h
  obtain rfl := named_of_namedMembers hns
  split at h
  · rename_i hd
    cases h
    refine ⟨⟨?_, (nodup_known ns).mp hd⟩, fun k => lookup_known ns⟩
    intro m hm
    obtain ⟨n, -, rfl⟩ := List.mem_map.mp hm
    rfl
  · cases h

variable {β : Type} {g : Fields → Option β} {b : β}

/-- A record is read from an object by the values of its fields there. -/
theorem bind_fields? (h : Distinct names ms)
    (hg : ∀ f : Fields, (∀ k ∈ names, f.get? k = (valuesOf k ms).head?) → g f = some b) :
    ((Value.obj ms).fields? names).bind g = some b := by
  obtain ⟨ns, rfl⟩ := exists_named h.proper
  have hn : namedMembers (ns.map fun m => (some m.1, m.2)) = some ns := namedMembers_record ns
  have hf : (Value.obj (ns.map fun m => (some m.1, m.2))).fields? names =
      some ⟨false, known names ns⟩ := by
    rw [Value.fields?, hn]
    exact if_pos ((nodup_known ns).mpr h.once)
  rw [hf]
  exact hg _ fun k => lookup_known ns

theorem distinct_of_bind (h : ((Value.obj ms).fields? names).bind g = some b) :
    Distinct names ms := by
  obtain ⟨f, hf, -⟩ := Option.bind_eq_some_iff.mp h
  exact (of_fields? hf).1

end

/-! ### Documents -/

section
variable {α : Type} [Document α] {a : α}

theorem Document.parse_render {l : Layout} (hl : l.Loose) (hp : (Document.toJson a).Printable)
    (hr : Document.ofJson? (Document.toJson a) = some a) :
    Document.parse α (String.ofList ((Document.toJson a).render l 0)) = .ok a := by
  rw [Document.parse, read?_render hl hp, Option.bind_some, hr]

theorem Document.parse_pretty (hp : (Document.toJson a).Printable)
    (hr : Document.ofJson? (Document.toJson a) = some a) :
    Document.parse α (Document.pretty a) = .ok a :=
  Document.parse_render loose_pretty hp hr

theorem Document.parse_compact (hp : (Document.toJson a).Printable)
    (hr : Document.ofJson? (Document.toJson a) = some a) :
    Document.parse α (Document.compact a) = .ok a :=
  Document.parse_render loose_compact hp hr

end

/-- Every value of the type has a document that can be printed, is not null and holds that value. -/
class Document.Faithful (α : Type) [Document α] : Prop where
  printable : ∀ a : α, (Document.toJson a).Printable
  ne_null : ∀ a : α, Document.toJson a ≠ .null
  ofJson?_toJson : ∀ a : α, Document.ofJson? (Document.toJson a) = some a

namespace Document.Faithful
variable {α : Type} [Document α] [Faithful α]

theorem nullable?_toJson (a : α) : (toJson a).nullable? ofJson? = some (some a) := by
  rw [nullable?_of_ne_null (ne_null a), ofJson?_toJson]
  rfl

theorem parse_compact_self (a : α) : parse α (compact a) = .ok a :=
  parse_compact (printable a) (ofJson?_toJson a)

end Document.Faithful

end Triage.Json
