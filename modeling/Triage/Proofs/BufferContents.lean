import Triage.Buffer

/-! A buffer answers as a plain list of bytes does. Sums of its words may wrap around, and its contents
may have to move; a list has no words and no place. -/
namespace Triage.Buffer
variable {b : Buffer} {o n : UInt64}

theorem sum?_of_lt (h : o.toNat + n.toNat < UInt64.size) :
    sum? o n = some (o + n) ∧ (o + n).toNat = o.toNat + n.toNat := by
  have hs : (o + n).toNat = o.toNat + n.toNat := by
    rw [UInt64.toNat_add]
    exact Nat.mod_eq_of_lt h
  refine ⟨if_neg ?_, hs⟩
  rw [UInt64.lt_iff_toNat_lt, hs]
  omega

/-- A sum that is too large for a word comes out below its first part. -/
theorem sum?_of_le (h : UInt64.size ≤ o.toNat + n.toNat) : sum? o n = none := by
  have ho : o.toNat < UInt64.size := o.toNat_lt
  have hn : n.toNat < UInt64.size := n.toNat_lt
  have hs : (o + n).toNat = o.toNat + n.toNat - UInt64.size := by
    rw [UInt64.toNat_add]
    change (o.toNat + n.toNat) % UInt64.size = _
    rw [Nat.mod_eq_sub_mod h, Nat.mod_eq_of_lt (by omega)]
  apply if_pos
  rw [UInt64.lt_iff_toNat_lt, hs]
  omega

theorem stop_inside (hb : b.size < UInt64.size) (h : o.toNat + n.toNat ≤ b.size) :
    ∃ e, b.stop o n = .ok e ∧ e.toNat = o.toNat + n.toNat := by
  obtain ⟨hs, hv⟩ := sum?_of_lt (o := o) (n := n) (by omega)
  refine ⟨o + n, ?_, hv⟩
  rw [stop, hs, Option.filter_some, hv, if_pos (decide_eq_true h)]

theorem stop_outside (h : b.size < o.toNat + n.toNat) :
    b.stop o n = .error (.outOfBounds o.toNat n.toNat b.size) := by
  by_cases hw : o.toNat + n.toNat < UInt64.size
  · obtain ⟨hs, hv⟩ := sum?_of_lt hw
    rw [stop, hs, Option.filter_some, hv, if_neg (by simpa using h)]
  · rw [stop, sum?_of_le (Nat.le_of_not_lt hw)]
    rfl

theorem read_inside (hb : b.size < UInt64.size) (h : o.toNat + n.toNat ≤ b.size) :
    b.read o n = .ok ((b.bytes.drop o.toNat).take n.toNat) := by
  obtain ⟨e, he, hv⟩ := stop_inside hb h
  rw [read, he, Except.map, hv, List.drop_take, Nat.add_sub_cancel_left]

theorem read_outside (h : b.size < o.toNat + n.toNat) :
    b.read o n = .error (.outOfBounds o.toNat n.toNat b.size) := by
  rw [read, stop_outside h, Except.map]

theorem getElem?_overwrite {offset : Nat} {data bs : Bytes}
    (h : offset + data.length ≤ bs.length) (i : Nat) :
    (overwrite offset data bs)[i]? =
      if offset ≤ i ∧ i < offset + data.length then data[i - offset]? else bs[i]? := by
  fun_induction overwrite offset data bs generalizing i with
  | case1 offset data =>
    have hn : ¬ (offset ≤ i ∧ i < offset + data.length) := by
      simp only [List.length_nil] at h
      omega
    rw [if_neg hn]
  | case2 offset data b bs ih =>
    cases i with
    | zero => simp
    | succ i =>
      rw [List.getElem?_cons_succ, List.getElem?_cons_succ, ih (by simp at h; omega)]
      simp only [Nat.succ_eq_add_one, Nat.add_le_add_iff_right, Nat.add_right_comm offset 1,
        Nat.add_lt_add_iff_right, Nat.add_sub_add_right]
  | case3 d ds b bs ih =>
    cases i with
    | zero => simp
    | succ i =>
      rw [List.getElem?_cons_succ, List.getElem?_cons_succ, ih (by simp at h; omega)]
      simp
  | case4 bs => simp

section
variable {data : Bytes}

theorem write_inside (hb : b.size < UInt64.size) (h : o.toNat + data.length ≤ b.size) :
    ∃ c, b.write o data = (.ok (), c) ∧ c.bytes = overwrite o.toNat data b.bytes := by
  have hd : data.length.toUInt64.toNat = data.length := UInt64.toNat_ofNat_of_lt' (by omega)
  obtain ⟨e, he, -⟩ := stop_inside (o := o) (n := data.length.toUInt64) hb (by omega)
  exact ⟨_, by rw [write, he], rfl⟩

theorem write_outside (hd : data.length < UInt64.size) (h : b.size < o.toNat + data.length) :
    b.write o data = (.error (.outOfBounds o.toNat data.length b.size), b) := by
  have hn : data.length.toUInt64.toNat = data.length := UInt64.toNat_ofNat_of_lt' hd
  rw [← hn] at h
  rw [write, stop_outside h, hn]

theorem bytes_append : (b.append data).bytes = b.bytes ++ data := by
  rw [append]
  split <;> rfl

theorem bytes_clear : b.clear.bytes = List.replicate b.size 0 := List.map_const' ..

end

inductive Op where
  | read (offset length : UInt64)
  | write (offset : UInt64) (data : Bytes)
  | append (data : Bytes)
  | clear

inductive Answer where
  | bytes (data : Bytes)
  | done
  | refused (e : Error)
  deriving DecidableEq

def perform (b : Buffer) : Op → Answer × Buffer
  | .read o n =>
    match b.read o n with
    | .ok data => (.bytes data, b)
    | .error e => (.refused e, b)
  | .write o data =>
    match b.write o data with
    | (.ok _, c) => (.done, c)
    | (.error e, c) => (.refused e, c)
  | .append data => (.done, b.append data)
  | .clear => (.done, b.clear)

def run (b : Buffer) : List Op → List Answer × Buffer
  | [] => ([], b)
  | op :: ops =>
    let (a, c) := b.perform op
    let (as, c) := c.run ops
    (a :: as, c)

/-- The bytes that an operation brings with it. -/
def Op.data : Op → Bytes
  | .write _ data | .append data => data
  | .read _ _ | .clear => []

def Op.growth : Op → Nat
  | .append data => data.length
  | _ => 0

/-- All lengths are words: those of the data, and that of the contents, which start with `size` bytes. -/
def Fits : (size : Nat) → List Op → Prop
  | size, [] => size < UInt64.size
  | size, op :: ops =>
    size < UInt64.size ∧ op.data.length < UInt64.size ∧ Fits (size + op.growth) ops

instance decidableFits : (size : Nat) → (ops : List Op) → Decidable (Fits size ops)
  | size, [] => inferInstanceAs (Decidable (size < UInt64.size))
  | size, op :: ops =>
    have := decidableFits (size + op.growth) ops
    inferInstanceAs (Decidable (_ ∧ _ ∧ _))

/-- One operation on a plain list of bytes: its answer, and the list after it. -/
inductive OnList : Bytes → Op → Answer → Bytes → Prop where
  | read {l : Bytes} {o n : UInt64} (h : o.toNat + n.toNat ≤ l.length) :
    OnList l (.read o n) (.bytes ((l.drop o.toNat).take n.toNat)) l
  | readOutside {l : Bytes} {o n : UInt64} (h : l.length < o.toNat + n.toNat) :
    OnList l (.read o n) (.refused (.outOfBounds o.toNat n.toNat l.length)) l
  | write {l l' : Bytes} {o : UInt64} {data : Bytes} (h : o.toNat + data.length ≤ l.length)
    (hl : l'.length = l.length) (hd : ∀ i, l'[i]? =
      if o.toNat ≤ i ∧ i < o.toNat + data.length then data[i - o.toNat]? else l[i]?) :
    OnList l (.write o data) .done l'
  | writeOutside {l : Bytes} {o : UInt64} {data : Bytes} (h : l.length < o.toNat + data.length) :
    OnList l (.write o data) (.refused (.outOfBounds o.toNat data.length l.length)) l
  | append {l data : Bytes} : OnList l (.append data) .done (l ++ data)
  | clear {l : Bytes} : OnList l .clear .done (List.replicate l.length 0)

inductive RunsOnList : Bytes → List Op → List Answer → Bytes → Prop where
  | nil {l : Bytes} : RunsOnList l [] [] l
  | cons {l l' l'' : Bytes} {op : Op} {ops : List Op} {a : Answer} {as : List Answer}
    (h : OnList l op a l') (ht : RunsOnList l' ops as l'') : RunsOnList l (op :: ops) (a :: as) l''

theorem OnList.unique {l l₁ l₂ : Bytes} {op : Op} {a₁ a₂ : Answer} (h₁ : OnList l op a₁ l₁)
    (h₂ : OnList l op a₂ l₂) : a₁ = a₂ ∧ l₁ = l₂ := by
  cases h₁ with
  | read h =>
    cases h₂ with
    | read => exact ⟨rfl, rfl⟩
    | readOutside h' => omega
  | readOutside h =>
    cases h₂ with
    | read h' => omega
    | readOutside => exact ⟨rfl, rfl⟩
  | write h _ hd =>
    cases h₂ with
    | write _ _ hd' =>
      refine ⟨rfl, List.ext_getElem? ?_⟩
      intro i
      rw [hd, hd']
    | writeOutside h' => omega
  | writeOutside h =>
    cases h₂ with
    | write h' => omega
    | writeOutside => exact ⟨rfl, rfl⟩
  | append =>
    cases h₂
    exact ⟨rfl, rfl⟩
  | clear =>
    cases h₂
    exact ⟨rfl, rfl⟩

theorem RunsOnList.unique {l l₁ l₂ : Bytes} {ops : List Op} {as₁ as₂ : List Answer}
    (h₁ : RunsOnList l ops as₁ l₁) (h₂ : RunsOnList l ops as₂ l₂) : as₁ = as₂ ∧ l₁ = l₂ := by
  induction h₁ generalizing as₂ l₂ with
  | nil =>
    cases h₂
    exact ⟨rfl, rfl⟩
  | cons h _ ih =>
    cases h₂ with
    | cons h' ht' =>
      obtain ⟨rfl, rfl⟩ := h.unique h'
      obtain ⟨rfl, rfl⟩ := ih ht'
      exact ⟨rfl, rfl⟩

theorem size_perform (b : Buffer) (op : Op) : (b.perform op).2.size = b.size + op.growth := by
  cases op with
  | read o n =>
    rw [perform]
    split <;> rfl
  | write o data =>
    rw [perform, write]
    cases b.stop o data.length.toUInt64 with
    | ok e => exact length_overwrite ..
    | error e => rfl
  | append data => simp [perform, size, bytes_append, Op.growth]
  | clear => simp [perform, size, bytes_clear, Op.growth]

theorem perform_onList {op : Op} (hb : b.size < UInt64.size)
    (hd : op.data.length < UInt64.size) :
    OnList b.bytes op (b.perform op).1 (b.perform op).2.bytes := by
  cases op with
  | read o n =>
    by_cases h : o.toNat + n.toNat ≤ b.size
    · rw [perform, read_inside hb h]
      exact .read h
    · rw [perform, read_outside (Nat.lt_of_not_le h)]
      exact .readOutside (Nat.lt_of_not_le h)
  | write o data =>
    by_cases h : o.toNat + data.length ≤ b.size
    · obtain ⟨c, hw, hc⟩ := write_inside hb h
      rw [perform, hw]
      refine .write h ?_ ?_
      · rw [hc, length_overwrite]
      · intro i
        rw [hc, getElem?_overwrite h]
    · change data.length < UInt64.size at hd
      rw [perform, write_outside hd (Nat.lt_of_not_le h)]
      exact .writeOutside (Nat.lt_of_not_le h)
  | append data =>
    rw [perform, bytes_append]
    exact .append
  | clear =>
    rw [perform, bytes_clear]
    exact .clear

theorem run_onList {ops : List Op} (hf : Fits b.size ops) :
    RunsOnList b.bytes ops (b.run ops).1 (b.run ops).2.bytes := by
  induction ops generalizing b with
  | nil => exact .nil
  | cons op ops ih =>
    obtain ⟨hb, hd, hf⟩ := hf
    rw [← size_perform] at hf
    exact .cons (perform_onList hb hd) (ih hf)

inductive Start where
  | zeroed (n : Nat)
  | ofBytes (data : Bytes)
  | empty

def Start.buffer : Start → Buffer
  | .zeroed n => .zeroed n
  | .ofBytes data => .ofBytes data
  | .empty => {}

def Start.list : Start → Bytes
  | .zeroed n => List.replicate n 0
  | .ofBytes data => data
  | .empty => []

/-- Whatever is done to a buffer, each answer and the contents are those of a plain list of bytes, and
a list has no others. As a list may be longer than any memory, lengths are asked to be words. -/
theorem run_iff_runsOnList (start : Start) (ops : List Op) (hf : Fits start.list.length ops)
    (as : List Answer) (l : Bytes) :
    RunsOnList start.list ops as l ↔
      (start.buffer.run ops).1 = as ∧ (start.buffer.run ops).2.bytes = l := by
  have hs : start.buffer.bytes = start.list := by cases start <;> rfl
  have hr : RunsOnList start.list ops (start.buffer.run ops).1 (start.buffer.run ops).2.bytes := by
    rw [← hs]
    apply run_onList
    rw [size, hs]
    exact hf
  constructor
  · intro h
    exact hr.unique h
  · rintro ⟨rfl, rfl⟩
    exact hr

/-- Writes over each other, an offset that wraps around, a move and room that is left by it. -/
def mixedOps : List Op :=
  [.write 0 [1, 2, 3], .write 2 [4, 5], .read 0xFFFFFFFFFFFFFFFF 2, .read 4 0, .write 5 [],
   .append [6], .append [7, 8], .read 1 5, .clear, .append [9]]

theorem run_iff_runsOnList_mixed : Fits (Start.zeroed 4).list.length mixedOps ∧
    RunsOnList (Start.zeroed 4).list mixedOps
      [.done, .done, .refused (.outOfBounds 0xFFFFFFFFFFFFFFFF 2 4), .bytes [],
       .refused (.outOfBounds 5 0 4), .done, .done, .bytes [2, 4, 5, 6, 7], .done, .done]
      [0, 0, 0, 0, 0, 0, 0, 9] :=
  ⟨by decide, (run_iff_runsOnList (.zeroed 4) mixedOps (by decide) _ _).mpr (by decide)⟩

end Triage.Buffer
