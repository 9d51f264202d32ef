import Triage.AntiDebug
import Triage.Obfuscation
import Triage.Packer
import Triage.Proofs.DebuggerTraces
import Triage.Proofs.HitsApart

/-! What is found in some bytes is found again, further on, in any text around them. The bytes around
can bring new hits, also ones that overlap the old ones, and none of them hides a hit. -/
namespace Triage

namespace Bytes
variable {needle data : Bytes} {i : Nat}

theorem occursAt_iff_append : OccursAt needle data i ↔
    ∃ front back, data = front ++ needle ++ back ∧ front.length = i := by
  constructor
  · intro ⟨hl, ht⟩
    refine ⟨data.take i, data.drop (i + needle.length), ?_, by simp; omega⟩
    calc
      data = data.take i ++ data.drop i := (List.take_append_drop i data).symm
      _ = data.take i ++ ((data.drop i).take needle.length ++
            (data.drop i).drop needle.length) := by rw [List.take_append_drop needle.length]
      _ = data.take i ++ needle ++ data.drop (i + needle.length) := by
            rw [ht, List.drop_drop, List.append_assoc]
  · intro ⟨front, back, hd, hf⟩
    subst hd hf
    constructor
    · simp
    · simp [List.append_assoc]

theorem OccursAt.embed (h : OccursAt needle data i) (pre post : Bytes) :
    OccursAt needle (pre ++ data ++ post) (pre.length + i) := by
  obtain ⟨front, back, rfl, rfl⟩ := occursAt_iff_append.mp h
  exact occursAt_iff_append.mpr ⟨pre ++ front, back ++ post, by simp, by simp⟩

theorem occursIn_embed (h : occursIn needle data = true) (pre post : Bytes) :
    occursIn needle (pre ++ data ++ post) = true := by
  obtain ⟨i, hi⟩ := occursIn_iff.mp h
  exact occursIn_iff.mpr ⟨_, hi.embed pre post⟩

theorem countApart_embed (hn : needle ≠ []) (pre data post : Bytes) :
    countApart needle data ≤ countApart needle (pre ++ data ++ post) :=
  countApart_le_of_shift hn fun _ hi => hi.embed pre post

end Bytes

variable {r : Registry} {data : Bytes}

namespace Signature

theorem offsets_embed {s : Signature} {i : Nat} (h : i ∈ s.offsets data) (pre post : Bytes) :
    pre.length + i ∈ s.offsets (pre ++ data ++ post) := by
  obtain ⟨p, hp, hi⟩ := (mem_offsets_iff_exists s data i).mp h
  have ho := Bytes.mem_offsets.mp hi
  exact (mem_offsets_iff_exists s _ _).mpr
    ⟨p, hp, Bytes.mem_offsets.mpr ⟨ho.1, ho.2.embed pre post⟩⟩

theorem occursIn_embed {s : Signature} (h : s.occursIn data = true) (pre post : Bytes) :
    s.occursIn (pre ++ data ++ post) = true := by
  obtain ⟨p, hp, ho⟩ := List.any_eq_true.mp h
  exact List.any_eq_true.mpr ⟨p, hp, Bytes.occursIn_embed ho pre post⟩

end Signature

namespace Registry

theorem find_embed {n : String} {i : Nat} (h : i ∈ r.find n data) (pre post : Bytes) :
    pre.length + i ∈ r.find n (pre ++ data ++ post) := by
  rw [find] at h ⊢
  cases hg : r.get? n with
  | none => simp [hg] at h
  | some s =>
    rw [hg] at h
    exact Signature.offsets_embed h pre post

theorem occursIn_embed {n : String} (h : r.occursIn n data = true) (pre post : Bytes) :
    r.occursIn n (pre ++ data ++ post) = true := by
  rw [occursIn] at h ⊢
  cases hg : r.get? n with
  | none => simp [hg] at h
  | some s =>
    rw [hg] at h
    exact Signature.occursIn_embed h pre post

theorem matching_embed {c : Category} {n : String} (h : n ∈ r.matching c data)
    (pre post : Bytes) : n ∈ r.matching c (pre ++ data ++ post) := by
  obtain ⟨s, hs, rfl⟩ := List.mem_map.mp h
  obtain ⟨hc, ho⟩ := List.mem_filter.mp hs
  exact List.mem_map_of_mem (List.mem_filter.mpr ⟨hc, Signature.occursIn_embed ho pre post⟩)

end Registry

/-- A weaker test is met no later in a list. -/
theorem find?_of_imp {α : Type} [BEq α] [LawfulBEq α] {f g : α → Bool} {xs : List α} {x : α}
    (hfg : ∀ y, f y = true → g y = true) (h : xs.find? f = some x) :
    ∃ y, xs.find? g = some y ∧ xs.idxOf y ≤ xs.idxOf x := by
  induction xs with
  | nil => simp at h
  | cons z zs ih =>
    by_cases hg : g z = true
    · exact ⟨z, by simp [hg], by simp⟩
    · have hf : ¬ f z = true := fun hz => hg (hfg z hz)
      have ht : zs.find? f = some x := by simpa [hf] using h
      obtain ⟨y, hy, hle⟩ := ih ht
      have hzy : (z == y) = false := by
        rw [beq_eq_false_iff_ne]
        intro he
        exact hg (he ▸ List.find?_some hy)
      have hzx : (z == x) = false := by
        rw [beq_eq_false_iff_ne]
        intro he
        exact hf (he ▸ List.find?_some ht)
      refine ⟨y, by simpa [hg] using hy, ?_⟩
      simp [List.idxOf_cons, hzy, hzx, hle]

theorem Packer.detect_embed {p : Packer} (h : detect r data = some p) (pre post : Bytes) :
    ∃ q, detect r (pre ++ data ++ post) = some q ∧ priority.idxOf q ≤ priority.idxOf p :=
  find?_of_imp (fun _ ho => Registry.occursIn_embed ho pre post) h

namespace AntiDebug

/-- Everything that `a` tells of, `b` tells of too. -/
structure Within (a b : AntiDebug) : Prop where
  packed : a.packed = true → b.packed = true
  apis : ∀ n ∈ a.apis, n ∈ b.apis
  timing : a.timing = true → b.timing = true
  processBlock : a.processBlock = true → b.processBlock = true

theorem any_embed {marks : List Bytes} (h : (marks.any fun m => Bytes.occursIn m data) = true)
    (pre post : Bytes) : (marks.any fun m => Bytes.occursIn m (pre ++ data ++ post)) = true := by
  obtain ⟨m, hm, ho⟩ := List.any_eq_true.mp h
  exact List.any_eq_true.mpr ⟨m, hm, Bytes.occursIn_embed ho pre post⟩

theorem isPacked_embed (h : isPacked r data = true) (pre post : Bytes) :
    isPacked r (pre ++ data ++ post) = true := by
  have hne : r.matching .packer data ≠ [] := by simpa [isPacked] using h
  obtain ⟨n, hn⟩ := List.exists_mem_of_ne_nil _ hne
  have hne' := List.ne_nil_of_mem (Registry.matching_embed hn pre post)
  simpa [isPacked] using hne'

theorem detect_within (r : Registry) (pre data post : Bytes) :
    (detect r data).Within (detect r (pre ++ data ++ post)) where
  packed h := isPacked_embed h pre post
  apis n hn := by
    obtain ⟨hm, ho⟩ := mem_apisIn.mp hn
    exact mem_apisIn.mpr ⟨hm, Bytes.occursIn_embed ho pre post⟩
  timing h := any_embed h pre post
  processBlock h := any_embed h pre post

end AntiDebug

namespace Obfuscation

theorem foldl_countApart_le {ps : List Bytes} (hps : ∀ p ∈ ps, p ≠ []) (pre data post : Bytes)
    {m n : Nat} (hmn : m ≤ n) :
    ps.foldl (fun k p => k + Bytes.countApart p data) m ≤
      ps.foldl (fun k p => k + Bytes.countApart p (pre ++ data ++ post)) n := by
  induction ps generalizing m n with
  | nil => exact hmn
  | cons p ps ih =>
    have hp := Bytes.countApart_embed (hps p (by simp)) pre data post
    exact ih (fun q hq => hps q (List.mem_cons_of_mem p hq)) (Nat.add_le_add hmn hp)

theorem branchCount_embed (pre data post : Bytes) :
    branchCount data ≤ branchCount (pre ++ data ++ post) :=
  foldl_countApart_le (by decide) pre data post (Nat.le_refl 0)

end Obfuscation

/-- Bytes put around others take nothing away from what is found in them: every hit is found again
at its distance, every trace of a debugger check again, a packer at or before the old one in the
order, and no fewer branches. -/
theorem detection_grows_with_text (r : Registry) (pre data post : Bytes) :
    let big := pre ++ data ++ post
    (∀ n, ∀ o ∈ r.find n data, pre.length + o ∈ r.find n big) ∧
    (AntiDebug.detect r data).Within (AntiDebug.detect r big) ∧
    (∀ p, Packer.detect r data = some p → ∃ q, Packer.detect r big = some q ∧
      Packer.priority.idxOf q ≤ Packer.priority.idxOf p) ∧
    Obfuscation.branchCount data ≤ Obfuscation.branchCount big := by
  intro big
  refine ⟨?_, AntiDebug.detect_within r pre data post, ?_,
    Obfuscation.branchCount_embed pre data post⟩
  · intro n o ho
    exact Registry.find_embed ho pre post
  · intro p hp
    exact Packer.detect_embed hp pre post

end Triage
