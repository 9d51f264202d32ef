import Triage.AntiDebug
import Triage.Packer
import Triage.Proofs.Detection
import Triage.Proofs.RegistryEntries

/-! Requests for different names may change places. Two registries with the same entries list their
hits in different orders, and beyond that no search and no verdict tells them apart. -/
namespace Triage.Registry
variable {r r' : Registry} {q q' : Request}

/-- Every look-up, search and verdict agrees; lists of hits agree up to their order. -/
structure SameVerdicts (r r' : Registry) : Prop where
  get? : ∀ n, r.get? n = r'.get? n
  contains : ∀ n, r.contains n = r'.contains n
  find : ∀ n data, r.find n data = r'.find n data
  occursIn : ∀ n data, r.occursIn n data = r'.occursIn n data
  packer : ∀ data, Packer.detect r data = Packer.detect r' data
  packed : ∀ data, AntiDebug.isPacked r data = AntiDebug.isPacked r' data
  findAll : ∀ data, (r.findAll data).Perm (r'.findAll data)
  matching : ∀ c data, (r.matching c data).Perm (r'.matching c data)

theorem Sound.nodup_signatures (h : r.Sound) : r.signatures.Nodup := by
  apply List.Pairwise.of_map Signature.name _ h.nodup
  intro s t hne he
  exact hne (congrArg Signature.name he)

theorem signatures_perm (hr : r.Sound) (hr' : r'.Sound)
    (hs : ∀ s, s ∈ r.signatures ↔ s ∈ r'.signatures) : r.signatures.Perm r'.signatures :=
  (List.perm_ext_iff_of_nodup hr.nodup_signatures hr'.nodup_signatures).mpr hs

theorem get?_eq_iff_mem_iff (hr : r.Sound) (hr' : r'.Sound) : (∀ n, r.get? n = r'.get? n) ↔
    ∀ s, s ∈ r.signatures ↔ s ∈ r'.signatures := by
  constructor
  · intro hg s
    have h := hr.get?_iff (n := s.name) (s := s)
    rw [hg, hr'.get?_iff] at h
    simpa using h.symm
  · intro hs n
    apply Option.ext
    intro s
    rw [hr.get?_iff, hr'.get?_iff, hs]

theorem matching_perm (hp : r.signatures.Perm r'.signatures) (c : Category) (data : Bytes) :
    (r.matching c data).Perm (r'.matching c data) :=
  ((hp.filter _).filter _).map _

theorem findAll_perm (hp : r.signatures.Perm r'.signatures)
    (hf : ∀ n data, r.find n data = r'.find n data) (data : Bytes) :
    (r.findAll data).Perm (r'.findAll data) := by
  have hn : r.names.Perm r'.names := hp.map _
  simp only [findAll, hf]
  exact (hn.map _).filter _

theorem sameVerdicts_of_mem_iff (hr : r.Sound) (hr' : r'.Sound)
    (hs : ∀ s, s ∈ r.signatures ↔ s ∈ r'.signatures) : SameVerdicts r r' := by
  have hg := (get?_eq_iff_mem_iff hr hr').mpr hs
  have hp := signatures_perm hr hr' hs
  have hf (n : String) (data : Bytes) : r.find n data = r'.find n data := by
    rw [find, find, hg]
  have ho (n : String) (data : Bytes) : r.occursIn n data = r'.occursIn n data := by
    rw [occursIn, occursIn, hg]
  refine ⟨hg, ?_, hf, ho, ?_, ?_, findAll_perm hp hf, matching_perm hp⟩
  · intro n
    rw [contains, contains, hg]
  · intro data
    simp only [Packer.detect, ho]
  · intro data
    rw [AntiDebug.isPacked, AntiDebug.isPacked, (matching_perm hp .packer data).isEmpty_eq]

/-- The second request still finds what it would have found first, since the first one touched
another name. -/
theorem get?_after_comm (hne : q.name ≠ q'.name) (r : Registry) (n : String) :
    ((r.after q).after q').get? n = ((r.after q').after q).get? n := by
  have hs : (r.after q).stored q' = r.stored q' := by
    apply stored_congr
    simp [get?_after, hne]
  have hs' : (r.after q').stored q = r.stored q := by
    apply stored_congr
    simp [get?_after, Ne.symm hne]
  simp only [get?_after, hs, hs']
  by_cases hn : q.name = n
  · have hn' : q'.name ≠ n := by
      intro he
      exact hne (hn.trans he.symm)
    simp [hn']
  · simp [hn]

namespace History

/-- Of two accepted requests for different names either may come first: the other order is accepted
too, and the two registries give the same verdicts. More generally, registries with the same
signatures do, whatever histories they have. -/
theorem verdicts_ignore_order (h : History) :
    (∀ (q q' : Request) (r r' : Registry), q.name ≠ q'.name →
      h.registry.submit q = .ok r → r.submit q' = .ok r' →
      ∃ s s', h.registry.submit q' = .ok s ∧ s.submit q = .ok s' ∧ SameVerdicts r' s') ∧
    ∀ h' : History, (∀ s, s ∈ h.registry.signatures ↔ s ∈ h'.registry.signatures) →
      SameVerdicts h.registry h'.registry := by
  constructor
  · intro q q' r r' hne hq hq'
    obtain ⟨hv, rfl⟩ := submit_eq_ok_iff.mp hq
    obtain ⟨hv', rfl⟩ := submit_eq_ok_iff.mp hq'
    refine ⟨_, _, submit_of_valid _ hv', submit_of_valid _ hv, ?_⟩
    have hs := (h.sound.after q).after q'
    have hs' := (h.sound.after q').after q
    have hg := get?_after_comm hne h.registry
    exact sameVerdicts_of_mem_iff hs hs' ((get?_eq_iff_mem_iff hs hs').mp hg)
  · intro h' hs
    exact sameVerdicts_of_mem_iff h.sound h'.sound hs

/-- Two new names: the registries differ in their order, and in no verdict. -/
theorem verdicts_ignore_order_new_names :
    let mark : Request := .pattern "mark" [0x4D, 0x4B]
    let pack : Request := .signature ⟨"pack", [[0x50], [0x4D]], .packer⟩
    ∃ r r' s s', empty.submit mark = .ok r ∧ r.submit pack = .ok r' ∧
      empty.submit pack = .ok s ∧ s.submit mark = .ok s' ∧ r' ≠ s' ∧ SameVerdicts r' s' := by
  intro mark pack
  obtain ⟨s, s', hs, hs', hv⟩ := (verdicts_ignore_order ⟨false, []⟩).1 mark pack _ _
    (by decide) (submit_of_valid _ (by decide)) (submit_of_valid _ (by decide))
  refine ⟨_, _, s, s', submit_of_valid _ (by decide), submit_of_valid _ (by decide), hs, hs', ?_, hv⟩
  obtain ⟨-, rfl⟩ := submit_eq_ok_iff.mp hs
  obtain ⟨-, rfl⟩ := submit_eq_ok_iff.mp hs'
  decide

end History
end Triage.Registry
