import Triage.Proofs.AnalysisOutcome
import Triage.Proofs.Detection

/-! The parts of a report, each found by a search of its own, tell one story. Outside programs may
do anything. -/
namespace Triage
variable {r : Registry} {data : Bytes}

/-- The packer is looked for by name, without the list of hits. -/
theorem Packer.detect_eq_find?_keys (h : r.Sound) : Packer.detect r data =
    Packer.priority.find? fun p => p.name ∈ (r.findAll data).map Prod.fst := by
  have hp : (fun p : Packer => r.occursIn p.name data) =
      fun p => decide (p.name ∈ (r.findAll data).map Prod.fst) := by
    funext p
    rw [Bool.eq_iff_iff, decide_eq_true_iff, h.occursIn_iff_hitAt, h.mem_keys_findAll]
  rw [detect, hp]

theorem AntiDebug.isPacked_iff (h : r.Sound) : isPacked r data = true ↔
    ∃ n ∈ (r.findAll data).map Prod.fst, ∃ s, r.get? n = some s ∧ s.category = .packer := by
  have hne : isPacked r data = true ↔ r.matching .packer data ≠ [] := by simp [isPacked]
  rw [hne, h.matching_eq]
  constructor
  · intro hm
    obtain ⟨n, hn⟩ := List.exists_mem_of_ne_nil _ hm
    rw [List.mem_filter, decide_eq_true_iff, Option.map_eq_some_iff] at hn
    exact ⟨n, hn.1, hn.2⟩
  · rintro ⟨n, hn, hs⟩
    apply List.ne_nil_of_mem (a := n)
    rw [List.mem_filter, decide_eq_true_iff, Option.map_eq_some_iff]
    exact ⟨hn, hs⟩

namespace Unpack
variable {ω : Type} {host : Host ω} {tools : ToolConfig} {w : ω}

theorem runUpx_packer (input output : String) :
    (runUpx host tools input output w).1.packer = some .upx := by
  rw [runUpx]
  split
  · split <;> rfl
  · rfl

theorem image_packer {i : Image} {output : Option String} {u : UnpackOutcome}
    (h : (image host tools r i output w).1 = .ok u) : u.packer = Packer.detect r i.bytes := by
  cases hd : Packer.detect r i.bytes with
  | none =>
    simp only [image, hd, Except.ok.injEq] at h
    rw [← h]
    rfl
  | some p =>
    cases hs : i.source with
    | none => simp [image, hd, hs] at h
    | some input =>
      simp only [image, hd, hs] at h
      split at h
      · rename_i hp
        have hu : p = .upx := by
          cases p with
          | upx => rfl
          | _ => cases hp
        simp only [Except.ok.injEq] at h
        rw [← h, runUpx_packer, hu]
      · simp only [Except.ok.injEq] at h
        rw [← h]
        rfl

end Unpack

namespace Session
variable {ω : Type} {host : Host ω}

/-- Nothing that an outside program does reaches the other parts. -/
theorem analyze_report (s : Session) (o : SessionOptions) (w : ω) : ∃ d w',
    (s.analyze host o w).1 = { s.inspect with
      decompile := d
      unpack := if o.unpack then some (s.unpack host s.inspect.packer o.unpackOutput w').1
        else none } :=
  ⟨_, _, analyze_eq s o w⟩

theorem unpack_packer (s : Session) (output : Option String) (w : ω) :
    (s.unpack host s.inspect.packer output w).1.packer = s.inspect.packer := by
  rw [unpack]
  split
  · rename_i u _ h
    exact Unpack.image_packer (congrArg Prod.fst h)
  · rfl

/-- The packer of a report is the first one of the order among the names that were found, the image
counts as packed when one of these names is registered for a packer, and an unpacking was of the
packer that the report names. -/
theorem analyze_parts_agree (host : Host ω) (image : Image) (config : Config)
    (h : Registry.History) (o : SessionOptions) (w : ω) :
    let report := (Session.analyze host ⟨image, config, h.registry⟩ o w).1
    (report.packer =
      Packer.priority.find? fun p => p.name ∈ report.signatures.map Prod.fst) ∧
    (report.antiDebug.packed = true ↔ ∃ n ∈ report.signatures.map Prod.fst,
      ∃ s, h.registry.get? n = some s ∧ s.category = .packer) ∧
    ∀ u, report.unpack = some u → u.packer = report.packer := by
  intro report
  have hr : ∃ d w', report = _ := analyze_report ⟨image, config, h.registry⟩ o w
  obtain ⟨d, w', he⟩ := hr
  rw [he]
  refine ⟨Packer.detect_eq_find?_keys h.sound, AntiDebug.isPacked_iff h.sound, ?_⟩
  intro u hu
  split at hu
  · rw [← Option.some.inj hu]
    exact unpack_packer _ _ _
  · cases hu

end Session
end Triage
