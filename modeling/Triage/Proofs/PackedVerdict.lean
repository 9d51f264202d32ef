import Triage.Proofs.RegistryEntries
import Triage.Proofs.ReportCoherence

/-! Whether an image is packed goes by the categories of what is found in it, and by which packer
goes by names. The two agree as long as the names of the category are those of the packers, and a
registry that starts from the built-in signatures and is given only patterns stays so. -/
namespace Triage
namespace Registry
variable {r r' : Registry} {c : Category} {data : Bytes}

/-- Names of the signatures of a category, in their order. -/
def namesIn (r : Registry) (c : Category) : List String := (r.inCategory c).map Signature.name

/-- A replaced entry keeps its category, and a new one is in no category but `custom`. -/
theorem Takes.namesIn_pattern {n : String} {p : Bytes} (t : Takes r (.pattern n p) r')
    (hc : c ≠ .custom) : r'.namesIn c = r.namesIn c := by
  cases t with
  | newPattern hn =>
    have hne : (Category.custom == c) = false := by simpa using Ne.symm hc
    simp [namesIn, inCategory, hne]
  | @knownPattern _ _ front back old hr hn =>
    by_cases ho : old.category = c
    · simp [namesIn, inCategory, hr, ho, hn]
    · simp [namesIn, inCategory, hr, ho]

theorem Sound.namesIn_after_pattern (h : r.Sound) (hc : c ≠ .custom) (n : String) (p : Bytes) :
    (r.after (.pattern n p)).namesIn c = r.namesIn c := by
  by_cases hq : (Request.pattern n p).Valid
  · exact (h.takes_after hq).namesIn_pattern hc
  · rw [after_eq, if_neg hq]

theorem Sound.namesIn_foldl_patterns (h : r.Sound) (hc : c ≠ .custom)
    (patterns : List (String × Bytes)) :
    ((patterns.map fun e => Request.pattern e.1 e.2).foldl Registry.after r).namesIn c =
      r.namesIn c := by
  induction patterns generalizing r with
  | nil => rfl
  | cons e patterns ih =>
    rw [List.map_cons, List.foldl_cons, ih (h.after _), h.namesIn_after_pattern hc]

theorem Sound.matching_eq_filter (h : r.Sound) (c : Category) (data : Bytes) :
    r.matching c data = (r.namesIn c).filter fun n => r.occursIn n data := by
  rw [namesIn, List.filter_map, matching]
  congr 1
  apply List.filter_congr
  intro s hs
  exact (h.occursIn_name (List.mem_filter.mp hs).1).symm

namespace History

/-- The built-in signatures, and then patterns by name only. -/
def ofPatterns (patterns : List (String × Bytes)) : History :=
  ⟨true, patterns.map fun e => .pattern e.1 e.2⟩

/-- Patterns may be given for the packers' names too: these names stay where they are. -/
theorem namesIn_ofPatterns (patterns : List (String × Bytes)) :
    (ofPatterns patterns).registry.namesIn .packer = Packer.priority.map Packer.name := by
  have hb : builtin.namesIn .packer = Packer.priority.map Packer.name := by decide
  have hf := sound_builtin.namesIn_foldl_patterns (c := .packer) (by decide) patterns
  exact hf.trans hb

end History
end Registry

variable {r : Registry} {data : Bytes}

theorem AntiDebug.isPacked_iff_namesIn (h : r.Sound) : isPacked r data = true ↔
    ∃ n ∈ r.namesIn .packer, r.occursIn n data = true := by
  simp [isPacked, h.matching_eq_filter]

theorem Packer.exists_detect_iff : (∃ p, detect r data = some p) ↔
    ∃ p ∈ priority, r.occursIn p.name data = true := by
  rw [← Option.isSome_iff_exists, detect, List.find?_isSome]

theorem AntiDebug.isPacked_iff_detect (h : r.Sound)
    (hn : r.namesIn .packer = Packer.priority.map Packer.name) :
    isPacked r data = true ↔ ∃ p, Packer.detect r data = some p := by
  rw [isPacked_iff_namesIn h, hn, Packer.exists_detect_iff]
  constructor
  · intro ⟨n, hm, ho⟩
    obtain ⟨p, hp, rfl⟩ := List.mem_map.mp hm
    exact ⟨p, hp, ho⟩
  · intro ⟨p, hp, ho⟩
    exact ⟨p.name, List.mem_map_of_mem hp, ho⟩

/-- Whatever patterns are added to the built-in signatures, an image counts as packed exactly when
a packer is found, and so does every report on one. -/
theorem Session.packed_iff_packer (patterns : List (String × Bytes)) :
    let r := (Registry.History.ofPatterns patterns).registry
    (∀ data, AntiDebug.isPacked r data = true ↔ ∃ p, Packer.detect r data = some p) ∧
    ∀ (ω : Type) (host : Host ω) (image : Image) (config : Config) (o : SessionOptions) (w : ω),
      let report := (Session.analyze host ⟨image, config, r⟩ o w).1
      report.antiDebug.packed = true ↔ ∃ p, report.packer = some p := by
  intro r
  have hd (data : Bytes) : AntiDebug.isPacked r data = true ↔ ∃ p, Packer.detect r data = some p :=
    AntiDebug.isPacked_iff_detect (Registry.History.sound _)
      (Registry.History.namesIn_ofPatterns patterns)
  refine ⟨hd, ?_⟩
  intro ω host image config o w report
  have hr : ∃ d w', report = _ := analyze_report ⟨image, config, r⟩ o w
  obtain ⟨d, w', he⟩ := hr
  rw [he]
  exact hd image.bytes

end Triage
