import Triage.Proofs.DecompilerVerdict

/-! When unpacking starts a program, with which words, and what its outcome tells of it. -/
namespace Triage.Unpack
variable {ω : Type}

/-- The place that was asked for, else one beside the source. -/
def target (output : Option String) (source : String) : String :=
  output.getD (defaultOutput source)

/-- The program that an image needs, if there is one for its packer. -/
def command? (tools : ToolConfig) (r : Registry) (i : Image) (output : Option String) :
    Option Command :=
  if Packer.detect r i.bytes = some .upx then
    i.source.map fun source => upxCommand tools source (target output source)
  else none

section
variable (host : Host ω) (tools : ToolConfig)

theorem runUpx_watched (input output : String) (w : ω) (log : List Command) :
    runUpx host.watched tools input output (w, log) =
      ((runUpx host tools input output w).1, (runUpx host tools input output w).2,
        log ++ [upxCommand tools input output]) := by
  simp only [runUpx, Host.runTool_watched]
  cases host.runTool (upxCommand tools input output) w with
  | mk result w' =>
    cases result with
    | error e => rfl
    | ok out => cases h : out.success <;> simp [h]

/-- The outcome names a file exactly if the program has exited with zero. -/
theorem runUpx_cases (input output : String) (w : ω) :
    (host.Succeeds (upxCommand tools input output) w ∧
      ∃ message, (runUpx host tools input output w).1 = ⟨some .upx, true, some output, message⟩) ∨
    (¬ host.Succeeds (upxCommand tools input output) w ∧
      ∃ message, (runUpx host tools input output w).1 = .failed (some .upx) message) := by
  obtain ⟨out, hr, hs⟩ | ⟨e, hr, hs⟩ := host.runTool_cases (upxCommand tools input output) w
  · rw [runUpx, hr, ← hs]
    cases h : out.success with
    | true => exact Or.inl ⟨rfl, Text.trim out.stdout, by simp [h]⟩
    | false =>
      simp only [h, Bool.false_eq_true, if_false]
      exact Or.inr ⟨not_false, _, rfl⟩
  · rw [runUpx, hr]
    exact Or.inr ⟨hs, _, rfl⟩

variable (r : Registry) (i : Image) (output : Option String) (w : ω)

theorem image_watched (log : List Command) :
    image host.watched tools r i output (w, log) =
      ((image host tools r i output w).1, (image host tools r i output w).2,
        log ++ (command? tools r i output).toList) := by
  cases hd : Packer.detect r i.bytes with
  | none => simp [image, command?, hd]
  | some p =>
    cases hi : i.source with
    | none => simp [image, command?, hd, hi]
    | some source =>
      cases p with
      | upx => simp [image, command?, hd, hi, Packer.strategy, runUpx_watched, target]
      | _ => simp [image, command?, hd, hi, Packer.strategy]

theorem isSome_command? : (command? tools r i output).isSome ↔
    Packer.detect r i.bytes = some .upx ∧ i.source.isSome := by
  rw [command?]
  split <;> simp [*]

theorem eq_of_command? {c : Command} (h : command? tools r i output = some c) :
    ∃ source, i.source = some source ∧ c = upxCommand tools source (target output source) := by
  rw [command?] at h
  split at h
  · obtain ⟨source, hi, hc⟩ := Option.map_eq_some_iff.mp h
    exact ⟨source, hi, hc.symm⟩
  · cases h

/-- All that unpacking can come to: no file to read from, a program, or a failure without one. -/
theorem image_cases :
    (((Packer.detect r i.bytes).isSome ∧ i.source = none) ∧
      ∃ e, (image host tools r i output w).1 = .error e) ∨
    (¬ ((Packer.detect r i.bytes).isSome ∧ i.source = none) ∧ ∃ source, i.source = some source ∧
      command? tools r i output = some (upxCommand tools source (target output source)) ∧
      (image host tools r i output w).1 =
        .ok (runUpx host tools source (target output source) w).1) ∨
    (¬ ((Packer.detect r i.bytes).isSome ∧ i.source = none) ∧ command? tools r i output = none ∧
      ∃ packer message, (image host tools r i output w).1 = .ok (.failed packer message)) := by
  cases hd : Packer.detect r i.bytes with
  | none => simp [image, command?, hd]
  | some p =>
    cases hi : i.source with
    | none => simp [image, command?, hd, hi]
    | some source =>
      cases p with
      | upx => simp [image, command?, hd, hi, Packer.strategy, target]
      | _ => simp [image, command?, hd, hi, Packer.strategy]

theorem image_error_iff : (∃ e, (image host tools r i output w).1 = .error e) ↔
    (Packer.detect r i.bytes).isSome ∧ i.source = none := by
  obtain ⟨hp, he⟩ | ⟨hp, source, -, -, hr⟩ | ⟨hp, -, packer, message, hr⟩ :=
    image_cases host tools r i output w
  · exact ⟨fun _ => hp, fun _ => he⟩
  · simp [hr, hp]
  · simp [hr, hp]

/-- A file is named exactly if a program was needed and exited with zero. -/
theorem image_outcome {o : UnpackOutcome} (h : (image host tools r i output w).1 = .ok o) :
    (∃ source, i.source = some source ∧ o.success = true ∧ o.packer = some .upx ∧
      o.outputPath = some (target output source) ∧
      command? tools r i output = some (upxCommand tools source (target output source)) ∧
      host.Succeeds (upxCommand tools source (target output source)) w) ∨
    (o.success = false ∧ o.outputPath = none ∧
      ∀ c, command? tools r i output = some c → ¬ host.Succeeds c w) := by
  obtain ⟨-, e, hr⟩ | ⟨-, source, hi, hc, hr⟩ | ⟨-, hc, packer, message, hr⟩ :=
    image_cases host tools r i output w
  · rw [hr] at h
    cases h
  · rw [hr] at h
    obtain ⟨hs, message, hu⟩ | ⟨hs, message, hu⟩ :=
      runUpx_cases host tools source (target output source) w
    · rw [hu] at h
      cases h
      exact Or.inl ⟨source, hi, rfl, rfl, rfl, hc, hs⟩
    · rw [hu] at h
      cases h
      refine Or.inr ⟨rfl, rfl, ?_⟩
      intro c h
      rw [hc] at h
      cases h
      exact hs
  · rw [hr] at h
    cases h
    exact Or.inr ⟨rfl, rfl, by simp [hc]⟩

end

/-- A program is started at most once: for an image whose packer it can undo and that came from a
file. Only a packed image without a file is an error. Each other outcome tells of success exactly if
it names a file, and then the file is the target, and the program was started and exited with zero. -/
theorem image_starts_and_reports (host : Host ω) (tools : ToolConfig) (r : Registry) (i : Image)
    (output : Option String) (w : ω) :
    let result := (image host tools r i output w).1
    let started := (image host.watched tools r i output (w, [])).2.2
    (image host.watched tools r i output (w, [])).1 = result ∧
    started.length ≤ 1 ∧
    (started ≠ [] ↔ Packer.detect r i.bytes = some .upx ∧ i.source.isSome) ∧
    (∀ c ∈ started, ∃ source, i.source = some source ∧ c.program = tools.upx ∧
      c.args = ["-d", source, "-o", target output source]) ∧
    ((∃ e, result = .error e) ↔ (Packer.detect r i.bytes).isSome ∧ i.source = none) ∧
    ∀ o, result = .ok o →
      (o.success = true ↔ o.outputPath.isSome) ∧
      (o.success = true ↔ ∃ c ∈ started, host.Succeeds c w) ∧
      ∀ path, o.outputPath = some path → o.packer = some .upx ∧
        ∃ source, i.source = some source ∧ path = target output source ∧
          host.Succeeds (upxCommand tools source path) w := by
  intro result started
  have hw := image_watched host tools r i output w []
  have hs : started = (command? tools r i output).toList := by
    show (image host.watched tools r i output (w, [])).2.2 = _
    rw [hw, List.nil_append]
  rw [hs]
  refine ⟨by rw [hw], Option.length_toList_le, ?_, ?_, image_error_iff host tools r i output w, ?_⟩
  · rw [← isSome_command? tools r i output]
    cases command? tools r i output <;> simp
  · intro c hc
    obtain ⟨source, hi, rfl⟩ := eq_of_command? tools r i output (Option.mem_toList.mp hc)
    exact ⟨source, hi, rfl, rfl⟩
  · intro o ho
    obtain ⟨source, hi, hok, hp, hpath, hc, hz⟩ | ⟨hok, hpath, hn⟩ :=
      image_outcome host tools r i output w ho
    · refine ⟨by simp [hok, hpath], by simp [hok, hc, hz], ?_⟩
      intro path h
      rw [hpath] at h
      cases h
      exact ⟨hp, source, hi, rfl, hz⟩
    · refine ⟨by simp [hok, hpath], by simpa [hok] using hn, ?_⟩
      intro path h
      rw [hpath] at h
      cases h

end Triage.Unpack
