import Triage.Session

/-! What outside programs can change in a report. Each of their failures, from a missing file to a
signal, ends in the two parts that need them, and success there means that all of them exited with
zero. -/
namespace Triage
variable {ω : Type} {host : Host ω}

namespace Host

/-- The program can be started, ends in time and exits with zero. -/
def Succeeds (h : Host ω) (c : Command) (w : ω) : Prop :=
  ∃ r, (h.run c w).1 = .finished r ∧ r.exitCode = some 0

theorem runTool_cases (h : Host ω) (c : Command) (w : ω) :
    (∃ out, h.runTool c w = (.ok out, (h.run c w).2) ∧ (out.success = true ↔ h.Succeeds c w)) ∨
    ∃ e, h.runTool c w = (.error e, (h.run c w).2) ∧ ¬ h.Succeeds c w := by
  cases hr : h.run c w with
  | mk ending w' =>
    cases ending with
    | finished r =>
      refine Or.inl ⟨.ofCompletion r, by rw [runTool, hr], ?_⟩
      simp [Succeeds, hr, ToolOutput.success, ToolOutput.ofCompletion]
    | _ => exact Or.inr ⟨_, by rw [runTool, hr], by simp [Succeeds, hr]⟩

end Host

namespace Decompiler

def radare2Probe (tools : ToolConfig) : Command :=
  ⟨tools.radare2, ["-v"], .ofSecs tools.probeTimeoutSecs.toNat⟩

def radare2Run (tools : ToolConfig) (path : String) (address : Option UInt64) : Command :=
  ⟨tools.radare2, commandArgs path address, .ofSecs tools.decompileTimeoutSecs.toNat⟩

theorem probe_radare2 (host : Host ω) (tools : ToolConfig) (w : ω) : ∃ v,
    probe host .radare2 tools w = (v, (host.run (radare2Probe tools) w).2) ∧
    (v = true ↔ host.Succeeds (radare2Probe tools) w) := by
  obtain ⟨out, hr, hs⟩ | ⟨e, hr, hs⟩ := host.runTool_cases (radare2Probe tools) w
  · exact ⟨out.success, by rw [probe, versionOk, ← radare2Probe, hr], hs⟩
  · exact ⟨false, by rw [probe, versionOk, ← radare2Probe, hr], by simp [hs]⟩

theorem runRadare2_success (tools : ToolConfig) (path : String) (address : Option UInt64) (w : ω) :
    (runRadare2 host tools path address w).1.success = true ↔
      host.Succeeds (radare2Run tools path address) w := by
  obtain ⟨out, hr, hs⟩ | ⟨e, hr, hs⟩ := host.runTool_cases (radare2Run tools path address) w
  · rw [runRadare2, ← radare2Run, hr]
    exact hs
  · rw [runRadare2, ← radare2Run, hr]
    simp [Decompiled.failure, hs]

/-- What becomes of a first request, by the probe that goes before it. -/
theorem decompile_unprobed (host : Host ω) (kind : DecompilerKind) (tools : ToolConfig)
    (path : String) (address : Option UInt64) (w : ω) :
    (decompile host { kind, tools } path address w).1 =
      if (probe host kind tools w).1 then
        match kind with
        | .radare2 => .ok (runRadare2 host tools path address (probe host kind tools w).2).1
        | k => .error (.notImplemented s!"{k.name} decompilation")
      else .error (.backendUnavailable kind.name) := by
  simp only [decompile, available]
  cases probe host kind tools w with
  | mk v w' => cases v <;> cases kind <;> rfl

end Decompiler

namespace Unpack

theorem runUpx_success (tools : ToolConfig) (input output : String) (w : ω) :
    (runUpx host tools input output w).1.success = true ↔
      host.Succeeds (upxCommand tools input output) w := by
  obtain ⟨out, hr, hs⟩ | ⟨e, hr, hs⟩ := host.runTool_cases (upxCommand tools input output) w
  · rw [← hs, runUpx, hr]
    cases ho : out.success <;> simp [ho, UnpackOutcome.failed]
  · rw [runUpx, hr]
    simp [UnpackOutcome.failed, hs]

end Unpack

namespace Session

theorem decompile_success_iff (s : Session) (kind : DecompilerKind) (address : Option UInt64)
    (w : ω) : (s.decompile host kind address w).1.success = true ↔
      ∃ path, s.image.source = some path ∧ kind = .radare2 ∧
        host.Succeeds (Decompiler.radare2Probe s.config.tools) w ∧
        host.Succeeds (Decompiler.radare2Run s.config.tools path address)
          (host.run (Decompiler.radare2Probe s.config.tools) w).2 := by
  cases hp : s.image.source with
  | none => simp [decompile, hp, Decompiled.failure]
  | some path =>
    have hd := Decompiler.decompile_unprobed host kind s.config.tools path address w
    have he : (s.decompile host kind address w).1 =
        match (Decompiler.decompile host { kind, tools := s.config.tools } path address w).1 with
        | .ok r => r
        | .error e => .failure e.message := by
      simp only [decompile, hp]
      split <;> simp [*]
    rw [he, hd]
    cases kind with
    | radare2 =>
      obtain ⟨v, hv, hs⟩ := Decompiler.probe_radare2 host s.config.tools w
      rw [hv]
      cases v with
      | false =>
        have hn : ¬ host.Succeeds (Decompiler.radare2Probe s.config.tools) w := by simp [← hs]
        simp [Decompiled.failure, hn]
      | true =>
        have hy : host.Succeeds (Decompiler.radare2Probe s.config.tools) w := hs.mp rfl
        simp [Decompiler.runRadare2_success, hy]
    | ghidra =>
      cases (Decompiler.probe host .ghidra s.config.tools w).1 <;> simp [Decompiled.failure]
    | ida =>
      cases (Decompiler.probe host .ida s.config.tools w).1 <;> simp [Decompiled.failure]

theorem unpack_success_iff (s : Session) (packer : Option Packer) (output : Option String) (w : ω) :
    (s.unpack host packer output w).1.success = true ↔
      ∃ path, s.image.source = some path ∧ s.inspect.packer = some .upx ∧
        host.Succeeds (Unpack.upxCommand s.config.tools path
          (output.getD (Unpack.defaultOutput path))) w := by
  have hi : s.inspect.packer = Packer.detect s.registry s.image.bytes := rfl
  rw [hi]
  cases hd : Packer.detect s.registry s.image.bytes with
  | none => simp [unpack, Unpack.image, hd, UnpackOutcome.failed]
  | some p =>
    cases hp : s.image.source with
    | none => simp [unpack, Unpack.image, hd, hp, UnpackOutcome.failed]
    | some path =>
      cases p with
      | upx => simp [unpack, Unpack.image, hd, hp, Packer.strategy, Unpack.runUpx_success]
      | _ => simp [unpack, Unpack.image, hd, hp, Packer.strategy, UnpackOutcome.failed]

/-- The steps of an analysis one after the other; unpacking finds what decompiling has left. -/
theorem analyze_eq (s : Session) (o : SessionOptions) (w : ω) :
    (s.analyze host o w).1 = { s.inspect with
      decompile := o.decompiler.map fun kind => (s.decompile host kind o.address w).1
      unpack := if o.unpack then
          some (s.unpack host s.inspect.packer o.unpackOutput
            (s.analyze host { o with unpack := false } w).2).1
        else none } := by
  simp only [analyze]
  cases o.decompiler <;> cases o.unpack <;> rfl

/-- Whatever outside programs do, there is a report. It has the parts that were asked for, it differs
from one without them in nothing else, and each part says that it succeeded exactly if it had a file
and a tool for it, and each program that it had to run exited with zero. -/
theorem analyze_records_outcomes (host : Host ω) (s : Session) (o : SessionOptions) (w : ω) :
    let report := (s.analyze host o w).1
    let tools := s.config.tools
    (report.decompile.isSome ↔ o.decompiler.isSome) ∧ (report.unpack.isSome ↔ o.unpack = true) ∧
    (∀ w', { report with decompile := none, unpack := none } = (s.analyze host {} w').1) ∧
    (∀ d, report.decompile = some d → (d.success = true ↔
      ∃ path, s.image.source = some path ∧ o.decompiler = some .radare2 ∧
        host.Succeeds (Decompiler.radare2Probe tools) w ∧
        host.Succeeds (Decompiler.radare2Run tools path o.address)
          (host.run (Decompiler.radare2Probe tools) w).2)) ∧
    ∀ u, report.unpack = some u → (u.success = true ↔
      ∃ path, s.image.source = some path ∧ report.packer = some .upx ∧
        host.Succeeds
          (Unpack.upxCommand tools path (o.unpackOutput.getD (Unpack.defaultOutput path)))
          (s.analyze host { o with unpack := false } w).2) := by
  intro report tools
  have hr : report = _ := analyze_eq s o w
  refine ⟨?_, ?_, ?_, ?_, ?_⟩
  · rw [hr, Option.isSome_map]
  · rw [hr]
    cases o.unpack <;> simp
  · intro w'
    rw [hr, analyze_eq]
    rfl
  · intro d hd
    rw [hr, Option.map_eq_some_iff] at hd
    obtain ⟨kind, hk, rfl⟩ := hd
    rw [decompile_success_iff, hk, Option.some.injEq]
  · intro u hu
    have hp : report.packer = s.inspect.packer := by rw [hr]
    rw [hr] at hu
    cases ho : o.unpack with
    | false => simp [ho] at hu
    | true =>
      simp only [ho, if_true, Option.some.injEq] at hu
      rw [← hu, unpack_success_iff, hp]

end Session
end Triage
