import Mathlib.Data.List.Forall2
import Triage.Proofs.AnalysisOutcome

/-! A decompiler is probed for its first request, and all later ones rest on what was found then. The
surroundings may be others at each request: other programs, other files, other variables. -/
namespace Triage
variable {ω : Type}

namespace Host

/-- Notes each program that is started, behind those of the list it is given. -/
def watched (h : Host ω) : Host (ω × List Command) where
  env w := h.env w.1
  fileSize w := h.fileSize w.1
  readFile w := h.readFile w.1
  isFile w := h.isFile w.1
  run c w := ((h.run c w.1).1, (h.run c w.1).2, w.2 ++ [c])

/-- The same programs, and nothing that could be looked up. -/
def blind (h : Host ω) : Host ω where
  env _ _ := none
  fileSize _ _ := .error .noEntry
  readFile _ _ := .error .noEntry
  isFile _ _ := false
  run := h.run

theorem runTool_watched (h : Host ω) (c : Command) (w : ω) (log : List Command) :
    h.watched.runTool c (w, log) = ((h.runTool c w).1, (h.runTool c w).2, log ++ [c]) := by
  simp only [runTool, watched]
  cases h.run c w with
  | mk ending w' => cases ending <;> rfl

end Host

namespace Decompiler

inductive Request where
  | available
  | decompile (path : String) (address : Option UInt64)
  | analyze (path : String)

inductive Answer where
  | available (verdict : Bool)
  | decompiled (r : Result Decompiled)
  | analyzed (r : Result BinaryStructure)

/-- A request and the surroundings at that time, which need not be what the last one left. -/
structure Visit (ω : Type) where
  host : Host ω
  world : ω
  request : Request

def Visit.watched (v : Visit ω) : Visit (ω × List Command) :=
  ⟨v.host.watched, (v.world, []), v.request⟩

def Visit.blind (v : Visit ω) : Visit ω := { v with host := v.host.blind }

def perform (d : Decompiler) (v : Visit ω) : Answer × Decompiler × ω :=
  match v.request with
  | .available =>
    let (found, d, w) := d.available v.host v.world
    (.available found, d, w)
  | .decompile path address =>
    let (r, d, w) := d.decompile v.host path address v.world
    (.decompiled r, d, w)
  | .analyze path =>
    let (r, d, w) := d.analyzeBinary v.host path v.world
    (.analyzed r, d, w)

def answers (d : Decompiler) : List (Visit ω) → List Answer
  | [] => []
  | v :: vs => (d.perform v).1 :: (d.perform v).2.1.answers vs

/-- The programs that are started on the way, first to last. -/
def started (d : Decompiler) : List (Visit ω) → List Command
  | [] => []
  | v :: vs => (d.perform v.watched).2.2.2 ++ (d.perform v.watched).2.1.started vs

/-- A decompiler that has been probed. -/
def probed (kind : DecompilerKind) (tools : ToolConfig) (verdict : Bool) : Decompiler :=
  ⟨kind, tools, some verdict⟩

section
variable (kind : DecompilerKind) (tools : ToolConfig) (verdict : Bool)

/-- The question for its version by which a program is probed, if there is a program to ask. -/
def question? (env : String → Option String) : Option Command :=
  match kind with
  | .radare2 => some (radare2Probe tools)
  | .ghidra => (tools.ghidra env).map fun program =>
    ⟨program, ["-version"], .ofSecs tools.probeTimeoutSecs.toNat⟩
  | .ida => none

/-- The program that a request needs. -/
def Request.command? : Request → Option Command
  | .decompile path address => if kind = .radare2 then some (radare2Run tools path address) else none
  | _ => none

/-- The answers that go with what the probe has found. -/
def Request.Suits : Request → Answer → Prop
  | .available, .available found => found = verdict
  | .decompile _ _, .decompiled r =>
    (r = .error (.backendUnavailable kind.name) ↔ verdict = false) ∧
    (r = .error (.notImplemented s!"{kind.name} decompilation") ↔
      verdict = true ∧ (kind = .ghidra ∨ kind = .ida)) ∧
    ((∃ d, r = .ok d) ↔ verdict = true ∧ kind = .radare2)
  | .analyze _, .analyzed r =>
    (r = .error (.backendUnavailable kind.name) ↔ verdict = false) ∧
    ((∃ b, r = .ok b) ↔ verdict = true)
  | _, _ => False

/-- A first request is a probe, and then the same request to a decompiler that has been probed. -/
theorem perform_unprobed (v : Visit ω) :
    ({ kind, tools } : Decompiler).perform v =
      (probed kind tools (probe v.host kind tools v.world).1).perform
        { v with world := (probe v.host kind tools v.world).2 } := by
  obtain ⟨host, world, request⟩ := v
  cases request <;> rfl

theorem probe_watched (host : Host ω) (w : ω) (log : List Command) :
    probe host.watched kind tools (w, log) =
      ((probe host kind tools w).1, (probe host kind tools w).2,
        log ++ (question? kind tools (host.env w)).toList) := by
  have hv : ∀ program flag, versionOk host.watched tools program flag (w, log) =
      ((versionOk host tools program flag w).1, (versionOk host tools program flag w).2,
        log ++ [⟨program, [flag], .ofSecs tools.probeTimeoutSecs.toNat⟩]) := by
    intro program flag
    rw [versionOk, versionOk, Host.runTool_watched]
    cases host.runTool _ w with
    | mk r w' => cases r <;> rfl
  cases kind with
  | radare2 => exact hv _ _
  | ghidra =>
    have he : host.watched.env (w, log) = host.env w := rfl
    simp only [probe, question?, he]
    cases tools.ghidra (host.env w) with
    | none => simp
    | some program => exact hv _ _
  | ida =>
    -- a look at the files, which starts nothing
    rw [question?, Option.toList_none, List.append_nil]
    rfl

theorem probed_state (v : Visit ω) :
    ((probed kind tools verdict).perform v).2.1 = probed kind tools verdict := by
  obtain ⟨host, world, request⟩ := v
  cases request <;> cases verdict <;> cases kind <;> rfl

theorem probed_suits (v : Visit ω) :
    v.request.Suits kind verdict ((probed kind tools verdict).perform v).1 := by
  obtain ⟨host, world, request⟩ := v
  cases request with
  | available => rfl
  | decompile path address =>
    cases verdict <;> cases kind <;>
      simp [Request.Suits, perform, decompile, available, probed]
  | analyze path =>
    cases verdict <;> simp [Request.Suits, perform, analyzeBinary, available, probed]

theorem probed_blind (v : Visit ω) :
    (probed kind tools verdict).perform v.blind = (probed kind tools verdict).perform v := by
  obtain ⟨host, world, request⟩ := v
  cases request <;> cases verdict <;> cases kind <;> rfl

theorem probed_watched (host : Host ω) (w : ω) (log : List Command) (request : Request) :
    (probed kind tools verdict).perform ⟨host.watched, (w, log), request⟩ =
      let out := (probed kind tools verdict).perform ⟨host, w, request⟩
      (out.1, out.2.1, out.2.2,
        log ++ if verdict then (request.command? kind tools).toList else []) := by
  cases request with
  | available => simp [perform, available, probed, Request.command?]
  | decompile path address =>
    cases verdict with
    | false => simp [perform, decompile, available, probed]
    | true =>
      cases kind with
      | radare2 =>
        -- however the program ends, it has been started once
        simp only [perform, decompile, available, probed, runRadare2, Host.runTool_watched]
        rw [← radare2Run]
        cases host.runTool (radare2Run tools path address) w with
        | mk r w' => cases r <;> rfl
      | _ => simp [perform, decompile, available, probed, Request.command?]
  | analyze path =>
    cases verdict <;> simp [perform, analyzeBinary, available, probed, Request.command?]

theorem probed_answers_suit (vs : List (Visit ω)) :
    List.Forall₂ (fun v a => v.request.Suits kind verdict a) vs
      ((probed kind tools verdict).answers vs) := by
  induction vs with
  | nil => exact .nil
  | cons v vs ih =>
    rw [answers, probed_state]
    exact .cons (probed_suits kind tools verdict v) ih

theorem probed_answers_blind (vs : List (Visit ω)) :
    (probed kind tools verdict).answers (vs.map Visit.blind) =
      (probed kind tools verdict).answers vs := by
  induction vs with
  | nil => rfl
  | cons v vs ih => rw [List.map_cons, answers, answers, probed_blind, probed_state, ih]

theorem probed_answers_watched (vs : List (Visit ω)) :
    (probed kind tools verdict).answers (vs.map Visit.watched) =
      (probed kind tools verdict).answers vs := by
  induction vs with
  | nil => rfl
  | cons v vs ih =>
    rw [List.map_cons, answers, answers, probed_state, probed_state, ih, Visit.watched,
      probed_watched]

theorem commands_cons (v : Visit ω) (vs : List (Visit ω)) :
    (if verdict then (v :: vs).filterMap fun v => v.request.command? kind tools else []) =
      (if verdict then (v.request.command? kind tools).toList else []) ++
        if verdict then vs.filterMap fun v => v.request.command? kind tools else [] := by
  rw [List.filterMap_cons]
  cases verdict with
  | false => rfl
  | true => cases v.request.command? kind tools <;> rfl

theorem probed_started (vs : List (Visit ω)) : (probed kind tools verdict).started vs =
    if verdict then vs.filterMap fun v => v.request.command? kind tools else [] := by
  induction vs with
  | nil => simp [started]
  | cons v vs ih =>
    rw [started, probed_state, ih, Visit.watched, probed_watched, commands_cons]
    rfl

theorem unprobed_state (v : Visit ω) : (({ kind, tools } : Decompiler).perform v).2.1 =
    probed kind tools (probe v.host kind tools v.world).1 := by
  rw [perform_unprobed, probed_state]

theorem unprobed_suits (v : Visit ω) : v.request.Suits kind (probe v.host kind tools v.world).1
    (({ kind, tools } : Decompiler).perform v).1 := by
  rw [perform_unprobed]
  exact probed_suits kind tools _ { v with world := (probe v.host kind tools v.world).2 }

theorem unprobed_watched (v : Visit ω) : ({ kind, tools } : Decompiler).perform v.watched =
    let out := ({ kind, tools } : Decompiler).perform v
    (out.1, out.2.1, out.2.2, (question? kind tools (v.host.env v.world)).toList ++
      if (probe v.host kind tools v.world).1 then (v.request.command? kind tools).toList
      else []) := by
  rw [perform_unprobed, perform_unprobed, Visit.watched, probe_watched, probed_watched]
  rfl

/-- A decompiler asks once for its program, before all that it does with it, and from then on takes
what it has found for granted. Each answer goes with that finding, and nothing is looked up again: the
answers are the same where, after the first request, nothing could be found. -/
theorem requests_rest_on_first_probe (first : Visit ω) (rest : List (Visit ω)) :
    let d : Decompiler := { kind, tools }
    let visits := first :: rest
    let verdict := (probe first.host kind tools first.world).1
    List.Forall₂ (fun v a => v.request.Suits kind verdict a) visits (d.answers visits) ∧
    d.started visits = (question? kind tools (first.host.env first.world)).toList ++
      (if verdict then visits.filterMap fun v => v.request.command? kind tools else []) ∧
    d.answers visits = d.answers (visits.map Visit.watched) ∧
    d.answers visits = d.answers (first :: rest.map Visit.blind) := by
  intro d visits verdict
  have hs : (d.perform first).2.1 = probed kind tools verdict := unprobed_state kind tools first
  have hw : d.perform first.watched = ((d.perform first).1, (d.perform first).2.1, _, _) :=
    unprobed_watched kind tools first
  refine ⟨?_, ?_, ?_, ?_⟩
  · rw [answers, hs]
    exact .cons (unprobed_suits kind tools first) (probed_answers_suit kind tools verdict rest)
  · rw [started, hw, hs, probed_started, commands_cons, List.append_assoc]
  · rw [List.map_cons, answers, answers, hw, hs, probed_answers_watched]
  · rw [answers, answers, hs, probed_answers_blind]

end
end Decompiler
end Triage
