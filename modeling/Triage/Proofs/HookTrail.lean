import Triage.Hook.Table

/-! What each operation on a table of hooks can do, and the tables through which a run of a script
takes it: one after each operation, also of the handlers that are called on the way, to any depth.
A caller of the table is a script like a handler: what it does next may hang on all answers so
far. -/
namespace Triage.Hooks
variable {μ σ : Type}

/-- The table changes only if the backend takes the target, the backend only if it was asked. -/
theorem hook_cases (h : Hooks μ σ) (t : Target) (handler : Handler μ) :
    (∃ e, h.hook t handler = (.error e, h)) ∨
    ∃ b s, h.backend = some b ∧
      ((∃ e, b.install t h.state = (.error e, s) ∧
        h.hook t handler = (.error e, { h with state := s })) ∨
      (b.install t h.state = (.ok (), s) ∧ h.hook t handler =
        (.ok (), { h with
          state := s
          entries := Keyed.put HookEntry.key ⟨t, handler⟩ h.entries }))) := by
  cases hb : h.backend with
  | none => exact Or.inl ⟨_, by rw [hook, hb]⟩
  | some b =>
    by_cases hn : (t.library.isEmpty || t.function.isEmpty) = true
    · exact Or.inl ⟨_, by simp only [hook, hb, hn]; rfl⟩
    · right
      refine ⟨b, (b.install t h.state).2, rfl, ?_⟩
      cases hi : b.install t h.state with
      | mk out s =>
        cases out with
        | error e => exact Or.inl ⟨e, rfl, by simp [hook, hb, hn, hi]⟩
        | ok u => exact Or.inr ⟨rfl, by simp [hook, hb, hn, hi]⟩

/-- The backend is told of the target that was hooked, which need not be the one that is named. -/
theorem unhook_cases (h : Hooks μ σ) (t : Target) :
    (h.find? t = none ∧ h.unhook t = (false, h)) ∨
    ∃ e, h.find? t = some e ∧ h.unhook t = (true, { h with
      state := (h.release e.target).state
      entries := Keyed.erase HookEntry.key t.key h.entries }) := by
  cases he : h.find? t with
  | none => exact Or.inl ⟨rfl, by rw [unhook, he]⟩
  | some e =>
    refine Or.inr ⟨e, rfl, ?_⟩
    rw [unhook, he]
    cases hb : h.backend <;> simp [release, hb]

/-- `run` gives the outcome of a call and `inner` the tables on the way to it. -/
def trailWith (run : Call → Hooks μ σ → Option (Option Action × Hooks μ σ))
    (inner : Call → Hooks μ σ → List (Hooks μ σ)) : Script μ → Hooks μ σ → List (Hooks μ σ)
  | .finish _, _ => []
  | .memory next, h => trailWith run inner (next h.memory) h
  | .leave m next, h =>
    { h with memory := m } :: trailWith run inner next { h with memory := m }
  | .hook t handler next, h =>
    (h.hook t handler).2 :: trailWith run inner (next (h.hook t handler).1) (h.hook t handler).2
  | .unhook t next, h =>
    (h.unhook t).2 :: trailWith run inner (next (h.unhook t).1) (h.unhook t).2
  | .clear next, h => h.clear :: trailWith run inner next h.clear
  | .keys next, h => trailWith run inner (next h.keys) h
  | .dispatch c next, h =>
    inner c h ++ match run c h with
      | some (a, g) => g :: trailWith run inner (next a) g
      | none => []

/-- The tables of a call. Where handlers are nested deeper than `depth`, the list breaks off. -/
def callTrail : Nat → Call → Hooks μ σ → List (Hooks μ σ)
  | 0, _, _ => []
  | depth + 1, c, h =>
    match h.find? c.target with
    | none => []
    | some e => trailWith (dispatch depth) (callTrail depth) (e.handler c) h

def trail (depth : Nat) (s : Script μ) (h : Hooks μ σ) : List (Hooks μ σ) :=
  trailWith (dispatch depth) (callTrail depth) s h

/-- A run that comes to an end leaves the last table of its trail. -/
theorem getLast?_trailWith {run : Call → Hooks μ σ → Option (Option Action × Hooks μ σ)}
    (inner : Call → Hooks μ σ → List (Hooks μ σ)) {s : Script μ} {h g : Hooks μ σ} {a : Action}
    (he : runWith run s h = some (a, g)) : (h :: trailWith run inner s h).getLast? = some g := by
  induction s generalizing h with
  | finish b =>
    simp only [runWith, Option.some.injEq, Prod.mk.injEq] at he
    simp [trailWith, he.2]
  | memory next ih => exact ih _ he
  | leave m next ih =>
    rw [trailWith, List.getLast?_cons_cons]
    exact ih he
  | hook t handler next _ ih =>
    rw [trailWith, List.getLast?_cons_cons]
    exact ih _ he
  | unhook t next ih =>
    rw [trailWith, List.getLast?_cons_cons]
    exact ih _ he
  | clear next ih =>
    rw [trailWith, List.getLast?_cons_cons]
    exact ih he
  | keys next ih => exact ih _ he
  | dispatch c next ih =>
    cases hc : run c h with
    | none => simp [runWith, hc] at he
    | some out =>
      simp only [runWith, hc] at he
      simp only [trailWith, hc]
      rw [← List.cons_append, List.getLast?_append, ih _ he]
      rfl

/-- What no operation on the table breaks. -/
structure Kept (P : Hooks μ σ → Prop) : Prop where
  leave : ∀ h m, P h → P { h with memory := m }
  hook : ∀ h t handler, P h → P (h.hook t handler).2
  unhook : ∀ h t, P h → P (h.unhook t).2
  clear : ∀ h, P h → P h.clear

theorem Kept.trailWith {P : Hooks μ σ → Prop} (hk : Kept P)
    {run : Call → Hooks μ σ → Option (Option Action × Hooks μ σ)}
    {inner : Call → Hooks μ σ → List (Hooks μ σ)}
    (hrun : ∀ c h a g, P h → run c h = some (a, g) → P g)
    (hinner : ∀ c h, P h → ∀ g ∈ inner c h, P g)
    (s : Script μ) (h : Hooks μ σ) (hp : P h) : ∀ g ∈ Hooks.trailWith run inner s h, P g := by
  induction s generalizing h with
  | finish b => simp [Hooks.trailWith]
  | memory next ih => exact ih _ h hp
  | leave m next ih =>
    have hm := hk.leave h m hp
    exact List.forall_mem_cons.mpr ⟨hm, ih _ hm⟩
  | hook t handler next _ ih =>
    have ht := hk.hook h t handler hp
    exact List.forall_mem_cons.mpr ⟨ht, ih _ _ ht⟩
  | unhook t next ih =>
    have ht := hk.unhook h t hp
    exact List.forall_mem_cons.mpr ⟨ht, ih _ _ ht⟩
  | clear next ih =>
    have hc := hk.clear h hp
    exact List.forall_mem_cons.mpr ⟨hc, ih _ hc⟩
  | keys next ih => exact ih _ h hp
  | dispatch c next ih =>
    rw [Hooks.trailWith, List.forall_mem_append]
    refine ⟨hinner c h hp, ?_⟩
    cases hc : run c h with
    | none => simp
    | some out =>
      have hg := hrun c h out.1 out.2 hp hc
      exact List.forall_mem_cons.mpr ⟨hg, ih _ _ hg⟩

theorem Kept.dispatch {P : Hooks μ σ → Prop} (hk : Kept P) (depth : Nat) :
    (∀ c h a g, P h → Hooks.dispatch depth c h = some (a, g) → P g) ∧
    ∀ c h, P h → ∀ g ∈ callTrail depth c h, P g := by
  induction depth with
  | zero => simp [Hooks.dispatch, callTrail]
  | succ depth ih =>
    constructor
    · intro c h a g hp he
      rw [Hooks.dispatch] at he
      split at he
      · cases he
        exact hp
      · rename_i e _
        rw [Option.map_eq_some_iff] at he
        obtain ⟨out, ho, he⟩ := he
        cases he
        -- the outcome is the last table of the handler's own trail, which is one level down
        have hl := List.mem_of_getLast? (getLast?_trailWith (callTrail depth) ho)
        rcases List.mem_cons.mp hl with hl | hl
        · exact hl ▸ hp
        · exact hk.trailWith ih.1 ih.2 _ h hp _ hl
    · intro c h hp
      rw [callTrail]
      split
      · simp
      · exact hk.trailWith ih.1 ih.2 _ h hp

theorem Kept.trail {P : Hooks μ σ → Prop} (hk : Kept P) (depth : Nat) (s : Script μ)
    (h : Hooks μ σ) (hp : P h) : ∀ g ∈ Hooks.trail depth s h, P g :=
  hk.trailWith (hk.dispatch depth).1 (hk.dispatch depth).2 s h hp

end Triage.Hooks
