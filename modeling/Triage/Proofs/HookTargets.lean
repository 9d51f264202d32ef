import Triage.Proofs.HookHistory

/-! Hooks are kept by the joined text of their target, so two targets are told apart only if their
texts differ. Then neither feels what is done to the other, and where all that are hooked differ the
backend holds just these. -/
namespace Triage

namespace Target

/-- Where one name ends and the other begins cannot be seen in the joined text. -/
def Confusable (t u : Target) : Prop :=
  ∃ a b c : String, t = ⟨a, b ++ ":" ++ c⟩ ∧ u = ⟨a ++ ":" ++ b, c⟩

theorem confusable_of_append {l k f g : List Char} (hl : k = l ++ ':' :: f) :
    Confusable ⟨String.ofList l, String.ofList (f ++ ':' :: g)⟩ ⟨String.ofList k, String.ofList g⟩ := by
  refine ⟨String.ofList l, String.ofList f, String.ofList g, ?_, ?_⟩
  · simp [← String.toList_inj]
  · simp [← String.toList_inj, hl]

theorem key_eq_iff (t u : Target) :
    t.key = u.key ↔ t = u ∨ t.Confusable u ∨ u.Confusable t := by
  constructor
  · intro h
    obtain ⟨l, f, rfl⟩ : ∃ l f, t = ⟨String.ofList l, String.ofList f⟩ :=
      ⟨t.library.toList, t.function.toList, by simp⟩
    obtain ⟨k, g, rfl⟩ : ∃ k g, u = ⟨String.ofList k, String.ofList g⟩ :=
      ⟨u.library.toList, u.function.toList, by simp⟩
    have hl : l ++ ':' :: f = k ++ ':' :: g := by simpa [key, ← String.toList_inj] using h
    rw [List.append_eq_append_iff] at hl
    obtain ⟨d, hk, hf⟩ | ⟨d, hk, hf⟩ := hl
    · cases d with
      | nil => simp_all
      | cons c d =>
        rw [List.cons_append, List.cons.injEq] at hf
        obtain ⟨rfl, rfl⟩ := hf
        exact Or.inr (Or.inl (confusable_of_append hk))
    · cases d with
      | nil => simp_all
      | cons c d =>
        rw [List.cons_append, List.cons.injEq] at hf
        obtain ⟨rfl, rfl⟩ := hf
        exact Or.inr (Or.inr (confusable_of_append hk))
  · rintro (rfl | ⟨a, b, c, rfl, rfl⟩ | ⟨a, b, c, rfl, rfl⟩)
    · rfl
    · simp [key, String.append_assoc]
    · simp [key, String.append_assoc]

theorem key_ne {t u : Target} (hne : t ≠ u) (htu : ¬ t.Confusable u) (hut : ¬ u.Confusable t) :
    t.key ≠ u.key := by
  rw [Ne, key_eq_iff]
  rintro (h | h | h)
  · exact hne h
  · exact htu h
  · exact hut h

theorem not_confusable_of_library {u : Target} (hu : ':' ∉ u.library.toList) (t : Target) :
    ¬ t.Confusable u := by
  rintro ⟨a, b, c, -, rfl⟩
  simp at hu

end Target

/-- What a backend was told and took. -/
inductive Notice where
  | taken (t : Target)
  | freed (t : Target)

/-- Taken and not freed since; the latest notice comes first. -/
def Held (t : Target) : List Notice → Prop
  | [] => False
  | .taken u :: ns => u = t ∨ Held t ns
  | .freed u :: ns => u ≠ t ∧ Held t ns

def Held.dec (t : Target) : (ns : List Notice) → Decidable (Held t ns)
  | [] => inferInstanceAs (Decidable False)
  | .taken u :: ns =>
    have := Held.dec t ns
    inferInstanceAs (Decidable (u = t ∨ Held t ns))
  | .freed u :: ns =>
    have := Held.dec t ns
    inferInstanceAs (Decidable (u ≠ t ∧ Held t ns))

instance (t : Target) (ns : List Notice) : Decidable (Held t ns) := Held.dec t ns

namespace Backend
variable {σ : Type} {b : Backend σ} {t : Target} {s s' : σ × List Notice}

/-- The same backend with a record of what it was told. -/
def noted (b : Backend σ) : Backend (σ × List Notice) where
  label := b.label
  mechanism := b.mechanism
  install t s :=
    match b.install t s.1 with
    | (.ok u, s') => (.ok u, s', .taken t :: s.2)
    | (.error e, s') => (.error e, s', s.2)
  remove t s := (b.remove t s.1, .freed t :: s.2)

theorem noted_taken {u : Unit} (h : b.noted.install t s = (.ok u, s')) :
    s'.2 = .taken t :: s.2 := by
  simp only [noted] at h
  split at h
  · cases h
    rfl
  · cases h

theorem noted_refused {e : Error} (h : b.noted.install t s = (.error e, s')) : s'.2 = s.2 := by
  simp only [noted] at h
  split at h
  · cases h
  · cases h
    rfl

end Backend

namespace Hooks
variable {μ σ : Type} {b : Option (Backend σ)} {named : Target → Prop}
  {h : Hooks μ (σ × List Notice)}

/-- The backend holds the targets of the entries, which are among the named ones. -/
structure Tracks (b : Option (Backend σ)) (named : Target → Prop)
    (h : Hooks μ (σ × List Notice)) : Prop where
  backend : h.backend = b.map Backend.noted
  idle : b = none → h.entries = []
  nodup : h.keys.Nodup
  named : ∀ e ∈ h.entries, named e.target
  held : ∀ t, Held t h.state.2 ↔ ∃ e ∈ h.entries, e.target = t

namespace Tracks

theorem fresh (p : Platform) (b : Option (Backend σ)) (s : σ) (m : μ) (named : Target → Prop) :
    Tracks b named (fresh p (b.map Backend.noted) (s, []) m) where
  backend := rfl
  idle _ := rfl
  nodup := List.nodup_nil
  named := by simp [Hooks.fresh]
  held := by simp [Hooks.fresh, Held]

/-- A backend that was asked is one that keeps a record. -/
theorem exists_noted (ht : Tracks b named h) {b' : Backend (σ × List Notice)}
    (hb : h.backend = some b') : ∃ b₀, b = some b₀ ∧ b' = b₀.noted := by
  rw [ht.backend, Option.map_eq_some_iff] at hb
  obtain ⟨b₀, h₀, h'⟩ := hb
  exact ⟨b₀, h₀, h'.symm⟩

theorem release_noted {b₀ : Backend σ} {h : Hooks μ (σ × List Notice)}
    (hb : h.backend = some b₀.noted) (t : Target) :
    (h.release t).state.2 = .freed t :: h.state.2 := by
  rw [release, hb]
  rfl

theorem hook (ht : Tracks b named h)
    (hnamed : ∀ t u, named t → named u → t.key = u.key → t = u) {t : Target} (hn : named t)
    (f : Handler μ) : Tracks b named (h.hook t f).2 := by
  obtain ⟨e, he⟩ | ⟨b', s, hb, ⟨e, hr, he⟩ | ⟨hok, he⟩⟩ := h.hook_cases t f
  · rw [he]
    exact ht
  · obtain ⟨b₀, -, rfl⟩ := ht.exists_noted hb
    rw [he]
    refine ⟨ht.backend, ht.idle, ht.nodup, ht.named, ?_⟩
    rw [Backend.noted_refused hr]
    exact ht.held
  · obtain ⟨b₀, hb₀, rfl⟩ := ht.exists_noted hb
    rw [he]
    have hmem : ∀ e, e ∈ Keyed.put HookEntry.key ⟨t, f⟩ h.entries ↔
        e = ⟨t, f⟩ ∨ e ∈ h.entries ∧ e.key ≠ t.key := fun _ => Keyed.mem_put ht.nodup
    refine ⟨ht.backend, fun hn => by simp [hb₀] at hn, Keyed.nodup_put _ ht.nodup, ?_, ?_⟩
    · intro e hm
      rcases (hmem e).mp hm with rfl | ⟨hm, -⟩
      · exact hn
      · exact ht.named e hm
    · intro u
      rw [Backend.noted_taken hok, Held, ht.held]
      constructor
      · rintro (rfl | ⟨e, hm, rfl⟩)
        · exact ⟨⟨t, f⟩, (hmem _).mpr (Or.inl rfl), rfl⟩
        · by_cases hk : e.key = t.key
          · -- the entry that is replaced is for this very target
            have hu : e.target = t := hnamed _ _ (ht.named e hm) hn hk
            exact ⟨⟨t, f⟩, (hmem _).mpr (Or.inl rfl), hu.symm⟩
          · exact ⟨e, (hmem e).mpr (Or.inr ⟨hm, hk⟩), rfl⟩
      · rintro ⟨e, hm, rfl⟩
        rcases (hmem e).mp hm with rfl | ⟨hm, -⟩
        · exact Or.inl rfl
        · exact Or.inr ⟨e, hm, rfl⟩

theorem unhook (ht : Tracks b named h) (t : Target) : Tracks b named (h.unhook t).2 := by
  obtain ⟨-, he⟩ | ⟨e, hf, he⟩ := h.unhook_cases t
  · rw [he]
    exact ht
  · have hm : e ∈ h.entries := Keyed.mem_of_get? hf
    have hk : e.key = t.key := Keyed.key_of_get? hf
    cases hb : b with
    | none =>
      rw [ht.idle hb] at hm
      cases hm
    | some b₀ =>
      have hbk : h.backend = some b₀.noted := by rw [ht.backend, hb, Option.map_some]
      have hmem : ∀ d, d ∈ Keyed.erase HookEntry.key t.key h.entries ↔
          d ∈ h.entries ∧ d.key ≠ t.key := fun _ => Keyed.mem_erase ht.nodup
      rw [he]
      refine ⟨hbk, by simp, Keyed.nodup_erase _ ht.nodup, ?_, ?_⟩
      · exact fun d hd => ht.named d ((hmem d).mp hd).1
      · intro u
        rw [release_noted hbk, Held, ht.held]
        constructor
        · rintro ⟨hne, d, hd, rfl⟩
          refine ⟨d, (hmem d).mpr ⟨hd, ?_⟩, rfl⟩
          intro hdk
          have hde : Keyed.get? HookEntry.key d.key h.entries = some d :=
            Keyed.get?_of_mem ht.nodup hd
          rw [hdk] at hde
          exact hne (congrArg HookEntry.target (Option.some.inj (hf.symm.trans hde)))
        · rintro ⟨d, hd, rfl⟩
          obtain ⟨hd, hdk⟩ := (hmem d).mp hd
          refine ⟨?_, d, hd, rfl⟩
          intro hed
          have hde : d.key = e.key := congrArg Target.key hed.symm
          exact hdk (hde.trans hk)

theorem held_foldl_release {b₀ : Backend σ} (es : List (HookEntry μ))
    {h : Hooks μ (σ × List Notice)} (hb : h.backend = some b₀.noted) (t : Target) :
    Held t (es.foldl (fun h e => h.release e.target) h).state.2 ↔
      Held t h.state.2 ∧ ∀ e ∈ es, e.target ≠ t := by
  induction es generalizing h with
  | nil => simp
  | cons e es ih =>
    rw [List.foldl_cons, ih ((h.release_backend e.target).trans hb), release_noted hb, Held,
      List.forall_mem_cons]
    constructor
    · rintro ⟨⟨hne, ht⟩, hes⟩
      exact ⟨ht, hne, hes⟩
    · rintro ⟨ht, hne, hes⟩
      exact ⟨⟨hne, ht⟩, hes⟩

theorem clear (ht : Tracks b named h) : Tracks b named h.clear := by
  refine ⟨(clear_backend h).trans ht.backend, fun _ => rfl, List.nodup_nil, by simp [Hooks.clear], ?_⟩
  intro t
  have hnone : ¬ ∃ e ∈ h.clear.entries, e.target = t := by simp [Hooks.clear]
  refine iff_of_false ?_ hnone
  cases hb : b with
  | none =>
    have hs : h.clear.state = h.state := by rw [Hooks.clear, ht.idle hb, List.foldl_nil]
    rw [hs, ht.held, ht.idle hb]
    simp
  | some b₀ =>
    have hbk : h.backend = some b₀.noted := by rw [ht.backend, hb, Option.map_some]
    have hs : Held t h.clear.state.2 ↔ _ := held_foldl_release h.entries hbk t
    rw [hs, ht.held]
    rintro ⟨⟨e, hm, he⟩, hall⟩
    exact hall e hm he

theorem after {start : Hooks μ (σ × List Notice)} (hs : Tracks b named start)
    (hnamed : ∀ t u, named t → named u → t.key = u.key → t = u) {acts : List (Act μ)}
    (hacts : ∀ t f, .hook t f ∈ acts → named t) : Tracks b named (start.after acts) := by
  induction acts with
  | nil => exact hs
  | cons a acts ih =>
    have ha := ih fun t f hm => hacts t f (List.mem_cons_of_mem a hm)
    cases a with
    | hook t f => exact ha.hook hnamed (hacts t f List.mem_cons_self) f
    | unhook t => exact ha.unhook t
    | clear => exact ha.clear

end Tracks

theorem handlerOf_hook {h : Hooks μ σ} {t u : Target} {f : Handler μ} (hne : t.key ≠ u.key)
    (hok : (h.hook t f).1 = .ok ()) : (h.hook t f).2.handlerOf u = h.handlerOf u := by
  rw [handlerOf, find?_hook hok, if_neg hne, handlerOf]

theorem handlerOf_unhook {h : Hooks μ σ} (hn : h.keys.Nodup) {t u : Target}
    (hne : t.key ≠ u.key) : (h.unhook t).2.handlerOf u = h.handlerOf u := by
  rw [handlerOf, find?_unhook hn, if_neg hne, handlerOf]

theorem isHooked_eq_isSome_handlerOf (h : Hooks μ σ) (t : Target) :
    h.isHooked t = (h.handlerOf t).isSome := by
  rw [isHooked, handlerOf, Option.isSome_map]

/-- What is done to a target changes neither whether another one is hooked nor which handler answers
its calls, unless the two are confusable. And if no two of the named targets are, and no others are
hooked, the backend holds those that are named and hooked. -/
theorem targets_stay_apart (p : Platform) (b : Option (Backend σ)) (s : σ) (m : μ)
    (acts : List (Act μ)) :
    let h := (fresh p (b.map Backend.noted) (s, []) m).after acts
    (∀ t u : Target, t ≠ u → ¬ t.Confusable u → ¬ u.Confusable t →
      ∀ g, g = (h.unhook t).2 ∨ (∃ f, (h.hook t f).1 = .ok () ∧ g = (h.hook t f).2) →
        g.isHooked u = h.isHooked u ∧
        ∀ depth args, g.dispatch (depth+1) ⟨u, args⟩ = answer depth (h.handlerOf u) ⟨u, args⟩ g) ∧
    ∀ named : Target → Prop, (∀ t u, named t → named u → ¬ t.Confusable u) →
      (∀ t f, .hook t f ∈ acts → named t) →
      ∀ t, Held t h.state.2 ↔ named t ∧ h.isHooked t = true := by
  intro h
  constructor
  · intro t u hne htu hut g hg
    have hk : t.key ≠ u.key := Target.key_ne hne htu hut
    have hn : h.keys.Nodup := ((Follows.fresh p _ (s, []) m).after acts).nodup
    have hs : g.handlerOf u = h.handlerOf u := by
      rcases hg with rfl | ⟨f, hok, rfl⟩
      · exact handlerOf_unhook hn hk
      · exact handlerOf_hook hk hok
    refine ⟨?_, ?_⟩
    · rw [isHooked_eq_isSome_handlerOf, hs, isHooked_eq_isSome_handlerOf]
    · intro depth args
      rw [dispatch_eq_answer, hs]
  · intro named hnamed hacts t
    have hinj : ∀ t u, named t → named u → t.key = u.key → t = u := fun t u ht hu hk =>
      Decidable.byContradiction fun hne =>
        Target.key_ne hne (hnamed t u ht hu) (hnamed u t hu ht) hk
    have ht : Tracks b named h := (Tracks.fresh p b s m named).after hinj hacts
    rw [ht.held, isHooked, Option.isSome_iff_exists]
    constructor
    · rintro ⟨e, hm, rfl⟩
      exact ⟨ht.named e hm, e, Keyed.get?_of_mem ht.nodup hm⟩
    · rintro ⟨hnt, e, hf⟩
      have hm : e ∈ h.entries := Keyed.mem_of_get? hf
      have hk : e.key = t.key := Keyed.key_of_get? hf
      exact ⟨e, hm, hinj _ _ (ht.named e hm) hnt hk⟩

/-- A colon in the name of a function does no harm if there is none in the names of libraries. -/
theorem targets_stay_apart_scoped :
    let exit : Target := ⟨"libc", "std::exit"⟩
    let read : Target := ⟨"libc", "read"⟩
    let h : Hooks Unit (Unit × List Notice) :=
      (fresh .linux ((Platform.linux.backend? Unit).map Backend.noted) ((), []) ()).after
        [.hook read fun _ => .finish (.ret 2), .hook exit fun _ => .finish (.ret 1)]
    (h.unhook read).2.isHooked exit = h.isHooked exit ∧ Held exit h.state.2 := by
  have hacts : ∀ t f, Act.hook t f ∈
      [Act.hook (⟨"libc", "read"⟩ : Target) fun _ => (.finish (.ret 2) : Script Unit),
        .hook ⟨"libc", "std::exit"⟩ fun _ => .finish (.ret 1)] → ':' ∉ t.library.toList := by
    intro t f hm
    simp only [List.mem_cons, Act.hook.injEq, List.not_mem_nil, or_false] at hm
    rcases hm with ⟨rfl, -⟩ | ⟨rfl, -⟩ <;> decide
  have h := targets_stay_apart .linux (Platform.linux.backend? Unit) () ()
    [.hook ⟨"libc", "read"⟩ fun _ => .finish (.ret 2),
      .hook ⟨"libc", "std::exit"⟩ fun _ => .finish (.ret 1)]
  refine ⟨(h.1 ⟨"libc", "read"⟩ ⟨"libc", "std::exit"⟩ (by decide)
    (Target.not_confusable_of_library (by decide) _)
    (Target.not_confusable_of_library (by decide) _) _ (Or.inl rfl)).1, ?_⟩
  exact (h.2 (fun t => ':' ∉ t.library.toList)
    (fun t _ _ hu => Target.not_confusable_of_library hu t) hacts _).mpr ⟨by decide, by decide⟩

/-- Two targets with one text: a hook of the first answers the calls of the second, and when the second
is hooked and all is cleared, the backend still holds the first. -/
theorem hook_reaches_confusable_target :
    let t : Target := ⟨"a:b", "c"⟩
    let u : Target := ⟨"a", "b:c"⟩
    let hook (t : Target) (v : UInt64) : Act Unit := .hook t fun _ => .finish (.ret v)
    let h : Hooks Unit (Unit × List Notice) :=
      fresh .linux ((Platform.linux.backend? Unit).map Backend.noted) ((), []) ()
    let one := h.after [hook t 1]
    let cleared := h.after [.clear, hook u 2, hook t 1]
    t ≠ u ∧ h.isHooked u = false ∧ one.isHooked u = true ∧
      (one.dispatch 1 ⟨u, []⟩).map Prod.fst = some (some (.ret 1)) ∧
      cleared.isHooked t = false ∧ Held t cleared.state.2 := by
  decide

end Hooks
end Triage
