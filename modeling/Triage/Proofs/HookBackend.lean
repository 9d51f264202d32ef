import Mathlib.Data.Set.Insert
import Triage.Proofs.HookTrail
import Triage.Keyed

/-! A backend that remembers keys remembers those of the table, whatever it refuses and whatever
handlers do to the table while they are called. -/
namespace Triage

/-- The backend knows the keys of the targets that it took and was not told to free since. -/
structure Backend.Remembers {σ : Type} (b : Backend σ) (known : σ → Set String) : Prop where
  taken : ∀ {t s s' u}, b.install t s = (.ok u, s') → known s' = insert t.key (known s)
  refused : ∀ {t s s' e}, b.install t s = (.error e, s') → known s' = known s
  freed : ∀ t s, known (b.remove t s) = known s \ {t.key}

namespace Hooks
variable {μ σ : Type} {b : Backend σ} {known : σ → Set String} {h : Hooks μ σ}

/-- Without distinct keys an unhooked key could still be there. -/
structure InStep (b : Backend σ) (known : σ → Set String) (h : Hooks μ σ) : Prop where
  backend : h.backend = some b
  nodup : h.keys.Nodup
  known_state : known h.state = {k | k ∈ h.keys}

theorem inStep_withBackend (p : Platform) {s : σ} (m : μ) (hs : known s = ∅) :
    InStep b known (withBackend p b s m) := by
  refine ⟨rfl, List.nodup_nil, ?_⟩
  rw [withBackend, hs]
  simp [keys]

theorem InStep.hook (hb : b.Remembers known) (hi : InStep b known h) (t : Target)
    (handler : Handler μ) : InStep b known (h.hook t handler).2 := by
  obtain ⟨e, he⟩ | ⟨b', s, hh, ⟨e, hr, he⟩ | ⟨ht, he⟩⟩ := h.hook_cases t handler
  · rw [he]
    exact hi
  · cases hh.symm.trans hi.backend
    rw [he]
    exact ⟨hi.backend, hi.nodup, (hb.refused hr).trans hi.known_state⟩
  · cases hh.symm.trans hi.backend
    rw [he]
    refine ⟨hi.backend, Keyed.nodup_put _ hi.nodup, ?_⟩
    change known s = {k | k ∈ (Keyed.put HookEntry.key ⟨t, handler⟩ h.entries).map HookEntry.key}
    rw [hb.taken ht, hi.known_state]
    ext k
    rw [Set.mem_ofPred_eq, Keyed.mem_map_put]
    rfl

theorem InStep.unhook (hb : b.Remembers known) (hi : InStep b known h) (t : Target) :
    InStep b known (h.unhook t).2 := by
  obtain ⟨-, he⟩ | ⟨e, hf, he⟩ := h.unhook_cases t
  · rw [he]
    exact hi
  · -- the backend frees the target of the entry, which may be another one with the same key
    have hk : e.key = t.key := Keyed.key_of_get? hf
    have hm : (Keyed.erase HookEntry.key t.key h.entries).map HookEntry.key = h.keys.erase t.key :=
      Keyed.map_erase t.key h.entries
    have hr : (h.release e.target).state = b.remove e.target h.state := by
      rw [release, hi.backend]
    rw [he]
    refine ⟨hi.backend, ?_, ?_⟩
    · change ((Keyed.erase HookEntry.key t.key h.entries).map HookEntry.key).Nodup
      rw [hm]
      exact hi.nodup.erase t.key
    · change known (h.release e.target).state =
        {k | k ∈ (Keyed.erase HookEntry.key t.key h.entries).map HookEntry.key}
      rw [hr, hb.freed, hi.known_state, hm]
      ext k
      rw [Set.mem_ofPred_eq, hi.nodup.mem_erase_iff, ← hk]
      exact and_comm

theorem foldl_release (hb : b.Remembers known) (es : List (HookEntry μ)) {h : Hooks μ σ}
    (hh : h.backend = some b) :
    (es.foldl (fun h e => h.release e.target) h).backend = some b ∧
    known (es.foldl (fun h e => h.release e.target) h).state =
      {k | k ∈ known h.state ∧ k ∉ es.map HookEntry.key} := by
  induction es generalizing h with
  | nil => simp [hh]
  | cons e es ih =>
    have hr : h.release e.target = { h with state := b.remove e.target h.state } := by
      rw [release, hh]
    have hrb : (h.release e.target).backend = some b := by
      rw [hr]
      exact hh
    refine ⟨(ih hrb).1, ?_⟩
    rw [List.foldl_cons, (ih hrb).2, hr, hb.freed]
    ext k
    simp only [Set.mem_ofPred_eq, Set.mem_sdiff, Set.mem_singleton_iff, List.map_cons,
      List.mem_cons, not_or, and_assoc]
    rfl

theorem InStep.clear (hb : b.Remembers known) (hi : InStep b known h) :
    InStep b known h.clear := by
  obtain ⟨hf, hk⟩ := foldl_release hb h.entries hi.backend
  refine ⟨hf, List.nodup_nil, ?_⟩
  rw [Hooks.clear, hk, hi.known_state]
  ext k
  simp [keys]

theorem kept_inStep (hb : b.Remembers known) : Kept fun h : Hooks μ σ => InStep b known h where
  leave _ _ hi := ⟨hi.backend, hi.nodup, hi.known_state⟩
  hook _ t handler hi := hi.hook hb t handler
  unhook _ t hi := hi.unhook hb t
  clear _ hi := hi.clear hb

/-- Whoever runs what on the table: after each operation, of the caller or of a handler at any depth,
the backend remembers exactly the keys of the table. The table that a finished run leaves is the
last of these. -/
theorem known_eq_keys_on_trail (p : Platform) (b : Backend σ) (known : σ → Set String)
    (hb : b.Remembers known) (s : σ) (hs : known s = ∅) (m : μ) (depth : Nat)
    (caller : Script μ) :
    let start : Hooks μ σ := .withBackend p b s m
    (∀ h ∈ start :: start.trail depth caller, known h.state = {k | k ∈ h.keys}) ∧
    ∀ a h, runWith (dispatch depth) caller start = some (a, h) →
      (start :: start.trail depth caller).getLast? = some h := by
  intro start
  have hi : InStep b known start := inStep_withBackend p m hs
  refine ⟨?_, fun a h => getLast?_trailWith _⟩
  rw [List.forall_mem_cons]
  refine ⟨hi.known_state, ?_⟩
  intro h hh
  exact ((kept_inStep hb).trail depth caller start hi h hh).known_state

def recorder (refuses : Target → List String → Bool) : Backend (List String) where
  label := "recorder"
  mechanism := "recording"
  install t ks :=
    if refuses t ks then (.error (.toolInvocation "refused"), ks) else (.ok (), t.key :: ks)
  remove t ks := ks.filter (· != t.key)

theorem recorder_remembers (refuses : Target → List String → Bool) :
    (recorder refuses).Remembers fun ks => {k | k ∈ ks} where
  taken {t s s' u} h := by
    by_cases hr : refuses t s = true
    · simp [recorder, hr] at h
    · simp only [recorder, hr] at h
      cases h
      ext k
      simp
  refused {t s s' e} h := by
    by_cases hr : refuses t s = true
    · simp only [recorder, hr] at h
      cases h
      rfl
    · simp [recorder, hr] at h
  freed t s := by
    ext k
    simp [recorder]

/-- Counts its calls, takes its own hook away, and hooks something else. -/
def selfReplacing : Handler Nat := fun c =>
  .memory fun n => .leave (n+1) <| .unhook c.target fun _ =>
    .hook ⟨"libc", "exit"⟩ (fun _ => .finish .callThrough) fun _ => .finish (.ret 1)

/-- Hooks a target twice, asks for one that is refused, and calls its handler. -/
def reentrantCaller : Script Nat :=
  .hook ⟨"libc", "open"⟩ selfReplacing fun _ => .hook ⟨"libc", "open"⟩ selfReplacing fun _ =>
    .hook ⟨"vdso", "time"⟩ selfReplacing fun _ =>
      .dispatch ⟨⟨"libc", "open"⟩, [7]⟩ fun _ => .clear (.finish .callThrough)

theorem known_eq_keys_on_trail_reentrant :
    let start : Hooks Nat (List String) :=
      .withBackend .linux (recorder fun t _ => t.library == "vdso") [] 0
    (start.trail 1 reentrantCaller).map keys =
      [["libc:open"], ["libc:open"], ["libc:open"], ["libc:open"], [], ["libc:exit"],
        ["libc:exit"], []] ∧
    (∀ h ∈ start :: start.trail 1 reentrantCaller, {k | k ∈ h.state} = {k | k ∈ h.keys}) :=
  ⟨by decide,
    (known_eq_keys_on_trail .linux _ _ (recorder_remembers _) [] (by simp) 0 1 reentrantCaller).1⟩

end Hooks
end Triage
