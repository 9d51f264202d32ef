import Triage.Proofs.HookTrail
import Triage.Keyed

/-! The table of hooks after any history, told from what the caller has seen of it: which hooks took
effect, and what was freed since. Histories list the latest act first. -/
namespace Triage.Hooks
variable {μ σ : Type} {h : Hooks μ σ} {t : Target} {f : Handler μ}

/-- An empty table; without a backend nothing can be hooked. -/
def fresh (p : Platform) (b : Option (Backend σ)) (s : σ) (m : μ) : Hooks μ σ := ⟨p, b, s, m, []⟩

def handlerOf (h : Hooks μ σ) (t : Target) : Option (Handler μ) :=
  (h.find? t).map HookEntry.handler

/-- The outcome of a call that is answered by the given handler, or by none. -/
def answer (depth : Nat) (handler : Option (Handler μ)) (c : Call) (h : Hooks μ σ) :
    Option (Option Action × Hooks μ σ) :=
  match handler with
  | none => some (none, h)
  | some f => (runWith (dispatch depth) (f c) h).map fun (a, g) => (some a, g)

theorem dispatch_eq_answer (depth : Nat) (c : Call) (h : Hooks μ σ) :
    dispatch (depth+1) c h = answer depth (h.handlerOf c.target) c h := by
  rw [dispatch, handlerOf]
  cases h.find? c.target <;> rfl

inductive Act (μ : Type) where
  | hook (t : Target) (handler : Handler μ)
  | unhook (t : Target)
  | clear

def apply (h : Hooks μ σ) : Act μ → Hooks μ σ
  | .hook t f => (h.hook t f).2
  | .unhook t => (h.unhook t).2
  | .clear => h.clear

def after (start : Hooks μ σ) : List (Act μ) → Hooks μ σ
  | [] => start
  | a :: acts => (after start acts).apply a

/-- An act as its caller saw it. -/
inductive Event (μ : Type) where
  | hooked (t : Target) (handler : Handler μ)
  | refused
  | unhooked (t : Target)
  | cleared

def event (h : Hooks μ σ) : Act μ → Event μ
  | .hook t f =>
    match (h.hook t f).1 with
    | .ok _ => .hooked t f
    | .error _ => .refused
  | .unhook t => .unhooked t
  | .clear => .cleared

def past (start : Hooks μ σ) : List (Act μ) → List (Event μ)
  | [] => []
  | a :: acts => (after start acts).event a :: past start acts

/-- The handler that was last hooked under a key, unless the key has been freed since. -/
def lastHandler (k : String) : List (Event μ) → Option (Handler μ)
  | [] => none
  | .hooked t f :: es => if t.key = k then some f else lastHandler k es
  | .refused :: es => lastHandler k es
  | .unhooked t :: es => if t.key = k then none else lastHandler k es
  | .cleared :: _ => none

/-- The time since which a key has been there without a break. Hooking it once more does not count
as a new arrival. -/
def arrival (k : String) : List (Event μ) → Option Nat
  | [] => none
  | .hooked t _ :: es =>
    if t.key = k then (arrival k es).or (some es.length) else arrival k es
  | .refused :: es => arrival k es
  | .unhooked t :: es => if t.key = k then none else arrival k es
  | .cleared :: _ => none

theorem arrival_lt {k : String} {es : List (Event μ)} {i : Nat} (hi : arrival k es = some i) :
    i < es.length := by
  induction es with
  | nil => cases hi
  | cons e es ih =>
    have hs : arrival k es = some i → i < (e :: es).length := fun hk => Nat.lt_succ_of_lt (ih hk)
    cases e with
    | hooked t f =>
      rw [arrival] at hi
      split at hi
      · cases hk : arrival k es with
        | none =>
          rw [hk, Option.none_or] at hi
          rw [← Option.some.inj hi]
          exact Nat.lt_succ_self _
        | some j =>
          rw [hk, Option.some_or] at hi
          exact hs (hk.trans hi)
      · exact hs hi
    | refused => exact hs hi
    | unhooked t =>
      rw [arrival] at hi
      split at hi
      · cases hi
      · exact hs hi
    | cleared => cases hi

/-- All that a refusal can change is the backend. -/
theorem hook_refused {e : Error} (he : (h.hook t f).1 = .error e) :
    ∃ s, (h.hook t f).2 = { h with state := s } := by
  obtain ⟨e', hh⟩ | ⟨b, s, -, ⟨e', -, hh⟩ | ⟨-, hh⟩⟩ := h.hook_cases t f
  · exact ⟨h.state, by rw [hh]⟩
  · exact ⟨s, by rw [hh]⟩
  · rw [hh] at he
    cases he

theorem hook_taken (hok : (h.hook t f).1 = .ok ()) :
    (h.hook t f).2.entries = Keyed.put HookEntry.key ⟨t, f⟩ h.entries := by
  obtain ⟨e, hh⟩ | ⟨b, s, -, ⟨e, -, hh⟩ | ⟨-, hh⟩⟩ := h.hook_cases t f
  · rw [hh] at hok
    cases hok
  · rw [hh] at hok
    cases hok
  · rw [hh]

theorem unhook_entries (h : Hooks μ σ) (t : Target) :
    (h.unhook t).2.entries = Keyed.erase HookEntry.key t.key h.entries := by
  obtain ⟨hf, hh⟩ | ⟨e, -, hh⟩ := h.unhook_cases t
  · have hk : t.key ∉ h.entries.map HookEntry.key := Keyed.get?_eq_none_iff.mp hf
    rw [hh, Keyed.erase, List.eraseP_of_forall_not]
    intro x hx hxk
    exact hk (of_decide_eq_true hxk ▸ List.mem_map_of_mem hx)
  · rw [hh]

theorem find?_hook (hok : (h.hook t f).1 = .ok ()) (u : Target) :
    (h.hook t f).2.find? u = if t.key = u.key then some ⟨t, f⟩ else h.find? u := by
  rw [find?, hook_taken hok, Keyed.get?_put]
  rfl

theorem find?_unhook (hn : h.keys.Nodup) (t u : Target) :
    (h.unhook t).2.find? u = if t.key = u.key then none else h.find? u := by
  rw [find?, unhook_entries, Keyed.get?_erase _ _ hn]
  rfl

theorem keys_hook (hok : (h.hook t f).1 = .ok ()) :
    (h.hook t f).2.keys = if t.key ∈ h.keys then h.keys else h.keys ++ [t.key] := by
  rw [keys, hook_taken hok, Keyed.map_put]
  rfl

theorem keys_unhook (h : Hooks μ σ) (t : Target) :
    (h.unhook t).2.keys = h.keys.erase t.key := by
  rw [keys, unhook_entries, Keyed.map_erase]
  rfl

theorem release_backend (h : Hooks μ σ) (t : Target) : (h.release t).backend = h.backend := by
  rw [release]
  split <;> simp [*]

theorem clear_backend (h : Hooks μ σ) : h.clear.backend = h.backend := by
  have hf : ∀ es : List (HookEntry μ),
      (es.foldl (fun h e => h.release e.target) h).backend = h.backend := by
    intro es
    induction es generalizing h with
    | nil => rfl
    | cons e es ih => exact (ih (h.release e.target)).trans (release_backend h e.target)
  exact hf h.entries

/-- The table as the past tells it. -/
structure Follows (h : Hooks μ σ) (es : List (Event μ)) : Prop where
  nodup : h.keys.Nodup
  mem_keys : ∀ k, k ∈ h.keys ↔ (arrival k es).isSome
  ascending : (h.keys.map fun k => arrival k es).Pairwise (· < ·)
  handlerOf : ∀ t, h.handlerOf t = lastHandler t.key es

namespace Follows
variable {es : List (Event μ)}

theorem fresh (p : Platform) (b : Option (Backend σ)) (s : σ) (m : μ) :
    Follows (fresh p b s m) [] :=
  ⟨List.nodup_nil, by simp [Hooks.fresh, keys, arrival], List.Pairwise.nil, fun _ => rfl⟩

theorem arrival_hooked (hf : Follows h es) (t : Target) (f : Handler μ) {k : String}
    (hk : k ∈ h.keys) : arrival k (.hooked t f :: es) = arrival k es := by
  obtain ⟨i, hi⟩ := Option.isSome_iff_exists.mp ((hf.mem_keys k).mp hk)
  rw [arrival, hi, Option.some_or, ite_self]

theorem arrival_hooked_new (hf : Follows h es) (f : Handler μ) (ht : t.key ∉ h.keys) :
    arrival t.key (.hooked t f :: es) = some es.length := by
  have hnone : arrival t.key es = none := by
    rw [← Option.not_isSome_iff_eq_none, ← hf.mem_keys]
    exact ht
  rw [arrival, if_pos rfl, hnone, Option.none_or]

/-- Times stay as they are, but for a key that was not there, and that one is later than all. -/
theorem ascending_hooked (hf : Follows h es) (hok : (h.hook t f).1 = .ok ()) :
    ((h.hook t f).2.keys.map fun k => arrival k (.hooked t f :: es)).Pairwise (· < ·) := by
  have hsame : ∀ k ∈ h.keys, arrival k (.hooked t f :: es) = arrival k es :=
    fun k hk => hf.arrival_hooked t f hk
  rw [keys_hook hok]
  split
  · rw [List.map_congr_left hsame]
    exact hf.ascending
  · rename_i ht
    rw [List.map_append, List.map_congr_left hsame, List.pairwise_append]
    refine ⟨hf.ascending, List.pairwise_singleton _ _, ?_⟩
    intro a ha b hb
    obtain ⟨k, hm, rfl⟩ := List.mem_map.mp ha
    obtain ⟨i, hi⟩ := Option.isSome_iff_exists.mp ((hf.mem_keys k).mp hm)
    rw [List.map_singleton, List.mem_singleton, hf.arrival_hooked_new f ht] at hb
    rw [hb, hi]
    exact Option.some_lt_some.mpr (arrival_lt hi)

theorem hooked (hf : Follows h es) (hok : (h.hook t f).1 = .ok ()) :
    Follows (h.hook t f).2 (.hooked t f :: es) := by
  refine ⟨?_, ?_, hf.ascending_hooked hok, ?_⟩
  · rw [keys, hook_taken hok]
    exact Keyed.nodup_put _ hf.nodup
  · intro k
    have hmem : k ∈ (h.hook t f).2.keys ↔ k = t.key ∨ k ∈ h.keys := by
      rw [keys, hook_taken hok]
      exact Keyed.mem_map_put
    rw [hmem, hf.mem_keys, arrival]
    split
    · rename_i hk
      simp [hk]
    · rename_i hk
      simp [Ne.symm hk]
  · intro u
    rw [Hooks.handlerOf, find?_hook hok, lastHandler]
    split
    · rfl
    · exact hf.handlerOf u

theorem refused (hf : Follows h es) {e : Error} (he : (h.hook t f).1 = .error e) :
    Follows (h.hook t f).2 (.refused :: es) := by
  obtain ⟨s, hs⟩ := hook_refused he
  rw [hs]
  exact ⟨hf.nodup, hf.mem_keys, hf.ascending, hf.handlerOf⟩

theorem unhooked (hf : Follows h es) (t : Target) :
    Follows (h.unhook t).2 (.unhooked t :: es) := by
  have hmem : ∀ k, k ∈ (h.unhook t).2.keys ↔ k ≠ t.key ∧ k ∈ h.keys := by
    intro k
    rw [keys_unhook]
    exact hf.nodup.mem_erase_iff
  refine ⟨?_, ?_, ?_, ?_⟩
  · rw [keys_unhook]
    exact hf.nodup.erase t.key
  · intro k
    rw [hmem, hf.mem_keys, arrival]
    split
    · rename_i hk
      simp [hk]
    · rename_i hk
      simp [Ne.symm hk]
  · have hsame : ∀ k ∈ (h.unhook t).2.keys, arrival k (.unhooked t :: es) = arrival k es := by
      intro k hm
      rw [arrival, if_neg]
      exact fun he => ((hmem k).mp hm).1 he.symm
    rw [List.map_congr_left hsame, keys_unhook]
    exact hf.ascending.sublist (List.erase_sublist.map _)
  · intro u
    rw [Hooks.handlerOf, find?_unhook hf.nodup, lastHandler]
    split
    · rfl
    · exact hf.handlerOf u

theorem cleared (h : Hooks μ σ) (es : List (Event μ)) : Follows h.clear (.cleared :: es) :=
  ⟨List.nodup_nil, by simp [clear, keys, arrival], List.Pairwise.nil, fun _ => rfl⟩

theorem apply (hf : Follows h es) (a : Act μ) : Follows (h.apply a) (h.event a :: es) := by
  cases a with
  | hook t f =>
    cases hr : (h.hook t f).1 with
    | ok u =>
      have he : h.event (.hook t f) = .hooked t f := by rw [event, hr]
      rw [he]
      exact hf.hooked hr
    | error e =>
      have he : h.event (.hook t f) = .refused := by rw [event, hr]
      rw [he]
      exact hf.refused hr
  | unhook t => exact hf.unhooked t
  | clear => exact cleared h es

theorem after {start : Hooks μ σ} (hs : Follows start []) (acts : List (Act μ)) :
    Follows (start.after acts) (start.past acts) := by
  induction acts with
  | nil => exact hs
  | cons a acts ih => exact ih.apply a

end Follows

-- the latest act stands first: a replaced hook keeps its place, one that comes back goes to the end
example :
    let hook (name : String) : Act Unit := .hook ⟨"libc", name⟩ fun _ => .finish .callThrough
    let h := fresh .linux (Platform.linux.backend? Unit) () ()
    (h.after [hook "open", hook "read", hook "open"]).keys = ["libc:open", "libc:read"] ∧
    (h.after [hook "open", .unhook ⟨"libc", "open"⟩, hook "read", hook "open"]).keys =
      ["libc:read", "libc:open"] := by decide

end Triage.Hooks
