import Triage.Config
import Triage.Proofs.JsonRecord

/-! A configuration of which only some fields are given. What is given replaces the defaults, in
whatever order and among whatever else it stands in the text. -/
namespace Triage
open Json

/-! ### Some of the fields -/

structure IoSettings where
  maxFileSize : Option UInt64 := none

structure ObfuscationSettings where
  indirectBranchDensity : Option Float := none
  printableRatioThreshold : Option Float := none

/-- A path can be given as absent. -/
structure ToolSettings where
  upxPath : Option (Option String) := none
  radare2Path : Option (Option String) := none
  ghidraHeadlessPath : Option (Option String) := none
  idaPath : Option (Option String) := none
  unpackTimeoutSecs : Option UInt64 := none
  decompileTimeoutSecs : Option UInt64 := none
  probeTimeoutSecs : Option UInt64 := none

/-- Any choice of fields, each with a value. -/
structure Settings where
  io : IoSettings := {}
  obfuscation : ObfuscationSettings := {}
  tools : ToolSettings := {}

def IoSettings.overlay (s : IoSettings) : IoConfig :=
  let d : IoConfig := {}
  { maxFileSize := s.maxFileSize.getD d.maxFileSize }

def ObfuscationSettings.overlay (s : ObfuscationSettings) : ObfuscationConfig :=
  let d : ObfuscationConfig := {}
  { indirectBranchDensity := s.indirectBranchDensity.getD d.indirectBranchDensity
    printableRatioThreshold := s.printableRatioThreshold.getD d.printableRatioThreshold }

def ToolSettings.overlay (s : ToolSettings) : ToolConfig :=
  let d : ToolConfig := {}
  { upxPath := s.upxPath.getD d.upxPath
    radare2Path := s.radare2Path.getD d.radare2Path
    ghidraHeadlessPath := s.ghidraHeadlessPath.getD d.ghidraHeadlessPath
    idaPath := s.idaPath.getD d.idaPath
    unpackTimeoutSecs := s.unpackTimeoutSecs.getD d.unpackTimeoutSecs
    decompileTimeoutSecs := s.decompileTimeoutSecs.getD d.decompileTimeoutSecs
    probeTimeoutSecs := s.probeTimeoutSecs.getD d.probeTimeoutSecs }

/-- The defaults with the given fields in their place. -/
def Settings.overlay (s : Settings) : Config where
  io := s.io.overlay
  obfuscation := s.obfuscation.overlay
  tools := s.tools.overlay

/-! ### Objects that give them -/

/-- One member gives the value, or there is none. -/
inductive Given {α : Type} (shows : α → Value → Prop) : Option α → List Value → Prop where
  | absent : Given shows none []
  | once {a : α} {v : Value} (h : shows a v) : Given shows (some a) [v]

def ShowsWord (n : UInt64) (v : Value) : Prop := v = .nat n.toNat

inductive ShowsPath : Option String → Value → Prop where
  | absent : ShowsPath none .null
  | text (s : String) : ShowsPath (some s) (.str (some s))

/-- A float may be given by an integer. -/
inductive ShowsFloat : Float → Value → Prop where
  | float (x : Float) : ShowsFloat x (.float x)
  | nat (n : UInt64) : ShowsFloat n.toFloat (.nat n.toNat)
  | neg (n : UInt64) : ShowsFloat (-n.toFloat) (.num (.neg n.toNat))

structure IoSettings.Shown (s : IoSettings) (ms : List (Option String × Value)) : Prop where
  maxFileSize : Given ShowsWord s.maxFileSize (valuesOf "max_file_size" ms)

structure ObfuscationSettings.Shown (s : ObfuscationSettings)
    (ms : List (Option String × Value)) : Prop where
  indirectBranchDensity :
    Given ShowsFloat s.indirectBranchDensity (valuesOf "indirect_branch_density" ms)
  printableRatioThreshold :
    Given ShowsFloat s.printableRatioThreshold (valuesOf "printable_ratio_threshold" ms)

structure ToolSettings.Shown (s : ToolSettings) (ms : List (Option String × Value)) : Prop where
  upxPath : Given ShowsPath s.upxPath (valuesOf "upx_path" ms)
  radare2Path : Given ShowsPath s.radare2Path (valuesOf "radare2_path" ms)
  ghidraHeadlessPath : Given ShowsPath s.ghidraHeadlessPath (valuesOf "ghidra_headless_path" ms)
  idaPath : Given ShowsPath s.idaPath (valuesOf "ida_path" ms)
  unpackTimeoutSecs : Given ShowsWord s.unpackTimeoutSecs (valuesOf "unpack_timeout_secs" ms)
  decompileTimeoutSecs :
    Given ShowsWord s.decompileTimeoutSecs (valuesOf "decompile_timeout_secs" ms)
  probeTimeoutSecs : Given ShowsWord s.probeTimeoutSecs (valuesOf "probe_timeout_secs" ms)

/-- A section is an object; it can be missing if nothing of it is given. -/
inductive Section (shown : List (Option String × Value) → Prop) : List Value → Prop where
  | missing (h : shown []) : Section shown []
  | object {ms : List (Option String × Value)} (h : shown ms) : Section shown [.obj ms]

/-- The object gives these fields and no others, among any other members. -/
structure Settings.Shown (s : Settings) (root : List (Option String × Value)) : Prop where
  io : Section s.io.Shown (valuesOf "io" root)
  obfuscation : Section s.obfuscation.Shown (valuesOf "obfuscation" root)
  tools : Section s.tools.Shown (valuesOf "tools" root)

def IoSettings.names : List String := ["max_file_size"]

def ObfuscationSettings.names : List String :=
  ["indirect_branch_density", "printable_ratio_threshold"]

def ToolSettings.names : List String :=
  ["upx_path", "radare2_path", "ghidra_headless_path", "ida_path", "unpack_timeout_secs",
    "decompile_timeout_secs", "probe_timeout_secs"]

def Settings.names : List String := ["io", "obfuscation", "tools"]

/-- The objects of a document whose members are looked up, and the names that are known there. -/
inductive Level (root : List (Option String × Value)) :
    List String → List (Option String × Value) → Prop where
  | root : Level root Settings.names root
  | io {ms : List (Option String × Value)} (h : .obj ms ∈ valuesOf "io" root) :
    Level root IoSettings.names ms
  | obfuscation {ms : List (Option String × Value)} (h : .obj ms ∈ valuesOf "obfuscation" root) :
    Level root ObfuscationSettings.names ms
  | tools {ms : List (Option String × Value)} (h : .obj ms ∈ valuesOf "tools" root) :
    Level root ToolSettings.names ms

/-- All names at these levels are proper texts. -/
def Named (root : List (Option String × Value)) : Prop :=
  ∀ names ms, Level root names ms → ∀ m ∈ ms, m.1.isSome = true

/-- A known name stands twice in one object. -/
def Repeated (root : List (Option String × Value)) : Prop :=
  ∃ names ms k, Level root names ms ∧ k ∈ names ∧ 2 ≤ (valuesOf k ms).length

section
variable {α : Type} {shows : α → Value → Prop} {item : Value → Option α} {x : Option α}

theorem Given.length_le {vs : List Value} (h : Given shows x vs) : vs.length ≤ 1 := by
  cases h <;> simp

theorem Given.orDefault {vs : List Value} (h : Given shows x vs)
    (hi : ∀ a v, shows a v → item v = some a) {f : Fields} {k : String} (hk : f.get? k = vs.head?)
    (d : α) : f.orDefault k item d = some (x.getD d) := by
  cases h with
  | absent => simp [Fields.orDefault, hk]
  | once h => simp [Fields.orDefault, hk, hi _ _ h]

end

theorem word?_shows (n : UInt64) (v : Value) (h : ShowsWord n v) : v.word? = some n := by
  rw [h, word?_nat]

theorem path?_shows (p : Option String) (v : Value) (h : ShowsPath p v) :
    v.nullable? Value.string? = some p := by
  cases h <;> rfl

theorem float?_shows (x : Float) (v : Value) (h : ShowsFloat x v) : v.float? = some x := by
  cases h with
  | float => rfl
  | nat n => simp [Value.nat, Value.float?]
  | neg n => simp [Value.float?]

section
variable {ms : List (Option String × Value)}

theorem IoSettings.ofJson?_shown {s : IoSettings} (h : s.Shown ms)
    (hp : ∀ m ∈ ms, m.1.isSome = true) : Document.ofJson? (.obj ms) = some s.overlay := by
  have hd : Distinct names ms := ⟨hp, by simpa [names] using h.maxFileSize.length_le⟩
  refine bind_fields? hd fun f hg => ?_
  have hm := h.maxFileSize.orDefault word?_shows (hg _ (by simp))
  simp [hm, overlay]

theorem ObfuscationSettings.ofJson?_shown {s : ObfuscationSettings} (h : s.Shown ms)
    (hp : ∀ m ∈ ms, m.1.isSome = true) : Document.ofJson? (.obj ms) = some s.overlay := by
  have hd : Distinct names ms := by
    refine ⟨hp, ?_⟩
    simpa [names] using ⟨h.indirectBranchDensity.length_le, h.printableRatioThreshold.length_le⟩
  refine bind_fields? hd fun f hg => ?_
  have hb := h.indirectBranchDensity.orDefault float?_shows (hg _ (by simp))
  have hr := h.printableRatioThreshold.orDefault float?_shows (hg _ (by simp))
  simp [hb, hr, overlay]

theorem ToolSettings.ofJson?_shown {s : ToolSettings} (h : s.Shown ms)
    (hp : ∀ m ∈ ms, m.1.isSome = true) : Document.ofJson? (.obj ms) = some s.overlay := by
  have hd : Distinct names ms := by
    refine ⟨hp, ?_⟩
    simpa [names] using ⟨h.upxPath.length_le, h.radare2Path.length_le,
      h.ghidraHeadlessPath.length_le, h.idaPath.length_le, h.unpackTimeoutSecs.length_le,
      h.decompileTimeoutSecs.length_le, h.probeTimeoutSecs.length_le⟩
  refine bind_fields? hd fun f hg => ?_
  have hu := h.upxPath.orDefault path?_shows (hg _ (by simp))
  have hr := h.radare2Path.orDefault path?_shows (hg _ (by simp))
  have hh := h.ghidraHeadlessPath.orDefault path?_shows (hg _ (by simp))
  have hi := h.idaPath.orDefault path?_shows (hg _ (by simp))
  have hut := h.unpackTimeoutSecs.orDefault word?_shows (hg _ (by simp))
  have hdt := h.decompileTimeoutSecs.orDefault word?_shows (hg _ (by simp))
  have hpt := h.probeTimeoutSecs.orDefault word?_shows (hg _ (by simp))
  simp [hu, hr, hh, hi, hut, hdt, hpt, overlay]

end

section
variable {α : Type} [Document α] {shown : List (Option String × Value) → Prop} {vs : List Value}

theorem Section.length_le (h : Section shown vs) : vs.length ≤ 1 := by
  cases h <;> simp

/-- A section that is missing is as good as an empty one. -/
theorem Section.orDefault (h : Section shown vs) {c d : α}
    (hc : ∀ {ms}, shown ms → (∀ m ∈ ms, m.1.isSome = true) →
      Document.ofJson? (.obj ms) = some c)
    (hd : Document.ofJson? (.obj []) = some d)
    (hp : ∀ {ms}, .obj ms ∈ vs → ∀ m ∈ ms, m.1.isSome = true)
    {f : Fields} {k : String} (hk : f.get? k = vs.head?) :
    f.orDefault k Document.ofJson? d = some c := by
  cases h with
  | missing h =>
    have he := hd.symm.trans (hc h (by simp))
    simpa [Fields.orDefault, hk] using he
  | object h => simp [Fields.orDefault, hk, hc h (hp List.mem_cons_self)]

end

section
variable {root : List (Option String × Value)}

theorem Settings.ofJson?_shown {s : Settings} (h : s.Shown root) (hn : Named root) :
    Document.ofJson? (.obj root) = some s.overlay := by
  have hd : Distinct names root := by
    refine ⟨hn _ _ .root, ?_⟩
    simpa [names] using ⟨h.io.length_le, h.obfuscation.length_le, h.tools.length_le⟩
  refine bind_fields? hd fun f hg => ?_
  have hi := h.io.orDefault IoSettings.ofJson?_shown rfl (fun hm => hn _ _ (.io hm))
    (hg _ (by simp))
  have ho := h.obfuscation.orDefault ObfuscationSettings.ofJson?_shown rfl
    (fun hm => hn _ _ (.obfuscation hm)) (hg _ (by simp))
  have ht := h.tools.orDefault ToolSettings.ofJson?_shown rfl (fun hm => hn _ _ (.tools hm))
    (hg _ (by simp))
  simp [hi, ho, ht, overlay]

/-- What was read for a section was read from the only object that is given for it. -/
theorem ofJson?_of_mem {α : Type} [Document α] {f : Fields} {k : String} {c d : α}
    {vs : List Value} {v : Value} (hl : vs.length ≤ 1) (hk : f.get? k = vs.head?) (hv : v ∈ vs)
    (hr : f.orDefault k Document.ofJson? d = some c) : Document.ofJson? v = some c := by
  obtain ⟨u, rfl⟩ := List.length_eq_one_iff.mp
    (Nat.le_antisymm hl (List.length_pos_of_mem hv))
  obtain rfl := List.mem_singleton.mp hv
  simpa [Fields.orDefault, hk] using hr

/-- A configuration is only read if the members can be told apart at every level. -/
theorem Level.distinct {names : List String} {ms : List (Option String × Value)}
    (hl : Level root names ms) {c : Config} (hc : Document.ofJson? (.obj root) = some c) :
    Distinct names ms := by
  replace hc : ((Value.obj root).fields? Settings.names).bind _ = some c := hc
  obtain ⟨f, hf, hc⟩ := Option.bind_eq_some_iff.mp hc
  obtain ⟨i, hi, hc⟩ := Option.bind_eq_some_iff.mp hc
  obtain ⟨o, ho, hc⟩ := Option.bind_eq_some_iff.mp hc
  obtain ⟨t, ht, -⟩ := Option.bind_eq_some_iff.mp hc
  obtain ⟨hd, hg⟩ := of_fields? hf
  simp only [Settings.names, List.forall_mem_cons] at hg
  have honce := hd.once
  simp only [Settings.names, List.forall_mem_cons] at honce
  cases hl with
  | root => exact hd
  | io h => exact distinct_of_bind (ofJson?_of_mem honce.1 hg.1 h hi)
  | obfuscation h => exact distinct_of_bind (ofJson?_of_mem honce.2.1 hg.2.1 h ho)
  | tools h => exact distinct_of_bind (ofJson?_of_mem honce.2.2.1 hg.2.2.1 h ht)

theorem ofJson?_eq_none (h : Repeated root ∨ ¬ Named root) :
    (Document.ofJson? (.obj root) : Option Config) = none := by
  rw [← Option.not_isSome_iff_eq_none, Option.isSome_iff_exists]
  rintro ⟨c, hc⟩
  rcases h with ⟨names, ms, k, hl, hk, h2⟩ | hn
  · exact absurd ((hl.distinct hc).once k hk) (by omega)
  · exact hn fun names ms hl => (hl.distinct hc).proper

end

/-- A text that gives some fields holds the defaults with these fields replaced, whatever blanks, order
and other members it has. It holds no configuration if a known name stands twice in one object, or if
some name escapes half of a surrogate pair only. -/
theorem Settings.parse_overlay (text : String) (root : List (Option String × Value))
    (ht : Holds text (.obj root)) :
    (∀ s : Settings, s.Shown root → Named root → Document.parse Config text = .ok s.overlay) ∧
    (Repeated root ∨ ¬ Named root →
      ∃ e, Document.parse Config text = .error (.serialization e)) := by
  have hr := read?_holds ht
  constructor
  · intro s hs hn
    rw [Document.parse, hr, Option.bind_some, ofJson?_shown hs hn]
  · intro h
    rw [Document.parse, hr, Option.bind_some, ofJson?_eq_none h]
    exact ⟨_, rfl⟩

/-- Two fields behind a member of another name, and a field that is given twice. -/
theorem Settings.parse_overlay_sparse :
    Document.parse Config
      "\x7b\"x\":[\x7b\"\\udfff\":-1\x7d],\n\"tools\" :\x7b\"probe_timeout_secs\":7,\"ida_path\":null\x7d\x7d" =
        .ok { tools := { probeTimeoutSecs := 7 } } ∧
    ∃ e, Document.parse Config "\x7b\"io\":\x7b\"max_file_size\":1,\"max_file_size\":1\x7d\x7d" =
      .error (.serialization e) := by
  have hn : ∀ {n cs}, Number.read cs = some (n, []) → Written (.num n) cs :=
    fun h => .num (Number.read_eq_some_iff.mp h)
  have hb : ∀ {c}, c ∈ [' ', '\n', '\r', '\t'] → Blank [c] := by simp [Blank]
  have hm : ∀ {k v ks cs}, Quoted k ks → Written v cs →
      WrittenMember (k, v) ([] ++ '"' :: (ks ++ ([] ++ ':' :: ([] ++ (cs ++ []))))) :=
    fun hk hv => .mk blank_nil hk blank_nil blank_nil hv blank_nil
  constructor
  · have hu : Quoted none "\\udfff\"".toList := readString_eq_some_iff.mp (by decide +kernel)
    have h1 : Written (.num (.neg 1)) "-1".toList := hn rfl
    have hx := Written.arr (.last blank_nil (.obj (.last (hm hu h1))) blank_nil)
    have h7 : Written (.nat 7) "7".toList := hn rfl
    have hp := hm (quoted_written "probe_timeout_secs") h7
    have ht := Written.obj (.more hp (.last (hm (quoted_written "ida_path") .null)))
    have hbreak := hb (c := '\n') (by decide)
    have hspace := hb (c := ' ') (by decide)
    have hl := WrittenMember.mk hbreak (quoted_written "tools") hspace blank_nil ht blank_nil
    have hr := Written.obj (.more (hm (quoted_written "x") hx) (.last hl))
    refine (parse_overlay _ _ ⟨[], _, [], blank_nil, hr, blank_nil, by decide +kernel⟩).1
      { tools := { idaPath := some none, probeTimeoutSecs := some 7 } } ?_ ?_
    · exact ⟨.missing ⟨.absent⟩, .missing ⟨.absent, .absent⟩, .object ⟨.absent, .absent, .absent,
        .once .absent, .absent, .absent, .once rfl⟩⟩
    · intro names ms hl
      cases hl with
      | root => simp
      | io h => simp [valuesOf] at h
      | obfuscation h => simp [valuesOf] at h
      | tools h =>
        obtain rfl := Value.obj.inj (List.mem_singleton.mp h)
        simp
  · have h1 : Written (.nat 1) "1".toList := hn rfl
    have hf := hm (quoted_written "max_file_size") h1
    have hr := Written.obj (.last (hm (quoted_written "io") (.obj (.more hf (.last hf)))))
    refine (parse_overlay _ _ ⟨[], _, [], blank_nil, hr, blank_nil, by decide +kernel⟩).2 (Or.inl ?_)
    exact ⟨_, _, "max_file_size", .io List.mem_cons_self, List.mem_cons_self, Nat.le_refl 2⟩

/-- Half of a surrogate pair spoils the name of a member, also where the member would be skipped. -/
theorem Settings.unpaired_name_refused :
    let root : List (Option String × Value) := [(none, .nat 0)]
    Holds "\x7b\"\\ud800\":0\x7d" (.obj root) ∧ ({} : Settings).Shown root ∧
    ∃ e, Document.parse Config "\x7b\"\\ud800\":0\x7d" = .error (.serialization e) := by
  intro root
  have hk : Quoted none "\\ud800\"".toList :=
    readString_eq_some_iff.mp (by decide +kernel)
  have hv : Written (.nat 0) ['0'] := .num (Number.read_eq_some_iff.mp rfl)
  have ht : Holds "\x7b\"\\ud800\":0\x7d" (.obj root) := ⟨[], _, [], blank_nil,
    .obj (.last (.mk blank_nil hk blank_nil blank_nil hv blank_nil)), blank_nil, rfl⟩
  have hn : ¬ Named root := fun h => absurd (h _ _ .root _ List.mem_cons_self) (by decide)
  refine ⟨ht, ⟨.missing ⟨.absent⟩, .missing ⟨.absent, .absent⟩, .missing ⟨.absent, .absent, .absent,
    .absent, .absent, .absent, .absent⟩⟩, ?_⟩
  rw [Document.parse, read?_holds ht, Option.bind_some, ofJson?_eq_none (Or.inr hn)]
  exact ⟨_, rfl⟩

end Triage
