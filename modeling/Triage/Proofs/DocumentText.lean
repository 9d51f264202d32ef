import Triage.Config
import Triage.Proofs.ReportText
import Triage.Regex.Search

/-! Configurations, signatures, matches and the parts of a report are read back from their own text,
on one line or on many. -/
namespace Triage
open Json

instance : Document.Faithful IoConfig where
  printable c := by simp [Document.toJson, printable_record]
  ne_null _ := nofun
  ofJson?_toJson c := by
    dsimp only [Document.ofJson?, Document.toJson]
    rw [fields?_record (by simp) (by simp)]
    simp [Fields.orDefault, get?_cons]

instance : Document.Faithful ToolConfig where
  printable c := by simp [Document.toJson, printable_record]
  ne_null _ := nofun
  ofJson?_toJson c := by
    dsimp only [Document.ofJson?, Document.toJson]
    rw [fields?_record (by simp) (by simp)]
    simp [Fields.orDefault, get?_cons]

instance : Document.Faithful Category where
  printable c := printable_text c.name
  ne_null _ := nofun
  ofJson?_toJson c := by cases c <;> rfl

instance : Document.Faithful Strategy where
  printable s := printable_text s.name
  ne_null _ := nofun
  ofJson?_toJson s := by cases s <;> rfl

instance : Document.Faithful DecompilerKind where
  printable k := printable_text k.name
  ne_null _ := nofun
  ofJson?_toJson k := by cases k <;> rfl

instance : Document.Faithful Signature where
  printable s := by simp [Document.toJson, printable_record, printable_arr]
  ne_null _ := nofun
  ofJson?_toJson s := by
    have hp : (Value.arr (s.patterns.map fun p => .arr (p.map fun b => .nat b.toNat))).list?
        (Value.list? Value.byte?) = some s.patterns := list?_map (list?_map byte?_nat) s.patterns
    have hc : Document.ofJson? (Document.toJson s.category) = some s.category :=
      Document.Faithful.ofJson?_toJson s.category
    dsimp only [Document.ofJson?, Document.toJson] at hc ⊢
    rw [fields?_record (by simp) (by simp)]
    simp [Fields.required, get?_cons, hp, hc]

instance : Document.Faithful BinaryStructure where
  printable b := by simp [Document.toJson, printable_record, printable_arr]
  ne_null _ := nofun
  ofJson?_toJson b := by
    dsimp only [Document.ofJson?, Document.toJson]
    rw [fields?_record (by simp) (by simp)]
    simp [Fields.required, get?_cons]

instance : Document.Faithful AntiDebug where
  printable a := printable_record.mpr a.printable_members
  ne_null _ := nofun
  ofJson?_toJson a := by
    have hn : (a.members.map Prod.fst).Nodup := by simp [AntiDebug.members]
    dsimp only [Document.ofJson?, Document.toJson]
    rw [fields?_record hn (by simp [AntiDebug.members, AntiDebug.memberNames]), Option.bind_some]
    exact a.ofFields?_of_subset hn (List.Subset.refl _)

namespace RegexMatch

/-- All numbers are words. -/
def Fits (m : RegexMatch) : Prop :=
  m.offset ≤ Number.maxWord ∧ m.span.1 ≤ Number.maxWord ∧ m.span.2 ≤ Number.maxWord

instance (m : RegexMatch) : Decidable m.Fits := inferInstanceAs (Decidable (_ ∧ _ ∧ _))

theorem printable_toJson {m : RegexMatch} (hm : m.Fits) : (Document.toJson m).Printable := by
  obtain ⟨ho, hs, ht⟩ := hm
  simp [Document.toJson, printable_record, printable_arr, printable_nat ho, printable_nat hs,
    printable_nat ht]

theorem ofJson?_toJson (m : RegexMatch) : Document.ofJson? (Document.toJson m) = some m := by
  dsimp only [Document.ofJson?, Document.toJson]
  rw [fields?_record (by simp) (by simp)]
  rfl

end RegexMatch

/-- One line of text holds its value, whatever texts, paths, bytes and words there are in it. -/
theorem values_read_from_own_line :
    (∀ c : IoConfig, Document.parse IoConfig (Document.compact c) = .ok c) ∧
    (∀ c : ToolConfig, Document.parse ToolConfig (Document.compact c) = .ok c) ∧
    (∀ c : Category, Document.parse Category (Document.compact c) = .ok c) ∧
    (∀ s : Signature, Document.parse Signature (Document.compact s) = .ok s) ∧
    (∀ m : RegexMatch, m.Fits → Document.parse RegexMatch (Document.compact m) = .ok m) ∧
    (∀ p : Packer, Document.parse Packer (Document.compact p) = .ok p) ∧
    (∀ s : Strategy, Document.parse Strategy (Document.compact s) = .ok s) ∧
    (∀ k : DecompilerKind, Document.parse DecompilerKind (Document.compact k) = .ok k) ∧
    (∀ o : UnpackOutcome, Document.parse UnpackOutcome (Document.compact o) = .ok o) ∧
    (∀ d : Decompiled, Document.parse Decompiled (Document.compact d) = .ok d) ∧
    (∀ b : BinaryStructure, Document.parse BinaryStructure (Document.compact b) = .ok b) ∧
    ∀ a : AntiDebug, Document.parse AntiDebug (Document.compact a) = .ok a := by
  have hf : ∀ {α : Type} [Document α] [Document.Faithful α] (a : α),
      Document.parse α (Document.compact a) = .ok a := Document.Faithful.parse_compact_self
  have hm : ∀ m : RegexMatch, m.Fits → Document.parse RegexMatch (Document.compact m) = .ok m :=
    fun m h => Document.parse_compact (RegexMatch.printable_toJson h) m.ofJson?_toJson
  exact ⟨hf, hf, hf, hf, hm, hf, hf, hf, hf, hf, hf, hf⟩

def lastMatch : RegexMatch :=
  ⟨0xFFFFFFFFFFFFFFFF, "\"\\\x00é", (0, 0xFFFFFFFFFFFFFFFF)⟩

theorem values_read_from_own_line_last : lastMatch.Fits ∧
    Document.parse RegexMatch (Document.compact lastMatch) = .ok lastMatch := by
  have hm : lastMatch.Fits := by decide
  exact ⟨hm, values_read_from_own_line.2.2.2.2.1 lastMatch hm⟩

theorem ObfuscationConfig.printable_toJson {o : ObfuscationConfig}
    (hd : (Number.float o.indirectBranchDensity).ReadsBack)
    (hp : (Number.float o.printableRatioThreshold).ReadsBack) : (Document.toJson o).Printable :=
  printable_record.mpr (List.forall_mem_cons.mpr ⟨hd, List.forall_mem_singleton.mpr hp⟩)

theorem ObfuscationConfig.ofJson?_toJson (o : ObfuscationConfig) :
    Document.ofJson? (Document.toJson o) = some o := by
  dsimp only [Document.ofJson?, Document.toJson]
  rw [fields?_record (by simp) (by simp)]
  rfl

namespace Config

theorem printable_toJson {c : Config} (ho : (Document.toJson c.obfuscation).Printable) :
    (Document.toJson c).Printable := by
  have hi : (Document.toJson c.io).Printable := Document.Faithful.printable c.io
  have ht : (Document.toJson c.tools).Printable := Document.Faithful.printable c.tools
  apply printable_record.mpr
  rw [List.forall_mem_cons, List.forall_mem_cons, List.forall_mem_singleton]
  exact ⟨hi, ho, ht⟩

theorem ofJson?_toJson (c : Config) : Document.ofJson? (Document.toJson c) = some c := by
  have hi := Document.Faithful.ofJson?_toJson c.io
  have ho := c.obfuscation.ofJson?_toJson
  have ht := Document.Faithful.ofJson?_toJson c.tools
  have hf : (Document.toJson c).fields? ["io", "obfuscation", "tools"] =
      some ⟨false, [("io", Document.toJson c.io), ("obfuscation", Document.toJson c.obfuscation),
        ("tools", Document.toJson c.tools)]⟩ := fields?_record (by simp) (by simp)
  show ((Document.toJson c).fields? ["io", "obfuscation", "tools"]).bind _ = some c
  rw [hf]
  simp [Fields.orDefault, get?_cons, hi, ho, ht]

/-- The text of a configuration holds that configuration, with nothing left to its defaults. Paths
may hold any characters; only the two thresholds must be read back from their digits. -/
theorem config_read_from_own_text (c : Config)
    (hd : (Number.float c.obfuscation.indirectBranchDensity).ReadsBack)
    (hp : (Number.float c.obfuscation.printableRatioThreshold).ReadsBack) :
    Document.parse Config (Document.pretty c) = .ok c :=
  Document.parse_pretty (printable_toJson (ObfuscationConfig.printable_toJson hd hp))
    c.ofJson?_toJson

def awkward : Config where
  io := ⟨0xFFFFFFFFFFFFFFFF⟩
  obfuscation := ⟨-1e-7, 0.35⟩
  tools := {
    upxPath := some "C:\\tools\\\"upx\"\n"
    radare2Path := some ""
    idaPath := some "\x1f/naïve/😀"
    unpackTimeoutSecs := 0
    probeTimeoutSecs := 0xFFFFFFFFFFFFFFFF }

theorem config_read_from_own_text_awkward :
    (Number.float awkward.obfuscation.indirectBranchDensity).ReadsBack ∧
    (Number.float awkward.obfuscation.printableRatioThreshold).ReadsBack ∧
    Document.parse Config (Document.pretty awkward) = .ok awkward := by
  have hd : (Number.float (-1e-7)).ReadsBack := by
    have ht : Number.floatText (-1e-7) = "-1e-7".toList := by decide +kernel
    refine Number.readsBack_float true 1 (-7) (by rw [ht]; rfl) ?_
    rw [Number.scale]
    decide +kernel
  have hp : (Number.float 0.35).ReadsBack := by
    have ht : Number.floatText 0.35 = "0.35".toList := by decide +kernel
    refine Number.readsBack_float false 35 (-2) (by rw [ht]; rfl) ?_
    rw [Number.scale]
    decide +kernel
  exact ⟨hd, hp, config_read_from_own_text awkward hd hp⟩

end Config
end Triage
