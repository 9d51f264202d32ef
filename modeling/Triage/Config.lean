import Triage.Json.Record
import Triage.Path

/-! What an analysis can be told beforehand, the outside programs it will use, and the form of its log. -/
namespace Triage

structure IoConfig where
  /-- Larger files are not loaded. -/
  maxFileSize : UInt64 := 104857600
  deriving DecidableEq

structure ObfuscationConfig where
  /-- Indirect branches per byte above which control flow counts as obfuscated. -/
  indirectBranchDensity : Float := 0.01
  /-- Share of printable bytes below which strings count as obfuscated. -/
  printableRatioThreshold : Float := 0.2

structure ToolConfig where
  upxPath : Option String := none
  radare2Path : Option String := none
  ghidraHeadlessPath : Option String := none
  idaPath : Option String := none
  unpackTimeoutSecs : UInt64 := 60
  decompileTimeoutSecs : UInt64 := 30
  probeTimeoutSecs : UInt64 := 10
  deriving DecidableEq

structure Config where
  io : IoConfig := {}
  obfuscation : ObfuscationConfig := {}
  tools : ToolConfig := {}

namespace ToolConfig

def upx (t : ToolConfig) : String := t.upxPath.getD "upx"

def radare2 (t : ToolConfig) : String := t.radare2Path.getD "r2"

/-- The configured path, else the two environment variables that can name it. -/
def ghidra (t : ToolConfig) (env : String → Option String) : Option String :=
  t.ghidraHeadlessPath <|> env "GHIDRA_ANALYZE_HEADLESS" <|>
    (env "GHIDRA_INSTALL_DIR").map fun dir => Path.join (Path.join dir "support") "analyzeHeadless"

def ida (t : ToolConfig) (env : String → Option String) : String :=
  (t.idaPath <|> (env "IDA_INSTALL_DIR").map fun dir => Path.join dir "idat64").getD "idat64"

end ToolConfig

namespace Config

/-- Equal in every field, the two zeros of floats included. -/
def same (a b : Config) : Bool :=
  a.io == b.io && a.tools == b.tools &&
    a.obfuscation.indirectBranchDensity == b.obfuscation.indirectBranchDensity &&
    a.obfuscation.printableRatioThreshold == b.obfuscation.printableRatioThreshold

end Config

/-- Formats of log lines. -/
inductive LogFormat where
  | pretty
  | json
  deriving DecidableEq

namespace LogFormat

/-- Reads a name in any mixture of ASCII cases. -/
def parse (s : String) : Result LogFormat :=
  let t := s.map Char.toLower
  match [("pretty", pretty), ("text", pretty), ("json", json)].lookup t with
  | some f => .ok f
  | none => .error (.invalidInput s!"unknown log format: {t}")

end LogFormat

open Json

instance : Document IoConfig where
  toJson c := .record [("max_file_size", .nat c.maxFileSize.toNat)]
  ofJson? v := do
    let f ← v.fields? ["max_file_size"]
    let d : IoConfig := {}
    return { maxFileSize := ← f.orDefault "max_file_size" Value.word? d.maxFileSize }

instance : Document ObfuscationConfig where
  toJson c := .record
    [("indirect_branch_density", .float c.indirectBranchDensity),
     ("printable_ratio_threshold", .float c.printableRatioThreshold)]
  ofJson? v := do
    let f ← v.fields? ["indirect_branch_density", "printable_ratio_threshold"]
    let d : ObfuscationConfig := {}
    return {
      indirectBranchDensity :=
        ← f.orDefault "indirect_branch_density" Value.float? d.indirectBranchDensity
      printableRatioThreshold :=
        ← f.orDefault "printable_ratio_threshold" Value.float? d.printableRatioThreshold }

instance : Document ToolConfig where
  toJson c := .record
    [("upx_path", .ofOption c.upxPath), ("radare2_path", .ofOption c.radare2Path),
     ("ghidra_headless_path", .ofOption c.ghidraHeadlessPath), ("ida_path", .ofOption c.idaPath),
     ("unpack_timeout_secs", .nat c.unpackTimeoutSecs.toNat),
     ("decompile_timeout_secs", .nat c.decompileTimeoutSecs.toNat),
     ("probe_timeout_secs", .nat c.probeTimeoutSecs.toNat)]
  ofJson? v := do
    let f ← v.fields? ["upx_path", "radare2_path", "ghidra_headless_path", "ida_path",
      "unpack_timeout_secs", "decompile_timeout_secs", "probe_timeout_secs"]
    let d : ToolConfig := {}
    let path := Value.nullable? Value.string?
    return {
      upxPath := ← f.orDefault "upx_path" path d.upxPath
      radare2Path := ← f.orDefault "radare2_path" path d.radare2Path
      ghidraHeadlessPath := ← f.orDefault "ghidra_headless_path" path d.ghidraHeadlessPath
      idaPath := ← f.orDefault "ida_path" path d.idaPath
      unpackTimeoutSecs := ← f.orDefault "unpack_timeout_secs" Value.word? d.unpackTimeoutSecs
      decompileTimeoutSecs :=
        ← f.orDefault "decompile_timeout_secs" Value.word? d.decompileTimeoutSecs
      probeTimeoutSecs := ← f.orDefault "probe_timeout_secs" Value.word? d.probeTimeoutSecs }

instance : Document Config where
  toJson c := .record
    [("io", Document.toJson c.io), ("obfuscation", Document.toJson c.obfuscation),
     ("tools", Document.toJson c.tools)]
  ofJson? v := do
    let f ← v.fields? ["io", "obfuscation", "tools"]
    return {
      io := ← f.orDefault "io" Document.ofJson? {}
      obfuscation := ← f.orDefault "obfuscation" Document.ofJson? {}
      tools := ← f.orDefault "tools" Document.ofJson? {} }

end Triage
