import Triage.Report
import Triage.Proofs.JsonRecord
import Triage.Keyed

/-! A report is read back from its own text, with the records that share its one flat object. -/
namespace Triage
open Json

instance : Document.Faithful Packer where
  printable p := printable_text p.name
  ne_null _ := nofun
  ofJson?_toJson p := by cases p <;> rfl

instance : Document.Faithful Decompiled where
  printable d := by simp [Document.toJson, printable_record]
  ne_null _ := nofun
  ofJson?_toJson d := by
    dsimp only [Document.ofJson?, Document.toJson]
    rw [fields?_record (by simp) (by simp)]
    rfl

instance : Document.Faithful UnpackOutcome where
  printable o := by
    obtain ⟨packer, success, path, message⟩ := o
    cases packer with
    | none => simp [Document.toJson, printable_record]
    | some p => simp [Document.toJson, printable_record]
  ne_null _ := nofun
  ofJson?_toJson o := by
    obtain ⟨packer, success, path, message⟩ := o
    dsimp only [Document.ofJson?, Document.toJson]
    rw [fields?_record (by simp) (by simp)]
    cases packer with
    | none => cases path <;> rfl
    | some p => cases p <;> cases path <;> rfl

theorem AntiDebug.ofFields?_of_subset (a : AntiDebug) {ms : List (String × Value)}
    (hn : (ms.map Prod.fst).Nodup) (h : a.members ⊆ ms) : ofFields? ⟨false, ms⟩ = some a := by
  simp only [members, List.cons_subset, List.nil_subset, and_true] at h
  obtain ⟨hp, ha, ht, hb⟩ := h
  simp only [ofFields?, required_of_mem hn hp, required_of_mem hn ha, required_of_mem hn ht,
    required_of_mem hn hb, list?_texts]
  rfl

theorem Obfuscation.ofFields?_of_subset (o : Obfuscation) {ms : List (String × Value)}
    (hn : (ms.map Prod.fst).Nodup) (h : o.members ⊆ ms) : ofFields? ⟨false, ms⟩ = some o := by
  simp only [members, List.cons_subset, List.nil_subset, and_true] at h
  obtain ⟨he, hc, hs, hi⟩ := h
  simp only [ofFields?, required_of_mem hn he, required_of_mem hn hc, required_of_mem hn hs,
    required_of_mem hn hi]
  rfl

theorem AntiDebug.printable_members (a : AntiDebug) : ∀ m ∈ a.members, m.2.Printable := by
  have hl : (Value.arr (a.apis.map .text)).Printable := by simp [printable_arr]
  simp [members, hl]

theorem Obfuscation.printable_members (o : Obfuscation)
    (he : (Number.float o.entropy).ReadsBack) : ∀ m ∈ o.members, m.2.Printable := by
  have hf : (Value.float o.entropy).Printable := he
  simp [members, hf]

namespace Report

theorem areWhole_texts (depth : Nat) (ss : List String) :
    areWhole depth (ss.map .text) = true := by
  induction ss with
  | nil => rfl
  | cons s ss ih =>
    rw [List.map_cons, areWhole, ih]
    rfl

theorem offsets?_record {es : List (String × List Nat)} (hn : (es.map Prod.fst).Nodup) :
    offsets? (.record (es.map fun e => (e.1, .arr (e.2.map .nat)))) = some es := by
  have hl : ((es.map fun e => (e.1, Value.arr (e.2.map .nat))).mapM fun m =>
      (m.2.list? Value.nat?).map (m.1, ·)) = some es := by
    clear hn
    induction es with
    | nil => rfl
    | cons e es ih => simp [ih]
  have hp : es.foldl (fun es e => Keyed.put Prod.fst e es) [] = es :=
    Keyed.foldl_put (by simpa using hn)
  rw [Value.record, offsets?, namedMembers_record]
  simp only [Option.bind_eq_bind, Option.bind_some, hl, hp]
  rfl

/-- The names of a report's members; the last two need not be there. -/
def memberNames (decompiled unpacked : Bool) : List String :=
  ["path", "size", "sha256"] ++ AntiDebug.memberNames ++ Obfuscation.memberNames ++
    ["packer", "signatures"] ++ (if decompiled then ["decompile"] else []) ++
    (if unpacked then ["unpack"] else [])

theorem names_members (r : Report) :
    r.members.map Prod.fst = memberNames r.decompile.isSome r.unpack.isSome := by
  obtain ⟨path, size, sha256, antiDebug, obfuscation, packer, signatures, decompile, unpack⟩ := r
  cases decompile <;> cases unpack <;> rfl

theorem nodup_names (r : Report) : (r.members.map Prod.fst).Nodup := by
  have hn : ∀ d u, (memberNames d u).Nodup := by decide
  rw [names_members]
  exact hn _ _

theorem names_known (r : Report) : ∀ k ∈ r.members.map Prod.fst,
    k ∈ ownNames ++ AntiDebug.memberNames ++ Obfuscation.memberNames := by
  have hk : ∀ d u, ∀ k ∈ memberNames d u,
      k ∈ ownNames ++ AntiDebug.memberNames ++ Obfuscation.memberNames := by decide
  rw [names_members]
  exact hk _ _

/-- What is not the report's own are flags, one number and a list of texts. -/
theorem whole_members (r : Report) : (r.members.any fun (k, v) =>
    !ownNames.contains k && !isWhole maxLevels v) = false := by
  have hd : ∀ {α : Type} [Document α] {k : String} (o : Option α), k ∈ ownNames →
      ((memberIfSome k o).any fun (k, v) => !ownNames.contains k && !isWhole maxLevels v) = false := by
    intro α _ k o hk
    cases o <;> simp [memberIfSome, hk]
  simp only [members, List.any_append, hd r.decompile (k := "decompile") (by decide),
    hd r.unpack (k := "unpack") (by decide)]
  simp [AntiDebug.members, Obfuscation.members, isWhole, areWhole_texts, ownNames, maxLevels,
    Value.float]

/-- A member that may be left out is read as nothing when no member has its name. -/
theorem optional_memberIfSome (r : Report) {α : Type} [Document α] [Document.Faithful α]
    {k : String} {o : Option α} (h : memberIfSome k o ⊆ r.members)
    (hk : k ∈ memberNames r.decompile.isSome r.unpack.isSome → o.isSome) :
    Fields.optional ⟨false, r.members⟩ k Document.ofJson? = some o := by
  cases o with
  | none =>
    rw [← names_members] at hk
    exact optional_of_not_mem fun hm => by simpa using hk hm
  | some a =>
    rw [optional_of_mem r.nodup_names (h List.mem_cons_self),
      Document.Faithful.nullable?_toJson]

theorem optional_packer (r : Report) :
    Fields.optional ⟨false, r.members⟩ "packer" Document.ofJson? = some r.packer := by
  obtain ⟨v, hv, hr⟩ : ∃ v, ("packer", v) ∈ r.members ∧
      v.nullable? Document.ofJson? = some r.packer := by
    refine ⟨_, List.mem_append_left _ (List.mem_append_left _ (List.mem_append_right _
      List.mem_cons_self)), ?_⟩
    cases r.packer with
    | none => rfl
    | some p => exact Document.Faithful.nullable?_toJson p
  rw [optional_of_mem r.nodup_names hv, hr]

theorem ofJson?_toJson (r : Report) (hn : (r.signatures.map Prod.fst).Nodup) :
    Document.ofJson? (Document.toJson r) = some r := by
  have hm := r.nodup_names
  have hf : (Value.obj (r.members.map fun (k, v) => (some k, v))).fields?
      (ownNames ++ AntiDebug.memberNames ++ Obfuscation.memberNames) = some ⟨false, r.members⟩ :=
    fields?_record hm r.names_known
  have hpath : ("path", Value.ofOption r.path) ∈ r.members := by simp [members]
  have hsize : ("size", Value.nat r.size) ∈ r.members := by simp [members]
  have hsha : ("sha256", Value.text r.sha256) ∈ r.members := by simp [members]
  have hsig : ("signatures", Value.record (r.signatures.map fun e =>
      (e.1, .arr (e.2.map .nat)))) ∈ r.members := by simp [members]
  have ha := r.antiDebug.ofFields?_of_subset hm fun m h => by simp [members, h]
  have ho := r.obfuscation.ofFields?_of_subset hm fun m h => by simp [members, h]
  have hk : ∀ d u, ("decompile" ∈ memberNames d u → d = true) ∧
      ("unpack" ∈ memberNames d u → u = true) := by decide
  have hdec := r.optional_memberIfSome (fun m h => by simp [members, h]) (hk _ _).1
  have hunp := r.optional_memberIfSome (fun m h => by simp [members, h]) (hk _ _).2
  show ofJson? (.obj (r.members.map fun (k, v) => (some k, v))) = some r
  rw [ofJson?, namedMembers_record, Option.bind_eq_bind, Option.bind_some, r.whole_members]
  simp only [Bool.false_eq_true, if_false, hf, Option.bind_eq_bind, Option.bind_some,
    optional_of_mem hm hpath, nullable?_ofOption, required_of_mem hm hsize,
    required_of_mem hm hsha, ha, ho, optional_packer, required_of_mem hm hsig, offsets?_record hn,
    hdec, hunp]
  rfl

theorem printable_memberIfSome {α : Type} [Document α] [Document.Faithful α] (k : String)
    (o : Option α) : ∀ m ∈ memberIfSome k o, m.2.Printable := by
  cases o with
  | none => simp [memberIfSome]
  | some a => simpa [memberIfSome] using Document.Faithful.printable a

theorem printable_toJson (r : Report) (hs : r.size ≤ Number.maxWord)
    (ho : ∀ e ∈ r.signatures, ∀ o ∈ e.2, o ≤ Number.maxWord)
    (he : (Number.float r.obfuscation.entropy).ReadsBack) : (Document.toJson r).Printable := by
  have hsig : (Value.record (r.signatures.map fun e => (e.1, .arr (e.2.map .nat)))).Printable := by
    simp only [printable_record, List.forall_mem_map, printable_arr]
    exact fun e hm o h => printable_nat (ho e hm o h)
  apply printable_record.mpr
  simp only [members, List.forall_mem_append]
  refine ⟨⟨⟨⟨⟨?_, r.antiDebug.printable_members⟩, r.obfuscation.printable_members he⟩, ?_⟩,
    printable_memberIfSome _ _⟩, printable_memberIfSome _ _⟩
  · simp [printable_nat hs]
  · refine List.forall_mem_cons.mpr ⟨?_, List.forall_mem_singleton.mpr hsig⟩
    cases r.packer with
    | none => exact printable_null
    | some p => exact Document.Faithful.printable p

/-- The text of a report holds that report, whatever its texts are and whichever parts it has. Only
numbers need a condition: the size and the offsets are words, and the entropy is read back from its
digits. The names of the signatures are the keys of a map, so no two of them are the same. -/
theorem parse_pretty_self (r : Report) (hs : r.size ≤ Number.maxWord)
    (ho : ∀ e ∈ r.signatures, ∀ o ∈ e.2, o ≤ Number.maxWord)
    (hn : (r.signatures.map Prod.fst).Nodup)
    (he : (Number.float r.obfuscation.entropy).ReadsBack) :
    Document.parse Report (Document.pretty r) = .ok r :=
  Document.parse_pretty (r.printable_toJson hs ho he) (r.ofJson?_toJson hn)

def awkward : Report where
  path := some "dir\\naïve \"name\".exe\n"
  size := 0xFFFFFFFFFFFFFFFF
  sha256 := ""
  antiDebug := ⟨true, ["IsDebuggerPresent", "\t\x01"], false, true⟩
  obfuscation := ⟨7.954196310386875, true, false, true⟩
  packer := some .upx
  signatures := [("zeta😀", [0, 0xFFFFFFFFFFFFFFFF]), ("", []), ("alpha", [7])]
  decompile := some ⟨false, "", "\x00\x7d"⟩
  unpack := some ⟨none, false, none, "],"⟩

theorem parse_pretty_self_awkward : awkward.size ≤ Number.maxWord ∧
    Document.parse Report (Document.pretty awkward) = .ok awkward := by
  have he : (Number.float 7.954196310386875).ReadsBack := by
    have ht : Number.floatText 7.954196310386875 = "7.954196310386875".toList := by decide +kernel
    have hs : Number.scale (7954196310386875 : Nat).toUInt64.toFloat (-15) =
        some 7.954196310386875 := by
      rw [Number.scale]
      decide +kernel
    show Number.read (Number.floatText 7.954196310386875) = _
    rw [ht]
    show some (Number.assemble false 7954196310386875 (-15) none, []) = _
    rw [Number.assemble, Number.assemble.finish, hs]
    rfl
  exact ⟨by decide, parse_pretty_self awkward (by decide) (by decide) (by decide) he⟩

end Report
end Triage
