import Triage.Regex.ScalarSet
import Triage.Text.Script
import Triage.Text.Version

/-! Sets of characters by the name of a property. -/
namespace Triage.Regex

/-- A property by itself, or a property with the value that it has. -/
inductive PropertyName where
  | simple (name : List Char)
  | valued (name value : List Char)
  deriving DecidableEq

namespace PropertyName

def isGap (c : Char) : Bool := c == ' ' || c == '_' || c == '-'

/-- A name without what does not count in it: cases, gaps, characters beyond ASCII, and `is` in
front. The one name that would then be taken for another keeps its `is`. -/
def loose (name : List Char) : List Char :=
  let squeeze (cs : List Char) : List Char :=
    (cs.filter fun c => !isGap c && c.toNat < 128).map Char.toLower
  match name with
  | c :: d :: rest =>
    if c.toLower = 'i' ∧ d.toLower = 's' then
      if squeeze rest = ['c'] then ['i', 's', 'c'] else squeeze rest
    else squeeze name
  | _ => squeeze name

/-- Whether a loose name is one of these names. -/
def isAmong (name : List Char) (names : List String) : Bool :=
  names.any fun n => loose n.toList = name

def everything : ScalarSet := [(0, ScalarSet.maxScalar)]

/-- By general category, or group of categories. -/
def category? (name : List Char) : Option ScalarSet :=
  if isAmong name ["Any"] then some everything
  else if isAmong name ["Assigned"] then
    some (ScalarSet.diff everything (ScalarSet.ofCategories [.unassigned]))
  else if isAmong name ["ASCII"] then some [(0, 127)]
  else
    match Text.Category.all.find? fun c => isAmong name c.names with
    | some c => some (ScalarSet.ofCategories [c])
    | none =>
      (Text.Category.groups.find? fun g => isAmong name g.1).map fun g =>
        ScalarSet.ofCategories g.2

def script? (name : List Char) : Option ScalarSet :=
  (Text.scripts.find? fun s => isAmong name s.names).map fun s =>
    ScalarSet.ofRanges (Text.Ranges.read s.text)

/-- By script, with what is used in several scripts. -/
def scriptExtension? (name : List Char) : Option ScalarSet :=
  (Text.scripts.find? fun s => isAmong name s.names).map fun s =>
    ScalarSet.union (ScalarSet.diff (Text.Ranges.read s.text) (Text.Ranges.read s.rarely))
      (Text.Ranges.read s.also)

def versionNames (v : Text.Version) : List String :=
  let major := toString v.major
  let minor := toString v.minor
  [major ++ "." ++ minor, "V" ++ major ++ "_" ++ minor]

/-- What there was in a version of the standard. -/
def age? (name : List Char) : Option ScalarSet :=
  (Text.versions.find? fun v => isAmong name (versionNames v)).map fun last =>
    ScalarSet.ofRanges ((Text.versions.filter fun v =>
      v.major < last.major || (v.major == last.major && v.minor ≤ last.minor)).flatMap
        fun v => Text.Ranges.read v.text)

/-- Names that are taken for categories although properties with values have them too. -/
def categoryNames : List String := ["cf", "sc", "lc"]

/-- Properties first, then categories, then scripts. -/
def simple? (name : List Char) : Option ScalarSet :=
  let property := if isAmong name categoryNames then none
    else Text.properties.find? fun p => isAmong name p.names
  match property with
  | some p => some (ScalarSet.ofProperty p)
  | none => category? name <|> script? name

def scalars? : PropertyName → Option ScalarSet
  | simple name => simple? (loose name)
  | valued name value =>
    let name := loose name
    if isAmong name ["gc", "General_Category"] then category? (loose value)
    else if isAmong name ["sc", "Script"] then script? (loose value)
    else if isAmong name ["scx", "Script_Extensions"] then scriptExtension? (loose value)
    else if isAmong name ["age"] then age? (loose value)
    else none

end PropertyName
end Triage.Regex
