import Triage.Error
import Triage.Json.Reader
import Triage.Json.Printer

/-!
Reading domain values from documents. A record is given by its members, in any order and among
members of other names, or by a list of its fields in their declared order.
-/
namespace Triage.Json

namespace Value

def bool? : Value → Option Bool
  | .bool b => some b
  | _ => none

def string? : Value → Option String
  | .str s => s
  | _ => none

/-- An integer from 0 to `2 ^ 64 - 1`, written without point and exponent. -/
def nat? : Value → Option Nat
  | .num (.nat n) => some n
  | _ => none

def word? (v : Value) : Option UInt64 := v.nat?.map Nat.toUInt64

def byte? (v : Value) : Option UInt8 :=
  v.nat?.bind fun n => if n < 256 then some n.toUInt8 else none

/-- Any number of the range, integers included. -/
def float? : Value → Option Float
  | .num (.nat n) => some n.toUInt64.toFloat
  | .num (.neg n) => some (-n.toUInt64.toFloat)
  | .num (.float x) => some x
  | _ => none

def list? {α : Type} (item : Value → Option α) : Value → Option (List α)
  | .arr xs => xs.mapM item
  | _ => none

def nullable? {α : Type} (item : Value → Option α) : Value → Option (Option α)
  | .null => some none
  | v => (item v).map some

/-- One of a few names, alone or as the only member of an object with the value null. -/
def choice? {α : Type} (names : List (String × α)) : Value → Option α
  | .str (some s) => names.lookup s
  | .obj [(some s, .null)] => names.lookup s
  | _ => none

end Value

/-- The fields of a record that were given, at most one of each name. -/
structure Fields where
  /-- Given as a list rather than by members. -/
  positional : Bool
  given : List (String × Value)

/-- Members whose name is not a proper text are refused; members of other names are dropped. -/
def namedMembers (ms : List (Option String × Value)) : Option (List (String × Value)) :=
  ms.mapM fun (k, v) => k.map (·, v)

def Value.fields? (names : List String) : Value → Option Fields
  | .obj ms => do
    let known := (← namedMembers ms).filter fun m => names.contains m.1
    if (known.map Prod.fst).Nodup then some ⟨false, known⟩ else none
  | .arr xs => if xs.length ≤ names.length then some ⟨true, names.zip xs⟩ else none
  | _ => none

namespace Fields

def get? (f : Fields) (name : String) : Option Value := f.given.lookup name

/-- A field that has to be given. -/
def required {α : Type} (f : Fields) (name : String) (item : Value → Option α) : Option α :=
  (f.get? name).bind item

/-- A field with a value to fall back on. -/
def orDefault {α : Type} (f : Fields) (name : String) (item : Value → Option α) (d : α) :
    Option α :=
  match f.get? name with
  | some v => item v
  | none => some d

/-- A field that may be null or, where fields are named, missing. -/
def optional {α : Type} (f : Fields) (name : String) (item : Value → Option α) :
    Option (Option α) :=
  match f.get? name with
  | some v => v.nullable? item
  | none => if f.positional then none else some none

end Fields

/-- Values that are kept as documents. -/
class Document (α : Type) where
  toJson : α → Value
  ofJson? : Value → Option α

namespace Document

/-- The value that a JSON text holds. -/
def parse (α : Type) [Document α] (s : String) : Result α :=
  match (read? s).bind ofJson? with
  | some a => .ok a
  | none => .error (.serialization "the text does not hold such a value")

/-- JSON text on one line. -/
def compact {α : Type} [Document α] (a : α) : String := (toJson a).compact

/-- JSON text on indented lines. -/
def pretty {α : Type} [Document α] (a : α) : String := (toJson a).pretty

end Document

/-- A text, or null. -/
def Value.ofOption : Option String → Value
  | none => .null
  | some s => .text s

end Triage.Json
