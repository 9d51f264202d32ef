/-! Paths as texts with `/` between their parts. -/
namespace Triage.Path

/-- Texts between separators, `acc` being the part of the first one already seen, reversed. -/
def splitFrom (sep : Char) (acc : List Char) : List Char → List (List Char)
  | [] => [acc.reverse]
  | c :: cs =>
    if c = sep then acc.reverse :: splitFrom sep [] cs else splitFrom sep (c :: acc) cs

def segments (p : String) : List (List Char) := splitFrom '/' [] p.toList

/-- The directories of a search path. -/
def searchList (paths : String) : List String := (splitFrom ':' [] paths.toList).map String.ofList

inductive Component where
  | root
  | current
  | parent
  | name (s : List Char)
  deriving DecidableEq

def isAbsolute (p : String) : Bool := p.toList.head? == some '/'

def componentOf (s : List Char) : Option Component :=
  if s = [] ∨ s = ['.'] then none else if s = ['.', '.'] then some .parent else some (.name s)

/-- The parts that count: repeated and trailing separators do not, nor does `.` but in front. -/
def components (p : String) : List Component :=
  let rest := (segments p).filterMap componentOf
  if isAbsolute p then .root :: rest
  else if (segments p).head? = some ['.'] then .current :: rest
  else rest

/-- `p` followed by `q`; an absolute `q` stands for itself. -/
def join (p q : String) : String :=
  if isAbsolute q then q
  else if p.isEmpty ∨ p.toList.getLast? = some '/' then p ++ q
  else p ++ "/" ++ q

end Triage.Path
