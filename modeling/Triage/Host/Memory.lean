import Triage.Host
import Triage.Path

/-!
A host held in memory: a tree of files under one working directory, with small programs in it.
Outside of the working directory nothing exists.
-/
namespace Triage.Memory

/-- A small program. It does what the fields say, from the first to the last. -/
structure Program where
  executable : Bool := true
  /-- Exit code if the first argument asks for the version. -/
  versionExit : Option Nat := none
  /-- Prints each argument in angle brackets. -/
  echo : Bool := false
  stdout : Bytes := []
  stderr : Bytes := []
  /-- Copies the file that the second argument names to the fourth. -/
  copy : Bool := false
  pause : Option Duration := none
  signalled : Bool := false
  exitCode : Nat := 0

inductive Entry where
  | directory
  | file (data : Bytes)
  | program (p : Program)

/-- Entries by their names from the working directory down. -/
structure Machine where
  entries : List (List String × Entry) := []
  env : List (String × String) := []

inductive Place where
  | inside (names : List String)
  | outside

/-- The names in a path. -/
def names (path : String) : List String :=
  ((Path.segments path).filter fun s => !s.isEmpty).map String.ofList

namespace Machine

def at? (m : Machine) : List String → Option Entry
  | [] => some .directory
  | names => m.entries.lookup names

def erase (m : Machine) (names : List String) : Machine :=
  { m with entries := m.entries.filter fun e => e.1 != names }

def put (m : Machine) (names : List String) (e : Entry) : Machine :=
  { m with entries := (names, e) :: (m.erase names).entries }

/-- Adds the directories above an entry. -/
def putParents (m : Machine) (names : List String) : Machine :=
  (List.range names.length).foldl
    (fun m n => if (m.at? (names.take n)).isSome then m else m.put (names.take n) .directory) m

def install (m : Machine) (names : List String) (e : Entry) : Machine :=
  (m.putParents names).put names e

def entryAt? (m : Machine) : Place → Option Entry
  | .inside names => m.at? names
  | .outside => some .directory

def isDirectory (m : Machine) (p : Place) : Bool :=
  match m.entryAt? p with
  | some .directory => true
  | _ => false

/-- One step down, up or nowhere. -/
def step (m : Machine) (p : Place) (name : String) : Except OsError Place :=
  if !m.isDirectory p then .error .notDirectory
  else if name = "." then .ok p
  else if 255 < name.utf8ByteSize then .error .nameTooLong
  else
    match p with
    | .outside => if name = ".." then .ok .outside else .error .noEntry
    | .inside names =>
      if name = ".." then .ok (if names.isEmpty then .outside else .inside names.dropLast)
      else if (m.at? (names ++ [name])).isSome then .ok (.inside (names ++ [name]))
      else .error .noEntry

def walk (m : Machine) : Place → List String → Except OsError Place
  | p, [] => .ok p
  | p, name :: names => do walk m (← m.step p name) names

/-- Follows a path; a separator at its end asks for a directory. -/
def resolve (m : Machine) (path : String) : Except OsError Place := do
  if path.toList.contains (Char.ofNat 0) then .error .nulInName
  if path.isEmpty then .error .noEntry
  if 4096 ≤ path.utf8ByteSize then .error .nameTooLong
  let start : Place := if Path.isAbsolute path then .outside else .inside []
  let p ← m.walk start (names path)
  if path.endsWith "/" && !m.isDirectory p then .error .notDirectory
  return p

def find (m : Machine) (path : String) : Except OsError Entry := do
  return (m.entryAt? (← m.resolve path)).getD .directory

/-- The size that a directory is said to have. -/
def directorySize : Nat := 4096

def fileSize (m : Machine) (path : String) : Except OsError Nat := do
  match ← m.find path with
  | .directory => return directorySize
  | .file data => return data.length
  | .program _ => return 0

def readFile (m : Machine) (path : String) : Except OsError Bytes := do
  match ← m.find path with
  | .directory => .error .isDirectory
  | .file data => return data
  | .program _ => return []

def isFile (m : Machine) (path : String) : Bool :=
  match m.find path with
  | .ok (.file _) | .ok (.program _) => true
  | _ => false

/-- The program in a file that may be executed. -/
def programAt (m : Machine) (path : String) : Except OsError Program := do
  match ← m.find path with
  | .program p => if p.executable then return p else .error .accessDenied
  | _ => .error .accessDenied

/-- Tries one directory after the other. A file that may not be executed is passed over, and is the
failure if nothing else is found; without one it is the last failure that counts. -/
def search (m : Machine) (name : String) (denied : Bool) (last : OsError) :
    List String → Except OsError Program
  | [] => .error (if denied then .accessDenied else last)
  | dir :: dirs =>
    match m.programAt (if dir.isEmpty then name else dir ++ "/" ++ name) with
    | .ok p => .ok p
    | .error .accessDenied => m.search name true .accessDenied dirs
    | .error .noEntry => m.search name denied .noEntry dirs
    | .error .notDirectory => m.search name denied .notDirectory dirs
    | .error e => .error e

/-- A name with a separator is a path, any other is looked up. -/
def programNamed (m : Machine) (name : String) : Except OsError Program :=
  if name.isEmpty then .error .noEntry
  else if name.toList.contains '/' then m.programAt name
  else m.search name false .noEntry (Path.searchList ((m.env.lookup "PATH").getD "/bin:/usr/bin"))

/-- Where a copy goes: into a directory, over a file, or to a new file. -/
def copyTarget (m : Machine) (source : List String) (target : String) :
    Except OsError (List String) :=
  match m.resolve target with
  | .ok (.inside names) =>
    .ok (if m.isDirectory (.inside names) then names ++ (source.getLast?).toList else names)
  | .ok .outside => .error .accessDenied
  | .error .noEntry =>
    match ((Path.segments target).map String.ofList).reverse with
    | [] => .error .noEntry
    | name :: above =>
      if name.isEmpty || name = ".." || name = "." then .error .noEntry
      else
        match m.walk (if Path.isAbsolute target then .outside else .inside [])
            (above.reverse.filter fun s => !s.isEmpty) with
        | .ok (.inside names) =>
          if m.isDirectory (.inside names) then .ok (names ++ [name]) else .error .notDirectory
        | .ok .outside => .error .accessDenied
        | .error e => .error e
  | .error e => .error e

/-- Copies a file, or says why not. -/
def copyFile (m : Machine) (source target : String) : Machine × Option String :=
  match m.resolve source with
  | .error e => (m, some s!"cp: cannot stat '{source}': {e.reason}\n")
  | .ok place =>
    match place, m.entryAt? place with
    | .inside names, some (.file data) =>
      match m.copyTarget names target with
      | .ok copied =>
        if copied = names then (m, some s!"cp: '{source}' and '{target}' are the same file\n")
        else (m.put copied (.file data), none)
      | .error e => (m, some s!"cp: cannot create regular file '{target}': {e.reason}\n")
    | _, _ => (m, some s!"cp: -r not specified; omitting directory '{source}'\n")

/-- Output comes in reads of at most this size. -/
def readSize : Nat := 8192

/-- Cuts a stream into `n` reads. -/
def reads : Nat → Bytes → List Bytes
  | 0, _ => []
  | n + 1, data => data.take readSize :: reads n (data.drop readSize)

def stream (data : Bytes) : List Bytes := reads ((data.length + readSize - 1) / readSize) data

def runProgram (p : Program) (args : List String) (budget : Duration) (m : Machine) :
    Ending × Machine :=
  let asksVersion := args.head?.any fun a => a = "-v" || a = "-version"
  match (if asksVersion then p.versionExit else none) with
  | some code =>
    if budget.toNanos = 0 then (.timedOut, m)
    else (.finished ⟨some (code % 256), [], []⟩, m)
  | none =>
    if budget.toNanos = 0 then (.timedOut, m)
    else
      let echoed := if p.echo then args.flatMap fun a => Utf8.encode s!"<{a}>\n" else []
      let (m, complaint) :=
        if p.copy then m.copyFile (args.getD 1 "") (args.getD 3 "") else (m, none)
      if p.pause.any fun d => budget.toNanos < d.toNanos then (.timedOut, m)
      else
        let code : Option Int := if p.signalled then none else some (p.exitCode % 256 : Nat)
        (.finished ⟨code, stream (echoed ++ p.stdout),
          stream (p.stderr ++ Utf8.encode (complaint.getD ""))⟩, m)

def run (c : Command) (m : Machine) : Ending × Machine :=
  if (c.program :: c.args).any fun s => s.toList.contains (Char.ofNat 0) then
    (.refused .nulInCommand, m)
  else
    match m.programNamed c.program with
    | .ok p => m |> runProgram p c.args c.budget
    | .error e => (.refused e, m)

/-- Files of `after` that are not the same in `m`, by path. -/
def changes (m after : Machine) : List (String × Bytes) :=
  (after.entries.filterMap fun (names, e) =>
    match e, m.at? names with
    | .file data, some (.file old) =>
      if data = old then none else some ("/".intercalate names, data)
    | .file data, _ => some ("/".intercalate names, data)
    | _, _ => none).mergeSort fun a b => a.1 ≤ b.1

end Machine

def host : Host Machine where
  env m name := m.env.lookup name
  fileSize := Machine.fileSize
  readFile := Machine.readFile
  isFile := Machine.isFile
  run := Machine.run

end Triage.Memory
