import Triage.Buffer
import Triage.Text.Utf8

/-!
The surroundings of an analysis: environment variables, files, programs and the time they may take.
Everything that uses them is written for an arbitrary host, whose state `ω` may answer differently each
time.
-/
namespace Triage

/-- Refusals of the operating system. -/
inductive OsError where
  | noEntry
  | accessDenied
  | notDirectory
  | isDirectory
  | nameTooLong
  /-- A zero byte in the name of a file. -/
  | nulInName
  /-- A zero byte in a command. -/
  | nulInCommand
  /-- Any other failure, by its text. -/
  | other (text : String)
  deriving DecidableEq

namespace OsError

def reason : OsError → String
  | noEntry => "No such file or directory"
  | accessDenied => "Permission denied"
  | notDirectory => "Not a directory"
  | isDirectory => "Is a directory"
  | nameTooLong => "File name too long"
  | nulInName => "file name contained an unexpected NUL byte"
  | nulInCommand => "nul byte found in provided data"
  | other text => text

/-- The number of a refusal by the system itself. -/
def number? : OsError → Option Nat
  | noEntry => some 2
  | accessDenied => some 13
  | notDirectory => some 20
  | isDirectory => some 21
  | nameTooLong => some 36
  | nulInName | nulInCommand | other _ => none

def message (e : OsError) : String :=
  match e.number? with
  | some n => s!"{e.reason} (os error {n})"
  | none => e.reason

end OsError

/-- Work that may have to wait and then ends, perhaps by a crash. -/
structure Job (α : Type) where
  /-- `none` if the work need not wait. -/
  delay : Option Duration
  /-- `none` is a crash. -/
  ending : Option (Result α)

namespace Job
variable {α : Type}

/-- Gives up when the budget is spent; work that need not wait is done first. `none` is a crash. -/
def bounded (j : Job α) (budget : Duration) : Option (Result α) :=
  if j.delay.any fun d => budget.toNanos < d.toNanos then some (.error (.timeout budget))
  else j.ending

/-- The same with a clock of its own, which the system may refuse. -/
def clocked (j : Job α) (clock : Except OsError Unit) (budget : Duration) : Option (Result α) :=
  match clock with
  | .ok () => j.bounded budget
  | .error e => some (.error (.io e.message))

/-- The same on a thread of its own, from which a crash comes back as a failure. -/
def boundedApart (j : Job α) (clock : Except OsError Unit) (budget : Duration) : Result α :=
  (j.clocked clock budget).getD (.error (.toolInvocation "bounded operation panicked"))

end Job

/-- A program to run, and the time it may take. -/
structure Command where
  program : String
  args : List String
  budget : Duration

/-- How a program ended, its output in the pieces in which it was read. -/
structure Completion where
  /-- `none` after a signal. -/
  exitCode : Option Int
  stdout : List Bytes
  stderr : List Bytes

inductive Ending where
  /-- There was no clock to run the program by. -/
  | unclocked (e : OsError)
  /-- The program could not be started. -/
  | refused (e : OsError)
  | timedOut
  /-- How the program ended could not be learned. -/
  | lost (e : OsError)
  /-- What the program wrote could not be read. -/
  | unread (e : OsError)
  | finished (c : Completion)

structure Host (ω : Type) where
  env : ω → String → Option String
  fileSize : ω → String → Except OsError Nat
  readFile : ω → String → Except OsError Bytes
  isFile : ω → String → Bool
  run : Command → ω → Ending × ω

/-- What a finished program has written, as text. -/
structure ToolOutput where
  exitCode : Option Int
  stdout : String
  stderr : String
  deriving DecidableEq

namespace ToolOutput

def success (o : ToolOutput) : Bool := o.exitCode == some 0

/-- The most that one read can bring. -/
def chunkSize : Nat := 8192

/-- Reads until a read brings nothing. All reads go into one chunk, over what earlier ones have left
in it, and from there the bytes that came are staged. -/
def drainInto (chunk staged : Buffer) : List Bytes → Buffer
  | [] => staged
  | piece :: reads =>
    let n := min piece.length chunk.size
    if n = 0 then staged
    else
      let chunk := chunk.receive piece
      drainInto chunk (staged.append (chunk.bytes.take n)) reads

/-- Collects the pieces of a stream. -/
def drain (reads : List Bytes) : Buffer := drainInto (.zeroed chunkSize) (.zeroed 0) reads

def text (reads : List Bytes) : String := Utf8.decode (drain reads).bytes

def ofCompletion (c : Completion) : ToolOutput := ⟨c.exitCode, text c.stdout, text c.stderr⟩

end ToolOutput

variable {ω : Type}

/-- Runs a program; any exit code is a result. -/
def Host.runTool (h : Host ω) (c : Command) (w : ω) : Result ToolOutput × ω :=
  let failed (what : String) (e : OsError) : Result ToolOutput :=
    .error (.toolInvocation s!"failed to {what} {c.program}: {e.message}")
  match h.run c w with
  | (.unclocked e, w) => (.error (.io e.message), w)
  | (.refused e, w) => (failed "spawn" e, w)
  | (.timedOut, w) => (.error (.timeout c.budget), w)
  | (.lost e, w) => (failed "wait for" e, w)
  | (.unread e, w) => (failed "read output of" e, w)
  | (.finished r, w) => (.ok (.ofCompletion r), w)

end Triage
