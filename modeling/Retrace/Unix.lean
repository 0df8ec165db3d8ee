import Retrace.Outside.Shell
import Retrace.Unix.Running

/-!
# A system

A system that sessions may be run on: the files that it has, and its shells with
the programs that their commands can name. It is one of those there may be; nothing
that is said of sessions depends on it.
-/

namespace Retrace

namespace Unix

/-- What was collected by a channel. -/
def State.collected (s : State) (channel : Nat) : String :=
  ((s.channels[channel]?).map (Sh.collected s.ended)).getD ""

/-- The programs that there are. -/
def programs : List String := Utility.names ++ Calling.shells.map (·.1)

/-- The files at the beginning. -/
def files : Files := .system programs

/-- Runs a program with its name and the arguments that it is given, and what that has put off. -/
def session (path name : String) (args : List String) : Sh (Except Refusal Unit) := do
  let e := Running.engine Running.deepestNesting
  match ← Sh.attempt (Calling.runFile e false true path name args) with
  | .ok (.refused .isDirectory) => return .error .notPermitted
  | .ok (.refused r) => return .error r
  | .ok .uninterpreted => return .error .notFound
  | .ok (.misinterpreted _) => return .error .notPermitted
  | .ok .unreadable => return .error .notExecutable
  | _ =>
    Sh.change fun s => { s with streams := [] }
    Background.awaitAll e 0
    return .ok ()

/-- The shells of the system: a program is looked for if it is not given by a path. -/
def shell : Shell := fun program command files =>
  let begun := Startup.session files
  let path := if program.toList.contains '/' then some program else Path.find? begun program
  match path with
  | none => .error .notFound
  | some path =>
    let (r, s) := session path program ["-c", command] begun
    match r with
    | .done (.error r) => .error r
    | _ => .ok ⟨s.collected 1, s.collected 2, s.files⟩

end Unix

end Retrace
