import Retrace.Outside.Shell
import Retrace.Scope
import Retrace.Settings
import Retrace.Terminal
import Retrace.Text.Utf8

/-!
# Native functions

What a native function can do. It runs in a scope of its own (`NativeCall`), in
which its arguments are bound: to its parameters, or to the positions `0`, `1`
and so on if it takes any number of them. It looks them up there and nowhere
else. Of the session it may read the settings, and change the `Surroundings`,
the terminal and the files; scopes and ledger are out of its reach.

The builtins are native functions, and so is what the host adds. The host also
brings the shell that commands are given to (`Host`).
-/

namespace Retrace

/-- What native functions change. -/
structure Surroundings where
  terminal : Terminal
  files : Files

/-- The call of a native function. -/
structure NativeCall where
  scopes : Scopes
  /-- The scope in which the arguments are bound. -/
  scope : ScopeId
  /-- The number of arguments. -/
  argc : Nat
  settings : Settings

/-- The running of a native function. -/
def NativeM (α : Type) : Type :=
  NativeCall → Surroundings → Except Failure α × Surroundings

namespace NativeM

instance : Monad NativeM where
  pure a := fun _ s => (.ok a, s)
  bind x f := fun call s =>
    match x call s with
    | (.ok a, s) => f a call s
    | (.error e, s) => (.error e, s)

/-- Fails. -/
def fail {α : Type} (e : Failure) : NativeM α :=
  fun _ s => (.error e, s)

/-- What may fail without changing anything. -/
def ofExcept {α : Type} (x : Except Failure α) : NativeM α :=
  fun _ s => (x, s)

/-- The call itself. -/
def call : NativeM NativeCall :=
  fun call s => (.ok call, s)

/-- The surroundings. -/
def surroundings : NativeM Surroundings :=
  fun _ s => (.ok s, s)

/-- The argument bound to `name`. -/
def arg (name : String) : NativeM Value := do
  let c ← call
  match ← ofExcept (c.scopes.getLocal c.scope name) with
  | some v => pure v
  | none => fail (.undefinedName name)

/-- The argument bound to `name`, which has to be a string. -/
def strArg (name : String) : NativeM String := do
  match ← arg name with
  | .str s => pure s
  | v => fail (.unexpected .str v)

/-- The arguments bound to some names. -/
def args : List String → NativeM (List Value)
  | [] => pure []
  | name :: names => do
    let v ← arg name
    let vs ← args names
    pure (v :: vs)

/-- The name the argument at a position is bound to if there are no parameters. -/
def positionName (position : Nat) : String :=
  toString position

/-- All arguments by their positions. -/
def positional : NativeM (List Value) := do
  let c ← call
  args ((List.range c.argc).map positionName)

/-- Changes the terminal. -/
def modifyTerminal (f : Terminal → Terminal) : NativeM Unit :=
  fun _ s => (.ok (), { s with terminal := f s.terminal })

/-- Prints a text. -/
def print (text : String) : NativeM Unit :=
  modifyTerminal (·.print text)

/-- Sets the files. -/
def setFiles (files : Files) : NativeM Unit :=
  fun _ s => (.ok (), { s with files := files })

/-- What the outside world has to grant, or else the call fails. -/
def granted {α : Type} (operation : OutsideOperation) (target : String) :
    Except Refusal α → NativeM α
  | .ok a => pure a
  | .error r => fail (.outside operation target r)

end NativeM

/-- What the host brings: what it runs for the native functions it adds, by their keys, and the
    shell. -/
structure Host where
  native : String → NativeM Value
  shell : Shell

namespace Builtin

open NativeM

/-- Prints the texts of all arguments, and a line break. -/
def runPrintln : NativeM Value := do
  let vs ← positional
  print (String.join (vs.map Value.text) ++ "\n")
  pure .void

/-- Reads a file. -/
def runRead : NativeM Value := do
  let filename ← strArg "filename"
  let text ← granted .read filename ((← surroundings).files.readText filename)
  pure (.str text)

/-- Writes a file. -/
def runWrite : NativeM Value := do
  let filename ← strArg "filename"
  let data ← strArg "data"
  setFiles (← granted .write filename ((← surroundings).files.writeText filename data))
  pure .void

/-- Makes a file empty, creating it if need be. Nothing happens if that is refused. -/
def runTouch : NativeM Value := do
  let filename ← strArg "filename"
  match (← surroundings).files.writeText filename "" with
  | .ok files => setFiles files
  | .error _ => pure ()
  pure .void

/-- Removes a file. Nothing happens if that is refused. -/
def runDelete : NativeM Value := do
  let filename ← strArg "filename"
  match (← surroundings).files.delete filename with
  | .ok files => setFiles files
  | .error _ => pure ()
  pure .void

/-- Has a command run and prints its output, and then its error output. -/
def runShell (shell : Shell) : NativeM Value := do
  let command ← strArg "cmd"
  let program := (← call).settings.shell
  let transcript ← granted .shell command
    (shell.start program command (← surroundings).files)
  setFiles transcript.files
  print (Text.Utf8.decode (Text.Octets.toBytes transcript.output))
  print (Text.Utf8.decode (Text.Octets.toBytes transcript.errors))
  pure .void

/-- Runs a builtin. -/
def run (shell : Shell) : Builtin → NativeM Value
  | .println => runPrintln
  | .read => runRead
  | .write => runWrite
  | .touch => runTouch
  | .delete => runDelete
  | .shell => runShell shell

/-- The name of a builtin. -/
def name : Builtin → String
  | println => "println"
  | read => "read"
  | write => "write"
  | touch => "touch"
  | delete => "delete"
  | shell => "shell"

/-- The parameters of a builtin. -/
def params : Builtin → List String
  | println => []
  | read => ["filename"]
  | write => ["filename", "data"]
  | touch => ["filename"]
  | delete => ["filename"]
  | shell => ["cmd"]

/-- The builtin as a function. -/
def function (b : Builtin) : NativeFunction where
  name := b.name
  params := b.params
  variadic := b == println
  code := .builtin b

/-- The builtins. -/
def all : List Builtin := [println, read, write, touch, delete, shell]

end Builtin

/-- Runs what a native function stands for. -/
def NativeCode.run (host : Host) : NativeCode → NativeM Value
  | .builtin b => b.run host.shell
  | .host key => host.native key

end Retrace
