import Retrace.Unix.Execution

/-!
# Running scripts

A script is read and run line by line, so that what a line says can matter for
how the next one is read. Commands contain commands, functions are called by
others, and a program can be a shell of its own: all of this is run by an
`Engine`. `engine` ties it to itself, and the number it is given bounds how
deeply commands may be nested.
-/

namespace Retrace.Unix.Running

/-! ### Faults -/

/-- A line of a script whose first line has the given number. -/
def lineOf (first : Nat) (script : String) (line : Nat) : String :=
  ((script.splitOn "\n")[line - first]?).getD ""

/-- The complaint about a fault, in the extended dialect. -/
def extendedFault (text : Nat → String) (label : Nat → String) : Fault → List String
  | .unexpected token line _ =>
    [label line ++ "syntax error near unexpected token \x60" ++ token ++ "'",
      label line ++ "\x60" ++ text line ++ "'"]
  | .ended line _ => [label (line + 1) ++ "syntax error: unexpected end of file"]
  | .unmatched mark line => [label line ++ "unexpected EOF while looking for matching \x60" ++ mark ++ "'"]
  | .malformed problem token line =>
    [label line ++ problem, label line ++ "syntax error near \x60" ++ token ++ "'",
      label line ++ "\x60" ++ text line ++ "'"]
  | .inList f _ _ => extendedFault text label f

/-- What is unexpected, in the other dialect. -/
def plainToken (token : String) : String :=
  if token = "newline" then "newline"
  else if ["<", ">"].contains token then "redirection"
  else if (Builtin.keywords false).contains token || token.toList.any endsWord then "\"" ++ token ++ "\""
  else "word"

/-- The complaint about a fault, in the other dialect. -/
def plainFault (script : String) : Fault → Nat × String
  | .unexpected token line expected =>
    (if token = "newline" then line + 1 else line, plainToken token ++ " unexpected" ++ wanted expected)
  | .ended line expected => (line, "end of file unexpected" ++ wanted expected)
  | .unmatched mark line =>
    if mark = "'" || mark = "\"" then
      (((script.toList.filter (· = '\n')).length + 1), "Unterminated quoted string")
    else if mark = "\x60" then (line, "EOF in backquote substitution")
    else if mark = ")" then (line, "end of file unexpected (expecting \")\")")
    else (line, "Missing '" ++ mark ++ "'")
  | .malformed problem _ line => (line, problem)
  | .inList f _ _ => plainFault script f
where
  /-- What was expected. -/
  wanted : Option String → String
    | some "word" => " (expecting word)"
    | some s => " (expecting \"" ++ s ++ "\")"
    | none => ""

/-- Complains about a fault. -/
def reportFault (context : String) (first : Nat) (script : String) (f : Fault) : Sh Unit := do
  let s ← Sh.ask id
  if s.dialect.extended then
    let name := Sh.speaker s
    let label (n : Nat) : String := name ++ ": " ++ context ++ "line " ++ toString n ++ ": "
    Sh.each (extendedFault (lineOf first script) label f) Sh.report
    Sh.setStatus 2
  else
    let (line, text) := plainFault script f
    Sh.report (s.dialect.name ++ ": " ++ toString line ++ ": " ++ context ++ "Syntax error: " ++ text)
    Sh.stop (.exit 2)

/-! ### Scripts -/

/-- What was chosen for reading the next line. -/
def settled (s : State) (source : Source) : Source :=
  { source with
    nextDocument := s.nextDocument
    patterns := s.dialect.extended && s.choices.contains "extglob"
    aliases := if !s.dialect.extended || s.choices.contains "expand_aliases" then s.aliases else [] }

/-- Shows the part of a script that was read, if that was chosen. -/
def showRead (before after : Source) : Sh Unit := do
  if ← Sh.chosen "verbose" then
    let text := String.ofList (before.rest.take (before.rest.length - after.rest.length))
    Sh.printError (if text.endsWith "\n" || text = "" then text else text ++ "\n")

/-- Runs a script line by line. -/
def lines (e : Engine) (context : String) (first : Nat) (script : String) : (most : Nat) → Source → Sh Unit
  | 0, _ => return
  | n + 1, source => do
    let source := settled (← Sh.ask id) source
    match source.next with
    | .error (.inList f rest line) =>
      reportFault context first script f
      Sh.setStatus 1
      lines e context first script n { source with rest := rest, line := line }
    | .error f => reportFault context first script f
    | .ok none => return
    | .ok (some (cs, next)) =>
      Sh.change fun s => { s with
        documents := next.documents ++ s.documents
        nextDocument := next.nextDocument }
      showRead source next
      if ← Sh.isExtended then
        let name := Sh.speaker (← Sh.ask id)
        Sh.each next.warnings fun (line, text) =>
          Sh.report (name ++ ": line " ++ toString line ++ ": warning: " ++ text)
      match ← Sh.attempt (e.execAll cs) with
      | .error (.giveUp status) => Sh.setStatus status
      | .error stop => Sh.stop stop
      | .ok _ => pure ()
      lines e context first script n { next with documents := [], warnings := [] }

/-- Runs a script. -/
def source (e : Engine) (context : String) (first : Nat) (script : String) : Sh Unit := do
  let s ← Sh.ask id
  lines e context first script (script.length + 1) (Source.start s.dialect.extended first script s.nextDocument)

/-- How commands are run that are nested at most as deeply as given. What is nested more deeply
    ends the shell. -/
def engine : (depth : Nat) → Engine
  | 0 => {
      exec := fun _ => Sh.stop (.killed Signal.memory)
      expand := fun _ => Sh.stop (.killed Signal.memory)
      source := fun _ _ _ => Sh.stop (.killed Signal.memory)
      invoke := fun _ => Sh.stop (.killed Signal.memory)
      apart := fun _ x => Sh.subshell x }
  | depth + 1 =>
    let e := engine depth
    { exec := Execute.command e
      expand := Expand.word e
      source := source e
      invoke := Calling.invoke e
      apart := Background.apart e }

/-- How deeply commands may be nested. -/
def deepestNesting : Nat := 8000

end Retrace.Unix.Running
