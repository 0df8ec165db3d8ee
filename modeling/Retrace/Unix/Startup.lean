import Retrace.Unix.State

/-!
# Shells at the beginning

What a shell knows when it begins: the parameters that it was given by whoever
called it, those that it sets itself, and what it does without being told to.
-/

namespace Retrace.Unix.Startup

/-- The choices that are made at the beginning. -/
def usualChoices (extended : Bool) : List String :=
  if extended then
    ["braceexpand", "hashall", "interactive-comments", "checkwinsize", "cmdhist", "complete_fullquote",
      "extquote", "force_fignore", "globasciiranges", "globskipdots", "hostcomplete",
      "interactive_comments", "patsub_replacement", "progcomp", "promptvars", "sourcepath"]
  else []

/-- A parameter that programs get to know. -/
def shared (value : String) : Variable :=
  { Variable.single value with exported := true }

/-- A number that does not change. -/
def fixed (value : String) : Variable :=
  { Variable.single value with constant := true, numeric := true }

/-- The directories in which programs are looked for. -/
def usualPath : String := "/usr/local/sbin:/usr/local/bin:/usr/sbin:/usr/bin:/sbin:/bin"

/-- The parameters of the environment of a session. -/
def environment : List (String × Variable) :=
  [("HOME", shared "/root"), ("PATH", shared usualPath), ("LC_ALL", shared "C.UTF-8")]

/-- The version of the extended dialect. -/
def version : List String := ["5", "2", "21", "1", "release", "x86_64-pc-linux-gnu"]

/-- A list of values. -/
def listed (constant : Bool) (values : List String) : Variable :=
  { Variable.unset with
    items := values.zipIdx.map fun (v, i) => (toString i, v)
    isList := true
    constant := constant
    isGiven := true }

/-- The parameters that a shell sets itself in the extended dialect. -/
def extendedParameters (s : State) (given : List (String × Variable)) : List (String × Variable) :=
  let valueOf (name : String) : Option String := (given.lookup name).bind fun v => v.items.lookup "0"
  let level := ((valueOf "SHLVL").bind String.toInt?).getD 0
  let usual (name : String) (v : Variable) : List (String × Variable) :=
    if (given.lookup name).isSome then [] else [(name, v)]
  [("BASH", .single "/usr/bin/bash"),
    ("BASH_VERSION", .single "5.2.21(1)-release"),
    ("BASH_VERSINFO", listed true version),
    ("EUID", fixed "0"),
    ("HOSTNAME", .single "localhost"),
    ("HOSTTYPE", .single "x86_64"),
    ("IFS", .single " \t\n"),
    ("MACHTYPE", .single "x86_64-pc-linux-gnu"),
    ("OPTERR", .single "1"),
    ("OPTIND", { Variable.single "1" with numeric := true }),
    ("OSTYPE", .single "linux-gnu"),
    ("PPID", fixed (toString (s.shell - 1))),
    ("PS4", .single "+ "),
    ("PWD", shared s.here),
    ("SHLVL", shared (toString (level + 1))),
    ("UID", fixed "0")] ++
  usual "OLDPWD" { Variable.unset with exported := true } ++
  usual "PATH" (.single usualPath) ++
  usual "SHELL" (.single "/bin/bash") ++
  usual "TERM" (.single "dumb")

/-- The parameters that a shell sets itself in the other dialect. -/
def plainParameters (s : State) (given : List (String × Variable)) : List (String × Variable) :=
  [("IFS", .single " \t\n"),
    ("OPTIND", .single "1"),
    ("PPID", .single (toString (s.shell - 1))),
    ("PS1", .single "# "),
    ("PS2", .single "> "),
    ("PS4", .single "+ "),
    ("PWD", shared s.here)] ++
  if (given.lookup "PATH").isSome then [] else [("PATH", .single usualPath)]

/-- Some parameters, with others that come instead of those of the same names. -/
def overridden (given own : List (String × Variable)) : List (String × Variable) :=
  given.filter (fun p => (own.lookup p.1).isNone) ++ own

/-- How a shell was called. -/
structure Calling where
  dialect : Dialect
  /-- The choices that were named, and whether they are made. -/
  choices : List (String × Bool)
  positional : List String
  /-- What it was told to run, if not by the name of a file. -/
  script : Option String

/-- The choices of a shell that is called. -/
def Calling.chosen (c : Calling) : List String :=
  c.choices.foldl (fun cs (name, on) => if on then cs.erase name ++ [name] else cs.erase name)
    (usualChoices c.dialect.extended)

/-- The state of a shell that begins in the place of another one. -/
def begin (c : Calling) (s : State) : State :=
  let given := s.parameters.filterMap fun (name, v) =>
    if v.exported && !v.items.isEmpty && !v.isList then
      some (name, { Variable.unset with items := v.items, exported := true, isGiven := true })
    else none
  let s := { s with shell := s.process }
  let own := if c.dialect.extended then extendedParameters s given else plainParameters s given
  let own := own ++ match c.script with
    | some script => if c.dialect.extended then [("BASH_EXECUTION_STRING", .single script)] else []
    | none => []
  { s with
    dialect := c.dialect
    parameters := overridden given own
    frames := []
    positional := c.positional
    functions := if c.dialect.extended then s.functions.filter fun f => s.sharedFunctions.contains f.1 else []
    constantFunctions := []
    choices := c.chosen
    line := 1
    status := 0
    outputStatus := none
    loops := 0
    scripts := []
    looking := false
    traps := s.traps.filter (·.2 = "")
    formerTraps := []
    trapping := false
    stageStatuses := []
    stack := []
    aliases := []
    jobs := []
    depth := 0
    level := 1
    current := none
    lastArgument := "/usr/bin/bash"
    lastJob := none
    seed := 0
    started := s.files.now
    given := []
    optionOffset := 1
    disabled := []
    known := []
    borrowed := []
    consumers := [] }

/-- The state of a session in which nothing has been run. -/
def session (files : Files) : State where
  dialect := ⟨"", "", "", true⟩
  files := files
  directory := Files.home
  here := "/" ++ "/".intercalate Files.home
  channels := #[.null, .sink [] none, .sink [] none]
  streams := [(0, 0), (1, 1), (2, 2)]
  parameters := environment
  frames := []
  positional := []
  functions := []
  sharedFunctions := []
  constantFunctions := []
  documents := []
  nextDocument := 0
  choices := []
  line := 1
  status := 0
  outputStatus := none
  loops := 0
  scripts := []
  looking := false
  traps := []
  formerTraps := []
  trapping := false
  refused := none
  stageStatuses := []
  mask := 0o022
  stack := []
  aliases := []
  jobs := []
  outcomes := []
  shell := 1000
  process := 1000
  nextProcess := 1001
  job := 0
  ended := []
  postponed := []
  postponable := false
  signals := []
  death := none
  deadline := none
  depth := 0
  level := 1
  current := none
  lastArgument := ""
  lastJob := none
  seed := 0
  started := files.now
  given := []
  optionOffset := 1
  disabled := []
  known := []
  borrowed := []
  consumers := []

end Retrace.Unix.Startup
