import Retrace.Unix.Builtin.Declaring

/-!
# Choices

What a shell can be told to do differently, the names that stand for other
texts, and the commands of the shell that are not to be used.
-/

namespace Retrace.Unix.Builtin

/-! ### Options -/

/-- The names of the choices, in the order in which they are shown. -/
def choiceNames (extended : Bool) : List String :=
  if extended then
    ["allexport", "braceexpand", "emacs", "errexit", "errtrace", "functrace", "hashall", "histexpand",
      "history", "ignoreeof", "interactive-comments", "keyword", "monitor", "noclobber", "noexec",
      "noglob", "nolog", "notify", "nounset", "onecmd", "physical", "pipefail", "posix", "privileged",
      "verbose", "vi", "xtrace"]
  else
    ["errexit", "noglob", "ignoreeof", "interactive", "monitor", "noexec", "stdin", "xtrace",
      "verbose", "vi", "emacs", "noclobber", "allexport", "notify", "nounset", "nolog", "debug"]

/-- Makes a choice, or takes it back. -/
def choose (name : String) (on : Bool) : Sh Unit :=
  Sh.change fun s => { s with
    choices := if on then (if s.choices.contains name then s.choices else s.choices ++ [name])
      else s.choices.filter (· != name) }

/-- Shows the choices. -/
def showChoices (asCommands : Bool) : Sh Unit := do
  let extended ← Sh.isExtended
  if !extended && !asCommands then line "Current option settings"
  Sh.each (choiceNames extended) fun name => do
    let on ← Sh.chosen name
    if asCommands then line ("set " ++ (if on then "-o " else "+o ") ++ name)
    else if extended then line (Format.padded 15 true name ++ "\t" ++ (if on then "on" else "off"))
    else line (Format.padded 16 true name ++ (if on then "on" else "off"))

/-- Makes the choice of a name. -/
def chooseNamed (sign name : String) (on : Bool) : Sh Nat := do
  let extended ← Sh.isExtended
  if (choiceNames extended).contains name then
    choose name on
    return 0
  else if extended then wrong "set" (name ++ ": invalid option name") 2
  else wrongSpecial "set" ("Illegal option " ++ sign ++ " " ++ name) 2

/-- Makes choices by their letters, all but the one that takes a name. -/
def chooseLetters (letters : List Char) (on : Bool) : Sh Unit := do
  let known := Expand.letters (← Sh.isExtended)
  Sh.each letters fun c => do
    match known.lookup c with
    | some name => choose name on
    | none => pure ()

/-- Sets the positional parameters. -/
def setPositional (args : List String) : Sh Unit :=
  Sh.change fun s => { s with positional := args }

/-- Makes choices and sets the positional parameters. -/
def set' : Builtin := fun _ args => do
  if args.isEmpty then
    showAll
    return 0
  else
    let extended ← Sh.isExtended
    let known := 'o' :: (Expand.letters extended).map (·.1)
    let rec go : List String → Sh Nat
      | [] => return 0
      | "--" :: args => do
        setPositional args
        return 0
      | "-" :: args => do
        if extended then chooseLetters ['x', 'v'] false
        if !args.isEmpty then setPositional args
        return 0
      | arg :: args => do
        match arg.toList with
        | sign :: letter :: letters =>
          if sign = '-' || sign = '+' then
            let on := sign = '-'
            let all := letter :: letters
            match all.find? fun c => !known.contains c with
            | some c =>
              misused "set" (String.ofList [sign, c])
                "set [-abefhkmnptuvxBCEHPT] [-o option-name] [--] [-] [arg ...]" true
            | none =>
              chooseLetters (all.filter (· != 'o')) on
              if all.contains 'o' then
                match args with
                | name :: args =>
                  let status ← chooseNamed arg name on
                  if status = 0 then go args else return status
                | [] =>
                  showChoices (!on)
                  return 0
              else go args
          else
            setPositional (arg :: args)
            return 0
        | ['+'] => go args
        | _ =>
          setPositional (arg :: args)
          return 0
    go args

/-- Makes choices that have no letters. -/
def shopt : Builtin := fun _ args =>
  withOptions "shopt" "shopt [-pqsu] [-o] [optname ...]" "pqsuo" "" false args fun c => do
    let names := if c.has 'o' then choiceNames true else Expand.shellChoices
    let show' (name : String) (on : Bool) : Sh Unit :=
      if c.has 'q' then pure ()
      else if c.has 'p' then
        line (if c.has 'o' then "set " ++ (if on then "-o " else "+o ") ++ name
          else "shopt " ++ (if on then "-s " else "-u ") ++ name)
      else line (Format.padded 15 true name ++ "\t" ++ (if on then "on" else "off"))
    if c.has 's' && c.has 'u' then
      wrong "shopt" "cannot set and unset shell options simultaneously" 1
    else if c.rest.isEmpty then
      Sh.each names fun name => do
        let on ← Sh.chosen name
        if (!c.has 's' || on) && (!c.has 'u' || !on) then show' name on
      return 0
    else
      Sh.worst c.rest fun name => do
        if !names.contains name then
          wrong "shopt" (name ++ (if c.has 'o' then ": invalid option name" else ": invalid shell option name")) 1
        else if c.has 's' || c.has 'u' then
          choose name (c.has 's')
          return 0
        else
          let on ← Sh.chosen name
          show' name on
          return if on then 0 else 1

/-! ### Aliases -/

/-- An alias as it is shown. -/
def shownAlias (extended : Bool) (name text : String) : String :=
  (if extended then "alias " else "") ++ name ++ "=" ++ Quoting.single text

/-- Lets names stand for texts, or shows what they stand for. -/
def alias' : Builtin := fun _ args => do
  let extended ← Sh.isExtended
  let given (args : List String) (showsAll : Bool) : Sh Nat := do
    if args.isEmpty || showsAll then
      let all ← Sh.ask fun s => s.aliases.mergeSort fun a b => a.1 ≤ b.1
      Sh.each all fun (name, text) => line (shownAlias extended name text)
    Sh.worst args fun arg => do
      let (name, value) := match arg.splitOn "=" with
        | name :: rest => if rest.isEmpty || name = "" then (arg, none) else (name, some ("=".intercalate rest))
        | [] => (arg, none)
      match value with
      | some text =>
        if extended && name.toList.any fun c => c = '/' || c = '$' || c = '\x60' || c = '\\' || c = '\'' ||
            c = '"' || endsWord c then
          wrong "alias" ("\x60" ++ name ++ "': invalid alias name") 1
        else
          Sh.change fun s => { s with
            aliases := if s.aliases.any (·.1 = name) then
                s.aliases.map fun a => if a.1 = name then (name, text) else a
              else s.aliases ++ [(name, text)] }
          return 0
      | none =>
        match ← Sh.ask fun s => s.aliases.lookup name with
        | some text =>
          line (shownAlias extended name text)
          return 0
        | none =>
          if extended then wrong "alias" (name ++ ": not found") 1
          else
            Sh.report ("alias: " ++ name ++ " not found")
            return 1
  if extended then
    withOptions "alias" "alias [-p] [name[=value] ... ]" "p" "" false args fun c => given c.rest (c.has 'p')
  else given args false

/-- Lets names stand for nothing any more. -/
def unalias : Builtin := fun _ args =>
  withOptions "unalias" "unalias [-a] name [name ...]" "a" "" false args fun c => do
    if c.has 'a' then
      Sh.change fun s => { s with aliases := [] }
      return 0
    else if c.rest.isEmpty && (← Sh.isExtended) then usage "unalias" "unalias [-a] name [name ...]"
    else Sh.worst c.rest fun name => do
      if (← Sh.ask fun s => (s.aliases.lookup name).isSome) then
        Sh.change fun s => { s with aliases := s.aliases.filter (·.1 != name) }
        return 0
      else if ← Sh.isExtended then wrong "unalias" (name ++ ": not found") 1
      else
        Sh.report ("unalias: " ++ name ++ " not found")
        return 1

/-- The names of the commands of the extended dialect. -/
def allNames : List String :=
  [".", ":", "[", "alias", "bg", "bind", "break", "builtin", "caller", "cd", "command", "compgen",
    "complete", "compopt", "continue", "declare", "dirs", "disown", "echo", "enable", "eval", "exec",
    "exit", "export", "false", "fc", "fg", "getopts", "hash", "help", "history", "jobs", "kill", "let",
    "local", "logout", "mapfile", "popd", "printf", "pushd", "pwd", "read", "readarray", "readonly",
    "return", "set", "shift", "shopt", "source", "suspend", "test", "times", "trap", "true", "type",
    "typeset", "ulimit", "umask", "unalias", "unset", "wait"]

/-- Says which commands of the shell are to be used. -/
def enable : Builtin := fun _ args =>
  withOptions "enable" "enable [-a] [-dnps] [-f filename] [name ...]" "adnps" "f" false args fun c => do
    let disabled ← Sh.ask (·.disabled)
    if c.rest.isEmpty then
      Sh.each allNames fun name => do
        let off := disabled.contains name
        if c.has 'a' then line ("enable " ++ (if off then "-n " else "") ++ name)
        else if c.has 'n' = off then line ("enable " ++ (if off then "-n " else "") ++ name)
      return 0
    else Sh.worst c.rest fun name => do
      if !allNames.contains name then wrong "enable" (name ++ ": not a shell builtin") 1
      else
        Sh.change fun s => { s with
          disabled := if c.has 'n' then name :: s.disabled.erase name else s.disabled.erase name }
        return 0

end Retrace.Unix.Builtin
