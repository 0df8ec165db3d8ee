import Retrace.Unix.Builtin.Choosing
import Retrace.Unix.Builtin.Jobs
import Retrace.Unix.Builtin.Places
import Retrace.Unix.Builtin.Reading
import Retrace.Unix.Path

/-!
# The commands of the shell

Printing, leaving loops, functions and the shell, running other scripts, and the
tables of all commands that are no programs of their own.
-/

namespace Retrace.Unix.Builtin

/-! ### Output -/

/-- Prints its arguments. -/
def echo : Builtin := fun _ args => do
  let escaping ← Sh.chosen "xpg_echo"
  Sh.print (if ← Sh.isExtended then Echo.extended escaping args else Echo.plain args)
  return 0

/-- What times are told by. -/
def clock : Sh Format.Clock := do
  let s ← Sh.ask id
  let zone := ((s.parameters.lookup "TZ").bind fun v => v.items.lookup "0").getD ""
  return ⟨Calendar.Zone.of zone, s.files.now, s.started⟩

/-- Prints its arguments as a format says. -/
def printf : Builtin := fun _ args => do
  let extended ← Sh.isExtended
  let form := "printf [-v var] format [arguments]"
  let misuse : Sh Nat :=
    if extended then usage "printf" form else wrong "printf" "usage: printf format [arg ...]" 2
  let printed (target : Option String) (args : List String) : Sh Nat := do
    match args with
    | [] => misuse
    | format :: args =>
      let p := Format.print (Format.Speaker.of extended) (← clock) format args
      Sh.each p.complaints fun m => Sh.complain ("printf: " ++ m)
      let counted ← assignAll (p.counts.map fun (name, n) => (name, toString n))
      let given ← match target with
        | some name => assignAll [(name, p.text)]
        | none => do
          Sh.print p.text
          pure 0
      return if p.failed then (if !extended && p.stopped then 2 else 1) else max counted given
  if extended then
    withOptions "printf" form "" "v" false args fun c => do
      match c.value? 'v' with
      | some name =>
        if isTarget true name then printed (some name) c.rest
        else wrong "printf" ("\x60" ++ name ++ "': not a valid identifier") 2
      | none => printed none c.rest
  else match args with
    | "--" :: args => printed none args
    | a :: _ =>
      if a.startsWith "-" && a.length > 1 then misused "printf" (a.take 2).toString form false
      else printed none args
    | [] => misuse

/-! ### Leaving -/

/-- A mistake in the extended dialect for which all that is run is given up, but not a script
    that is read line by line. -/
def giveUpAll {α : Type} (status : Nat) : Sh α := do
  if ← Sh.chosen "script" then Sh.stop (.giveUp status) else Sh.stop (.exit status)

/-- The status in an argument, or that of the last command. -/
def statusOf (name : String) (args : List String) : Sh (Except Stop Nat) := do
  let extended ← Sh.isExtended
  let args := if extended && args.head? = some "--" then args.drop 1 else args
  match args with
  | [] => return .ok (← Sh.ask (·.status))
  | a :: more =>
    match number? a with
    | some n =>
      if extended && !more.isEmpty then
        Sh.complain (name ++ ": too many arguments")
        giveUpAll 1
      else if n < 0 && !extended then
        Sh.complain (name ++ ": Illegal number: " ++ a)
        return .error (.exit 2)
      else return .ok (if extended || name = "exit" then (n % 256).toNat else n.toNat)
    | none =>
      if extended then
        Sh.complain (name ++ ": " ++ a ++ ": numeric argument required")
        return .ok 2
      else
        Sh.complain (name ++ ": Illegal number: " ++ a)
        return .error (.exit 2)

/-- Leaves the shell. -/
def exit : Builtin := fun _ args => do
  match ← statusOf "exit" args with
  | .ok n => Sh.stop (.exit n)
  | .error e => Sh.stop e

/-- Leaves a function or a script that was read. -/
def return' : Builtin := fun _ args => do
  let s ← Sh.ask id
  if s.frames.isEmpty && s.scripts.isEmpty then
    if s.dialect.extended then
      wrong "return" "can only \x60return' from a function or sourced script" 2
    else match ← statusOf "return" args with
      | .ok n => Sh.stop (.exit n)
      | .error e => Sh.stop e
  else match ← statusOf "return" args with
    | .ok n => Sh.stop (.return n)
    | .error e => Sh.stop e

/-- Leaves loops, or goes on with their next round. -/
def leaveLoops (name : String) (stop : Nat → Stop) : Builtin := fun _ args => do
  let extended ← Sh.isExtended
  let loops ← Sh.ask (·.loops)
  if loops = 0 then
    if extended then
      wrong name "only meaningful in a \x60for', \x60while', or \x60until' loop" 0
    else return 0
  else match args with
    | [] => Sh.stop (stop 1)
    | a :: more =>
      if extended && !more.isEmpty && (number? a).isSome then
        Sh.complain (name ++ ": too many arguments")
        giveUpAll 1
      else match number? a with
        | some n =>
          if 0 < n then Sh.stop (stop (min n.toNat loops))
          else if extended then
            Sh.complain (name ++ ": " ++ a ++ ": loop count out of range")
            Sh.setStatus 1
            Sh.stop (.break loops)
          else wrongSpecial name ("Illegal number: " ++ a) 1
        | none =>
          if extended then
            Sh.complain (name ++ ": " ++ a ++ ": numeric argument required")
            Sh.stop (.exit 128)
          else wrongSpecial name ("Illegal number: " ++ a) 1

/-! ### Positional parameters -/

/-- Takes away the first positional parameters. -/
def shift : Builtin := fun _ args => do
  let extended ← Sh.isExtended
  let args := if extended && args.head? = some "--" then args.drop 1 else args
  let n := match args with
    | [] => some (1 : Int)
    | a :: _ => number? a
  match n with
  | none =>
    let a := args.headD ""
    if extended then wrong "shift" (a ++ ": numeric argument required") 1
    else wrongSpecial "shift" ("Illegal number: " ++ a) 1
  | some n =>
    let count ← Sh.ask (·.positional.length)
    if extended && args.length > 1 then
      Sh.complain "shift: too many arguments"
      giveUpAll 1
    else if n < 0 then
      if extended then wrong "shift" (toString n ++ ": shift count out of range") 1
      else wrongSpecial "shift" ("Illegal number: " ++ toString n) 1
    else if count < n.toNat then
      if !extended then wrongSpecial "shift" "can't shift that many" 1
      else if ← Sh.chosen "shift_verbose" then
        wrong "shift" ((if args.isEmpty then "" else toString n ++ ": ") ++ "shift count out of range") 1
      else return 1
    else
      Sh.change fun s => { s with positional := s.positional.drop n.toNat }
      return 0

/-! ### Scripts -/

/-- Runs its arguments as a script. -/
def eval : Builtin := fun e args => do
  let extended ← Sh.isExtended
  let run (args : List String) : Sh Nat := do
    if args.isEmpty then return 0
    else
      let s ← Sh.ask id
      Sh.change fun s => { s with status := 0, level := s.level + 1 }
      let script := " ".intercalate args
      let r ← Sh.attempt (if extended then e.source "eval: " s.line script
        else Sh.within "eval: " (e.source "eval: " 1 script))
      Sh.change fun t => { t with line := s.line, level := s.level }
      Sh.resume r
      Sh.ask (·.status)
  if extended then withOptions "eval" "eval [arg ...]" "" "" true args fun c => run c.rest
  else run args

/-- The path of a script that is to be run in this shell. -/
def scriptPath? (path : String) : Sh (Option String) := do
  let s ← Sh.ask id
  if path.toList.contains '/' then return some path
  else
    let searched := !s.dialect.extended || s.choices.contains "sourcepath"
    match if searched then (Path.files s path).head? else none with
    | some (found, _) => return some found
    | none => return if s.dialect.extended then some path else none

/-- Runs the script in a file. -/
def source (command : String) : Builtin := fun e args => do
  let extended ← Sh.isExtended
  let run (args : List String) : Sh Nat := do
    match args with
    | [] =>
      if extended then
        Sh.complain (command ++ ": filename argument required")
        usage command (command ++ " filename [arguments]")
      else return 0
    | name :: more =>
      match ← scriptPath? name with
      | none => wrongSpecial command (name ++ ": not found") 2
      | some path =>
        match ← Sh.contents path with
        | .ok text =>
          let s ← Sh.ask id
          let more := if extended then more else []
          Sh.change fun s => { s with
            scripts := path :: s.scripts
            level := s.level + 1
            positional := if more.isEmpty then s.positional else more
            status := 0 }
          let r ← Sh.attempt (if extended then e.source "" 1 text
            else Sh.within (path ++ ": ") (e.source (path ++ ": ") 1 text))
          let r := match r with
            | .error (.return n) => .ok (some n)
            | .error stop => .error stop
            | .ok _ => .ok none
          match r with
          | .ok (some n) => Sh.setStatus n
          | _ => pure ()
          if s.choices.contains "functrace" then Trap.event e "RETURN"
          Sh.change fun t => { t with
            scripts := s.scripts
            level := s.level
            line := s.line
            positional := if more.isEmpty then t.positional else s.positional }
          let _ ← Sh.resume r
          Sh.ask (·.status)
        | .error r =>
          if extended then
            if r matches .isDirectory then wrong command (path ++ ": is a directory") 1
            else
              Sh.complain (path ++ ": " ++ r.reason)
              return 1
          else if r matches .isDirectory then return 0
          else
            Sh.complain (command ++ ": cannot open " ++ path ++ ": No such file")
            Sh.stop (.exit 2)
  if extended then
    withOptions command (command ++ " filename [arguments]") "" "" true args fun c => run c.rest
  else run (if args.head? = some "--" then args.drop 1 else args)

/-! ### Conditions -/

/-- Whether its arguments are a condition that holds. -/
def test (name : String) : Builtin := fun _ args => do
  let s ← Sh.ask id
  match Test.holds s args with
  | .ok true => return 0
  | .ok false => return 1
  | .error m => wrong name m 2

/-- Whether its arguments, up to a closing bracket, are a condition that holds. -/
def bracket : Builtin := fun e args => do
  if args.getLast? = some "]" then test "[" e args.dropLast
  else wrong "[" (if ← Sh.isExtended then "missing \x60]'" else "missing ]") 2

/-! ### Finding commands -/

/-- Shows or changes what is known of where programs are. -/
def hash : Builtin := fun _ args => do
  let extended ← Sh.isExtended
  withOptions "hash" "hash [-lr] [-p pathname] [-dt] [name ...]" (if extended then "lrdt" else "r")
    (if extended then "p" else "") false args fun c => do
    let s ← Sh.ask id
    if c.has 'r' then Sh.change fun s => { s with known := [] }
    match c.rest with
    | [] =>
      if c.has 'r' then return 0
      else if c.has 't' then wrong "hash" "-t: option requires an argument" 1
      else if c.has 'd' then wrong "hash" "-d: option requires an argument" 1
      else if s.known.isEmpty then
        if extended && !c.has 'l' then line "hash: hash table empty"
        return 0
      else if !extended then
        Sh.each (Path.table s) fun k => line k.path
        return 0
      else if c.has 'l' then
        Sh.each (Path.table s) fun k => line ("builtin hash -p " ++ k.path ++ " " ++ k.name)
        return 0
      else
        line "hits\tcommand"
        Sh.each (Path.table s) fun k => line (Format.padded 4 false (toString k.calls) ++ "\t" ++ k.path)
        return 0
    | names =>
      Sh.worst names fun name => do
        if c.has 't' then
          match s.known.find? (·.name = name) with
          | some k =>
            line (if c.has 'l' then "builtin hash -p " ++ k.path ++ " " ++ name
              else if names.length > 1 then name ++ "\t" ++ k.path else k.path)
            return 0
          | none => wrong "hash" (name ++ ": not found") 1
        else if c.has 'd' then
          if s.known.any (·.name = name) then
            Sh.change fun s => { s with known := s.known.filter (·.name != name) }
            return 0
          else wrong "hash" (name ++ ": not found") 1
        else match c.value? 'p' with
          | some path =>
            Path.remember name path 0
            return 0
          | none =>
            if name.toList.contains '/' then return 0
            match Path.find? s name with
            | some path =>
              Path.remember name path 0
              return 0
            | none => wrong "hash" (name ++ ": not found") 1

/-- Says from where the function that is being run was called. -/
def caller : Builtin := fun _ args => do
  let s ← Sh.ask id
  let sourceName := s.scripts.headD (if s.choices.contains "script" then s.dialect.name else "environment")
  match args with
  | [] =>
    match s.frames with
    | f :: more =>
      let from' := if more.isEmpty && sourceName = "environment" then "NULL" else sourceName
      line (toString f.line ++ " " ++ from')
      return 0
    | [] => return 1
  | a :: _ =>
    match a.toNat? with
    | some n =>
      match s.frames[n]?, s.frames[n + 1]? with
      | some f, some g =>
        line (toString f.line ++ " " ++ g.name ++ " " ++ sourceName)
        return 0
      | some f, none =>
        if s.choices.contains "script" then
          line (toString f.line ++ " main " ++ sourceName)
          return 0
        else return 1
      | none, _ => return 1
    | none =>
      if s.frames.isEmpty then return 1
      else
        Sh.complain ("caller: " ++ a ++ ": invalid number")
        usage "caller" "caller [expr]"

/-- The words of the language. -/
def keywords (extended : Bool) : List String :=
  if extended then
    ["if", "then", "else", "elif", "fi", "case", "esac", "for", "select", "while", "until", "do", "done",
      "in", "function", "time", "\x7b", "\x7d", "!", "[[", "]]", "coproc"]
  else
    ["!", "case", "do", "done", "elif", "else", "esac", "fi", "for", "if", "in", "then", "until", "while",
      "\x7b", "\x7d"]

/-- Prints the words that one can go on with. -/
def compgen : Builtin := fun _ args =>
  withOptions "compgen" "compgen [-abcdefgjksuv] [-o option] [-A action] [-G globpat] [-W wordlist] [-F function] [-C command] [-X filterpat] [-P prefix] [-S suffix] [word]"
    "abcdefgjksuv" "oAGWFCXPS" false args fun c => do
    let s ← Sh.ask id
    let here := s.files.find s.directory "." true
    let names := match here with
      | .ok found => s.files.names found.number
      | .error _ => []
    let isDirectory (n : String) : Bool :=
      match s.files.find s.directory n true with
      | .ok found => found.node.isDirectory
      | .error _ => false
    let action := c.value? 'A'
    let wants (letter : Char) (word : String) : Bool := c.has letter || action = some word
    let sorted (l : List String) : List String := l.mergeSort (· ≤ ·)
    let all :=
      (if wants 'a' "alias" then sorted (s.aliases.map (·.1)) else []) ++
      (if wants 'k' "keyword" then keywords true else []) ++
      (if action = some "function" then sorted (s.functions.map (·.1)) else []) ++
      (if wants 'v' "variable" then sorted (s.parameters.map (·.1)) else []) ++
      (if wants 'e' "export" then sorted ((s.parameters.filter (·.2.exported)).map (·.1)) else []) ++
      (if wants 'b' "builtin" then allNames else []) ++
      (if wants 'f' "file" then names else []) ++
      (if wants 'd' "directory" then names.filter isDirectory else []) ++
      ((c.value? 'W').map fun w => (w.splitToList Char.isWhitespace).filter (· != "")).getD []
    let word := c.rest.headD ""
    let found := all.filter (·.startsWith word)
    Sh.each found fun w => line ((c.value? 'P').getD "" ++ w ++ (c.value? 'S').getD "")
    return if found.isEmpty then 1 else 0

/-! ### Limits -/

/-- Prints limits, of which there are none. -/
def ulimit : Builtin := fun _ args =>
  withOptions "ulimit" "ulimit [-SHabcdefiklmnpqrstuvxPRT] [limit]" "SHabcdefiklmnpqrstuvxPRT" "" false args
    fun c => do
    match c.rest with
    | [] =>
      line (if c.has 'c' then "0" else if c.has 's' then "8192" else if c.has 'n' then "1048576"
        else if c.has 'p' then "8" else "unlimited")
      return 0
    | a :: _ =>
      if a = "unlimited" || a = "hard" || a = "soft" || a.toNat?.isSome then return 0
      else if ← Sh.isExtended then wrong "ulimit" (a ++ ": invalid number") 1
      else wrong "ulimit" "bad number" 2

/-! ### Tables -/

/-- The commands that both dialects have. -/
def common : List (String × Builtin) := [
  (":", fun _ _ => return 0),
  ("true", fun _ _ => return 0),
  ("false", fun _ _ => return 1),
  ("echo", echo),
  ("printf", printf),
  ("cd", cd),
  ("pwd", pwd),
  ("exit", exit),
  ("return", return'),
  ("break", leaveLoops "break" .break),
  ("continue", leaveLoops "continue" .continue),
  ("shift", shift),
  ("export", export'),
  ("readonly", readonly),
  ("local", declare "local"),
  ("unset", unset),
  ("set", set'),
  ("read", read),
  ("eval", eval),
  (".", source "."),
  ("trap", trap),
  ("kill", kill),
  ("wait", wait),
  ("test", test "test"),
  ("[", bracket),
  ("getopts", getopts),
  ("umask", umask),
  ("ulimit", ulimit),
  ("hash", hash),
  ("jobs", jobs),
  ("fg", controlling "fg"),
  ("bg", controlling "bg"),
  ("times", times),
  ("alias", alias'),
  ("unalias", unalias)]

/-- The commands that only the extended dialect has. -/
def more : List (String × Builtin) := [
  ("source", source "source"),
  ("declare", declare "declare"),
  ("typeset", declare "typeset"),
  ("let", let'),
  ("mapfile", mapfile "mapfile"),
  ("readarray", mapfile "readarray"),
  ("shopt", shopt),
  ("enable", enable),
  ("disown", disown),
  ("suspend", controlling "suspend"),
  ("pushd", pushd),
  ("popd", popd),
  ("dirs", dirs),
  ("caller", caller),
  ("compgen", compgen),
  ("complete", fun _ _ => return 0),
  ("compopt", fun _ _ => wrong "compopt" "not currently executing completion function" 1),
  ("bind", fun _ _ => wrong "bind" "warning: line editing not enabled" 0),
  ("history", fun _ _ => return 0),
  ("fc", fun _ _ => return 0),
  ("help", fun _ args =>
    match args with
    | [] => return 0
    | a :: _ => wrong "help" ("no help topics match \x60" ++ a ++ "'.  Try \x60help help' or \x60man -k " ++ a ++
        "' or \x60info " ++ a ++ "'.") 1),
  ("logout", fun _ _ => wrong "logout" "not login shell: use \x60exit'" 1)]

/-- The commands for which a mistake gives up the script in the other dialect. -/
def isSpecial (name : String) : Bool :=
  [":", ".", "break", "continue", "eval", "exec", "exit", "export", "readonly", "return", "set",
    "shift", "times", "trap", "unset"].contains name

/-- The commands that are looked for elsewhere than here. -/
def others : List String := ["command", "exec", "type", "builtin"]

/-- The command of a name. -/
def find? (s : State) (name : String) : Option Builtin :=
  if s.disabled.contains name then none
  else (common.lookup name).or (if s.dialect.extended then more.lookup name else none)

/-- Whether there is a command of a name. -/
def exists' (s : State) (name : String) : Bool :=
  (find? s name).isSome ||
    (others.contains name && (s.dialect.extended || name != "builtin") && !s.disabled.contains name)

end Retrace.Unix.Builtin
