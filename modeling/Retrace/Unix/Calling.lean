import Retrace.Unix.Builtin
import Retrace.Unix.Redirecting
import Retrace.Unix.Startup
import Retrace.Unix.Utility

/-!
# Calling commands by their names

The name of a command is that of a function, of a command of the shell, or of a
program; a name with a slash is the path of one. A program is a utility, a shell
of its own, or a script, which says in its first line what it is to be run by.
-/

namespace Retrace.Unix.Calling

/-! ### Shells as programs -/

/-- Runs a script in a shell that begins. The result is its status. -/
def begin (e : Engine) (c : Startup.Calling) (context script : String) : Sh Nat := do
  Sh.subshell do
    Sh.change (Startup.begin c)
    Trap.farewell e (e.source context 1 script)
  Sh.ask (·.status)

/-- What a shell was called with. -/
structure Arguments where
  choices : List (String × Bool)
  /-- Whether a script is among the arguments. -/
  hasScript : Bool
  rest : List String

/-- What can be wrong with the arguments of a shell. -/
inductive Misuse where
  | option (shown : String)
  | choice (name : String)
  | shellChoice (name : String)

/-- Reads the arguments of a shell. -/
def arguments (extended : Bool) : List String → Except Misuse Arguments
  | [] => .ok ⟨[], false, []⟩
  | a :: args =>
    let more (cs : List (String × Bool)) (script : Bool) (r : Except Misuse Arguments) : Except Misuse Arguments :=
      r.map fun c => { c with choices := cs ++ c.choices, hasScript := script || c.hasScript }
    if a = "--" || a = "-" then .ok ⟨[], false, args⟩
    else if a.startsWith "--" then
      if !extended then .error (.option "--")
      else if a = "--posix" then more [("posix", true)] false (arguments extended args)
      else if a = "--verbose" then more [("verbose", true)] false (arguments extended args)
      else if ["--norc", "--noprofile", "--login", "--noediting", "--debugger"].contains a then arguments extended args
      else .error (.option a)
    else match a.toList with
      | sign :: letter :: letters =>
        if sign = '-' || sign = '+' then
          let on := sign == '-'
          let all := letter :: letters
          let known := Expand.letters extended
          let unknown := all.find? fun c =>
            (known.lookup c).isNone && !(if extended then "csloOiD" else "csloi").toList.contains c
          match unknown with
          | some c => .error (.option (String.ofList [sign, c]))
          | none =>
            let named := all.filterMap fun c => (known.lookup c).map fun name => (name, on)
            let named := if all.contains 's' && on && extended then named ++ [("stdin", true)] else named
            let script := all.contains 'c' && on
            if all.contains 'o' then
              match args with
              | name :: args =>
                if (Builtin.choiceNames extended).contains name then
                  more (named ++ [(name, on)]) script (arguments extended args)
                else .error (.choice name)
              | [] => more named script (.ok ⟨[], false, []⟩)
            else if all.contains 'O' then
              match args with
              | name :: args =>
                if Expand.shellChoices.contains name then
                  more (named ++ [(name, on)]) script (arguments extended args)
                else .error (.shellChoice name)
              | [] => more named script (.ok ⟨[], false, []⟩)
            else more named script (arguments extended args)
        else .ok ⟨[], false, a :: args⟩
      | _ => .ok ⟨[], false, a :: args⟩

/-- A shell that is called as a program. -/
def shell (e : Engine) (extended : Bool) (name : String) (args : List String) : Sh Nat := do
  match arguments extended args with
  | .error m =>
    let shown := match m with
      | .option s => if extended then ": " ++ s ++ ": invalid option" else ": 0: Illegal option " ++ s
      | .choice s => if extended then ": line 0: " ++ name ++ ": " ++ s ++ ": invalid option name"
        else ": 0: Illegal option -o " ++ s
      | .shellChoice s => ": line 0: " ++ s ++ ": invalid shell option name"
    Sh.report (name ++ shown)
    return 2
  | .ok c =>
    let dialect (own inFunctions : String) : Dialect := ⟨own, inFunctions, "", extended⟩
    let fromInput : Sh Nat := do
      match ← Sh.inputAll 0 with
      | .ok text =>
        begin e ⟨dialect name (if extended then "main" else name), c.choices ++ [("stdin", true), ("script", true)],
          c.rest, none⟩ "" text
      | .error _ => return 0
    if c.hasScript then
      match c.rest with
      | [] =>
        Sh.report (if extended then name ++ ": -c: option requires an argument"
          else name ++ ": 0: -c requires an argument")
        return 2
      | script :: more =>
        let own := more.headD name
        begin e ⟨dialect own (if extended then "environment" else own), c.choices, more.drop 1, some script⟩
          (if extended then "-c: " else "") script
    else if c.choices.contains ("stdin", true) then fromInput
    else match c.rest with
      | [] => fromInput
      | path :: more =>
        match ← Sh.contents path with
        | .ok text =>
          begin e ⟨dialect path path, c.choices ++ [("script", true)], more, none⟩ "" text
        | .error r =>
          if extended then
            let isDirectory := r matches .isDirectory
            Sh.report ((if isDirectory then path else name) ++ ": " ++ path ++ ": " ++ r.reason)
            return if isDirectory then 126 else 127
          else if r matches .isDirectory then return 0
          else
            Sh.report (name ++ ": 0: cannot open " ++ path ++ ": " ++ Redirecting.plainReason false r)
            return 2

/-- The names of shells, with the dialects they speak. -/
def shells : List (String × Bool) := [("bash", true), ("sh", false), ("dash", false)]

/-! ### Programs -/

/-- The place of a parameter in the table of the other dialect. -/
def plainPlace (name : String) : Nat :=
  (((name.toList.head?).getD '\x00').toNat * 16 + (name.toList.map Char.toNat).foldl (· + ·) 0) % 39

/-- The parameters that a program gets to know that is at a path. -/
def inherited (s : State) (path : String) : List (String × Variable) :=
  let known := s.parameters.filter fun p => p.2.exported && !p.2.isList
  if s.dialect.extended then
    (known.filter fun p => p.1 != "_").mergeSort (fun a b => Sh.keyPlace a.1 ≤ Sh.keyPlace b.1) ++
      [("_", { Variable.single path with exported := true })]
  else known.mergeSort fun a b => plainPlace a.1 ≤ plainPlace b.1

/-- What became of running a file. -/
inductive Ending where
  | status (n : Nat)
  | refused (r : Refusal)
  /-- What is to run the script does not exist. -/
  | uninterpreted
  /-- What is to run the script cannot be run. -/
  | misinterpreted (program : String)
  /-- It is neither a program nor a script. -/
  | unreadable

/-- The time, in nanoseconds, that it takes to begin a program. -/
def delay : Int := 1500000

/-- Runs a program by the name it has. With `asIs` it gets to know the parameters that there are, and
    else those that a shell gives it. -/
def runNamed (e : Engine) (asIs : Bool) (name path shown : String) (args : List String) : Sh Ending := do
  Sh.elapse delay
  Background.catchUp e
  match shells.lookup name with
  | some extended => return .status (← shell e extended shown args)
  | none =>
    match Utility.find? name with
    | some utility =>
      let s ← Sh.ask id
      if !asIs then Sh.change fun s => { s with parameters := inherited s path }
      let r ← Sh.attempt (utility e shown args)
      Sh.change fun t => { t with parameters := s.parameters, refused := none }
      return .status (← Sh.resume r)
    | none => return .refused .notFound

/-- What the first line of a script says it is run by, if it says that. -/
def interpreter? (script : String) : Option (List String) :=
  match script.toList with
  | '#' :: '!' :: cs =>
    let line := String.ofList ((cs.takeWhile (· != '\n')).dropWhile isBlank)
    let program := line.toList.takeWhile fun c => !isBlank c
    let rest := (line.toList.drop program.length).dropWhile isBlank
    let rest := (rest.reverse.dropWhile isBlank).reverse
    some (String.ofList program :: if rest.isEmpty then [] else [String.ofList rest])
  | _ => none

/-- Whether something is no script. -/
def isBinary (text : String) : Bool :=
  text.startsWith "\x7fELF" || (((text.toList.takeWhile (· != '\n')).take 80).contains '\x00')

/-- Runs the file at a path. A script that does not say what it is to be run by is run by the
    shell that calls it, or by a shell of the other dialect. -/
def runFile (e : Engine) (extended asIs : Bool) (path shown : String) (args : List String) : Sh Ending := do
  match ← Sh.node path with
  | .error r => return .refused r
  | .ok found =>
    if found.node.isDirectory then return .refused .isDirectory
    else if !found.node.isExecutable then return .refused .notPermitted
    else match found.node.content with
      | .program name => runNamed e asIs name path shown args
      | .file script =>
        match interpreter? script with
        | some (program :: options) =>
          match ← Sh.node program with
          | .error .notDirectory => return .misinterpreted program
          | .error _ => return .uninterpreted
          | .ok found =>
            if found.node.isDirectory || !found.node.isExecutable then return .misinterpreted program
            else match found.node.content with
              | .program name => runNamed e asIs name program program (options ++ path :: args)
              | _ => return .uninterpreted
        | _ =>
          if isBinary script then return .unreadable
          else
            Sh.elapse delay
            Background.catchUp e
            return .status (← begin e ⟨⟨path, path, "", extended⟩, [("script", true)], args, none⟩ "" script)
      | _ => return .refused .notPermitted

/-- Where programs are looked for if nothing says where. -/
def placesOtherwise : String := "/bin:/usr/bin"

/-- Runs a program for another one, or says why it cannot be run. -/
def invoke (e : Engine) (args : List String) : Sh (Except Refusal Nat) := do
  match args with
  | [] => return .error .notFound
  | name :: args =>
    let s ← Sh.ask id
    let s := if (s.parameters.lookup "PATH").isSome then s
      else { s with parameters := [("PATH", Variable.single placesOtherwise)] }
    let path := if name.toList.contains '/' then some name else Path.find? s name
    match path with
    | none => return .error .notFound
    | some path =>
      match ← runFile e false true path name args with
      | .status n => return .ok n
      | .refused .isDirectory => return .error .notPermitted
      | .refused r => return .error r
      | .uninterpreted => return .error .notFound
      | .misinterpreted _ => return .error .notPermitted
      | .unreadable => return .error .notExecutable

/-- Says why a file cannot be run: the status. -/
def complainOf (name : String) (ending : Ending) : Sh Nat := do
  let extended ← Sh.isExtended
  let told (text : String) (status : Nat) : Sh Nat := do
    Sh.complain text
    return status
  match ending with
  | .status n => return n
  | .refused .notFound => told (name ++ if extended then ": No such file or directory" else ": not found") 127
  | .refused .notDirectory =>
    if extended then told (name ++ ": Not a directory") 126 else told (name ++ ": not found") 127
  | .refused .isDirectory => told (name ++ if extended then ": Is a directory" else ": Permission denied") 126
  | .refused r => told (name ++ ": " ++ r.reason) 126
  | .uninterpreted =>
    told (name ++ if extended then ": cannot execute: required file not found" else ": not found")
      (if extended then 127 else 127)
  | .misinterpreted program =>
    if extended then
      let shell ← Sh.ask (·.dialect.name)
      Sh.report (shell ++ ": " ++ name ++ ": " ++ program ++ ": bad interpreter: Permission denied")
      return 126
    else told (name ++ ": Permission denied") 126
  | .unreadable =>
    told (name ++ if extended then ": cannot execute binary file: Exec format error" else ": Exec format error") 126

/-- Complains that there is no command of a name. -/
def missing (name : String) : Sh Nat := do
  Sh.complain (name ++ if ← Sh.isExtended then ": command not found" else ": not found")
  return 127

/-- Runs a program, or complains. -/
def program (e : Engine) (name : String) (args : List String) : Sh Nat := do
  let extended ← Sh.isExtended
  if name.toList.contains '/' then complainOf name (← runFile e extended false name name args)
  else if name = "" then
    if extended then missing name
    else
      Sh.complain ": Permission denied"
      return 127
  else if extended && (Path.directories? (← Sh.ask id)).isNone then
    complainOf name (← runFile e extended false name name args)
  else match ← Path.lookup name with
    | some path =>
      match ← runFile e extended false path name args with
      | .status n => return n
      | ending => complainOf (if extended then path else name) ending
    | none => missing name

/-! ### What names mean -/

/-- What a name is the name of. -/
inductive Meaning where
  | aliased (text : String)
  | keyword
  | function (body : Command)
  | builtin
  /-- A program that was found before. -/
  | known (path : String)
  | program (path : String)

/-- Whether there is something at a path that can be run. -/
def canRun (s : State) (path : String) : Bool :=
  match s.files.find s.directory path true with
  | .ok found => found.node.isExecutable && !found.node.isDirectory
  | .error _ => false

/-- All that a name means, in the order in which it counts. -/
def meanings (s : State) (functions : Bool) (name : String) : List Meaning :=
  let extended := s.dialect.extended
  let aliases := if !extended || s.choices.contains "expand_aliases" then s.aliases else []
  ((aliases.lookup name).map Meaning.aliased).toList ++
    (if (Builtin.keywords extended).contains name then [.keyword] else []) ++
    (if functions then ((s.functions.lookup name).map Meaning.function).toList else []) ++
    (if Builtin.exists' s name then [.builtin] else []) ++
    (if name.toList.contains '/' then (if canRun s name then [.program name] else [])
      else ((Path.known? s name).map Meaning.known).toList ++ (Path.programs s name).map .program)

/-- Whether something is a file. -/
def Meaning.isFile : Meaning → Bool
  | known _ => true
  | program _ => true
  | _ => false

/-- What kind of thing a name means. -/
def Meaning.kind : Meaning → String
  | aliased _ => "alias"
  | keyword => "keyword"
  | function _ => "function"
  | builtin => "builtin"
  | known _ => "file"
  | program _ => "file"

/-- A sentence that says what a name means. -/
def sentence (s : State) (name : String) (m : Meaning) : String :=
  let extended := s.dialect.extended
  match m with
  | .aliased text => name ++ (if extended then " is aliased to \x60" ++ text ++ "'" else " is an alias for " ++ text)
  | .keyword => name ++ " is a shell keyword"
  | .function body =>
    if extended then name ++ " is a function\n" ++ Printing.function s.documents name body
    else name ++ " is a shell function"
  | .builtin =>
    name ++ (if !extended && Builtin.isSpecial name then " is a special shell builtin" else " is a shell builtin")
  | .known path =>
    name ++ (if extended then " is hashed (" ++ path ++ ")" else " is a tracked alias for " ++ path)
  | .program path => name ++ " is " ++ path

/-- Says what a name means; `false` if it means nothing. -/
def describe (command name : String) : Sh Bool := do
  let s ← Sh.ask id
  match (meanings s true name).head? with
  | some m =>
    Builtin.line (sentence s name m)
    -- the other dialect keeps in mind what it has found
    match m, s.dialect.extended with
    | .program path, false => if path != name then Path.remember name path 1
    | _, _ => pure ()
    return true
  | none =>
    if s.dialect.extended then Sh.complain (command ++ ": " ++ name ++ ": not found")
    else Builtin.line (name ++ ": not found")
    return false

/-- Says what names mean. -/
def type : Builtin := fun _ args => do
  if ← Sh.isExtended then
    Builtin.withOptions "type" "type [-afptP] name [name ...]" "afptP" "" false args fun c => do
      let found ← Sh.collect c.rest fun name => do
        let s ← Sh.ask id
        let all := meanings s (!c.has 'f') name
        let all := if c.has 'P' then all.filter Meaning.isFile else all
        let known := all.any fun
          | .known _ => true
          | _ => false
        let shown := if c.has 'a' && !(c.has 'P' && known) then
            all.filter fun
              | .known _ => false
              | _ => true
          else all.take 1
        Sh.each shown fun m => do
          if c.has 't' then Builtin.line m.kind
          else if c.has 'p' || c.has 'P' then
            match m with
            | .known path => Builtin.line path
            | .program path => Builtin.line path
            | _ => pure ()
          else Builtin.line (sentence s name m)
        if shown.isEmpty && !c.has 't' && !c.has 'p' && !c.has 'P' then
          Sh.complain ("type: " ++ name ++ ": not found")
        return !shown.isEmpty
      return if found.all id then 0 else 1
  else
    let found ← Sh.collect args (describe "type")
    return if found.all id then 0 else 127

/-- Prints how a name is found; `false` if it is not. -/
def locate (name : String) : Sh Bool := do
  let s ← Sh.ask id
  match (meanings s true name).head? with
  | some (.aliased text) => Builtin.line ("alias " ++ name ++ "=" ++ Quoting.single text)
  | some (.known path) => Builtin.line path
  | some (.program path) => Builtin.line path
  | some _ => Builtin.line name
  | none => return false
  return true

/-! ### Calling -/

/-- How deeply functions may call one another in the other dialect. -/
def mostCalls : Nat := 1000

/-- Calls a function. -/
def callFunction (e : Engine) (name : String) (body : Command) (args : List String) : Sh Unit := do
  let s ← Sh.ask id
  if !s.dialect.extended && mostCalls ≤ s.frames.length then
    Sh.fatal "Maximum function recursion depth (1000) reached"
  Trap.around do
    Sh.change fun s => { s with positional := args, frames := ⟨name, [], s.line, none⟩ :: s.frames, loops := 0 }
    let r ← Sh.attempt (e.exec body)
    let r := match r with
      | .error (.return n) => Except.ok (some n)
      | .error stop => .error stop
      | .ok _ => .ok none
    match r with
    | .ok (some n) => Sh.setStatus n
    | _ => pure ()
    match r with
    | .ok _ => Trap.event e "RETURN"
    | .error _ => pure ()
    Sh.change fun t =>
      match t.frames with
      | f :: _ => { t with
          parameters := f.saved.foldl (fun ps (name, old) => Sh.withParameter name old ps) t.parameters
          choices := f.choices.getD t.choices }
      | [] => t
    Sh.change fun t => { t with positional := s.positional, frames := s.frames, loops := s.loops, line := s.line }
    let _ ← Sh.resume r

/-- Complains if what a command printed was refused. -/
def checkOutput (name : String) : Sh Unit := do
  match ← Sh.ask (·.refused) with
  | some r =>
    let extended ← Sh.isExtended
    Sh.change fun s => { s with refused := none, status := 1 }
    Sh.complain (name ++ ": " ++ (if extended then "write error: " ++ r.reason else name ++ ": I/O error"))
  | none => return

/-- Runs a command of the shell. -/
def callBuiltin (e : Engine) (name : String) (builtin : Builtin) (args : List String) : Sh Unit := do
  Sh.setStatus (← Sh.within "" (builtin e args))
  checkOutput name

/-- Replaces the shell by a program. -/
def replace (e : Engine) (args : List String) : Sh Unit := do
  let extended ← Sh.isExtended
  let run (shown? : Option String) (clean : Bool) (command : String) (args : List String) : Sh Unit := do
    let s ← Sh.ask id
    if clean then Sh.change fun s => { s with parameters := [] }
    let path := if command.toList.contains '/' then some command else Path.find? s command
    let ending ← match path with
      | some path =>
        Sh.change fun s => { s with traps := s.traps.filter (·.1 != "EXIT") }
        runFile e extended false path (shown?.getD command) args
      | none => pure (.refused .notFound)
    let whole := if command.startsWith "./" then s.here ++ (command.drop 1).toString
      else if command.startsWith "/" then command else s.here ++ "/" ++ command
    let isDirectory := match s.files.find s.directory command true with
      | .ok found => found.node.isDirectory
      | .error _ => false
    let status ← match ending with
      | .status n => pure n
      | .refused r =>
        if !extended then
          if (r matches .notFound) && command != "" then Builtin.wrong "exec" (command ++ ": not found") 127
          else Builtin.wrong "exec" (command ++ ": Permission denied") 126
        else if !command.toList.contains '/' then
          if isDirectory && command != "" then Builtin.wrong "exec" (command ++ ": cannot execute: Is a directory") 126
          else Builtin.wrong "exec" (command ++ ": not found") 127
        else
          Sh.complain (whole ++ ": " ++ r.reason)
          if r matches .notFound then pure 127
          else Builtin.wrong "exec" (whole ++ ": cannot execute: " ++ r.reason) 126
      | ending => complainOf whole ending
    Sh.change fun t => { t with parameters := s.parameters, traps := if ending matches .status _ then t.traps else s.traps }
    if !(ending matches .status _) && (← Sh.chosen "execfail") then Sh.setStatus status
    else Sh.stop (.exit status)
  if extended then
    Sh.setStatus (← Builtin.withOptions "exec" "exec [-cl] [-a name] [command [argument ...]] [redirection ...]"
      "cl" "a" true args fun c => do
        match c.rest with
        | [] => return 0
        | command :: rest =>
          let shown := (c.value? 'a').getD command
          run (some (if c.has 'l' then "-" ++ shown else shown)) (c.has 'c') command rest
          Sh.ask (·.status))
  else match if args.head? = some "--" then args.drop 1 else args with
    | [] => Sh.setStatus 0
    | command :: rest => run none false command rest

/-- The options of `command`: the letters that were given, and what is left; or a letter that
    means nothing. -/
def commandOptions : List String → Except Char (List Char × List String)
  | [] => .ok ([], [])
  | "--" :: args => .ok ([], args)
  | a :: args =>
    match a.toList with
    | '-' :: c :: cs =>
      match (c :: cs).find? fun d => !"pvV".toList.contains d with
      | some d => .error d
      | none => (commandOptions args).map fun (letters, rest) => (c :: cs ++ letters, rest)
    | _ => .ok ([], a :: args)

theorem commandOptions_length (args : List String) (letters : List Char) (rest : List String)
    (h : commandOptions args = .ok (letters, rest)) : rest.length ≤ args.length := by
  induction args generalizing letters rest with
  | nil =>
    simp only [commandOptions, Except.ok.injEq, Prod.mk.injEq] at h
    simp [← h.2]
  | cons a args ih =>
    unfold commandOptions at h
    split at h
    · simp_all
    · rename_i heq
      simp only [List.cons.injEq] at heq
      simp only [Except.ok.injEq, Prod.mk.injEq] at h
      simp [← h.2, heq.2]
    · rename_i heq
      simp only [List.cons.injEq] at heq
      split at h
      · split at h
        · cases h
        · cases hc : commandOptions args with
          | error d => rw [← heq.2, hc] at h; cases h
          | ok r =>
            rw [← heq.2, hc] at h
            simp only [Except.map, Except.ok.injEq, Prod.mk.injEq] at h
            have := ih r.1 r.2 hc
            rw [← h.2]
            simp only [List.length_cons]
            omega
      · simp only [Except.ok.injEq, Prod.mk.injEq] at h
        exact Nat.le_of_eq (by rw [← h.2, ← heq.1, ← heq.2])

/-- Runs the command of a name. -/
def dispatch (e : Engine) (functions : Bool) : List String → Sh Unit
  | [] => Sh.setStatus 0
  | name :: args => do
    let s ← Sh.ask id
    let extended := s.dialect.extended
    match if functions then s.functions.lookup name else none with
    | some body => callFunction e name body args
    | none =>
      match Builtin.find? s name with
      | some builtin => callBuiltin e name builtin args
      | none =>
        if s.disabled.contains name || !Builtin.exists' s name then Sh.setStatus (← program e name args)
        else if name = "command" then
          match h : commandOptions args with
          | .error c =>
            Sh.setStatus (← Builtin.misused "command" ("-" ++ String.singleton c) "command [-pVv] command [arg ...]" false)
          | .ok (letters, rest) =>
            have := commandOptions_length args letters rest h
            if letters.contains 'v' || letters.contains 'V' then
              let names := if extended then rest else rest.take 1
              let found ← Sh.collect names (if letters.contains 'V' then describe "command" else locate)
              Sh.setStatus (if extended then (if found.any id || found.isEmpty then 0 else 1)
                else if found.all id then 0 else 127)
              checkOutput "command"
            else dispatch e false rest
        else if name = "type" then callBuiltin e name type args
        else if name = "exec" then replace e args
        else
          match args with
          | [] => Sh.setStatus 0
          | b :: more =>
            if b.startsWith "-" && b != "--" && b.length > 1 then
              Sh.setStatus (← Builtin.misused "builtin" (b.take 2).toString "builtin [shell-builtin [arg ...]]" false)
            else if Builtin.exists' { s with disabled := [] } b then dispatch e false (b :: more)
            else
              Sh.complain ("builtin: " ++ b ++ ": not a shell builtin")
              Sh.setStatus 1
termination_by args => args.length

end Retrace.Unix.Calling
