import Retrace.Unix.Path
import Retrace.Unix.Quantity
import Retrace.Unix.Utility.Options

/-!
# Programs that run programs

What runs a program with other parameters, in another directory, at another time
or for a limited time only. A program that cannot be run is complained about in
the name of what was to run it.
-/

namespace Retrace.Unix.Utility

/-- Runs a program. One that cannot be run is complained about. -/
def runProgram (e : Engine) (name : String) (complaint : String → String → String) (args : List String) :
    Sh Nat := do
  match ← e.invoke args with
  | .ok status => return status
  | .error r => fail name (complaint (args.headD "") r.reason) (if r matches .notFound then 127 else 126)

/-- A complaint about a program with its name in quotes. -/
def quotedComplaint (program reason : String) : String :=
  Quoting.curly program ++ ": " ++ reason

/-- A complaint about a program that could not be run. -/
def runComplaint (program reason : String) : String :=
  "failed to run command " ++ quotedComplaint program reason

/-- Runs a command: its status, or 256 more than the signal that ended it. -/
def runCommand (e : Engine) (command : String) : Sh Nat := do
  let done ← e.invoke ["sh", "-c", command]
  let death ← Sh.ask (·.death)
  Sh.change fun s => { s with death := none }
  match death, done with
  | some signal, _ => return 256 + signal
  | none, .ok status => return status
  | none, .error _ => return 127

/-- What a command prints, and its status. -/
def outputOf (e : Engine) (command : String) : Sh (String × Nat) := do
  let n ← Sh.addChannel (.sink [] none)
  let status ← Sh.withStreams do
    Sh.lead 1 (some n)
    runCommand e command
  let printed ← Sh.ask fun s => ((s.channels[n]?).map (Sh.collected s.ended)).getD ""
  Sh.setChannel n .null
  return (printed, status)

/-! ### Parameters -/

/-- The parameters that a program knows, as it prints them. -/
def printedParameters (finish : String) : Sh String :=
  Sh.ask fun s => String.join (s.parameters.filterMap fun (n, v) =>
    (v.items.lookup "0").map fun t => n ++ "=" ++ t ++ finish)

/-- The words of a text, in which quotes and backslashes have a meaning and names after a dollar
    stand for values. Given are the quote one is in and the characters of the word so far. -/
def splitWords (value : String → String) : (fuel : Nat) → (quote : Option Char) → (word : Option (List Char)) →
    List Char → Except String (List String)
  | 0, _, _, _ => .ok []
  | _ + 1, quote, word, [] =>
    if quote.isSome then .error "no terminating quote in -S string"
    else .ok (word.toList.map fun w => String.ofList w.reverse)
  | n + 1, quote, word, c :: cs =>
    let now := word.getD []
    let ended (rest : List Char) : Except String (List String) :=
      match word with
      | some w => (splitWords value n none none rest).map (String.ofList w.reverse :: ·)
      | none => splitWords value n none none rest
    if quote.isNone && " \t\n\x0b\x0c\r".toList.contains c then ended cs
    else if quote.isNone && c = '#' && word.isNone then .ok []
    else if quote = some c then splitWords value n none (some now) cs
    else if quote.isNone && (c = '\'' || c = '"') then splitWords value n (some c) (some now) cs
    else if c = '\\' then
      match cs with
      | [] => .error "invalid backslash at end of string in -S"
      | d :: rest =>
        if quote = some '\'' then
          splitWords value n quote (some (d :: if d = '\'' || d = '\\' then now else '\\' :: now)) rest
        else if d = '_' then
          if quote.isNone then ended rest else splitWords value n quote (some (' ' :: now)) rest
        else if d = 'c' then
          if quote.isNone then .ok (word.toList.map fun w => String.ofList w.reverse)
          else .error "'\\c' must not appear in double-quoted -S string"
        else
          match ([('f', '\x0c'), ('n', '\n'), ('r', '\r'), ('t', '\t'), ('v', '\x0b'), ('"', '"'), ('#', '#'), ('$', '$'),
            ('\'', '\''), ('\\', '\\')] : List (Char × Char)).lookup d with
          | some e => splitWords value n quote (some (e :: now)) rest
          | none => .error ("invalid sequence '\\" ++ String.singleton d ++ "' in -S")
    else if c = '$' && quote != some '\'' then
      let wrong : Except String (List String) :=
        .error ("only $\x7bVARNAME\x7d expansion is supported, error at: $" ++ String.ofList cs)
      match cs with
      | '\x7b' :: rest =>
        let parameter := rest.takeWhile fun d => d.isAlphanum || d = '_'
        match rest.drop parameter.length with
        | '\x7d' :: rest =>
          splitWords value n quote (some ((value (String.ofList parameter)).toList.reverse ++ now)) rest
        | _ => wrong
      | _ => wrong
    else splitWords value n quote (some (c :: now)) cs

/-- Runs a program with other parameters, or prints those that programs know. -/
def env : Utility := fun e name args =>
  let names : OptionNames := { letters := "i0v", valued := "uCSa", optional := "", wordly := "D", words := [
    ("argv0", 'a'), ("ignore-environment", 'i'), ("null", '0'), ("unset", 'u'), ("chdir", 'C'),
    ("split-string", 'S'), ("debug", 'v')] }
  withOptions names false 125 name args fun o => do
    let known ← Sh.ask (·.parameters)
    let value (n : String) : String := ((known.lookup n).bind fun v => v.items.lookup "0").getD ""
    let split := match o.value? 'S' with
      | some s => splitWords value (s.length + 1) none none s.toList
      | none => .ok []
    match split with
    | .error m => fail name m 125
    | .ok words =>
      -- what was split begins with options again
      match Options.read names false (words ++ if words.isEmpty then [] else o.operands) with
      | .error m => misused name m 125
      | .ok more =>
        let o : Options := ⟨o.given ++ more.given, if words.isEmpty then o.operands else more.operands⟩
        let (bare, operands) := match o.operands with
          | "-" :: rest => (true, rest)
          | rest => (false, rest)
        let assignments := operands.takeWhile fun a => a.toList.contains '='
        let command := operands.drop assignments.length
        let unset := (o.given.filter (·.1 = 'u')).map (·.2)
        match unset.find? fun n => n = "" || n.toList.contains '=' with
        | some n => fail name ("cannot unset " ++ Quoting.curly n ++ ": Invalid argument") 125
        | none =>
          if bare || o.has 'i' then Sh.change fun s => { s with parameters := [] }
          else Sh.change fun s => { s with parameters := s.parameters.filter fun p => !unset.contains p.1 }
          Sh.each assignments fun a => do
            let n := String.ofList (a.toList.takeWhile (· != '='))
            Sh.setVariable n (some { Variable.single (a.drop (n.length + 1)).toString with exported := true })
          if command.isEmpty then
            if o.has 'C' then misused name "must specify command with --chdir (-C)" 125
            else
              Sh.print (← printedParameters (if o.has '0' then "\x00" else "\n"))
              refusedAtEnd name 0
          else if o.has '0' then misused name "cannot specify --null (-0) with command" 125
          else
            let s ← Sh.ask id
            let entered : Except Refusal Trail := match o.value? 'C' with
              | some path =>
                match s.files.find s.directory path true with
                | .ok found => if found.node.isDirectory then .ok found.trail else .error .notDirectory
                | .error r => .error r
              | none => .ok s.directory
            match entered with
            | .error r =>
              fail name ("cannot change directory to " ++ Quoting.always ((o.value? 'C').getD "") ++ ": " ++ r.reason) 125
            | .ok directory =>
              Sh.change fun s => { s with directory := directory }
              let r ← Sh.attempt (do
                let status ← runProgram e name quotedComplaint command
                if status = 127 && (command.headD "").toList.contains ' ' then
                  tell name "use -[v]S to pass options in shebang lines"
                return status)
              Sh.change fun t => { t with directory := s.directory }
              Sh.resume r

/-- Prints parameters that programs know. -/
def printenv : Utility := fun _ name args =>
  withOptions { letters := "0", words := [("null", '0')] } false 2 name args fun o => do
    let finish := if o.has '0' then "\x00" else "\n"
    if o.operands.isEmpty then
      Sh.print (← printedParameters finish)
      refusedAtEnd name 0
    else
      refusedAtEnd name (← Sh.worst o.operands fun a => do
        match ← Sh.value? a with
        | some t =>
          Sh.print (t ++ finish)
          return 0
        | none => return 1)

/-! ### Manners of running -/

/-- Runs a program more or less readily, which makes no difference, or prints how readily
    programs are run. -/
def nice : Utility := fun e name args =>
  let args := match args with
    | a :: rest =>
      -- a number may be an option itself
      if a.startsWith "-" && ((a.drop 1).toString.toInt?).isSome then "-n" :: (a.drop 1).toString :: rest else a :: rest
    | [] => []
  withOptions { valued := "n", words := [("adjustment", 'n')] } false 125 name args fun o => do
    match o.value? 'n' with
    | some n =>
      if n.toInt?.isNone then fail name ("invalid adjustment " ++ Quoting.curly n) 125
      else if o.operands.isEmpty then misused name "a command must be given with an adjustment" 125
      else runProgram e name quotedComplaint o.operands
    | none =>
      if o.operands.isEmpty then
        Sh.print "0\n"
        return 0
      else runProgram e name quotedComplaint o.operands

/-- Runs a program that goes on when nobody is there any more. -/
def nohup : Utility := fun e name args =>
  withOptions {} false 125 name args fun o => do
    if o.operands.isEmpty then misused name "missing operand" 125
    else
      runProgram e name (fun p r => "failed to run command " ++ Quoting.always p ++ ": " ++ r) o.operands

/-- Runs a program on its own. -/
def setsid : Utility := fun e name args =>
  withOptions { letters := "cfw", words := [("ctty", 'c'), ("fork", 'f'), ("wait", 'w')] } false 1 name args fun o => do
    if o.operands.isEmpty then misused name "no command specified" 1
    else runProgram e name (fun p r => "failed to execute " ++ p ++ ": " ++ r) o.operands

/-- Runs a program whose output is collected before it is printed. -/
def stdbuf : Utility := fun e name args =>
  withOptions { valued := "ioe", words := [("input", 'i'), ("output", 'o'), ("error", 'e')] } false 125 name args fun o => do
    match o.given.find? fun g => g.2 != "L" && (amount? g.2).isNone with
    | some (_, v) => fail name ("invalid mode " ++ Quoting.curly v) 125
    | none =>
      if o.given.contains ('i', "L") then misused name "line buffering stdin is meaningless" 125
      else if o.operands.isEmpty then misused name "missing operand" 125
      else if o.given.isEmpty then misused name "you must specify a buffering mode option" 125
      else runProgram e name runComplaint o.operands

/-! ### Time -/

/-- The longest time, in seconds, that is told apart from being endless. -/
def longestTime : Nat := 1000000000

/-- The nanoseconds in a text, which may have a letter for its unit. -/
def duration? (s : String) : Option Int :=
  match Quantity.read? s.toList with
  | some (q, rest) =>
    let unit := match rest with
      | [] => some 1
      | ['s'] => some 1
      | ['m'] => some 60
      | ['h'] => some 3600
      | ['d'] => some 86400
      | _ => none
    match q, unit with
    | .finite f, some u =>
      if f.negative && f.numerator != 0 then none
      else
        let n := (f.numerator * u * 1000000000 + f.denominator - 1) / f.denominator
        some (min n (longestTime * 1000000000) : Nat)
    | .infinite false, some _ => some (longestTime * 1000000000 : Nat)
    | _, _ => none
  | none => none

/-- Sleeps. -/
def sleep : Utility := fun _ name args =>
  withOptions {} true 1 name args fun o => do
    if o.operands.isEmpty then misused name "missing operand" 1
    else
      let bad := o.operands.filter fun a => (duration? a).isNone
      match bad with
      | [] =>
        Sh.elapse ((o.operands.filterMap duration?).foldl (· + ·) 0)
        return 0
      | _ =>
        Sh.each bad fun a => tell name ("invalid time interval " ++ Quoting.curly a)
        Sh.report ("Try '" ++ name ++ " --help' for more information.")
        return 1

/-- Runs a program for a limited time. -/
def timeout : Utility := fun e name args =>
  withOptions { letters := "fpv", valued := "ks", words := [("kill-after", 'k'), ("signal", 's'), ("verbose", 'v'),
      ("foreground", 'f'), ("preserve-status", 'p')] } false 125 name args fun o => do
    let signal := match o.value? 's' with
      | some s => Signal.of? s
      | none => some Signal.terminate
    match o.operands, signal, (o.value? 'k').map duration? with
    | _, _, some none => misused name ("invalid time interval " ++ Quoting.curly ((o.value? 'k').getD "")) 125
    | _, none, _ => misused name (Quoting.curly ((o.value? 's').getD "") ++ ": invalid signal") 125
    | t :: p :: rest, some signal, _ =>
      match duration? t with
      | none => misused name ("invalid time interval " ++ Quoting.curly t) 125
      | some n =>
        let s ← Sh.ask id
        let limit := s.files.now + n
        let limits := n != 0 && s.deadline.all (limit < ·)
        if limits then Sh.change fun s => { s with deadline := some limit }
        let r ← Sh.attempt (runProgram e name runComplaint (p :: rest))
        Sh.change fun t => { t with deadline := s.deadline }
        match r with
        | .error .timeUp =>
          if limits then
            if o.has 'v' then
              tell name ("sending signal " ++ Signal.name signal ++ " to command " ++ Quoting.curly p)
            return if signal = Signal.kill then 137 else if o.has 'p' then 128 + signal else 124
          else Sh.stop .timeUp
        | r => Sh.resume r
    | _, _, _ =>
      Sh.report ("Try '" ++ name ++ " --help' for more information.")
      return 125

/-! ### Where programs are -/

/-- Prints the paths of programs. -/
def which : Utility := fun _ name args => do
  let given := args.takeWhile fun a => a.startsWith "-" && a != "--" && a.length > 1
  match (given.flatMap fun a => a.toList.drop 1).find? fun c => c != 'a' && c != 's' with
  | some c =>
    Sh.report ("Illegal option -" ++ String.singleton c)
    Sh.print ("Usage: /usr/bin/" ++ (name.splitOn "/").getLast?.getD name ++ " [-as] args\n")
    return 2
  | none =>
    let all := given.any fun a => a.toList.contains 'a'
    let silent := given.any fun a => a.toList.contains 's'
    let rest := args.drop given.length
    let s ← Sh.ask id
    let statuses ← Sh.collect (if rest.head? = some "--" then rest.drop 1 else rest) fun program => do
      let paths :=
        if program.toList.contains '/' then
          match s.files.find s.directory program true with
          | .ok found => if found.node.content.isFile && found.node.isExecutable then [program] else []
          | .error _ => []
        else if program = "" then [] else Path.programs s program
      let paths := if all then paths else paths.take 1
      if !silent then Sh.print (String.join (paths.map (· ++ "\n")))
      return if paths.isEmpty then 1 else 0
    return if args.drop given.length = [] then 1 else statuses.foldl max 0

end Retrace.Unix.Utility
