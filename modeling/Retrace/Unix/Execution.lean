import Retrace.Unix.Calling
import Retrace.Unix.Reader

/-!
# Running commands

A simple command is expanded, its streams are redirected, and its name says what
is called. The other commands are put together from these. The commands of a
pipeline are run one after the other, each with what the one before it printed
for its input. Of an output without end only a beginning is taken; if that turns
out not to be enough, the pipeline is run again with more of it.
-/

namespace Retrace.Unix.Execute

/-! ### Failures -/

/-- Does what is to be done when a command failed, which may be to leave. -/
def checkFailure (e : Engine) : Sh Unit := do
  let s ← Sh.ask id
  if s.status != 0 && !s.looking then
    Trap.event e "ERR"
    if s.choices.contains "errexit" then Sh.stop (.exit s.status)

/-- Runs something whose failure is looked at, and so is none to leave for. -/
def looking (x : Sh Unit) : Sh Unit := do
  let before ← Sh.ask (·.looking)
  Sh.change fun s => { s with looking := true }
  let r ← Sh.attempt x
  Sh.change fun s => { s with looking := before }
  Sh.resume r

/-- Says by which signal something was ended that the shell has waited for. -/
def reportDeath : Sh Unit := do
  let s ← Sh.ask id
  match s.death with
  | some n =>
    Sh.change fun s => { s with death := none }
    if (if s.dialect.extended then n = Signal.terminate else n != 2 && n != Signal.pipe) then
      Sh.report (Signal.description n)
  | none => return

/-- What happens between two commands. -/
def pause (e : Engine) : Sh Unit := do
  Background.catchUp e
  Trap.heed e

/-- Does what is to be done before a command. -/
def announce (e : Engine) (c : Command) : Sh Unit := do
  let s ← Sh.ask id
  if !s.trapping then
    Sh.change fun s => { s with current := some c }
    if !s.traps.isEmpty then Trap.event e "DEBUG"

/-! ### Assignments -/

/-- The items of a list with their keys. -/
def items (e : Engine) (keyed : Bool) : List (Option Word × Word) → Sh (List (Option String × String))
  | [] => return []
  | (key, w) :: rest => do
    let first ← match key with
      | some k => do
        let k ← Expand.text e k
        pure [(some k, ← Expand.assigned e w)]
      | none =>
        if keyed then do pure [(none, ← Expand.assigned e w)]
        else do pure ((← Expand.fields e w).map fun v => (none, v))
    return first ++ (← items e keyed rest)

/-- Makes an assignment. The result is what it looks like. -/
def assign (e : Engine) : Assignment → Sh String
  | .mk name key added value => do
    let extended ← Sh.isExtended
    let sign := if added then "+=" else "="
    match value with
    | .list source ws =>
      let shown := name ++ sign ++ "(" ++ source ++ ")"
      if extended then Expand.trace e shown
      let name ← Sh.resolved name
      let list ← items e ((← Sh.parameterItself? name).any (·.isKeyed)) ws
      Builtin.assignList name added list
      return shown
    | .word w =>
      let text ← Expand.assigned e w.meaning
      let left := name ++ (match key with
        | some k => "[" ++ k.source ++ "]"
        | none => "")
      let shown := left ++ sign ++ (if extended then Quoting.traced text else text)
      if extended then Expand.trace e shown
      match key with
      | some k =>
        let k ← Expand.text e k.meaning
        Builtin.assignText name (some k) added text
      | none => Builtin.assignText name none added text
      return shown

/-- The name an assignment is for. -/
def assignedName : Assignment → String
  | .mk name _ _ _ => name

/-- Whether an assignment gives a list. -/
def givesList : Assignment → Bool
  | .mk _ _ _ (.list _ _) => true
  | _ => false

/-- An assignment to an item as it is complained about. -/
def item? : Assignment → Option String
  | .mk name (some key) _ _ => some (name ++ "[" ++ key.source ++ "]")
  | _ => none

/-! ### Simple commands -/

/-- Whether the first words of a command make it one whose arguments can be assignments. -/
def declares : List Argument → Bool
  | .word ⟨source, _⟩ :: rest =>
    if source = "command" || source = "builtin" then declares rest
    else ["export", "readonly", "local", "declare", "typeset"].contains source
  | _ => false

/-- The fields of the words of a simple command. -/
def arguments (e : Engine) (declaring : Bool) : List Argument → Sh (List String)
  | [] => return []
  | .word w :: rest => do
    let first ← match if declaring then Read.assignment? w.meaning else none with
      | some (name, added, value) => do
        pure [name ++ (if added then "+=" else "=") ++ (← Expand.assigned e value)]
      | none => Expand.fields e w.meaning
    return first ++ (← arguments e declaring rest)
  | .list (.mk name _ added value) :: rest => do
    match value with
    | .list _ ws =>
      let list ← items e ((← Sh.parameter? name).any (·.isKeyed)) ws
      let shown := " ".intercalate (list.map fun (key, v) =>
        (match key with
          | some k => "[" ++ k ++ "]="
          | none => "") ++ Quoting.single v)
      Expand.trace e (name ++ (if added then "+=(" else "=(") ++ shown ++ ")")
      Sh.change fun s => { s with given := s.given ++ [⟨name, added, list⟩] }
    | .word _ => pure ()
    return name :: (← arguments e declaring rest)

/-- Puts back what was known of some parameters. -/
def restore (saved : List (String × Option Variable)) : Sh Unit :=
  Sh.each saved fun (name, v) => Sh.setVariable name v

/-- Makes the assignments before a command, for which programs get to know them. -/
def assignBefore (e : Engine) (keeps : Bool) (a : Assignment) : Sh String := do
  match item? a with
  | some item =>
    Sh.complain ("\x60" ++ item ++ "': not a valid identifier")
    return ""
  | none =>
    match ← Sh.attempt (assign e a) with
    | .ok shown =>
      if !keeps then Builtin.alter (← Sh.resolved (assignedName a)) fun v => { v with exported := true }
      return shown
    | .error (.giveUp _) => return ""
    | .error stop => Sh.stop stop

/-- Shows the assignments that a command makes which declares names. -/
def traceDeclared (e : Engine) : List String → Sh Unit
  | name :: args => do
    if name = "export" || name = "readonly" then
      Sh.each args fun a => do
        match Builtin.definition a with
        | (left, some value, added) =>
          if isName left then Expand.trace e (left ++ (if added then "+=" else "=") ++ Quoting.traced value)
        | _ => pure ()
  | [] => return

/-- Calls a command with assignments that are only made for it. -/
def call (e : Engine) (assignments : List Assignment) (fields : List String) : Sh Unit := do
  let extended ← Sh.isExtended
  let s ← Sh.ask id
  let name := fields.headD ""
  let isFunction := (s.functions.lookup name).isSome
  let (lists, plain) := assignments.partition givesList
  let saved := plain.map fun a => (assignedName a, s.parameters.lookup (assignedName a))
  let keeps := !extended && Builtin.isSpecial name && !isFunction
  let shown ← Sh.collect plain (assignBefore e keeps)
  if s.choices.contains "xtrace" then
    if extended then
      Expand.trace e (" ".intercalate (fields.map Quoting.tracedArgument))
      traceDeclared e fields
    else Expand.trace e (" ".intercalate (shown ++ fields))
  let r ← Sh.attempt (Background.waiting e (Calling.dispatch e true fields))
  if !keeps then restore saved
  Sh.each lists fun a => do
    let _ ← assign e a
  Sh.resume r

/-- Runs a simple command. -/
def simple (e : Engine) (line : Nat) (assignments : List Assignment) (words : List Argument)
    (redirects : List Redirect) : Sh Unit := do
  Sh.change fun s => { s with line := line, outputStatus := none, given := [], death := none }
  let extended ← Sh.isExtended
  let fields ← arguments e (declares words) words
  match fields with
  | [] =>
    match ← Redirecting.under e redirects (pure ()) with
    | some _ =>
      let shown ← Sh.collect assignments (assign e)
      if !extended && !shown.isEmpty then Expand.trace e (" ".intercalate shown)
      Sh.setStatus ((← Sh.ask (·.outputStatus)).getD 0)
      Sh.change fun s => { s with lastArgument := "" }
    | none => Sh.setStatus (← Redirecting.refusedStatus)
  | name :: _ =>
    let isFunction ← Sh.ask fun s => (s.functions.lookup name).isSome
    let isExec := !isFunction && (name = "exec" || fields.take 2 = ["command", "exec"])
    let done ← if isExec then do
        let before ← Sh.ask (·.streams)
        let (fine, _) ← Redirecting.redirectAll e redirects
        if fine then
          call e assignments fields
          pure true
        else
          Redirecting.putBack before (Redirecting.touched redirects)
          pure false
      else do pure (← Redirecting.under e redirects (call e assignments fields)).isSome
    if !done then
      let status ← Redirecting.refusedStatus
      Sh.setStatus status
      if !extended && Builtin.isSpecial name && !isFunction then Sh.stop (.exit status)
    Sh.change fun s => { s with lastArgument := (fields.getLast?).getD "" }
    reportDeath

/-! ### Loops -/

/-- The time, in nanoseconds, that a round of a loop takes. -/
def roundTime : Int := 20000

/-- Runs the body of a loop once. The result says whether to go on. -/
def bodyOnce (e : Engine) (body : List Command) : Sh Bool := do
  Sh.elapse roundTime
  match ← Sh.attempt (e.execAll body) with
  | .ok _ => return true
  | .error (.break n) => if n ≤ 1 then return false else Sh.stop (.break (n - 1))
  | .error (.continue n) => if n ≤ 1 then return true else Sh.stop (.continue (n - 1))
  | .error stop => Sh.stop stop

/-- Runs something in which loops can be left. -/
def inLoop (x : Sh Unit) : Sh Unit := do
  Sh.change fun s => { s with loops := s.loops + 1 }
  let r ← Sh.attempt x
  Sh.change fun s => { s with loops := s.loops - 1 }
  Sh.resume r

/-- How many rounds a loop may take. -/
def mostRounds : Nat := 2000000

/-- Runs a loop. -/
def loop (e : Engine) (wanted : Bool) (condition body : List Command) : (rounds status : Nat) → Sh Unit
  | 0, status => Sh.setStatus status
  | n + 1, status => do
    match ← Sh.attempt (looking (e.execAll condition)) with
    | .error (.break k) => if k ≤ 1 then return else Sh.stop (.break (k - 1))
    | .error (.continue k) => if k ≤ 1 then loop e wanted condition body n status else Sh.stop (.continue (k - 1))
    | .error stop => Sh.stop stop
    | .ok _ =>
      if ((← Sh.ask (·.status)) = 0) = wanted then
        let more ← bodyOnce e body
        let status ← Sh.ask (·.status)
        if more then loop e wanted condition body n status else return
      else Sh.setStatus status

/-- Shows a command by its beginning, in the extended dialect. -/
def traceHeading (e : Engine) (c : Command) : Sh Unit := do
  let s ← Sh.ask id
  if s.dialect.extended && s.choices.contains "xtrace" then
    let shown := Printing.heading s.documents c
    Expand.trace e (shown.trimAsciiEnd.toString)

/-- Gives a value to the parameter of a loop. Whether that could be done. -/
def assignRound (name value : String) : Sh Bool := do
  match ← Sh.parameterItself? name with
  | some v =>
    if v.isReference then
      -- what a reference is to changes with each round
      Sh.setVariable name (some { v with items := [("0", value)] })
      return true
  | none => pure ()
  match ← Sh.attempt (Sh.assign name value) with
  | .ok _ => return true
  | .error (.giveUp n) =>
    Sh.setStatus n
    return false
  | .error stop => Sh.stop stop

/-- Runs a loop over some values. -/
def forEach (e : Engine) (c : Command) (name : String) (body : List Command) : List String → Sh Unit
  | [] => return
  | v :: vs => do
    announce e c
    traceHeading e c
    if ← assignRound name v then
      if ← bodyOnce e body then forEach e c name body vs else return
    else return

/-- The value of a formula that is a command, if it has one. -/
def formula (e : Engine) (w : Spelled) : Sh (Option Int64) := do
  let text ← Expand.text e w.meaning
  Expand.trace e ("(( " ++ text ++ " ))")
  match ← Formula.evaluate text with
  | .ok n => return some n
  | .error f =>
    Sh.complain ("((: " ++ Formula.complaint true text f)
    return none

/-- Runs a loop controlled by formulas. -/
def counted (e : Engine) (condition step : Spelled) (body : List Command) : (rounds : Nat) → Sh Unit
  | 0 => return
  | n + 1 => do
    let v ← if condition.meaning.isEmpty then pure (some 1) else formula e condition
    match v with
    | none => Sh.setStatus 1
    | some v =>
      if v = 0 then return
      else if ← bodyOnce e body then
        if step.meaning.isEmpty then counted e condition step body n
        else match ← formula e step with
          | some _ => counted e condition step body n
          | none => Sh.setStatus 1
      else return

/-! ### Asking -/

/-- The width in which what can be chosen is shown. -/
def menuWidth : Nat := 80

/-- The blanks from one column to another one. -/
def blanksTo : (most : Nat) → (column target : Nat) → String
  | 0, _, _ => ""
  | n + 1, column, target =>
    if target ≤ column then ""
    else if column / 8 < target / 8 then "\t" ++ blanksTo n (column + 8 - column % 8) target
    else " " ++ blanksTo n (column + 1) target

/-- What can be chosen, as it is shown. -/
def menu (words : List String) : String :=
  let count := words.length
  let indexWidth := (toString count).length
  let widest := ((words.map fun w => (Multibyte.characters w.toList).length).foldl max 0) + indexWidth + 4
  let columns := max 1 (menuWidth / widest)
  let rows := (count + columns - 1) / columns
  let columns := (count + rows - 1) / max 1 rows
  let (rows, columns) := if rows = 1 then (columns, 1) else (rows, columns)
  let cell (row column : Nat) : Option String := do
    let i := column * rows + row
    let w ← words[i]?
    let width := if column = 0 then (toString rows).length else indexWidth
    let text := Format.padded width false (toString (i + 1)) ++ ") " ++ w
    let isLast := count ≤ i + rows
    let start := column * widest
    let length := (Multibyte.characters w.toList).length + width + 2
    some (text ++ if isLast then "" else blanksTo widest (start + length) (start + widest))
  String.join ((List.range rows).map fun row =>
    String.join ((List.range columns).filterMap (cell row)) ++ "\n")

/-- Runs a loop in each round of which one of some words is asked for. -/
def asking (e : Engine) (name : String) (words : List String) (body : List Command) :
    (rounds : Nat) → (shows : Bool) → Sh Unit
  | 0, _ => return
  | n + 1, shows => do
    if shows then Sh.printError (menu words)
    let sign := (← Sh.value? "PS3").getD "#? "
    Sh.printError (← Expand.prompt e sign)
    match ← Builtin.readLine ⟨false, some '\n', none, 0⟩ with
    | .ok (ms, true) =>
      let line := String.ofList (ms.map (·.1))
      let line := ((line.toList.dropWhile isBlank).reverse.dropWhile isBlank).reverse
      let line := String.ofList line
      Sh.assign "REPLY" line
      if line = "" then asking e name words body n true
      else
        let chosen := match Builtin.number? line with
          | some k => if 0 < k then (words[k.toNat - 1]?).getD "" else ""
          | none => ""
        Sh.assign name chosen
        if ← bodyOnce e body then asking e name words body n ((← Sh.value? "REPLY") = some "") else return
    | _ =>
      Sh.print "\n"
      Sh.setStatus 1

/-! ### Choices -/

/-- Whether a text matches one of some patterns. -/
def matchesAny (e : Engine) (subject : String) : List Spelled → Sh Bool
  | [] => return false
  | w :: ws => do
    if ← Condition.patternHolds subject (← e.expand (← Expand.tilde w.meaning)) then return true
    else matchesAny e subject ws

/-- Runs the clauses of a choice. With `through` the first of them is run whatever its patterns. -/
def clauses (e : Engine) (subject : String) : (through : Bool) → List Clause → Sh Unit
  | _, [] => return
  | through, .mk patterns body next :: rest => do
    let chosen ← if through then pure true else matchesAny e subject patterns
    if chosen then
      if body.isEmpty then Sh.setStatus 0 else e.execAll body
      match next with
      | .done => return
      | .through => clauses e subject true rest
      | .again => clauses e subject false rest
    else clauses e subject false rest

/-- Runs the first arm whose condition succeeds. -/
def arms (e : Engine) (otherwise : List Command) : List (List Command × List Command) → Sh Unit
  | [] => do
    Sh.setStatus 0
    e.execAll otherwise
  | (condition, body) :: rest => do
    looking (e.execAll condition)
    if (← Sh.ask (·.status)) = 0 then e.execAll body else arms e otherwise rest

/-! ### Pipelines -/

/-- Runs the stages of a pipeline, with room for a number of characters between them. The result
    is their statuses. -/
def stages (e : Engine) (room : Nat) (whole inShell : Bool) : List Command → Sh (List Nat)
  | [] => return []
  | c :: cs => do
    if c matches .simple _ _ _ _ then announce e c
    match cs with
    | [] =>
      if inShell then e.exec c else e.apart true (e.exec c)
      return [← Sh.ask (·.status)]
    | _ =>
      let before ← Sh.ask (·.files.now)
      let sink ← Sh.addChannel (.sink [] (some room))
      Sh.withStreams do
        Sh.lead 1 (some sink)
        e.apart true (e.exec c)
      let s ← Sh.ask id
      let printed := ((s.channels[sink]?).map (Sh.collected s.ended)).getD ""
      Sh.setChannel sink (.source printed.toList (!whole && room ≤ printed.length))
      Sh.setTime before
      let input ← Sh.ask fun s => s.streams.lookup 0
      Sh.lead 0 (some sink)
      let r ← Sh.attempt (stages e room whole inShell cs)
      Sh.lead 0 input
      Sh.change fun t => { t with files := { t.files with now := max t.files.now s.files.now } }
      let rest ← Sh.resume r
      return s.status :: rest

/-- The room between the stages of a pipeline, which is tried at first, then more of it. -/
def rooms : List (Nat × Bool) := [(65536, false), (524288, false), (4194304, false), (33554432, true)]

/-- Runs the stages of a pipeline with the first room that is enough. -/
def stagesWith (e : Engine) (inShell : Bool) (cs : List Command) : List (Nat × Bool) → Sh (List Nat)
  | [] => Sh.wantMore
  | (room, whole) :: more => fun s =>
    match stages e room whole inShell cs s with
    | (.wanting, _) => stagesWith e inShell cs more s
    | r => r

/-- Runs a pipeline. -/
def pipeline (e : Engine) (negated : Bool) (cs : List Command) : Sh Unit := do
  let run : Sh Unit := do
    match cs with
    | [c] =>
      e.exec c
      Sh.change fun s => { s with stageStatuses := [s.status] }
    | cs =>
      let inShell := (← Sh.isExtended) && (← Sh.chosen "lastpipe")
      let statuses ← stagesWith e inShell cs rooms
      Sh.change fun s => { s with stageStatuses := statuses, death := none }
      let failed := (statuses.reverse.find? (· != 0)).getD 0
      Sh.setStatus (if ← Sh.chosen "pipefail" then failed else (statuses.getLast?).getD 0)
      pause e
  if negated then
    looking run
    Sh.change fun s => { s with status := if s.status = 0 then 1 else 0 }
  else
    run
    checkFailure e

/-! ### Time -/

/-- A time as it is shown, with a number of places. -/
def shownTime (long : Bool) (places : Nat) (nanoseconds : Int) : String :=
  let milliseconds := nanoseconds.toNat / 1000000
  let seconds := milliseconds / 1000
  let part := (Fraction.zeroPadded 3 (toString (milliseconds % 1000))).take places
  let point := if places = 0 then "" else "." ++ part.toString
  if long then toString (seconds / 60) ++ "m" ++ toString (seconds % 60) ++ point ++ "s"
  else toString seconds ++ point

/-- A format for times with the time in it that was taken. -/
def timeText (taken : Int) : (length : Nat) → List Char → List Char
  | 0, _ => []
  | _ + 1, [] => []
  | n + 1, '%' :: cs =>
    let digits := cs.takeWhile Char.isDigit
    let places := if digits.isEmpty then 3 else min 3 (numberOf 10 digits)
    let rest := cs.drop digits.length
    let long := rest.head? = some 'l'
    let rest := if long then rest.drop 1 else rest
    match rest with
    | 'R' :: cs => (shownTime long places taken).toList ++ timeText taken n cs
    | 'U' :: cs => (shownTime long places 0).toList ++ timeText taken n cs
    | 'S' :: cs => (shownTime long places 0).toList ++ timeText taken n cs
    | 'P' :: cs => "0.00".toList ++ timeText taken n cs
    | '%' :: cs => '%' :: timeText taken n cs
    | _ => '%' :: timeText taken n cs
  | n + 1, c :: cs => c :: timeText taken n cs

/-- Runs a command and says how long that took. -/
def timed (e : Engine) (portable : Bool) (c : Command) : Sh Unit := do
  let before ← Sh.ask (·.files.now)
  let r ← Sh.attempt (e.exec c)
  let after ← Sh.ask (·.files.now)
  let format ← if portable then pure "real %2R\nuser %2U\nsys %2S" else do
    pure ((← Sh.value? "TIMEFORMAT").getD "\nreal\t%3lR\nuser\t%3lU\nsys\t%3lS")
  if format != "" then
    Sh.report (String.ofList (timeText (after - before) (format.length + 1) format.toList))
  Sh.resume r

/-! ### Commands -/

/-- Defines a function. -/
def define (name : String) (body : Command) : Sh Unit := do
  if (← Sh.ask (·.constantFunctions)).contains name then
    Sh.complain (name ++ ": readonly function")
    Sh.setStatus 1
  else
    Sh.change fun s => { s with
      functions := (name, body) :: s.functions.filter (·.1 != name)
      status := 0 }

/-- Runs a command, whatever the streams it borrows. -/
def run (e : Engine) (c : Command) : Sh Unit := do
  match c with
  | .simple line assignments words redirects =>
    announce e c
    simple e line assignments words redirects
    Sh.change fun s => { s with stageStatuses := [s.status] }
    pause e
    checkFailure e
  | .pipeline negated cs => pipeline e negated cs
  | .timed portable c => timed e portable c
  | .both a b =>
    looking (e.exec a)
    if (← Sh.ask (·.status)) = 0 then e.exec b
  | .either a b =>
    looking (e.exec a)
    if (← Sh.ask (·.status)) != 0 then e.exec b
  | .background c => Background.launch e c
  | .group body => e.execAll body
  | .subshell body =>
    e.apart false (e.execAll body)
    reportDeath
    Sh.change fun s => { s with stageStatuses := [s.status] }
    pause e
    checkFailure e
  | .branch as otherwise => arms e otherwise as
  | .loop wanted condition body => inLoop (loop e wanted condition body mostRounds 0)
  | .each line isAsking name words body =>
    Sh.change fun s => { s with line := line }
    let values ← match words with
      | some ws => do pure (← Sh.collect ws fun w => Expand.fields e w.meaning).flatten
      | none => Sh.ask (·.positional)
    if !isName name then
      Sh.complain ("\x60" ++ name ++ "': not a valid identifier")
      Sh.stop (.giveUp 1)
    Sh.setStatus 0
    if isAsking then
      announce e c
      traceHeading e c
      if !values.isEmpty then inLoop (asking e name values body mostRounds true)
    else inLoop (forEach e c name body values)
  | .counted line start condition step body =>
    Sh.change fun s => { s with line := line, status := 0 }
    announce e (.calculate line start)
    if !start.meaning.isEmpty then
      match ← formula e start with
      | some _ => inLoop (counted e condition step body mostRounds)
      | none => Sh.setStatus 1
    else inLoop (counted e condition step body mostRounds)
  | .choose line subject cs =>
    Sh.change fun s => { s with line := line }
    announce e c
    traceHeading e c
    let text ← Expand.single e subject.meaning
    Sh.setStatus 0
    clauses e text false cs
  | .define _ name body => define name body
  | .redirected c redirects =>
    match ← Redirecting.under e redirects (e.exec c) with
    | some _ => return
    | none =>
      Sh.setStatus (← Redirecting.refusedStatus)
      checkFailure e
  | .calculate line w =>
    Sh.change fun s => { s with line := line }
    announce e c
    match ← formula e w with
    | some n => Sh.setStatus (if n = 0 then 1 else 0)
    | none => Sh.setStatus 1
    checkFailure e
  | .test line condition =>
    Sh.change fun s => { s with line := line }
    announce e c
    match ← Condition.holds e false condition with
    | some true => Sh.setStatus 0
    | some false => Sh.setStatus 1
    | none => Sh.setStatus 2
    checkFailure e
  | .beside name c => Background.launchBeside e name c

/-- Gives what was written for some commands to them. -/
def feed (e : Engine) : List (Nat × List Command) → Sh Unit
  | [] => return
  | (channel, body) :: rest => do
    let s ← Sh.ask id
    let written := ((s.channels[channel]?).map (Sh.collected s.ended)).getD ""
    Sh.withStreams do
      Sh.lead 0 (some (← Sh.addChannel (.source written.toList false)))
      e.apart true (e.execAll body)
    Sh.setStatus s.status
    feed e rest

/-- Runs a command, and takes the streams back that it borrowed. -/
def command (e : Engine) (c : Command) : Sh Unit := do
  let before ← Sh.ask id
  if before.choices.contains "noexec" then return
  else
    if !before.borrowed.isEmpty || !before.consumers.isEmpty then
      Sh.change fun s => { s with borrowed := [], consumers := [] }
    let r ← Sh.attempt (run e c)
    let s ← Sh.ask id
    if !s.borrowed.isEmpty || !s.consumers.isEmpty then
      Sh.each s.borrowed fun n => Sh.lead n none
      Sh.change fun s => { s with borrowed := [], consumers := [] }
      feed e s.consumers
    if !before.borrowed.isEmpty || !before.consumers.isEmpty then
      Sh.change fun s => { s with borrowed := before.borrowed, consumers := before.consumers }
    Sh.resume r

end Retrace.Unix.Execute
