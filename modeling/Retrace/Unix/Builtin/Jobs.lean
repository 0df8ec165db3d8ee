import Retrace.Unix.Background
import Retrace.Unix.Builtin.Basic

/-!
# Jobs and signals

Waiting for what runs in the background, sending signals, and saying what is to
be done when they come.
-/

namespace Retrace.Unix.Builtin

/-! ### Traps -/

/-- What something can be done for, in the order in which it is shown. -/
def occasions : List String :=
  ["EXIT"] ++ Signal.names.map (·.2) ++ ["DEBUG", "ERR", "RETURN"]

/-- The occasion that a text names. -/
def occasion? (extended : Bool) (s : String) : Option String :=
  if s = "0" || s.toUpper = "EXIT" then some "EXIT"
  else if extended then
    let bare := if s.toUpper.startsWith "SIG" then (s.toUpper.drop 3).toString else s.toUpper
    if ["DEBUG", "ERR", "RETURN", "EXIT"].contains bare then some bare
    else (Signal.of? s).map Signal.name
  else if s.toUpper.startsWith "SIG" then none
  else (Signal.of? s).map Signal.name

/-- An occasion as it is shown. -/
def shownOccasion (extended : Bool) (s : String) : String :=
  if !extended || ["EXIT", "DEBUG", "ERR", "RETURN"].contains s then s else "SIG" ++ s

/-- Shows what is to be done on some occasions. -/
def showTraps (which : List String) : Sh Unit := do
  let s ← Sh.ask id
  let known := if s.formerTraps.isEmpty then s.traps else s.formerTraps ++ s.traps
  Sh.each which fun o =>
    match known.lookup o with
    | some command =>
      line ("trap -- " ++ Quoting.single command ++ " " ++ shownOccasion s.dialect.extended o)
    | none => pure ()

/-- The table of the signals. -/
def signalTable : String :=
  String.join (Signal.names.zipIdx.map fun ((n, name), i) =>
    Format.padded 2 false (toString n) ++ ") SIG" ++ name ++ (if i % 5 = 4 then "\n" else "\t")) ++ "\n"

/-- Says what is to be done on an occasion; `none` takes that back. -/
def setTrap (occasion : String) (command : Option String) : Sh Unit :=
  Sh.change fun s => { s with
    formerTraps := []
    traps := s.traps.filter (·.1 != occasion) ++ (command.map fun c => (occasion, c)).toList }

/-- Says what is to be done on some occasions. -/
def trap : Builtin := fun _ args => do
  let extended ← Sh.isExtended
  let form := "trap [-lp] [[arg] signal_spec ...]"
  withOptions "trap" form (if extended then "lp" else "") "" true args fun c => do
    let setAll (command : Option String) (names : List String) : Sh Nat :=
      Sh.worst names fun name => do
        match occasion? extended name with
        | some o =>
          setTrap o command
          return 0
        | none =>
          if extended then wrong "trap" (name ++ ": invalid signal specification") 1
          else
            Sh.report ("trap: " ++ name ++ ": bad trap")
            return 1
    let isNumber (s : String) : Bool := s != "" && s.toList.all Char.isDigit
    if c.has 'l' then
      Sh.print signalTable
      return 0
    else if c.has 'p' && !c.rest.isEmpty then
      Sh.worst c.rest fun name => do
        match occasion? extended name with
        | some o =>
          showTraps [o]
          return 0
        | none => wrong "trap" (name ++ ": invalid signal specification") 1
    else match c.rest with
      | [] =>
        showTraps occasions
        return 0
      | [name] =>
        if !extended || (occasion? extended name).isSome then setAll none [name] else usage "trap" form
      | first :: names =>
        if first = "-" then setAll none names
        else if isNumber first && (occasion? extended first).isSome then setAll none (first :: names)
        else setAll (some first) names

/-! ### Jobs -/

/-- The job that an argument means. -/
def job? (arg : String) : Sh (Option Job) := do
  let s ← Sh.ask id
  let known := Background.remembered s
  let spec := (arg.drop 1).toString
  match spec with
  | "" => return known.getLast?
  | "%" => return known.getLast?
  | "+" => return known.getLast?
  | "-" => return (known.dropLast.getLast?).or known.getLast?
  | _ =>
    match spec.toNat? with
    | some n => return known.find? (·.number = n)
    | none =>
      if spec.startsWith "?" then
        let text := (spec.drop 1).toString
        return known.find? fun j => (j.text.splitOn text).length > 1
      else return known.find? (·.text.startsWith spec)

/-- Complains that there is no such job. -/
def noJob (name arg : String) (status : Nat) : Sh Nat := do
  if ← Sh.isExtended then wrong name (arg ++ ": no such job") status
  else wrong name ("No such job: " ++ arg) 2

/-- A job as it is shown. -/
def shownJob (extended : Bool) (all : List Job) (long : Bool) (o : Option Outcome) (j : Job) : String :=
  let mark := if (all.getLast?).any (·.process = j.process) then "+"
    else if (all.dropLast.getLast?).any (·.process = j.process) then "-" else " "
  let stage := match o with
    | some o =>
      match o.death with
      | some n => Signal.description n
      | none => if o.status = 0 then "Done" else if extended then "Exit " ++ toString o.status
        else "Done(" ++ toString o.status ++ ")"
    | none => "Running"
  if extended then
    "[" ++ toString j.number ++ "]" ++ mark ++ " " ++
      (if long then Format.padded 5 false (toString j.process) else "") ++ " " ++
      Format.padded 24 true stage ++ j.text ++ (if o.isNone then " &" else "")
  else "[" ++ toString j.number ++ "] " ++ mark ++ " " ++
    (if long then toString j.process ++ " " else "") ++ Format.padded 27 true stage

/-- Shows the jobs. -/
def jobs : Builtin := fun e args => do
  let extended ← Sh.isExtended
  Background.catchUp e
  withOptions "jobs" "jobs [-lnprs] [jobspec ...] or jobs -x command [args]" (if extended then "lnprsx" else "lp") ""
    false args fun c => do
    let s ← Sh.ask id
    let all := Background.remembered s
    let show' (j : Job) : Sh Unit := do
      if c.has 'p' then line (toString j.process)
      else if c.has 's' then pure ()
      else
        line (shownJob extended all (c.has 'l') (Background.ended? s j.process s.files.now) j)
    if c.has 'x' then
      let words ← Sh.collect c.rest fun a => do
        if a.startsWith "%" then return ((← job? a).map fun j => toString j.process).getD a else return a
      e.source "" s.line (" ".intercalate (words.map Quoting.single))
      Sh.ask (·.status)
    else if c.rest.isEmpty then
      Sh.each (if extended then all else all.reverse) show'
      -- what is done is only said once
      Sh.change fun s => { s with
        jobs := all.filter fun j => (Background.ended? s j.process s.files.now).isNone }
      return 0
    else Sh.worst c.rest fun arg => do
      match ← job? (if arg.startsWith "%" then arg else "%" ++ arg) with
      | some j =>
        show' j
        return 0
      | none => noJob "jobs" arg 1

/-! ### Waiting -/

/-- Waits up to a time. The result is the status if a signal came before. -/
def waitUntil (e : Engine) (time : Int) : Sh (Option Nat) := do
  let s ← Sh.ask id
  let first := s.signals.foldl (fun (first : Option (Int × Nat)) (sent, process, signal) =>
    if process = s.process && sent ≤ time && (Sh.trapOf s signal).any (· != "") && first.all (sent < ·.1) then
      some (sent, signal)
    else first) none
  match first with
  | some (sent, signal) =>
    if s.files.now < sent then Sh.elapse (sent - s.files.now)
    Trap.heed e
    return some (128 + signal)
  | none =>
    if s.files.now < time then Sh.elapse (time - s.files.now)
    return none

/-- Forgets a job. -/
def forgetJob (process : Nat) : Sh Unit :=
  Sh.change fun s => { s with jobs := s.jobs.filter (·.process != process) }

/-- Waits for a process of this shell. The result is the status, if there is such a process. -/
def waitFor (e : Engine) (process : Nat) : Sh (Option Nat) := do
  Background.awaitAll e 0
  let s ← Sh.ask id
  match s.outcomes.find? (·.process = process) with
  | some o =>
    if process ≤ s.process then return none
    match ← waitUntil e o.time with
    | some status => return some status
    | none =>
      forgetJob process
      match if s.dialect.extended then none else o.death with
      | some signal => Sh.report (Signal.description signal)
      | none => pure ()
      return some o.status
  | none => return none

/-- The outcomes of the jobs of this shell, in the order in which they come. -/
def comingOutcomes : Sh (List Outcome) := do
  let s ← Sh.ask id
  let own := s.outcomes.filter fun o => s.jobs.any fun j => j.process = o.process && s.process < j.process
  return own.mergeSort fun a b => a.time ≤ b.time

/-- Waits for what runs in the background. -/
def wait : Builtin := fun e args => do
  let extended ← Sh.isExtended
  withOptions "wait" "wait [-fn] [-p var] [id ...]" (if extended then "fn" else "") (if extended then "p" else "")
    false args fun c => do
    let report (process : Option Nat) : Sh Unit := do
      match c.value? 'p' with
      | some name =>
        match process with
        | some n => assignTo name (toString n)
        | none => Sh.setVariable name none
      | none => pure ()
    let named (arg : String) : Sh (Except Nat Nat) := do
      if arg.startsWith "%" then
        match ← job? arg with
        | some j => return .ok j.process
        | none => return .error (← noJob "wait" arg 127)
      else match arg.toNat? with
        | some n => return .ok n
        | none =>
          if extended then
            return .error (← wrong "wait" ("\x60" ++ arg ++ "': not a pid or valid job spec") 1)
          else return .error (← wrong "wait" ("Illegal number: " ++ arg) 2)
    let one (arg : String) : Sh Nat := do
      match ← named arg with
      | .error status => return status
      | .ok process =>
        match ← waitFor e process with
        | some status =>
          report (some process)
          return status
        | none =>
          if extended then wrong "wait" ("pid " ++ toString process ++ " is not a child of this shell") 127
          else return 127
    if c.has 'n' then
      Background.awaitAll e 0
      let wanted ← Sh.collect c.rest named
      let all ← comingOutcomes
      let all := if c.rest.isEmpty then all
        else all.filter fun o => wanted.any fun
          | .ok n => n = o.process
          | .error _ => false
      match all with
      | o :: _ =>
        match ← waitUntil e o.time with
        | some status => return status
        | none =>
          forgetJob o.process
          report (some o.process)
          return o.status
      | [] =>
        report none
        return 127
    else if c.rest.isEmpty then
      Background.awaitAll e 0
      let all ← comingOutcomes
      match ← waitUntil e ((all.getLast?.map (·.time)).getD 0) with
      | some status => return status
      | none =>
        if extended then Sh.change fun s => { s with jobs := [] }
        return 0
    else
      let statuses ← Sh.collect c.rest one
      return (statuses.getLast?).getD 0

/-! ### Signals -/

/-- How `kill` is used. -/
def killForm : String :=
  "kill [-s sigspec | -n signum | -sigspec] pid | jobspec ... or kill -l [sigspec]"

/-- Says how `kill` is used. -/
def killUsage : Sh Nat := do
  if ← Sh.isExtended then usage "kill" killForm
  else
    Sh.complain "kill: Usage: kill [-s sigspec | -signum | -sigspec] [pid | job]... or\nkill -l [exitstatus]"
    return 2

/-- Sends a signal to a process. Whether there is such a process. -/
def send (signal process : Nat) : Sh Bool := do
  let s ← Sh.ask id
  let waiting := s.postponed.find? (·.process = process)
  let isKnown := process = s.shell || process = s.process || process = 1 || waiting.isSome ||
    s.outcomes.any fun o => o.process = process && s.files.now < o.time
  if isKnown && signal != 0 then
    let time := match waiting with
      | some p => max s.files.now p.start
      | none => s.files.now
    Sh.change fun s => { s with signals := s.signals ++ [(time, process, signal)] }
  return isKnown

/-- The name or the number that a number or a name means. -/
def signalNamed (extended : Bool) (arg : String) : Sh Nat := do
  let isNumber := arg != "" && arg.toList.all Char.isDigit
  let n := (arg.toNat?).getD 0
  let n := if 128 < n && n < 256 then n - 128 else n
  if isNumber then
    if n = 0 && extended then
      line "EXIT"
      return 0
    match if 0 < n && n ≤ Signal.highest then Signal.name? n else none with
    | some name =>
      line name
      return 0
    | none => wrong "kill" (arg ++ (if extended then ": invalid signal specification" else "")) 1
  else if extended then
    match Signal.of? arg with
    | some n =>
      line (toString n)
      return 0
    | none => wrong "kill" (arg ++ ": invalid signal specification") 1
  else wrong "kill" ("Illegal number: " ++ arg) 2

/-- Shows the signals, or some of them. -/
def listSignals (names : List String) : Sh Nat := do
  let extended ← Sh.isExtended
  if !names.isEmpty then
    Sh.worst names (signalNamed extended)
  else if extended then
    Sh.print signalTable
    return 0
  else
    Sh.each (List.range (Signal.highest + 1)) fun n =>
      line (if n = 16 then "16" else Signal.name n)
    return 0

/-- Sends a signal to processes or jobs. -/
def kill : Builtin := fun e args => do
  let extended ← Sh.isExtended
  Background.catchUp e
  let sendTo (signal : Nat) (arg : String) : Sh Nat := do
    let unknown (shown : String) : Sh Nat := do
      if extended then wrong "kill" ("(" ++ shown ++ ") - No such process") 1
      else
        Sh.complain "kill: No such process\n"
        return 1
    if arg.startsWith "%" then
      match ← job? arg with
      | some j => if ← send signal j.process then return 0 else unknown (toString j.process)
      | none => noJob "kill" arg 1
    else match arg.toInt? with
      | some n =>
        if arg.startsWith "+" then
          if extended then wrong "kill" (arg ++ ": arguments must be process or job IDs") 1
          else wrong "kill" ("Illegal number: " ++ arg) 2
        else
          let own ← Sh.ask (·.process)
          let found ← if n = 0 then send signal own else if n < 0 then pure false else send signal n.toNat
          if found then return 0 else unknown (toString n)
      | none =>
        if !extended then wrong "kill" ("Illegal number: " ++ arg) 2
        else if arg = "" then wrong "kill" ("\x60" ++ arg ++ "': not a pid or valid job spec") 1
        else wrong "kill" (arg ++ ": arguments must be process or job IDs") 1
  let toAll (signal : Option Nat) (shown : String) (targets : List String) : Sh Nat := do
    let targets := if targets.head? = some "--" then targets.drop 1 else targets
    match signal with
    | none => wrong "kill" (shown ++ ": invalid signal specification") 1
    | some n =>
      if targets.isEmpty then killUsage
      else
        let statuses ← Sh.collect targets (sendTo n)
        return if extended then (if statuses.any (· = 0) then 0 else 1) else statuses.foldl max 0
  let signal? (s : String) : Option Nat :=
    if s = "0" || s.toUpper = "EXIT" then some 0 else Signal.of? s
  match args with
  | [] => killUsage
  | "-l" :: names => listSignals (if names.head? = some "--" then names.drop 1 else names)
  | "-L" :: names => if extended then listSignals names else killUsage
  | "-s" :: rest =>
    match rest with
    | name :: targets => toAll (signal? name) name targets
    | [] =>
      if extended then wrong "kill" "-s: option requires an argument" 1
      else wrong "kill" "No arg for -s option" 2
  | "-n" :: rest =>
    match rest with
    | name :: targets =>
      if extended then toAll (signal? name) name targets else wrong "kill" "Illegal option -n" 2
    | [] =>
      if extended then wrong "kill" "-n: option requires an argument" 1
      else wrong "kill" "Illegal option -n" 2
  | "--" :: targets => toAll (some Signal.terminate) "" targets
  | arg :: targets =>
    match arg.toList with
    | '-' :: c :: cs =>
      let name := String.ofList (c :: cs)
      if extended then toAll (signal? name) name targets
      else match signal? name with
        | some n => toAll (some n) name targets
        | none => wrong "kill" ("Illegal option -" ++ String.singleton c) 2
    | _ => toAll (some Signal.terminate) "" args

/-! ### What needs job control -/

/-- Forgets jobs. -/
def disown : Builtin := fun _ args =>
  withOptions "disown" "disown [-h] [-ar] [jobspec ... | pid ...]" "har" "" false args fun c => do
    if c.has 'a' || (c.has 'r' && c.rest.isEmpty) then
      Sh.change fun s => { s with jobs := [] }
      return 0
    else
      let forget (arg : String) : Sh Nat := do
        let found ← match arg.toNat? with
          | some n => Sh.ask fun s => s.jobs.find? (·.process = n)
          | none => job? arg
        match found with
        | some j =>
          if !c.has 'h' then forgetJob j.process
          return 0
        | none => wrong "disown" ((if arg = "%+" then "current" else arg) ++ ": no such job") 1
      if c.rest.isEmpty then forget "%+" else Sh.worst c.rest forget

/-- What only works where jobs can be stopped. -/
def controlling (name : String) : Builtin := fun _ args => do
  if ← Sh.isExtended then
    wrong name (if name = "suspend" then "cannot suspend: no job control" else "no job control") 1
  else wrong name (match args with
    | [] => "No current job"
    | arg :: _ => "No such job: " ++ arg) 2

/-- The time that was taken, which is none. -/
def times : Builtin := fun _ _ => do
  let none' := "0m0.000s 0m0.000s"
  let plain := "0m0.000000s 0m0.000000s"
  let text := if ← Sh.isExtended then none' else plain
  line text
  line text
  return 0

end Retrace.Unix.Builtin
