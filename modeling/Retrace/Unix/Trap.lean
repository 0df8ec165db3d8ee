import Retrace.Unix.Expansion

/-!
# Traps

What a shell was told to do when something happens: when a signal comes, when it
is left, before each command, after one that failed, and when a function
returns.

A signal is noticed between two commands. One for which nothing is to be done
ends what gets it.
-/

namespace Retrace.Unix.Trap

/-- Does what is to be done. The status is what it was before. -/
def perform (e : Engine) (command : String) (line : Nat) : Sh Unit := do
  let s ← Sh.ask id
  Sh.change fun s => { s with trapping := true }
  let r ← Sh.attempt (e.source "" line command)
  Sh.change fun t => { t with
    trapping := s.trapping
    status := s.status
    stageStatuses := s.stageStatuses
    outputStatus := s.outputStatus
    line := s.line }
  Sh.resume r

/-- Does what is to be done when something happens to commands. -/
def event (e : Engine) (name : String) : Sh Unit := do
  let s ← Sh.ask id
  if s.traps.isEmpty || s.trapping then return
  match s.traps.lookup name with
  | some command => if command = "" then return else perform e command s.line
  | none => return

/-- Does what is to be done about the signals that have come. -/
def heed (e : Engine) : Sh Unit := do
  let s ← Sh.ask id
  if s.signals.isEmpty then return
  let (come, others) := s.signals.partition fun (sent, process, _) =>
    process = s.process && sent ≤ s.files.now
  if come.isEmpty then return
  Sh.change fun s => { s with signals := others }
  Sh.each come fun (_, _, signal) =>
    match Sh.trapOf s signal with
    | some "" => pure ()
    | some command => perform e command 1
    | none => Sh.stop (.killed signal)

/-- What has become known when something stopped: its status. -/
def statusAt? : Except Stop Unit → Option Nat
  | .error (.exit n) => some n
  | .error (.giveUp n) => some n
  | .error (.return n) => some n
  | .error (.killed n) => some (128 + n)
  | _ => none

/-- Runs something and then what is to be done at the end. -/
def farewell (e : Engine) (x : Sh Unit) : Sh Unit := do
  let r ← Sh.attempt x
  match statusAt? r with
  | some n => Sh.setStatus n
  | none => pure ()
  let extended ← Sh.isExtended
  let quiet := match r with
    | .error .timeUp => true
    | .error .blocked => true
    | .error .broken => true
    | .error (.killed n) => !extended || n = Signal.kill
    | _ => false
  let rest : Sh Unit :=
    match r with
    | .error (.exit _) => pure ()
    | .error (.giveUp _) => pure ()
    | .error (.return _) => pure ()
    | r => Sh.resume r
  let traps ← Sh.ask (·.traps)
  match if quiet then none else traps.lookup "EXIT" with
  | some command =>
    Sh.change fun s => { s with traps := s.traps.filter (·.1 != "EXIT"), loops := 0 }
    match ← Sh.attempt (perform e command 1) with
    | .error (.exit n) => Sh.setStatus n
    | .error (.giveUp n) => Sh.setStatus n
    | .error (.killed n) => Sh.stop (.killed n)
    | _ => rest
  | none => rest

/-- The traps that a subshell also has. -/
def inherited (s : State) : List (String × String) :=
  s.traps.filter fun t =>
    (t.1 = "ERR" && s.choices.contains "errtrace") ||
      ((t.1 = "DEBUG" || t.1 = "RETURN") && s.choices.contains "functrace")

/-- Runs something in a subshell, with what is to be done at its end. -/
def apart (e : Engine) (x : Sh Unit) : Sh Unit := do
  let kept := inherited (← Sh.ask id)
  Sh.subshell do
    if !kept.isEmpty then Sh.change fun s => { s with traps := s.traps ++ kept }
    farewell e x

/-- Runs a function, which does not see all traps. -/
def around (x : Sh Unit) : Sh Unit := do
  let s ← Sh.ask id
  if s.traps.isEmpty then x
  else
    let hidden := s.traps.filter fun t =>
      (t.1 = "ERR" && !s.choices.contains "errtrace") ||
        ((t.1 = "DEBUG" || t.1 = "RETURN") && !s.choices.contains "functrace")
    if hidden.isEmpty then x
    else
      let names := hidden.map (·.1)
      Sh.change fun s => { s with traps := s.traps.filter fun t => !names.contains t.1 }
      let r ← Sh.attempt x
      Sh.change fun s => { s with traps := (s.traps.filter fun t => !names.contains t.1) ++ hidden }
      Sh.resume r

end Retrace.Unix.Trap
