import Retrace.Unix.Trap

/-!
# What runs in the background

A command for the background is put off: it is run when someone may notice what
it does, with the clock set back to the time at which it began. If it turns out
to end after the time up to which it matters, or to wait for input that is not
there yet, it is as if it had not been run, and it is tried again later.

A command that runs beside the shell, with pipes to and from it, is run anew
with all the input it was given so far whenever the shell waits for more of its
output.
-/

namespace Retrace.Unix.Background

/-- The time, in nanoseconds, that it takes to begin. -/
def delay : Int := 500000

/-- The longest time, in nanoseconds, that something runs in the background. -/
def longest : Int := 20000000000

/-- How something ended, if it has ended by a time. -/
def ended? (s : State) (process : Nat) (time : Int) : Option Outcome :=
  s.outcomes.find? fun o => o.process = process && o.time ≤ time

/-- What a command is run in that was put off. -/
def setting (p : Postponed) (s : State) : State :=
  { s with
    process := p.process
    job := p.process
    streams := p.streams
    directory := p.directory
    here := p.here
    parameters := p.parameters
    positional := p.positional
    functions := p.functions
    frames := p.frames
    choices := p.choices
    traps := p.traps
    status := 0
    deadline := some (p.start + longest) }

/-- Runs a command that was put off. -/
def run (e : Engine) (forced : Bool) (p : Postponed) : Sh Unit :=
  Sh.subshell do
    Sh.change fun s => { setting p s with postponable := !forced }
    Sh.setTime p.start
    Trap.farewell e (e.exec p.command)

/-- The state after something has been run beside the shell. -/
def afterwards (before after : State) : State :=
  { after with
    files := { after.files with now := before.files.now }
    status := before.status
    death := before.death
    refused := before.refused }

/-- Tries to run a command that was put off. Whether it came to its end, by a time. -/
def attempt (e : Engine) (limit : Option Int) (forced : Bool) (p : Postponed) : Sh Bool := fun s =>
  match run e forced p s with
  | (.wanting, t) => (.wanting, t)
  | (.stopped .blocked, _) => (.done false, s)
  | (_, t) =>
    if limit.any (· < t.files.now) then (.done false, s)
    else (.done true, { afterwards s t with
      outcomes := ⟨p.process, t.files.now, t.status, t.death⟩ :: t.outcomes })

/-- Whether a stream of the shell leads to a pipe. -/
def leadsTo (s : State) (pipe : Nat) : Bool :=
  s.streams.any fun (_, n) =>
    match s.channels[n]? with
    | some (.pipe number) => number = pipe
    | _ => false

/-- Puts a command off. -/
def putOff (p : Postponed) : Sh Unit :=
  Sh.change fun s => { s with postponed := s.postponed ++ [p] }

/-- Runs a command anew whose input may have grown. Whether there is more of its output. -/
def grow (e : Engine) (p : Postponed) (g : Growth) : Sh Bool := fun s =>
  let isOpen := leadsTo s g.input
  let given := match s.files.content? g.input with
    | some (.pipe waiting) => waiting
    | _ => ""
  let (number, files) := s.files.add (.pipe given) Files.usualMode
  let sink := s.channels.size
  let job := s.nextProcess
  let begun := { s with
    files := files
    channels := (s.channels.push (.sink [] none)).push (.pipe number)
    nextProcess := s.nextProcess + 1
    ended := (g.job, p.start - 1) :: s.ended }
  let work : Sh Unit := Sh.subshell do
    Sh.change fun s => { setting p s with job := job, postponable := isOpen }
    Sh.setTime p.start
    Sh.lead 0 (some (sink + 1))
    Sh.lead 1 (some sink)
    Trap.farewell e (e.exec p.command)
  match work begun with
  | (.wanting, t) => (.wanting, t)
  | (_, t) =>
    let printed := ((t.channels[sink]?).map (Sh.collected t.ended)).getD ""
    let new := (printed.drop g.taken).toString
    let killed := t.death.isSome
    let t := { t with files := t.files.alterContent g.output fun
      | .pipe waiting => .pipe (waiting ++ new)
      | c => c }
    let after := afterwards s t
    if isOpen && !killed then
      (.done (new != ""), { after with
        postponed := after.postponed ++ [{ p with grows := some { g with taken := printed.length, job := job } }] })
    else
      (.done true, { after with
        outcomes := ⟨p.process, max s.files.now t.files.now, t.status, t.death⟩ :: after.outcomes })

/-- Tries to run some of the commands that were put off. Whether any came to its end. -/
def pass (e : Engine) (limit : Option Int) (forced : Bool) : List Postponed → Sh Bool
  | [] => return false
  | p :: ps => do
    let waits ← Sh.ask fun s => s.postponed.any (·.process = p.process)
    let ran ←
      if !waits || limit.any (· < p.start) || (p.grows.isSome && limit.isSome) then pure false
      else do
        Sh.change fun s => { s with postponed := s.postponed.filter (·.process != p.process) }
        match p.grows with
        | some g => grow e p g
        | none =>
          let ran ← attempt e limit forced p
          if !ran then putOff p
          pure ran
    let more ← pass e limit forced ps
    return ran || more

/-- How often the commands that were put off are tried. -/
def mostPasses : Nat := 50

/-- Runs the commands that were put off, as long as any of them comes to its end by a time. Only
    those are run whose numbers are higher than the given one. -/
def settle (e : Engine) (limit : Option Int) (inside : Nat) : (passes : Nat) → Sh Unit
  | 0 => return
  | n + 1 => do
    let waiting ← Sh.ask fun s => s.postponed.filter fun p => inside < p.process
    if !waiting.isEmpty then
      if ← pass e limit false waiting then settle e limit inside n

/-- Runs the commands that were put off and have ended by now. -/
def catchUp (e : Engine) : Sh Unit := do
  let s ← Sh.ask id
  if !s.postponed.isEmpty then settle e (some s.files.now) 0 mostPasses

/-- Runs all commands that were put off. -/
def awaitAll (e : Engine) (inside : Nat) : Sh Unit := do
  if !(← Sh.ask (·.postponed)).isEmpty then
    settle e none inside mostPasses
    let _ ← pass e none true (← Sh.ask fun s => s.postponed.filter fun p => inside < p.process && p.grows.isNone)

/-- Runs something in a subshell, and what it puts off as well if that is awaited. -/
def apart (e : Engine) (awaited : Bool) (x : Sh Unit) : Sh Unit := do
  let inside ← Sh.ask (·.nextProcess)
  Trap.apart e x
  if awaited then awaitAll e inside

/-- Runs something that may have to wait for the commands that were put off. -/
def waiting (e : Engine) (x : Sh Unit) : Sh Unit := fun s =>
  if s.postponable || s.postponed.isEmpty then x s
  else
    match x { s with postponable := true } with
    | (.stopped .blocked, _) => (do
        awaitAll e 0
        x) s
    | (r, t) => (r, { t with postponable := false })

/-- The jobs that something can be said of. -/
def remembered (s : State) : List Job :=
  if s.dialect.extended then s.jobs.filter fun j => (ended? s j.process s.files.now).isNone else s.jobs

/-- A command as it would be put off now. -/
def postponedNow (s : State) (c : Command) (streams : List (Nat × Nat)) : Postponed where
  process := s.nextProcess
  start := s.files.now + delay
  command := c
  streams := streams
  directory := s.directory
  here := s.here
  parameters := s.parameters
  positional := s.positional
  functions := s.functions
  frames := s.frames
  choices := s.choices
  traps := s.traps.filter (·.2 = "") ++ Trap.inherited s
  grows := none

/-- Adds a job for what is put off. -/
def addJob (p : Postponed) (shown : Command) : Sh Unit :=
  Sh.change fun s => { s with
    jobs := remembered s ++
      [⟨1 + ((remembered s).map (·.number)).foldl max 0, p.process, Printing.line s.documents shown⟩]
    postponed := s.postponed ++ [p]
    nextProcess := s.nextProcess + 1
    lastJob := some p.process
    status := 0 }

/-- Lets a command run in the background. -/
def launch (e : Engine) (c : Command) : Sh Unit := do
  catchUp e
  let null ← Sh.addChannel .null
  let s ← Sh.ask id
  addJob (postponedNow s c ((0, null) :: s.streams.filter (·.1 != 0))) c

/-- Lets a command run beside the shell, with streams to and from it, whose numbers become the
    items of a parameter. -/
def launchBeside (e : Engine) (name : String) (c : Command) : Sh Unit := do
  catchUp e
  let newPipe : Sh Nat := fun s =>
    let (number, files) := s.files.add (.pipe "") Files.usualMode
    (.done number, { s with files := files })
  let input ← newPipe
  let output ← newPipe
  let s ← Sh.ask id
  let free (n : Nat) : Bool := (s.streams.lookup n).isNone
  let from' := ((List.range 64).reverse.find? free).getD 63
  let to' := ((List.range (from' - 2)).reverse.find? free).getD 60
  addJob { postponedNow s c s.streams with grows := some ⟨input, output, 0, s.nextProcess⟩ } c
  Sh.lead from' (some (← Sh.addChannel (.pipe output)))
  Sh.lead to' (some (← Sh.addChannel (.pipe input)))
  Sh.setVariable name (some (Expand.listOf [toString from', toString to']))
  Sh.assign (name ++ "_PID") (toString s.nextProcess)
  Sh.setStatus 0

end Retrace.Unix.Background
