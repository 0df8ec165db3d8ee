import Retrace.Unix.Files
import Retrace.Unix.Script
import Retrace.Unix.Signal

/-!
# Shells at work

The state of a shell, and what running a part of a script means (`Sh`): it goes
from a state to a state, with a result or with a reason to stop.

A stream is a number that leads to a *channel*: to a file, to what collects
output, or to what is left of some input. Several streams may lead to the same
channel and then share the place they have got to. Channels belong to the whole
run; a subshell gets the streams, the parameters and the directory of the shell
it is in, and leaves those of that shell as they were.

Time is made up: it goes on when something sleeps, and a little when a program
is started. What is to be run in the background is put off until someone can
notice it; what it prints is put in its place by the time at which it is printed
(`Chunk`).

Of an output without end only a beginning is taken at first. Whoever wants more
of it than there is makes the run turn back (`Progress.wanting`), and more is
taken then.
-/

namespace Retrace.Unix

/-- How a shell calls itself, and which dialect it speaks. -/
structure Dialect where
  name : String
  /-- How it calls itself inside functions. -/
  nameInFunctions : String
  /-- What it says it is running in its complaints; the extended one does not say that. -/
  context : String
  extended : Bool

/-- A parameter with a name. A single value is the item of the key `0`. -/
structure Variable where
  items : List (String × String)
  /-- Whether it holds items rather than a single value. -/
  isList : Bool
  /-- Whether the keys of its items are any texts rather than numbers. -/
  isKeyed : Bool
  exported : Bool
  constant : Bool
  /-- Whether what is assigned is a formula. -/
  numeric : Bool
  /-- How the letters of what is assigned are changed. -/
  recasing : Option Recasing
  /-- Whether its value is the name of the parameter that is meant. -/
  isReference : Bool
  /-- Whether anything was assigned, even if there are no items now. -/
  isGiven : Bool

/-- A parameter without a value. -/
def Variable.unset : Variable := ⟨[], false, false, false, false, false, none, false, false⟩

/-- A parameter with a single value. -/
def Variable.single (value : String) : Variable :=
  { Variable.unset with items := [("0", value)], isGiven := true }

/-- What a file is opened for. -/
inductive Access where
  | reading | writing | appending | both
deriving DecidableEq

/-- A part of an output: when it was printed, by which job, and how many characters it has. -/
structure Chunk where
  time : Int
  job : Nat
  text : String

/-- Where streams lead. -/
inductive Channel where
  /-- Takes everything, and has nothing. -/
  | null
  /-- Takes nothing. -/
  | full
  /-- Has characters without end. -/
  | device (device : Device)
  /-- Collects what is written, the last chunk first. There may be room for a number of
      characters only. -/
  | sink (chunks : List Chunk) (room : Option Nat)
  /-- Has something to be read; there may be more that was not taken yet. -/
  | source (rest : List Char) (unfinished : Bool)
  | directory
  /-- A file at a position. What was read ahead is kept as long as the file has the same size. -/
  | file (number : Nat) (access : Access) (position : Nat) (ahead : Option (Nat × List Char))
  /-- What is written to it can be read from it. -/
  | pipe (number : Nat)

/-- A function that is being run. -/
structure Frame where
  name : String
  /-- What the parameters were that it has made its own. -/
  saved : List (String × Option Variable)
  /-- The line it was called from. -/
  line : Nat
  /-- The choices to go back to. -/
  choices : Option (List String)

/-- A program that was found before: its name, its path, and how often it was called since. -/
structure Known where
  name : String
  path : String
  calls : Nat

/-- Something that is run in the background. -/
structure Job where
  number : Nat
  process : Nat
  text : String

/-- How something ended that was run in the background. -/
structure Outcome where
  process : Nat
  time : Int
  status : Nat
  /-- The signal that ended it. -/
  death : Option Nat

/-- What is to be known of a command whose input may grow: the pipes it reads from and writes to,
    how much of its output was taken before, and the number that stood for it then. -/
structure Growth where
  input : Nat
  output : Nat
  taken : Nat
  job : Nat

/-- A command that was put off, with what it is to be run in. -/
structure Postponed where
  process : Nat
  start : Int
  command : Command
  streams : List (Nat × Nat)
  directory : Trail
  here : String
  parameters : List (String × Variable)
  positional : List String
  functions : List (String × Command)
  frames : List Frame
  choices : List String
  traps : List (String × String)
  grows : Option Growth

/-- A list that a command was called with: the name it is for, whether it is added, and the
    items with their keys. -/
structure Given where
  name : String
  added : Bool
  items : List (Option String × String)

/-- The state of a shell. -/
structure State where
  dialect : Dialect
  files : Files
  directory : Trail
  /-- The path by which the shell calls its directory. -/
  here : String
  channels : Array Channel
  streams : List (Nat × Nat)
  parameters : List (String × Variable)
  /-- The functions that are being run, the last one first. -/
  frames : List Frame
  positional : List String
  functions : List (String × Command)
  /-- The functions that are known to other shells. -/
  sharedFunctions : List String
  constantFunctions : List String
  documents : List (Nat × Spelled)
  nextDocument : Nat
  /-- What the shell was told to do differently. -/
  choices : List String
  line : Nat
  status : Nat
  /-- The status of the last command whose output was taken, if any was. -/
  outputStatus : Option Nat
  /-- How many loops are being run. -/
  loops : Nat
  /-- The scripts that are being run in this shell. -/
  scripts : List String
  /-- Whether a failure is being looked at, and so is none to leave for. -/
  looking : Bool
  /-- What is to be done when something happens. -/
  traps : List (String × String)
  /-- What that was in the shell that this one is in, until it is said anew. -/
  formerTraps : List (String × String)
  /-- Whether something is being done because something happened. -/
  trapping : Bool
  /-- What became of the last thing written by a command. -/
  refused : Option Refusal
  /-- The statuses of the commands of the last pipeline. -/
  stageStatuses : List Nat
  /-- Who may not do what with the files that are created. -/
  mask : Nat
  /-- The directories that were left and are kept in mind. -/
  stack : List String
  aliases : List (String × String)
  jobs : List Job
  outcomes : List Outcome
  /-- The number that stands for the shell among what is being run. -/
  shell : Nat
  /-- The number that stands for what is being run now. -/
  process : Nat
  nextProcess : Nat
  /-- The job that what is printed belongs to. -/
  job : Nat
  /-- The jobs that were ended, with the time of that. -/
  ended : List (Nat × Int)
  /-- The commands that were put off. -/
  postponed : List Postponed
  /-- Whether what is run can be put off. -/
  postponable : Bool
  /-- The signals that were sent: when, to which process, and their numbers. -/
  signals : List (Int × Nat × Nat)
  /-- The signal that ended the last subshell. -/
  death : Option Nat
  /-- The time at which what is run is ended. -/
  deadline : Option Int
  /-- How many subshells are in one another. -/
  depth : Nat
  /-- How many scripts are in one another that are run for a command. -/
  level : Nat
  /-- The command that is being run. -/
  current : Option Command
  /-- The last argument of the last command. -/
  lastArgument : String
  lastJob : Option Nat
  /-- From what the next random number is made. -/
  seed : Nat
  /-- The time from which seconds are counted. -/
  started : Int
  /-- The lists given to the command that is being run. -/
  given : List Given
  /-- Where the next letter is in the argument whose options are being read. -/
  optionOffset : Nat
  /-- The commands of the shell that are not to be used. -/
  disabled : List String
  /-- The programs that were found before. -/
  known : List Known
  /-- The streams that are there for one command only. -/
  borrowed : List Nat
  /-- The channels whose content is to be given to commands after the one that is being run. -/
  consumers : List (Nat × List Command)

/-- Why running stopped before its end. -/
inductive Stop where
  | exit (status : Nat)
  /-- A mistake that gives up the line. -/
  | giveUp (status : Nat)
  | return (status : Nat)
  | break (levels : Nat)
  | continue (levels : Nat)
  /-- Nobody wants what is printed any more. -/
  | broken
  /-- The time for what is run is up. -/
  | timeUp
  /-- There is nothing to be read yet. -/
  | blocked
  /-- A signal that ends what gets it. -/
  | killed (signal : Nat)

/-- How far running came. -/
inductive Progress (α : Type) where
  | done (a : α)
  | stopped (e : Stop)
  /-- More of an output is wanted than was taken. -/
  | wanting

/-- The running of a part of a script. -/
def Sh (α : Type) : Type :=
  State → Progress α × State

namespace Sh

variable {α β : Type}

@[always_inline]
instance : Monad Sh where
  pure a := fun s => (.done a, s)
  bind x f := fun s =>
    match x s with
    | (.done a, s) => f a s
    | (.stopped e, s) => (.stopped e, s)
    | (.wanting, s) => (.wanting, s)

/-- Stops. -/
def stop (e : Stop) : Sh α :=
  fun s => (.stopped e, s)

/-- Asks for more of an output than was taken. -/
def wantMore : Sh α :=
  fun s => (.wanting, s)

/-- Something about the state. -/
def ask (f : State → α) : Sh α :=
  fun s => (.done (f s), s)

/-- Changes the state. -/
def change (f : State → State) : Sh Unit :=
  fun s => (.done (), f s)

/-- Runs to the end or to a stop, and says which. -/
def attempt (x : Sh α) : Sh (Except Stop α) :=
  fun s =>
    match x s with
    | (.done a, s) => (.done (.ok a), s)
    | (.stopped e, s) => (.done (.error e), s)
    | (.wanting, s) => (.wanting, s)

/-- Goes on from how far something came. -/
def resume : Except Stop α → Sh α
  | .ok a => pure a
  | .error e => stop e

/-- Does something for each member of a list. -/
def each (xs : List α) (f : α → Sh Unit) : Sh Unit :=
  match xs with
  | [] => pure ()
  | x :: xs => do
    f x
    each xs f

/-- The results for the members of a list. -/
def collect (xs : List α) (f : α → Sh β) : Sh (List β) :=
  match xs with
  | [] => pure []
  | x :: xs => do
    let y ← f x
    let ys ← collect xs f
    pure (y :: ys)

/-- The worst of the statuses for the members of a list. -/
def worst (xs : List α) (f : α → Sh Nat) : Sh Nat := do
  pure ((← collect xs f).foldl max 0)

/-- Whether something was chosen. -/
def chosen (name : String) : Sh Bool :=
  ask (·.choices.contains name)

/-- Sets the time. -/
def setTime (time : Int) : Sh Unit :=
  change fun s => { s with files := { s.files with now := time } }

/-- What is to be done about a signal: nothing, or some commands, or else it ends what gets it. -/
def trapOf (s : State) (signal : Nat) : Option String :=
  if signal = Signal.kill then none
  else if Signal.isHarmless signal then some ((s.traps.lookup (Signal.name signal)).getD "")
  else s.traps.lookup (Signal.name signal)

/-- The signal up to a time that ends what is run, and when it was sent. -/
def deadly? (s : State) (time : Int) : Option (Int × Nat) :=
  s.signals.foldl (fun first (sent, process, signal) =>
    if process = s.process && sent ≤ time && (trapOf s signal).isNone && first.all (sent < ·.1) then
      some (sent, signal)
    else first) none

/-- Lets time go on, which may be up then, and in which a signal may come. -/
def elapse (nanoseconds : Int) : Sh Unit := do
  let s ← ask id
  let time := s.files.now + nanoseconds
  let last := (s.deadline).filter (· < time)
  match deadly? s (last.getD time) with
  | some (sent, signal) =>
    setTime (max s.files.now sent)
    stop (.killed signal)
  | none =>
    match last with
    | some d =>
      setTime (max s.files.now d)
      stop .timeUp
    | none => setTime time

/-! ### Streams -/

/-- The channel of a stream. -/
def channel? (stream : Nat) : Sh (Option (Nat × Channel)) :=
  ask fun s =>
    match s.streams.lookup stream with
    | some n => (s.channels[n]?).map fun c => (n, c)
    | none => none

/-- Adds a channel. -/
def addChannel (c : Channel) : Sh Nat :=
  fun s => (.done s.channels.size, { s with channels := s.channels.push c })

/-- Replaces a channel. -/
def setChannel (n : Nat) (c : Channel) : Sh Unit :=
  change fun s => { s with channels := s.channels.modify n fun _ => c }

/-- Lets a stream lead to a channel, or to none. -/
def lead (stream : Nat) (channel : Option Nat) : Sh Unit :=
  change fun s =>
    let others := s.streams.filter (·.1 != stream)
    { s with streams := match channel with
        | some n => (stream, n) :: others
        | none => others }

/-- What was collected by a channel, in the order of time. Of a job that was ended, only what
    it had printed by then. -/
def collected (ended : List (Nat × Int)) : Channel → String
  | .sink chunks _ =>
    let counts (c : Chunk) : Bool := !(ended.any fun e => e.1 = c.job && e.2 < c.time)
    match chunks with
    | [c] => if counts c then c.text else ""
    | chunks =>
      String.join (((chunks.reverse.filter counts).mergeSort fun a b => a.time ≤ b.time).map (·.text))
  | _ => ""

/-- Some chunks with another text. -/
def withText (time : Int) (job : Nat) (text : String) : List Chunk → List Chunk
  | c :: cs =>
    if c.time = time ∧ c.job = job then ⟨time, job, c.text ++ text⟩ :: cs else ⟨time, job, text⟩ :: c :: cs
  | [] => [⟨time, job, text⟩]

/-- The content of a file after something was written at a position. -/
def overwritten (content : String) (position : Nat) (text : String) : String :=
  if position = content.length then content ++ text
  else
    let cs := content.toList
    let gap := List.replicate (position - cs.length) '\x00'
    String.ofList (cs.take position ++ gap) ++ text ++ String.ofList (cs.drop (position + text.length))

/-- Writes a text to a stream. -/
def write (stream : Nat) (text : String) : Sh (Except Refusal Unit) := do
  match ← channel? stream with
  | none => pure (.error .badDescriptor)
  | some (_, .null) => pure (.ok ())
  | some (_, .device _) => pure (.ok ())
  | some (_, .full) => pure (.error .noSpace)
  | some (_, .source _ _) => pure (.error .badDescriptor)
  | some (_, .directory) => pure (.error .badDescriptor)
  | some (n, .sink _ room) =>
    match room with
    | some 0 => stop .broken
    | _ =>
      change fun s => { s with channels := s.channels.modify n fun
        | .sink chunks room =>
          .sink (withText s.files.now s.job text chunks) (room.map (· - text.length))
        | c => c }
      match room with
      | some k => if k ≤ text.length then stop .broken else pure (.ok ())
      | none => pure (.ok ())
  | some (_, .pipe number) =>
    change fun s => { s with files := s.files.alterContent number fun
      | .pipe waiting => .pipe (waiting ++ text)
      | c => c }
    pure (.ok ())
  | some (n, .file number access position _) =>
    if access = .reading then pure (.error .badDescriptor)
    else if access = .appending then
      change fun s => { s with files := s.files.alterContent number fun
        | .file content => .file (content ++ text)
        | c => c }
      pure (.ok ())
    else
      change fun s => { s with files := s.files.alterContent number fun
        | .file content => .file (overwritten content position text)
        | c => c }
      setChannel n (.file number access (position + text.length) none)
      pure (.ok ())

/-- Prints a text. Whether that was refused is found out later. -/
def print (text : String) : Sh Unit :=
  if text = "" then pure ()
  else do
    match ← write 1 text with
    | .ok _ => pure ()
    | .error r => change fun s => { s with refused := some r }

/-- Prints a text where errors go. -/
def printError (text : String) : Sh Unit := do
  let _ ← write 2 text
  pure ()

/-- What can be read from a stream, and whether there may be more of it. -/
def available (stream : Nat) : Sh (Except Refusal (List Char × Bool)) := do
  match ← channel? stream with
  | none => pure (.error .badDescriptor)
  | some (_, .source rest unfinished) => pure (.ok (rest, unfinished))
  | some (_, .directory) => pure (.error .isDirectory)
  | some (_, .device d) => pure (.ok ((Files.deviceText d).toList, true))
  | some (_, .pipe number) =>
    match ← ask (·.files.content? number) with
    | some (.pipe waiting) =>
      if waiting = "" && (← ask (·.postponable)) then stop .blocked
      else pure (.ok (waiting.toList, false))
    | _ => pure (.ok ([], false))
  | some (n, .file number access position ahead) =>
    if access = .writing || access = .appending then pure (.error .badDescriptor)
    else match ← ask (·.files.content? number) with
      | some (.file content) =>
        match ahead with
        | some (size, rest) =>
          if size = content.utf8ByteSize then return .ok (rest, false)
        | none => pure ()
        let rest := content.toList.drop position
        setChannel n (.file number access position (some (content.utf8ByteSize, rest)))
        return .ok (rest, false)
      | some (.program name) => return .ok (("\x7fELF" ++ name).toList.drop position, false)
      | _ => return .ok ([], false)
  | some (_, .sink _ _) => pure (.error .badDescriptor)
  | some _ => pure (.ok ([], false))

/-- What is left to be read from a stream. -/
def input (stream : Nat) : Sh (Except Refusal (List Char)) := do
  match ← available stream with
  | .ok (rest, false) => pure (.ok rest)
  | .ok (rest, true) =>
    match ← channel? stream with
    | some (_, .source _ _) => wantMore
    | _ => pure (.ok rest)
  | .error r => pure (.error r)

/-- Says that a number of characters were read from a stream. -/
def consume (stream n : Nat) : Sh Unit := do
  match ← channel? stream with
  | some (k, .source rest unfinished) => setChannel k (.source (rest.drop n) unfinished)
  | some (k, .file number access position ahead) =>
    setChannel k (.file number access (position + n) (ahead.map fun (size, rest) => (size, rest.drop n)))
  | some (_, .pipe number) =>
    change fun s => { s with files := s.files.alterContent number fun
      | .pipe waiting => .pipe (String.ofList (waiting.toList.drop n))
      | c => c }
  | _ => pure ()

/-- Reads all that is left of a stream. -/
def inputAll (stream : Nat) : Sh (Except Refusal String) := do
  match ← input stream with
  | .ok cs =>
    consume stream cs.length
    pure (.ok (String.ofList cs))
  | .error r => pure (.error r)

/-- Reads as much of a stream as is wanted: that is said of what can be read, and it is `none`
    if all is wanted. -/
def inputWanted (stream : Nat) (wanted : List Char → Option Nat) : Sh (Except Refusal String) := do
  match ← available stream with
  | .ok (rest, unfinished) =>
    match wanted rest with
    | some n =>
      consume stream n
      pure (.ok (String.ofList (rest.take n)))
    | none => if unfinished then wantMore else inputAll stream
  | .error r => pure (.error r)

/-! ### Complaints -/

/-- Prints a line where errors go. -/
def report (text : String) : Sh Unit :=
  printError (text ++ "\n")

/-- What complaints begin with: the script that is being run, or the shell itself. -/
def speaker (s : State) : String :=
  let d := s.dialect
  if !d.extended then d.name
  else (s.scripts.head?).getD (if s.frames.isEmpty then d.name else d.nameInFunctions)

/-- Complains in the name of the shell. -/
def complain (text : String) : Sh Unit := do
  let s ← ask id
  let d := s.dialect
  let name := speaker s
  let line := toString s.line
  report (name ++ (if d.extended then ": line " else ": ") ++ line ++ ": " ++
    (if d.extended then "" else d.context) ++ text)

/-- Runs something in a context, which complaints name. -/
def within (context : String) (x : Sh α) : Sh α := fun s =>
  let before := s.dialect.context
  let (r, t) := x { s with dialect := { s.dialect with context := context } }
  (r, { t with dialect := { t.dialect with context := before } })

/-- Whether the dialect is the extended one. -/
def isExtended : Sh Bool :=
  ask (·.dialect.extended)

/-- A mistake in a script: it gives up the line in the extended dialect, and all of the
    script in the other one. -/
def mistake (text : String) : Sh α := do
  complain text
  if ← isExtended then stop (.giveUp 1) else stop (.exit 2)

/-- A mistake for which any script is given up. -/
def fatal (text : String) : Sh α := do
  complain text
  stop (.exit (if ← isExtended then 127 else 2))

/-! ### Parameters -/

/-- A parameter with a name, whatever it refers to. -/
def parameterItself? (name : String) : Sh (Option Variable) :=
  ask (·.parameters.lookup name)

/-- The name that a name refers to in the end, through a number of references. -/
def target (parameters : List (String × Variable)) : (references : Nat) → String → String
  | 0, name => name
  | n + 1, name =>
    match parameters.lookup name with
    | some v =>
      if v.isReference then
        match v.items.lookup "0" with
        | some other => if other = "" then name else target parameters n other
        | none => name
      else name
    | none => name

/-- How many references a name may go through. -/
def mostReferences : Nat := 8

/-- The name that a name refers to. -/
def resolved (name : String) : Sh String :=
  ask fun s => target s.parameters mostReferences name

/-- A parameter with a name. -/
def parameter? (name : String) : Sh (Option Variable) :=
  ask fun s => s.parameters.lookup (target s.parameters mostReferences name)

/-- Some parameters with one of them set, in its place or at the end, or taken away. -/
def withParameter (name : String) (v : Option Variable) (ps : List (String × Variable)) :
    List (String × Variable) :=
  match v with
  | none => ps.filter (·.1 != name)
  | some v =>
    if ps.any (·.1 = name) then ps.map fun p => if p.1 = name then (name, v) else p
    else ps ++ [(name, v)]

/-- Sets what is known of a parameter, whatever it refers to. -/
def setVariable (name : String) (v : Option Variable) : Sh Unit :=
  change fun s => { s with parameters := withParameter name v s.parameters }

/-- The value of a parameter, if it has one. -/
def value? (name : String) : Sh (Option String) := do
  pure ((← parameter? name).bind fun v => v.items.lookup "0")

/-- Whether a key comes before another one among numbers. -/
def keyBefore (a b : String) : Bool :=
  match a.toInt?, b.toInt? with
  | some m, some n => m < n
  | _, _ => false

/-- The place of a key among texts. -/
def keyPlace (key : String) : Nat :=
  (key.toList.foldl (fun (n : UInt32) c => (n * 16777619) ^^^ UInt32.ofNat c.toNat) 2166136261).toNat % 1024

/-- Some items with one put in before the first other that comes after it. -/
def insertItem (before : String → Bool) (key value : String) : List (String × String) → List (String × String)
  | [] => [(key, value)]
  | (k, v) :: rest =>
    if before k then (key, value) :: (k, v) :: rest else (k, v) :: insertItem before key value rest

/-- Some items with one put in, in the order of the keys if these are numbers, and else of their
    places. -/
def putItem (keyed : Bool) (key value : String) (items : List (String × String)) :
    List (String × String) :=
  if items.any (·.1 = key) then items.map fun i => if i.1 = key then (key, value) else i
  else if keyed then
    let place := keyPlace key
    insertItem (fun k => place ≤ keyPlace k) key value items
  else insertItem (keyBefore key) key value items

/-- A value as a parameter takes it, whose letters may be changed. -/
def taken (v : Variable) (value : String) : String :=
  match v.recasing with
  | some .upper => String.ofList (value.toList.map Char.toUpper)
  | some .lower => String.ofList (value.toList.map Char.toLower)
  | some .toggle =>
    match value.toList with
    | c :: cs => String.ofList (c.toUpper :: cs.map Char.toLower)
    | [] => ""
  | none => value

/-- Gives a value to the item of a parameter. -/
def assignItem (name key value : String) (asList : Bool) : Sh Unit := do
  let (name, key, asList) ← do
    let other ← resolved name
    -- a reference may be to an item
    match other.splitOn "[" with
    | [base, rest] => pure (base, (rest.takeWhile (· != ']')).toString, true)
    | _ => pure (other, key, asList)
  let v := (← parameterItself? name).getD .unset
  if v.constant then
    if ← isExtended then mistake (name ++ ": readonly variable")
    else mistake (name ++ ": is read only")
  else
    let all ← chosen "allexport"
    setVariable name (some { v with
      items := putItem v.isKeyed key (taken v value) v.items
      isList := v.isList || asList
      isGiven := true
      exported := v.exported || all })

/-- Gives a value to a parameter. -/
def assign (name value : String) : Sh Unit := do
  match name with
  | "RANDOM" => if ← isExtended then change fun s => { s with seed := (value.toNat?).getD 0 }
  | "SECONDS" =>
    let n : Int := (value.toInt?).getD 0
    if ← isExtended then change fun s => { s with started := s.files.now - n * 1000000000 }
  | "OPTIND" => change fun s => { s with optionOffset := 1 }
  | "PATH" => change fun s => { s with known := [] }
  | _ => pure ()
  assignItem name "0" value false

/-! ### Files -/

/-- A path from the directory of the shell. -/
def place (path : String) : Sh (Except Refusal Place) :=
  ask fun s => s.files.place s.directory path true

/-- What is at the end of a path. -/
def node (path : String) : Sh (Except Refusal Found) :=
  ask fun s => s.files.find s.directory path true

/-- What is at the end of a path, which may be a link. -/
def nodeItself (path : String) : Sh (Except Refusal Found) :=
  ask fun s => s.files.find s.directory path false

/-- Changes the files, unless that is refused. -/
def changeFiles (f : Files → Trail → Except Refusal Files) : Sh (Except Refusal Unit) :=
  fun s =>
    match f s.files s.directory with
    | .ok files => (.done (.ok ()), { s with files := files })
    | .error r => (.done (.error r), s)

/-- The mode that something gets which is created. -/
def newMode (most : Nat) : Sh Nat :=
  ask fun s => most - (most &&& s.mask)

/-! ### Opening files -/

/-- The stream meant by the path of one. -/
def streamPath? (path : String) : Option Nat :=
  match path with
  | "/dev/stdin" => some 0
  | "/dev/stdout" => some 1
  | "/dev/stderr" => some 2
  | path =>
    if path.startsWith "/dev/fd/" then (path.drop 8).toNat?
    else if path.startsWith "/proc/self/fd/" then (path.drop 14).toNat?
    else none

/-- Opens a node: its channel. -/
def openNode (number : Nat) (content : Content) (access : Access) : Sh (Except Refusal Nat) := do
  match content with
  | .directory _ =>
    if access = .reading then return .ok (← addChannel .directory) else return .error .isDirectory
  | .link _ => return .error .tooManyLinks
  | .device .null => return .ok (← addChannel .null)
  | .device .full => return .ok (← addChannel .full)
  | .device .terminal => return .error .noDevice
  | .device d => return .ok (← addChannel (.device d))
  | .pipe _ => return .ok (← addChannel (.pipe number))
  | _ =>
    if access = .writing then
      change fun s => { s with files := s.files.alterContent number fun _ => .file "" }
    return .ok (← addChannel (.file number access 0 none))

/-- Opens a file: its channel. -/
def openFile (path : String) (access : Access) : Sh (Except Refusal Nat) := do
  match streamPath? path with
  | some stream =>
    match ← channel? stream with
    | some (_, .file number _ _ _) =>
      match ← ask (·.files.content? number) with
      | some content => openNode number content access
      | none => return .error .notFound
    | some (n, _) => return .ok n
    | none => return .error .notFound
  | none =>
    if access = .reading then
      match ← node path with
      | .error r => return .error r
      | .ok found => openNode found.number found.node.content access
    else
      match ← place path with
      | .error r => return .error r
      | .ok place =>
        if place.asDirectory then return .error .isDirectory
        match place.number with
        | some number =>
          match ← ask (·.files.content? number) with
          | some content => openNode number content access
          | none => return .error .notFound
        | none =>
          let mode ← newMode 0o666
          let number ← fun s =>
            let (number, files) := s.files.add (.file "") mode
            (.done number, { s with
              files := files.name place.directory (place.trail.getLast?.getD "") number })
          return .ok (← addChannel (.file number access 0 none))

/-- Reads a whole file, or the input if the path is a dash. -/
def contents (path : String) : Sh (Except Refusal String) := do
  if path = "-" then inputAll 0
  else
    match streamPath? path with
    | some stream => inputAll stream
    | none =>
      match ← node path with
      | .error r => pure (.error r)
      | .ok found =>
        match found.node.content with
        | .pipe waiting =>
          if waiting = "" && (← ask (·.postponable)) then stop .blocked
          else
            change fun s => { s with files := s.files.alterContent found.number fun _ => .pipe "" }
            pure (.ok waiting)
        | _ => ask fun s => s.files.read s.directory path

/-- Runs with other streams and puts the streams back. -/
def withStreams (x : Sh α) : Sh α := fun s =>
  let before := s.streams
  let (r, t) := x s
  (r, { t with streams := before })

/-- Runs in a subshell. The status of one that was left is that of the shell. -/
def subshell (x : Sh Unit) : Sh Unit := fun s =>
  let kept := { s with channels := #[], files := ⟨#[], 0⟩ }
  let (ignored, former) := s.traps.partition (·.2 = "")
  match x { s with
      traps := ignored
      formerTraps := former
      trapping := false
      loops := 0
      depth := s.depth + 1
      process := s.nextProcess
      nextProcess := s.nextProcess + 1
      jobs := [] } with
  | (.wanting, t) => (.wanting, t)
  | (r, t) =>
    let status := match r with
      | .stopped (.exit n) => n
      | .stopped (.giveUp n) => n
      | .stopped (.return n) => n
      | .stopped (.killed n) => 128 + n
      | .stopped .broken => 141
      | _ => t.status
    let death := match r with
      | .stopped (.killed n) => some n
      | _ => none
    let left := match r with
      | .stopped .timeUp => Progress.stopped .timeUp
      | .stopped .blocked => .stopped .blocked
      | _ => .done ()
    (left, { kept with
      files := t.files
      channels := t.channels
      documents := t.documents
      nextDocument := t.nextDocument
      nextProcess := t.nextProcess
      ended := t.ended
      outcomes := t.outcomes
      signals := t.signals
      postponed := t.postponed
      status := status
      death := death
      refused := t.refused })

/-- Sets the status. -/
def setStatus (n : Nat) : Sh Unit :=
  change fun s => { s with status := n }

end Sh

end Retrace.Unix
