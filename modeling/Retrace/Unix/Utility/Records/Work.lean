import Retrace.Unix.RecordScript.Reader
import Retrace.Unix.RecordValue
import Retrace.Unix.Utility.Programs
import Retrace.Unix.Utility.Trees

/-!
# Records at work

What is known while a script goes through records: the values of its names, the
record and its fields, the files that are read and those that are printed to.

A record is cut into fields when one of them is first asked for, and it is put
together anew when one of them is changed. What is printed is kept until a
command is run or the script ends.
-/

namespace Retrace.Unix.Utility.Records

open RecordScript

/-! ### State -/

/-- What a name stands for. -/
inductive Binding where
  | value (v : RecordValue)
  | table (number : Nat)
  /-- Nothing so far, and a table if it is used as one. -/
  | undecided (number : Nat)

/-- What is left to be read, and whether there may be more of it. -/
structure Source where
  rest : List Char
  more : Bool

/-- What lines are read from. -/
structure Supply where
  /-- Whether it is a command. -/
  command : Bool
  name : String
  source : Source
  /-- The status of a command. -/
  status : Nat

/-- What is printed to: a file, a command, or what the utility itself prints to. -/
inductive OutputKind where
  | file (channel : Nat)
  | command
  | own

/-- What is printed to. -/
structure Output where
  kind : OutputKind
  name : String
  /-- What is to be printed, the last text first. What the utility itself prints is kept elsewhere. -/
  texts : List String

/-- Whether something that is printed to is a command. -/
def Output.isCommand (o : Output) : Bool := o.kind matches .command

/-- How far a script has come. -/
structure Work where
  globals : Std.HashMap String Binding
  locals : List (String × Binding)
  tables : Array RecordTable
  record : String
  /-- The fields of the record, if they were asked for. -/
  fields : Option (Array RecordValue)
  /-- What is being read. -/
  source : Option Source
  /-- The number of the operand that comes next. -/
  operand : Nat
  /-- Whether a file was among the operands. -/
  opened : Bool
  supplies : List Supply
  /-- What is to be printed, the last text first. -/
  printed : List String
  /-- What else is printed to, the one that was used last first. -/
  outputs : List Output
  /-- The rules that are followed for records up to one that fits. -/
  ranges : List Nat
  /-- The expressions that were read from texts. -/
  expressions : Std.HashMap String Regular
  seed : RecordValue
  /-- From what the next random number is made. -/
  random : Nat

/-- Why a script does not go on. -/
inductive Halt where
  | exit (status : Option Nat)
  | next
  | nextFile
  | fault (message : String)

/-- A script goes on in a shell, unless it stops. -/
abbrev Recorder := ExceptT Halt (StateT Work Sh)

/-- Does something in the shell. -/
def inShell {α : Type} (x : Sh α) : Recorder α := ExceptT.lift (StateT.lift x)

/-- Stops. -/
def halt {α : Type} (h : Halt) : Recorder α := throw h

/-- Stops because something is wrong. -/
def fault {α : Type} (message : String) : Recorder α := halt (.fault message)

/-! ### Names -/

/-- What a name stands for, if anything. -/
def binding? (name : String) : Recorder (Option Binding) := do
  let s ← get
  return (s.locals.lookup name).or s.globals[name]?

/-- Lets a name stand for something. -/
def define (name : String) (b : Binding) : Recorder Unit :=
  modify fun s =>
    if s.locals.any (·.1 = name) then
      { s with locals := s.locals.map fun l => if l.1 = name then (name, b) else l }
    else { s with globals := s.globals.insert name b }

/-- The value of a name that belongs to the script as a whole. -/
def global (name : String) : Recorder RecordValue := do
  match (← get).globals[name]? with
  | some (.value v) => return v
  | _ => return .unset

/-- A new table. -/
def newTable : Recorder Nat :=
  modifyGet fun s => (s.tables.size, { s with tables := s.tables.push .empty })

/-- The table of a name. -/
def tableOf (name : String) : Recorder Nat := do
  match ← binding? name with
  | some (.table k) => return k
  | some (.undecided k) => return k
  | _ =>
    let k ← newTable
    define name (.table k)
    return k

/-- Does something with a table. -/
def withTable {α : Type} (number : Nat) (f : RecordTable → α × RecordTable) : Recorder α :=
  modifyGet fun s =>
    let tables := s.tables
    let s := { s with tables := #[] }
    let t := (tables[number]?).getD .empty
    let tables := tables.modify number fun _ => .empty
    let (a, t) := f t
    (a, { s with tables := tables.modify number fun _ => t })

/-! ### Texts -/

/-- The text of a value. A name says in which format numbers with a fraction are written. -/
def textBy (format : String) (v : RecordValue) : Recorder String := do
  match v with
  | .number x =>
    match RecordValue.digits? x with
    | some s => return s
    | none => return v.textIn ((← global format).textIn "%.6g")
  | v => return v.textIn ""

/-- The text of a value. -/
def textOf (v : RecordValue) : Recorder String := textBy "CONVFMT" v

/-- The key that a value is. -/
def keyOf (v : RecordValue) : Recorder RecordKey := do
  match v.key "" with
  | .number n => return .number n
  | .text _ => return .text (← textOf v)

/-- Stops because something is wrong with a record. -/
def recordFault {α : Type} (message : String) : Recorder α := do
  let file ← textOf (← global "FILENAME")
  let fileNumber ← textOf (← global "FNR")
  let number ← textOf (← global "NR")
  fault ("run time error: " ++ message ++ "\n\tFILENAME=\"" ++ file ++ "\" FNR=" ++ fileNumber ++ " NR=" ++ number)

/-- The expression that a text stands for. -/
def regularFor (s : String) : Recorder Regular := do
  match (← get).expressions[s]? with
  | some r => return r
  | none =>
    match regularOf s with
    | .ok r =>
      modify fun w => { w with expressions := w.expressions.insert s r }
      return r
    | .error m => recordFault m

/-! ### Fields -/

/-- What stands between fields. -/
inductive Separator where
  | blanks
  /-- Nothing: each character is a field. -/
  | nothing
  | char (c : Char)
  | regular (r : Regular)

/-- The separator that a text stands for. -/
def separatorFor (s : String) : Recorder Separator := do
  match s.toList with
  | [' '] => return .blanks
  | [] => return .nothing
  | [c] => return .char c
  | _ => return .regular (← regularFor s)

/-- Whether a character separates words. -/
def isSpace (c : Char) : Bool := c = ' ' || ('\t' ≤ c && c ≤ '\r')

/-- The words among some characters, given those of the present one in reverse order. -/
def wordsOf : (word : List Char) → List Char → List String
  | word, [] => if word.isEmpty then [] else [String.ofList word.reverse]
  | word, c :: cs =>
    if isSpace c then
      if word.isEmpty then wordsOf [] cs else String.ofList word.reverse :: wordsOf [] cs
    else wordsOf (c :: word) cs

/-- The pieces between some characters, given the characters of the present one in reverse order. -/
def piecesAt (separates : Char → Bool) : (piece : List Char) → List Char → List String
  | piece, [] => [String.ofList piece.reverse]
  | piece, c :: cs =>
    if separates c then String.ofList piece.reverse :: piecesAt separates [] cs
    else piecesAt separates (c :: piece) cs

/-- The place after what an expression matches somewhere, if that is not nothing. -/
def matchAt? (r : Regular) (p : Regular.Position) : Option Regular.Position :=
  (Regular.longest (Regular.places .usual r p)).filter (p.offset < ·.offset)

/-- The pieces between the matches of an expression, and between lines if that is wanted. -/
def piecesBy (r : Regular) (lines : Bool) : (fuel : Nat) → (piece : List Char) → Regular.Position → List String
  | 0, piece, _ => [String.ofList piece.reverse]
  | n + 1, piece, p =>
    match p.after with
    | [] => [String.ofList piece.reverse]
    | c :: _ =>
      match matchAt? r p with
      | some q => String.ofList piece.reverse :: piecesBy r lines n [] { q with groups := [] }
      | none =>
        if lines && c = '\n' then String.ofList piece.reverse :: piecesBy r lines n [] p.advance
        else piecesBy r lines n (c :: piece) p.advance

/-- The fields of a text. Lines can separate them as well. -/
def fieldsOf (separator : Separator) (lines : Bool) (s : String) : List String :=
  let cs := s.toList
  if cs.isEmpty then []
  else match separator with
    | .blanks => wordsOf [] cs
    | .nothing => cs.map String.singleton
    | .char c => piecesAt (fun d => d = c || (lines && d = '\n')) [] cs
    | .regular r => piecesBy r lines (cs.length + 1) [] (.first cs)

/-- The fields of the record. -/
def fields : Recorder (Array RecordValue) := do
  match (← get).fields with
  | some fs => return fs
  | none =>
    let separator ← separatorFor (← textOf (← global "FS"))
    let lines := (← textOf (← global "RS")) = ""
    let fs := ((fieldsOf separator lines (← get).record).map RecordValue.input).toArray
    modify fun s => { s with fields := some fs }
    return fs

/-- Makes a text the record. -/
def setRecord (s : String) : Recorder Unit :=
  modify fun w => { w with record := s, fields := none }

/-- Makes some fields those of the record, which is put together of them. -/
def setFields (fs : Array RecordValue) : Recorder Unit := do
  let separator ← textOf (← global "OFS")
  let texts ← fs.toList.mapM textOf
  modify fun w => { w with record := separator.intercalate texts, fields := some fs }

/-- The value of a field. The first one has the number one; the record has the number zero. -/
def field (number : Nat) : Recorder RecordValue := do
  match number with
  | 0 => return .input (← get).record
  | k + 1 => return ((← fields)[k]?).getD (.input "")

/-- Some fields, as many as wanted. -/
def resized (fs : Array RecordValue) (count : Nat) : Array RecordValue :=
  if count ≤ fs.size then fs.take count else fs ++ Array.replicate (count - fs.size) (.input "")

/-- Gives a value to a field. -/
def setField (number : Nat) (v : RecordValue) : Recorder Unit := do
  match number with
  | 0 => setRecord (← textOf v)
  | k + 1 =>
    let fs ← fields
    setFields ((resized fs (max fs.size (k + 1))).modify k fun _ => v)

/-! ### Values of names -/

/-- The value of a name. -/
def valueOf (name : String) : Recorder RecordValue := do
  if name = "NF" then return .number (Float.ofNat (← fields).size)
  else
    match ← binding? name with
    | some (.value v) => return v
    | _ => return .unset

/-- Gives a value to a name. -/
def assign (name : String) (v : RecordValue) : Recorder Unit := do
  match name with
  | "NF" =>
    let count := RecordValue.wholeOf v.toNumber
    if count < 0 then recordFault "negative value assigned to NF"
    else setFields (resized (← fields) count.toNat)
  | "FS" =>
    -- the record is cut in the way that was known when it was read
    let _ ← fields
    define name (.value v)
  | _ => define name (.value v)

/-- Gives a value to a name that is said in an operand or an option, if it is one that does so. -/
def assignOperand (s : String) : Recorder Bool := do
  match s.splitOn "=" with
  | name :: value :: more =>
    if isName name then
      let cs := ("=".intercalate (value :: more)).toList
      assign name (.input (String.ofList (unescaped (cs.length + 1) cs)))
      return true
    else return false
  | _ => return false

/-! ### Printing -/

/-- Prints what is to be printed to a file. -/
def Output.print (o : Output) : Sh Unit :=
  match o.kind with
  | .file channel =>
    if o.texts.isEmpty then pure ()
    else Sh.withStreams do
      Sh.lead 1 (some channel)
      Sh.print (String.join o.texts.reverse)
  | _ => pure ()

/-- Prints what the utility itself has to print. -/
def flushOwn : Recorder Unit := do
  let texts := (← get).printed
  modify fun s => { s with printed := [] }
  inShell (Sh.print (String.join texts.reverse))

/-- Prints what was kept. -/
def flush : Recorder Unit := do
  let outputs := (← get).outputs
  modify fun s => { s with outputs := outputs.map fun o => if o.isCommand then o else { o with texts := [] } }
  inShell (Sh.each outputs Output.print)
  flushOwn

/-- Runs a command that is printed to: its status. -/
def Output.run (e : Engine) (o : Output) : Sh Nat := do
  let n ← Sh.addChannel (.source (String.join o.texts.reverse).toList false)
  Sh.withStreams do
    Sh.lead 0 (some n)
    runCommand e o.name

/-- Prints a text to a file or a command. -/
def printTo (target : Target) (name text : String) : Recorder Unit := do
  let command := target matches .command
  let name := if !command && name = "-" then "/dev/stdout" else name
  let isMeant (o : Output) : Bool := o.isCommand = command && o.name = name
  let first (o : Output) : Recorder Unit :=
    modify fun s => { s with outputs := o :: s.outputs.filter fun o => !isMeant o }
  if !command && name = "/dev/stderr" then inShell (Sh.printError text)
  else
    match (← get).outputs.find? isMeant with
    | some o =>
      if o.kind matches .own then
        modify fun s => { s with printed := text :: s.printed }
        first o
      else first { o with texts := text :: o.texts }
    | none =>
      if command then
        flush
        first ⟨.command, name, [text]⟩
      else
        match ← inShell (Sh.openFile name (if target = .append then .appending else .writing)) with
        | .ok n => first ⟨.file n, name, [text]⟩
        | .error r => fault ("cannot open \"" ++ name ++ "\" for output (" ++ r.reason ++ ")")

/-- Closes what is read from or printed to: the status, if there is such a thing. -/
def close (e : Engine) (name : String) : Recorder (Option Nat) := do
  let s ← get
  let supply := s.supplies.find? (·.name = name)
  let outputs := s.outputs.filter (·.name = name)
  modify fun s => { s with
    supplies := s.supplies.filter (·.name != name)
    outputs := s.outputs.filter fun o => o.name != name || o.kind matches .own }
  let statuses ← outputs.mapM fun o => do
    match o.kind with
    | .command =>
      flush
      inShell (o.run e)
    | .own =>
      flushOwn
      return 0
    | .file _ =>
      inShell o.print
      return 0
  return (statuses.getLast?).or (supply.map (·.status))

/-- Runs what is printed to, and prints what was kept. -/
def finish (e : Engine) : Recorder Unit := do
  let outputs := (← get).outputs
  modify fun s => { s with outputs := [] }
  outputs.forM fun o => do
    match o.kind with
    | .command =>
      let _ ← inShell (o.run e)
    | .own => flushOwn
    | .file _ => inShell o.print

/-! ### Reading -/

/-- A record, what comes after it, and whether its end was seen. -/
structure Cut where
  record : List Char
  rest : List Char
  ended : Bool

/-- Some characters up to an empty line. -/
def paragraph : (before : List Char) → List Char → Cut
  | before, [] => ⟨before.reverse, [], false⟩
  | before, ['\n'] => ⟨before.reverse, [], false⟩
  | before, '\n' :: '\n' :: cs => ⟨before.reverse, cs.dropWhile (· = '\n'), true⟩
  | before, c :: cs => paragraph (c :: before) cs

/-- Some characters up to a match of an expression. -/
def upTo (r : Regular) : (fuel : Nat) → (before : List Char) → Regular.Position → Cut
  | 0, before, p => ⟨before.reverse, p.after, false⟩
  | n + 1, before, p =>
    match matchAt? r p with
    | some q => ⟨before.reverse, q.after, true⟩
    | none =>
      match p.after with
      | [] => ⟨before.reverse, [], false⟩
      | c :: _ => upTo r n (c :: before) p.advance

/-- The first record of some characters. -/
def cut (separator : String) (cs : List Char) : Recorder (Option Cut) := do
  match separator.toList with
  | [] =>
    let cs := cs.dropWhile (· = '\n')
    return if cs.isEmpty then none else some (paragraph [] cs)
  | [c] =>
    if cs.isEmpty then return none
    else
      let record := cs.takeWhile (· != c)
      match cs.drop record.length with
      | _ :: rest => return some ⟨record, rest, true⟩
      | [] => return some ⟨record, [], false⟩
  | _ =>
    let r ← regularFor separator
    return if cs.isEmpty then none else some (upTo r (cs.length + 1) [] (.first cs))

/-- The next record of a source. -/
def Source.next (s : Source) : Recorder (Option (String × Source)) := do
  match ← cut (← textOf (← global "RS")) s.rest with
  | some c => if s.more && !c.ended then inShell Sh.wantMore else return some (String.ofList c.record, { s with rest := c.rest })
  | none => if s.more then inShell Sh.wantMore else return none

/-- Adds one to the number of a name. -/
def countUp (name : String) : Recorder Unit := do
  let v ← global name
  define name (.value (.number (v.toNumber + 1)))

/-- What can be read of a file. -/
def sourceOf (path : String) : Recorder (Except Refusal Source) := do
  match ← inShell (flow (if path = "/dev/stdin" then "-" else path)) with
  | .ok (text, more) => return .ok ⟨text.toList, more⟩
  | .error r => return .error r

/-- Opens a file whose records are to be read. -/
def openSource (path : String) : Recorder Unit := do
  match ← sourceOf path with
  | .ok source =>
    modify fun s => { s with source := some source }
    define "FILENAME" (.value (.input path))
    define "FNR" (.value (.number 0))
  | .error .isDirectory => fault ("read error (" ++ Refusal.isDirectory.reason ++ ")")
  | .error r => fault ("cannot open \"" ++ path ++ "\" (" ++ r.reason ++ ")")

/-- Goes on with the next file among the operands, or with the input if there is none among them. Whether there
    is one. -/
def openNext : (fuel : Nat) → Recorder Bool
  | 0 => return false
  | n + 1 => do
    let count := RecordValue.wholeOf (← global "ARGC").toNumber
    let s ← get
    if count ≤ s.operand then
      if s.opened then return false
      else
        modify fun s => { s with opened := true }
        openSource "-"
        return true
    else
      modify fun s => { s with operand := s.operand + 1 }
      let table ← tableOf "ARGV"
      let given : RecordValue := (((s.tables[table]?).bind fun t => t.values[toString s.operand]?)).getD .unset
      let operand ← textOf given
      if operand = "" then openNext n
      else if ← assignOperand operand then openNext n
      else
        modify fun s => { s with opened := true }
        openSource operand
        return true

/-- How many files are looked at for a record. -/
def mostFiles : Nat := 1000000

/-- The next of the records that the script is for. -/
def nextRecord : (fuel : Nat) → Recorder (Option String)
  | 0 => return none
  | n + 1 => do
    match (← get).source with
    | none => if ← openNext mostFiles then nextRecord n else return none
    | some source =>
      match ← source.next with
      | some (record, source) =>
        modify fun s => { s with source := some source }
        countUp "NR"
        countUp "FNR"
        return some record
      | none =>
        modify fun s => { s with source := none }
        nextRecord n

/-- The next record of a file or a command, unless it cannot be read. -/
def nextOf (e : Engine) (command : Bool) (name : String) : Recorder (Except Refusal (Option String)) := do
  let supply : Except Refusal Supply ← do
    match (← get).supplies.find? fun u => u.command = command && u.name = name with
    | some u => pure (.ok u)
    | none =>
      if command then
        flush
        let (text, status) ← inShell (outputOf e name)
        pure (.ok ⟨true, name, ⟨text.toList, false⟩, status⟩)
      else
        match ← sourceOf name with
        | .ok source => pure (.ok ⟨false, name, source, 0⟩)
        | .error .isDirectory => fault ("read error (" ++ Refusal.isDirectory.reason ++ ")")
        | .error r => pure (.error r)
  match supply with
  | .error r => return .error r
  | .ok u =>
    let keep (u : Supply) : Recorder Unit := modify fun s => { s with
      supplies := u :: s.supplies.filter fun v => !(v.command = command && v.name = name) }
    match ← u.source.next with
    | some (record, source) =>
      keep { u with source := source }
      return .ok (some record)
    | none =>
      keep { u with source := ⟨[], false⟩ }
      return .ok none

end Retrace.Unix.Utility.Records
