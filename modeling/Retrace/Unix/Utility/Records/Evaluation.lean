import Retrace.Unix.Utility.Records.Work

/-!
# Following scripts for records

What the expressions of a script are worth, and what its statements do. A place
that is changed is found before what it is given. Functions are given values,
and tables as they are; a name that nothing is known of yet may become a table
in a function.
-/

namespace Retrace.Unix.Utility.Records

open RecordScript

/-- What a script is followed in. -/
structure Setting where
  engine : Engine
  functions : Std.HashMap String RecordScript.Function

/-- How statements end. -/
inductive Ending where
  | through
  | leave
  | goOn
  | giveBack (v : RecordValue)

/-- A place that was found. -/
inductive Spot where
  | named (name : String)
  | field (number : Nat)
  | item (table : Nat) (key : RecordKey)

/-! ### Places -/

/-- What is in a place. -/
def Spot.value : Spot → Recorder RecordValue
  | .named name => valueOf name
  | .field number => Records.field number
  | .item table key => withTable table (·.get key)

/-- Puts something into a place. -/
def Spot.put (v : RecordValue) : Spot → Recorder Unit
  | .named name => assign name v
  | .field number => setField number v
  | .item table key => withTable table fun t => ((), t.put key v)

/-- The number of a field. -/
def fieldNumber (v : RecordValue) : Recorder Nat := do
  let k := RecordValue.wholeOf v.toNumber
  if k < 0 then recordFault ("negative field index $" ++ toString k)
  else return k.toNat

/-- The key that some values are together. -/
def keyOfAll (vs : List RecordValue) : Recorder RecordKey := do
  match vs with
  | [v] => keyOf v
  | vs =>
    let separator ← textOf (← global "SUBSEP")
    return .text (separator.intercalate (← vs.mapM textOf))

/-! ### Functions -/

/-- The number for something that holds or not. -/
def truth (b : Bool) : RecordValue := .number (if b then 1 else 0)

/-- The number of a count. -/
def counted (n : Nat) : RecordValue := .number (Float.ofNat n)

/-- Where a text begins in another one, counted from one, or zero. -/
def indexOf (part : List Char) : (offset : Nat) → List Char → Nat
  | k, [] => if part.isEmpty then k + 1 else 0
  | k, c :: cs => if part.isPrefixOf (c :: cs) then k + 1 else indexOf part (k + 1) cs

/-- A number without its fraction. -/
def truncated (x : Float) : Float := if x < 0 then x.ceil else x.floor

/-- The part of a text from a place on, which has some length at most. What would come before the text counts for
    the length. -/
def partOf (s : String) (start : Float) (length : Option Float) : String :=
  let first := RecordValue.wholeOf start
  let last : Int := match length with
    | some n => first + RecordValue.wholeOf n
    | none => s.length + 1
  let first := max first 1
  if last ≤ first then "" else ((s.drop (first - 1).toNat).take (last - first).toNat).toString

/-- A replacement, in which an ampersand stands for what was matched. -/
def replacement (found : List Char) : List Char → List Char
  | [] => []
  | '\\' :: '&' :: cs => '&' :: replacement found cs
  | '\\' :: '\\' :: cs => '\\' :: replacement found cs
  | '&' :: cs => found ++ replacement found cs
  | c :: cs => c :: replacement found cs

/-- A text with matches of an expression replaced, and how many there were. Given are whether a match has just
    ended and how many may come. -/
def replaced (r : Regular) (template : List Char) : (fuel most : Nat) → (fresh : Bool) → Regular.Position → List Char × Nat
  | 0, _, _, p => (p.after, 0)
  | _, 0, _, p => (p.after, 0)
  | n + 1, most + 1, fresh, p =>
    let skip : List Char × Nat := match p.after with
      | [] => ([], 0)
      | c :: _ =>
        let (cs, count) := replaced r template n (most + 1) true p.advance
        (c :: cs, count)
    match Regular.longest (Regular.places .usual r p) with
    | none => skip
    | some q =>
      if q.offset = p.offset then
        if fresh then
          match p.after with
          | [] => (replacement [] template, 1)
          | c :: _ =>
            let (cs, count) := replaced r template n most true p.advance
            (replacement [] template ++ c :: cs, count + 1)
        else skip
      else
        let (cs, count) := replaced r template n most false { q with groups := [] }
        (replacement (p.after.take (q.offset - p.offset)) template ++ cs, count + 1)

/-- The seconds from the beginning of 1970 to a time that is told as numbers. -/
def secondsAt (zone : Calendar.Zone) (s : String) : Float :=
  match (wordsOf [] s.toList).map String.toInt? with
  | some year :: some month :: some day :: some hour :: some minute :: some second :: _ =>
    let seconds := Calendar.secondsOf year month day hour minute second
    Float.ofInt (seconds - zone.ahead)
  | _ => -1

/-- The value of a function of numbers. -/
def ofNumbers? (name : String) (xs : List Float) : Option Float :=
  match name, xs with
  | "atan2", [y, x] => some (Float.atan2 y x)
  | "cos", [x] => some x.cos
  | "sin", [x] => some x.sin
  | "exp", [x] => some x.exp
  | "log", [x] => some x.log
  | "sqrt", [x] => some x.sqrt
  | "int", [x] => some (truncated x)
  | _, _ => none

/-- The value of a function of values. -/
def applied (c : Setting) (name : String) (vs : List RecordValue) : Recorder RecordValue := do
  match name, vs with
  | "length", [] => return counted (← get).record.length
  | "length", [v] => return counted (← textOf v).length
  | "index", [s, t] => return counted (indexOf (← textOf t).toList 0 (← textOf s).toList)
  | "substr", [s, start] => return .text (partOf (← textOf s) start.toNumber none)
  | "substr", [s, start, length] => return .text (partOf (← textOf s) start.toNumber (some length.toNumber))
  | "tolower", [s] => return .text ((← textOf s).map Char.toLower)
  | "toupper", [s] => return .text ((← textOf s).map Char.toUpper)
  | "sprintf", format :: vs =>
    let format ← textOf format
    match RecordValue.filled (← textOf (← global "CONVFMT")) (2 * format.length + 16) format.toList vs 1 with
    | (s, none) => return .text s
    | (_, some m) => recordFault (m ++ "sprintf(\"" ++ format ++ "\")")
  | "close", [v] =>
    match ← close c.engine (← textOf v) with
    | some status => return counted status
    | none => return .number (-1)
  | "fflush", _ =>
    flush
    return .number 0
  | "system", [v] =>
    flush
    return counted (← inShell (runCommand c.engine (← textOf v)))
  | "rand", _ =>
    let n := (← get).random * 16807 % 2147483647
    modify fun s => { s with random := n }
    return .number (Float.ofNat n / 2147483647)
  | "srand", _ =>
    let former := (← get).seed
    let now ← inShell (Sh.ask (·.files.now))
    let v := vs.headD (.number (Float.ofInt (now / 1000000000)))
    -- random numbers do not depend on it
    modify fun s => { s with seed := v }
    return former
  | "systime", _ => return .number (Float.ofInt ((← inShell (Sh.ask (·.files.now))) / 1000000000))
  | "mktime", [v] => return .number (secondsAt (← inShell zone) (← textOf v))
  | "strftime", vs =>
    let format ← match vs with
      | v :: _ => textOf v
      | [] => pure ""
    let time ← match vs with
      | _ :: v :: _ => pure (RecordValue.wholeOf v.toNumber * 1000000000)
      | _ => inShell (Sh.ask (·.files.now))
    let zone ← match vs with
      | [_, _, v] => if v.holds then pure ⟨"UTC", 0⟩ else inShell zone
      | _ => inShell zone
    return .text (Calendar.written zone time (if format = "" then "%c" else format))
  | name, vs => return ((ofNumbers? name (vs.map RecordValue.toNumber)).map RecordValue.number).getD .unset

/-! ### Expressions -/

/-- Whether an expression is found in a text. -/
def occurs (r : Regular) (s : String) : Bool :=
  (Regular.find? .usual r s.toList 0).isSome

/-- Makes a line the value of what it was read for. -/
def takeLine (line : String) (into : Option Spot) : Recorder Unit := do
  match into with
  | some spot => spot.put (.input line)
  | none => setRecord line

mutual

/-- The value of an expression. -/
def eval (c : Setting) : (fuel : Nat) → RecordScript.Expr → Recorder RecordValue
  | 0, _ => return .unset
  | n + 1, e => do
    match e with
    | .number x => return .number x
    | .text s => return .text s
    | .regular r => return truth (occurs r (← get).record)
    | .grouped e => eval c n e
    | .place p =>
      let spot ← spotOf c n p
      spot.value
    | .assign p calculation e =>
      let spot ← spotOf c n p
      let v ← eval c n e
      let v ← match calculation with
        | some k => do
          let former ← spot.value
          pure (.number (RecordValue.calculate k former.toNumber v.toNumber))
        | none => pure v
      spot.put v
      return v
    | .step p up first =>
      let spot ← spotOf c n p
      let x := (← spot.value).toNumber
      let y := if up then x + 1 else x - 1
      spot.put (.number y)
      return .number (if first then y else x)
    | .calculate k a b =>
      let x ← eval c n a
      let y ← eval c n b
      return .number (RecordValue.calculate k x.toNumber y.toNumber)
    | .compare k a b =>
      let x ← eval c n a
      let y ← eval c n b
      return truth (RecordValue.compare (← textOf (← global "CONVFMT")) k x y)
    | .matching negated e r =>
      let s ← textOf (← eval c n e)
      let r ← regularFrom c n r
      return truth (occurs r s != negated)
    | .join a b =>
      let s ← textOf (← eval c n a)
      let t ← textOf (← eval c n b)
      return .text (s ++ t)
    | .both a b =>
      if (← eval c n a).holds then return truth (← eval c n b).holds else return truth false
    | .either a b =>
      if (← eval c n a).holds then return truth true else return truth (← eval c n b).holds
    | .not e => return truth (!(← eval c n e).holds)
    | .minus e => return .number (-(← eval c n e).toNumber)
    | .plus e => return .number (← eval c n e).toNumber
    | .choose k a b => if (← eval c n k).holds then eval c n a else eval c n b
    | .within subscripts array =>
      let key ← keyOfAll (← evalAll c n subscripts)
      let table ← tableOf array
      return truth (← withTable table (·.locate false key))
    | .call name args =>
      match c.functions[name]? with
      | none => return .unset
      | some f =>
        let given ← argumentsOf c n args
        let former := (← get).locals
        let missing := List.replicate (f.parameters.length - given.length) (Binding.value .unset)
        modify fun s => { s with locals := f.parameters.zip (given ++ missing) }
        let ending ← runAll c n f.body
        modify fun s => { s with locals := former }
        match ending with
        | .giveBack v => return v
        | _ => return .unset
    | .apply "length" [.place (.named name)] =>
      match ← binding? name with
      | some (.table k) => return counted (← withTable k fun t => (t.size, t))
      | some (.undecided k) => return counted (← withTable k fun t => (t.size, t))
      | _ => applied c "length" [← valueOf name]
    | .apply "split" (e :: .place (.named array) :: separator) =>
      let s ← textOf (← eval c n e)
      let separator ← match separator with
        | [.regular r] => pure (.regular r)
        | [e] => separatorFor (← textOf (← eval c n e))
        | _ => separatorFor (← textOf (← global "FS"))
      let pieces := fieldsOf separator false s
      let table ← tableOf array
      withTable table fun _ => ((), .ofList (pieces.map .input))
      return counted pieces.length
    | .apply "match" [e, r] =>
      let s ← textOf (← eval c n e)
      let r ← regularFrom c n r
      let (start, length) := match Regular.find? .usual r s.toList 0 with
        | some m => (counted (m.start + 1), counted (m.stop - m.start))
        | none => (counted 0, .number (-1))
      assign "RSTART" start
      assign "RLENGTH" length
      return start
    | .apply "sub" args => substitute c n 1 args
    | .apply "gsub" args => substitute c n 1000000000 args
    | .apply name args => applied c name (← evalAll c n args)
    | .getLine origin source into =>
      let name ← match source with
        | some e => textOf (← eval c n e)
        | none => pure ""
      let spot ← match into with
        | some p => some <$> spotOf c n p
        | none => pure none
      match origin with
      | .records =>
        match ← nextRecord mostFiles with
        | some line =>
          takeLine line spot
          return .number 1
        | none => return .number 0
      | origin =>
        let command := origin matches .command
        match ← nextOf c.engine command name with
        | .ok (some line) =>
          takeLine line spot
          return .number 1
        | .ok none => return .number 0
        | .error _ => return .number (-1)

/-- The values of some expressions. -/
def evalAll (c : Setting) : (fuel : Nat) → List RecordScript.Expr → Recorder (List RecordValue)
  | 0, _ => return []
  | _, [] => return []
  | n + 1, e :: es => do
    let v ← eval c n e
    let vs ← evalAll c n es
    return v :: vs

/-- What some arguments stand for. -/
def argumentsOf (c : Setting) : (fuel : Nat) → List RecordScript.Expr → Recorder (List Binding)
  | 0, _ => return []
  | _, [] => return []
  | n + 1, e :: es => do
    let b : Binding ← match e with
      | .place (.named name) => do
        match ← binding? name with
        | some (.table k) => pure (.table k)
        | some (.undecided k) => pure (.undecided k)
        | some (.value .unset) => undecided name
        | none => if name = "NF" then .value <$> valueOf name else undecided name
        | some (.value v) => pure (.value v)
      | e => .value <$> eval c n e
    let bs ← argumentsOf c n es
    return b :: bs
where
  /-- Lets a name stand for what may become a table. -/
  undecided (name : String) : Recorder Binding := do
    let k ← newTable
    define name (.undecided k)
    return .undecided k

/-- The place that is meant. -/
def spotOf (c : Setting) : (fuel : Nat) → RecordScript.Place → Recorder Spot
  | 0, _ => return .field 0
  | n + 1, p => do
    match p with
    | .named name => return .named name
    | .field e => return .field (← fieldNumber (← eval c n e))
    | .item array subscripts =>
      let key ← keyOfAll (← evalAll c n subscripts)
      return .item (← tableOf array) key

/-- The expression that is meant. -/
def regularFrom (c : Setting) : (fuel : Nat) → RecordScript.Expr → Recorder Regular
  | 0, _ => return .empty
  | n + 1, e => do
    match e with
    | .regular r => return r
    | e => regularFor (← textOf (← eval c n e))

/-- Replaces what an expression matches: how often that was done. -/
def substitute (c : Setting) : (fuel most : Nat) → List RecordScript.Expr → Recorder RecordValue
  | 0, _, _ => return .unset
  | n + 1, most, args => do
    match args with
    | r :: template :: rest =>
      let r ← regularFrom c n r
      let template ← textOf (← eval c n template)
      let spot : Option Spot ← match rest with
        | [] => pure (some (.field 0))
        | [.place p] => some <$> spotOf c n p
        | _ => pure none
      let v ← match spot, rest with
        | some spot, _ => spot.value
        | none, e :: _ => eval c n e
        | none, [] => pure .unset
      let s ← textOf v
      let (cs, count) := replaced r template.toList (s.length + 2) most true (.first s.toList)
      match spot with
      | some spot => if count != 0 then spot.put (.text (String.ofList cs))
      | none => pure ()
      return counted count
    | _ => return .unset

/-- Does what a statement says. -/
def run (c : Setting) : (fuel : Nat) → Statement → Recorder Ending
  | 0, _ => return .through
  | n + 1, st => do
    match st with
    | .evaluate e =>
      let _ ← eval c n e
      return .through
    | .print formatted args target =>
      let vs ← evalAll c n args
      let put (text : String) : Recorder Unit := do
        match target with
        | none => modify fun s => { s with printed := text :: s.printed }
        | some (t, e) => printTo t (← textOf (← eval c n e)) text
      if formatted then
        let format ← textOf (vs.headD .unset)
        let (text, wrong) := RecordValue.filled (← textOf (← global "CONVFMT")) (2 * format.length + 16) format.toList
          (vs.drop 1) 1
        put text
        match wrong with
        | none => return .through
        | some m => recordFault (m ++ "printf(\"" ++ format ++ "\")")
      else
        let texts ← if args.isEmpty then pure [(← get).record] else vs.mapM (textBy "OFMT")
        put ((← textOf (← global "OFS")).intercalate texts ++ (← textOf (← global "ORS")))
        return .through
    | .choose k a b => if (← eval c n k).holds then runAll c n a else runAll c n b
    | .repeated k body => loop c n (some k) [] body
    | .once body k =>
      match ← runAll c n body with
      | .leave => return .through
      | .giveBack v => return .giveBack v
      | _ => loop c n (some k) [] body
    | .loop start k step body =>
      let _ ← runAll c n start
      loop c n k step body
    | .each name array body =>
      let table ← tableOf array
      eachKey c n name body (← withTable table (·.keys))
    | .delete array none =>
      let table ← tableOf array
      withTable table fun _ => ((), .empty)
      return .through
    | .delete array (some subscripts) =>
      let key ← keyOfAll (← evalAll c n subscripts)
      let table ← tableOf array
      withTable table fun t => ((), t.erase key)
      return .through
    | .next => halt .next
    | .nextFile => halt .nextFile
    | .exit none => halt (.exit none)
    | .exit (some e) => halt (.exit (some ((RecordValue.wholeOf (← eval c n e).toNumber).fmod 256).toNat))
    | .giveBack none => return .giveBack .unset
    | .giveBack (some e) => return .giveBack (← eval c n e)
    | .leave => return .leave
    | .goOn => return .goOn

/-- Does what some statements say. -/
def runAll (c : Setting) : (fuel : Nat) → List Statement → Recorder Ending
  | 0, _ => return .through
  | _, [] => return .through
  | n + 1, st :: sts => do
    match ← run c n st with
    | .through => runAll c n sts
    | ending => return ending

/-- Does what some statements say as long as a condition holds. -/
def loop (c : Setting) : (fuel : Nat) → Option RecordScript.Expr → (step body : List Statement) → Recorder Ending
  | 0, _, _, _ => return .through
  | n + 1, k, step, body => do
    let goes ← match k with
      | some k => do pure (← eval c n k).holds
      | none => pure true
    if !goes then return .through
    else
      match ← runAll c n body with
      | .leave => return .through
      | .giveBack v => return .giveBack v
      | _ =>
        let _ ← runAll c n step
        loop c n k step body

/-- Does what some statements say for each of some keys. -/
def eachKey (c : Setting) : (fuel : Nat) → String → List Statement → List String → Recorder Ending
  | 0, _, _, _ => return .through
  | _, _, _, [] => return .through
  | n + 1, name, body, key :: keys => do
    assign name (.text key)
    match ← runAll c n body with
    | .leave => return .through
    | .giveBack v => return .giveBack v
    | _ => eachKey c n name body keys

end

end Retrace.Unix.Utility.Records
