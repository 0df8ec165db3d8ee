import Retrace.Unix.Utility.Programs

/-!
# Arguments from the input

What runs a program with arguments that it reads: as many at a time as a command
may have, or a number of them, or those of some lines, or each in the place of a
mark. Words are separated by blanks unless something else separates them, and
then quotes and backslashes have a meaning in them.
-/

namespace Retrace.Unix.Utility

/-- What has been read of the words of the input. -/
structure InputWords where
  /-- The words of the lines, each with whether it ends a line. -/
  words : List (String × Bool)
  /-- What kind of quote is not closed. -/
  unclosed : Option String

/-- Some words with one more before them. -/
def InputWords.after (word : Option (List Char)) (endsLine : Bool) (w : InputWords) : InputWords :=
  match word with
  | some cs => { w with words := (String.ofList cs.reverse, endsLine) :: w.words }
  | none => w

/-- The words of an input, given the characters of the word so far. A blank at the end of a line joins the
    next line to it. Where a whole line is a word, blanks only count at its beginning. -/
def inputWords (wholeLines : Bool) : (fuel : Nat) → (word : Option (List Char)) → List Char → InputWords
  | 0, _, _ => ⟨[], none⟩
  | _, word, [] => (⟨[], none⟩ : InputWords).after word true
  | n + 1, word, c :: cs =>
    let now := word.getD []
    if c = '\n' then (inputWords wholeLines n none cs).after word true
    else if c = ' ' || c = '\t' then
      if wholeLines then inputWords wholeLines n (word.map (c :: ·)) cs
      else
        let next := cs.dropWhile fun d => d = ' ' || d = '\t'
        let ends := next.head? = some '\n' && !(c = ' ' || c = '\t')
        (inputWords wholeLines n none (if next.head? = some '\n' then next.drop 1 else next)).after word ends
    else if c = '\'' || c = '"' then
      let quoted := cs.takeWhile fun d => d != c && d != '\n'
      match cs.drop quoted.length with
      | '\n' :: _ => ⟨[], some (if c = '"' then "double" else "single")⟩
      | [] => ⟨[], some (if c = '"' then "double" else "single")⟩
      | _ :: rest => inputWords wholeLines n (some (quoted.reverse ++ now)) rest
    else if c = '\\' then
      match cs with
      | d :: rest => inputWords wholeLines n (some (d :: now)) rest
      | [] => (⟨[], none⟩ : InputWords).after (some ('\\' :: now)) true
    else inputWords wholeLines n (some (c :: now)) cs

/-- The character that a text means as a separator. -/
def separator? (s : String) : Option Char :=
  match s.toList with
  | [c] => some c
  | ['\\', c] => ([('a', '\x07'), ('b', '\x08'), ('f', '\x0c'), ('n', '\n'), ('r', '\r'), ('t', '\t'), ('v', '\x0b'),
      ('\\', '\\'), ('0', '\x00')] : List (Char × Char)).lookup c
  | '\\' :: 'x' :: ds =>
    if !ds.isEmpty && ds.all fun d => (digitValue? 16 d).isSome then some (Char.ofNat (numberOf 16 ds % 256)) else none
  | '\\' :: ds =>
    if !ds.isEmpty && ds.all fun d => (digitValue? 8 d).isSome then some (Char.ofNat (numberOf 8 ds % 256)) else none
  | _ => none

/-- How arguments are given to a program. -/
inductive Batches where
  /-- As many as a command may have. -/
  | full
  | arguments (n : Nat)
  | lines (n : Nat)
  /-- Each in the place of a mark. -/
  | replacing (mark : String)

/-- The room that arguments take. -/
def roomOf (args : List String) : Nat := (args.map fun a => a.length + 1).foldl (· + ·) 0

/-- The batches of some words, of which each has a number of words or lines at most and fits into some room, and
    those that do not. Given are the words of the present batch, in reverse order, how much it counts, and the
    room that it takes. -/
def batched (most : Option Nat) (byLines : Bool) (room : Nat) (base : Nat) : (batch : List String) →
    (count size : Nat) → List (String × Bool) → List (List String) × Bool
  | batch, _, _, [] => (if batch.isEmpty then [] else [batch.reverse], false)
  | batch, count, size, (w, ends) :: ws =>
    let full := (most.any fun m => m ≤ count) || (room < size + w.length + 1 && !batch.isEmpty)
    if base + w.length + 1 > room then (if batch.isEmpty then [] else [batch.reverse], true)
    else
      let counted := !byLines || ends
      if full then
        let (rest, long) := batched most byLines room base [w] (if counted then 1 else 0) (base + w.length + 1) ws
        (batch.reverse :: rest, long)
      else batched most byLines room base (w :: batch) (if counted then count + 1 else count) (size + w.length + 1) ws

/-- What the last of some options says about batches, with warnings about those before it. -/
def batchesOf (given : List (Char × String)) : Batches × List String :=
  let warning (a b old : String) : String :=
    "warning: options " ++ a ++ " and " ++ b ++ " are mutually exclusive, ignoring previous " ++ old ++ " value"
  given.foldl (fun ((b, ws) : Batches × List String) (c, v) =>
    let number := (natural? v).getD 1
    match c, b with
    | 'n', .lines _ => (.arguments number, ws ++ [warning "--max-lines" "--max-args/-n" "--max-lines"])
    | 'n', .replacing _ =>
      if number = 1 then (b, ws) else (.arguments number, ws ++ [warning "--replace" "--max-args/-n" "--replace"])
    | 'n', _ => (.arguments number, ws)
    | 'L', .arguments _ => (.lines number, ws ++ [warning "--max-args" "-L" "--max-args"])
    | 'L', .replacing _ => (.lines number, ws ++ [warning "--replace" "-L" "--replace"])
    | 'L', _ => (.lines number, ws)
    | 'l', .arguments _ => (.lines number, ws ++ [warning "--max-args" "--max-lines/-l" "--max-args"])
    | 'l', .replacing _ => (.lines number, ws ++ [warning "--replace" "--max-lines/-l" "--replace"])
    | 'l', _ => (.lines number, ws)
    | 'I', _ | 'i', _ =>
      let ws := match b with
        | .arguments _ => ws ++ [warning "--max-args" "--replace/-I/-i" "--max-args"]
        | .lines _ => ws ++ [warning "--max-lines" "--replace/-I/-i" "--max-lines"]
        | _ => ws
      (.replacing (if c = 'i' && v = "" then "\x7b\x7d" else v), ws)
    | _, _ => (b, ws)) (.full, [])

/-- A fault in the numbers that options have: the least value comes with each. -/
def numberFault? (given : List (Char × String)) : Option String :=
  given.findSome? fun (c, v) =>
    match ([('n', (1 : Int)), ('L', 1), ('P', 0), ('s', 1), ('l', 1)] : List (Char × Int)).lookup c with
    | none => none
    | some least =>
      if c = 'l' && v = "" then none
      else match v.toInt? with
        | none => some ("invalid number \"" ++ v ++ "\" for -" ++ String.singleton c ++ " option")
        | some k =>
          if k < least then
            some ("value " ++ v ++ " for -" ++ String.singleton c ++ " option should be >= " ++ toString least)
          else none

/-- The room that the arguments of a command take at most. -/
def mostRoom : Nat := 131072

/-- Runs commands one after the other. The status of what failed so far is `worst`. -/
def runBatches (e : Engine) (name : String) (traces : Bool) (given : Option Nat) (worst : Nat) :
    List (List String) → Sh Nat
  | [] => return worst
  | command :: more => do
    if traces then Sh.report (" ".intercalate (command.map Quoting.escaped))
    let program := command.headD ""
    let done ← Sh.withStreams (do
      let null ← Sh.addChannel .null
      Sh.lead 0 (some (given.getD null))
      e.invoke command)
    match done with
    | .ok 0 => runBatches e name traces given worst more
    | .ok 255 => fail name (program ++ ": exited with status 255; aborting") 124
    | .ok _ =>
      let death ← Sh.ask (·.death)
      Sh.change fun s => { s with death := none }
      match death with
      | some signal => fail name (program ++ ": terminated by signal " ++ toString signal) 125
      | none => runBatches e name traces given 123 more
    | .error r => fail name (program ++ ": " ++ r.reason) (if r matches .notFound then 127 else 126)

/-- The options of what runs a program with arguments that it reads. -/
def argumentOptions : OptionNames :=
  { letters := "0oprtx", valued := "adEILnPsV", optional := "eil"
    wordly := "V"
    words := [("arg-file", 'a'), ("delimiter", 'd'), ("eof", 'e'), ("exit", 'x'), ("interactive", 'p'),
      ("max-args", 'n'), ("max-chars", 's'), ("max-lines", 'l'), ("max-procs", 'P'), ("no-run-if-empty", 'r'),
      ("null", '0'), ("open-tty", 'o'), ("process-slot-var", 'V'), ("replace", 'i'), ("verbose", 't')] }

/-- Runs a program with arguments from the input. -/
def xargs : Utility := fun e name args =>
  withOptions argumentOptions false 1 name args fun o => do
    let command := if o.operands.isEmpty then ["echo"] else o.operands
    let (batches, warnings) := batchesOf o.given
    let given := (o.given.reverse.find? fun g => g.1 = '0' || g.1 = 'd').map fun (c, v) =>
      if c = '0' then (v, some '\x00') else (v, separator? v)
    match numberFault? o.given, given with
    | some m, _ => misused name m 1
    | none, some (v, none) =>
      if v.startsWith "\\" then
        fail name ("Invalid escape sequence " ++ v ++ " in input delimiter specification.") 1
      else fail name ("Invalid input delimiter specification " ++ v ++
        ": the delimiter must be either a single character or an escape sequence starting with \\.") 1
    | none, given =>
      Sh.each warnings (tell name)
      let input ← match o.value? 'a' with
        | some path => Sh.contents path
        | none => Sh.inputAll 0
      match input, batches with
      | .error r, _ =>
        if o.has 'a' then fail name ("Cannot open input file " ++ Quoting.curly ((o.value? 'a').getD "") ++ ": " ++ r.reason) 1
        else return 0
      | .ok _, .replacing "" => fail name "command too long" 1
      | .ok text, batches =>
        let wholeLines := batches matches .replacing _
        let read : InputWords := match given.bind (·.2) with
          | some c => ⟨(piecesOf c text).map fun w => (w, true), none⟩
          | none => inputWords wholeLines (text.length + 1) none text.toList
        let ending := (o.value? 'E').or (((o.given.reverse.find? (·.1 = 'e')).map (·.2)).filter (· != ""))
        let words : List (String × Bool) := match ending with
          | some w => if given.isSome then read.words else read.words.takeWhile (·.1 != w)
          | none => read.words
        let room := match (o.value? 's').bind natural? with
          | some n => min n mostRoom
          | none => mostRoom
        let base := roomOf command
        let (calls, long) : List (List String) × Bool := match batches with
          | .replacing mark =>
            (words.map fun (w, _) => command.map fun (a : String) => w.intercalate (a.splitOn mark), false)
          | .full => batched none false room base [] 0 base words
          | .arguments n => batched (some n) false room base [] 0 base words
          | .lines n => batched (some n) true room base [] 0 base words
        let calls := match batches with
          | .replacing _ => calls
          | _ =>
            if words.isEmpty then (if o.has 'r' || read.unclosed.isSome then [] else [command])
            else calls.map (command ++ ·)
        if o.has 'p' then
          Sh.printError (" ".intercalate (calls.headD command))
          fail name "failed to open /dev/tty for reading: No such device or address" 1
        else
          let own ← Sh.channel? 0
          let stdin := if o.has 'a' then own.map Prod.fst else none
          let status ← runBatches e name (o.has 't') stdin 0 calls
          if status != 0 && status != 123 then return status
          else if long then fail name "argument line too long" 1
          else match read.unclosed with
            | some kind => fail name ("unmatched " ++ kind ++
                " quote; by default quotes are special to xargs unless you use the -0 option") 1
            | none => return status

end Retrace.Unix.Utility
