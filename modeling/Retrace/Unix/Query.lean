import Retrace.Unix.Calendar.Reading
import Retrace.Unix.Mode
import Retrace.Unix.Pattern
import Retrace.Unix.Quoting
import Retrace.Unix.Regular
import Retrace.Unix.State

/-!
# Queries about files

What can be asked about a file: what it is called, what it is, how large it is,
when it was changed, and so on. A query can also do something with a file, and
then it holds or not as well. Queries are joined: both of two hold, or one of
them, or one does not.

A query is written in arguments. First each of them is read with its own
arguments (a *term*), and then the terms are joined, a negation first, then those
that stand next to each other, then alternatives.
-/

namespace Retrace.Unix

/-- A number that another one is compared with. -/
inductive Measure where
  | exactly (n : Nat)
  | above (n : Nat)
  | below (n : Nat)

/-- Whether a number is as it should be. -/
def Measure.has (m : Measure) (k : Nat) : Bool :=
  match m with
  | .exactly n => k = n
  | .above n => n < k
  | .below n => k < n

/-- How much of a mode a file should have. -/
inductive ModeShare where
  | exactly | all | any

/-- The style in which a part of a format is filled in. -/
structure Filling where
  flags : List Char
  width : Nat
  precision : Option Nat

/-- A part of a format for what is known of a file. -/
inductive FormatPart where
  | text (s : String)
  | asked (f : Filling) (letter : Char)
  /-- The time `which`, in a form of its own. -/
  | time (f : Filling) (which form : Char)
  /-- Nothing more is printed. -/
  | stop

/-- How a program is run for files. -/
structure QueryRun where
  /-- The number of this use of a program. -/
  number : Nat
  args : List String
  /-- It is run in the directory that holds the file. -/
  within : Bool
  asks : Bool
  /-- It is run once for many files. -/
  gathers : Bool

/-- What is asked about a file, or done with it. -/
inductive Query where
  | always (v : Bool)
  | name (p : Pattern) (folded : Bool)
  | path (p : Pattern) (folded : Bool)
  | target (p : Pattern) (folded : Bool)
  | regular (r : Regular) (folded : Bool)
  /-- What it is, or what its target is if it is a link. -/
  | kind (letters : List Char) (through : Bool)
  | empty
  | size (unit : Nat) (m : Measure)
  /-- How many days ago it was changed, the part of one left out. -/
  | days (today : Bool) (m : Measure)
  | minutes (today : Bool) (m : Measure)
  | newer (time : Int)
  | mode (bits : Nat) (share : ModeShare)
  | names (m : Measure)
  | number (m : Measure)
  | same (number : Nat)
  | isThere
  | runs
  | print (finish : String) (file : Option String)
  | format (parts : List FormatPart) (file : Option String)
  | list (file : Option String)
  | delete
  | prune
  | quit
  | run (r : QueryRun)
  | not (q : Query)
  | and (p q : Query)
  | or (p q : Query)
  /-- Both are looked at, and the second one counts. -/
  | next (p q : Query)

namespace Query

/-! ### Formats -/

/-- The characters that letters after a backslash stand for. -/
def escapes : List (Char × Char) := [('a', '\x07'), ('b', '\x08'), ('f', '\x0c'), ('n', '\n'), ('r', '\r'), ('t', '\t'),
  ('v', '\x0b'), ('\\', '\\')]

/-- The letters that ask for something in formats. -/
def formatLetters : List Char := "abcdDfFgGhHiklmMnpPsStuUyYZ".toList

/-- The parts of a format, and warnings about it. -/
def formatParts : (fuel : Nat) → List Char → Except String (List FormatPart × List String)
  | 0, _ => .ok ([], [])
  | _, [] => .ok ([], [])
  | n + 1, '\\' :: cs =>
    match cs with
    | [] => .ok ([.text "\\"], ["warning: escape \x60\\' followed by nothing at all"])
    | 'c' :: _ => .ok ([.stop], [])
    | c :: rest =>
      let digits := (cs.takeWhile fun d => '0' ≤ d && d ≤ '7').take 3
      if !digits.isEmpty then
        (formatParts n (cs.drop digits.length)).map fun (ps, ws) =>
          (.text (String.singleton (Char.ofNat (numberOf 8 digits % 256))) :: ps, ws)
      else match escapes.lookup c with
        | some e => (formatParts n rest).map fun (ps, ws) => (.text (String.singleton e) :: ps, ws)
        | none => (formatParts n rest).map fun (ps, ws) => (.text (String.ofList ['\\', c]) :: ps,
            ("warning: unrecognized escape \x60\\" ++ String.singleton c ++ "'") :: ws)
  | n + 1, '%' :: cs =>
    let flags := cs.takeWhile fun c => "-+ #0".toList.contains c
    let rest := cs.drop flags.length
    let width := rest.takeWhile Char.isDigit
    let rest := rest.drop width.length
    let (precision, rest) := match rest with
      | '.' :: ds =>
        let digits := ds.takeWhile Char.isDigit
        (some (numberOf 10 digits), ds.drop digits.length)
      | rest => (none, rest)
    let f : Filling := ⟨flags, numberOf 10 width, precision⟩
    let written := cs.take (cs.length - rest.length)
    match rest with
    | [] => .error "error: % at end of format string"
    | '%' :: rest => (formatParts n rest).map fun (ps, ws) => (.text "%" :: ps, ws)
    | c :: rest =>
      if "ACBT".toList.contains c then
        match rest with
        | [] => .ok ([.text (String.ofList ('%' :: written ++ [c]))],
            ["warning: format directive \x60%" ++ String.singleton c ++ "' should be followed by another character"])
        | form :: rest => (formatParts n rest).map fun (ps, ws) => (.time f c form :: ps, ws)
      else if formatLetters.contains c then (formatParts n rest).map fun (ps, ws) => (.asked f c :: ps, ws)
      else if c = '\x7b' || c = '[' || c = '(' then
        .error ("error: the format directive \x60%" ++ String.singleton c ++ "' is reserved for future use")
      else (formatParts n rest).map fun (ps, ws) => (.text (String.ofList ('%' :: written ++ [c])) :: ps,
        ("warning: unrecognized format directive \x60%" ++ String.singleton c ++ "'") :: ws)
  | n + 1, cs =>
    let plain := cs.takeWhile fun c => c != '%' && c != '\\'
    (formatParts n (cs.drop plain.length)).map fun (ps, ws) => (.text (String.ofList plain) :: ps, ws)

/-! ### Terms -/

/-- The terms of a query, with the words they begin with. -/
inductive Term where
  | query (q : Query)
  | opening (given : Bool) (word : String)
  /-- A closing parenthesis, which is given or not. -/
  | closing (given : Bool)
  | negation (word : String)
  | conjunction (word : String)
  | alternative (word : String)
  | sequence

/-- Where and in which order files are looked for. -/
structure Extent where
  least : Nat
  most : Nat
  /-- What is in a directory comes before it. -/
  inner : Bool
  /-- This was said. -/
  innerGiven : Bool
  /-- Links are followed. -/
  through : Bool

/-- What is known while a query is read. -/
structure Reading where
  rest : List String
  extent : Extent
  state : State
  /-- The zone of times. -/
  zone : Calendar.Zone
  writing : Regular.Writing
  /-- Repetitions have no backslash before them although groups do. -/
  mixed : Bool
  today : Bool
  runs : Nat
  warnings : List String
  /-- The files that something is printed into. -/
  files : List String
  /-- Something is done with files. -/
  acts : Bool
  prunes : Bool
  deletes : Bool

/-- The reading of terms. -/
abbrev Parse := StateT Reading (Except String)

/-- The argument of a term. -/
def argument (word : String) : Parse String := do
  let r ← get
  match r.rest with
  | a :: rest =>
    set { r with rest := rest }
    return a
  | [] => throw ("missing argument to \x60" ++ word ++ "'")

/-- What is said of an argument that means nothing. -/
def invalid (word value : String) : Parse α :=
  throw ("invalid argument \x60" ++ value ++ "' to \x60" ++ word ++ "'")

/-- A pattern written as an argument. -/
def pattern (s : String) : Pattern := Pattern.ofOctets false (s.toList.map fun c => (c, false))

/-- A number with a sign that says how it is compared. -/
def measure? (s : String) : Option Measure :=
  let number (cs : List Char) : Option Nat :=
    if !cs.isEmpty && cs.all Char.isDigit then some (numberOf 10 cs) else none
  match s.toList with
  | '+' :: cs => (number cs).map .above
  | '-' :: cs => (number cs).map .below
  | cs => (number cs).map .exactly

/-- A number with a sign as the argument of a term. -/
def measure (word : String) : Parse Measure := do
  let s ← argument word
  match measure? s with
  | some m => return m
  | none => invalid word s

/-- How deep something is. -/
def depth (word : String) : Parse Nat := do
  let s ← argument word
  if s != "" && s.toList.all Char.isDigit then return numberOf 10 s.toList
  else throw ("Expected a positive decimal integer argument to " ++ word ++ ", but got " ++ Quoting.curly s)

/-- The letters for kinds of files, separated by commas. -/
def kinds (word : String) (seen : List Char) : List Char → Parse (List Char)
  | [] => throw ("Arguments to " ++ word ++ " should contain at least one letter")
  | c :: cs => do
    if !"bcdpflsD".toList.contains c then throw ("Unknown argument to " ++ word ++ ": " ++ String.singleton c)
    if seen.contains c then
      throw ("Duplicate file type '" ++ String.singleton c ++ "' in the argument list to " ++ word ++ ".")
    match cs with
    | [] => return [c]
    | [','] =>
      throw ("Last file type in list argument to " ++ word ++ " is missing, i.e., list is ending on: ','")
    | ',' :: rest => return c :: (← kinds word (c :: seen) rest)
    | _ => throw ("Must separate multiple arguments to " ++ word ++ " using: ','")

/-- The units of sizes. -/
def sizeUnits : List (Char × Nat) :=
  [('b', 512), ('c', 1), ('w', 2), ('k', 1024), ('M', 1048576), ('G', 1073741824)]

/-- A query for a size. -/
def sized (s : String) : Parse Query := do
  match s.toList.getLast? with
  | none => throw "invalid null argument to -size"
  | some c =>
    if c.isDigit then
      match measure? s with
      | some m => return .size 512 m
      | none => throw ("Invalid argument \x60" ++ s ++ "' to -size")
    else match sizeUnits.lookup c with
      | none => throw ("invalid -size type \x60" ++ String.singleton c ++ "'")
      | some unit => match measure? (s.dropEnd 1).toString with
        | some m => return .size unit m
        | none => throw ("Invalid argument \x60" ++ s ++ "' to -size")

/-- A query for a mode. -/
def moded (s : String) : Parse Query := do
  let (share, text) := match s.toList with
    | '-' :: cs => (ModeShare.all, String.ofList cs)
    | '/' :: cs => (ModeShare.any, String.ofList cs)
    | _ => (ModeShare.exactly, s)
  match Mode.given? text false 0 0 with
  | some bits =>
    if s = "" || (s.startsWith "+" && (s.toList.drop 1).all Char.isDigit) then
      throw ("invalid mode " ++ Quoting.curly s)
    else match share with
      | .any => return if bits = 0 then .always true else .mode bits .any
      | share => return .mode bits share
  | none => throw ("invalid mode " ++ Quoting.curly s)

/-- An expression whose repetitions have no backslash before them although its groups do, written so
    that both have. -/
def unmixed : (inSet : Bool) → List Char → List Char
  | _, [] => []
  | true, ']' :: cs => ']' :: unmixed false cs
  | true, c :: cs => c :: unmixed true cs
  | false, '[' :: ']' :: cs => '[' :: ']' :: unmixed true cs
  | false, '[' :: '^' :: ']' :: cs => '[' :: '^' :: ']' :: unmixed true cs
  | false, '[' :: cs => '[' :: unmixed true cs
  | false, '\\' :: c :: cs =>
    if c = '+' || c = '?' then '[' :: c :: ']' :: unmixed false cs
    else if c = '\x7b' || c = '\x7d' then c :: unmixed false cs
    else '\\' :: c :: unmixed false cs
  | false, c :: cs => if c = '+' || c = '?' then '\\' :: c :: unmixed false cs else c :: unmixed false cs

/-- The kinds of expressions, with how they are written. -/
def expressionKinds : List (String × Regular.Writing × Bool) :=
  let basic := Regular.Writing.basic
  let full := Regular.Writing.full
  [("findutils-default", basic, true), ("ed", basic, false), ("emacs", basic, true), ("gnu-awk", full, false),
    ("grep", basic, false), ("posix-awk", full, false), ("awk", full, false), ("posix-basic", basic, false),
    ("posix-egrep", full, false), ("egrep", full, false), ("posix-extended", full, false),
    ("posix-minimal-basic", basic, false), ("sed", basic, false)]

/-- An expression that paths should match. -/
def expression (s : String) (folded : Bool) : Parse Query := do
  let r ← get
  let written := if r.mixed then String.ofList (unmixed false s.toList) else s
  match Regular.read r.writing written with
  | .ok e => return .regular e folded
  | .error m =>
    let m := if m.startsWith "Unmatched [" then "Invalid regular expression" else m
    throw ("failed to compile regular expression '" ++ s ++ "': " ++ m)

/-- The time at which a file was changed that is named. -/
def timeOf (path : String) : Parse Int := do
  let s := (← get).state
  match s.files.find s.directory path true with
  | .ok found => return found.node.changed
  | .error r => throw (Quoting.curly path ++ ": " ++ r.reason)

/-- A query for something newer than a file, or than a time that is written. -/
def newerThan (word : String) (how : List Char) : Parse Query := do
  match how with
  | [x, y] =>
    if "aBcm".toList.contains x && "aBcm".toList.contains y then return .newer (← timeOf (← argument word))
    else if "aBcm".toList.contains x && y = 't' then
      let s ← argument word
      let r ← get
      match Calendar.read? r.zone r.state.files.now s with
      | some t => return .newer t
      | none => throw ("I cannot figure out how to interpret " ++ Quoting.curly s ++ " as a date or time")
    else throw ("invalid predicate \x60" ++ word ++ "'")
  | _ => throw ("invalid predicate \x60" ++ word ++ "'")

/-- The command of a term, up to a semicolon, or to a plus after braces. -/
def command (word : String) (mayGather : Bool) (before : List String) : List String →
    Except String (List String × Bool × List String)
  | [] => .error ("missing argument to \x60" ++ word ++ "'")
  | ";" :: rest =>
    if before.isEmpty then .error ("invalid argument \x60;' to \x60" ++ word ++ "'") else .ok (before.reverse, false, rest)
  | "+" :: rest =>
    let braces := "\x7b\x7d"
    match before with
    | last :: others =>
      if mayGather && last = braces then
        let has (a : String) : Bool := (a.splitOn braces).length > 1
        if others.contains braces then .error ("Only one instance of \x7b\x7d is supported with " ++ word ++ " ... +")
        else match others.reverse.find? has with
          | some a => .error ("In " ++ Quoting.curly (word ++ " ... \x7b\x7d +") ++ " the " ++ Quoting.curly braces ++
              " must appear by itself, but you specified " ++ Quoting.curly a)
          | none => .ok (others.reverse, true, rest)
      else if mayGather && (last.splitOn braces).length > 1 then
        .error ("In " ++ Quoting.curly (word ++ " ... \x7b\x7d +") ++ " the " ++ Quoting.curly braces ++
          " must appear by itself, but you specified " ++ Quoting.curly last)
      else command word mayGather ("+" :: before) rest
    | [] => command word mayGather ["+"] rest
  | a :: rest => command word mayGather (a :: before) rest

/-- A term that runs a program. -/
def running (word : String) (within asks : Bool) : Parse Query := do
  let r ← get
  match command word (!asks) [] r.rest with
  | .error m => throw m
  | .ok (args, gathers, rest) =>
    set { r with rest := rest, runs := r.runs + 1, acts := true }
    return .run ⟨r.runs, args, within, asks, gathers⟩

/-- A file that something is printed into. -/
def output (word : String) : Parse String := do
  let path ← argument word
  modify fun r => { r with files := r.files ++ [path] }
  return path

/-- A format as the argument of a term. -/
def formatOf (word : String) : Parse (List FormatPart) := do
  let s ← argument word
  match formatParts (s.length + 1) s.toList with
  | .ok (ps, ws) =>
    modify fun r => { r with warnings := r.warnings ++ ws }
    return ps
  | .error m => throw m

/-- Whether someone of a name is the one that owns all files. -/
def owned (word what : String) : Parse Query := do
  let s ← argument word
  if s = "root" || s = "0" then return .always true
  else if s != "" && s.toList.all Char.isDigit then return .always false
  else throw (Quoting.curly s ++ " is not the name of " ++ what)

/-- Notes that something is done with files. -/
def acting (q : Query) : Parse (Option Query) := do
  modify fun r => { r with acts := true }
  return some q

/-- Changes what is said about where files are looked for. -/
def setting (f : Extent → Extent) : Parse (Option Query) := do
  modify fun r => { r with extent := f r.extent }
  return none

/-- The query of a term that begins with a word, if it is one. -/
def term (word : String) : Parse (Option Query) := do
  match word with
  | "-name" => return some (.name (pattern (← argument word)) false)
  | "-iname" => return some (.name (pattern (← argument word)) true)
  | "-path" => return some (.path (pattern (← argument word)) false)
  | "-wholename" => return some (.path (pattern (← argument word)) false)
  | "-ipath" => return some (.path (pattern (← argument word)) true)
  | "-iwholename" => return some (.path (pattern (← argument word)) true)
  | "-lname" => return some (.target (pattern (← argument word)) false)
  | "-ilname" => return some (.target (pattern (← argument word)) true)
  | "-regex" => return some (← expression (← argument word) false)
  | "-iregex" => return some (← expression (← argument word) true)
  | "-regextype" =>
    let s ← argument word
    match expressionKinds.lookup s with
    | some (w, mixed) =>
      modify fun r => { r with writing := w, mixed := mixed }
      return none
    | none => throw ("Unknown regular expression type " ++ Quoting.curly s ++ "; valid types are " ++
        ", ".intercalate (expressionKinds.map fun k => Quoting.curly k.1) ++ ".")
  | "-type" => return some (.kind (← kinds word [] (← argument word).toList) false)
  | "-xtype" => return some (.kind (← kinds word [] (← argument word).toList) true)
  | "-empty" => return some .empty
  | "-size" => return some (← sized (← argument word))
  | "-perm" => return some (← moded (← argument word))
  | "-links" => return some (.names (← measure word))
  | "-inum" => return some (.number (← measure word))
  | "-uid" => return some (.always ((← measure word).has 0))
  | "-gid" => return some (.always ((← measure word).has 0))
  | "-user" => return some (← owned word "a known user")
  | "-group" => return some (← owned word "an existing group")
  | "-nouser" => return some (.always false)
  | "-nogroup" => return some (.always false)
  | "-mtime" => return some (.days (← get).today (← measure word))
  | "-atime" => return some (.days (← get).today (← measure word))
  | "-ctime" => return some (.days (← get).today (← measure word))
  | "-mmin" => return some (.minutes (← get).today (← measure word))
  | "-amin" => return some (.minutes (← get).today (← measure word))
  | "-cmin" => return some (.minutes (← get).today (← measure word))
  | "-used" => return some (.always ((← measure word).has 0))
  | "-newer" => return some (.newer (← timeOf (← argument word)))
  | "-anewer" => return some (.newer (← timeOf (← argument word)))
  | "-cnewer" => return some (.newer (← timeOf (← argument word)))
  | "-samefile" =>
    let path ← argument word
    let s := (← get).state
    match s.files.find s.directory path (← get).extent.through with
    | .ok found => return some (.same found.number)
    | .error r => throw (Quoting.curly path ++ ": " ++ r.reason)
  | "-readable" => return some .isThere
  | "-writable" => return some .isThere
  | "-executable" => return some .runs
  | "-fstype" =>
    let _ ← argument word
    return some (.always false)
  | "-true" => return some (.always true)
  | "-false" => return some (.always false)
  | "-print" => acting (.print "\n" none)
  | "-print0" => acting (.print "\x00" none)
  | "-printf" => acting (.format (← formatOf word) none)
  | "-ls" => acting (.list none)
  | "-fprint" => acting (.print "\n" (some (← output word)))
  | "-fprint0" => acting (.print "\x00" (some (← output word)))
  | "-fprintf" =>
    let file ← output word
    acting (.format (← formatOf word) (some file))
  | "-fls" => acting (.list (some (← output word)))
  | "-delete" =>
    modify fun r => { r with deletes := true, extent := { r.extent with inner := true } }
    acting .delete
  | "-prune" =>
    modify fun r => { r with prunes := true }
    return some .prune
  | "-quit" => acting .quit
  | "-exec" => return some (← running word false false)
  | "-execdir" => return some (← running word true false)
  | "-ok" => return some (← running word false true)
  | "-okdir" => return some (← running word true true)
  | "-depth" => setting fun e => { e with inner := true, innerGiven := true }
  | "-d" => setting fun e => { e with inner := true, innerGiven := true }
  | "-maxdepth" =>
    let n ← depth word
    setting fun e => { e with most := n }
  | "-mindepth" =>
    let n ← depth word
    setting fun e => { e with least := n }
  | "-follow" => setting fun e => { e with through := true }
  | "-daystart" =>
    modify fun r => { r with today := true }
    return none
  | "-mount" => return none
  | "-xdev" => return none
  | "-noleaf" => return none
  | "-warn" => return none
  | "-nowarn" => return none
  | "-ignore_readdir_race" => return none
  | "-noignore_readdir_race" => return none
  | word =>
    if word.startsWith "-newer" then return some (← newerThan word (word.toList.drop 6))
    else throw ("unknown predicate \x60" ++ word ++ "'")

/-- Whether an argument is a term rather than a path. At the beginning a closing parenthesis and a comma
    are none. -/
def isTerm (leading : Bool) (a : String) : Bool :=
  (a.startsWith "-" && a != "-") || a = "(" || a = "!" || (!leading && (a = ")" || a = ","))

/-- The terms of a query. Those that stand next to each other are joined. -/
def terms : (fuel : Nat) → (before : Option String) → (joins : Bool) → Parse (List Term)
  | 0, _, _ => return []
  | n + 1, before, joins => do
    let r ← get
    match r.rest with
    | [] => return []
    | word :: rest =>
      let joined : List Term := if joins then [.conjunction "-a"] else []
      let go (ts : List Term) (joins : Bool) : Parse (List Term) := do
        modify fun r => { r with rest := rest }
        return ts ++ (← terms n (some word) joins)
      if !isTerm false word then
        let s := r.state
        let isThere := (s.files.find s.directory word true).isOk
        throw ("paths must precede expression: \x60" ++ word ++ "'" ++
          (match before with
          | some p => if isThere then "\npossible unquoted pattern after predicate \x60" ++ p ++ "'?" else ""
          | none => ""))
      else match word with
        | "(" => go (joined ++ [.opening true word]) false
        | ")" => go [.closing true] true
        | "!" => go (joined ++ [.negation word]) false
        | "-not" => go (joined ++ [.negation word]) false
        | "-a" => go [.conjunction word] false
        | "-and" => go [.conjunction word] false
        | "-o" => go [.alternative word] false
        | "-or" => go [.alternative word] false
        | "," => go [.sequence] false
        | word =>
          set { r with rest := rest }
          match ← term word with
          | some q => return joined ++ .query q :: (← terms n (some word) true)
          | none => terms n (some word) joins

/-! ### Joining -/

/-- How tightly terms are joined: anything, sequences, alternatives, conjunctions, negations. -/
def Term.strength : Term → Nat
  | .sequence => 1
  | .alternative _ => 2
  | .conjunction _ => 3
  | .negation _ => 4
  | _ => 0

/-- What a term is called where something is missing after it. -/
def Term.word? : Term → Option String
  | .negation w => some w
  | .conjunction w => some w
  | .alternative w => some w
  | .sequence => some ","
  | _ => none

mutual

/-- The query that begins with some terms, as far as they are joined more tightly than something. Before
    them comes a term. -/
def joined : (fuel : Nat) → (strength : Nat) → (before : Option Term) → List Term → Except String (Query × List Term)
  | 0, _, _, _ => .error "invalid expression"
  | _, _, _, [] => .error "invalid expression"
  | n + 1, strength, before, t :: ts => do
    let (first, rest) ← match t with
      | .query q => pure (q, ts)
      | .negation _ => do
        let (q, rest) ← joined n 4 (some t) ts
        pure (Query.not q, rest)
      | .opening given word =>
        match ts with
        | [] => throw ("invalid expression; expected to find a ')' but didn't see one. " ++
            "Perhaps you need an extra predicate after '" ++ word ++ "'")
        | .closing false :: _ => throw ("invalid expression; expected to find a ')' but didn't see one. " ++
            "Perhaps you need an extra predicate after '" ++ word ++ "'")
        | .closing true :: _ =>
          if given then throw "invalid expression; empty parentheses are not allowed."
          else throw "invalid expression; you have too many ')'"
        | ts => do
          let (q, rest) ← joined n 0 (some t) ts
          match rest with
          | .closing _ :: rest => pure (q, rest)
          | _ => throw "invalid expression; I was expecting to find a ')' somewhere but did not see one."
      | .closing given =>
        match before.bind Term.word? with
        | some w =>
          if given then throw ("expected an expression between '" ++ w ++ "' and ')'")
          else throw ("expected an expression after '" ++ w ++ "'")
        | none => throw "invalid expression; you have too many ')'"
      | t => throw ("invalid expression; you have used a binary operator '" ++ (t.word?).getD "" ++
          "' with nothing before it.")
    continued n strength first rest

/-- Goes on after a query as long as terms are joined more tightly than something. -/
def continued : (fuel : Nat) → (strength : Nat) → Query → List Term → Except String (Query × List Term)
  | 0, _, _, _ => .error "invalid expression"
  | _, _, q, [] => .ok (q, [])
  | n + 1, strength, q, t :: ts =>
    let join (f : Query → Query → Query) (own : Nat) : Except String (Query × List Term) :=
      if strength < own then do
        let (p, rest) ← joined n own (some t) ts
        continued n strength (f q p) rest
      else .ok (q, t :: ts)
    match t with
    | .sequence => join .next 1
    | .alternative _ => join .or 2
    | .conjunction _ => join .and 3
    | _ => .ok (q, t :: ts)

end

/-- The query of terms. If nothing is done with files, they are printed. -/
def ofTerms (acts : Bool) (ts : List Term) : Except String Query := do
  if ts.isEmpty then return .print "\n" none
  else
    let all : List Term :=
      if acts then ts
      else .opening false "(" :: ts ++ [.closing false, .conjunction "-a", .query (.print "\n" none)]
    let (q, rest) ← joined (4 * all.length + 8) 0 none all
    match rest with
    | [] => return q
    | .closing _ :: _ => throw "you have too many ')'"
    | _ => throw "unexpected extra predicate"

/-- Reads a query. -/
def read (s : State) (zone : Calendar.Zone) (through : Bool) (args : List String) : Except String (Query × Reading) := do
  let (ts, r) ← (terms (args.length + 1) none false).run
    ⟨args, ⟨0, 1000, false, false, through⟩, s, zone, .basic, true, false, 0, [], [], false, false, false⟩
  let q ← ofTerms r.acts ts
  if r.deletes && r.prunes && !r.extent.innerGiven then
    throw ("The -delete action automatically turns on -depth, but -prune does nothing when -depth is in effect.  " ++
      "If you want to carry on anyway, just explicitly use the -depth option.")
  return (q, r)

/-- The programs that are run once for many files. -/
def gathering : Query → List QueryRun
  | .run r => if r.gathers then [r] else []
  | .not q => gathering q
  | .and p q => gathering p ++ gathering q
  | .or p q => gathering p ++ gathering q
  | .next p q => gathering p ++ gathering q
  | _ => []

end Query

end Retrace.Unix
