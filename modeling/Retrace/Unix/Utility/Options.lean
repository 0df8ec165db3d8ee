import Retrace.Unix.Builtin.Basic

/-!
# Options of utilities

A utility is called with a name and arguments. Among the arguments are options:
letters after a dash, several of them in one argument, or words after two
dashes, which may be shortened. A letter can have a value, which follows it or
is the next argument; for some letters only what follows directly is a value.
The other arguments are operands; two dashes alone make operands of all that
follow.
-/

namespace Retrace.Unix

/-- What utilities do, given their name and arguments. The result is the status. -/
abbrev Utility := Engine → String → List String → Sh Nat

/-! ### Options -/

/-- The options a utility has. -/
structure OptionNames where
  /-- The letters without a value. -/
  letters : String := ""
  /-- The letters with a value. -/
  valued : String := ""
  /-- The words, and the letters they stand for. -/
  words : List (String × Char) := []
  /-- The letters whose value may be left out. One that is also among those without a value has
      none as a letter, and may have one as a word. -/
  optional : String := ""
  /-- The letters that only stand for words. -/
  wordly : String := ""

/-- What a utility was called with. -/
structure Options where
  given : List (Char × String)
  operands : List String

namespace Options

/-- Whether an option was given. -/
def has (o : Options) (c : Char) : Bool :=
  o.given.any (·.1 = c)

/-- The last value of an option. -/
def value? (o : Options) (c : Char) : Option String :=
  (o.given.reverse.find? (·.1 = c)).map (·.2)

/-- The last of some letters that was given. -/
def last? (o : Options) (cs : List Char) : Option Char :=
  (o.given.reverse.find? fun g => cs.contains g.1).map (·.1)

/-- Adds options that were given before. -/
def after (o : Options) (given : List (Char × String)) : Options :=
  { o with given := given ++ o.given }

/-- Adds an operand. -/
def withOperand (o : Options) (s : String) : Options :=
  { o with operands := s :: o.operands }

/-- The options in the letters of an argument. The last one may want the next argument for
    its value. -/
def letters (names : OptionNames) : List Char → Except String (List (Char × String) × Option Char)
  | [] => .ok ([], none)
  | c :: cs =>
    if names.wordly.toList.contains c then .error ("invalid option -- '" ++ String.singleton c ++ "'")
    else if names.valued.toList.contains c then
      if cs.isEmpty then .ok ([], some c) else .ok ([(c, String.ofList cs)], none)
    else if names.letters.toList.contains c then
      (letters names cs).map fun (given, wanting) => ((c, "") :: given, wanting)
    else if names.optional.toList.contains c then .ok ([(c, String.ofList cs)], none)
    else .error ("invalid option -- '" ++ String.singleton c ++ "'")

/-- The option a word stands for; it is given as `whole`, with a value perhaps. -/
def word (names : OptionNames) (whole s : String) : Except String (String × Char) :=
  match names.words.filter fun w => w.1 = s with
  | w :: _ => .ok w
  | [] =>
    let candidates := names.words.filter fun w => w.1.startsWith s
    match if (candidates.map (·.2)).eraseDups.length = 1 then candidates.take 1 else candidates with
    | [w] => .ok w
    | [] => .error ("unrecognized option '--" ++ whole ++ "'")
    | ws =>
      .error ("option '--" ++ whole ++ "' is ambiguous; possibilities:" ++
        String.join (ws.map fun w => " '--" ++ w.1 ++ "'"))

/-- Reads the arguments of a utility. With `mixed`, options may follow operands. -/
def read (names : OptionNames) (mixed : Bool) : List String → Except String Options
  | [] => .ok ⟨[], []⟩
  | "--" :: args => .ok ⟨[], args⟩
  | arg :: args =>
    match arg.toList with
    | '-' :: '-' :: cs =>
      let parts := (String.ofList cs).splitOn "="
      let value := "=".intercalate (parts.drop 1)
      match word names (String.ofList cs) (parts.headD "") with
      | .error m => .error m
      | .ok (w, c) =>
        if names.valued.toList.contains c then
          if parts.length > 1 then (read names mixed args).map (·.after [(c, value)])
          else
            match args with
            | v :: args => (read names mixed args).map (·.after [(c, v)])
            | [] => .error ("option '--" ++ w ++ "' requires an argument")
        else if names.optional.toList.contains c then (read names mixed args).map (·.after [(c, value)])
        else if parts.length > 1 then .error ("option '--" ++ w ++ "' doesn't allow an argument")
        else (read names mixed args).map (·.after [(c, "")])
    | '-' :: c :: cs =>
      match letters names (c :: cs) with
      | .error m => .error m
      | .ok (given, none) => (read names mixed args).map (·.after given)
      | .ok (given, some d) =>
        match args with
        | v :: args => (read names mixed args).map (·.after (given ++ [(d, v)]))
        | [] => .error ("option requires an argument -- '" ++ String.singleton d ++ "'")
    | _ =>
      if mixed then (read names mixed args).map (·.withOperand arg) else .ok ⟨[], arg :: args⟩

end Options

namespace Utility

/-- Complains in the name of a utility. -/
def tell (name message : String) : Sh Unit :=
  Sh.report (name ++ ": " ++ message)

/-- Complains, and fails. -/
def fail (name message : String) (status : Nat) : Sh Nat := do
  tell name message
  return status

/-- Complains about how a utility was called. -/
def misused (name message : String) (status : Nat) : Sh Nat := do
  tell name message
  Sh.report ("Try '" ++ name ++ " --help' for more information.")
  return status

/-- A utility that has options, and what it does if they are wrong. -/
def withOptionsOr (complain : String → Sh Nat) (names : OptionNames) (mixed : Bool) (args : List String)
    (f : Options → Sh Nat) : Sh Nat :=
  match Options.read names mixed args with
  | .ok o => f o
  | .error m => complain m

/-- A utility that has options. -/
def withOptions (names : OptionNames) (mixed : Bool) (status : Nat) (name : String)
    (args : List String) (f : Options → Sh Nat) : Sh Nat :=
  withOptionsOr (misused name · status) names mixed args f

/-- Complains about a word that is none of those that an option can have for its value. -/
def invalidChoice (name option value : String) (valid : List String) : Sh Nat := do
  tell name ("invalid argument " ++ Quoting.curly value ++ " for " ++ Quoting.curly option)
  Sh.report "Valid arguments are:"
  Sh.each valid fun v => Sh.report ("  - " ++ Quoting.curly v)
  Sh.report ("Try '" ++ name ++ " --help' for more information.")
  return 1

/-- Complains that there are too many operands. -/
def extraOperand (name operand : String) : Sh Nat :=
  misused name ("extra operand " ++ Quoting.curly operand) 1

/-- Complains that an operand is missing. -/
def missingOperand (name : String) (after? : Option String) : Sh Nat :=
  misused name (match after? with
    | some operand => "missing operand after " ++ Quoting.curly operand
    | none => "missing operand") 1

/-- The number in a text of digits. -/
def natural? (s : String) : Option Nat :=
  if s != "" && s.toList.all Char.isDigit then some (numberOf 10 s.toList) else none

/-- What is said of a number that should not be zero, if it is. -/
def rangeNote (s : String) : String :=
  if (natural? s).isSome then ": Numerical result out of range" else ""

/-- The units after numbers, with the powers they stand for. -/
def unitLetters : List (Char × Nat) :=
  [('k', 1), ('K', 1), ('m', 2), ('M', 2), ('g', 3), ('G', 3), ('t', 4), ('T', 4), ('P', 5), ('E', 6), ('Z', 7),
    ('Y', 8)]

/-- A number with a letter for its unit, which may be a thousand to some power. -/
def amount? (s : String) : Option Nat :=
  let ds := s.toList.takeWhile Char.isDigit
  let n := if ds.isEmpty then 1 else numberOf 10 ds
  match s.toList.drop ds.length with
  | [] => if ds.isEmpty then none else some n
  | ['b'] => some (n * 512)
  | [u] => (unitLetters.lookup u).map fun p => n * Nat.pow 1024 p
  | [u, 'B'] => (unitLetters.lookup u).map fun p => n * Nat.pow 1000 p
  | [u, 'i', 'B'] => (unitLetters.lookup u).map fun p => n * Nat.pow 1024 p
  | _ => none

/-! ### Lines -/

/-- The pieces of a text that are separated by a character; one at the end does not begin another
    piece. -/
def piecesOf (separator : Char) (s : String) : List String :=
  if s = "" then []
  else
    let parts := s.splitOn (String.singleton separator)
    if s.toList.getLast? = some separator then parts.dropLast else parts

/-- The lines of a text, without the ends of lines. -/
def linesOf (s : String) : List String := piecesOf '\n' s

/-- A text of some pieces, each with a character at its end. -/
def joinedBy (separator : Char) (ls : List String) : String :=
  String.join (ls.map (· ++ String.singleton separator))

/-- The pieces of a text, each with the character at its end if it has one. -/
def endedPieces (separator : Char) (s : String) : List String :=
  let parts := s.splitOn (String.singleton separator)
  (parts.dropLast.map (· ++ String.singleton separator)) ++ (parts.getLast?.toList.filter (· != ""))

/-- A text of some lines. -/
def unlines (ls : List String) : String := joinedBy '\n' ls

/-! ### Contents -/

/-- A complaint that begins with the name of a file. -/
def plainComplaint (path reason : String) : String :=
  Quoting.name path ++ ": " ++ reason

/-- The paths that are given, or the input. -/
def orInput (paths : List String) : List String :=
  if paths.isEmpty then ["-"] else paths

/-- What can be read of a file, in whole lines, and whether there may be more of it. -/
def flow (path : String) : Sh (Except Refusal (String × Bool)) := do
  match if path = "-" then some 0 else Sh.streamPath? path with
  | none =>
    match ← Sh.contents path with
    | .ok text => return .ok (text, false)
    | .error r => return .error r
  | some stream =>
    match ← Sh.available stream with
    | .error r => return .error r
    | .ok (rest, more) =>
      let whole := if more && rest.contains '\n' then
          (rest.reverse.dropWhile (· != '\n')).reverse
        else rest
      Sh.consume stream whole.length
      return .ok (String.ofList whole, more)

/-- Does something with the content of each of some files, as far as that is known. -/
def eachFlow (name : String) (paths : List String) (complaint : String → String → String)
    (f : String → String → Sh Nat) : Sh Nat :=
  Sh.worst (orInput paths) fun path => do
    match ← flow path with
    | .ok (text, more) =>
      let status ← f path text
      if more then Sh.wantMore else return status
    | .error r => fail name (complaint path r.reason) 1

/-- Does something with the content of each of some files, or of the input. -/
def eachContent (name : String) (paths : List String) (complaint : String → String → String)
    (f : String → String → Sh Nat) : Sh Nat :=
  Sh.worst (orInput paths) fun path => do
    match ← Sh.contents path with
    | .ok text => f path text
    | .error r => fail name (complaint path r.reason) 1

/-- The contents of files put together; and the status. -/
def allContents (name : String) (paths : List String) (complaint : String → String → String) :
    Sh (String × Nat) := do
  let texts ← Sh.collect (orInput paths) fun path => do
    match ← Sh.contents path with
    | .ok text => return (text, 0)
    | .error r => return ("", ← fail name (complaint path r.reason) 1)
  return (String.join (texts.map (·.1)), (texts.map (·.2)).foldl max 0)

/-- Prints a text, unless that is refused. -/
def put (text : String) : Sh (Except Refusal Unit) :=
  if text = "" then pure (.ok ()) else Sh.write 1 text

/-- Prints into a file. -/
def printInto (name path text : String) (mode : Access) (complaint : String → String → String) : Sh Nat := do
  match ← Sh.openFile path mode with
  | .error r => fail name (complaint path r.reason) 1
  | .ok n =>
    Sh.withStreams do
      Sh.lead 1 (some n)
      Sh.print text
    return 0

/-- Whether the last thing printed was refused, which is complained about. -/
def refusedAtEnd (name : String) (status : Nat) : Sh Nat := do
  match ← Sh.ask (·.refused) with
  | some r =>
    Sh.change fun s => { s with refused := none }
    fail name ("write error: " ++ r.reason) (max status 1)
  | none => return status

end Utility

end Retrace.Unix
