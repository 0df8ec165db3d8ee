import Retrace.Unix.Regular

/-!
# Scripts that edit lines

A script is a list of *steps*, each of which has an *edit* that is made on the
lines its addresses choose. Blocks and jumps say with which step to go on: when
a script has been read as a whole, each of them knows the number of that step.

Scripts are read from several sources, one after the other, and what is begun in
one of them may go on in the next one.
-/

namespace Retrace.Unix

/-- What is searched for: the expression that was used last, or one of its own. -/
inductive Sought where
  | last
  | expression (r : Regular) (m : Regular.Manner)

/-- Which lines are chosen. -/
inductive Address where
  | line (n : Nat)
  /-- A first line, and then one in so many. -/
  | every (first step : Nat)
  | last
  | matching (x : Sought)
  /-- So many lines after the first one that is chosen. -/
  | further (n : Nat)
  /-- The next line whose number is a multiple. -/
  | multiple (n : Nat)

/-- How letters are changed that are put in. -/
inductive Casing where
  | kept | upper | lower
deriving DecidableEq

/-- What is put in place of a match. -/
inductive Replacement where
  | text (cs : List Char)
  | group (n : Nat)
  /-- Letters are changed from here on. -/
  | casing (c : Casing)
  /-- The next letter is changed. -/
  | next (c : Casing)

/-- Putting something in place of matches. -/
structure Substitution where
  sought : Sought
  replacement : List Replacement
  /-- The number of the first match that is replaced. -/
  first : Nat
  /-- Whether those after it are replaced, too. -/
  all : Bool
  printed : Bool
  /-- Whether the result is run, and what that prints put in its place. -/
  executed : Bool
  /-- The file to which the result is written. -/
  file : Option String

/-- When to jump. -/
inductive JumpWhen where
  | always | replaced | notReplaced
deriving DecidableEq

/-- What is done with a line. -/
inductive Edit where
  | block | blockEnd
  | label (name : String)
  | jump (when' : JumpWhen) (label : String)
  | append (text : String) | insert (text : String) | change (text : String)
  /-- Gives up the whole, or only the first line. -/
  | delete | deleteLine
  | print | printLine
  /-- Runs a command, or the line itself. -/
  | execute (command : Option String)
  | fileName
  | number
  | hold (added : Bool) | recall (added : Bool) | exchange
  | list (width : Option Nat)
  | next | joinNext
  | quit (printed : Bool) (status : Nat)
  | readFile (path : String) | readLine (path : String)
  | writeFile (path : String) | writeLine (path : String)
  | substitute (s : Substitution)
  | translate (table : List (Char × Char))
  | clear
  /-- What is known but cannot be done. -/
  | impossible (letter : Char)

/-- A step of a script. -/
structure EditStep where
  start : Option Address
  stop : Option Address
  /-- The lines that are not chosen are meant. -/
  negated : Bool
  edit : Edit
  /-- With which step to go on after a jump, or if a block is passed over. -/
  target : Nat

/-- A script. -/
structure EditScript where
  steps : Array EditStep
  /-- Nothing is printed unless that is asked for. -/
  quiet : Bool

/-- What is wrong with a script. -/
structure EditFault where
  problem : String
  status : Nat

namespace EditScript

/-! ### Reading -/

/-- Where a script comes from: the expressions of a call, or files. -/
inductive Origin where
  | expression (number : Nat)
  | file (path : String)

/-- How scripts are to be read. -/
structure Manner where
  extended : Bool
  /-- Nothing may be run, read or written. -/
  guarded : Bool

/-- How far reading has come. -/
structure Reading where
  origin : Origin
  /-- All of the source, and what is left of it. -/
  whole : Nat
  rest : List Char
  /-- The number of lines that were begun. -/
  line : Nat
  /-- The steps that were read, the last one first. -/
  steps : List EditStep
  /-- Where the blocks began that are open. -/
  blocks : List String
  /-- Whether the text of the last step may go on in the next source. -/
  pending : Bool
  quiet : Bool

/-- The reading of a script. -/
abbrev Parse := StateT Reading (Except EditFault)

/-- Where reading is, for complaints: after so many characters. -/
def placeAt (r : Reading) (characters : Nat) : String :=
  match r.origin with
  | .expression n => "-e expression #" ++ toString n ++ ", char " ++ toString characters ++ ": "
  | .file path => "file " ++ path ++ " line " ++ toString r.line ++ ": "

/-- Complains about what was just read. -/
def refuse {α : Type} (problem : String) : Parse α := do
  let r ← get
  throw ⟨placeAt r (r.whole - r.rest.length) ++ problem, 1⟩

/-- The next character. -/
def next : Parse (Option Char) := do
  let r ← get
  match r.rest with
  | [] => return none
  | c :: cs =>
    set { r with rest := cs, line := if c = '\n' then r.line + 1 else r.line }
    return some c

/-- The next character, which is left where it is. -/
def peek : Parse (Option Char) := do
  return (← get).rest.head?

/-- Sets what is left. No line ends in what was passed over. -/
def leave (rest : List Char) : Parse Unit :=
  modify fun r => { r with rest := rest }

/-- Passes over blanks. -/
def skipBlanks : Parse Unit := do
  leave ((← get).rest.dropWhile isBlank)

/-- The next character that is no blank. -/
def nonblank : Parse (Option Char) := do
  skipBlanks
  next

/-- A number, which is zero if there are no digits. -/
def number : Parse Nat := do
  let ds := (← get).rest.takeWhile Char.isDigit
  leave ((← get).rest.drop ds.length)
  return numberOf 10 ds

/-! ### Characters that are written otherwise -/

/-- The character that is written by a letter after a backslash, and what is left. -/
def coded? (letter : Char) (rest : List Char) : Option (Char × List Char) :=
  let digits (base most : Nat) : Option (Char × List Char) :=
    let ds := (rest.take most).takeWhile fun d => (digitValue? base d).isSome
    if ds.isEmpty then none else some (Char.ofNat (numberOf base ds % 256), rest.drop ds.length)
  match letter with
  | 'a' => some ('\x07', rest)
  | 'f' => some ('\x0c', rest)
  | 'n' => some ('\n', rest)
  | 'r' => some ('\r', rest)
  | 't' => some ('\t', rest)
  | 'v' => some ('\x0b', rest)
  | 'd' => digits 10 3
  | 'o' => digits 8 3
  | 'x' => digits 16 2
  | 'c' =>
    match rest with
    | c :: rest => some (Char.ofNat (c.toUpper.toNat ^^^ 64), rest)
    | [] => none
  | _ => none

/-- An expression in which characters stand for themselves that were written otherwise. -/
def plainExpression : (length : Nat) → List Char → List Char
  | 0, _ => []
  | _, [] => []
  | n + 1, '\\' :: c :: cs =>
    match coded? c cs with
    | some (d, rest) => d :: plainExpression n rest
    | none => '\\' :: c :: plainExpression n cs
  | n + 1, c :: cs => c :: plainExpression n cs

/-! ### Texts between delimiters -/

/-- Where one is in an expression: outside of sets; in one, whose next character may stand for itself;
    in the name of a class. -/
inductive Inside where
  | nothing
  | set (fresh : Bool)
  | named (sign : Char)
deriving DecidableEq

/-- What comes before a delimiter, and what comes after it. A delimiter that is preceded by a backslash
    or is in a set does not count. -/
def delimited? (expression : Bool) (d : Char) : Inside → List Char → Option (List Char × List Char)
  | _, [] => none
  | _, '\n' :: _ => none
  | i, '\\' :: c :: cs =>
    if i = .nothing && d = '\\' then some ([], c :: cs)
    else
    let i : Inside := match i with
      | .set _ => .set false
      | i => i
    if c = '\n' then (delimited? expression d i cs).map fun (a, rest) => ('\n' :: a, rest)
    else if c = d && (expression || c != '&') then
      (delimited? expression d i cs).map fun (a, rest) => (c :: a, rest)
    else if c = ']' && i matches .set _ then
      (delimited? expression d .nothing cs).map fun (a, rest) => ('\\' :: c :: a, rest)
    else (delimited? expression d i cs).map fun (a, rest) => ('\\' :: c :: a, rest)
  | i, c :: cs =>
    if i = .nothing && c = d then some ([], cs)
    else
      let j : Inside := match i with
        | .nothing => if expression && c = '[' then .set true else .nothing
        | .set true => if c = '^' then .set true else .set false
        | .set false =>
          if c = ']' then .nothing
          else if c = '[' && (cs.head?.any fun s => s = ':' || s = '.' || s = '=') then .named (cs.headD ' ')
          else .set false
        | .named sign => if c = sign && cs.head? = some ']' then .set true else .named sign
      (delimited? expression d j cs).map fun (a, rest) => (c :: a, rest)

/-- Reads up to a delimiter. -/
def upTo (expression : Bool) (d : Char) (problem : String) : Parse (List Char) := do
  match delimited? expression d .nothing (← get).rest with
  | some (cs, rest) =>
    modify fun r => { r with rest := rest, line := r.line + cs.count '\n' }
    return cs
  | none =>
    -- all of the line was looked at
    let (skipped, _) := (← get).rest.foldl (fun (acc : Nat × Option Bool) c =>
      match acc.2 with
      | none => acc
      | some escaped =>
        if c = '\n' && !escaped then (acc.1, none) else (acc.1 + 1, some (c = '\\' && !escaped))) (0, some false)
    leave ((← get).rest.drop skipped)
    refuse problem

/-- An expression in which the end of a line is neither any character nor one that is not in a set. -/
def withinLines : Regular → Regular
  | .any => .among true [.range '\n' '\n']
  | .among true members => .among true (.range '\n' '\n' :: members)
  | .group n r => .group n (withinLines r)
  | .sequence a b => .sequence (withinLines a) (withinLines b)
  | .either a b => .either (withinLines a) (withinLines b)
  | .repetition r least most reluctant => .repetition (withinLines r) least most reluctant
  | r => r

/-- Whether the name of a class is written where there is no set. -/
def isBareClass (cs : List Char) : Bool :=
  let rec go : (previous : Char) → List Char → Bool
    | previous, '[' :: ':' :: cs =>
      let name := cs.takeWhile Char.isAlpha
      (previous != '[' && !name.isEmpty && (cs.drop name.length).take 2 = [':', ']']) || go ':' cs
    | _, c :: cs => go c cs
    | _, [] => false
  go ' ' cs

/-- What an expression searches for; an empty one is the one that was used last. -/
def sought (m : Manner) (cs : List Char) (folded lines : Bool) : Parse Sought := do
  if cs.isEmpty then
    if folded || lines then refuse "cannot specify modifiers on empty regexp"
    else return .last
  else if isBareClass cs then throw ⟨"character class syntax is [[:space:]], not [:space:]", 4⟩
  else
    let source := plainExpression cs.length cs
    match Regular.read ⟨m.extended, false, false, !m.extended⟩ (String.ofList source) with
    | .ok r => return .expression (if lines then withinLines r else r) ⟨folded, lines, false⟩
    | .error problem => refuse problem

/-! ### Addresses -/

/-- The letters after the expression of an address: whether capitals matter not, and whether lines are
    looked at. -/
def modifiers : (length : Nat) → (folded lines : Bool) → Parse (Bool × Bool)
  | 0, folded, lines => return (folded, lines)
  | n + 1, folded, lines => do
    skipBlanks
    match ← peek with
    | some 'I' =>
      let _ ← next
      modifiers n true lines
    | some 'M' =>
      let _ ← next
      modifiers n folded true
    | _ => return (folded, lines)

/-- An address, if there is one. -/
def address (m : Manner) : Parse (Option Address) := do
  let matching (d : Char) : Parse (Option Address) := do
    let cs ← upTo true d "unterminated address regex"
    let (folded, lines) ← modifiers ((← get).rest.length + 1) false false
    return some (.matching (← sought m cs folded lines))
  match ← peek with
  | some '/' =>
    let _ ← next
    matching '/'
  | some '\\' =>
    let _ ← next
    match ← next with
    | some d => matching d
    | none => refuse "unterminated address regex"
  | some '$' =>
    let _ ← next
    return some .last
  | some '+' =>
    let _ ← nonblankAfter
    return some (.further (← number))
  | some '~' =>
    let _ ← nonblankAfter
    return some (.multiple (← number))
  | some c =>
    if c.isDigit then
      let first ← number
      skipBlanks
      if (← peek) = some '~' then
        let _ ← nonblankAfter
        let step ← number
        return some (if step = 0 then .line first else .every first step)
      else return some (.line first)
    else return none
  | none => return none
where
  /-- Passes over a character and the blanks after it. -/
  nonblankAfter : Parse Unit := do
    let _ ← next
    skipBlanks

/-! ### Edits -/

/-- The end of a step. -/
def finish : Parse Unit := do
  skipBlanks
  match ← peek with
  | none => return
  | some c =>
    if c = closeBrace || c = '#' then return
    else
      let _ ← next
      if c = '\n' || c = ';' then return else refuse "extra characters after command"

/-- The name of a label. -/
def labelName : Parse String := do
  skipBlanks
  let cs := (← get).rest.takeWhile fun c => !isBlank c && c != '\n' && c != ';' && c != closeBrace
  leave ((← get).rest.drop cs.length)
  return String.ofList cs

/-- The name of a file, which goes to the end of the line. -/
def filePath (m : Manner) : Parse String := do
  if m.guarded then refuse "e/r/w commands disabled in sandbox mode"
  skipBlanks
  let cs := (← get).rest.takeWhile (· != '\n')
  leave ((← get).rest.drop cs.length)
  let _ ← next
  if cs.isEmpty then refuse "missing filename in r/R/w/W commands"
  return String.ofList cs

/-- The lines of a text, up to one that is not continued; whether the text may go on in the next
    source; and what is left. -/
def textLines : (length : Nat) → List Char → List Char × Bool × List Char
  | 0, _ => ([], false, [])
  | _ + 1, [] => (['\n'], false, [])
  | _ + 1, ['\\'] => (['\n'], true, [])
  | n + 1, '\\' :: c :: cs =>
    let (d, rest) := (coded? c cs).getD (c, cs)
    let (text, pending, rest) := textLines n rest
    (d :: text, pending, rest)
  | _ + 1, '\n' :: cs => (['\n'], false, cs)
  | n + 1, c :: cs =>
    let (text, pending, rest) := textLines n cs
    (c :: text, pending, rest)

/-- Reads the lines of a text. -/
def takeText : Parse String := do
  let r ← get
  let (text, pending, rest) := textLines (r.rest.length + 1) r.rest
  let read := r.rest.take (r.rest.length - rest.length)
  set { r with rest := rest, pending := pending, line := r.line + read.count '\n' }
  return String.ofList text

/-- The text that is put before, after or in place of a line. -/
def lineText : Parse String := do
  skipBlanks
  match (← get).rest with
  | [] => refuse "expected \\ after \x60a', \x60c' or \x60i'"
  | '\\' :: cs =>
    match cs.dropWhile isBlank with
    | '\n' :: more =>
      modify fun r => { r with rest := more, line := r.line + 1 }
      takeText
    | [] =>
      modify fun r => { r with rest := [], pending := true }
      return ""
    | _ =>
      leave cs
      takeText
  | _ => takeText

/-- The flags of a substitution. -/
structure Flags where
  all : Bool
  printed : Bool
  executed : Bool
  folded : Bool
  lines : Bool
  first : Option Nat
  file : Option String

/-- Reads the flags of a substitution, up to its end. -/
def flags (m : Manner) : (length : Nat) → Flags → Parse Flags
  | 0, f => return f
  | n + 1, f => do
    match ← peek with
    | none => return f
    | some c =>
      if c = closeBrace || c = '#' then return f
      else if c.isDigit then
        if f.first.isSome then
          let _ ← next
          refuse "multiple number options to \x60s' command"
        let k ← number
        if k = 0 then refuse "number option to \x60s' command may not be zero"
        flags m n { f with first := some k }
      else
        let _ ← next
        match c with
        | '\n' => return f
        | ';' => return f
        | 'g' =>
          if f.all then refuse "multiple \x60g' options to \x60s' command"
          else flags m n { f with all := true }
        | 'p' =>
          if f.printed then refuse "multiple \x60p' options to \x60s' command"
          else flags m n { f with printed := true }
        | 'i' => flags m n { f with folded := true }
        | 'I' => flags m n { f with folded := true }
        | 'm' => flags m n { f with lines := true }
        | 'M' => flags m n { f with lines := true }
        | 'e' =>
          if m.guarded then refuse "e/r/w commands disabled in sandbox mode"
          else flags m n { f with executed := true }
        | 'w' => return { f with file := some (← filePath m) }
        | c => if isBlank c then flags m n f else refuse "unknown option to \x60s'"

/-- What a text says is to be put in place of a match. -/
def replacements : (length : Nat) → (text : List Char) → List Char → List Replacement
  | 0, text, _ => [.text (Multibyte.characters text.reverse)]
  | _ + 1, text, [] => [.text (Multibyte.characters text.reverse)]
  | n + 1, text, '\\' :: c :: cs =>
    let ended (r : Replacement) : List Replacement :=
      .text (Multibyte.characters text.reverse) :: r :: replacements n [] cs
    if c.isDigit then ended (.group (c.toNat - '0'.toNat))
    else match c with
      | 'U' => ended (.casing .upper)
      | 'L' => ended (.casing .lower)
      | 'E' => ended (.casing .kept)
      | 'u' => ended (.next .upper)
      | 'l' => ended (.next .lower)
      | c =>
        match coded? c cs with
        | some (d, rest) => replacements n (d :: text) rest
        | none => replacements n (c :: text) cs
  | n + 1, text, '&' :: cs =>
    .text (Multibyte.characters text.reverse) :: .group 0 :: replacements n [] cs
  | n + 1, text, c :: cs => replacements n (c :: text) cs

/-- Reads a substitution. -/
def substitution (m : Manner) : Parse Edit := do
  let unterminated := "unterminated \x60s' command"
  match ← next with
  | none => refuse unterminated
  | some d =>
    let expression ← upTo true d unterminated
    let by' ← upTo false d unterminated
    let f ← flags m ((← get).rest.length + 1) ⟨false, false, false, false, false, none, none⟩
    let parts := replacements (by'.length + 1) [] by'
    let sought ← sought m expression f.folded f.lines
    let most := parts.foldl (fun n p =>
      match p with
      | .group k => max n k
      | _ => n) 0
    if let .expression r _ := sought then
      if Regular.groupCount r < most then
        refuse ("invalid reference \\" ++ toString most ++ " on \x60s' command's RHS")
    return .substitute ⟨sought, parts, f.first.getD 1, f.all, f.printed, f.executed, f.file⟩

/-- The characters of a list in which some are written otherwise. -/
def listed : (length : Nat) → List Char → List Char
  | 0, _ => []
  | _, [] => []
  | n + 1, '\\' :: c :: cs =>
    let (d, rest) := (coded? c cs).getD (c, cs)
    d :: listed n rest
  | n + 1, c :: cs => c :: listed n cs

/-- Reads the replacement of characters by others. -/
def translation : Parse Edit := do
  let unterminated := "unterminated \x60y' command"
  match ← next with
  | none => refuse unterminated
  | some d =>
    let old ← upTo false d unterminated
    let new ← upTo false d unterminated
    let characters (cs : List Char) : List Char := Multibyte.characters (listed cs.length cs)
    let (old, new) := (characters old, characters new)
    if old.length != new.length then refuse "strings for \x60y' command are different lengths"
    finish
    return .translate (old.zip new)

/-- The number of a version that is asked for, with those that are there before it. -/
def isKnownVersion (version : String) : Bool :=
  let ns := (version.splitOn ".").map fun n => n.toNat?.getD 0
  let rec before : List Nat → List Nat → Bool
    | a :: as, b :: bs => a < b || (a = b && before as bs)
    | [], _ => true
    | as, [] => as.all (· = 0)
  before ns [4, 9]

/-- Reads an edit, which is named by a letter. The number of addresses it has is given. -/
def edit (m : Manner) (addresses : Nat) (letter : Option Char) : Parse (Option Edit) := do
  let simple (e : Edit) : Parse (Option Edit) := do
    finish
    return some e
  let counted (e : Option Nat → Edit) : Parse (Option Edit) := do
    skipBlanks
    let n ← if (← peek).any Char.isDigit then do pure (some (← number)) else pure none
    finish
    return some (e n)
  match letter with
  | none => refuse "missing command"
  | some c =>
    match c with
    | '#' =>
      if 0 < addresses then refuse "comments don't accept any addresses"
      let r ← get
      let cs := r.rest.takeWhile (· != '\n')
      if r.origin matches .expression 1 | .file _ then
        if r.whole - r.rest.length = 1 && r.steps.isEmpty && cs = ['n'] then modify fun r => { r with quiet := true }
      leave (r.rest.drop cs.length)
      let _ ← next
      return none
    | ':' =>
      if 0 < addresses then refuse ": doesn't want any addresses"
      let name ← labelName
      if name = "" then refuse "\":\" lacks a label"
      return some (.label name)
    | '\x7b' =>
      modify fun r => { r with blocks := placeAt r 0 :: r.blocks }
      return some .block
    | '\x7d' =>
      match (← get).blocks with
      | [] => refuse "unexpected \x60\x7d'"
      | _ :: blocks =>
        if 0 < addresses then refuse "\x60\x7d' doesn't want any addresses"
        modify fun r => { r with blocks := blocks }
        simple .blockEnd
    | '=' => simple .number
    | 'a' => return some (.append (← lineText))
    | 'i' => return some (.insert (← lineText))
    | 'c' => return some (.change (← lineText))
    | 'b' => return some (.jump .always (← labelName))
    | 't' => return some (.jump .replaced (← labelName))
    | 'T' => return some (.jump .notReplaced (← labelName))
    | 'd' => simple .delete
    | 'D' => simple .deleteLine
    | 'e' =>
      if m.guarded then refuse "e/r/w commands disabled in sandbox mode"
      skipBlanks
      match ← peek with
      | none => return some (.execute none)
      | some '\n' =>
        let _ ← next
        return some (.execute none)
      | _ => return some (.execute (some (← takeText)))
    | 'F' => simple .fileName
    | 'g' => simple (.recall false)
    | 'G' => simple (.recall true)
    | 'h' => simple (.hold false)
    | 'H' => simple (.hold true)
    | 'l' => counted .list
    | 'L' => counted fun _ => .impossible 'L'
    | 'n' => simple .next
    | 'N' => simple .joinNext
    | 'p' => simple .print
    | 'P' => simple .printLine
    | 'q' =>
      if addresses = 2 then refuse "command only uses one address"
      counted fun n => .quit true (n.getD 0)
    | 'Q' =>
      if addresses = 2 then refuse "command only uses one address"
      counted fun n => .quit false (n.getD 0)
    | 'r' => return some (.readFile (← filePath m))
    | 'R' => return some (.readLine (← filePath m))
    | 's' => return some (← substitution m)
    | 'v' =>
      let version ← labelName
      if !isKnownVersion version then refuse "expected newer version of sed"
      return none
    | 'w' => return some (.writeFile (← filePath m))
    | 'W' => return some (.writeLine (← filePath m))
    | 'x' => simple .exchange
    | 'y' => return some (← translation)
    | 'z' => simple .clear
    | c => refuse ("unknown command: \x60" ++ String.singleton c ++ "'")

/-- The first address of a step, and the second one. -/
def addresses (m : Manner) : Parse (Option Address × Option Address) := do
  match ← address m with
  | none => return (none, none)
  | some a =>
    if a matches .further _ | .multiple _ then refuse "invalid usage of +N or ~N as first address"
    skipBlanks
    if (← peek) = some ',' then
      let _ ← next
      skipBlanks
      match ← address m with
      | none =>
        let _ ← next
        refuse "unexpected \x60,'"
      | some b => return (some a, some b)
    else return (some a, none)

/-- Reads the steps of a source. -/
def readSteps (m : Manner) : (length : Nat) → Parse Unit
  | 0 => return
  | n + 1 => do
    match ← peek with
    | none => return
    | some c =>
      if c = ';' || c = '\n' || isBlank c || c = '\r' || c = '\x0c' || c = '\x0b' then
        let _ ← next
        readSteps m n
      else
        let (start, stop) ← addresses m
        let letter ← nonblank
        let beginsBefore := match start with
          | some (.line 0) => !(stop matches some (.matching _))
          | _ => false
        if beginsBefore then refuse "invalid usage of line address 0"
        let negated := letter = some '!'
        let letter ← if negated then nonblank else pure letter
        if negated && letter = some '!' then refuse "multiple \x60!'s"
        let count := (if start.isSome then 1 else 0) + if stop.isSome then 1 else 0
        match ← edit m count letter with
        | some e => modify fun r => { r with steps := ⟨start, stop, negated, e, 0⟩ :: r.steps }
        | none => pure ()
        readSteps m n

/-- Adds to the text of an edit. -/
def continued (text : String) : Edit → Edit
  | .append t => .append (t ++ text)
  | .insert t => .insert (t ++ text)
  | .change t => .change (t ++ text)
  | .execute c => .execute (c.map (· ++ text))
  | e => e

/-- Reads a source after those that were read before. -/
def readSource (m : Manner) (origin : Origin) (text : String) : Parse Unit := do
  let cs := text.toList
  modify fun r => { r with origin := origin, whole := cs.length, rest := cs, line := 1 }
  if (← get).pending then
    let more ← takeText
    modify fun r =>
      match r.steps with
      | s :: steps => { r with steps := { s with edit := continued more s.edit } :: steps }
      | [] => r
  readSteps m (cs.length + 1)

/-- The number of the step after the end of the block that contains the steps from `k` on. -/
def blockEnd (steps : Array EditStep) : (length depth k : Nat) → Nat
  | 0, _, k => k
  | n + 1, depth, k =>
    match steps[k]? with
    | some s =>
      match s.edit with
      | .blockEnd => if depth = 0 then k + 1 else blockEnd steps n (depth - 1) (k + 1)
      | .block => blockEnd steps n (depth + 1) (k + 1)
      | _ => blockEnd steps n depth (k + 1)
    | none => k

/-- The number of the step with a label. -/
def labelled? (steps : Array EditStep) (name : String) : Option Nat :=
  steps.findIdx? fun s => match s.edit with
    | .label l => l = name
    | _ => false

/-- A step that knows with which step to go on. -/
def aimed (steps : Array EditStep) (k : Nat) (s : EditStep) : Except EditFault EditStep :=
  match s.edit with
  | .block => .ok { s with target := blockEnd steps steps.size 0 (k + 1) }
  | .jump _ "" => .ok { s with target := steps.size }
  | .jump _ label =>
    match labelled? steps label with
    | some n => .ok { s with target := n }
    | none => .error ⟨"can't find label for jump to \x60" ++ label ++ "'", 4⟩
  | _ => .ok s

/-- The script that was read. -/
def ended (r : Reading) : Except EditFault EditScript := do
  match r.blocks with
  | place :: _ => throw ⟨place ++ "unmatched \x60\x7b'", 1⟩
  | [] =>
    let steps := r.steps.reverse.toArray
    let steps ← (steps.toList.zipIdx).mapM fun (s, k) => aimed steps k s
    return ⟨steps.toArray, r.quiet⟩

/-- Nothing read yet. -/
def Reading.nothing : Reading := ⟨.expression 1, 0, [], 1, [], [], false, false⟩

/-- The script that some sources make. -/
def read (m : Manner) (sources : List (Origin × String)) : Except EditFault EditScript := do
  let (_, r) ← (sources.forM fun (origin, text) => readSource m origin text).run Reading.nothing
  ended r

end EditScript

end Retrace.Unix
