import Retrace.Unix.Characters
import Retrace.Unix.Script

/-!
# Reading scripts

A script is read command by command, as much of it at a time as stands on one
line or belongs to a command begun there, so that what precedes a fault has
been run when the fault is met.

There are two dialects. The *extended* one knows more of quoting, of
parameters and of redirections, and tests and formulas as commands.

What can contain itself, words and lists of commands, is read by a `Grammar`,
which `grammar` ties to itself; the number it is given bounds how deeply a
script is nested.
-/

namespace Retrace.Unix

/-! ### The reader -/

/-- Why a script could not be read on. -/
inductive Fault where
  /-- Something stands where it cannot, while something else was expected. -/
  | unexpected (token : String) (line : Nat) (expected : Option String)
  /-- The script ends inside a command. -/
  | ended (line : Nat) (expected : Option String)
  /-- The script ends inside what a mark closes. -/
  | unmatched (mark : String) (line : Nat)
  /-- Something else is wrong, near a token. -/
  | malformed (problem token : String) (line : Nat)
  /-- Something is wrong in a list that is given to a parameter. Reading goes on with what is left after
      the line, whose number is given. -/
  | inList (f : Fault) (rest : List Char) (line : Nat)

/-- Where a fault is, if the script does not end there. -/
def Fault.line? : Fault → Option Nat
  | .unexpected _ line _ => some line
  | .malformed _ _ line => some line
  | _ => none

/-- A here-document that is to be read after the line it is named in. -/
structure Awaited where
  number : Nat
  /-- The line it is named in. -/
  line : Nat
  delimiter : String
  literal : Bool
  /-- Whether tabs at the beginning of its lines are left out. -/
  indented : Bool

/-- A name that was replaced by the text it is an alias for. -/
structure Replaced where
  name : String
  /-- How much was left of the script after it. -/
  remaining : Nat
  /-- Whether the word after it may be replaced too. -/
  chained : Bool

/-- What is left of a script, and what was seen of it. -/
structure Source where
  rest : List Char
  line : Nat
  extended : Bool
  /-- Whether patterns may contain lists of patterns. -/
  patterns : Bool
  /-- What names at the beginning of commands stand for. -/
  aliases : List (String × String)
  replaced : List Replaced
  awaited : List Awaited
  /-- The here-documents that were read, by their numbers. -/
  documents : List (Nat × Spelled)
  nextDocument : Nat
  /-- What there is to complain about although it can be read, with the lines it is at. -/
  warnings : List (Nat × String)

/-- The reading of a part of a script. -/
abbrev Read (α : Type) := StateT Source (Except Fault) α

/-- What can contain itself. -/
structure Grammar where
  /-- The rest of what stands between double quotes. -/
  doubled : Read Word
  /-- What follows a dollar sign. -/
  dollar : (quoted : Bool) → Read Word
  /-- Commands, up to something that closes them. -/
  list : Read (List Command)

namespace Read

/-- Ends the reading with a fault. -/
def fault {α : Type} (f : Fault) : Read α :=
  throw f

/-- The next character. -/
def peek : Read (Option Char) := do
  return (← get).rest.head?

/-- Whether a text comes next. -/
def isNext (s : String) : Read Bool := do
  return s.toList.isPrefixOf (← get).rest

/-- Passes over some characters. -/
def skip (n : Nat) : Read Unit :=
  modify fun s => { s with
    rest := s.rest.drop n
    line := s.line + ((s.rest.take n).filter (· = '\n')).length }

/-- Passes over a text if it comes next. -/
def accept (s : String) : Read Bool := do
  if ← isNext s then
    skip s.length
    return true
  else return false

/-- Passes over a text if it comes next and a condition holds. -/
def acceptIf (condition : Bool) (s : String) : Read Bool :=
  if condition then accept s else return false

/-- Passes over the characters that belong to a class. -/
def takeWhile (p : Char → Bool) : Read String := do
  let cs := (← get).rest.takeWhile p
  skip cs.length
  return String.ofList cs

/-- Repeats a step until there is nothing more, at most the given number of times. -/
def collectAtMost {α : Type} (step : Read (Option α)) : Nat → Read (List α)
  | 0 => return []
  | n + 1 => do
    match ← step with
    | some a => return a :: (← collectAtMost step n)
    | none => return []

/-- Repeats a step until there is nothing more. Every step but the last one takes
    at least one character. -/
def collect {α : Type} (step : Read (Option α)) : Read (List α) := do
  collectAtMost step ((← get).rest.length + 1)

/-- The characters before the next blank or other character that ends a word. -/
def upcoming : Read String := do
  return String.ofList ((← get).rest.takeWhile fun c => !endsWord c)

/-- What is left of some characters after the blanks and comments at the beginning. -/
def afterBlanks : (atStart : Bool) → List Char → List Char
  | _, [] => []
  | true, '#' :: cs => afterComment cs
  | _, '\\' :: '\n' :: cs => afterBlanks true cs
  | atStart, c :: cs => if isBlank c then afterBlanks true cs else if atStart then c :: cs else c :: cs
where
  /-- What is left after a comment. -/
  afterComment : List Char → List Char
    | [] => []
    | '\n' :: cs => '\n' :: cs
    | _ :: cs => afterComment cs

/-- Passes over blanks and comments. -/
def blanks : Read Unit := do
  let rest := (← get).rest
  skip (rest.length - (afterBlanks true rest).length)

/-- Turns back if the reading fails. -/
def attempt {α : Type} (x : Read α) : Read (Option α) := fun s =>
  match x s with
  | .ok (a, s) => .ok (some a, s)
  | .error _ => .ok (none, s)

/-- The operator that comes next. -/
def operator? : Read (Option String) := do
  let extended := (← get).extended
  let candidates := (if extended then ["<<<", "&>>", "&>", "|&", ";;&", ";&"] else []) ++
    ["<<-", "<<", "<&", "<>", "<", ">>", ">&", ">|", ">", "&&", "||", ";;", ";", "&", "|", "(", ")"]
  for s in candidates do
    if ← isNext s then return some s
  return none

/-- Complains about what comes next. -/
def unexpected {α : Type} (expected : Option String) : Read α := do
  let s ← get
  match s.rest with
  | [] => fault (.ended s.line expected)
  | '\n' :: _ => fault (.unexpected "newline" s.line expected)
  | _ =>
    match ← operator? with
    | some op => fault (.unexpected op s.line expected)
    | none => fault (.unexpected (← upcoming) s.line expected)

/-- Complains that a word is missing. A script is as good as ended by a newline in the
    extended dialect. -/
def missingWord {α : Type} : Read α := do
  let s ← get
  if s.extended && s.rest.isEmpty then fault (.unexpected "newline" s.line none) else unexpected none

/-- What is read, beside the text it was read from. -/
def written {α : Type} (x : Read α) : Read (Written α) := do
  let before := (← get).rest
  let a ← x
  return ⟨String.ofList (before.take (before.length - (← get).rest.length)), a⟩

/-- Whether the commands between parentheses come next whose output is used as a file, or
    that use a file as their input. -/
def isProcess : Read Bool := do
  if (← get).extended then return (← isNext "<(") || (← isNext ">(") else return false

/-- Whether a word comes next. -/
def isWord : Read Bool := do
  match ← peek with
  | some c => if endsWord c then isProcess else return true
  | none => return false

/-- The parts of a word with texts of one kind joined. -/
def join : Word → Word
  | .text s q :: ps =>
    match join ps with
    | .text t r :: rest => if q == r then .text (s ++ t) q :: rest else .text s q :: .text t r :: rest
    | rest => .text s q :: rest
  | p :: ps => p :: join ps
  | [] => []

/-! ### Quotes -/

/-- What stands between single quotes, after the first one. -/
def single : Read String := do
  let start := (← get).line
  let s ← takeWhile (· != '\'')
  if ← accept "'" then return s else fault (.unmatched "'" start)

/-- What stands between quotes in which letters after a backslash have a meaning,
    up to the closing quote; and what is left. -/
def ansi : (length : Nat) → List Char → List Char × Option (List Char)
  | 0, cs => ([], some cs)
  | _ + 1, [] => ([], none)
  | _ + 1, '\'' :: cs => ([], some cs)
  | n + 1, '\\' :: c :: cs =>
    let one (d : Char) := ([d], cs)
    let digits (base most : Nat) (cs : List Char) (other : List Char) :=
      let ds := (cs.take most).takeWhile fun c => (digitValue? base c).isSome
      if ds.isEmpty then (other, cs)
      else ([Char.ofNat (numberOf base ds % 256)], cs.drop ds.length)
    let code (most : Nat) (cs : List Char) (other : List Char) :=
      let ds := (cs.take most).takeWhile fun c => (digitValue? 16 c).isSome
      if ds.isEmpty then (other, cs) else (encoded (numberOf 16 ds), cs.drop ds.length)
    let (read, cs) := match c with
      | 'n' => one '\n'
      | 't' => one '\t'
      | 'r' => one '\r'
      | 'a' => one '\x07'
      | 'b' => one '\x08'
      | 'e' => one '\x1b'
      | 'E' => one '\x1b'
      | 'f' => one '\x0c'
      | 'v' => one '\x0b'
      | '\\' => one '\\'
      | '\'' => one '\''
      | '"' => one '"'
      | '?' => one '?'
      | 'x' => digits 16 2 cs ['\\', 'x']
      | 'u' => code 4 cs ['\\', 'u']
      | 'U' => code 8 cs ['\\', 'U']
      | 'c' =>
        match cs with
        | d :: cs => ([Char.ofNat (d.toUpper.toNat ^^^ 64)], cs)
        | [] => (['\\', 'c'], cs)
      | c => if (digitValue? 8 c).isSome then digits 8 3 (c :: cs) [] else (['\\', c], cs)
    let (more, rest) := ansi n cs
    (read ++ more, rest)
  | n + 1, c :: cs =>
    let (more, rest) := ansi n cs
    (c :: more, rest)

/-- Reads quotes in which letters after a backslash have a meaning. -/
def ansiQuoted : Read Word := do
  let s ← get
  match ansi (s.rest.length + 1) s.rest with
  | (cs, some rest) =>
    skip (s.rest.length - rest.length)
    return [.text (String.ofList (cs.takeWhile (· != '\x00'))) true]
  | (_, none) => fault (.unmatched "'" s.line)

/-- The commands between backquotes, whose characters are given. -/
def quotedCommands (g : Grammar) (cs : List Char) : Read (List Command) := do
  let outer ← get
  set { outer with rest := cs, awaited := [] }
  let body ← g.list
  if (← peek).isSome then unexpected none
  else
    modify fun s => { s with rest := outer.rest, line := outer.line, awaited := outer.awaited }
    return body

/-- The characters up to a backquote; those that a backslash protects there lose it.
    Also how many characters there were. -/
def upToBackquote (quoted : Bool) : (length : Nat) → List Char → Option (List Char × Nat)
  | 0, _ => none
  | _ + 1, [] => none
  | n + 1, '\\' :: c :: cs =>
    (upToBackquote quoted n cs).map fun (rest, k) =>
      if c = backquote || c = '\\' || c = '$' || (quoted && c = '"') then (c :: rest, k + 2)
      else ('\\' :: c :: rest, k + 2)
  | n + 1, c :: cs =>
    if c = backquote then some ([], 1)
    else (upToBackquote quoted n cs).map fun (rest, k) => (c :: rest, k + 1)

/-- The output of the commands between backquotes, after the first one. -/
def backquoted (g : Grammar) (quoted : Bool) : Read Word := do
  let s ← get
  match upToBackquote quoted (s.rest.length + 1) s.rest with
  | some (cs, k) =>
    skip k
    let body ← quotedCommands g cs
    return [.output body quoted]
  | none => fault (.unmatched (String.singleton backquote) s.line)

/-- A part of what stands between double quotes, up to a character that closes it. -/
def doubledPart (g : Grammar) (closes : Char → Bool) : Read (Option Word) := do
  match ← peek with
  | none => return none
  | some c =>
    if closes c then return none
    skip 1
    if c = '$' then return some (← g.dollar true)
    if c = backquote then return some (← backquoted g true)
    if c = '\\' then
      match ← peek with
      | some d =>
        if d = '\n' then
          skip 1
          return some []
        if d = '$' || d = backquote || d = '\\' || closes d then
          skip 1
          return some [.text (String.singleton d) true]
        return some [.text "\\" true]
      | none => return some [.text "\\" true]
    return some [.text (String.singleton c) true]

/-- The rest of what stands between double quotes. -/
def doubled (g : Grammar) : Read Word := do
  let start := (← get).line
  let parts ← collect (doubledPart g (· = '"'))
  if ← accept "\"" then return .text "" true :: join parts.flatten
  else fault (.unmatched "\"" start)

/-! ### Words -/

/-- Commands between parentheses, after a sign. -/
def process (g : Grammar) : Read Word := do
  let printing ← isNext "<"
  skip 2
  let body ← g.list
  if ← accept ")" then return [.process printing body]
  else if (← peek).isSome then unexpected none
  else fault (.unmatched ")" ((← get).line + 1))

/-- Whether a list of patterns comes next. -/
def isPatternList : Read Bool := do
  let s ← get
  match s.rest with
  | c :: '(' :: _ => return s.patterns && "?*+@!".toList.contains c
  | _ => return false

/-- A part of a list of patterns, with as many parentheses open as given. -/
def patternPart (g : Grammar) (depth : Nat) : Read (Option (Word × Nat)) := do
  match ← peek with
  | none => return none
  | some c =>
    if depth = 0 then return none
    skip 1
    if c = '\\' then
      match ← peek with
      | some '\n' =>
        skip 1
        return some ([], depth)
      | some d =>
        skip 1
        return some ([.text (String.singleton d) true], depth)
      | none => return some ([.text "\\" true], depth)
    if c = '\'' then return some ([.text (← single) true], depth)
    if c = '"' then return some (← g.doubled, depth)
    if c = '$' then return some (← g.dollar false, depth)
    if c = backquote then return some (← backquoted g false, depth)
    let depth := if c = '(' then depth + 1 else if c = ')' then depth - 1 else depth
    return some ([.text (String.singleton c) false], depth)

/-- A list of patterns, after its opening parenthesis, up to the one that closes it. -/
def patternList (g : Grammar) : (most depth : Nat) → Read Word
  | 0, _ => return []
  | n + 1, depth => do
    match ← patternPart g depth with
    | some (w, depth) => return w ++ (← patternList g n depth)
    | none => return []

/-- A part of a word, up to a character that closes it. -/
def wordPart (g : Grammar) (closes : Char → Bool) : Read (Option Word) := do
  match ← peek with
  | none => return none
  | some c =>
    if ← isPatternList then
      let start := (← get).line
      skip 2
      let inner ← patternList g ((← get).rest.length + 1) 1
      match inner.getLast? with
      | some (.text ")" false) => return some (.text (String.ofList [c, '(']) false :: inner)
      | _ => fault (.unmatched ")" start)
    if closes c then
      if (c = '<' || c = '>') && (← isProcess) then return some (← process g) else return none
    skip 1
    if c = '\\' then
      match ← peek with
      | some '\n' =>
        skip 1
        return some []
      | some d =>
        skip 1
        return some [.text (String.singleton d) true]
      | none => return some [.text "\\" true]
    if c = '\'' then return some [.text (← single) true]
    if c = '"' then return some (← g.doubled)
    if c = '$' then return some (← g.dollar false)
    if c = backquote then return some (← backquoted g false)
    return some [.text (String.singleton c) false]

/-- A word up to a character that closes it. -/
def wordUpTo (g : Grammar) (closes : Char → Bool) : Read Word := do
  return join (← collect (wordPart g closes)).flatten

/-- A word. -/
def word (g : Grammar) : Read Word :=
  wordUpTo g endsWord

/-! ### Parameters -/

/-- The text of a formula and the mark that closes it, with as many parentheses open
    as given. -/
def formulaPart (g : Grammar) (depth : Nat) : Read (Option (Word × Nat)) := do
  match ← peek with
  | none => return none
  | some c =>
    if c = ')' && depth = 0 then return none
    skip 1
    if c = '$' then return some (← g.dollar true, depth)
    if c = backquote then return some (← backquoted g true, depth)
    if c = '"' && (← get).extended then return some ([], depth)
    if ← acceptIf (c = '\\') "\n" then return some ([], depth)
    let depth := if c = '(' then depth + 1 else if c = ')' then depth - 1 else depth
    return some ([.text (String.singleton c) true], depth)

/-- The text of a formula up to the parenthesis that closes it. -/
def formulaAtMost (g : Grammar) : (parts depth : Nat) → Read Word
  | 0, _ => return []
  | n + 1, depth => do
    match ← formulaPart g depth with
    | some (w, depth) => return w ++ (← formulaAtMost g n depth)
    | none => return []

/-- A formula, after the two parentheses that open it. -/
def formula (g : Grammar) : Read Word := do
  let w ← formulaAtMost g ((← get).rest.length + 1) 0
  if ← accept "))" then return join w else unexpected none

/-- Whether the parenthesis that comes next is never closed. -/
def isOpen (g : Grammar) : Read Bool := do
  let before ← get
  let found ← attempt do
    skip 1
    let _ ← formulaAtMost g ((← get).rest.length + 1) 0
    return (← peek).isNone
  set before
  return found = some true

/-- The word that belongs to an operator on a parameter. -/
def operand (g : Grammar) (quoted : Bool) (closes : Char → Bool) : Read Word := do
  if quoted then
    let parts ← collect do
      if ← accept "\"" then return some (← g.doubled) else doubledPart g closes
    return join parts.flatten
  else wordUpTo g closes

/-- The name of a parameter. -/
def parameterName : Read String := do
  match ← peek with
  | some c =>
    if beginsName c then takeWhile continuesName
    else if c.isDigit then takeWhile Char.isDigit
    else if "@*#?$!-".toList.contains c then
      skip 1
      return String.singleton c
    else return ""
  | none => return ""

/-- A part of a key between brackets, with as many brackets open as given. -/
def keyPart (g : Grammar) (depth : Nat) : Read (Option (Word × Nat)) := do
  if depth = 0 && (← isNext "]") then return none
  let opened ← isNext "["
  let closed ← isNext "]"
  match ← wordPart g (· = '\n') with
  | some w => return some (w, if opened then depth + 1 else if closed then depth - 1 else depth)
  | none => return none

/-- A key between brackets, after the opening one. -/
def keyAtMost (g : Grammar) : (most depth : Nat) → Read Word
  | 0, _ => return []
  | n + 1, depth => do
    match ← keyPart g depth with
    | some (w, depth) => return w ++ (← keyAtMost g n depth)
    | none => return []

/-- A key between brackets, after the opening one. -/
def key (g : Grammar) : Read Word := do
  return join (← keyAtMost g ((← get).rest.length + 1) 0)

/-- Which of the values of a parameter is meant. -/
def selector (g : Grammar) (name : String) : Read Selector := do
  if name = "@" then return .each
  else if name = "*" then return .joined
  else if !(← get).extended then return .whole
  else if ← accept "[@]" then return .each
  else if ← accept "[*]" then return .joined
  else if ← accept "[" then
    let w ← key g
    let _ ← accept "]"
    return .item w
  else return .whole

/-- A use that needs a word up to the closing brace. -/
def fallback (g : Grammar) (quoted orEmpty : Bool) : Read (Option Use) := do
  let rest (kind : Fallback) : Read (Option Use) := do
    return some (.fallback kind orEmpty (← operand g quoted (· = closeBrace)))
  if ← accept "-" then rest .instead
  else if ← accept "=" then rest .assign
  else if ← accept "?" then rest .complain
  else if ← accept "+" then rest .ifSet
  else return none

/-- The uses of the extended dialect. -/
def extendedUse (g : Grammar) : Read (Option Use) := do
  let upTo (c : Char) := wordUpTo g fun d => d = c || d = closeBrace
  if ← accept ":" then
    let start ← upTo ':'
    if ← accept ":" then return some (.slice start (some (← upTo closeBrace)))
    else return some (.slice start none)
  else if ← accept "/" then
    let which : Occurrence ←
      if ← accept "/" then pure .all
      else if ← accept "#" then pure .atStart
      else if ← accept "%" then pure .atEnd
      else pure .first
    let pattern ← upTo '/'
    if ← accept "/" then return some (.replace which pattern (← upTo closeBrace))
    else return some (.replace which pattern [])
  else
    let recase (how : Recasing) (all : Bool) : Read (Option Use) := do
      return some (.recase how all (← upTo closeBrace))
    if ← accept "^^" then recase .upper true
    else if ← accept "^" then recase .upper false
    else if ← accept ",," then recase .lower true
    else if ← accept "," then recase .lower false
    else if ← accept "~~" then recase .toggle true
    else if ← accept "~" then recase .toggle false
    else if ← accept "@" then
      match ← peek with
      | some c =>
        if "QEPAKauULk".toList.contains c then
          skip 1
          return some (.shown c)
        else return none
      | none => return none
    else return none

/-- What is made of a parameter, up to the closing brace. -/
def use (g : Grammar) (quoted : Bool) : Read (Option Use) := do
  let trim (atEnd longest : Bool) : Read (Option Use) := do
    return some (.trim atEnd longest (← wordUpTo g (· = closeBrace)))
  if ← isNext (String.singleton closeBrace) then return some .value
  else if ← accept "##" then trim false true
  else if ← accept "#" then trim false false
  else if ← accept "%%" then trim true true
  else if ← accept "%" then trim true false
  else
    match ← fallback g quoted false with
    | some u => return some u
    | none =>
      let afterColon ← attempt do
        let _ ← accept ":"
        match ← fallback g quoted true with
        | some u => return u
        | none => unexpected none
      match afterColon with
      | some u => return some u
      | none => if (← get).extended then extendedUse g else return none

/-- A parameter between braces, after the opening one. -/
def braced (g : Grammar) (quoted : Bool) : Read Word := do
  let start ← get
  let closing := String.singleton closeBrace
  let parameter (name : String) (sel : Selector) (u : Use) : Word := [.parameter name sel u quoted]
  let sized ← attempt do
    let _ ← accept "#"
    let name ← parameterName
    let sel ← selector g name
    if name != "" && (← isNext closing) && start.rest.head? = some '#' then return (name, sel)
    else unexpected none
  match sized with
  | some (name, sel) =>
    let _ ← accept closing
    return parameter name sel .size
  | none =>
    let indirect ← attempt do
      if ← acceptIf start.extended "!" then
        let name ← parameterName
        if name = "" then unexpected none
        let sel ← selector g name
        let ends (n : Nat) : Read Bool := do
          return (((← get).rest.drop n).head?) = some closeBrace
        if sel matches .whole then
          if (← isNext "*") && (← ends 1) then
            skip 1
            return (name, .joined, .names)
          if (← isNext "@") && (← ends 1) then
            skip 1
            return (name, .each, .names)
        match ← use g quoted with
        | some u =>
          if ← isNext closing then
            match sel, u with
            | .each, .value => return (name, sel, .keys)
            | .joined, .value => return (name, sel, .keys)
            | sel, u => return (name, sel, .named u)
          else unexpected none
        | none => unexpected none
      else unexpected none
    match indirect with
    | some (name, sel, u) =>
      let _ ← accept closing
      return parameter name sel u
    | none =>
      let name ← parameterName
      let sel ← selector g name
      let u ← use g quoted
      if let some u := u then
        if name != "" && (← isNext closing) then
          let _ ← accept closing
          return parameter name sel u
      let _ ← wordUpTo g (· = closeBrace)
      if ← accept closing then
        let taken := start.rest.take (start.rest.length - (← get).rest.length)
        return parameter name sel (.invalid ("$" ++ String.singleton openBrace ++ String.ofList taken))
      else fault (.unmatched closing start.line)

/-- What follows a dollar sign. -/
def dollar (g : Grammar) (quoted : Bool) : Read Word := do
  match ← peek with
  | some '(' =>
    let s ← get
    let calculated ← attempt do
      if ← accept "((" then formula g else unexpected none
    match calculated with
    | some w => return [.formula w quoted]
    | none =>
      if ← isNext "((" then
        if !s.extended then fault (.unmatched "))" s.line)
        else if ← isOpen g then fault (.unmatched ")" s.line)
      skip 1
      let body ← tryCatch g.list fun f =>
        match f with
        | .ended line _ => throw (if s.extended then .unmatched ")" (line + 1) else f)
        | f => throw f
      if ← accept ")" then return [.output body quoted]
      else if (← peek).isSome then unexpected none
      else fault (.unmatched ")" ((← get).line + if s.extended then 1 else 0))
  | some c =>
    if c = openBrace then
      skip 1
      braced g quoted
    else if beginsName c then
      return [.parameter (← takeWhile continuesName) .whole .value quoted]
    else if c.isDigit || "@*#?$!-".toList.contains c then
      skip 1
      let name := String.singleton c
      let sel : Selector := if c = '@' then .each else if c = '*' then .joined else .whole
      return [.parameter name sel .value quoted]
    else if (← get).extended && c = '[' then
      skip 1
      let w ← key g
      if ← accept "]" then return [.formula w quoted] else fault (.unmatched "]" (← get).line)
    else if (← get).extended && !quoted && c = '\'' then
      skip 1
      ansiQuoted
    else if (← get).extended && !quoted && c = '"' then return []
    else return [.text "$" quoted]
  | none => return [.text "$" quoted]

/-! ### Lists -/

/-- The lines of a here-document, up to the one that is its delimiter; what is left after
    that one; and whether there is one. The end of the last line may be missing. -/
def documentLines (a : Awaited) (extended : Bool) : (length : Nat) → List Char →
    List Char × List Char × Bool
  | 0, cs => ([], cs, false)
  | _ + 1, [] => ([], [], false)
  | n + 1, cs =>
    let line := cs.takeWhile (· != '\n')
    let rest := cs.drop (line.length + 1)
    let ended := line.length < cs.length || extended
    let line := if a.indented then line.dropWhile (· = '\t') else line
    if String.ofList line = a.delimiter then ([], rest, true)
    else
      let (more, rest, closed) := documentLines a extended n rest
      (line ++ (if ended then '\n' :: more else more), rest, closed)

/-- Reads a here-document. -/
def document (g : Grammar) (a : Awaited) : Read Unit := do
  let s ← get
  let (body, rest, closed) := documentLines a s.extended (s.rest.length + 1) s.rest
  let w ←
    if a.literal then pure [.text (String.ofList body) true]
    else do
      set { s with rest := body }
      let parts ← collect (doubledPart g fun _ => false)
      pure (join parts.flatten)
  let taken := s.rest.take (s.rest.length - rest.length)
  let unended := if taken.isEmpty || taken.getLast? = some '\n' then 1 else 0
  let line := s.line + (taken.filter (· = '\n')).length
  set { s with
    rest := rest
    line := line
    documents := (a.number, ⟨String.ofList body, w⟩) :: s.documents
    warnings := if closed then s.warnings else s.warnings ++
      [(line - unended, "here-document at line " ++ toString a.line ++
        " delimited by end-of-file (wanted \x60" ++ a.delimiter ++ "')")] }

/-- Reads the here-documents that were named. -/
def awaitedDocuments (g : Grammar) : Read Unit := do
  let awaited := (← get).awaited
  modify fun s => { s with awaited := [] }
  for a in awaited do
    document g a

/-- Passes over the end of a line, and reads the here-documents named in it. -/
def newline (g : Grammar) : Read Unit := do
  skip 1
  awaitedDocuments g

/-- Passes over blanks, comments and the ends of lines. -/
def lines (g : Grammar) : Read Unit := do
  let _ ← collect do
    blanks
    if (← peek) = some '\n' then
      newline g
      return some ()
    else return none

/-- The words that close a list of commands. -/
def closers : List String :=
  ["then", "else", "elif", "fi", "do", "done", "esac", String.singleton closeBrace]

/-- Whether the end of a clause comes next. -/
def isClauseEnd : Read Bool := do
  return (← isNext ";;") || ((← get).extended && (← isNext ";&"))

/-- Whether a list of commands ends here. -/
def isListEnd : Read Bool := do
  match ← peek with
  | none => return true
  | some ')' => return true
  | some ';' => isClauseEnd
  | _ => return closers.contains (← upcoming)

/-- Passes over a word that has to come next. -/
def expect (s : String) : Read Unit := do
  blanks
  if (← upcoming) = s then skip s.length else unexpected (some s)

/-! ### Simple commands -/

/-- The redirections of the dialect. -/
def redirections (extended : Bool) : List (String × Redirection) :=
  (if extended then [("&>>", .everything true), ("&>", .everything false), ("<<<", .word)] else [])
    ++ [("<&", .copy true), ("<>", .inputOutput), ("<", .input), (">>", .append), (">&", .copy false),
      (">|", .overwrite), (">", .output)]

/-- The text of a word without its quotes, and whether it had any. -/
def unquoted (w : Word) : String × Bool :=
  w.foldl (fun (s, q) p =>
    match p with
    | .text t quoted => (s ++ t, q || quoted)
    | .parameter name _ _ _ => (s ++ "$" ++ name, q)
    | _ => (s, q)) ("", false)

/-- A here-document that is named here. -/
def announced (g : Grammar) (indented : Bool) : Read Redirection := do
  blanks
  let w ← word g
  if w.isEmpty then missingWord
  let (delimiter, literal) := unquoted w
  let number := (← get).nextDocument
  modify fun s => { s with
    nextDocument := number + 1
    awaited := s.awaited ++ [⟨number, s.line, delimiter, literal, indented⟩] }
  return .document number delimiter

/-- The stream that is named before the sign of a redirecting, and how long the name is. -/
def streamName (s : Source) : Stream × Nat :=
  let digits := s.rest.takeWhile Char.isDigit
  let name := (s.rest.drop 1).takeWhile (· != closeBrace)
  if !digits.isEmpty then (.number (numberOf 10 digits), digits.length)
  else if s.extended && s.rest.head? = some openBrace && isName (String.ofList name) then
    (.named (String.ofList name), name.length + 2)
  else (.usual, 0)

/-- A redirecting, if one comes next. -/
def redirect? (g : Grammar) : Read (Option Redirect) := do
  let s ← get
  let (stream, length) := streamName s
  let after := s.rest.drop length
  if length != 0 && !(after.head? = some '<' || after.head? = some '>') then return none
  if ← isProcess then return none
  skip length
  if ← accept "<<-" then return some (.mk s.line stream (← announced g true) ⟨"", []⟩)
  if ← acceptIf (!(s.extended && (← isNext "<<<"))) "<<" then
    return some (.mk s.line stream (← announced g false) ⟨"", []⟩)
  for (text, how) in redirections s.extended do
    if ← isNext text then
      skip text.length
      blanks
      if (← peek).isNone then missingWord
      if ← isWord then return some (.mk s.line stream how (← written (word g))) else unexpected none
  return none

/-- Splits a word that assigns: the name, whether the value is added, and the text
    after the sign. -/
def assignment? : Word → Option (String × Bool × Word)
  | .text s false :: ps =>
    let name := s.toList.takeWhile continuesName
    let rest := s.toList.drop name.length
    let value (cs : List Char) : Word :=
      if cs.isEmpty then ps else .text (String.ofList cs) false :: ps
    if !isName (String.ofList name) then none
    else match rest with
      | '=' :: cs => some (String.ofList name, false, value cs)
      | '+' :: '=' :: cs => some (String.ofList name, true, value cs)
      | _ => none
  | _ => none

/-- Reads something in a list that is given to a parameter. -/
def inList {α : Type} (x : Read α) : Read α := do
  let s ← get
  tryCatch x fun
    | .inList f rest line => throw (.inList f rest line)
    | f =>
      match f.line? with
      | some line =>
        let rest := Nat.repeat (fun (cs : List Char) => (cs.dropWhile (· != '\n')).drop 1) (line + 1 - s.line) s.rest
        throw (.inList f rest (line + 1))
      | none => throw (.inList f [] s.line)

/-- The values in parentheses that are given to a parameter, after the first one. -/
def listed (g : Grammar) : Read (List (Option Word × Word)) := do
  let start := (← get).line
  let items ← collect do
    lines g
    if (← peek) = some ')' || (← peek) = none then return none
    else
      let keyed ← attempt do
        if ← accept "[" then
          let w ← key g
          if ← accept "]=" then return w else unexpected none
        else unexpected none
      let w ← word g
      if w.isEmpty && keyed.isNone then unexpected none
      else return some (keyed, w)
  if ← accept ")" then return items
  else if (← peek).isSome then unexpected none
  else fault (.unmatched ")" start)

/-- The value of an assignment: a word, or a list between parentheses. -/
def assignedValue (g : Grammar) : Read Assigned := do
  if ← acceptIf (← get).extended "(" then
    let items ← inList (written (listed g))
    return .list ("(" ++ items.source) items.meaning
  else return .word (← written (word g))

/-- An assignment to an item, if one comes next. -/
def itemAssignment? (g : Grammar) : Read (Option Assignment) := do
  if !(← get).extended then return none
  else
    attempt do
      let name ← takeWhile continuesName
      if ← acceptIf (isName name) "[" then
        let w ← written (key g)
        if ← accept "]=" then return .mk name (some w) false (.word (← written (word g)))
        else if ← accept "]+=" then return .mk name (some w) true (.word (← written (word g)))
        else unexpected none
      else unexpected none

/-- What was seen of a simple command. -/
inductive Seen where
  | nothing
  | command
  /-- A command that declares the names it is called with. -/
  | declaring

/-- What a simple command is made of. -/
inductive Element where
  | assignment (a : Assignment)
  | argument (a : Argument)
  | redirect (r : Redirect)

/-- The commands that declare the names they are called with. -/
def declaring : List String :=
  ["declare", "typeset", "local", "export", "readonly", "alias", "eval", "let"]

/-- The name that comes next is replaced by what it is an alias for, and so is the one that
    comes then. -/
def replaceAliases : (most : Nat) → Read Unit
  | 0 => return
  | n + 1 => do
    blanks
    let name ← upcoming
    let s ← get
    let replaced := s.replaced.filter fun r => r.remaining < s.rest.length
    if name != "" && !(replaced.any (·.name = name)) then
      match s.aliases.lookup name with
      | some text =>
        let after := s.rest.drop name.length
        let chained := text.toList.getLast?.any isBlank
        set { s with
          rest := text.toList ++ after
          replaced := ⟨name, after.length, chained⟩ :: replaced }
        replaceAliases n
      | none => return

/-- Replaces the word that comes next if it follows an alias that asks for it. -/
def replaceChained : Read Unit := do
  let s ← get
  let follows (r : Replaced) : Bool := r.chained && s.rest.length ≤ r.remaining
  if s.replaced.any follows then
    set { s with replaced := s.replaced.filter fun r => !follows r }
    replaceAliases (s.aliases.length + 1)

/-- The next element of a simple command. Before the first word there may be
    assignments. -/
def element? (g : Grammar) (seen : Seen) : Read (Option Element) := do
  blanks
  replaceChained
  match ← redirect? g with
  | some r => return some (.redirect r)
  | none =>
    if !(← isWord) then return none
    else
      let item ← if seen matches .nothing then itemAssignment? g else pure none
      match item with
      | some a => return some (.assignment a)
      | none =>
        let w ← written (word g)
        match assignment? w.meaning with
        | some (name, added, value) =>
          let source := "=".intercalate ((w.source.splitOn "=").drop 1)
          let isList := (← get).extended && value.isEmpty && w.source.endsWith "=" && (← isNext "(")
          if isList && !(seen matches .command) then
            let a : Assignment := .mk name none added (← assignedValue g)
            if seen matches .nothing then return some (.assignment a)
            else return some (.argument (.list a))
          else if seen matches .nothing then
            return some (.assignment (.mk name none added (.word ⟨source, value⟩)))
          else return some (.argument (.word w))
        | none => return some (.argument (.word w))

/-- The elements of a simple command, with the lines at which they end. -/
def elements (g : Grammar) : (most : Nat) → (seen : Seen) → Read (List (Element × Nat))
  | 0, _ => return []
  | n + 1, seen => do
    match ← element? g seen with
    | none => return []
    | some e =>
      let seen : Seen := match seen, e with
        | .nothing, .argument (.word w) => if declaring.contains w.source then .declaring else .command
        | seen, _ => seen
      let line := (← get).line
      return (e, line) :: (← elements g n seen)

/-- The line of a command. A name is only known for one when the next word has been read. -/
def lineOf (line : Nat) : List (Element × Nat) → Nat
  | (.argument _, _) :: (.argument _, line) :: _ => line
  | (_, line) :: _ => line
  | [] => line

/-- A simple command. -/
def simple (g : Grammar) : Read Command := do
  let start := (← get).line
  let read ← elements g ((← get).rest.length + 1) .nothing
  let line := if (← get).extended then lineOf start read else start
  let es := read.map (·.1)
  if es.isEmpty then unexpected none
  else
    let isName := match es with
      | [.argument _] => true
      | _ => false
    if isName && (← isNext "(") then
      skip 1
      blanks
      unexpected (some ")")
    return .simple line
      (es.filterMap fun
        | .assignment a => some a
        | _ => none)
      (es.filterMap fun
        | .argument a => some a
        | _ => none)
      (es.filterMap fun
        | .redirect r => some r
        | _ => none)

/-! ### Compound commands -/

/-- A list of commands that cannot be empty, and is closed by a word. -/
def someCommands (g : Grammar) (closer : String) : Read (List Command) := do
  let cs ← g.list
  if cs.isEmpty then unexpected (if (← peek).isNone then some closer else none) else return cs

/-- The arms of a branch after the first word of it. -/
def arms (g : Grammar) : (most : Nat) → Read (List (List Command × List Command) × List Command)
  | 0 => unexpected none
  | n + 1 => do
    let condition ← someCommands g "then"
    expect "then"
    let body ← someCommands g "fi"
    blanks
    match ← upcoming with
    | "elif" =>
      skip 4
      let (more, otherwise) ← arms g n
      return ((condition, body) :: more, otherwise)
    | "else" =>
      skip 4
      let otherwise ← someCommands g "fi"
      expect "fi"
      return ([(condition, body)], otherwise)
    | _ =>
      expect "fi"
      return ([(condition, body)], [])

/-- The body of a loop. -/
def loopBody (g : Grammar) : Read (List Command) := do
  blanks
  if (← get).extended && (← upcoming) = String.singleton openBrace then
    skip 1
    let body ← someCommands g (String.singleton closeBrace)
    expect (String.singleton closeBrace)
    return body
  expect "do"
  let body ← someCommands g "done"
  expect "done"
  return body

/-- The separator before the body of a loop, if there is one. -/
def separator (g : Grammar) : Read Unit := do
  blanks
  if !(← isNext ";;") then
    let _ ← accept ";"
  lines g

/-- Words up to the end of a line. -/
def words (g : Grammar) : Read (List Spelled) :=
  collect do
    blanks
    if ← isWord then return some (← written (word g)) else return none

/-- A part of the head of a loop controlled by formulas. -/
def headPart (g : Grammar) (depth : Nat) : Read (Option (Word × Nat)) := do
  match ← peek with
  | none => return none
  | some c =>
    if depth = 0 && (c = ';' || c = ')') then return none
    if endsWord c then
      skip 1
      let depth := if c = '(' then depth + 1 else if c = ')' then depth - 1 else depth
      return some ([.text (String.singleton c) true], depth)
    else return some (← wordUpTo g endsWord, depth)

/-- The head of a loop controlled by formulas, up to a semicolon or the end. -/
def headAtMost (g : Grammar) : (most depth : Nat) → Read Word
  | 0, _ => return []
  | n + 1, depth => do
    match ← headPart g depth with
    | some (w, depth) => return w ++ (← headAtMost g n depth)
    | none => return []

/-- A loop over words or controlled by formulas, after the first word of it. -/
def forLoop (g : Grammar) (line : Nat) (asking : Bool) : Read Command := do
  blanks
  if ← acceptIf ((← get).extended && !asking) "((" then
    let part : Read Spelled := do
      let w ← written (headAtMost g ((← get).rest.length + 1) 0)
      return ⟨w.source, join w.meaning⟩
    let start ← part
    let _ ← accept ";"
    let condition ← part
    let _ ← accept ";"
    let step ← part
    if ← accept "))" then
      separator g
      return .counted line start condition step (← loopBody g)
    else unexpected none
  else
    let name ← upcoming
    let extended := (← get).extended
    if !extended && !isName name then fault (.malformed "Bad for loop variable" "" line)
    if name = "" then missingWord
    skip name.length
    lines g
    if (← upcoming) = "in" then
      skip 2
      let ws ← words g
      blanks
      if (← accept ";") || (← peek) = some '\n' then
        lines g
        return .each line asking name (some ws) (← loopBody g)
      else unexpected none
    else
      separator g
      return .each line asking name none (← loopBody g)

/-- The patterns of a clause. -/
def patterns (g : Grammar) : Read (List Spelled) := do
  let first ← written (word g)
  let more ← collect do
    blanks
    if ← accept "|" then
      blanks
      return some (← written (word g))
    else return none
  return first :: more

/-- A clause of a choice, if there is another one. -/
def clause? (g : Grammar) : Read (Option Clause) := do
  lines g
  if (← upcoming) = "esac" then return none
  let _ ← accept "("
  blanks
  let ps ← patterns g
  if ps.any fun p => p.meaning.isEmpty then unexpected (if (← peek).isNone then some ")" else none)
  blanks
  if ← accept ")" then
    let body ← g.list
    let extended := (← get).extended
    if ← acceptIf extended ";;&" then return some (.mk ps body .again)
    else if ← accept ";;" then return some (.mk ps body .done)
    else if ← acceptIf extended ";&" then return some (.mk ps body .through)
    else if (← upcoming) = "esac" then return some (.mk ps body .done)
    else unexpected (some ";;")
  else unexpected (some ")")

/-- A choice, after the first word of it. -/
def choice (g : Grammar) (line : Nat) : Read Command := do
  blanks
  let subject ← written (word g)
  if subject.meaning.isEmpty then
    if (← get).extended then missingWord else unexpected (some "word")
  lines g
  expect "in"
  let clauses ← collect (clause? g)
  expect "esac"
  return .choose line subject clauses

/-- The operators on one word of a test. -/
def isUnaryTest (s : String) : Bool :=
  match s.toList with
  | ['-', c] => "abcdefghknoprstuvwxzGLNOS".toList.contains c
  | _ => false

/-- The operators between two words of a test. -/
def binaryTests : List String :=
  ["=", "==", "!=", "=~", "<", ">", "-eq", "-ne", "-lt", "-le", "-gt", "-ge", "-nt", "-ot", "-ef"]

/-- What may be read in an operand of a test beside a plain word. -/
inductive Operand where
  | plain
  /-- Lists of patterns. -/
  | pattern
  /-- Parentheses and bars. -/
  | expression

/-- A part of a regular expression, with as many parentheses open as given. -/
def expressionPart (g : Grammar) (depth : Nat) : Read (Option (Word × Nat)) := do
  let c ← peek
  if depth = 0 && c.any (fun c => isBlank c || c = '\n' || c = ')') then return none
  match ← wordPart g fun _ => false with
  | some w =>
    return some (w, if c = some '(' then depth + 1 else if c = some ')' then depth - 1 else depth)
  | none => return none

/-- A regular expression. -/
def expressionAtMost (g : Grammar) : (most depth : Nat) → Read Word
  | 0, _ => return []
  | n + 1, depth => do
    match ← expressionPart g depth with
    | some (w, depth) => return w ++ (← expressionAtMost g n depth)
    | none => return []

/-- The operand of a test. -/
def testWord (g : Grammar) (kind : Operand) : Read Spelled := do
  blanks
  match kind with
  | .expression =>
    let w ← written (expressionAtMost g ((← get).rest.length + 1) 0)
    return ⟨w.source, join w.meaning⟩
  | _ =>
    match ← peek with
    | some '<' =>
      skip 1
      return .plain "<"
    | some '>' =>
      skip 1
      return .plain ">"
    | _ =>
      let patterns := (← get).patterns
      modify fun s => { s with patterns := patterns || kind matches .pattern }
      let w ← written (word g)
      modify fun s => { s with patterns := patterns }
      return w

/-- A test that is not put together from others. -/
def basicTest (g : Grammar) : Read Condition := do
  let first ← testWord g .plain
  if first.meaning.isEmpty then unexpected none
  let (op, quoted) := unquoted first.meaning
  blanks
  let line := (← get).line
  let ended := (← upcoming) = "]]" || (← isNext "&&") || (← isNext "||") || (← isNext ")")
  let argument (kind : String) (operand : Operand) : Read Spelled := do
    blanks
    if (← upcoming) = "]]" then
      fault (.malformed ("unexpected argument \x60]]' to conditional " ++ kind ++ " operator") "]]" line)
    testWord g operand
  if !quoted && isUnaryTest op then
    if ended && !((← upcoming) = "]]") then return .word first
    else return .unary op (← argument "unary" .plain)
  else if ended then return .word first
  else
    let (op, _) := unquoted (← testWord g .plain).meaning
    if binaryTests.contains op then
      let operand : Operand := if op = "=~" then .expression
        else if op = "=" || op = "==" || op = "!=" then .pattern
        else .plain
      return .binary op first (← argument "binary" operand)
    else fault (.malformed "conditional binary operator expected" op line)

/-- A test that parentheses or a negation may enclose. -/
def enclosedTest (g : Grammar) (deeper : Read Condition) : (negations : Nat) → Read Condition
  | 0 => unexpected none
  | n + 1 => do
    lines g
    if (← upcoming) = "!" then
      skip 1
      return .not (← enclosedTest g deeper n)
    else if ← accept "(" then
      let c ← deeper
      lines g
      if ← accept ")" then return .group c else unexpected none
    else basicTest g

/-- Tests joined by an operator. -/
def joinedTests (op : String) (combine : Condition → Condition → Condition)
    (operand : Read Condition) : Read Condition := do
  let first ← operand
  let more ← collect do
    blanks
    if ← accept op then return some (← operand) else return none
  return match (first :: more).reverse with
    | last :: before => before.foldl (fun c d => combine d c) last
    | [] => first

/-- A test, nested at most as deeply as given. -/
def test (g : Grammar) : (depth : Nat) → Read Condition
  | 0 => unexpected none
  | n + 1 =>
    joinedTests "||" .or (joinedTests "&&" .and do
      enclosedTest g (test g n) ((← get).rest.length + 1))

/-- The name of a function whose definition comes next, and its length. -/
def definition? : Read (Option (String × Nat)) := do
  let s ← get
  let name := s.rest.takeWhile fun c => !endsWord c
  let after := (s.rest.drop name.length).dropWhile isBlank
  match after with
  | '(' :: cs =>
    let cs := cs.dropWhile isBlank
    let plain := name.all fun c => continuesName c || (s.extended && "-.:+@%/,!^?*[]~#=".toList.contains c)
    if cs.head? = some ')' && !name.isEmpty && plain && !(name.head?.any Char.isDigit) then
      return some (String.ofList name, s.rest.length - (cs.drop 1).length)
    else return none
  | _ => return none

/-- A compound command, if one comes next. -/
def compound? (g : Grammar) : Read (Option Command) := do
  let line := (← get).line
  let extended := (← get).extended
  match ← upcoming with
  | "if" =>
    skip 2
    let (as, otherwise) ← arms g ((← get).rest.length + 1)
    return some (.branch as otherwise)
  | "while" =>
    skip 5
    let condition ← someCommands g "do"
    return some (.loop true condition (← loopBody g))
  | "until" =>
    skip 5
    let condition ← someCommands g "do"
    return some (.loop false condition (← loopBody g))
  | "for" =>
    skip 3
    return some (← forLoop g line false)
  | "case" =>
    skip 4
    return some (← choice g line)
  | s =>
    if s = String.singleton openBrace then
      skip 1
      let body ← someCommands g (String.singleton closeBrace)
      expect (String.singleton closeBrace)
      return some (.group body)
    else if extended && s = "select" then
      skip 6
      return some (← forLoop g line true)
    else if extended && s = "[[" then
      skip 2
      let c ← test g ((← get).rest.length + 1)
      lines g
      expect "]]"
      return some (.test line c)
    else if (← peek) = some '(' then
      let calculated ← attempt do
        if ← acceptIf extended "((" then written (formula g) else unexpected none
      match calculated with
      | some w => return some (.calculate line ⟨(w.source.dropEnd 2).toString, w.meaning⟩)
      | none =>
        if extended && (← isNext "((") then
          if ← isOpen g then fault (.unmatched ")" line)
        skip 1
        let body ← someCommands g ")"
        if ← accept ")" then return some (.subshell body) else unexpected (some ")")
    else return none

/-- The redirectings after a compound command. -/
def redirects (g : Grammar) : Read (List Redirect) :=
  collect do
    blanks
    redirect? g

/-- A compound command with its redirectings, if one comes next. -/
def redirected? (g : Grammar) : Read (Option Command) := do
  match ← compound? g with
  | some c =>
    let rs ← redirects g
    return some (if rs.isEmpty then c else .redirected c rs)
  | none => return none

/-- The definition of a function, after its name. -/
def definition (g : Grammar) (line : Nat) (name : String) : Read Command := do
  lines g
  match ← redirected? g with
  | some body => return .define line name body
  | none => if (← get).extended then unexpected none else return .define line name (← simple g)

/-- A command that runs beside the shell, after the first word of it. -/
def beside (g : Grammar) : Read Command := do
  blanks
  match ← redirected? g with
  | some c => return .beside "COPROC" c
  | none =>
    let named ← attempt do
      let name ← upcoming
      if !isName name then unexpected none
      skip name.length
      blanks
      match ← redirected? g with
      | some c => return (name, c)
      | none => unexpected none
    match named with
    | some (name, c) => return .beside name c
    | none => return .beside "COPROC" (← simple g)

/-- A command. -/
def command (g : Grammar) : Read Command := do
  blanks
  if !((← get).aliases.isEmpty) then replaceAliases ((← get).aliases.length + 1)
  let line := (← get).line
  let extended := (← get).extended
  if extended && (← upcoming) = "function" then
    skip 8
    blanks
    let name ← upcoming
    if name = "" then missingWord
    skip name.length
    blanks
    if ← accept "(" then
      blanks
      let _ ← accept ")"
    definition g line name
  else if extended && (← upcoming) = "coproc" then
    skip 6
    beside g
  else
    match ← redirected? g with
    | some c => return c
    | none =>
      match ← definition? with
      | some (name, length) =>
        skip length
        definition g line name
      | none =>
        let word ← upcoming
        if closers.contains word || word = "in" then unexpected none else simple g

/-- The errors going where the output goes. -/
def errorsToOutput (line : Nat) : Redirect :=
  .mk line (.number 2) (.copy false) (Spelled.plain "1")

/-- What stands before a pipeline: whether it is negated, and whether its time is taken, and then
    in which format. -/
def pipelineStart : (most : Nat) → Read (List Bool × Option Bool)
  | 0 => return ([], none)
  | n + 1 => do
    blanks
    let next ← upcoming
    if next = "!" then
      skip 1
      let (negations, timed) ← pipelineStart n
      return (true :: negations, timed)
    else if next = "time" && (← get).extended then
      skip 4
      blanks
      let portable := (← upcoming) = "-p"
      if portable then skip 2
      let (negations, _) ← pipelineStart n
      return (negations, some portable)
    else return ([], none)

/-- Commands whose streams are chained. -/
def pipeline (g : Grammar) : Read Command := do
  let (negations, timed) ← pipelineStart ((← get).rest.length + 1)
  let extended := (← get).extended
  if !extended && negations.length > 1 then fault (.unexpected "!" (← get).line none)
  blanks
  let isEmpty := extended && (!negations.isEmpty || timed.isSome) &&
    ((← peek).isNone || (← isNext ";") || (← isNext "\n"))
  let first ← if isEmpty then pure (.simple (← get).line [] [] []) else command g
  let more ← collect do
    blanks
    let line := (← get).line
    if ← acceptIf (← get).extended "|&" then
      lines g
      if (← upcoming) = "!" then unexpected none
      return some (some line, ← command g)
    else if ← acceptIf (!(← isNext "||")) "|" then
      lines g
      if (← upcoming) = "!" then unexpected none
      return some (none, ← command g)
    else return none
  let stages := first :: more.map (·.2)
  let stages := stages.zip (more.map (·.1) ++ [none]) |>.map fun (c, line) =>
    match line with
    | some line => .redirected c [errorsToOutput line]
    | none => c
  let whole : Command := if negations.length % 2 = 1 then .pipeline true stages
    else if more.isEmpty then first
    else .pipeline false stages
  match timed with
  | some portable => return .timed portable whole
  | none => return whole

/-- Pipelines, each run if the ones before it went well, or went wrong. -/
def conditional (g : Grammar) : Read Command := do
  let first ← pipeline g
  let more ← collect do
    blanks
    if ← accept "&&" then
      lines g
      return some (true, ← pipeline g)
    else if ← accept "||" then
      lines g
      return some (false, ← pipeline g)
    else return none
  return more.foldl (fun c (and, d) => if and then .both c d else .either c d) first

/-- Passes over the mark after a command, which says whether it is run in the
    background; `none` if there is no such mark. -/
def mark? : Read (Option Bool) := do
  blanks
  if ← isClauseEnd then return none
  else if ← accept ";" then return some false
  else if ← acceptIf (!(← isNext "&&")) "&" then return some true
  else return none

/-- Commands up to something that closes them. -/
def list (g : Grammar) : (most : Nat) → Read (List Command)
  | 0 => return []
  | n + 1 => do
    lines g
    if ← isListEnd then return []
    else
      let c ← conditional g
      match ← mark? with
      | some inBackground =>
        return (if inBackground then .background c else c) :: (← list g n)
      | none =>
        if (← peek) = some '\n' then return c :: (← list g n)
        else if ← isListEnd then return [c]
        else unexpected none

/-- The commands up to the end of a line. -/
def lineAtMost (g : Grammar) : (most : Nat) → Read (List Command)
  | 0 => return []
  | n + 1 => do
    blanks
    match ← peek with
    | none =>
      awaitedDocuments g
      return []
    | some '\n' =>
      newline g
      return []
    | _ =>
      let c ← conditional g
      match ← mark? with
      | some inBackground =>
        return (if inBackground then .background c else c) :: (← lineAtMost g n)
      | none =>
        match ← peek with
        | none =>
          awaitedDocuments g
          return [c]
        | some '\n' =>
          newline g
          return [c]
        | _ => unexpected none

end Read

/-- The grammar, for scripts nested at most as deeply as given. -/
def grammar : (depth : Nat) → Grammar
  | 0 => {
      doubled := Read.unexpected none
      dollar := fun _ => Read.unexpected none
      list := Read.unexpected none }
  | depth + 1 =>
    let g := grammar depth
    { doubled := Read.doubled g
      dollar := Read.dollar g
      list := do Read.list g ((← get).rest.length + 1) }

namespace Source

/-- The beginning of a script, whose lines are counted from the given one on. -/
def start (extended : Bool) (line : Nat) (script : String) (nextDocument : Nat) : Source where
  rest := script.toList
  line := line
  extended := extended
  patterns := false
  aliases := []
  replaced := []
  awaited := []
  documents := []
  nextDocument := nextDocument
  warnings := []

/-- Reads the next line of commands, `none` if there is none. -/
def next (s : Source) : Except Fault (Option (List Command × Source)) :=
  let g := grammar (s.rest.length + 1)
  let skipped := do
    Read.lines g
    if (← Read.peek).isSome then return some (← Read.lineAtMost g (s.rest.length + 1))
    else return none
  match skipped.run s with
  | .ok (some cs, s) => .ok (some (cs, s))
  | .ok (none, _) => .ok none
  | .error f => .error f

/-- A text as a word, in which all that has a meaning between double quotes has it. -/
def wordOf? (extended : Bool) (text : String) (nextDocument : Nat) : Option Word :=
  let parts := Read.collect (Read.doubledPart (grammar (text.length + 1)) fun _ => false)
  match parts.run (start extended 1 text nextDocument) with
  | .ok (parts, _) => some (Read.join parts.flatten)
  | .error _ => none

end Source

end Retrace.Unix
