import Retrace.Unix.Regular

/-!
# Rich regular expressions

A third way of writing regular expressions, which can say more: repetitions that
prefer to be short or give nothing back, conditions on what comes next or came
before, groups with names, and parts in which capitals do not matter. The
preferred match is what is meant by such an expression.
-/

namespace Retrace.Unix.Regular.Rich

/-- What is left of an expression, and what is known of it so far. -/
structure Reading where
  rest : List Char
  /-- How many groups it has. -/
  groups : Nat
  names : List (String × Nat)
  /-- Capitals do not matter here. -/
  folded : Bool
  /-- A point also stands for the end of a line. -/
  dotted : Bool
  /-- Beginnings and ends of lines are meant, not those of the text. -/
  lined : Bool
  /-- Blanks have no meaning here. -/
  spaced : Bool

/-- The reading of an expression. What is wrong with one is told in words. -/
abbrev Parse := StateT Reading (Except String)

/-- The next character, which is passed over. -/
def next? : Parse (Option Char) := do
  let r ← get
  match r.rest with
  | c :: cs =>
    set { r with rest := cs }
    return some c
  | [] => return none

/-- Passes over a text if it comes next. -/
def accept (s : String) : Parse Bool := do
  let r ← get
  if s.toList.isPrefixOf r.rest then
    set { r with rest := r.rest.drop s.length }
    return true
  else return false

/-- Passes over the characters that come next and have a property: those characters. -/
def take (p : Char → Bool) : Parse (List Char) := do
  let r ← get
  let cs := r.rest.takeWhile p
  set { r with rest := r.rest.drop cs.length }
  return cs

/-- A character, in which capitals may not matter. -/
def char (c : Char) : Parse Regular := do
  return if (← get).folded then .folding (.char c) else .char c

/-- Some characters of a set, in which capitals may not matter. -/
def among (negated : Bool) (ms : List Member) : Parse Regular := do
  return if (← get).folded then .folding (.among negated ms) else .among negated ms

/-- The class of characters of a letter after a backslash. -/
def class? (c : Char) : Option Member :=
  match c with
  | 'd' => some (.named "digit")
  | 'D' => some (.outside "digit")
  | 'w' => some (.named "word")
  | 'W' => some (.outside "word")
  | 's' => some (.named "space")
  | 'S' => some (.outside "space")
  | 'h' => some (.named "blank")
  | 'H' => some (.outside "blank")
  | _ => none

/-- The class of characters of a property. -/
def property? (name : String) : Option String :=
  match name with
  | "L" => some "alpha"
  | "Lu" => some "upper"
  | "Ll" => some "lower"
  | "N" => some "digit"
  | "Nd" => some "digit"
  | "P" => some "punct"
  | "Z" => some "space"
  | "Zs" => some "blank"
  | "Xan" => some "alnum"
  | "Xwd" => some "word"
  | "Xsp" => some "space"
  | _ => none

/-- The class of a property after its letter. -/
def property (outside : Bool) : Parse Member := do
  let name ← if ← accept "\x7b" then do
      let cs ← take (· != '\x7d')
      let _ ← accept "\x7d"
      pure cs
    else pure ((← next?).toList)
  let (outside, name) := match name with
    | '^' :: cs => (!outside, cs)
    | cs => (outside, cs)
  match property? (String.ofList name) with
  | some c => return if outside then .outside c else .named c
  | none => throw "unknown property after \\P or \\p"

/-- The character of a letter after a backslash that stands for one. -/
def control? (c : Char) : Option Char :=
  ([('n', '\n'), ('t', '\t'), ('r', '\r'), ('f', '\x0c'), ('e', '\x1b'), ('a', '\x07')] : List (Char × Char)).lookup c

/-- The character of a code after a backslash, if there is one. -/
def coded? (c : Char) : Parse (Option Char) := do
  match c with
  | 'x' =>
    if ← accept "\x7b" then
      let ds ← take fun d => (digitValue? 16 d).isSome
      let _ ← accept "\x7d"
      return some (Char.ofNat (numberOf 16 ds))
    else
      let r ← get
      let ds := (r.rest.take 2).takeWhile fun d => (digitValue? 16 d).isSome
      set { r with rest := r.rest.drop ds.length }
      return some (Char.ofNat (numberOf 16 ds))
  | '0' =>
    let r ← get
    let ds := (r.rest.take 2).takeWhile fun d => (digitValue? 8 d).isSome
    set { r with rest := r.rest.drop ds.length }
    return some (Char.ofNat (numberOf 8 ds))
  | 'c' => return (← next?).map fun d => Char.ofNat (d.toUpper.toNat ^^^ 64)
  | c => return control? c

/-- The members of a set up to the bracket that closes it. -/
def members : (fuel : Nat) → (first : Bool) → Parse (List Member)
  | 0, _ => throw "missing terminating ] for character class"
  | n + 1, first => do
    -- one character, or else the class that stands in its place
    let single (c : Char) : Parse (Except Member Char) := do
      if c != '\\' then return .ok c
      else
        match ← next? with
        | none => throw "missing terminating ] for character class"
        | some d =>
          match class? d with
          | some m => return .error m
          | none =>
            if d = 'p' || d = 'P' then return .error (← property (d = 'P'))
            else if d = 'b' then return .ok '\x08'
            else return .ok ((← coded? d).getD d)
    match ← next? with
    | none => throw "missing terminating ] for character class"
    | some c =>
      if c = ']' && !first then return []
      else if c = '[' && (← accept ":") then
        let outside ← accept "^"
        let name ← take Char.isAlpha
        if ← accept ":]" then
          if (classMember? (String.ofList name)).isNone then throw "unknown POSIX class name"
          let m := if outside then Member.outside (String.ofList name) else .named (String.ofList name)
          return m :: (← members n false)
        else return .range '[' '[' :: .range ':' ':' :: (name.map fun d => .range d d) ++ (← members n false)
      else
        match ← single c with
        | .error m => return m :: (← members n false)
        | .ok low =>
          let before ← get
          if ← accept "-" then
            match ← next? with
            | some ']' =>
              set before
              return .range low low :: (← members n false)
            | some d =>
              match ← single d with
              | .ok high =>
                if high < low then throw "range out of order in character class"
                return .range low high :: (← members n false)
              | .error m => return .range low low :: .range '-' '-' :: m :: (← members n false)
            | none => throw "missing terminating ] for character class"
          else return .range low low :: (← members n false)

/-- The numbers of an interval, after the brace that opens it, if it is one. -/
def interval? : Parse (Option (Nat × Option Nat)) := do
  let before ← get
  let low ← take Char.isDigit
  let comma ← accept ","
  let high ← if comma then take Char.isDigit else pure low
  if (← accept "\x7d") && !low.isEmpty then
    let most := if high.isEmpty then none else some (numberOf 10 high)
    if most.any (· < numberOf 10 low) then throw "numbers out of order in \x7b\x7d quantifier"
    if 65535 < numberOf 10 low || most.any (65535 < ·) then throw "number too big in \x7b\x7d quantifier"
    return some (numberOf 10 low, most)
  else
    set before
    return none

/-- What is repeated as the signs after it say. -/
def repetitions (r : Regular) : (fuel : Nat) → Parse Regular
  | 0 => return r
  | n + 1 => do
    let repeated (low : Nat) (high : Option Nat) : Parse Regular := do
      if ← accept "?" then repetitions (.repetition r low high true) n
      else if ← accept "+" then repetitions (.decided (.repetition r low high false)) n
      else repetitions (.repetition r low high false) n
    if ← accept "*" then repeated 0 none
    else if ← accept "+" then repeated 1 none
    else if ← accept "?" then repeated 0 (some 1)
    else
      let before ← get
      if ← accept "\x7b" then
        match ← interval? with
        | some (low, high) => repeated low high
        | none =>
          set before
          return r
      else return r

/-- A group that was matched before, by its number or its name. -/
def again (reference : List Char) : Parse Regular := do
  let r ← get
  let name := String.ofList reference
  if !reference.isEmpty && reference.all Char.isDigit then
    return .again (numberOf 10 reference)
  else
    match reference with
    | '-' :: ds => return .again (r.groups + 1 - numberOf 10 ds)
    | _ =>
      match r.names.lookup name with
      | some n => return .again n
      | none => throw "reference to non-existent subpattern"

/-- What a character after a backslash stands for. -/
def escaped (c : Char) : Parse Regular := do
  match class? c with
  | some m => among false [m]
  | none =>
    match c with
    | 'b' => return .edge true true false
    | 'B' => return .edge true true true
    | 'A' => return .atStart
    | 'G' => return .atStart
    | 'z' => return .atEnd
    | 'Z' => return .atEnd
    | 'K' => return .restart
    | 'N' => return .among true [.range '\n' '\n']
    | 'R' => return .among false [.range '\n' '\r']
    | 'v' => return .among false [.range '\n' '\r']
    | 'V' => return .among true [.range '\n' '\r']
    | 'X' => return .any
    | 'E' => return .empty
    | 'p' => among false [← property false]
    | 'P' => among false [← property true]
    | 'Q' =>
      let r ← get
      let rec quoted : List Char → List Char × List Char
        | '\\' :: 'E' :: cs => ([], cs)
        | c :: cs =>
          let (a, b) := quoted cs
          (c :: a, b)
        | [] => ([], [])
      let (text, rest) := quoted r.rest
      set { r with rest := rest }
      let rs ← text.mapM char
      return rs.foldr Regular.sequence .empty
    | 'k' =>
      let _ ← next?
      let name ← take fun d => d != '>' && d != '\'' && d != '\x7d'
      let _ ← next?
      again name
    | 'g' =>
      if ← accept "\x7b" then
        let name ← take (· != '\x7d')
        let _ ← accept "\x7d"
        again name
      else again (← take fun d => d.isDigit || d = '-')
    | c =>
      if c.isDigit && c != '0' then
        let more ← take Char.isDigit
        again (c :: more)
      else
        match ← coded? c with
        | some d => char d
        | none => if c.isAlpha then throw "unrecognized character follows \\" else char c

/-- The letters that say how what follows is read. -/
def switch (letters : List Char) (r : Reading) : Reading :=
  let on := letters.takeWhile (· != '-')
  let off := letters.drop on.length
  let set (c : Char) (before : Bool) : Bool := if on.contains c then true else if off.contains c then false else before
  { r with folded := set 'i' r.folded, dotted := set 's' r.dotted, lined := set 'm' r.lined,
           spaced := set 'x' r.spaced }

/-- Reads something and goes on reading as before. -/
def inside (x : Parse Regular) : Parse Regular := do
  let before ← get
  let a ← x
  modify fun r => { r with folded := before.folded, dotted := before.dotted, lined := before.lined, spaced := before.spaced }
  return a

mutual

/-- Alternatives. -/
def alternatives : (fuel : Nat) → Parse Regular
  | 0 => throw "regular expression is too large"
  | n + 1 => do
    let a ← items n
    if ← accept "|" then return .either a (← alternatives n) else return a

/-- The items of an alternative. -/
def items : (fuel : Nat) → Parse Regular
  | 0 => throw "regular expression is too large"
  | n + 1 => do
    let r ← get
    match r.rest with
    | [] => return .empty
    | ')' :: _ => return .empty
    | '|' :: _ => return .empty
    | _ =>
      let a ← item n
      match ← items n with
      | .empty => return a
      | b => return .sequence a b

/-- What is in a group, up to the parenthesis that closes it. -/
def grouped : (fuel : Nat) → Parse Regular
  | 0 => throw "regular expression is too large"
  | n + 1 => do
    let a ← inside (alternatives n)
    if ← accept ")" then return a else throw "missing closing parenthesis"

/-- A group with a number. -/
def numbered (name : Option String) : (fuel : Nat) → Parse Regular
  | 0 => throw "regular expression is too large"
  | n + 1 => do
    let number := (← get).groups + 1
    modify fun r => { r with groups := number, names := r.names ++ (name.map fun s => (s, number)).toList }
    return .group number (← grouped n)

/-- An item with its repetitions. -/
def item : (fuel : Nat) → Parse Regular
  | 0 => throw "regular expression is too large"
  | n + 1 => do
    let repeated (r : Regular) : Parse Regular := do repetitions r ((← get).rest.length + 1)
    match ← next? with
    | none => return .empty
    | some c =>
      let r ← get
      if r.spaced && (c = ' ' || c = '\t' || c = '\n') then return .empty
      else if r.spaced && c = '#' then
        let _ ← take (· != '\n')
        return .empty
      else match c with
        | '.' => repeated (if r.dotted then .any else .among true [.range '\n' '\n'])
        | '^' => return if r.lined then .lineStart else .atStart
        | '$' => return if r.lined then .lineEnd else .atEnd
        | '[' =>
          let negated ← accept "^"
          repeated (← among negated (← members ((← get).rest.length + 1) true))
        | '\\' =>
          match ← next? with
          | some d => repeated (← escaped d)
          | none => throw "\\ at end of pattern"
        | '(' =>
          if ← accept "?:" then repeated (← grouped n)
          else if ← accept "?=" then return .around true false (← grouped n)
          else if ← accept "?!" then return .around true true (← grouped n)
          else if ← accept "?<=" then return .around false false (← grouped n)
          else if ← accept "?<!" then return .around false true (← grouped n)
          else if ← accept "?>" then repeated (.decided (← grouped n))
          else if ← accept "?|" then repeated (← grouped n)
          else if ← accept "?#" then
            let _ ← take (· != ')')
            if ← accept ")" then return .empty else throw "missing ) after (?# comment"
          else if (← accept "?<") || (← accept "?P<") || (← accept "?'") then
            let name ← take fun d => d.isAlphanum || d = '_'
            let _ ← next?
            repeated (← numbered (some (String.ofList name)) n)
          else if ← accept "?" then
            let letters ← take fun d => d.isAlpha || d = '-' || d = '^'
            if ← accept ")" then
              modify (switch letters)
              return .empty
            else if ← accept ":" then
              let before ← get
              modify (switch letters)
              let a ← grouped n
              modify fun r => { r with folded := before.folded, dotted := before.dotted, lined := before.lined, spaced := before.spaced }
              repeated a
            else throw "unrecognized character after (? or (?-"
          else repeated (← numbered none n)
        | '*' => throw "quantifier does not follow a repeatable item"
        | '+' => throw "quantifier does not follow a repeatable item"
        | '?' => throw "quantifier does not follow a repeatable item"
        | c => repeated (← char c)

end

/-- Reads a rich expression. -/
def read (s : String) : Except String Regular := do
  let cs := Multibyte.characters s.toList
  let whole : Parse Regular := do
    let a ← alternatives (4 * cs.length + 8)
    if (← get).rest.isEmpty then return a else throw "unmatched closing parenthesis"
  return (← whole.run ⟨cs, 0, [], false, false, false, false⟩).1

end Retrace.Unix.Regular.Rich
