import Retrace.Unix.Builtin.Basic

/-!
# Reading

Lines of input as values of parameters, and the options among arguments.
-/

namespace Retrace.Unix.Builtin

/-! ### Lines -/

/-- The characters of a line up to a delimiter, with those marked that a backslash protects;
    how many characters were read, and whether the delimiter was. -/
def inputLine (raw : Bool) (delimiter : Option Char) : List Char → List Marked × Nat × Bool
  | [] => ([], 0, false)
  | ['\\'] => if raw then ([('\\', false)], 1, false) else ([], 1, false)
  | '\\' :: c :: cs =>
    if raw then
      let (ms, n, ended) := inputLine raw delimiter (c :: cs)
      (('\\', false) :: ms, n + 1, ended)
    else
      let (ms, n, ended) := inputLine raw delimiter cs
      if c = '\n' then (ms, n + 2, ended) else ((c, true) :: ms, n + 2, ended)
  | c :: cs =>
    if some c = delimiter then ([], 1, true)
    else
      let (ms, n, ended) := inputLine raw delimiter cs
      (if c = '\x00' then ms else (c, false) :: ms, n + 1, ended)

/-- The fields of a line for a number of names; the last one gets all that is left. -/
def inputFields (sep : Separators) : (names : Nat) → List Marked → List String
  | 0, _ => []
  | n + 1, ms =>
    let isBlankMark (m : Marked) : Bool := !m.2 && sep.blanks.contains m.1
    let isOther (m : Marked) : Bool := !m.2 && sep.others.contains m.1
    let ms := ms.dropWhile isBlankMark
    let word := ms.takeWhile fun m => !isBlankMark m && !isOther m
    let rest := (ms.drop word.length).dropWhile isBlankMark
    let rest := match rest with
      | m :: more => if isOther m then more else rest
      | [] => []
    if n = 0 then
      -- a single separator at the end does not count
      let whole := (ms.reverse.dropWhile isBlankMark).reverse
      let isWord := rest.isEmpty && word.length < ms.length
      [String.ofList ((if isWord then word else whole).map (·.1))]
    else String.ofList (word.map (·.1)) :: inputFields sep n rest

/-- How many octets the given number of characters takes. -/
def octetsOf (extended : Bool) (count : Nat) (cs : List Char) : Nat :=
  if extended then (Multibyte.ofCharacters ((Multibyte.characters (cs.take (4 * count))).take count)).length
  else min count cs.length

/-- What `read` is to do. -/
structure Reading where
  raw : Bool
  delimiter : Option Char
  limit : Option Nat
  stream : Nat

/-- Reads a line from a stream: its characters, and whether it came to its end. -/
def readLine (r : Reading) : Sh (Except Refusal (List Marked × Bool)) := do
  let extended ← Sh.isExtended
  match ← Sh.available r.stream with
  | .error e => return .error e
  | .ok (cs, unfinished) =>
    let shown := match r.limit with
      | some n => cs.take (octetsOf extended n cs)
      | none => cs
    let (ms, n, ended) := inputLine r.raw r.delimiter shown
    let full := match r.limit with
      | some _ => shown.length < cs.length || r.limit = some (if extended then
          (Multibyte.characters shown).length else shown.length)
      | none => false
    if unfinished && !ended && !full then
      match ← Sh.channel? r.stream with
      | some (_, .source _ _) => Sh.wantMore
      | _ => pure ()
    Sh.consume r.stream n
    return .ok (ms, ended || full)

/-- How `read` is used. -/
def readForm : String :=
  "read [-ers] [-a array] [-d delim] [-i text] [-n nchars] [-N nchars] [-p prompt] [-t timeout] [-u fd] [name ...]"

/-- Gives values to names; one that may not be changed is complained about. -/
def assignAll : List (String × String) → Sh Nat
  | [] => return 0
  | (name, v) :: rest => do
    match ← Sh.attempt (assignTo name v) with
    | .ok _ => assignAll rest
    | .error (.giveUp _) => return 1
    | .error e => Sh.stop e

/-- Whether a text is a number of seconds. -/
def isTime (s : String) : Bool :=
  match Quantity.read? s.toList with
  | some (.finite f, []) => !f.negative
  | _ => false

/-- Reads a line into parameters. -/
def read : Builtin := fun _ args => do
  let extended ← Sh.isExtended
  withOptions "read" readForm (if extended then "ers" else "r") (if extended then "adinNptu" else "p") false args
    fun c => do
    let numberOf? (o : Char) : Option Nat := (c.value? o).bind String.toNat?
    let isWrong (o : Char) : Bool := (c.value? o).any fun v => v.toNat?.isNone
    let target := c.rest.find? fun n => !isTarget extended n
    if isWrong 'n' || isWrong 'N' then
      wrong "read" ((c.value? 'n').getD ((c.value? 'N').getD "") ++ ": invalid number") 1
    else if (c.value? 't').any fun t => !isTime t then
      wrong "read" ((c.value? 't').getD "" ++ ": invalid timeout specification") 1
    else if isWrong 'u' then
      wrong "read" ((c.value? 'u').getD "" ++ ": invalid file descriptor specification") 1
    else if let some n := target then
      if extended then wrong "read" ("\x60" ++ n ++ "': not a valid identifier") 1
      else
        Sh.complain ("read: " ++ n ++ ": bad variable name")
        return 2
    else if !extended && c.rest.isEmpty then wrong "read" "arg count" 2
    else
      let stream := (numberOf? 'u').getD 0
      if (← Sh.channel? stream).isNone && c.has 'u' then
        wrong "read" (toString stream ++ ": invalid file descriptor: Bad file descriptor") 1
      else if (c.value? 't').any fun t => t.toList.all fun d => d = '0' || d = '.' then return 0
      else
        let delimiter : Option Char := if c.has 'N' then none
          else match c.value? 'd' with
            | some d => some ((d.toList.head?).getD '\x00')
            | none => some '\n'
        match ← readLine ⟨c.has 'r', delimiter, (numberOf? 'n').or (numberOf? 'N'), stream⟩ with
        | .error r =>
          if extended then wrong "read" ("read error: " ++ toString stream ++ ": " ++ r.reason) 1 else return 1
        | .ok (ms, ended) =>
          let sep := Separators.ofText ((← Sh.value? "IFS").getD Separators.usual)
          let whole := String.ofList (ms.map (·.1))
          let status ← match c.value? 'a' with
            | some name => do
              let pieces := ms.map fun (c, quoted) => Piece.glyph ⟨c, if quoted then .quoted else .value⟩
              let old := (← Sh.parameter? name).getD .unset
              let fields := Expand.listOf ((Field.split sep .nothing pieces).map Field.text)
              Sh.setVariable (← Sh.resolved name)
                (some { old with items := fields.items, isList := true, isGiven := true })
              pure 0
            | none =>
              if c.rest.isEmpty then assignAll [("REPLY", whole)]
              else if c.has 'N' then
                assignAll ((c.rest.zipIdx.map fun (name, i) => (name, if i = 0 then whole else "")))
              else assignAll (c.rest.zip (inputFields sep c.rest.length ms))
          return if status != 0 then status else if ended then 0 else 1

/-! ### Lists of lines -/

/-- The lines of some characters, each with the delimiter at its end if it is there. -/
def delimited (delimiter : Char) : List Char → List (List Char)
  | [] => []
  | c :: cs =>
    if c = delimiter then [c] :: delimited delimiter cs
    else
      match delimited delimiter cs with
      | l :: ls => if cs.isEmpty then [[c]] else (c :: l) :: ls
      | [] => [[c]]

/-- How `mapfile` is used. -/
def mapfileForm : String :=
  "mapfile [-d delim] [-n count] [-O origin] [-s count] [-t] [-u fd] [-C callback] [-c quantum] [array]"

/-- Gives lines to the items of a parameter, and runs something after some of them. -/
def assignLines (e : Engine) (name : String) (callback : Option String) (quantum : Nat) :
    (index count : Nat) → List String → Sh Unit
  | _, _, [] => return
  | index, count, l :: ls => do
    match callback with
    | some command =>
      if count % quantum = 0 then
        e.source "" 1 (command ++ " " ++ toString index ++ " " ++ Quoting.single l)
    | none => pure ()
    Sh.assignItem name (toString index) l true
    assignLines e name callback quantum (index + 1) (count + 1) ls

/-- Reads lines into the items of a parameter. -/
def mapfile (command : String) : Builtin := fun e args =>
  withOptions command mapfileForm "t" "dnOsuCc" false args fun c => do
    let numberOf? (o : Char) : Option Nat := (c.value? o).bind String.toNat?
    let isWrong (o : Char) : Bool := (c.value? o).any fun v => v.toNat?.isNone
    let name := c.rest.headD "MAPFILE"
    let stream := (numberOf? 'u').getD 0
    let told (o : Char) (what : String) : Sh Nat :=
      wrong command ((c.value? o).getD "" ++ ": invalid " ++ what) 1
    if isWrong 'n' then told 'n' "line count"
    else if isWrong 's' then told 's' "line count"
    else if isWrong 'O' then told 'O' "array origin"
    else if isWrong 'u' then told 'u' "file descriptor specification"
    else if isWrong 'c' || numberOf? 'c' = some 0 then told 'c' "callback quantum"
    else if (← Sh.channel? stream).isNone then
      wrong command (toString stream ++ ": invalid file descriptor: Bad file descriptor") 1
    else if !isName name then wrong command ("\x60" ++ name ++ "': not a valid identifier") 1
    else
      let old := (← Sh.parameter? name).getD .unset
      if old.isKeyed then wrong command (name ++ ": not an indexed array") 1
      else if old.constant then wrong command (name ++ ": readonly variable") 1
      else match ← Sh.input stream with
        | .error r => wrong command ("read error: " ++ toString stream ++ ": " ++ r.reason) 1
        | .ok cs =>
          let delimiter := match c.value? 'd' with
            | some d => (d.toList.head?).getD '\x00'
            | none => '\n'
          let all := delimited delimiter cs
          let skipped := (numberOf? 's').getD 0
          let taken := match numberOf? 'n' with
            | some n => if n = 0 then all.drop skipped else (all.drop skipped).take n
            | none => all.drop skipped
          Sh.consume stream (((all.take skipped ++ taken).map List.length).foldl (· + ·) 0)
          let trimmed := taken.map fun l =>
            String.ofList ((if c.has 't' && l.getLast? = some delimiter then l.dropLast else l).filter (· != '\x00'))
          if !c.has 'O' then
            Sh.setVariable (← Sh.resolved name)
              (some { old with items := [], isList := true, isGiven := true })
          assignLines e name (c.value? 'C') ((numberOf? 'c').getD 5000) ((numberOf? 'O').getD 0) 1 trimmed
          return 0

/-! ### Options -/

/-- Reads the next option among the positional parameters, or among its arguments. -/
def getopts : Builtin := fun _ args => do
  let extended ← Sh.isExtended
  match args with
  | letters :: name :: given => do
    let args ← if given.isEmpty then Sh.ask (·.positional) else pure given
    let silent := letters.startsWith ":" || (← Sh.value? "OPTERR") = some "0"
    let index := ((← Sh.value? "OPTIND").bind String.toNat?).getD 1
    let offset ← Sh.ask (·.optionOffset)
    let setName (v : String) : Sh Nat := do
      if isName name then assignAll [(name, v)]
      else if extended then wrong "getopts" ("\x60" ++ name ++ "': not a valid identifier") 1
      else wrongSpecial "getopts" (name ++ ": bad variable name") 2
    let next (index offset : Nat) : Sh Unit := do
      Sh.assign "OPTIND" (toString index)
      Sh.change fun s => { s with optionOffset := offset }
    let finish (index : Nat) : Sh Nat := do
      next index 1
      let _ ← setName "?"
      return 1
    match args[index - 1]? with
    | none => finish (if extended then args.length + 1 else index)
    | some arg =>
      if offset = 1 && arg = "--" then finish (index + 1)
      else if offset = 1 && (!arg.startsWith "-" || arg = "-") then finish index
      else
        let c := (arg.toList[offset]?).getD '?'
        let isLast := arg.length ≤ offset + 1
        let advance : Sh Unit := if isLast then next (index + 1) 1 else next index (offset + 1)
        let known := letters.toList.dropWhile fun d => d != c || d = ':'
        let shell ← Sh.ask (·.dialect.name)
        match known with
        | [] =>
          advance
          if letters.startsWith ":" then Sh.assign "OPTARG" (String.singleton c)
          else
            Sh.setVariable "OPTARG" none
            if silent then pure ()
            else if extended then Sh.report (shell ++ ": illegal option -- " ++ String.singleton c)
            else Sh.report ("Illegal option -" ++ String.singleton c)
          setName "?"
        | _ :: ':' :: _ =>
          if !isLast then
            next (index + 1) 1
            Sh.assign "OPTARG" (String.ofList (arg.toList.drop (offset + 1)))
            setName (String.singleton c)
          else
            match args[index]? with
            | some v =>
              next (index + 2) 1
              Sh.assign "OPTARG" v
              setName (String.singleton c)
            | none =>
              next (index + 1) 1
              if letters.startsWith ":" then
                Sh.assign "OPTARG" (String.singleton c)
                setName ":"
              else
                Sh.setVariable "OPTARG" none
                if silent then pure ()
                else if extended then
                  Sh.report (shell ++ ": option requires an argument -- " ++ String.singleton c)
                else Sh.report ("No arg for -" ++ String.singleton c ++ " option")
                setName "?"
        | _ =>
          advance
          Sh.setVariable "OPTARG" none
          setName (String.singleton c)
  | _ =>
    if extended then usage "getopts" "getopts optstring name [arg ...]"
    else wrongSpecial "getopts" "Usage: getopts optstring var [arg...]" 2

end Retrace.Unix.Builtin
