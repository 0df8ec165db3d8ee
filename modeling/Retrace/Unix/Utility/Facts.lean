import Retrace.Unix.Builtin
import Retrace.Unix.Calendar.Reading
import Retrace.Unix.Utility.Trees

/-!
# Facts

What says something that is already known: what time it is, who asks and on
which machine, whether a condition holds, or just some text.
-/

namespace Retrace.Unix.Utility

/-! ### Texts -/

/-- Prints its arguments. -/
def echo : Utility := fun _ name args => do
  Sh.print (Echo.extended false args)
  refusedAtEnd name 0

/-- Prints its arguments as a format says. -/
def printf : Utility := fun _ name args => do
  match if args.head? = some "--" then args.drop 1 else args with
  | [] => misused name "missing operand" 1
  | format :: args =>
    let p := Format.print .program (clock (← Sh.ask id)) format args
    Sh.each p.complaints fun m => tell name m
    if let a :: _ := p.args then
      if !p.stopped then tell name ("warning: ignoring excess arguments, starting with " ++ Quoting.curly a)
    Sh.print p.text
    refusedAtEnd name (if p.failed then 1 else 0)

/-- How many characters are printed at once of a line that is printed without end, at least. -/
def endlessPiece : Nat := 65536

/-- How often that is done while nobody stops reading. -/
def endlessPieces : Nat := 1024

/-- Prints a line again and again. -/
def yes : Utility := fun _ name args =>
  withOptions {} false 1 name args fun o => do
    let line := (if o.operands.isEmpty then "y" else " ".intercalate o.operands) ++ "\n"
    let piece := String.join (List.replicate (endlessPiece / line.length + 1) line)
    let rec go : (pieces : Nat) → Sh Nat
      | 0 => return 0
      | n + 1 => do
        match ← Sh.write 1 piece with
        | .ok _ =>
          Sh.elapse 10000000
          go n
        | .error r => fail name ("standard output: " ++ r.reason) 1
    go endlessPieces

/-- Does nothing, with a status. -/
def nothing (status : Nat) : Utility := fun _ _ _ => return status

/-! ### Conditions -/

/-- What is wrong with a condition, in the words of a program, if the shell says it in its own. -/
def conditionFault (args : List String) (fault : String) : String :=
  let parts := fault.splitOn ": "
  let subject := ": ".intercalate parts.dropLast
  match parts.getLast? with
  | some "unary operator expected" =>
    match args with
    | [a, b] =>
      if a.startsWith "-" && a.length = 2 then Quoting.curly a ++ ": unary operator expected"
      else "missing argument after " ++ Quoting.curly b
    | _ => Quoting.curly subject ++ ": unary operator expected"
  | some "binary operator expected" => Quoting.curly subject ++ ": binary operator expected"
  | some "integer expression expected" => "invalid integer " ++ Quoting.curly subject
  | some "too many arguments" => "extra argument " ++ Quoting.curly ((args.drop 3).headD "")
  | some "argument expected" => "missing argument after " ++ Quoting.curly (args.getLast?.getD "")
  | _ => fault

/-- Whether its arguments are a condition that holds. -/
def test : Utility := fun _ name args => do
  let bracketed := lastPart name = "["
  if bracketed && args.getLast? != some "]" then fail name ("missing " ++ Quoting.curly "]") 2
  else
    let args := if bracketed then args.dropLast else args
    let s ← Sh.ask id
    match Test.holds { s with dialect := { s.dialect with extended := true } } args with
    | .ok true => return 0
    | .ok false => return 1
    | .error m => fail name (conditionFault args m) 2

/-! ### Who and where -/

/-- Prints a word, without any operands. -/
def saying (text : String) : Utility := fun _ name args =>
  withOptions {} true 1 name args fun o => do
    match o.operands with
    | [] =>
      Sh.print (text ++ "\n")
      refusedAtEnd name 0
    | a :: _ => extraOperand name a

/-- The users there are. -/
def users : List String := ["root"]

/-- Tells who asks. -/
def identity : Utility := fun _ name args =>
  withOptions { letters := "agGnruzZ", words := [("group", 'g'), ("groups", 'G'), ("name", 'n'), ("real", 'r'),
      ("user", 'u'), ("zero", 'z'), ("context", 'Z')] } true 1 name args fun o => do
    let kinds := ((o.given.map (·.1)).filter fun c => "gGu".toList.contains c).eraseDups
    let finish := if o.has 'z' then "\x00" else "\n"
    if o.has 'Z' then fail name "--context (-Z) works only on an SELinux-enabled kernel" 1
    else if kinds.length > 1 then fail name "cannot print \"only\" of more than one choice" 1
    else if kinds.isEmpty && (o.has 'n' || o.has 'r') then
      fail name "cannot print only names or real IDs in default format" 1
    else if kinds.isEmpty && o.has 'z' then fail name "option --zero not permitted in default format" 1
    else
      let told := if kinds.isEmpty then "uid=0(root) gid=0(root) groups=0(root)" else if o.has 'n' then "root" else "0"
      refusedAtEnd name (← Sh.worst (if o.operands.isEmpty then users else o.operands) fun user => do
        if users.contains user || user = "0" then
          Sh.print (told ++ finish)
          return 0
        else fail name (Quoting.curly user ++ ": no such user") 1)

/-- Tells which groups users belong to. -/
def groupsOfUsers : Utility := fun _ name args =>
  withOptions {} true 1 name args fun o => do
    if o.operands.isEmpty then
      Sh.print "root\n"
      return 0
    else
      Sh.worst o.operands fun user => do
        if users.contains user then
          Sh.print (user ++ " : root\n")
          return 0
        else fail name (Quoting.curly user ++ ": no such user") 1

/-- Complains that nobody has logged in. -/
def logname : Utility := fun _ name args =>
  withOptions {} true 1 name args fun o => do
    match o.operands with
    | [] => fail name "no login name" 1
    | a :: _ => extraOperand name a

/-- Tells what machine this is. -/
def uname : Utility := fun _ name args =>
  withOptions { letters := "asnrvmpio", words := [("all", 'a'), ("kernel-name", 's'), ("nodename", 'n'),
      ("kernel-release", 'r'), ("kernel-version", 'v'), ("machine", 'm'), ("processor", 'p'),
      ("hardware-platform", 'i'), ("operating-system", 'o')] } true 1 name args fun o => do
    match o.operands with
    | a :: _ => extraOperand name a
    | [] =>
      let facts : List (Char × String) := [('s', "Linux"), ('n', "localhost"), ('r', "6.1.0"), ('v', "#1 SMP"),
        ('m', "x86_64"), ('p', "unknown"), ('i', "unknown"), ('o', "GNU/Linux")]
      let told := facts.filter fun f =>
        if o.has 'a' then f.2 != "unknown" else o.has f.1 || (o.given.isEmpty && f.1 = 's')
      Sh.print (" ".intercalate (told.map (·.2)) ++ "\n")
      refusedAtEnd name 0

/-- Tells that nobody sits at a terminal. -/
def tty : Utility := fun _ name args =>
  withOptions { letters := "s", words := [("silent", 's'), ("quiet", 's')] } true 2 name args fun o => do
    match o.operands with
    | a :: _ => misused name ("extra operand " ++ Quoting.curly a) 2
    | [] =>
      if !o.has 's' then Sh.print "not a tty\n"
      return 1

/-- Makes sure that files are kept. -/
def sync : Utility := fun _ name args =>
  withOptions { letters := "df", words := [("data", 'd'), ("file-system", 'f')] } true 1 name args fun o => do
    if o.has 'd' && o.operands.isEmpty then misused name "--data needs at least one argument" 1
    else
      Sh.worst o.operands fun path => do
        match ← Sh.node path with
        | .ok _ => return 0
        | .error r => fail name ("error opening " ++ Quoting.always path ++ ": " ++ r.reason) 1

/-! ### Time -/

/-- The format of dates as standards write them, to a precision. -/
def standardFormat? (precision separator : String) : Option String :=
  match precision with
  | "date" => some "%Y-%m-%d"
  | "hours" => some ("%Y-%m-%d" ++ separator ++ "%H%:z")
  | "minutes" => some ("%Y-%m-%d" ++ separator ++ "%H:%M%:z")
  | "seconds" => some ("%Y-%m-%d" ++ separator ++ "%H:%M:%S%:z")
  | "ns" => some ("%Y-%m-%d" ++ separator ++ "%H:%M:%S" ++ (if separator = " " then "." else ",") ++ "%N%:z")
  | _ => none

/-- Prints the time, or another one. -/
def date : Utility := fun _ name args =>
  withOptions { letters := "uR", valued := "dfrs3", optional := "I", wordly := "3", words := [("date", 'd'),
      ("debug", 'D'), ("file", 'f'), ("iso-8601", 'I'), ("rfc-3339", '3'), ("reference", 'r'), ("rfc-email", 'R'),
      ("rfc-822", 'R'), ("rfc-2822", 'R'), ("set", 's'), ("utc", 'u'), ("uct", 'u'), ("universal", 'u')] }
    true 1 name args fun o => do
    let own ← zone
    let zone := if o.has 'u' then ⟨"UTC", 0⟩ else own
    let now ← Sh.ask (·.files.now)
    let invalid (s : String) : Sh Nat := fail name ("invalid date " ++ Quoting.curly s) 1
    let standard : Except (Sh Nat) (Option String) := match o.last? ['I', '3', 'R'] with
      | some 'I' =>
        let value := (o.value? 'I').getD ""
        match standardFormat? (if value = "" then "date" else value) "T" with
        | some f => .ok (some f)
        | none => .error (invalidChoice name "--iso-8601" value ["hours", "minutes", "date", "seconds", "ns"])
      | some '3' =>
        let value := (o.value? '3').getD ""
        match if value = "hours" || value = "minutes" then none else standardFormat? value " " with
        | some f => .ok (some f)
        | none => .error (invalidChoice name "--rfc-3339" value ["date", "seconds", "ns"])
      | some _ => .ok (some "%a, %d %b %Y %H:%M:%S %z")
      | none => .ok none
    match standard with
    | .error complaint => complaint
    | .ok standard =>
      let sources := (o.given.map (·.1)).filter fun c => "dfr".toList.contains c
      match o.operands with
      | _ :: extra :: _ => extraOperand name extra
      | operands =>
        let operand := operands.headD "+"
        if (sources.eraseDups).length > 1 then
          misused name "the options to specify dates for printing are mutually exclusive" 1
        else if !operand.startsWith "+" then
          if sources.isEmpty then invalid operand
          else
            tell name ("the argument " ++ Quoting.curly operand ++ " lacks a leading '+';")
            Sh.report ("when using an option to specify date(s), any non-option\nargument must be a format " ++
              "string beginning with '+'")
            Sh.report ("Try '" ++ name ++ " --help' for more information.")
            return 1
        else if standard.isSome && !operands.isEmpty then fail name "multiple output formats specified" 1
        else
          let format := match operands, standard with
            | a :: _, _ => (a.drop 1).toString
            | [], some f => f
            | [], none => "%a %b %e %H:%M:%S %Z %Y"
          let told (time : Int) : Sh Unit := Sh.print (Calendar.written zone time format ++ "\n")
          let read (s : String) : Sh Nat :=
            match Calendar.read? zone now s with
            | some time => do
              told time
              return 0
            | none => invalid s
          let status ← match o.value? 'f', o.value? 'r', o.value? 'd', o.value? 's' with
            | some path, _, _, _ => do
              match ← Sh.contents path with
              | .ok text => Sh.worst (linesOf text) read
              | .error r => fail name (Quoting.name path ++ ": " ++ r.reason) 1
            | _, some path, _, _ => do
              match ← Sh.node path with
              | .ok found =>
                told found.node.changed
                pure 0
              | .error r => fail name (Quoting.name path ++ ": " ++ r.reason) 1
            | _, _, some s, _ => read s
            | _, _, _, some s => do
              match Calendar.read? zone now s with
              | some time =>
                tell name "cannot set date: Operation not permitted"
                told time
                pure 1
              | none => invalid s
            | _, _, _, _ => do
              told now
              pure 0
          refusedAtEnd name status

end Retrace.Unix.Utility
