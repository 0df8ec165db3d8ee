import Retrace.Unix.Format
import Retrace.Unix.Regular
import Retrace.Unix.Utility.Programs

/-!
# Files taken to pieces

What puts the pieces of a file into files of their own. The pieces are of some
size, or there is to be some number of them, or they begin at lines that are
asked for. The names of the files are a beginning and a number, which is written
in letters or in digits.
-/

namespace Retrace.Unix.Utility

/-! ### Names -/

/-- The names for pieces. -/
structure PieceNames where
  beginning : String
  ending : String
  digits : List Char
  /-- How many digits there are. -/
  width : Nat
  /-- Whether there may be more of them. -/
  widens : Bool
  first : Nat

namespace PieceNames

/-- A number in digits. -/
def numeral (digits : List Char) : (width n : Nat) → List Char
  | 0, _ => []
  | w + 1, n =>
    let base := max 1 digits.length
    numeral digits w (n / base) ++ [digits.getD (n % base) '0']

/-- A number in a notation that has more digits when it needs to: the last digit at the beginning
    says that there is one more. -/
def widening (digits : List Char) : (more width n : Nat) → List Char
  | 0, width, n => numeral digits width n
  | k + 1, width, n =>
    let base := digits.length
    let narrow := (base - 1) * Nat.pow base (width - 1)
    if n < narrow then numeral digits width n
    else digits.getLast?.getD 'z' :: widening digits k (width + 1) (n - narrow)

/-- The name of a piece, if there is one. -/
def name? (p : PieceNames) (n : Nat) : Option String :=
  let finished (cs : List Char) : String := p.beginning ++ String.ofList cs ++ p.ending
  if p.widens then some (finished (widening p.digits 8 p.width n))
  else if p.first + n < Nat.pow p.digits.length p.width then some (finished (numeral p.digits p.width (p.first + n)))
  else none

end PieceNames

/-! ### Pieces of a size -/

/-- Into what pieces something is taken. -/
inductive Division where
  | lines (count : Nat)
  | octets (count : Nat)
  /-- As many whole lines as there is room for. -/
  | linesWithin (count : Nat)
  /-- A number of pieces of the same size. -/
  | parts (count : Nat)
  /-- A number of pieces of whole lines, which begin in parts of the same size. -/
  | linesInParts (count : Nat)
  /-- A number of pieces that get the lines in turn. -/
  | turns (count : Nat)

namespace Division

/-- Lists of some members each. -/
def grouped {α : Type} (size : Nat) : (fuel : Nat) → List α → List (List α)
  | 0, _ => []
  | _, [] => []
  | n + 1, xs => xs.take size :: grouped size n (xs.drop size)

/-- The end of a part, if so many of them have the same size but for the first ones. -/
def partEnd (size count k : Nat) : Nat :=
  (k + 1) * (size / count) + min (k + 1) (size % count)

/-- Puts lines into pieces of a size. Given is the piece so far. -/
def fill (size : Nat) : (fuel : Nat) → (piece : List (List Char)) → (length : Nat) → List (List Char) → List String
  | 0, _, _, _ => []
  | _, piece, _, [] => if piece.isEmpty then [] else [String.ofList piece.reverse.flatten]
  | n + 1, piece, length, l :: ls =>
    if length + l.length ≤ size then fill size n (l :: piece) (length + l.length) ls
    else if piece.isEmpty then String.ofList (l.take size) :: fill size n [] 0 (l.drop size :: ls)
    else String.ofList piece.reverse.flatten :: fill size n [] 0 (l :: ls)

/-- Lines with the places where they begin. -/
def placed : (start : Nat) → List String → List (Nat × String)
  | _, [] => []
  | start, l :: ls => (start, l) :: placed (start + l.length) ls

/-- The pieces of a text. -/
def pieces (separator : Char) (text : String) : Division → List String
  | .lines n =>
    let ls := endedPieces separator text
    (grouped n (ls.length + 1) ls).map String.join
  | .octets n => (grouped n (text.length + 1) text.toList).map String.ofList
  | .linesWithin n =>
    let ls := endedPieces separator text
    fill n (2 * text.length + 2) [] 0 (ls.map String.toList)
  | .parts n =>
    let cs := text.toList
    (List.range n).map fun k =>
      let start := if k = 0 then 0 else partEnd cs.length n (k - 1)
      String.ofList ((cs.take (partEnd cs.length n k)).drop start)
  | .linesInParts n =>
    let ls := placed 0 (endedPieces separator text)
    let size := text.length
    (List.range n).map fun k =>
      let start := if k = 0 then 0 else partEnd size n (k - 1)
      String.join ((ls.filter fun (p, _) => start ≤ p && p < partEnd size n k).map (·.2))
  | .turns n =>
    let ls := endedPieces separator text
    (List.range n).map fun k => String.join ((ls.zipIdx.filter fun (_, i) => i % n = k).map (·.1))

/-- The number of pieces, if that is what was asked for. -/
def count? : Division → Option Nat
  | .parts n => some n
  | .linesInParts n => some n
  | .turns n => some n
  | _ => none

end Division

/-- How a file is to be taken to pieces. -/
structure Splitting where
  division : Option Division
  /-- The only piece that is wanted. -/
  only : Option Nat
  width : Option Nat
  digits : List Char
  first : Option Nat
  ending : String
  separator : Option Char
  filter : Option String
  verbose : Bool
  /-- Whether empty pieces are left out. -/
  elided : Bool

/-- A complaint about an option, after which nothing is done. -/
structure OptionFault where
  message : String
  hints : Bool

/-- The division into a number of pieces, and the one that is wanted. -/
def countedDivision (value : String) : Except OptionFault (Division × Option Nat) :=
  let (kind, rest) := if value.startsWith "l/" then ('l', (value.drop 2).toString)
    else if value.startsWith "r/" then ('r', (value.drop 2).toString) else (' ', value)
  let division (n : Nat) : Division :=
    if kind = 'l' then .linesInParts n else if kind = 'r' then .turns n else .parts n
  let wrong (s : String) : OptionFault := ⟨"invalid number of chunks: " ++ Quoting.curly s, false⟩
  let positive (s : String) : Except OptionFault Nat :=
    match amount? s with
    | some n => if n = 0 then .error (wrong s) else .ok n
    | none => .error (wrong s)
  match rest.splitOn "/" with
  | [n] => do return (division (← positive n), none)
  | [k, n] => do
    let count ← positive n
    match amount? k with
    | some k =>
      if 0 < k && k ≤ count then return (division count, some (k - 1))
      else throw ⟨"invalid chunk number: " ++ Quoting.curly (toString k), false⟩
    | none => throw ⟨"invalid chunk number: " ++ Quoting.curly k, false⟩
  | _ => .error (wrong rest)

/-- The letters that numbers are written in. -/
def smallLetters : List Char := (List.range 26).map fun n => Char.ofNat ('a'.toNat + n)

/-- Takes an option into account. -/
def Splitting.with (s : Splitting) (option : Char × String) : Except OptionFault Splitting := do
  let value := option.2
  let divided (d : Division) : Except OptionFault Splitting :=
    if s.division.isSome then .error ⟨"cannot split in more than one way", true⟩
    else .ok { s with division := some d }
  let counted (f : Nat → Division) (what : String) (n : Option Nat) : Except OptionFault Splitting :=
    match n with
    | some n => if n = 0 then .error ⟨"invalid number of " ++ what ++ ": " ++ Quoting.curly value, false⟩ else divided (f n)
    | none => .error ⟨"invalid number of " ++ what ++ ": " ++ Quoting.curly value, false⟩
  let numbered (base : Nat) (digits : List Char) (kind : String) : Except OptionFault Splitting :=
    if value = "" then .ok { s with digits := digits }
    else if value.toList.all fun c => (digitValue? base c).isSome then
      .ok { s with digits := digits, first := some (numberOf base value.toList) }
    else .error ⟨Quoting.curly value ++ ": invalid start value for " ++ kind ++ " suffix", true⟩
  match option.1 with
  | 'a' =>
    match natural? value with
    | some n => return { s with width := if n = 0 then none else some n }
    | none => throw ⟨"invalid suffix length: " ++ Quoting.curly value, false⟩
  | 'b' => counted .octets "bytes" (amount? value)
  | 'l' => counted .lines "lines" (natural? value)
  | 'C' => counted .linesWithin "lines" (amount? value)
  | 'n' =>
    let (d, only) ← countedDivision value
    return { ← divided d with only := only }
  | 'd' => numbered 10 "0123456789".toList "numerical"
  | 'x' => numbered 16 "0123456789abcdef".toList "hexadecimal"
  | 'e' => return { s with elided := true }
  | 'v' => return { s with verbose := true }
  | 'f' => return { s with filter := some value }
  | 's' =>
    if value.toList.contains '/' then
      throw ⟨"invalid suffix " ++ Quoting.curly value ++ ", contains directory separator", true⟩
    else return { s with ending := value }
  | 't' =>
    let c ← match value.toList with
      | [] => throw ⟨"empty record separator", false⟩
      | [c] => pure c
      | ['\\', '0'] => pure '\x00'
      | _ => throw ⟨"multi-character separator " ++ Quoting.curly value, false⟩
    if s.separator.any (· != c) then throw ⟨"multiple separator characters specified", false⟩
    else return { s with separator := some c }
  | _ => return s

/-- The names for the pieces; `none` if there cannot be enough of them. -/
def Splitting.names (s : Splitting) (beginning : String) : Except Nat PieceNames :=
  let digits := if s.digits.isEmpty then smallLetters else s.digits
  let first := s.first.getD 0
  match s.division.bind Division.count? with
  | some n =>
    let last := n - 1 + if first < n then first else 0
    let needed := ((List.range 64).find? fun w => last < Nat.pow digits.length (w + 1)).getD 63 + 1
    match s.width with
    | some w => if w < needed then .error needed else .ok ⟨beginning, s.ending, digits, w, false, first⟩
    | none => .ok ⟨beginning, s.ending, digits, max 2 needed, false, first⟩
  | none => .ok ⟨beginning, s.ending, digits, s.width.getD 2, s.width.isNone && s.first.isNone, first⟩

/-- Runs a command on a piece, with the name that would be the file's. -/
def filterPiece (e : Engine) (name command path text : String) : Sh Nat := do
  let n ← Sh.addChannel (.source text.toList false)
  let before ← Sh.parameterItself? "FILE"
  Sh.setVariable "FILE" (some { Variable.single path with exported := true })
  let result ← Sh.withStreams do
    Sh.lead 0 (some n)
    e.invoke ["/bin/sh", "-c", command]
  Sh.setVariable "FILE" before
  match result with
  | .ok 0 => return 0
  | .ok status =>
    fail name ("with FILE=" ++ path ++ ", exit " ++ toString status ++ " from command: " ++ command) status
  | .error r => fail name ("failed to run command: \"" ++ command ++ "\": " ++ r.reason) 1

/-- Gives the pieces to files, one after the other. -/
def writePieces (e : Engine) (name : String) (s : Splitting) (names : PieceNames) : (k : Nat) → List String → Sh Nat
  | _, [] => return 0
  | k, text :: rest => do
    match names.name? k with
    | none => fail name "output file suffixes exhausted" 1
    | some path =>
      if s.elided && text = "" then writePieces e name s names k rest
      else
        let status ← match s.filter with
          | some command => do
            if s.verbose then Sh.print ("executing with FILE=" ++ Quoting.always path ++ "\n")
            filterPiece e name command path text
          | none => do
            if s.verbose then Sh.print ("creating file " ++ Quoting.always path ++ "\n")
            printInto name path text .writing plainComplaint
        if status != 0 then return status else writePieces e name s names (k + 1) rest

/-- A number after a dash as an option. -/
def lineCountAsOption (args : List String) : List String :=
  args.map fun a =>
    if a.startsWith "-" && (natural? (a.drop 1).toString).isSome then "-l" ++ (a.drop 1).toString else a

/-- Takes a file to pieces. -/
def split : Utility := fun e name args =>
  let names : OptionNames := {
    letters := "dexu"
    valued := "abCfnlst"
    optional := "dx"
    wordly := "fvs"
    words := [("suffix-length", 'a'), ("additional-suffix", 's'), ("bytes", 'b'), ("line-bytes", 'C'),
      ("numeric-suffixes", 'd'), ("hex-suffixes", 'x'), ("elide-empty-files", 'e'), ("filter", 'f'), ("lines", 'l'),
      ("number", 'n'), ("separator", 't'), ("unbuffered", 'u'), ("verbose", 'v')] }
  let names := { names with letters := names.letters ++ "v" }
  withOptions names true 1 name (lineCountAsOption args) fun o => do
    let start : Splitting := ⟨none, none, none, [], none, "", none, none, false, false⟩
    match o.given.foldlM Splitting.with start with
    | .error f => if f.hints then misused name f.message 1 else fail name f.message 1
    | .ok s =>
      match o.operands with
      | _ :: _ :: extra :: _ => extraOperand name extra
      | operands =>
        let path := operands.headD "-"
        match s.names ((operands.drop 1).headD "x") with
        | .error needed => fail name ("the suffix length needs to be at least " ++ toString needed) 1
        | .ok names =>
          match ← Sh.contents path with
          | .error .isDirectory => fail name (plainComplaint path "Is a directory") 1
          | .error r => fail name ("cannot open " ++ Quoting.always path ++ " for reading: " ++ r.reason) 1
          | .ok text =>
            let ps := (s.division.getD (.lines 1000)).pieces (s.separator.getD '\n') text
            match s.only with
            | some k =>
              Sh.print (ps.getD k "")
              refusedAtEnd name 0
            | none => refusedAtEnd name (← writePieces e name s names 0 ps)

/-! ### Pieces that begin at lines -/

/-- Where a piece ends. -/
inductive Border where
  /-- Before a line of a number. -/
  | line (n : Nat)
  /-- So many lines after one that matches. What comes before may be left out. -/
  | matching (r : Regular) (offset : Int) (ignored : Bool)

/-- A border that is asked for, and how often it comes again; for ever if that is not said. -/
structure BorderSought where
  source : String
  border : Border
  again : Option Nat

namespace BorderSought

/-- The border a text asks for. -/
def border? (s : String) : Except String Border :=
  match s.toList with
  | [] => .error (Quoting.curly s ++ ": invalid pattern")
  | c :: cs =>
    if c = '/' || c = '%' then
      -- the last delimiter ends the expression
      let after := (cs.reverse.takeWhile (· != c)).reverse
      if after.length = cs.length then .error (s ++ ": closing delimiter '" ++ String.singleton c ++ "' missing")
      else
        let body := cs.take (cs.length - after.length - 1)
        let offset? : Option Int := match after with
          | [] => some 0
          | '+' :: ds => (natural? (String.ofList ds)).map Int.ofNat
          | '-' :: ds => (natural? (String.ofList ds)).map fun n => -Int.ofNat n
          | ds => (natural? (String.ofList ds)).map Int.ofNat
        match offset? with
        | none => .error (Quoting.curly s ++ ": integer expected after delimiter")
        | some offset =>
          match Regular.read .basic (String.ofList body) with
          | .ok r => .ok (.matching r offset (c = '%'))
          | .error m => .error (Quoting.curly s ++ ": invalid regular expression: " ++ m)
    else
      match natural? s with
      | some 0 => .error (s ++ ": line number must be greater than zero")
      | some n => .ok (.line n)
      | none => .error (Quoting.curly s ++ ": invalid pattern")

/-- The number of repetitions a text asks for; `none` inside if there is no end. -/
def repetitions? (s : String) : Option (Except String (Option Nat)) :=
  match s.toList with
  | '\x7b' :: cs =>
    if cs.getLast? != some '\x7d' then some (.error (s ++ ": '\x7d' is required in repeat count"))
    else
      let inner := String.ofList cs.dropLast
      if inner = "*" then some (.ok none)
      else match natural? inner with
        | some n => some (.ok (some n))
        | none => some (.error (Quoting.curly ("\x7b" ++ inner) ++ "\x7d: integer required between '\x7b' and '\x7d'"))
  | _ => none

/-- The borders that some texts ask for, with what there is to warn of. -/
def readAll : (most last : Nat) → List String → Except String (List BorderSought × List String)
  | 0, _, _ => .ok ([], [])
  | _, _, [] => .ok ([], [])
  | k + 1, last, s :: rest => do
    let border ← border? s
    let (again, rest) ← match rest with
      | t :: more => match repetitions? t with
        | some (.ok n) => pure (n, more)
        | some (.error m) => throw m
        | none => pure (some 0, rest)
      | [] => pure (some 0, rest)
    match border with
    | .line n =>
      if n < last then
        throw ("line number " ++ Quoting.curly (toString n) ++ " is smaller than preceding line number, " ++ toString last)
      let warning := if n = last then
          ["warning: line number " ++ Quoting.curly (toString n) ++ " is the same as preceding line number"]
        else []
      let (borders, warnings) ← readAll k n rest
      return (⟨s, border, again⟩ :: borders, warning ++ warnings)
    | .matching .. =>
      let (borders, warnings) ← readAll k last rest
      return (⟨s, border, again⟩ :: borders, warnings)

end BorderSought

/-- How far cutting has come. -/
structure Cutting where
  lines : Array String
  /-- The number of the next line that was not given to a piece. -/
  first : Nat
  /-- The number of the line that was looked at last. -/
  current : Nat
  /-- The lines of the piece that is open, the last one first. -/
  open' : Option (List String)
  /-- The pieces that are closed, the last one first. -/
  closed : List String

namespace Cutting

/-- Cutting goes on until there is nothing left, or something to complain about. -/
abbrev Cut := ExceptT (Option String) (StateM Cutting)

/-- Begins a piece. -/
def begin : Cut Unit := modify fun s => { s with open' := some [] }

/-- Takes the next line. -/
def take : Cut (Option String) := do
  let s ← get
  match s.lines[s.first - 1]? with
  | none => return none
  | some l =>
    set { s with first := s.first + 1, current := max s.current s.first }
    return some l

/-- Adds a line to the piece. -/
def add (l : String) : Cut Unit := modify fun s => { s with open' := s.open'.map (l :: ·) }

/-- Ends the piece. -/
def close : Cut Unit := modify fun s =>
  match s.open' with
  | some ls => { s with open' := none, closed := String.join ls.reverse :: s.closed }
  | none => s

/-- Takes all lines that are left. -/
def takeRest : Cut Unit := modify fun s => { s with
  open' := s.open'.map fun ls => (s.lines.toList.drop (s.first - 1)).reverse ++ ls
  first := s.lines.size + 1
  current := s.lines.size }

/-- Gives up, with something to be said. -/
def giveUp {α : Type} (message : String) : Cut α := do
  close
  throw (some message)

/-- What is added to a complaint at a repetition. -/
def onRepetition (repetition : Nat) : String :=
  if repetition = 0 then "" else " on repetition " ++ toString repetition

/-- Takes lines before one of a number. Given is how many there are at most. -/
def takeBefore (b : BorderSought) (repetition last : Nat) : (most : Nat) → Cut Unit
  | 0 => return
  | n + 1 => do
    if (← get).first < last then
      match ← take with
      | some l =>
        add l
        takeBefore b repetition last n
      | none => outOfRange b repetition
    else return
where
  /-- Complains that there are not so many lines. -/
  outOfRange (b : BorderSought) (repetition : Nat) : Cut Unit :=
    giveUp (Quoting.curly b.source ++ ": line number out of range" ++ onRepetition repetition)

/-- Ends a piece before a line of a number. -/
def atLine (suppressing : Bool) (b : BorderSought) (n repetition : Nat) : Cut Unit := do
  begin
  let s ← get
  if s.lines.size < s.first then throw (some "input disappeared")
  takeBefore b repetition (n * (repetition + 1)) (s.lines.size + 2)
  close
  if suppressing then
    let _ ← take
  let s ← get
  if s.lines.size < s.first && !suppressing then takeBefore.outOfRange b repetition

/-- Looks for a line that matches, from the next one on. Lines before it are given to the piece if
    they are not `kept`. -/
def search (b : BorderSought) (r : Regular) (ignored kept : Bool) (repetition : Nat) : (most : Nat) → Cut Unit
  | 0 => return
  | n + 1 => do
    modify fun s => { s with current := s.current + 1 }
    let s ← get
    match s.lines[s.current - 1]? with
    | none =>
      if !ignored then
        takeRest
        close
      if b.again.isNone then throw none
      else giveUp (Quoting.curly b.source ++ ": match not found" ++ onRepetition repetition)
    | some l =>
      let text := if l.endsWith "\n" then (l.dropEnd 1).toString else l
      if (Regular.find? .usual r (Multibyte.characters text.toList) 0).isSome then return
      else
        if !kept then
          if let some l ← take then
            if !ignored then add l
        search b r ignored kept repetition n

/-- Takes a number of lines. -/
def takeMany (b : BorderSought) (ignored : Bool) : (count : Nat) → Cut Unit
  | 0 => return
  | n + 1 => do
    match ← take with
    | some l =>
      if !ignored then add l
      takeMany b ignored n
    | none => giveUp (Quoting.curly b.source ++ ": line number out of range")

/-- Ends a piece at a line that matches. -/
def atMatch (suppressing : Bool) (b : BorderSought) (r : Regular) (offset : Int) (ignored : Bool) (repetition : Nat) :
    Cut Unit := do
  if !ignored then begin
  search b r ignored (offset < 0) repetition ((← get).lines.size + 2)
  let s ← get
  let border : Int := s.current + offset
  if border < s.first then giveUp (Quoting.curly b.source ++ ": line number out of range")
  takeMany b ignored (border - s.first).toNat
  if !ignored then close
  if 0 < offset then modify fun s => { s with current := border.toNat }
  if suppressing then
    let _ ← take

/-- Ends a piece at a border, as often as it comes again. -/
def atBorder (suppressing : Bool) (b : BorderSought) : (fuel repetition : Nat) → Cut Unit
  | 0, _ => return
  | n + 1, k => do
    if b.again.all (k ≤ ·) then
      match b.border with
      | .line line => atLine suppressing b line k
      | .matching r offset ignored => atMatch suppressing b r offset ignored k
      atBorder suppressing b n (k + 1)
    else return

/-- The pieces between borders, and a complaint if not all of them were found. -/
def pieces (suppressing : Bool) (borders : List BorderSought) (text : String) : List String × Option String :=
  let lines := (endedPieces '\n' text).toArray
  let cut : Cut Unit := do
    for b in borders do
      atBorder suppressing b (lines.size + 3) 0
    begin
    takeRest
    close
  let (result, s) := cut.run.run ⟨lines, 1, 0, none, []⟩
  (s.closed.reverse, match result with
    | .error m => m
    | .ok _ => none)

end Cutting

/-- What is wrong with the format of a number in names, if anything is. -/
def suffixFault? (s : String) : Option String :=
  let rec go : (found : Bool) → List Char → Option String
    | found, '%' :: '%' :: cs => go found cs
    | found, '%' :: cs =>
      if found then some "too many % conversion specifications in suffix"
      else
        let rest := cs.dropWhile fun c => "-+ #'0".toList.contains c || c.isDigit || c = '.'
        match rest with
        | [] => some "missing conversion specifier in suffix"
        | c :: _ => if "diuoxX".toList.contains c then go true cs
          else some ("invalid conversion specifier in suffix: " ++ String.singleton c)
    | found, _ :: cs => go found cs
    | found, [] => if found then none else some "missing % conversion specification in suffix"
  go false s.toList

/-- Takes a file to pieces at lines. -/
def csplit : Utility := fun _ name args =>
  withOptions {
      letters := "ksqz"
      valued := "fbn"
      wordly := "m"
      words := [("suffix-format", 'b'), ("prefix", 'f'), ("keep-files", 'k'), ("suppress-matched", 'm'), ("digits", 'n'),
        ("silent", 's'), ("quiet", 'q'), ("elide-empty-files", 'z')] } true 1 name args fun o => do
    let digits? := natural? ((o.value? 'n').getD "2")
    match digits?, (o.value? 'b').bind suffixFault? with
    | none, _ => fail name ("invalid number: " ++ Quoting.curly ((o.value? 'n').getD "")) 1
    | _, some m => fail name m 1
    | some digits, none =>
      match o.operands with
      | [] => misused name "missing operand" 1
      | [path] => misused name ("missing operand after " ++ Quoting.curly path) 1
      | path :: texts =>
        match ← Sh.contents path with
        | .error r => fail name ("cannot open " ++ Quoting.always path ++ " for reading: " ++ r.reason) 1
        | .ok text =>
          match BorderSought.readAll texts.length 0 texts with
          | .error m => fail name m 1
          | .ok (borders, warnings) =>
            Sh.each warnings (tell name)
            let (pieces, complaint) := Cutting.pieces (o.has 'm') borders text
            let pieces := if o.has 'z' then pieces.filter (· != "") else pieces
            let fileName (k : Nat) : String := (o.value? 'f').getD "xx" ++ match o.value? 'b' with
              | some format => (Format.print .program ⟨Calendar.Zone.of "UTC", 0, 0⟩ format [toString k]).text
              | none => Fraction.zeroPadded digits (toString k)
            let status ← if complaint.isSome && !o.has 'k' then pure 0
              else Sh.worst pieces.zipIdx fun (piece, k) =>
                printInto name (fileName k) piece .writing plainComplaint
            if !(o.has 's' || o.has 'q') then
              Sh.print (unlines (pieces.map fun p => toString p.length))
            match complaint with
            | some m => fail name m 1
            | none => return status

end Retrace.Unix.Utility
