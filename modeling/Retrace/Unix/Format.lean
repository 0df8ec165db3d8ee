import Retrace.Unix.Calendar
import Retrace.Unix.Quantity
import Retrace.Unix.Quoting

/-!
# Formatted output

The directives of `printf`, and the escape sequences of it and of `echo`. A
format is gone through again as long as there are arguments left; arguments that
are missing count as empty or as zero.
-/

namespace Retrace.Unix

/-! ### Escape sequences -/

namespace Escape

/-- Which escape sequences there are. -/
structure Style where
  /-- Those of the extended dialect. -/
  extended : Bool
  /-- Octal digits directly after the backslash. -/
  octal : Bool
  /-- Up to three octal digits after a zero. -/
  zeroOctal : Bool
  /-- The sequence that ends all output. -/
  stops : Bool
  /-- Quotes that lose their backslash. -/
  quotes : Bool
  /-- Whether digits that are missing are complained about. -/
  complains : Bool

/-- What escape sequences are replaced by, whether that ended all output, and what there is to
    complain about. -/
structure Expanded where
  text : List Char
  stopped : Bool
  complaints : List String

/-- Replaces the escape sequences in some characters. -/
def expand (st : Style) : (fuel : Nat) → List Char → Expanded
  | 0, cs => ⟨cs, false, []⟩
  | _ + 1, [] => ⟨[], false, []⟩
  | n + 1, '\\' :: c :: cs =>
    let go (before : List Char) (rest : List Char) : Expanded :=
      let after := expand st n rest
      { after with text := before ++ after.text }
    let missing (what : String) : Expanded :=
      let after := expand st n cs
      { after with
        text := '\\' :: c :: after.text
        complaints := ("missing " ++ what ++ " digit for \\" ++ String.singleton c) :: after.complaints }
    let digits (base most : Nat) (ds : List Char) : List Char :=
      (ds.take most).takeWhile fun d => (digitValue? base d).isSome
    let byte (base : Nat) (ds : List Char) : List Char := [Char.ofNat (numberOf base ds % 256)]
    match c with
    | 'a' => go ['\x07'] cs
    | 'b' => go ['\x08'] cs
    | 'f' => go ['\x0c'] cs
    | 'n' => go ['\n'] cs
    | 'r' => go ['\r'] cs
    | 't' => go ['\t'] cs
    | 'v' => go ['\x0b'] cs
    | 'e' => go ['\x1b'] cs
    | '\\' => go ['\\'] cs
    | _ =>
      if c = 'E' && st.extended then go ['\x1b'] cs
      else if c = 'c' && st.stops then ⟨[], true, []⟩
      else if (c = '"' || c = '\'' || c = '?') && st.quotes then go [c] cs
      else if c = 'x' && st.extended then
        let ds := digits 16 2 cs
        if !ds.isEmpty then go (byte 16 ds) (cs.drop ds.length)
        else if st.complains then missing "hex" else go ['\\', c] cs
      else if (c = 'u' || c = 'U') && st.extended then
        let ds := digits 16 (if c = 'u' then 4 else 8) cs
        if !ds.isEmpty then go (encoded (numberOf 16 ds)) (cs.drop ds.length)
        else if st.complains then missing "unicode" else go ['\\', c] cs
      else if c = '0' && st.zeroOctal then
        let ds := digits 8 3 cs
        go (byte 8 ds) (cs.drop ds.length)
      else if st.octal && (digitValue? 8 c).isSome then
        let ds := digits 8 3 (c :: cs)
        go (byte 8 ds) ((c :: cs).drop ds.length)
      else go ['\\', c] cs
  | n + 1, c :: cs =>
    let after := expand st n cs
    { after with text := c :: after.text }

/-- Replaces the escape sequences in a text. -/
def text (st : Style) (s : String) : Expanded :=
  expand st (s.length + 1) s.toList

/-- The escape sequences in a format. -/
def inFormat (extended : Bool) : Style := ⟨extended, true, false, false, extended, extended⟩

/-- The escape sequences in an argument. -/
def inArgument (extended : Bool) : Style := ⟨extended, true, true, true, false, extended⟩

/-- The escape sequences in what is echoed. -/
def inEcho (extended : Bool) : Style := ⟨extended, !extended, true, true, false, false⟩

end Escape

/-! ### Echo -/

namespace Echo

/-- Whether an argument is made of letters that are options. -/
def isOption (s : String) : Bool :=
  match s.toList with
  | '-' :: c :: cs => (c :: cs).all fun c => c = 'n' || c = 'e' || c = 'E'
  | _ => false

/-- What is echoed in the extended dialect. Backslashes may have a meaning without being asked for. -/
def extended (escaping : Bool) (args : List String) : String :=
  let options := args.takeWhile isOption
  let letters := options.flatMap String.toList
  let escapes := ((letters.filter fun c => c = 'e' || c = 'E').getLast?.map (· == 'e')).getD escaping
  let body := " ".intercalate (args.drop options.length)
  let expanded := if escapes then Escape.text (Escape.inEcho true) body else ⟨body.toList, false, []⟩
  let body := String.ofList expanded.text
  if letters.contains 'n' || expanded.stopped then body else body ++ "\n"

/-- What is echoed in the other dialect. -/
def plain (args : List String) : String :=
  let (args, line) := match args with
    | "-n" :: args => (args, false)
    | args => (args, true)
  let expanded := Escape.text (Escape.inEcho false) (" ".intercalate args)
  let body := String.ofList expanded.text
  if line && !expanded.stopped then body ++ "\n" else body

end Echo

/-! ### Directives -/

namespace Format

/-- Who prints: a shell of one of the dialects, or a program. -/
inductive Speaker where
  | extended | plain | program
deriving DecidableEq

/-- The speaker for a dialect. -/
def Speaker.of (extended : Bool) : Speaker := if extended then .extended else .plain

/-- How much space something is given. -/
inductive Extent where
  | given (n : Nat)
  /-- By an argument. -/
  | argument

/-- How something is printed. -/
structure Directive where
  flags : List Char
  width : Option Extent
  precision : Option Extent
  conversion : Char
  /-- The format of a time. -/
  time : String

/-- The pieces of a format. -/
inductive Piece where
  | text (s : String)
  /-- The end of all output. -/
  | ending
  /-- Something that is complained about. -/
  | doubtful (complaint : String)
  | directive (d : Directive)
  /-- A directive that means nothing, as it was written, and the character for which that is so. -/
  | invalid (source : String) (c : Char)
  /-- A directive that is not complete. -/
  | incomplete (source : String)

/-- An extent at the beginning of some characters, and what is left. -/
def extent? (cs : List Char) : Option Extent × List Char :=
  match cs with
  | '*' :: cs => (some .argument, cs)
  | cs =>
    let ds := cs.takeWhile Char.isDigit
    (if ds.isEmpty then none else some (.given (numberOf 10 ds)), cs.drop ds.length)

/-- The conversions of a speaker. -/
def conversions : Speaker → List Char
  | .extended => "diouxXcsbfFeEgGaAqQn".toList
  | .plain => "diouxXcsbfFeEgGaA".toList
  | .program => "diouxXcsbfFeEgGaAq".toList

/-- The flags of a speaker. -/
def flagsOf : Speaker → List Char
  | .extended => "-+ #0'".toList
  | .plain => "-+ #0".toList
  | .program => "-+ #0'I".toList

/-- The format of a time between parentheses, with as many open as given, and what is left. -/
def timeFormat : (depth : Nat) → List Char → List Char × List Char
  | _, [] => ([], [])
  | depth, c :: cs =>
    if c = ')' then
      match depth with
      | 0 => ([], cs)
      | depth + 1 =>
        let (format, rest) := timeFormat depth cs
        (c :: format, rest)
    else
      let (format, rest) := timeFormat (if c = '(' then depth + 1 else depth) cs
      (c :: format, rest)

/-- The directive after a percent sign, and what is left. -/
def directive (speaker : Speaker) (cs : List Char) : List Piece × List Char :=
  let flags := cs.takeWhile fun c => (flagsOf speaker).contains c
  let (width, rest) := extent? (cs.drop flags.length)
  let (precision, rest) := match rest with
    | '.' :: rest =>
      let (p, rest) := extent? rest
      (some (p.getD (.given 0)), rest)
    | rest => (none, rest)
  let rest := if speaker = .plain then rest else rest.dropWhile fun c => "hjlLtz".toList.contains c
  match rest with
  | [] => ([.incomplete (String.ofList ('%' :: cs))], [])
  | '(' :: more =>
    let source := String.ofList ('%' :: cs.take (cs.length - more.length))
    if speaker = .extended then
      let (format, after) := timeFormat 0 more
      match after with
      | 'T' :: rest =>
        let format := if format.isEmpty then "%X" else String.ofList format
        ([.directive ⟨flags, width, precision, 'T', format⟩], rest)
      | after =>
        ([.doubtful ("warning: \x60" ++ String.ofList (after.take 1) ++ "': invalid time format specification"),
          .text "%"], cs)
    else ([.invalid source '('], more)
  | c :: rest =>
    if (conversions speaker).contains c then ([.directive ⟨flags, width, precision, c, ""⟩], rest)
    else ([.invalid (String.ofList ('%' :: cs.take (cs.length - rest.length))) c], rest)

/-- The escape sequences in a format. -/
def escapes : Speaker → Escape.Style
  | .extended => Escape.inFormat true
  | .plain => Escape.inFormat false
  | .program => ⟨true, true, false, true, true, true⟩

/-- The pieces of a format. -/
def pieces (speaker : Speaker) : (fuel : Nat) → List Char → List Piece
  | 0, _ => []
  | _ + 1, [] => []
  | n + 1, '%' :: '%' :: cs => .text "%" :: pieces speaker n cs
  | n + 1, '%' :: cs =>
    let (ps, rest) := directive speaker cs
    ps ++ pieces speaker n rest
  | n + 1, cs =>
    let literal := cs.takeWhile (· != '%')
    let expanded := Escape.expand (escapes speaker) (literal.length + 1) literal
    expanded.complaints.map .doubtful ++ [.text (String.ofList expanded.text)] ++
      if expanded.stopped then [.ending] else pieces speaker n (cs.drop literal.length)

/-! ### Numbers -/

/-- Why an argument is no number. -/
inductive NumberFault where
  /-- There is no number at its beginning. -/
  | missing
  /-- Something follows it. -/
  | trailing
  | outOfRange

/-- The whole number at the beginning of an argument, which is kept in a range. -/
def whole (characters : List Char → List Char) (low high : Int) (s : String) :
    Int × Option NumberFault :=
  match s.toList with
  | '\'' :: cs => (((characters cs).head?.getD '\x00').toNat, none)
  | '"' :: cs => (((characters cs).head?.getD '\x00').toNat, none)
  | cs =>
    let cs := cs.dropWhile Char.isWhitespace
    let negative := cs.head? = some '-'
    let unsigned := if negative || cs.head? = some '+' then cs.drop 1 else cs
    let (base, digits) := match unsigned with
      | '0' :: 'x' :: ds => (16, ds)
      | '0' :: 'X' :: ds => (16, ds)
      | '0' :: ds => (8, '0' :: ds)
      | ds => (10, ds)
    let used := digits.takeWhile fun c => (digitValue? base c).isSome
    let n : Int := numberOf base used
    let n := if negative then -n else n
    if used.isEmpty then (0, if s = "" then none else some .missing)
    else if n < low then (low, some .outOfRange)
    else if high < n then (high, some .outOfRange)
    else (n, if used.length < digits.length then some .trailing else none)

/-- The number with a fraction in an argument. -/
def quantity (characters : List Char → List Char) (s : String) : Quantity × Option NumberFault :=
  match s.toList with
  | '\'' :: cs => (.finite (.ofInt ((characters cs).head?.getD '\x00').toNat), none)
  | '"' :: cs => (.finite (.ofInt ((characters cs).head?.getD '\x00').toNat), none)
  | cs =>
    match Quantity.read? cs with
    | some (q, []) => (q, none)
    | some (q, _) => (q, some .trailing)
    | none => (.finite .zero, if s = "" then none else some .missing)

/-! ### Printing -/

/-- What printing has led to. -/
structure Printed where
  args : List String
  /-- Whether an argument was used. -/
  used : Bool
  /-- What was printed, the last piece first. -/
  output : List String
  complaints : List String
  failed : Bool
  stopped : Bool
  /-- The names that get how much was printed up to some place. -/
  counts : List (String × Nat)

/-- The printing with a directive. -/
abbrev Print := StateM Printed

/-- The next argument. -/
def next? : Print (Option String) := do
  let s ← get
  match s.args with
  | a :: args =>
    set { s with args := args, used := true }
    return some a
  | [] => return none

/-- Adds to the output. -/
def put (text : String) : Print Unit :=
  modify fun s => { s with output := text :: s.output }

/-- Adds a complaint, which may be a reason to fail. -/
def remark (text : String) (fails : Bool) : Print Unit :=
  modify fun s => { s with complaints := s.complaints ++ [text], failed := s.failed || fails }

/-- Adds a complaint. -/
def complain (text : String) : Print Unit :=
  remark text true

/-- A text in the space it is given. -/
def padded (width : Nat) (left : Bool) (s : String) : String :=
  let gap := String.ofList (List.replicate (width - s.length) ' ')
  if left then s ++ gap else gap ++ s

/-- A number in the space it is given, with zeros after its sign if need be. -/
def paddedNumber (width : Nat) (left zeros : Bool) (sign digits : String) : String :=
  if zeros && !left then sign ++ Fraction.zeroPadded (width - sign.length) digits
  else padded width left (sign ++ digits)

/-- A complaint about a number. -/
def numberComplaint (speaker : Speaker) (arg : String) (fault : NumberFault) : Print Unit :=
  match speaker with
  | .extended =>
    let invalid : String := match arg.toList with
      | '0' :: 'x' :: _ => "hex "
      | '0' :: c :: _ => if c.isDigit then "octal " else ""
      | _ => ""
    match fault with
    | .outOfRange => remark ("warning: " ++ arg ++ ": Numerical result out of range") false
    | _ => complain (arg ++ ": invalid " ++ invalid ++ "number")
  | .plain =>
    match fault with
    | .missing => complain (arg ++ ": expected numeric value")
    | .trailing => complain (arg ++ ": not completely converted")
    | .outOfRange => complain (arg ++ ": Numerical result out of range")
  | .program =>
    match fault with
    | .missing => complain (Quoting.curly arg ++ ": expected a numeric value")
    | .trailing => complain (Quoting.curly arg ++ ": value not completely converted")
    | .outOfRange => complain (Quoting.curly arg ++ ": Numerical result out of range")

/-- The characters that octets stand for. -/
def charactersFor (speaker : Speaker) (cs : List Char) : List Char :=
  if speaker = .plain then cs else Multibyte.characters cs

/-- The next argument as a whole number. -/
def wholeArgument (speaker : Speaker) (low high : Int) : Print Int := do
  match ← next? with
  | none => return 0
  | some arg =>
    let (n, fault) := whole (charactersFor speaker) low high arg
    if let some k := fault then numberComplaint speaker arg k
    return n

/-- An extent, for which an argument may be needed. -/
def extent (speaker : Speaker) : Option Extent → Print (Option Int)
  | none => return none
  | some (.given n) => return some n
  | some .argument => do return some (← wholeArgument speaker (-Int.pow 2 31) (Int.pow 2 31 - 1))

/-- The sign of a number. -/
def signOf (flags : List Char) (negative : Bool) : String :=
  if negative then "-"
  else if flags.contains '+' then "+"
  else if flags.contains ' ' then " "
  else ""

/-- The precision of numbers with a fraction. -/
def precisionFor (speaker : Speaker) : Precision :=
  if speaker = .plain then .double else .extended

/-- A number with a fraction in the space it is given. -/
def shownQuantity (flags : List Char) (width : Nat) (left : Bool) (precision : Option Nat) (p : Precision)
    (conversion : Char) (q : Quantity) : String :=
  let alternate := flags.contains '#'
  let places := precision.getD 6
  let sign := signOf flags q.isNegative
  let capitals (s : String) : String :=
    if conversion.isUpper then String.ofList (s.toList.map Char.toUpper) else s
  match q with
  | .infinite _ => padded width left (sign ++ capitals "inf")
  | .undefined _ => padded width left (sign ++ capitals "nan")
  | .finite f =>
    let zeros := flags.contains '0'
    match conversion.toLower with
    | 'f' => paddedNumber width left zeros sign (Fraction.fixed places alternate f)
    | 'e' => paddedNumber width left zeros sign (capitals (Fraction.scientific places alternate f))
    | 'g' => paddedNumber width left zeros sign (capitals (Fraction.general places alternate f))
    | _ =>
      paddedNumber width left zeros (sign ++ capitals "0x")
        (capitals (Fraction.hexadecimal p precision alternate f))

/-- A whole number, or one without a sign, in the space it is given. -/
def shownWhole (flags : List Char) (width : Nat) (left : Bool) (precision : Option Nat)
    (conversion : Char) (n : Int) : String :=
  let zeros := flags.contains '0' && precision.isNone
  let alternate := flags.contains '#'
  let digits (base : Nat) (n : Nat) : String :=
    if n = 0 && precision = some 0 then ""
    else Fraction.zeroPadded (precision.getD 1) (String.ofList (Nat.toDigits base n))
  let unsigned := (n % Nat.pow 2 64).toNat
  match conversion with
  | 'o' =>
    let s := digits 8 unsigned
    paddedNumber width left zeros "" (if alternate && !s.startsWith "0" then "0" ++ s else s)
  | 'x' =>
    paddedNumber width left zeros (if alternate && unsigned != 0 then "0x" else "") (digits 16 unsigned)
  | 'X' =>
    paddedNumber width left zeros (if alternate && unsigned != 0 then "0X" else "")
      (String.ofList ((digits 16 unsigned).toList.map Char.toUpper))
  | 'u' => paddedNumber width left zeros "" (digits 10 unsigned)
  | _ => paddedNumber width left zeros (signOf flags (n < 0)) (digits 10 n.natAbs)

/-- What times are told by: the zone, the time now, and when the shell was started. -/
structure Clock where
  zone : Calendar.Zone
  now : Int
  started : Int

/-- Prints with a directive. -/
def printDirective (speaker : Speaker) (clock : Clock) (d : Directive) : Print Unit := do
  let w ← extent speaker d.width
  let p ← extent speaker d.precision
  let left := d.flags.contains '-' || w.any (· < 0)
  let width := (w.getD 0).natAbs
  let precision : Option Nat := p.bind fun p => if p < 0 then none else some p.toNat
  let cut (s : String) : String :=
    match precision with
    | some n => String.ofList (s.toList.take n)
    | none => s
  match d.conversion with
  | 's' => put (padded width left (cut ((← next?).getD "")))
  | 'c' =>
    let c := ((← next?).getD "").toList.head?.getD '\x00'
    put (padded width left (String.singleton c))
  | 'q' =>
    let arg := (← next?).getD ""
    if speaker = .program then put (Quoting.escaped arg)
    else put (padded width left (cut (Quoting.word arg)))
  | 'Q' => put (padded width left (Quoting.word (cut ((← next?).getD ""))))
  | 'n' =>
    match ← next? with
    | some name =>
      modify fun s => { s with counts := s.counts ++ [(name, (s.output.map String.length).foldl (· + ·) 0)] }
    | none => return
  | 'T' =>
    let n ← match ← next? with
      | none => pure (-1)
      | some arg => do
        let (n, fault) := whole (charactersFor speaker) (-Int.pow 2 63) (Int.pow 2 63 - 1) arg
        if let some k := fault then numberComplaint speaker arg k
        pure n
    let time := if n = -1 then clock.now else if n = -2 then clock.started else n * 1000000000
    put (padded width left (cut (Calendar.written clock.zone time d.time)))
  | 'b' =>
    let expanded := Escape.text (Escape.inArgument (speaker != .plain)) ((← next?).getD "")
    for m in expanded.complaints do
      remark m false
    put (padded width left (cut (String.ofList expanded.text)))
    if expanded.stopped then modify fun s => { s with stopped := true }
  | c =>
    if "fFeEgGaA".toList.contains c then
      let arg := (← next?).getD ""
      let (q, fault) := quantity (charactersFor speaker) arg
      let kept := precisionFor speaker
      let (q, lost) := q.rounded kept
      match fault with
      | some k => numberComplaint speaker arg k
      | none => if lost then numberComplaint speaker arg .outOfRange
      put (shownQuantity d.flags width left precision kept c q)
    else
      let n ← if "ouxX".toList.contains c then wholeArgument speaker (-Int.pow 2 63) (Nat.pow 2 64 - 1)
        else wholeArgument speaker (-Int.pow 2 63) (Int.pow 2 63 - 1)
      put (shownWhole d.flags width left precision c n)

/-- Prints with the pieces of a format. -/
def printPieces (speaker : Speaker) (clock : Clock) : List Piece → Print Unit
  | [] => return
  | piece :: ps => do
    match piece with
    | .text s => put s
    | .ending => modify fun s => { s with stopped := true }
    | .doubtful m =>
      if speaker = .program then
        complain "missing hexadecimal number in escape"
        modify fun s => { s with stopped := true }
      else remark m false
    | .directive d => printDirective speaker clock d
    | .invalid source c =>
      complain (match speaker with
        | .extended => "\x60" ++ String.singleton c ++ "': invalid format character"
        | .plain => source ++ ": invalid directive"
        | .program => source ++ ": invalid conversion specification")
      modify fun s => { s with stopped := true }
    | .incomplete source =>
      complain (match speaker with
        | .extended => "\x60" ++ source ++ "': missing format character"
        | .plain => "missing format character"
        | .program => source ++ ": invalid conversion specification")
      modify fun s => { s with stopped := true }
    if (← get).stopped then return else printPieces speaker clock ps

/-- Goes through a format as long as there are arguments. -/
def rounds (speaker : Speaker) (clock : Clock) (ps : List Piece) : (most : Nat) → Print Unit
  | 0 => return
  | n + 1 => do
    modify fun s => { s with used := false }
    printPieces speaker clock ps
    let s ← get
    if s.stopped || s.args.isEmpty || !s.used then return else rounds speaker clock ps n

/-- What is printed for a format and some arguments. -/
def print (speaker : Speaker) (clock : Clock) (format : String) (args : List String) : Printed :=
  let ps := pieces speaker (format.length + 1) format.toList
  ((rounds speaker clock ps (args.length + 1)).run ⟨args, false, [], [], false, false, []⟩).2

/-- All that was printed. -/
def Printed.text (p : Printed) : String :=
  String.join p.output.reverse

end Format

end Retrace.Unix
