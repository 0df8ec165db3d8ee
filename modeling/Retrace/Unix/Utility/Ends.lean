import Retrace.Unix.Utility.Options

/-!
# The ends of files, and how much there is in them

The beginning or the end of a file is an amount of it in lines or in characters,
or all but such an amount. What is counted in a file are its lines, words,
characters and octets, and the columns of its longest line.
-/

namespace Retrace.Unix.Utility

/-! ### Amounts -/

/-- How much of a file is wanted. -/
structure Amount where
  count : Nat
  bytes : Bool
  /-- The count is one of what is left out, at the end that is not wanted. -/
  others : Bool
  /-- What lines end with. -/
  separator : Char

namespace Amount

/-- The beginning of a text. -/
def beginning (a : Amount) (s : String) : String :=
  if a.bytes then
    (s.take (if a.others then s.length - a.count else a.count)).toString
  else
    let ls := endedPieces a.separator s
    String.join (ls.take (if a.others then ls.length - a.count else a.count))

/-- The end of a text. -/
def ending (a : Amount) (s : String) : String :=
  if a.bytes then
    (s.drop (if a.others then a.count - 1 else s.length - a.count)).toString
  else
    let ls := endedPieces a.separator s
    String.join (ls.drop (if a.others then a.count - 1 else ls.length - a.count))

/-- How many characters of what comes next are the beginning, unless more have to be known. -/
def sufficient (a : Amount) (cs : List Char) : Option Nat :=
  if a.others then none
  else if a.bytes then if a.count ≤ cs.length then some a.count else none
  else
    let rec go : (lines seen : Nat) → List Char → Option Nat
      | 0, seen, _ => some seen
      | _, _, [] => none
      | n + 1, seen, c :: cs => if c = a.separator then go n (seen + 1) cs else go (n + 1) (seen + 1) cs
    go a.count 0 cs

end Amount

/-- The numbers of characters that are read at once from what is no file. -/
def blockSize : Nat := 8192

/-- Reads the beginning of a stream. What is no file is read in blocks. -/
def readBeginning (stream : Nat) (a : Amount) : Sh (Except Refusal String) := do
  let isFile := (← Sh.channel? stream) matches some (_, .file ..)
  match ← Sh.inputWanted stream fun cs =>
      if isFile then some (a.beginning (String.ofList cs)).length else a.sufficient cs with
  | .error r => return .error r
  | .ok text =>
    match ← Sh.channel? stream with
    | some (_, .source _ _) => Sh.consume stream (blockSize - text.length % blockSize)
    | _ => pure ()
    return .ok (if isFile then text else a.beginning text)

/-- A number after a dash as options. -/
def countAsOption (args : List String) : List String :=
  match args with
  | a :: rest =>
    match a.toList with
    | '-' :: c :: cs =>
      if c.isDigit then
        let ds := (c :: cs).takeWhile Char.isDigit
        let letters := (c :: cs).drop ds.length
        let unit := letters.filter fun c => "bkm".toList.contains c
        let option := if letters.contains 'c' || !unit.isEmpty then "-c" else "-n"
        let others := letters.filter fun c => !"cblkm".toList.contains c
        option :: String.ofList (ds ++ unit) ::
          ((if others.isEmpty then [] else [String.ofList ('-' :: others)]) ++ rest)
      else args
    | _ => args
  | [] => []

/-- What is shown of each of some files, with headings if there are several. -/
def printEnds (name : String) (o : Options) (take : String → Sh (Except Refusal String)) : Sh Nat := do
  let paths := orInput o.operands
  let headings : Bool := match o.last? ['q', 'v'] with
    | some c => c = 'v'
    | none => paths.length > 1
  let heading (path : String) (first : Bool) : String :=
    if headings then
      (if first then "" else "\n") ++ "==> " ++ (if path = "-" then "standard input" else path) ++ " <==\n"
    else ""
  let rec go (first : Bool) : List String → Sh Nat
    | [] => return 0
    | path :: paths => do
      match ← take path with
      | .ok text =>
        Sh.print (heading path first ++ text)
        go false paths
      | .error .isDirectory =>
        Sh.print (heading path first)
        let status ← fail name ("error reading " ++ Quoting.always path ++ ": Is a directory") 1
        return max status (← go false paths)
      | .error r =>
        let shown := if path = "-" then "standard input" else path
        let status ← fail name ("cannot open " ++ Quoting.always shown ++ " for reading: " ++ r.reason) 1
        return max status (← go first paths)
  refusedAtEnd name (← go true paths)

/-- The amount that is asked for, `sign` before it asking for what is left out. -/
def askedAmount (o : Options) (sign : Char) : Except String Amount :=
  let separator := if o.has 'z' then '\x00' else '\n'
  match o.given.reverse.find? fun g => g.1 = 'c' || g.1 = 'n' with
  | none => .ok ⟨10, false, false, separator⟩
  | some (c, v) =>
    let others := v.toList.head? = some sign
    let number := if v.startsWith "-" || v.startsWith "+" then (v.drop 1).toString else v
    match amount? number with
    | some n => .ok ⟨n, c = 'c', others, separator⟩
    | none => .error ("invalid number of " ++ (if c = 'c' then "bytes" else "lines") ++ ": " ++
        Quoting.curly (if sign = '-' && others then number else v))

/-- A digit among the options is a mistake. -/
def trailingDigit? (args : List String) : Option Char :=
  args.findSome? fun a =>
    match a.toList with
    | '-' :: c :: _ => if c.isDigit then some c else none
    | _ => none

/-- Prints the beginnings of files. -/
def head : Utility := fun _ name args => do
  let args := countAsOption args
  let names : OptionNames := { letters := "qvz", valued := "cn", words := [("bytes", 'c'), ("lines", 'n'),
      ("quiet", 'q'), ("silent", 'q'), ("verbose", 'v'), ("zero-terminated", 'z')] }
  match Options.read names true args, trailingDigit? (args.drop 1) with
  | .error _, some c => misused name ("invalid trailing option -- " ++ String.singleton c) 1
  | _, _ => withOptions names true 1 name args fun o =>
    match askedAmount o '-' with
    | .error m => fail name m 1
    | .ok a => printEnds name o fun path => do
      match if path = "-" then some 0 else Sh.streamPath? path with
      | some stream => readBeginning stream a
      | none =>
        match ← Sh.contents path with
        | .ok text => return .ok (a.beginning text)
        | .error r => return .error r

/-- Prints the ends of files. -/
def tail : Utility := fun _ name args =>
  let args := match args with
    | a :: rest =>
      match a.toList with
      | '+' :: cs =>
        let ds := cs.takeWhile Char.isDigit
        if rest.length > 1 then args
        else match cs.drop ds.length with
          | [] => "-n" :: String.ofList ('+' :: (if ds.isEmpty then ['1', '0'] else ds)) :: rest
          | ['c'] => "-c" :: String.ofList ('+' :: ds) :: rest
          | ['l'] => "-n" :: String.ofList ('+' :: ds) :: rest
          | _ => args
      | _ => countAsOption args
    | [] => []
  withOptions { letters := "qvzF", valued := "cns", optional := "f", words := [("bytes", 'c'), ("follow", 'f'),
      ("lines", 'n'), ("quiet", 'q'), ("silent", 'q'), ("sleep-interval", 's'), ("verbose", 'v'),
      ("zero-terminated", 'z')] } true 1 name args fun o =>
    match askedAmount o '+' with
    | .error m => fail name m 1
    | .ok a => printEnds name o fun path => do
      if a.others && path = "-" then
        match ← flow path with
        | .error r => return .error r
        | .ok (text, more) =>
          if more then
            Sh.print (a.ending text)
            Sh.wantMore
          else return .ok (a.ending text)
      else
        match ← Sh.contents path with
        | .ok text => return .ok (a.ending text)
        | .error r => return .error r

/-! ### Counting -/

/-- What is counted in a text. -/
structure Counts where
  lines : Nat
  words : Nat
  characters : Nat
  bytes : Nat
  /-- The columns of the longest line. -/
  longest : Nat

namespace Counts

/-- Nothing. -/
def zero : Counts := ⟨0, 0, 0, 0, 0⟩

/-- What has been counted so far, whether a word has begun, and the column. -/
structure Counting where
  counts : Counts
  inside : Bool
  column : Nat

/-- Counts a character. -/
def Counting.step (s : Counting) (c : Char) : Counting :=
  let k := { s.counts with characters := s.counts.characters + if Multibyte.isStray c then 0 else 1 }
  let longest := max k.longest s.column
  match c with
  | '\n' => ⟨{ k with lines := k.lines + 1, longest := longest }, false, 0⟩
  | '\r' => ⟨{ k with longest := longest }, false, 0⟩
  | '\x0c' => ⟨{ k with longest := longest }, false, 0⟩
  | '\t' => ⟨k, false, s.column + 8 - s.column % 8⟩
  | ' ' => ⟨k, false, s.column + 1⟩
  | '\x0b' => ⟨k, false, s.column⟩
  | c =>
    let width := if c.toNat < 0x20 || c = '\x7f' || Multibyte.isStray c then 0 else Multibyte.columns c
    ⟨{ k with words := if s.inside then k.words else k.words + 1 }, true, s.column + width⟩

/-- The counts of a text. -/
def ofText (s : String) : Counts :=
  let end' := (Multibyte.characters s.toList).foldl Counting.step ⟨zero, false, 0⟩
  { end'.counts with bytes := s.length, longest := max end'.counts.longest end'.column }

/-- The counts of two texts together. -/
def add (a b : Counts) : Counts :=
  ⟨a.lines + b.lines, a.words + b.words, a.characters + b.characters, a.bytes + b.bytes, max a.longest b.longest⟩

end Counts

/-- The size of a file; `none` for what cannot be looked at, and none inside for what has no size. -/
def sizeOf? (path : String) : Sh (Option (Option Nat)) := do
  if path = "-" then
    match ← Sh.channel? 0 with
    | some (_, .file number _ _ _) => return (← Sh.ask (·.files.node? number)).map fun n => some n.size
    | some _ => return some none
    | none => return none
  else
    match ← Sh.node path with
    | .ok found => return some (if found.node.content.isFile then some found.node.size else none)
    | .error _ => return none

/-- Counts what is in files. -/
def wc : Utility := fun _ name args =>
  withOptions { letters := "clmwL", valued := "TF", wordly := "TF", words := [("bytes", 'c'), ("chars", 'm'), ("lines", 'l'),
      ("words", 'w'), ("max-line-length", 'L'), ("total", 'T'), ("files0-from", 'F')] } true 1 name args fun o => do
    let wanted := "lwmcL".toList.filter o.has
    let wanted := if wanted.isEmpty then "lwc".toList else wanted
    let total := (o.value? 'T').getD "auto"
    if !(["auto", "always", "only", "never"].contains total) then
      invalidChoice name "--total" total ["auto", "always", "only", "never"]
    else
      let operands ← match o.value? 'F' with
        | none => pure o.operands
        | some path =>
          match ← Sh.contents path with
          | .ok text => pure (piecesOf '\x00' text)
          | .error _ => pure []
      let numbers (c : Counts) : List Nat := wanted.map fun
        | 'l' => c.lines
        | 'w' => c.words
        | 'm' => c.characters
        | 'L' => c.longest
        | _ => c.bytes
      let paths := orInput operands
      let sizes := (← Sh.collect paths sizeOf?).filterMap id
      let digits := (toString ((sizes.filterMap id).foldl (· + ·) 0)).length
      let width :=
        if (paths.length = 1 && wanted.length = 1) || total = "only" || o.has 'F' then 1
        else if sizes.any Option.isNone then max 7 digits
        else digits
      let row (c : Counts) (label : String) : String :=
        " ".intercalate ((numbers c).map fun n => Format.padded width false (toString n)) ++
          (if label = "" then "" else " " ++ label) ++ "\n"
      let shownName (path : String) : String :=
        if path.toList.contains '\n' then Quoting.escaped path else path
      let rec go (sum : Counts) : List String → Sh (Counts × Nat)
        | [] => return (sum, 0)
        | path :: rest => do
          let label := if path = "-" && operands.isEmpty then "" else shownName path
          match ← Sh.contents path with
          | .ok text =>
            let c := Counts.ofText text
            if total != "only" then Sh.print (row c label)
            go (sum.add c) rest
          | .error r =>
            tell name (if path = "-" then "'standard input': " ++ r.reason else plainComplaint path r.reason)
            if r matches .isDirectory then Sh.print (row .zero label)
            let (sum, _) ← go sum rest
            return (sum, 1)
      let (sum, status) ← go .zero paths
      if total = "always" || total = "only" || (total = "auto" && paths.length > 1) then
        Sh.print (row sum (if total = "only" then "" else "total"))
      refusedAtEnd name status

end Retrace.Unix.Utility
