import Retrace.Unix.Regular
import Retrace.Unix.Utility.Options

/-!
# Lines as they are

What prints files line by line, in their order or in another one, with numbers,
with marks for what cannot be seen, or in lines of another length.
-/

namespace Retrace.Unix.Utility

/-! ### Whole files -/

/-- How files are shown. -/
structure Showing where
  numbered : Bool
  /-- Only the lines that are not empty are numbered. -/
  filledOnly : Bool
  ends : Bool
  tabs : Bool
  controls : Bool
  /-- Only one of several empty lines is shown. -/
  squeezed : Bool

/-- What was shown so far, the last piece first. -/
structure Shown where
  pieces : List String
  lines : Nat
  atStart : Bool
  empties : Nat

/-- A number in six columns. -/
def sixColumns (n : Nat) : String := Format.padded 6 false (toString n)

/-- A character that may not be shown as it is. -/
def visible (sh : Showing) (c : Char) : String :=
  let control (n : Nat) : String :=
    if n < 0x20 then "^" ++ String.singleton (Char.ofNat (n + 0x40))
    else if n = 0x7f then "^?"
    else String.singleton (Char.ofNat n)
  if c = '\t' then if sh.tabs then "^I" else "\t"
  else if !sh.controls then String.singleton c
  else if c.toNat < 0x80 then control c.toNat
  else "M-" ++ control (c.toNat - 0x80)

namespace Shown

/-- Adds a number if that is wanted at the beginning of a line. -/
def numbered (st : Shown) (wanted : Bool) : Shown :=
  if wanted then { st with pieces := (sixColumns (st.lines + 1) ++ "\t") :: st.pieces, lines := st.lines + 1 }
  else st

/-- Adds a piece. -/
def put (st : Shown) (piece : String) : Shown :=
  { st with pieces := piece :: st.pieces }

/-- Shows some characters. -/
def show' (sh : Showing) (st : Shown) : List Char → Shown
  | [] => st
  | '\r' :: '\n' :: cs =>
    let st := st.numbered (st.atStart && sh.numbered)
    let st := st.put ((if sh.ends || sh.controls then "^M" else "\r") ++ if sh.ends then "$\n" else "\n")
    show' sh { st with atStart := true, empties := 0 } cs
  | c :: cs =>
    if c = '\n' then
      let empties := if st.atStart then st.empties + 1 else 0
      if sh.squeezed && empties > 1 then show' sh { st with empties := empties } cs
      else
        let st := st.numbered (st.atStart && sh.numbered && !sh.filledOnly)
        let st := st.put (if sh.ends then "$\n" else "\n")
        show' sh { st with atStart := true, empties := empties } cs
    else
      let st := st.numbered (st.atStart && sh.numbered)
      show' sh { st.put (visible sh c) with atStart := false, empties := 0 } cs

end Shown

/-- Shows files one after the other. -/
def showFiles (name : String) (sh : Showing) (st : Shown) : List String → Sh Nat
  | [] => return 0
  | path :: paths => do
    match ← flow path with
    | .ok (text, more) =>
      let st := Shown.show' sh st text.toList
      Sh.print (String.join st.pieces.reverse)
      if more then Sh.wantMore else showFiles name sh { st with pieces := [] } paths
    | .error r =>
      let status ← fail name (plainComplaint path r.reason) 1
      return max status (← showFiles name sh st paths)

/-- The file that a stream leads to, with the place in it. -/
def fileOf? (stream : Nat) : Sh (Option (Nat × Nat)) := do
  match ← Sh.channel? stream with
  | some (_, .file number _ position _) => return some (number, position)
  | _ => return none

/-- Whether a file is the one that is printed into, and there is something left in it. -/
def isOutput (path : String) : Sh Bool := do
  match ← fileOf? 1 with
  | none => return false
  | some (target, _) =>
    let source ← if path = "-" then fileOf? 0 else do
      match ← Sh.node path with
      | .ok found => pure (some (found.number, 0))
      | .error _ => pure none
    let size ← Sh.ask fun s => ((s.files.node? target).map (·.size)).getD 0
    return source.any fun (number, position) => number = target && position < size

/-- Prints files. -/
def cat : Utility := fun _ name args =>
  withOptions { letters := "AbeEnstTuv", words := [("number-nonblank", 'b'), ("number", 'n'), ("squeeze-blank", 's'),
      ("show-nonprinting", 'v'), ("show-ends", 'E'), ("show-tabs", 'T'), ("show-all", 'A')] }
    true 1 name args fun o => do
    let sh : Showing := {
      numbered := o.has 'n' || o.has 'b'
      filledOnly := o.has 'b'
      ends := o.has 'E' || o.has 'e' || o.has 'A'
      tabs := o.has 'T' || o.has 't' || o.has 'A'
      controls := o.has 'v' || o.has 'e' || o.has 't' || o.has 'A'
      squeezed := o.has 's' }
    let plain := !(sh.numbered || sh.ends || sh.tabs || sh.controls || sh.squeezed)
    let status ←
      if plain then
        Sh.worst (orInput o.operands) fun path => do
          if ← isOutput path then fail name (Quoting.name path ++ ": input file is output file") 1
          else eachFlow name [path] plainComplaint fun _ text => do
            Sh.print text
            return 0
      else showFiles name sh ⟨[], 0, true, 0⟩ (orInput o.operands)
    let status ← refusedAtEnd name status
    if (orInput o.operands).contains "-" && (← Sh.channel? 0).isNone then
      fail name ("closing standard input: " ++ Refusal.badDescriptor.reason) 1
    else return status

/-- Prints files with their lines in reverse order. -/
def tac : Utility := fun _ name args =>
  withOptions { letters := "br", valued := "s", words := [("before", 'b'), ("regex", 'r'), ("separator", 's')] }
    true 1 name args fun o => do
    let separator := (o.value? 's').getD "\n"
    let status ← eachContent name o.operands
      (fun path reason =>
        if reason = Refusal.isDirectory.reason then Quoting.name path ++ ": read error: " ++ Refusal.invalidArgument.reason
        else "failed to open " ++ Quoting.always path ++ " for reading: " ++ reason)
      fun _ text => do
        let parts := text.splitOn (if separator = "" then "\x00" else separator)
        let pieces :=
          if o.has 'b' then parts.head?.toList ++ (parts.drop 1).map (separator ++ ·)
          else parts.dropLast.map (· ++ separator) ++ parts.getLast?.toList
        Sh.print (String.join pieces.reverse)
        return 0
    refusedAtEnd name status

/-- Prints files with the characters of each line in reverse order. -/
def rev : Utility := fun _ name args =>
  withOptions {} true 1 name args fun o => do
    let turned (l : String) : String :=
      let ended := l.endsWith "\n"
      let body := if ended then (l.dropEnd 1).toString else l
      Multibyte.through List.reverse body ++ if ended then "\n" else ""
    eachFlow name o.operands (fun path reason => "cannot open " ++ path ++ ": " ++ reason) fun _ text => do
      Sh.print (String.join ((endedPieces '\n' text).map turned))
      return 0

/-- Prints what it reads, and writes it to files as well. -/
def tee : Utility := fun _ name args =>
  withOptions { letters := "aip", optional := "P", words := [("append", 'a'), ("ignore-interrupts", 'i'),
      ("output-error", 'P')] } true 1 name args fun o => do
    let opened ← Sh.collect o.operands fun path => do
      match ← Sh.openFile path (if o.has 'a' then .appending else .writing) with
      | .ok n => return some (path, n)
      | .error r =>
        tell name (plainComplaint path r.reason)
        return none
    let status := if opened.any Option.isNone then 1 else 0
    match ← flow "-" with
    | .error r => fail name ("read error: " ++ r.reason) 1
    | .ok (text, more) =>
      let refused ← Sh.collect (opened.filterMap id) fun (path, n) => do
        Sh.withStreams do
          Sh.lead 1 (some n)
          match ← put text with
          | .ok _ => return 0
          | .error r => fail name (plainComplaint path r.reason) 1
      let status := refused.foldl max status
      match ← put text with
      | .ok _ => if more then Sh.wantMore else return status
      | .error r => fail name ("'standard output': " ++ r.reason) 1

/-! ### Numbers before lines -/

/-- Which lines get a number. -/
inductive Numbered where
  | all | filled | none
  | matching (r : Regular)

/-- How lines are numbered. -/
structure Numbering where
  header : Numbered
  body : Numbered
  footer : Numbered
  increment : Nat
  /-- How many empty lines count as one. -/
  joined : Nat
  format : String
  /-- The numbers go on in the next section. -/
  steady : Bool
  separator : String
  start : Int
  width : Nat

/-- The lines that a text says are to be numbered. -/
def Numbered.ofText? (s : String) : Option Numbered :=
  match s.toList with
  | ['a'] => some .all
  | ['t'] => some .filled
  | ['n'] => some .none
  | 'p' :: cs => (Regular.read .basic (String.ofList cs)).toOption.map .matching
  | _ => Option.none

/-- Lines with their numbers, from one on, in a section that is numbered in some way; so many
    empty lines came before. -/
def numberedLines (m : Numbering) (now : Numbered) (n : Int) (empties : Nat) : List String → List String
  | [] => []
  | l :: ls =>
    if l = "\\:\\:\\:" then "\n" :: numberedLines m m.header (if m.steady then n else m.start) 0 ls
    else if l = "\\:\\:" then "\n" :: numberedLines m m.body (if m.steady then n else m.start) 0 ls
    else if l = "\\:" then "\n" :: numberedLines m m.footer (if m.steady then n else m.start) 0 ls
    else
      let empties := if l = "" then empties + 1 else 0
      let wanted : Bool := match now with
        | .all => l != "" || empties % m.joined = 0
        | .filled => l != ""
        | .none => false
        | .matching r => (Regular.find? .usual r (Multibyte.characters l.toList) 0).isSome
      if wanted then
        let digits := toString n.natAbs
        let sign := if n < 0 then "-" else ""
        let shown := match m.format with
          | "ln" => Format.padded m.width true (sign ++ digits)
          | "rz" => sign ++ Fraction.zeroPadded (m.width - sign.length) digits
          | _ => Format.padded m.width false (sign ++ digits)
        (shown ++ m.separator ++ l ++ "\n") :: numberedLines m now (n + m.increment) empties ls
      else
        (String.ofList (List.replicate (m.width + m.separator.length) ' ') ++ l ++ "\n") ::
          numberedLines m now n empties ls

/-- Prints files with numbers before their lines. -/
def nl : Utility := fun _ name args =>
  withOptions { letters := "p", valued := "bdfhilnsvw", words := [("body-numbering", 'b'), ("footer-numbering", 'f'),
      ("header-numbering", 'h'), ("section-delimiter", 'd'), ("line-increment", 'i'), ("join-blank-lines", 'l'),
      ("number-format", 'n'), ("no-renumber", 'p'), ("number-separator", 's'), ("starting-line-number", 'v'),
      ("number-width", 'w')] } true 1 name args fun o => do
    let style (c : Char) (usual : Numbered) : Option Numbered :=
      match o.value? c with
      | some s => Numbered.ofText? s
      | none => some usual
    let count (c : Char) (usual : Nat) : Option Nat :=
      match o.value? c with
      | some s => natural? s
      | none => some usual
    let wrong (what : String) (c : Char) : Sh Nat := do
      let value := (o.value? c).getD ""
      tell name ("invalid " ++ what ++ ": " ++ Quoting.curly value ++ rangeNote value)
      if "bfhn".toList.contains c then
        Sh.report ("Try '" ++ name ++ " --help' for more information.")
      return 1
    match style 'h' .none, style 'b' .filled, style 'f' .none with
    | none, _, _ => wrong "header numbering style" 'h'
    | _, none, _ => wrong "body numbering style" 'b'
    | _, _, none => wrong "footer numbering style" 'f'
    | some header, some body, some footer =>
      match count 'i' 1, (count 'l' 1).filter (0 < ·), (count 'w' 6).filter (0 < ·) with
      | none, _, _ => wrong "line number increment" 'i'
      | _, none, _ => wrong "line number of blank lines" 'l'
      | _, _, none => wrong "line number field width" 'w'
      | some increment, some joined, some width =>
        let format := (o.value? 'n').getD "rn"
        let start := match o.value? 'v' with
          | some s => Builtin.number? s
          | none => some 1
        match start with
        | none => wrong "starting line number" 'v'
        | some start =>
          if !(["ln", "rn", "rz"].contains format) then wrong "line numbering format" 'n'
          else
            let m : Numbering := ⟨header, body, footer, increment, joined, format, o.has 'p',
              (o.value? 's').getD "\t", start, width⟩
            let (text, status) ← allContents name o.operands plainComplaint
            Sh.print (String.join (numberedLines m body start 0 (linesOf text)))
            refusedAtEnd name status

/-! ### Long lines -/

/-- The column after a character. -/
def columnAfter (bytes : Bool) (column : Nat) (c : Char) : Nat :=
  if bytes then column + 1
  else match c with
    | '\x08' => column - 1
    | '\r' => 0
    | '\t' => column + 8 - column % 8
    | _ => column + 1

/-- The column after some characters. -/
def columnAfterAll (bytes : Bool) (cs : List Char) : Nat :=
  cs.foldl (columnAfter bytes) 0

/-- Folds the characters of a line. Those that are not yet printed are given in reverse. -/
def foldLine (bytes spaces : Bool) (width : Nat) : (fuel : Nat) → (column : Nat) → (kept : List Char) →
    List Char → List Char
  | 0, _, kept, cs => kept.reverse ++ cs
  | _ + 1, _, kept, [] => kept.reverse
  | n + 1, column, kept, c :: cs =>
    let next := columnAfter bytes column c
    if next ≤ width then foldLine bytes spaces width n next (c :: kept) cs
    else
      let tail := kept.takeWhile fun c => !isBlank c
      if spaces && tail.length < kept.length then
        (kept.drop tail.length).reverse ++
          '\n' :: foldLine bytes spaces width n (columnAfterAll bytes tail.reverse) tail (c :: cs)
      else if kept.isEmpty then foldLine bytes spaces width n next [c] cs
      else kept.reverse ++ '\n' :: foldLine bytes spaces width n 0 [] (c :: cs)

/-- The arguments with the digits after a dash made an option. -/
def digitsAsOption (letter : Char) (args : List String) : List String :=
  args.flatMap fun a =>
    match a.toList with
    | '-' :: c :: cs =>
      if (c :: cs).all Char.isDigit then [String.ofList ['-', letter], String.ofList (c :: cs)] else [a]
    | _ => [a]

/-- Prints files with their long lines folded. -/
def fold : Utility := fun _ name args =>
  withOptions { letters := "bs", valued := "w", words := [("bytes", 'b'), ("spaces", 's'), ("width", 'w')] }
    true 1 name (digitsAsOption 'w' args) fun o => do
    let given := (o.value? 'w').getD "80"
    match (natural? given).filter (0 < ·) with
    | none => fail name ("invalid number of columns: " ++ Quoting.curly given ++ rangeNote given) 1
    | some width =>
      let status ← eachFlow name o.operands plainComplaint fun _ text => do
        Sh.print (String.join ((endedPieces '\n' text).map fun l =>
          let ended := l.endsWith "\n"
          let cs := if ended then l.toList.dropLast else l.toList
          String.ofList (foldLine (o.has 'b') (o.has 's') width (3 * cs.length + 3) 0 [] cs) ++
            if ended then "\n" else ""))
        return 0
      refusedAtEnd name status

/-! ### Tabs -/

/-- Where tabs lead to: the columns that are given, and how they go on. -/
structure TabStops where
  columns : List Nat
  /-- The distance of those after the last one, counted from the beginning of the line. -/
  every : Option Nat
  /-- The distance of those after the last one, counted from that. -/
  further : Option Nat

namespace TabStops

/-- Where the next tab leads to from a column. -/
def next? (t : TabStops) (column : Nat) : Option Nat :=
  match t.columns.find? (column < ·) with
  | some c => some c
  | none =>
    match t.every, t.further with
    | some n, _ => some (column + n - column % n)
    | _, some n =>
      let last := t.columns.getLast?.getD 0
      some (column + n - (column - last) % n)
    | _, _ => none

/-- What is wrong with tab stops. -/
inductive Fault where
  | zero
  | disorder
  | character (rest : String)
  | slash | plus

/-- Reads tab stops. -/
def read (s : String) : Except Fault TabStops :=
  let parts := (s.toList.map fun c => if isBlank c then ',' else c)
  let parts := ((String.ofList parts).splitOn ",").filter (· != "")
  let rec go (t : TabStops) : List String → Except Fault TabStops
    | [] => .ok t
    | p :: ps => do
      let body := if p.startsWith "/" || p.startsWith "+" then (p.drop 1).toString else p
      match natural? body with
      | none => .error (.character (String.ofList (body.toList.dropWhile Char.isDigit)))
      | some n =>
        if p.startsWith "/" then
          if ps.isEmpty then go { t with every := if n = 0 then none else some n } ps else .error .slash
        else if p.startsWith "+" then
          if ps.isEmpty then go { t with further := if n = 0 then none else some n } ps else .error .plus
        else if n = 0 then .error .zero
        else if t.columns.getLast?.any (n ≤ ·) then .error .disorder
        else go { t with columns := t.columns ++ [n] } ps
  (go ⟨[], none, none⟩ parts).map fun t =>
    match t with
    | ⟨[n], none, none⟩ => ⟨[], some n, none⟩
    | ⟨[], none, none⟩ => ⟨[], some 8, none⟩
    | t => t

/-- The words for what is wrong. -/
def Fault.message : Fault → String
  | zero => "tab size cannot be 0"
  | disorder => "tab sizes must be ascending"
  | character rest => "tab size contains invalid character(s): " ++ Quoting.curly rest
  | slash => "'/' specifier only allowed with the last value"
  | plus => "'+' specifier only allowed with the last value"

end TabStops

/-- A line with spaces for its tabs, at least for those at its beginning. -/
def expandLine (t : TabStops) (initial : Bool) : (column : Nat) → (leading : Bool) → List Char → List Char
  | _, _, [] => []
  | column, leading, c :: cs =>
    if c = '\n' then c :: expandLine t initial 0 true cs
    else if initial && !leading then c :: expandLine t initial column false cs
    else if c = '\t' then
      let next := (t.next? column).getD (column + 1)
      List.replicate (next - column) ' ' ++ expandLine t initial next leading cs
    else if c = '\x08' then c :: expandLine t initial (column - 1) (leading && isBlank c) cs
    else c :: expandLine t initial (column + 1) (leading && isBlank c) cs

/-- The arguments with the columns after a dash made an option. -/
def columnsAsOption (args : List String) : List String :=
  args.map fun a =>
    match a.toList with
    | '-' :: c :: cs => if c.isDigit && cs.all (fun c => c.isDigit || c = ',') then "-d" ++ String.ofList (c :: cs) else a
    | _ => a

/-- The tab stops of some options. -/
def tabStops (o : Options) : Except TabStops.Fault TabStops :=
  match (o.given.filter fun g => g.1 = 't' || g.1 = 'd').map (·.2) with
  | [] => .ok ⟨[], some 8, none⟩
  | given => TabStops.read (",".intercalate given)

/-- Prints files with spaces for tabs. -/
def expand : Utility := fun _ name args =>
  withOptions { letters := "i", valued := "td", words := [("initial", 'i'), ("tabs", 't')] } true 1 name
    (columnsAsOption args) fun o => do
    match tabStops o with
    | .error f => fail name f.message 1
    | .ok t =>
      let status ← eachFlow name o.operands plainComplaint fun _ text => do
        Sh.print (String.ofList (expandLine t (o.has 'i') 0 true text.toList))
        return 0
      refusedAtEnd name status

/-- How far a line was gone through whose blanks become tabs. -/
structure Tabbing where
  /-- What was printed, in reverse. -/
  out : List Char
  converting : Bool
  column : Nat
  /-- Whether a single blank ends right at a tab stop. -/
  single : Bool
  afterBlank : Bool
  /-- The blanks that may become a tab. -/
  pending : List Char

namespace Tabbing

/-- The beginning of a line. -/
def begin (out : List Char) : Tabbing := ⟨out, true, 0, false, true, []⟩

/-- The same with a tab for the first of the blanks. -/
def withTab (s : Tabbing) : Tabbing :=
  { s with pending := if s.pending.isEmpty then [] else '\t' :: s.pending.drop 1 }

/-- Prints the blanks, and then a character. -/
def flush (all blank : Bool) (s : Tabbing) (c : Option Char) : Tabbing :=
  let s := if s.pending.length > 1 && s.single then s.withTab else s
  { s with
    out := c.toList ++ s.pending.reverse ++ s.out
    pending := []
    single := s.single && s.pending.isEmpty
    afterBlank := blank
    converting := s.converting && (all || blank) }

/-- Goes on with a character. -/
def step (t : TabStops) (all : Bool) (s : Tabbing) (c : Char) : Tabbing :=
  if c = '\n' then begin ('\n' :: (s.flush all false none).out)
  else if !s.converting then { s with out := c :: s.out }
  else if isBlank c then
    match t.next? s.column with
    | none => { s.flush all true (some c) with converting := false }
    | some next =>
      let replaced (s : Tabbing) : Tabbing :=
        { s with pending := if s.single then s.pending.take 1 else [] }
      if c = '\t' then
        (replaced { s.withTab with column := next }).flush all true (some c)
      else
        let s := { s with column := s.column + 1 }
        if s.afterBlank && s.column = next then
          (replaced { s with pending := '\t' :: s.pending.drop 1 }).flush all true (some '\t')
        else
          { s with single := s.single || s.column = next, pending := s.pending ++ [c], afterBlank := true }
  else
    { s with column := if c = '\x08' then s.column - 1 else s.column + 1 }.flush all false (some c)

end Tabbing

/-- A text with tabs for blanks, in whole lines or only at their beginnings. -/
def tabbed (t : TabStops) (all : Bool) (s : String) : String :=
  String.ofList ((s.toList.foldl (Tabbing.step t all) (.begin [])).flush all false none).out.reverse

/-- Prints files with tabs for spaces. -/
def unexpand : Utility := fun _ name args =>
  withOptions { letters := "aF", valued := "td", words := [("all", 'a'), ("first-only", 'F'), ("tabs", 't')] } true 1
    name (columnsAsOption args) fun o => do
    match tabStops o with
    | .error f => fail name f.message 1
    | .ok t =>
      let all := (o.has 'a' || (o.value? 't').isSome) && !o.has 'F'
      let status ← eachFlow name o.operands plainComplaint fun _ text => do
        Sh.print (tabbed t all text)
        return 0
      refusedAtEnd name status

end Retrace.Unix.Utility
