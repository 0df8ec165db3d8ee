import Retrace.Unix.EditScript
import Retrace.Unix.Utility.Programs

/-!
# Editing lines

What runs a script on each line of some files. The line that is being edited is
the *space*; another text can be *held*. After the steps of a script the space is
printed, and then what was *added* to it: this is a *cycle*. The files are read
as one, unless each of them is to be edited for itself or in its place.

What is printed is kept until the end, so that complaints come before it.
-/

namespace Retrace.Unix.Utility

namespace Editing

/-- A line, and whether it has an end. -/
structure Line where
  text : List Char
  ended : Bool

/-- What is printed after a line. -/
inductive Addition where
  | text (s : String)
  | file (path : String)

/-- A file that lines are written to. -/
structure Written where
  path : String
  channel : Nat
  /-- The last line has no end. -/
  unended : Bool

/-- How lines are edited. -/
structure Way where
  name : String
  quiet : Bool
  separator : Char
  /-- Each file is edited for itself. -/
  separate : Bool
  /-- The files get what is printed; they are kept under names that are made with a text, if it is not
      empty. -/
  inPlace : Option String
  /-- The width in which lines are listed. -/
  width : Nat

/-- How far editing has come. -/
structure Work where
  space : Line
  held : Line
  /-- The number of the line that was read last. -/
  number : Nat
  /-- The file that is being read, what is left of it, and whether there may be more. -/
  path : String
  rest : List String
  more : Bool
  /-- How many octets were taken from the input. -/
  taken : Nat
  /-- The files that come next. -/
  paths : List String
  /-- Whether a file is being edited in its place. -/
  editing : Bool
  added : List Addition
  /-- The steps for which lines are chosen up to one that is not known or is. -/
  open' : List (Nat × Option Nat)
  /-- The steps for which no lines are chosen any more. -/
  closed : List Nat
  /-- Whether something was replaced. -/
  replaced : Bool
  /-- The expression that was used last. -/
  last : Option (Regular × Regular.Manner)
  /-- What is printed, and what becomes of the file: the last text first, and whether its line has no end. -/
  printed : List String
  kept : List String
  unended : Bool
  written : List Written
  /-- The files that are read line by line, and what is left of them. -/
  readers : List (String × List String)
  /-- Whether the input can no longer be read. -/
  ended : Bool
  status : Nat

/-- Editing goes on in a shell, and stops with a status. -/
abbrev Editor := ExceptT Nat (StateT Work Sh)

/-- Does something in the shell. -/
def inShell {α : Type} (x : Sh α) : Editor α := ExceptT.lift (StateT.lift x)

/-- Complains. -/
def complain (w : Way) (message : String) (status : Nat) : Editor Unit := do
  inShell (tell w.name message)
  modify fun s => { s with status := status }

/-- The octets of a line. -/
def octets (cs : List Char) : String := String.ofList (Multibyte.ofCharacters cs)

/-! ### Printing -/

/-- Prints a text, after the end of the line before it. -/
def emit (w : Way) (text : String) (ended : Bool) : Editor Unit :=
  modify fun s =>
    let put (out : List String) : List String :=
      text :: if s.unended then String.singleton w.separator :: out else out
    if w.inPlace.isSome then { s with kept := put s.kept, unended := !ended }
    else { s with printed := put s.printed, unended := !ended }

/-- A line with its end, if it has one. -/
def withEnd (w : Way) (l : Line) : String :=
  octets l.text ++ if l.ended then String.singleton w.separator else ""

/-- Prints a line. -/
def emitLine (w : Way) (l : Line) : Editor Unit :=
  emit w (withEnd w l) l.ended

/-- Writes a line to a file that was opened for that. -/
def writeLine (w : Way) (path : String) (l : Line) : Editor Unit := do
  let known := (← get).written.find? (·.path = path)
  let before := if known.any (·.unended) then String.singleton w.separator else ""
  let text := before ++ withEnd w l
  modify fun s => { s with
    written := s.written.map fun f => if f.path = path then { f with unended := !l.ended } else f }
  match path, known with
  | "/dev/stdout", _ => modify fun s => { s with printed := text :: s.printed }
  | "/dev/stderr", _ => inShell (Sh.printError text)
  | _, some f => inShell (Sh.withStreams do
      Sh.lead 1 (some f.channel)
      Sh.print text)
  | _, none => return

/-- The next line of a file that is read line by line. -/
def readerLine? (w : Way) (path : String) : Editor (Option String) := do
  let lines ← match (← get).readers.lookup path with
    | some lines => pure lines
    | none => do
      match ← inShell (Sh.contents path) with
      | .ok text => pure (endedPieces w.separator text)
      | .error _ => pure []
  modify fun s => { s with readers := (path, lines.drop 1) :: s.readers.filter (·.1 != path) }
  return lines.head?

/-- Prints what was added to a line. -/
def printAdded (w : Way) : Editor Unit := do
  let added := (← get).added
  modify fun s => { s with added := [] }
  added.forM fun
    | .text t => emit w t true
    | .file path => do
      match ← inShell (Sh.contents path) with
      | .ok text => emit w text true
      | .error _ => emit w "" true

/-! ### Reading -/

/-- The name under which a file is kept before it is edited. -/
def keptName (path ending : String) : String :=
  let directory := String.ofList (path.toList.reverse.dropWhile (· != '/')).reverse
  let base := (path.drop directory.length).toString
  let name := if ending.toList.contains '*' then base.intercalate (ending.splitOn "*") else base ++ ending
  if name.toList.contains '/' then name else directory ++ name

/-- Gives a file that was edited its new content. -/
def closeFile (w : Way) : Editor Unit := do
  let s ← get
  if s.editing then
    let ending := w.inPlace.getD ""
    let text := String.join s.kept.reverse
    let _ ← inShell (Sh.changeFiles fun fs d => do
      let found ← fs.find d s.path true
      let named ← fs.find d s.path false
      let kept ← if ending = "" then pure fs else do
          let target := keptName s.path ending
          let fs := match fs.remove d target with
            | .ok fs => fs
            | .error _ => fs
          fs.put d target named.number
      (← kept.remove d s.path).create d s.path (.file text) found.node.mode)
    modify fun s => { s with editing := false, kept := [], unended := false }

/-- What there is in a file. -/
def contentOf (w : Way) (path : String) : Sh (Except Refusal (String × Bool)) := do
  if path = "-" && w.inPlace.isNone then
    match ← Sh.available 0 with
    | .ok (rest, more) =>
      let whole := if more then (rest.reverse.dropWhile (· != w.separator)).reverse else rest
      return .ok (String.ofList whole, more)
    | .error r => return .error r
  else
    let found ← if w.inPlace.isSome then Sh.node path else pure (.error .notFound)
    match found with
    | .ok found =>
      match found.node.content with
      | .file text => return .ok (text, false)
      | _ => return .error .isDirectory
    | .error _ =>
      let text ← if path = "-" then pure (.error .notFound) else Sh.contents path
      return text.map fun t => (t, false)

/-- Goes on to the next file. Whether there is one. -/
def openNext (w : Way) : Editor Bool := do
  if !w.separate then pure () else closeFile w
  match (← get).paths with
  | [] => return false
  | path :: paths =>
    modify fun s => { s with paths := paths, path := path }
    match ← inShell (contentOf w path) with
    | .ok (text, more) =>
      modify fun s => { s with rest := endedPieces w.separator text, more := more }
      if w.separate then
        modify fun s => { s with
          number := 0
          held := ⟨[], true⟩
          open' := []
          closed := []
          readers := []
          editing := w.inPlace.isSome }
    | .error .isDirectory =>
      complain w (if w.inPlace.isSome then "couldn't edit " ++ path ++ ": not a regular file"
        else "read error on " ++ path ++ ": Is a directory") 4
      throw 4
    | .error r =>
      if path = "-" && w.inPlace.isNone then
        complain w ("read error on stdin: " ++ r.reason) 4
        throw 4
      else complain w ("can't read " ++ path ++ ": " ++ r.reason) 2
    return true

/-- Goes on to the next file that has lines, if there is nothing left of this one. Whether there is a
    line then. -/
def findLine (w : Way) : (files : Nat) → Editor Bool
  | 0 => return !(← get).rest.isEmpty
  | n + 1 => do
    if !(← get).rest.isEmpty then return true
    else if (← get).more then inShell Sh.wantMore
    else if ← openNext w then findLine w n
    else return false

/-- Whether the line that was read is the last one. -/
def isLast (w : Way) : Editor Bool := do
  let s ← get
  if !s.rest.isEmpty then return false
  else if s.more then inShell Sh.wantMore
  else if w.separate then return true
  else return !(← findLine w (s.paths.length + 1))

/-- Reads the next line, if there is one. -/
def readLine? (w : Way) : Editor (Option Line) := do
  printAdded w
  modify fun s => { s with replaced := false }
  if ← findLine w ((← get).paths.length + 1) then
    match (← get).rest with
    | l :: rest =>
      let cs := l.toList
      let ended := cs.getLast? = some w.separator
      modify fun s => { s with
        rest := rest
        number := s.number + 1
        taken := s.taken + if s.path = "-" then l.length else 0 }
      return some ⟨Multibyte.characters (if ended then cs.dropLast else cs), ended⟩
    | [] => return none
  else
    modify fun s => { s with ended := true }
    return none

/-! ### Choosing -/

/-- Whether a text has a match, from some place on; and where. -/
def find? (w : Way) (x : Sought) (cs : List Char) (skipped : Nat) : Editor (Option Regular.Match) := do
  match x with
  | .expression r m =>
    modify fun s => { s with last := some (r, m) }
    return Regular.find? m r cs skipped
  | .last =>
    match (← get).last with
    | some (r, m) => return Regular.find? m r cs skipped
    | none =>
      inShell (tell w.name "-e expression #1, char 0: no previous regular expression")
      throw 1

/-- Whether an address is one of the line that was read last. -/
def isAt (w : Way) (a : Address) : Editor Bool := do
  let n := (← get).number
  match a with
  | .line k => return k = n
  | .every first step => return first ≤ n && (n - first) % step = 0
  | .last => isLast w
  | .matching x => return (← find? w x (← get).space.text 0).isSome
  | .further _ => return false
  | .multiple _ => return false

/-- Whether the lines that are chosen begin with the one that was read last; then it is said with which one they
    end, if that is known. -/
def begins (w : Way) (k : Nat) (a b : Address) : Editor Bool := do
  let n := (← get).number
  let matched ← match a, b with
    | .line first, .line last => pure (!(← get).closed.contains k && (first = n || (first ≤ n && n ≤ last)))
    | .line first, .further 0 => pure (first = n)
    | .line first, .multiple 0 => pure (first = n)
    | .line first, _ => pure (!(← get).closed.contains k && first ≤ n)
    | a, _ => isAt w a
  let goesOn (last : Option Nat) : Editor Unit :=
    modify fun s => { s with open' := (k, last) :: s.open'.filter (·.1 != k) }
  if matched then
    match b with
    | .line last => if n < last then goesOn (some last)
    | .further 0 => return true
    | .further count => goesOn (some (n + count))
    | .multiple 0 => return true
    | .multiple m => goesOn (some (n - n % m + m))
    | _ => goesOn none
  return matched

/-- Ends the lines that are chosen. -/
def close (k : Nat) (a : Address) : Editor Unit :=
  modify fun s => { s with
    open' := s.open'.filter (·.1 != k)
    closed := if a matches .line _ then k :: s.closed else s.closed }

/-- Whether a step is for the line that was read last. -/
def isChosen (w : Way) (k : Nat) (step : EditStep) : Editor Bool := do
  let chosen ← match step.start, step.stop with
    | none, _ => pure true
    | some a, none => isAt w a
    | some a, some b => do
      let s ← get
      let begun := if a matches .line 0 then
          if s.closed.contains k then none else some ((s.open'.lookup k).getD none)
        else s.open'.lookup k
      match begun with
      | some (some last) =>
        if s.number < last then pure true
        else if s.number = last then
          close k a
          pure true
        else
          modify fun s => { s with open' := s.open'.filter (·.1 != k) }
          begins w k a b
      | some none =>
        if ← isAt w b then close k a
        pure true
      | none => if a matches .line 0 then pure false else begins w k a b
  return chosen != step.negated

/-! ### Replacing -/

/-- A letter as it is wanted. -/
def recased (c : Casing) (d : Char) : Char :=
  match c with
  | .kept => d
  | .upper => Multibyte.upper d
  | .lower => Multibyte.lower d

/-- What is put in place of a match. -/
def made (cs : List Char) (f : Regular.Match) (parts : List Replacement) : List Char :=
  let put (casing : Casing) (first : Option Casing) (text : List Char) : Option Casing × List Char :=
    match text with
    | [] => (first, [])
    | c :: text => (none, recased (first.getD casing) c :: text.map (recased casing))
  let rec go (casing : Casing) (first : Option Casing) : List Replacement → List Char
    | [] => []
    | .text t :: parts =>
      let (first, t) := put casing first t
      t ++ go casing first parts
    | .group n :: parts =>
      let (a, b) := if n = 0 then (f.start, f.stop) else (f.groups.lookup n).getD (0, 0)
      let (first, t) := put casing first ((cs.take b).drop a)
      t ++ go casing first parts
    | .casing c :: parts => go c none parts
    | .next c :: parts => go casing (some c) parts
  go .kept none parts

/-- What replacing makes of a text from `skipped` on, of which `done` characters were dealt with and
    `count` matches seen. The end of the last match counts as no match of its own. Also whether
    something was replaced. -/
def replacing (w : Way) (x : Substitution) (cs : List Char) :
    (fuel skipped done count : Nat) → (lastEnd : Option Nat) → Editor (List Char × Bool)
  | 0, _, done, _, _ => return (cs.drop done, false)
  | n + 1, skipped, done, count, lastEnd => do
    if cs.length < skipped then return (cs.drop done, false)
    match ← find? w x.sought cs skipped with
    | none => return (cs.drop done, false)
    | some f =>
      let between := (cs.take f.start).drop done
      let gap := if f.start = f.stop then (cs.drop f.stop).take 1 else []
      if f.start = f.stop && lastEnd = some f.start then
        let (rest, more) ← replacing w x cs n (f.stop + 1) (f.stop + gap.length) count none
        return (between ++ gap ++ rest, more)
      else
        let count := count + 1
        let replaces := count = x.first || (x.all && x.first ≤ count)
        let put := between ++ if replaces then made cs f x.replacement else (cs.take f.stop).drop f.start
        if replaces && !x.all then return (put ++ cs.drop f.stop, true)
        else
          let next := if f.start = f.stop then f.stop + 1 else f.stop
          let (rest, more) ← replacing w x cs n next (f.stop + gap.length) count
            (if f.start = f.stop then none else some f.stop)
          return (put ++ gap ++ rest, replaces || more)

/-! ### Listing -/

/-- A character as it is listed. -/
def listedOctet (c : Char) : String :=
  match c with
  | '\\' => "\\\\"
  | '\x07' => "\\a"
  | '\x08' => "\\b"
  | '\x0c' => "\\f"
  | '\n' => "\\n"
  | '\r' => "\\r"
  | '\t' => "\\t"
  | '\x0b' => "\\v"
  | c =>
    if ' ' ≤ c && c ≤ '~' then String.singleton c
    else
      let ds := Nat.toDigits 8 c.toNat
      "\\" ++ String.ofList (List.replicate (3 - ds.length) '0' ++ ds)

/-- A line listed in lines of a width. -/
def listed (width : Nat) (l : List Char) : String :=
  let (out, _) := (Multibyte.ofCharacters l).foldl (fun (acc : List String × Nat) c =>
    let shown := listedOctet c
    if 0 < width && width - 1 < acc.2 + shown.length then (shown :: "\\\n" :: acc.1, shown.length)
    else (shown :: acc.1, acc.2 + shown.length)) ([], 0)
  String.join out.reverse ++ "$\n"

/-! ### Running -/

/-- How the steps of a cycle ended: at the end of the script; with the line given up; with a line to go on
    with; or for good. -/
inductive Ending where
  | through | dropped | again
  | quit (printed : Bool) (status : Nat)

/-- The output of a command as a line. -/
def outputLine (w : Way) (text : String) : List Char :=
  let cs := text.toList
  Multibyte.characters (if cs.getLast? = some w.separator then cs.dropLast else cs)

/-- Changes the space. -/
def setSpace (cs : List Char) : Editor Unit :=
  modify fun s => { s with space := { s.space with text := cs } }

/-- How many steps a cycle may take. -/
def mostSteps : Nat := 100000000

/-- Makes a substitution. -/
def substitute (e : Engine) (w : Way) (x : Substitution) : Editor Unit := do
  let cs := (← get).space.text
  let (new, made) ← replacing w x cs (cs.length + 2) 0 0 0 none
  if made then
    setSpace new
    modify fun s => { s with replaced := true }
    if x.executed then
      let (text, _) ← inShell (outputOf e (octets new))
      setSpace (outputLine w text)
    if x.printed then emitLine w (← get).space
    if let some path := x.file then writeLine w path (← get).space

/-- Runs the steps of a script from the `k`th on. -/
def run (e : Engine) (w : Way) (steps : Array EditStep) : (fuel : Nat) → (k : Nat) → Editor Ending
  | 0, _ => return .through
  | n + 1, k => do
    match steps[k]? with
    | none => return .through
    | some step =>
      let go (x : Editor Unit) : Editor Ending := do
        x
        run e w steps n (k + 1)
      if !(← isChosen w k step) then
        match step.edit with
        | .block => run e w steps n step.target
        | _ => run e w steps n (k + 1)
      else
        let separator := w.separator
        match step.edit with
        | .block => run e w steps n (k + 1)
        | .blockEnd => run e w steps n (k + 1)
        | .label _ => run e w steps n (k + 1)
        | .jump .always _ => run e w steps n step.target
        | .jump condition _ =>
          let replaced := (← get).replaced
          modify fun s => { s with replaced := false }
          if replaced = (condition = .replaced) then run e w steps n step.target else run e w steps n (k + 1)
        | .append t => go (modify fun s => { s with added := s.added ++ if t = "" then [] else [.text t] })
        | .insert t => go (if t = "" then pure () else emit w t true)
        | .change t =>
          let goesOn := step.stop.isSome && !step.negated && ((← get).open'.lookup k).isSome
          if !goesOn && t != "" then emit w t true
          return .dropped
        | .delete => return .dropped
        | .deleteLine =>
          match (← get).space.text.dropWhile (· != separator) with
          | _ :: rest =>
            setSpace rest
            return .again
          | [] => return .dropped
        | .print => go do emitLine w (← get).space
        | .printLine => go do
            let s ← get
            emitLine w ⟨s.space.text.takeWhile (· != separator), true⟩
        | .execute none => go do
            let (text, _) ← inShell (outputOf e (octets (← get).space.text))
            setSpace (outputLine w text)
        | .execute (some command) => go do
            let (text, _) ← inShell (outputOf e command)
            if text != "" then emit w text true
        | .fileName => go do emit w ((← get).path ++ "\n") true
        | .number => go do emit w (toString (← get).number ++ "\n") true
        | .hold added => go (modify fun s => { s with
            held := if added then ⟨s.held.text ++ separator :: s.space.text, s.space.ended⟩ else s.space })
        | .recall added => go (modify fun s => { s with
            space := if added then ⟨s.space.text ++ separator :: s.held.text, s.held.ended⟩ else s.held })
        | .exchange => go (modify fun s => { s with space := s.held, held := s.space })
        | .list width => go do emit w (listed (width.getD w.width) (← get).space.text) true
        | .next =>
          if ← isLast w then return .through
          else
            if !w.quiet then emitLine w (← get).space
            match ← readLine? w with
            | some l => go (modify fun s => { s with space := l })
            | none => return .dropped
        | .joinNext =>
          if ← isLast w then return .through
          else match ← readLine? w with
            | some l => go (modify fun s => { s with space := ⟨s.space.text ++ separator :: l.text, l.ended⟩ })
            | none => return .through
        | .quit printed status => return .quit printed status
        | .readFile path => go (modify fun s => { s with added := s.added ++ [.file path] })
        | .readLine path => go do
            if let some l ← readerLine? w path then
              modify fun s => { s with added := s.added ++ [.text l] }
        | .writeFile path => go do writeLine w path (← get).space
        | .writeLine path => go do
            let s ← get
            writeLine w path ⟨s.space.text.takeWhile (· != separator), true⟩
        | .substitute x => go (substitute e w x)
        | .translate table => go (modify fun s => { s with
            space := { s.space with text := s.space.text.map fun c => (table.lookup c).getD c } })
        | .clear => go (setSpace [])
        | .impossible letter =>
          inShell (tell w.name ("INTERNAL ERROR: Bad cmd " ++ String.singleton letter))
          throw 4

/-- Runs a script on the lines, one after the other; if `again`, the space stays what it is. The status. -/
def cycles (e : Engine) (w : Way) (steps : Array EditStep) : (fuel : Nat) → (again : Bool) → Editor Nat
  | 0, _ => return 0
  | n + 1, again => do
    let here ← if again then pure true else do
        match ← readLine? w with
        | some l =>
          modify fun s => { s with space := l }
          pure true
        | none => pure false
    if !here then return 0
    match ← run e w steps mostSteps 0 with
    | .through =>
      if !w.quiet then emitLine w (← get).space
      printAdded w
      cycles e w steps n false
    | .dropped =>
      printAdded w
      cycles e w steps n false
    | .again => cycles e w steps n true
    | .quit printed status =>
      if printed then
        if !w.quiet then emitLine w (← get).space
        printAdded w
      return status

/-- The files that a script writes to. -/
def writtenPaths (steps : Array EditStep) : List String :=
  (steps.toList.filterMap fun s => match s.edit with
    | .writeFile path => some path
    | .writeLine path => some path
    | .substitute x => x.file
    | _ => none).eraseDups

/-- Opens the files that a script writes to. -/
def openWritten (name : String) : List String → Sh (Except Nat (List Written))
  | [] => return .ok []
  | path :: paths => do
    let opened ← if path = "/dev/stdout" || path = "/dev/stderr" then pure (.ok 0) else Sh.openFile path .writing
    match opened with
    | .error r => return .error (← fail name ("couldn't open file " ++ path ++ ": " ++ r.reason) 4)
    | .ok n => return (← openWritten name paths).map (⟨path, n, false⟩ :: ·)

/-- The numbers of characters that are read at once from what is no file. -/
def inputBlock : Nat := 4096

/-- Runs a script on files. -/
def edit (e : Engine) (w : Way) (script : EditScript) (paths : List String) : Sh Nat := do
  match ← openWritten w.name (writtenPaths script.steps) with
  | .error status => return status
  | .ok written =>
    let work : Work := {
      space := ⟨[], true⟩
      held := ⟨[], true⟩
      number := 0
      path := "-"
      rest := []
      more := false
      taken := 0
      paths := orInput paths
      editing := false
      added := []
      open' := []
      closed := []
      replaced := false
      last := none
      printed := []
      kept := []
      unended := false
      written := written
      readers := []
      ended := false
      status := 0 }
    let edited : Editor Nat := do
      let status ← cycles e w script.steps mostSteps false
      closeFile w
      return status
    let (status, s) ← edited.run.run work
    if 0 < s.taken || s.ended then
      match ← Sh.channel? 0 with
      | some (_, .file ..) => Sh.consume 0 s.taken
      | _ => Sh.consume 0 ((s.taken + inputBlock - 1) / inputBlock * inputBlock)
    let status := match status with
      | .ok n => if n = 0 then s.status else n
      | .error n => n
    match ← put (String.join s.printed.reverse) with
    | .ok _ => return status
    | .error r =>
      let closing := if r matches .badDescriptor then "close" else "flush"
      fail w.name ("couldn't " ++ closing ++ " stdout: " ++ r.reason) 4

end Editing

/-! ### The utility -/

/-- The names of the options for editing. -/
def editingOptions : OptionNames := {
  letters := "bEnrsuz"
  valued := "efl"
  optional := "i"
  wordly := "pdL+"
  words := [("quiet", 'n'), ("silent", 'n'), ("expression", 'e'), ("file", 'f'), ("regexp-extended", 'E'),
    ("separate", 's'), ("in-place", 'i'), ("null-data", 'z'), ("zero-terminated", 'z'), ("line-length", 'l'),
    ("unbuffered", 'u'), ("binary", 'b'), ("posix", 'p'), ("debug", 'd'), ("follow-symlinks", 'L'),
    ("sandbox", '+')] }

/-- How editing is called. -/
def editingUsage : List String := [
  "Usage: sed [OPTION]... \x7bscript-only-if-no-other-script\x7d [input-file]...",
  "",
  "  -n, --quiet, --silent",
  "                 suppress automatic printing of pattern space",
  "      --debug",
  "                 annotate program execution",
  "  -e script, --expression=script",
  "                 add the script to the commands to be executed",
  "  -f script-file, --file=script-file",
  "                 add the contents of script-file to the commands to be executed",
  "  --follow-symlinks",
  "                 follow symlinks when processing in place",
  "  -i[SUFFIX], --in-place[=SUFFIX]",
  "                 edit files in place (makes backup if SUFFIX supplied)",
  "  -l N, --line-length=N",
  "                 specify the desired line-wrap length for the \x60l' command",
  "  --posix",
  "                 disable all GNU extensions.",
  "  -E, -r, --regexp-extended",
  "                 use extended regular expressions in the script",
  "                 (for portability use POSIX -E).",
  "  -s, --separate",
  "                 consider files as separate rather than as a single,",
  "                 continuous long stream.",
  "      --sandbox",
  "                 operate in sandbox mode (disable e/r/w commands).",
  "  -u, --unbuffered",
  "                 load minimal amounts of data from the input files and flush",
  "                 the output buffers more often",
  "  -z, --null-data",
  "                 separate lines by NUL characters",
  "      --help     display this help and exit",
  "      --version  output version information and exit",
  "",
  "If no -e, --expression, -f, or --file option is given, then the first",
  "non-option argument is taken as the sed script to interpret.  All",
  "remaining arguments are names of input files; if no input files are",
  "specified, then the standard input is read.",
  ""]

/-- The sources of a script: what was given as an option, or the first operand. -/
def scriptSources (name : String) : (number : Nat) → List (Char × String) →
    Sh (Except Nat (List (EditScript.Origin × String)))
  | _, [] => return .ok []
  | n, ('e', text) :: rest => do
    return (← scriptSources name (n + 1) rest).map ((.expression n, text) :: ·)
  | n, ('f', path) :: rest => do
    match ← Sh.contents path with
    | .ok text =>
      let text := if text.endsWith "\n" then (text.dropEnd 1).toString else text
      return (← scriptSources name n rest).map ((.file path, text) :: ·)
    | .error r => return .error (← fail name ("couldn't open file " ++ path ++ ": " ++ r.reason) 4)
  | n, _ :: rest => scriptSources name n rest

/-- Edits lines. -/
def sed : Utility := fun e name args => do
  let usage : Sh Nat := do
    Sh.each editingUsage Sh.report
    return 1
  match Options.read editingOptions true args with
  | .error m =>
    tell name m
    usage
  | .ok o =>
    let given := o.given.filter fun g => g.1 = 'e' || g.1 = 'f'
    if given.isEmpty && o.operands.isEmpty then usage
    else
      let (given, paths) := if given.isEmpty then ([('e', o.operands.headD "")], o.operands.drop 1)
        else (given, o.operands)
      match ← scriptSources name 1 given with
      | .error status => return status
      | .ok sources =>
        match EditScript.read ⟨o.has 'E' || o.has 'r', o.has '+'⟩ sources with
        | .error f => fail name f.problem f.status
        | .ok script =>
          if o.has 'i' && paths.isEmpty then fail name "no input files" 4
          else
            Editing.edit e {
              name := name
              quiet := o.has 'n' || script.quiet
              separator := if o.has 'z' then '\x00' else '\n'
              separate := o.has 's' || o.has 'i'
              inPlace := o.value? 'i'
              width := ((o.value? 'l').bind natural?).getD 70 } script paths

end Retrace.Unix.Utility
