import Retrace.Unix.Difference.Shown
import Retrace.Unix.Utility.Trees

/-!
# Comparing files

What says how files differ: by the lines that are changed, or by the first octet
that is not the same. Two directories are compared by comparing what has the
same name in both.
-/

namespace Retrace.Unix.Utility

/-! ### Lines -/

/-- How much of blanks is passed over, from nothing to all of them. -/
inductive BlankManner where
  | kept
  | tabs
  | trailing
  | tabsAndTrailing
  | runs
  | all
  deriving DecidableEq

/-- How blanks are passed over with two options. -/
def BlankManner.and : BlankManner → BlankManner → BlankManner
  | .all, _ | _, .all => .all
  | .runs, _ | _, .runs => .runs
  | .kept, b | b, .kept => b
  | .tabs, .tabs => .tabs
  | .trailing, .trailing => .trailing
  | _, _ => .tabsAndTrailing

/-- What is compared of lines. -/
structure LineManner where
  blanks : BlankManner
  foldsCase : Bool
  /-- Changes of blank lines alone are ignored. -/
  ignoresEmpty : Bool
  /-- So are changes of lines that match. -/
  ignoring : List Regular

/-- Whether a character is blank where lines are compared. -/
def isSpacing (c : Char) : Bool := c = ' ' || ('\t' ≤ c && c ≤ '\r')

/-- A text without the blanks at its end. -/
def withoutTrailing (cs : List Char) : List Char :=
  (cs.reverse.dropWhile isSpacing).reverse

/-- A text with a blank for each run of them. -/
def withSingle : List Char → List Char
  | [] => []
  | c :: cs => if isSpacing c then ' ' :: withSingle (cs.dropWhile isSpacing) else c :: withSingle cs
  termination_by cs => cs.length
  decreasing_by
    · simpa using Nat.lt_succ_of_le (List.dropWhile_sublist isSpacing).length_le
    · simp

/-- A text with blanks for tabs. -/
def withoutTabs (tab : Nat) (cs : List Char) : List Char :=
  (cs.foldl (fun (out, column) c =>
    if c = '\t' then
      let n := tab - column % max 1 tab
      (List.replicate n ' ' ++ out, column + n)
    else (c :: out, column + 1)) (([], 0) : List Char × Nat)).1.reverse

/-- What is the same for lines that count as the same. -/
def LineManner.key (m : LineManner) (tab : Nat) (l : String) : String :=
  if m.blanks = .kept && !m.foldsCase then l
  else
    let cs := if m.foldsCase then l.toList.map Char.toLower else l.toList
    String.ofList (match m.blanks with
      | .kept => cs
      | .tabs => withoutTabs tab cs
      | .trailing => withoutTrailing cs
      | .tabsAndTrailing => withoutTrailing (withoutTabs tab cs)
      | .runs => withSingle (withoutTrailing cs)
      | .all => cs.filter fun c => !isSpacing c)

/-- Whether the change of a line can be ignored. -/
def LineManner.isTrivial (m : LineManner) (l : String) : Bool :=
  let cs := l.toList.filter (· != '\n')
  let blank := match m.blanks with
    | .kept | .tabs => cs.isEmpty
    | _ => cs.all isSpacing
  (m.ignoresEmpty && blank) ||
    m.ignoring.any fun r => (Regular.find? .usual r (Multibyte.characters cs) 0).isSome

/-! ### Pairs of files -/

/-- How two things are compared. -/
structure Comparison where
  lines : LineManner
  manner : DifferenceManner
  /-- Only whether files differ is said. -/
  brief : Bool
  /-- It is said if files do not differ. -/
  saysSame : Bool
  recursive : Bool
  /-- What is not there counts as empty, in the first place only or in both. -/
  firstMissing : Bool
  anyMissing : Bool
  /-- Whatever is in files is text. -/
  asText : Bool
  /-- Carriage returns at the ends of lines are left out. -/
  withoutReturns : Bool
  labels : List String
  excluded : List Pattern
  starting : Option String
  /-- The options, as they are shown before what is compared in directories. -/
  options : List String

/-- One of two files that are compared. -/
structure Side where
  name : String
  text : String
  time : Int

/-- A name as it stands in headings. -/
def headingName (s : String) : String :=
  let code? (c : Char) : Option (List Char) :=
    match c with
    | '"' => some ['\\', '"']
    | '\\' => some ['\\', '\\']
    | '\x07' => some ['\\', 'a']
    | '\x08' => some ['\\', 'b']
    | '\t' => some ['\\', 't']
    | '\n' => some ['\\', 'n']
    | '\x0b' => some ['\\', 'v']
    | '\x0c' => some ['\\', 'f']
    | '\r' => some ['\\', 'r']
    | c => if c.toNat < 32 || 128 ≤ c.toNat then some (Quoting.octal c) else none
  if s.toList.any fun c => c = ' ' || (code? c).isSome then
    "\"" ++ String.ofList (s.toList.flatMap fun c => (code? c).getD [c]) ++ "\""
  else s

/-- Whether something is no text. -/
def isBinary (s : String) : Bool := (s.toList.take 4096).contains '\x00'

/-- Compares two files. The status says whether they differ. -/
def compareSides (name : String) (k : Comparison) (a b : Side) (before : String) : Sh Nat := do
  let label (n : Nat) (s : Side) : String := k.labels.getD n s.name
  let brief (kind : String) : Sh Nat := do
    Sh.print (kind ++ "iles " ++ label 0 a ++ " and " ++ label 1 b ++ " differ\n")
    return 1
  let same : Sh Nat := do
    if k.saysSame then Sh.print ("Files " ++ label 0 a ++ " and " ++ label 1 b ++ " are identical\n")
    return 0
  if a.text = b.text && !k.manner.showsSame then same
  else if !k.asText && (isBinary a.text || isBinary b.text) then
    if a.text = b.text then same else brief (if k.brief then "F" else "Binary f")
  else
    let lines (s : Side) : List String :=
      let s := if k.withoutReturns then s.text.replace "\r\n" "\n" else s.text
      endedPieces '\n' s
    let isScript := k.manner.style = .script || k.manner.style = .forward
    let ended (ls : List String) : List String :=
      if isScript then ls.map fun l => if l.endsWith "\n" then l else l ++ "\n" else ls
    let unended := isScript && (a.text.endsWith "\n" != b.text.endsWith "\n" || a.text != b.text)
    let unendedSides := [a, b].filter fun s => unended && s.text != "" && !s.text.endsWith "\n"
    let (olds, news) := (ended (lines a), ended (lines b))
    let changes := Difference.changes (k.lines.key k.manner.tab) k.manner.context olds news
    let d : Compared := ⟨olds.toArray, news.toArray, changes, fun c =>
      (k.lines.ignoresEmpty || !k.lines.ignoring.isEmpty) &&
        ((olds.drop c.oldStart).take c.oldCount).all k.lines.isTrivial &&
        ((news.drop c.newStart).take c.newCount).all k.lines.isTrivial⟩
    let differ := !d.notable.isEmpty
    if k.brief then
      if differ then brief "F" else same
    else
      let z ← zone
      let heading (mark : String) (n : Nat) (s : Side) : String :=
        mark ++ " " ++ (match k.labels[n]? with
          | some l => l
          | none => headingName s.name ++ "\t" ++ Calendar.written z s.time "%Y-%m-%d %H:%M:%S.%N %z") ++ "\n"
      let headings :=
        match k.manner.style with
        | .unified => heading "---" 0 a ++ heading "+++" 1 b
        | .context => heading "***" 0 a ++ heading "---" 1 b
        | _ => ""
      if differ || k.manner.showsSame then Sh.print (before ++ k.manner.shown d headings)
      Sh.each unendedSides fun s => do
        tell name (s.name ++ ": No newline at end of file")
        Sh.report ""
      if !unendedSides.isEmpty then return 2
      else if differ then return 1
      else same

/-- What is at a path, or nothing if it is not there and that is allowed. -/
def sideOf (path : String) (mayMiss : Bool) : Sh (Except Refusal Side) := do
  let now ← Sh.ask (·.files.now)
  match ← Sh.contents path with
  | .ok text =>
    let time ← (do
      if path = "-" || (Sh.streamPath? path).isSome then return now
      else match ← Sh.node path with
        | .ok found => return found.node.changed
        | .error _ => return now)
    return .ok ⟨path, text, time⟩
  | .error .notFound => if mayMiss then return .ok ⟨path, "", 0⟩ else return .error .notFound
  | .error r => return .error r

/-- A path to something in a directory. -/
def pathIn (directory name : String) : String :=
  if directory.endsWith "/" then directory ++ name else directory ++ "/" ++ name

/-- Compares two things. Below the top, `before` is printed before the differences. -/
def comparePaths (name : String) (k : Comparison) : (depth : Nat) → (top : Bool) → (a b : String) → Sh Nat
  | 0, _, _, _ => return 0
  | depth + 1, top, a, b => do
    let kind? (path : String) : Sh (Except Refusal (Option Node)) := do
      if path = "-" || (Sh.streamPath? path).isSome then return .ok none
      else match ← Sh.node path with
        | .ok found => return .ok (some found.node)
        | .error r => return .error r
    let kindA ← kind? a
    let kindB ← kind? b
    let isDirectory : Except Refusal (Option Node) → Bool
      | .ok (some n) => n.isDirectory
      | _ => false
    let isMissing : Except Refusal (Option Node) → Bool
      | .error .notFound => true
      | _ => false
    let files (a b : String) : Sh Nat := do
      let left ← sideOf a (k.anyMissing || k.firstMissing)
      let right ← sideOf b k.anyMissing
      match left, right with
      | .ok x, .ok y =>
        let line := " ".intercalate (name :: k.options ++ [Quoting.name a, Quoting.name b]) ++ "\n"
        compareSides name k x y (if top then "" else line)
      | left, right =>
        let complain (path : String) : Except Refusal Side → Sh Unit
          | .error r => tell name (path ++ ": " ++ r.reason)
          | .ok _ => pure ()
        complain a left
        complain b right
        return 2
    let directories : Sh Nat := do
      let namesIn (path : String) (kind : Except Refusal (Option Node)) : Sh (List String) := do
        if !isDirectory kind then return []
        else match ← Sh.node path with
          | .ok found => Sh.ask fun s => (s.files.names found.number).filter fun n =>
              !(k.excluded.any (·.admits n)) && !(top && k.starting.any (n < ·))
          | .error _ => return []
      let left ← namesIn a kindA
      let right ← namesIn b kindB
      let all := (left ++ right.filter fun n => !left.contains n).mergeSort (· ≤ ·)
      Sh.worst all fun n => do
        let alone (directory : String) : Sh Nat := do
          Sh.print ("Only in " ++ directory ++ ": " ++ n ++ "\n")
          return 1
        if !right.contains n && !k.anyMissing then alone a
        else if !left.contains n && !(k.anyMissing || k.firstMissing) then alone b
        else comparePaths name k depth false (pathIn a n) (pathIn b n)
    let bothMissing := isMissing kindA && isMissing kindB
    if isDirectory kindA && isDirectory kindB then
      if top || k.recursive then directories
      else
        Sh.print ("Common subdirectories: " ++ a ++ " and " ++ b ++ "\n")
        return 0
    else if top && (isDirectory kindA || isDirectory kindB) && !isMissing kindA && !isMissing kindB then
      if a = "-" || b = "-" then fail name "cannot compare '-' to a directory" 2
      else if isDirectory kindA then files (pathIn a (lastPart b)) b
      else files a (pathIn b (lastPart a))
    else if !bothMissing && (isMissing kindA || isMissing kindB) &&
        (isDirectory kindA || isDirectory kindB) && (k.anyMissing || (k.firstMissing && isMissing kindA)) then
      if k.recursive then directories
      else
        Sh.print ("Common subdirectories: " ++ a ++ " and " ++ b ++ "\n")
        return 0
    else
      match kindA, kindB with
      | .ok (some x), .ok (some y) =>
        if !top && (x.isDirectory != y.isDirectory) then
          Sh.print ("File " ++ a ++ " is a " ++ kindOf x ++ " while file " ++ b ++ " is a " ++ kindOf y ++ "\n")
          return 1
        else files a b
      | .error r, .ok _ =>
        if isMissing kindA && (k.anyMissing || k.firstMissing) then files a b else fail name (a ++ ": " ++ r.reason) 2
      | .ok _, .error r =>
        if isMissing kindB && k.anyMissing then files a b else fail name (b ++ ": " ++ r.reason) 2
      | .error r, .error q =>
        tell name (a ++ ": " ++ r.reason)
        fail name (b ++ ": " ++ q.reason) 2
      | _, _ => files a b

/-! ### Calling -/

/-- Complains about how a utility was called, in its own name. -/
def misusedIn (name message : String) : Sh Nat := do
  tell name message
  fail name ("Try '" ++ name ++ " --help' for more information.") 2

/-- The options of what compares files by lines. -/
def diffNames : OptionNames :=
  { letters := "0123456789aBbcdEefhHilnNpPqrsTtuvwyZ@?/^<>|", valued := "CDFILSUWxX~!:&;_%=+*", optional := "cu@"
    wordly := "@?/^<>|~!:&;_%=+*"
    words := [("binary", '?'), ("brief", 'q'), ("changed-group-format", '~'), ("color", '@'), ("context", 'c'),
      ("ed", 'e'), ("exclude", 'x'), ("exclude-from", 'X'), ("expand-tabs", 't'), ("forward-ed", 'f'),
      ("horizon-lines", '!'), ("ifdef", 'D'), ("ignore-all-space", 'w'), ("ignore-blank-lines", 'B'),
      ("ignore-case", 'i'), ("ignore-file-name-case", '?'), ("ignore-matching-lines", 'I'),
      ("ignore-space-change", 'b'), ("ignore-tab-expansion", 'E'), ("ignore-trailing-space", 'Z'),
      ("inhibit-hunk-merge", '?'), ("initial-tab", 'T'), ("label", 'L'), ("left-column", '<'), ("line-format", ':'),
      ("minimal", 'd'), ("new-file", 'N'), ("new-group-format", '&'), ("new-line-format", ';'),
      ("no-dereference", '?'), ("no-ignore-file-name-case", '?'), ("normal", '/'), ("old-group-format", '_'),
      ("old-line-format", '%'), ("paginate", 'l'), ("palette", '!'), ("rcs", 'n'), ("recursive", 'r'),
      ("report-identical-files", 's'), ("show-c-function", 'p'), ("show-function-line", 'F'), ("side-by-side", 'y'),
      ("speed-large-files", 'H'), ("starting-file", 'S'), ("strip-trailing-cr", '^'),
      ("suppress-blank-empty", '>'), ("suppress-common-lines", '|'), ("tabsize", '='), ("text", 'a'),
      ("unchanged-group-format", '+'), ("unchanged-line-format", '*'), ("unidirectional-new-file", 'P'),
      ("unified", 'u'), ("width", 'W')] }

/-- The arguments that are options, with their values. -/
def optionArguments (names : OptionNames) : List String → List String
  | [] => []
  | arg :: args =>
    match Options.read names true [arg] with
    | .ok ⟨_, []⟩ => if arg = "--" then [] else arg :: optionArguments names args
    | .ok _ => optionArguments names args
    | .error _ =>
      match args with
      | value :: args => arg :: value :: optionArguments names args
      | [] => [arg]

/-- The number that is written in digits given as options, which follow each other. -/
def digitsGiven (given : List (Char × String)) : Option Nat :=
  (given.foldl (fun ((n, following) : Option Nat × Bool) (c, _) =>
    if c.isDigit then
      let d := numberOf 10 [c]
      (some (if following then n.getD 0 * 10 + d else d), true)
    else (n, false)) (none, false)).1

/-- The styles that options ask for. -/
def stylesGiven (o : Options) : List DifferenceStyle :=
  (o.given.filterMap fun (c, _) =>
    match c with
    | 'c' | 'C' => some .context
    | 'u' | 'U' => some .unified
    | 'e' => some .script
    | 'f' => some .forward
    | 'n' => some .counted
    | 'y' => some .beside
    | '/' => some .plain
    | 'D' | '~' | '&' | '_' | '+' | ':' | ';' | '%' | '*' => some .formatted
    | _ => none).eraseDups

/-- The formats that options ask for. -/
def formatsGiven (o : Options) : DifferenceFormats :=
  let line (c : Char) : String := (o.value? c).getD ((o.value? ':').getD "%l\n")
  let old := match o.value? 'D' with
    | some n => "#ifndef " ++ n ++ "\n%<#endif /* ! " ++ n ++ " */\n"
    | none => "%<"
  let new := match o.value? 'D' with
    | some n => "#ifdef " ++ n ++ "\n%>#endif /* " ++ n ++ " */\n"
    | none => "%>"
  let oldGroup := (o.value? '_').getD old
  let newGroup := (o.value? '&').getD new
  let changed := match o.value? 'D' with
    | some n => "#ifndef " ++ n ++ "\n%<#else /* " ++ n ++ " */\n%>#endif /* " ++ n ++ " */\n"
    | none => oldGroup ++ newGroup
  ⟨oldGroup, newGroup, (o.value? '+').getD "%=", (o.value? '~').getD changed, line '%', line ';', line '*'⟩

/-- How things are compared, from options. -/
def comparisonOf (o : Options) (options : List String) (excluded : List String) : Except String Comparison := do
  let styles := stylesGiven o
  let contexts ← (o.given.filter fun (c, _) => "cCuU".toList.contains c).mapM fun (_, v) =>
    if v = "" then pure 3
    else match natural? v with
      | some n => pure n
      | none => throw ("invalid context length '" ++ v ++ "'")
  let positive (c : Char) (what : String) (usual : Nat) : Except String Nat :=
    match o.value? c with
    | none => pure usual
    | some v => match (natural? v).filter (0 < ·) with
      | some n => pure n
      | none => throw ("invalid " ++ what ++ " '" ++ v ++ "'")
  let width ← positive 'W' "width" 130
  let tab ← positive '=' "tabsize" 8
  if styles.length > 1 then throw "conflicting output style options"
  let style := styles.headD (if o.has 'p' then .context else .plain)
  let explicit := o.given.any fun (c, v) => "cCuU".toList.contains c && v != ""
  let most := contexts.foldl max 0
  let most := if contexts.isEmpty && o.has 'p' then 3 else most
  let context :=
    if style != .context && style != .unified then 0
    else match digitsGiven o.given with
      | some n => if most < n || (n < most && !explicit) then n else most
      | none => most
  let blanks := o.given.foldl (fun (b : BlankManner) (c, _) =>
    match c with
    | 'b' => b.and .runs
    | 'w' => b.and .all
    | 'Z' => b.and .trailing
    | 'E' => b.and .tabs
    | _ => b) .kept
  let expressions (c : Char) : Except String (List Regular) :=
    ((o.given.filter (·.1 = c)).map (·.2)).mapM fun s =>
      (Regular.read .basic s).mapError fun m => s ++ ": " ++ m
  let ignoring ← expressions 'I'
  let headings ← expressions 'F'
  let usual : Except String Regular := Regular.read .basic "^[[:alpha:]$_]"
  let heading := match headings.getLast? with
    | some r => some r
    | none => if o.has 'p' then usual.toOption else none
  let pattern (s : String) : Pattern := Pattern.ofOctets false (s.toList.map fun c => (c, false))
  return {
    lines := ⟨blanks, o.has 'i', o.has 'B', ignoring⟩
    manner := ⟨style, context, o.has 't', o.has 'T', o.has '>', tab, width, o.has '<', o.has '|', heading,
      formatsGiven o⟩
    brief := o.has 'q'
    saysSame := o.has 's'
    recursive := o.has 'r'
    firstMissing := o.has 'P'
    anyMissing := o.has 'N'
    asText := o.has 'a'
    withoutReturns := o.has '^'
    labels := (o.given.filter (·.1 = 'L')).map (·.2)
    excluded := (((o.given.filter (·.1 = 'x')).map (·.2)) ++ excluded).map pattern
    starting := o.value? 'S'
    options := options.map Quoting.name }

/-- How deep directories are compared. -/
def deepestComparison : Nat := 200

/-- Says how files differ, line by line. -/
def diff : Utility := fun _ name args =>
  withOptionsOr (misusedIn name) diffNames true args fun o => do
    if o.has 'v' then
      Sh.print "diff (GNU diffutils) 3.10\n"
      return 0
    else
      let excluded ← Sh.collect ((o.given.filter (·.1 = 'X')).map (·.2)) fun path => do
        match ← Sh.contents path with
        | .ok text => return linesOf text
        | .error _ => return []
      match comparisonOf o (optionArguments diffNames args) excluded.flatten with
      | .error m => if m.startsWith "invalid" || m.startsWith "conflicting" then misusedIn name m else fail name m 2
      | .ok k =>
        if k.labels.length > 2 then fail name "too many file label options" 2
        else match o.operands with
          | [] => misusedIn name ("missing operand after '" ++ args.getLast?.getD name ++ "'")
          | [_] => misusedIn name ("missing operand after '" ++ args.getLast?.getD name ++ "'")
          | [a, b] =>
            if a = "-" && b = "-" then
              if k.saysSame then Sh.print "Files - and - are identical\n"
              refusedAtEnd name 0
            else refusedAtEnd name (← comparePaths name k deepestComparison true a b)
          | _ :: _ :: extra :: _ => misusedIn name ("extra operand '" ++ extra ++ "'")

/-! ### Octets -/

/-- An octet as it is shown. -/
def shownOctet (c : Char) : String :=
  let low (n : Nat) : String :=
    if n < 32 then "^" ++ String.singleton (Char.ofNat (n + 64))
    else if n = 127 then "^?"
    else String.singleton (Char.ofNat n)
  if c.toNat < 128 then low c.toNat else "M-" ++ low (c.toNat - 128)

/-- An octet in octal digits. -/
def octalOctet (c : Char) : String :=
  Format.padded 3 false (String.ofList (Nat.toDigits 8 c.toNat))

/-- The octets that differ, with their numbers, and how many octets were compared. -/
def differing (n : Nat) : List Char → List Char → List (Nat × Char × Char) × Nat
  | a :: as, b :: bs =>
    let (ds, count) := differing (n + 1) as bs
    (if a = b then ds else (n + 1, a, b) :: ds, count)
  | _, _ => ([], n)

/-- Says how the octets of two texts differ. The numbers of octets are as wide as that of the last one. -/
def compareOctets (name : String) (o : Options) (a b : String × List Char) (width : Nat) : Sh Nat := do
  let (differences, count) := differing 0 a.2 b.2
  let shorter := if a.2.length < b.2.length then some a.1 else if b.2.length < a.2.length then some b.1 else none
  let ended (path : String) (line : Bool) : Sh Nat := do
    let lines := ((a.2.take count).filter (· = '\n')).length
    let place :=
      if !line then ""
      else if (a.2.take count).getLast? = some '\n' then s!", line {lines}"
      else s!", in line {lines + 1}"
    tell name ("EOF on " ++ path ++ (if count = 0 then " which is empty" else s!" after byte {count}" ++ place))
    return 1
  if o.has 's' then return if differences.isEmpty && shorter.isNone then 0 else 1
  else if o.has 'l' then
    Sh.print (String.join (differences.map fun (n, x, y) =>
      Format.padded width false (toString n) ++ " " ++
        (if o.has 'b' then
          octalOctet x ++ " " ++ Format.padded 4 true (shownOctet x) ++ " " ++ octalOctet y ++ " " ++ shownOctet y
        else octalOctet x ++ " " ++ octalOctet y) ++ "\n"))
    match shorter with
    | some path => ended path false
    | none => return if differences.isEmpty then 0 else 1
  else
    match differences, shorter with
    | (n, x, y) :: _, _ =>
      let line := ((a.2.take (n - 1)).filter (· = '\n')).length + 1
      Sh.print (a.1 ++ " " ++ b.1 ++ s!" differ: byte {n}, line {line}" ++
        (if o.has 'b' then
          " is " ++ octalOctet x ++ " " ++ shownOctet x ++ " " ++ octalOctet y ++ " " ++ shownOctet y
        else "") ++ "\n")
      return 1
    | [], some path => ended path true
    | [], none => return 0

/-- The octets that are passed over at the beginnings of two files, in options and after operands. -/
def skippedOctets (o : Options) : Except String (Nat × Nat) := do
  let amount (s : String) : Except String Nat :=
    match (amount? s).filter fun _ => s.toList.head?.any Char.isDigit with
    | some n => pure n
    | none => throw ("invalid --ignore-initial value '" ++ s ++ "'")
  let given ← ((o.given.filter (·.1 = 'i')).map (·.2)).mapM fun s =>
    match s.splitOn ":" with
    | [] => pure (0, 0)
    | [one] => (amount one).map fun n => (n, n)
    | first :: more => do
      pure (← amount first, ← (match more with
        | [second] => amount second
        | _ => throw ("invalid --ignore-initial value '" ++ ":".intercalate more ++ "'")))
  let (a, b) := given.foldl (fun (x, y) (m, n) => (max x m, max y n)) (0, 0)
  match o.operands.drop 2 with
  | [] => return (a, b)
  | [m] => return (max a (← amount m), b)
  | m :: n :: _ => return (max a (← amount m), max b (← amount n))

/-- Compares two files octet by octet. -/
def cmp : Utility := fun _ name args =>
  withOptionsOr (misusedIn name) { letters := "blsv", valued := "in", words := [("bytes", 'n'), ("ignore-initial", 'i'),
      ("print-bytes", 'b'), ("quiet", 's'), ("silent", 's'), ("verbose", 'l'), ("version", 'v')] } true
    args fun o => do
    let limit := match o.value? 'n' with
      | none => Except.ok none
      | some s => match (amount? s).filter fun _ => s.toList.head?.any Char.isDigit with
        | some n => .ok (some n)
        | none => .error ("invalid --bytes value '" ++ s ++ "'")
    match limit, skippedOctets { o with operands := [] } with
    | .error m, _ => misusedIn name m
    | _, .error m => misusedIn name m
    | .ok limit, .ok _ =>
      if o.has 'v' then
        Sh.print "cmp (GNU diffutils) 3.10\n"
        return 0
      else if o.has 'l' && o.has 's' then misusedIn name "options -l and -s are incompatible"
      else match o.operands, skippedOctets o with
        | [], _ => misusedIn name ("missing operand after '" ++ args.getLast?.getD name ++ "'")
        | _, .error m => misusedIn name m
        | _ :: _ :: _ :: _ :: extra :: _, _ => misusedIn name ("extra operand '" ++ extra ++ "'")
        | a :: more, .ok (skipA, skipB) =>
          let b := more.headD "-"
          if a = "-" && b = "-" then return 0
          else
            let x ← Sh.contents a
            match x with
            | .error r => if o.has 's' then return 2 else fail name (a ++ ": " ++ r.reason) 2
            | .ok x =>
              match ← Sh.contents b with
              | .error r => if o.has 's' then return 2 else fail name (b ++ ": " ++ r.reason) 2
              | .ok y =>
                let part (s : String) (skipped : Nat) : List Char :=
                  let rest := s.toList.drop skipped
                  match limit with
                  | some n => rest.take n
                  | none => rest
                let sizes := ([(a, x, skipA), (b, y, skipB)].filter (·.1 != "-")).map fun (_, s, k) => s.length - k
                let largest := (sizes ++ limit.toList).foldl min (Nat.pow 2 63)
                refusedAtEnd name (← compareOctets name o (a, part x skipA) (b, part y skipB)
                  (toString largest).length)

end Retrace.Unix.Utility
