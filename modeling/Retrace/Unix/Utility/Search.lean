import Retrace.Unix.Regular.Rich
import Retrace.Unix.Utility.Names

/-!
# Lines that match

What prints the lines in which regular expressions match, or texts are found,
with lines around them if that is wanted. A *row* is a line with its number and
the place where it begins; a row is *selected* if it matches, or if it does not
and such rows are wanted.
-/

namespace Retrace.Unix.Utility

/-! ### Matching -/

/-- What is searched for, and how. -/
structure Searching where
  expressions : List Regular
  manner : Regular.Manner
  /-- Only whole lines, or only whole words, count. -/
  lines : Bool
  words : Bool

namespace Searching

/-- Whether a match from a place to another one counts. -/
def counts (s : Searching) (p q : Regular.Position) : Bool :=
  (!s.lines || (p.before.isEmpty && q.after.isEmpty)) &&
    (!s.words || (!p.before.head?.any Regular.isWordly && !q.after.head?.any Regular.isWordly))

/-- The first match of an expression from a place on. -/
def matchFrom (s : Searching) (r : Regular) : (fuel : Nat) → Regular.Position → Option (Nat × Nat)
  | 0, _ => none
  | n + 1, p =>
    match Regular.best s.manner ((Regular.places s.manner r p).filter (s.counts p)) with
    | some q => some (q.start.getD p.offset, q.offset)
    | none => if p.after.isEmpty || s.lines then none else s.matchFrom r n p.advance

/-- The first match of any of the expressions, the longest of several. -/
def find? (s : Searching) (line : List Char) (skipped : Nat) : Option (Nat × Nat) :=
  let found := s.expressions.filterMap fun r =>
    s.matchFrom r (line.length + 2) (Regular.Position.advanceBy skipped (.first line))
  found.foldl (fun best m =>
    match best with
    | none => some m
    | some b => if m.1 < b.1 || (m.1 = b.1 && b.2 < m.2) then some m else some b) none

/-- The matches in a line that are not empty. -/
def all (s : Searching) (line : List Char) : (fuel skipped : Nat) → List (Nat × Nat)
  | 0, _ => []
  | n + 1, skipped =>
    match s.find? line skipped with
    | some (a, b) =>
      if a < b then (a, b) :: s.all line n b
      else if a < line.length then s.all line n (a + 1)
      else []
    | none => []

end Searching

/-! ### What is printed -/

/-- A line with its number and the place where it begins. -/
structure Row where
  number : Nat
  offset : Nat
  line : String
  selected : Bool

/-- How rows are shown. -/
structure RowStyle where
  searching : Searching
  /-- The name of the file, if it is shown. -/
  name : Option String
  numbered : Bool
  placed : Bool
  /-- The width of numbers, if what follows begins at a tab stop. -/
  aligned : Option Nat
  onlyMatches : Bool
  inverted : Bool
  colored : Bool
  /-- What follows the name of a file, if not a sign. -/
  nameEnd : Option String
  finish : String

namespace RowStyle

/-- A text in a color. -/
def color (st : RowStyle) (code s : String) : String :=
  if st.colored && s != "" then "\x1b[" ++ code ++ "m\x1b[K" ++ s ++ "\x1b[m\x1b[K" else s

/-- What stands before a line, with the sign that separates its parts. -/
def head (st : RowStyle) (sign : String) (number offset : Nat) (isBlank : Bool) : String :=
  let figure (n : Nat) : String :=
    let digits := toString n
    st.color "32" (match st.aligned with
      | some width => String.ofList (List.replicate (width - digits.length) ' ') ++ digits
      | none => digits) ++ st.color "36" sign
  let text := (match st.name with
      | some name => st.color "35" name ++ (st.nameEnd.getD (st.color "36" sign))
      | none => "") ++
    (if st.numbered then figure number else "") ++ (if st.placed then figure offset else "")
  if st.aligned.isSome && text != "" && !isBlank then text ++ "\t" else text

/-- A line with its matches in color. -/
def marked (st : RowStyle) (cs : List Char) : String :=
  let text (cs : List Char) : String := String.ofList (Multibyte.ofCharacters cs)
  let (out, last) := (st.searching.all cs (cs.length + 1) 0).foldl (fun (acc : String × Nat) (a, b) =>
    (acc.1 ++ text ((cs.take a).drop acc.2) ++ st.color "01;31" (text ((cs.take b).drop a)), b)) ("", 0)
  out ++ text (cs.drop last)

/-- A row as it is shown, as a selected one or as one around those. -/
def row (st : RowStyle) (selected : Bool) (r : Row) : String :=
  if st.onlyMatches then
    if !selected || st.inverted then ""
    else
      let cs := Multibyte.characters r.line.toList
      let octets (k : Nat) : Nat := (Multibyte.ofCharacters (cs.take k)).length
      String.join ((st.searching.all cs (cs.length + 1) 0).map fun (a, b) =>
        st.head ":" r.number (r.offset + if st.placed then octets a else 0) false ++
          st.color "01;31" (String.ofList (Multibyte.ofCharacters ((cs.take b).drop a))) ++ st.finish)
  else
    st.head (if selected then ":" else "-") r.number r.offset (r.line = "") ++
      (if st.colored && selected != st.inverted then st.marked (Multibyte.characters r.line.toList) else r.line) ++
      st.finish

end RowStyle

/-- Which rows are shown. -/
structure Around where
  before : Nat
  after : Nat
  /-- How many rows are selected at most. -/
  most : Option Nat
  /-- What is shown between rows that do not follow each other, if anything is. -/
  gap : Option String

/-- How far showing rows has come. -/
structure RowsShown where
  /-- What is shown, the last one first: rows, and whether they were selected; or a gap. -/
  output : List (Option (Bool × Row))
  /-- The rows that were not shown and may be, the last one first. -/
  kept : List Row
  /-- How many more rows are shown that are not selected. -/
  pending : Nat
  count : Nat
  /-- The number of the row that was shown last. -/
  last : Option Nat
  /-- Whether anything was shown, in any file. -/
  any : Bool
  ended : Bool

namespace RowsShown

/-- Shows a row. -/
def put (s : RowsShown) (selected : Bool) (r : Row) : RowsShown :=
  { s with output := some (selected, r) :: s.output, last := some r.number, any := true }

/-- Goes on with a row. -/
def step (a : Around) (s : RowsShown) (r : Row) : RowsShown :=
  if s.ended then s
  else if a.most = some s.count then
    if 0 < s.pending && !r.selected then { s.put false r with pending := s.pending - 1 }
    else { s with ended := true }
  else if r.selected then
    let first := (s.kept.getLast?.getD r).number
    let s := if a.gap.isSome && s.any && s.last.all (fun l => l + 1 != first) then
        { s with output := none :: s.output }
      else s
    let s := s.kept.reverse.foldl (fun s k => s.put false k) s
    { s.put true r with kept := [], pending := a.after, count := s.count + 1 }
  else if 0 < s.pending then { s.put false r with pending := s.pending - 1 }
  else { s with kept := (r :: s.kept).take a.before }

end RowsShown

/-! ### Searching files -/

/-- The files in a tree, by their paths. Links are followed only if `through`. -/
def filesBelow (fs : Files) (through : Bool) (skipsDirectory : String → Bool) : (depth : Nat) → (path : String) →
    (number : Nat) → List String
  | 0, _, _ => []
  | n + 1, path, number =>
    (fs.names number).flatMap fun name =>
      let shown := if path = "" then name else inside path name
      match (fs.entry? number name).bind fun k => (fs.node? k).map fun node => (k, node) with
      | none => []
      | some (k, node) =>
        match node.content with
        | .directory _ => if skipsDirectory name then [] else filesBelow fs through skipsDirectory n shown k
        | .file _ => [shown]
        | .program _ => [shown]
        | .link _ => if through then [shown] else []
        | _ => []

/-- How deeply trees are searched. -/
def deepestSearch : Nat := 100

/-- The rows of a text. -/
def rowsOf (s : Searching) (inverted : Bool) (separator : Char) (text : String) : List Row :=
  let (rows, _) := (piecesOf separator text).foldl (fun (acc : List Row × Nat × Nat) l =>
    let found := (s.find? (Multibyte.characters l.toList) 0).isSome
    (⟨acc.2.1, acc.2.2, l, found != inverted⟩ :: acc.1, acc.2.1 + 1, acc.2.2 + l.length + 1)) ([], 1, 0)
  rows.reverse

/-- The names of the options for searching. Signs stand for those that have no letter. -/
def searchOptions : OptionNames :=
  { letters := "abcEFGHhiIlLnoPqrRsTuUvVwxyzZ0123456789", valued := "ABCDdefgm+-=:<>", optional := "O"
    wordly := "OgKN!+-=:<>", words := [("ignore-case", 'i'), ("no-ignore-case", 'N'), ("invert-match", 'v'),
      ("count", 'c'), ("line-number", 'n'), ("files-with-matches", 'l'), ("files-without-match", 'L'),
      ("only-matching", 'o'), ("quiet", 'q'), ("silent", 'q'), ("no-messages", 's'), ("word-regexp", 'w'),
      ("line-regexp", 'x'), ("extended-regexp", 'E'), ("fixed-strings", 'F'), ("basic-regexp", 'G'),
      ("perl-regexp", 'P'), ("regexp", 'e'), ("file", 'f'), ("no-filename", 'h'), ("with-filename", 'H'),
      ("recursive", 'r'), ("dereference-recursive", 'R'), ("max-count", 'm'), ("after-context", 'A'),
      ("before-context", 'B'), ("context", 'C'), ("text", 'a'), ("binary-files", '='), ("byte-offset", 'b'),
      ("null", 'Z'), ("null-data", 'z'), ("initial-tab", 'T'), ("include", '+'), ("exclude", '-'),
      ("exclude-dir", '<'), ("exclude-from", '>'), ("directories", 'd'), ("devices", 'D'), ("label", ':'),
      ("color", 'O'), ("colour", 'O'), ("group-separator", 'g'), ("no-group-separator", '!'),
      ("line-buffered", 'K'), ("binary", 'U')] }

/-- Complains about how searching was called. -/
def searchMisused (name : String) (message : Option String) : Sh Nat := do
  if let some m := message then tell name m
  Sh.report ("Usage: " ++ name ++ " [OPTION]... PATTERNS [FILE]...")
  Sh.report ("Try '" ++ name ++ " --help' for more information.")
  return 2

/-- What is said of expressions that have repetitions of nothing. -/
def repetitionWarnings : (fuel : Nat) → (fresh : Bool) → List Char → List String
  | 0, _, _ => []
  | n + 1, fresh, cs =>
    match cs with
    | [] => []
    | '\\' :: c :: rest => repetitionWarnings n (c = '<' || c = '>' || c = 'b' || c = 'B') rest
    | '[' :: rest =>
      let body := match rest with
        | '^' :: ']' :: more => more
        | ']' :: more => more
        | _ => rest
      repetitionWarnings n false ((body.dropWhile (· != ']')).drop 1)
    | c :: rest =>
      if fresh && (c = '*' || c = '+' || c = '?') then
        ("warning: " ++ String.singleton c ++ " at start of expression") :: repetitionWarnings n true rest
      else if fresh && c = '\x7b' then
        let inner := rest.takeWhile fun d => d.isDigit || d = ','
        if !inner.isEmpty && (rest.drop inner.length).head? = some '\x7d' then
          "warning: \x7b...\x7d at start of expression" :: repetitionWarnings n false rest
        else repetitionWarnings n false rest
      else repetitionWarnings n (c = '(' || c = '|' || c = '^' || (fresh && c = '$')) rest

/-- Whether an expression has the name of a class where there is no set. -/
def hasBareClass (expression : String) : Bool :=
  let rec go : (previous : Char) → List Char → Bool
    | previous, '[' :: ':' :: cs =>
      let name := cs.takeWhile Char.isAlpha
      (previous != '[' && !name.isEmpty && (cs.drop name.length).take 2 = [':', ']']) || go ':' cs
    | _, c :: cs => go c cs
    | _, [] => false
  go ' ' expression.toList

/-- Reads an expression that is written in the way of a letter. -/
def readExpression (way : Char) (s : String) : Except String Regular :=
  match way with
  | 'F' => .ok (Regular.ofText s)
  | 'P' => Regular.Rich.read s
  | _ =>
    if hasBareClass s then .error "character class syntax is [[:space:]], not [:space:]"
    else if s.endsWith "[" && !s.endsWith "\\[" || s.endsWith "[^" then .error "Invalid regular expression"
    else Regular.read (if way = 'E' then ⟨true, true, true, false⟩ else ⟨false, true, false, false⟩) s

/-- The number of lines in an option's value. -/
def context? (s : String) : Option Nat :=
  if s != "" && s.toList.all Char.isDigit then some (numberOf 10 s.toList) else none

/-- A search of files: what is searched for, what is shown, and how often. -/
structure Search where
  name : String
  options : Options
  style : RowStyle
  around : Around
  separator : Char

/-- Searches a file that is shown by a name. The result says whether something was selected, whether there
    was a failure, and whether anything was shown before. -/
def searchFile (q : Search) (path shown : String) (named anyBefore : Bool) : Sh (Bool × Bool × Bool) := do
  let o := q.options
  let failed (reason : String) : Sh (Bool × Bool × Bool) := do
    if !o.has 's' then tell q.name (shown ++ ": " ++ reason)
    return (false, true, anyBefore)
  if path != "-" then
    if let .ok found := ← Sh.node path then
      if found.node.isDirectory then
        return ← if o.value? 'd' = some "skip" then pure (false, false, anyBefore) else failed "Is a directory"
  let stream := if path = "-" then some 0 else Sh.streamPath? path
  let content : Except Refusal (String × Bool) ← match stream with
    | some n => do
      match ← Sh.available n with
      | .ok (rest, more) =>
        let whole := if more && rest.contains '\n' then (rest.reverse.dropWhile (· != '\n')).reverse else rest
        pure (.ok (String.ofList whole, more))
      | .error r => pure (.error r)
    | none => do
      match ← Sh.contents path with
      | .ok text => pure (.ok (text, false))
      | .error r => pure (.error r)
  match content with
  | .error r => failed r.reason
  | .ok (text, more) =>
    let isText := o.has 'a' || o.value? '=' = some "text"
    let skipsBinary := match o.last? ['I', '=', 'a'] with
      | some 'I' => true
      | some '=' => o.value? '=' = some "without-match"
      | _ => false
    let binary := !isText && q.separator = '\n' && text.toList.contains '\x00'
    let consumed (n : Nat) : Sh Unit :=
      match stream with
      | some k => Sh.consume k n
      | none => pure ()
    if binary && skipsBinary then
      consumed text.length
      return (false, false, anyBefore)
    else
      let listed := o.last? ['l', 'L']
      let quiet := o.has 'q' || listed.isSome
      let around : Around := if quiet then ⟨0, 0, some 1, none⟩ else if o.has 'c' then { q.around with after := 0 } else q.around
      let rows := rowsOf q.style.searching (o.has 'v') q.separator text
      let s := rows.foldl (fun s r => s.step around r)
        ({ output := [], kept := [], pending := 0, count := 0, last := none, any := anyBefore, ended := false } : RowsShown)
      let full := around.most = some s.count
      -- what follows the last match is left for others, if what was read can be read again
      let seekable ← match stream with
        | some n => do
          match ← Sh.channel? n with
          | some (_, .file _ _ _ _) => pure true
          | _ => pure false
        | none => pure false
      let lastMatch := (rows.filter (·.selected)).take s.count |>.getLast?
      consumed (if full && seekable && !quiet then
        match lastMatch with
        | some r => min text.length (r.offset + r.line.length + 1)
        | none => 0
        else text.length)
      if more && !full then Sh.wantMore
      let style := { q.style with
        name := if named then some shown else none
        aligned := if o.has 'T' then
            let size := if stream.isSome && !seekable then Nat.pow 10 19 else text.length + if o.has 'n' then 1 else 0
            some (toString size).length
          else none }
      let label (sign : String) : String :=
        match style.name with
        | some name => style.color "35" name ++ (style.nameEnd.getD (style.color "36" sign))
        | none => ""
      let found := 0 < s.count
      if o.has 'q' then pure ()
      else if listed = some 'l' then
        if found then Sh.print (style.color "35" shown ++ style.nameEnd.getD "\n")
      else if listed = some 'L' then
        if !found then Sh.print (style.color "35" shown ++ style.nameEnd.getD "\n")
      else if o.has 'c' then Sh.print (label ":" ++ toString s.count ++ "\n")
      else if binary then
        if found then tell q.name (shown ++ ": binary file matches")
      else
        let items := s.output.reverse
        let isStrange (r : Row) : Bool :=
          !isText && (Multibyte.characters r.line.toList).any Multibyte.isStray
        let good := items.takeWhile fun
          | some (_, r) => !isStrange r
          | none => true
        Sh.print (String.join (good.map fun
          | some (selected, r) => style.row selected r
          | none => style.color "36" (q.around.gap.getD "") ++ "\n"))
        if good.length < items.length then tell q.name (shown ++ ": binary file matches")
      return (found, false, s.any)

/-- The patterns in some files, or the first complaint. -/
def patternsIn (name : String) : List String → Sh (Option (List String))
  | [] => return some []
  | path :: paths => do
    match ← Sh.contents path with
    | .error r =>
      tell name (path ++ ": " ++ r.reason)
      return none
    | .ok text => return (← patternsIn name paths).map (linesOf text ++ ·)

/-- Searches files for what is written in the way of a letter, unless another one is asked for. -/
def searchWith (usual : Option Char) : Utility := fun _ called args =>
  let name := if usual.isSome then "grep" else called
  match Options.read searchOptions true args with
  | .error m => searchMisused name (some m)
  | .ok o => do
    let ways := (usual.toList ++ (o.given.map (·.1)).filter fun c => "EFGP".toList.contains c).eraseDups
    let given := (o.given.filter (·.1 = 'e')).map (·.2)
    let files := (o.given.filter (·.1 = 'f')).map (·.2)
    let number (c : Char) : Option (Option Nat) := (o.value? c).map context?
    let digits := (o.given.map (·.1)).filter Char.isDigit
    let usualContext := match o.value? 'C' with
      | some s => context? s
      | none => if digits.isEmpty then none else some (numberOf 10 digits)
    let badContext := (o.given.filter fun g => "ABC".toList.contains g.1).find? fun g => (context? g.2).isNone
    let most := match o.value? 'm' with
      | some s => if s.startsWith "-" && (context? (s.drop 1).toString).isSome then some none else (context? s).map some
      | none => some none
    if ways.length > 1 then fail name "conflicting matchers specified" 2
    else if let some (_, v) := badContext then fail name (v ++ ": invalid context length argument") 2
    else if most.isNone then fail name "invalid max count" 2
    else if (o.value? '=').any fun v => !(["binary", "text", "without-match"].contains v) then
      fail name "unknown binary-files type" 2
    else if (o.value? 'D').any fun v => v != "read" && v != "skip" then fail name "unknown devices method" 2
    else if (o.value? 'd').any fun v => !(["read", "recurse", "skip"].contains v) then
      tell name ("invalid argument " ++ Quoting.curly ((o.value? 'd').getD "") ++ " for " ++ Quoting.curly "--directories")
      Sh.report "Valid arguments are:"
      Sh.each ["read", "recurse", "skip"] fun v => Sh.report ("  - " ++ Quoting.curly v)
      searchMisused name none
    else if given.isEmpty && files.isEmpty && o.operands.isEmpty then searchMisused name none
    else
      match ← patternsIn name files with
      | none => return 2
      | some fromFiles =>
        let hasPatterns := !given.isEmpty || !files.isEmpty
        let patterns := if hasPatterns then given.flatMap (·.splitOn "\n") ++ fromFiles
          else (o.operands.headD "").splitOn "\n"
        let paths := if hasPatterns then o.operands else o.operands.drop 1
        let way := (ways.head?).getD 'G'
        if o.has 'u' then tell name "warning: --unix-byte-offsets (-u) is obsolete"
        if way = 'P' && patterns.length > 1 then fail name "the -P option only supports a single pattern" 2
        else
          match patterns.mapM (readExpression way) with
          | .error m => fail name m 2
          | .ok expressions =>
            if way = 'E' then
              Sh.each (patterns.flatMap fun p => repetitionWarnings (p.length + 1) true p.toList) (tell name)
            if most = some (some 0) then return 1
            let folded := match o.last? ['i', 'y', 'N'] with
              | some 'N' => false
              | some _ => true
              | none => false
            let s : Searching := ⟨expressions, { Regular.Manner.usual with folded := folded, preferred := way = 'P' },
              o.has 'x', o.has 'w' && !o.has 'x'⟩
            let colored := ["always", "yes", "force"].contains ((o.value? 'O').getD "")
            let nul := o.has 'z'
            let style : RowStyle := {
              searching := s
              name := none
              numbered := o.has 'n'
              placed := o.has 'b'
              aligned := none
              onlyMatches := o.has 'o'
              inverted := o.has 'v'
              colored := colored
              nameEnd := if o.has 'Z' then some "\x00" else none
              finish := if nul then "\x00" else "\n" }
            let before := ((number 'B').getD none).or usualContext
            let after := ((number 'A').getD none).or usualContext
            let q : Search := {
              name := name
              options := o
              style := style
              around := {
                before := before.getD 0
                after := after.getD 0
                most := most.getD none
                gap := if before.isNone && after.isNone then none
                  else match o.last? ['g', '!'] with
                    | some 'g' => o.value? 'g'
                    | some _ => none
                    | none => some "--" }
              separator := if nul then '\x00' else '\n' }
            let recursive := o.has 'r' || o.has 'R' || o.value? 'd' = some "recurse"
            let globs (c : Char) : List Pattern := (o.given.filter (·.1 = c)).map fun g =>
              Pattern.ofOctets false ((withoutSlashes g.2).toList.map fun c => (c, false))
            let excludedFrom ← Sh.collect ((o.given.filter (·.1 = '>')).map (·.2)) fun path => do
              match ← Sh.contents path with
              | .ok text => pure (linesOf text)
              | .error _ => pure []
            let excluded := globs '-' ++ excludedFrom.flatten.map fun l =>
              Pattern.ofOctets false (l.toList.map fun c => (c, false))
            let isWanted (path : String) : Bool :=
              path = "-" || (((globs '+').isEmpty || (globs '+').any (·.admits (lastPart path))) &&
                !(excluded.any fun p => p.admits (lastPart path) || p.admits path))
            let skipsDirectory (d : String) : Bool := (globs '<').any (·.admits d)
            let bare := paths.isEmpty
            let paths := if bare then (if recursive then ["."] else ["-"]) else paths
            let expanded ← Sh.collect paths fun path => do
              match ← (if recursive && path != "-" then Sh.node path else pure (.error .notFound)) with
              | .ok found =>
                if found.node.isDirectory then
                  if !bare && skipsDirectory (lastPart path) then return ([], true)
                  else
                    let fs ← Sh.ask (·.files)
                    let base := if bare then "" else path
                    return (filesBelow fs (o.has 'R') skipsDirectory deepestSearch base found.number, true)
                else return ([path], false)
              | .error _ => return ([path], false)
            let all := expanded.flatMap fun (ps, inTree) => (ps.filter isWanted).map fun p => (p, inTree)
            let rec go (found failed any : Bool) : List (String × Bool) → Sh (Bool × Bool)
              | [] => return (found, failed)
              | (path, inTree) :: rest => do
                let shown := if path = "-" then (o.value? ':').getD "(standard input)" else path
                let named := match o.last? ['h', 'H'] with
                  | some 'h' => false
                  | some _ => true
                  | none => paths.length > 1 || inTree
                let (f, e, a) ← searchFile q path shown named any
                if f && o.has 'q' then return (true, failed || e) else go (found || f) (failed || e) a rest
            let (found, failed) ← go false false false all
            refusedAtEnd name (if failed && !(found && o.has 'q') then 2 else if found then 0 else 1)

/-- Prints lines that match. -/
def grep : Utility := searchWith none

/-- Prints lines in which extended expressions match. -/
def egrep : Utility := searchWith (some 'E')

/-- Prints lines in which texts are found. -/
def fgrep : Utility := searchWith (some 'F')

end Retrace.Unix.Utility
