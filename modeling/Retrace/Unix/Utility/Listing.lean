import Retrace.Unix.Utility.Sorting
import Retrace.Unix.Utility.Trees

/-!
# What there is

Lists of files and directories, and what is known of them. The entries of a list
are shown one on a line, in columns, or on lines that say more about them.
-/

namespace Retrace.Unix.Utility

/-! ### What is known of a file -/

/-- How many kibibytes are taken by what a node holds. -/
def blocksOf (n : Node) : Nat :=
  match n.content with
  | .link _ => 0
  | _ => (n.size + 4095) / 4096 * 4

/-- The letter for what a node is. -/
def kindLetter (n : Node) : String :=
  match n.content with
  | .directory _ => "d"
  | .link _ => "l"
  | .pipe _ => "p"
  | .device _ => "c"
  | _ => "-"

/-- The numbers of devices. -/
def deviceNumbers : Device → Nat × Nat
  | .null => (1, 3)
  | .zero => (1, 5)
  | .full => (1, 7)
  | .random => (1, 8)
  | .terminal => (5, 0)

/-- How many names a node has. -/
def nameCountOf (number : Nat) : Sh Nat := Sh.ask (·.files.nameCount number)

/-! ### Entries -/

/-- An entry of a list: the name that is shown, the number of its node, the node, and what a link
    leads to. -/
structure Entry where
  name : String
  number : Nat
  node : Node
  target : Option Node
  /-- How many names the node has. -/
  names : Nat

/-- How entries are set out. -/
inductive Setting where
  | lines | columns | across | commas | long
deriving DecidableEq

/-- How a list is made. -/
structure ListStyle where
  options : Options
  setting : Setting
  /-- The marks after names: none, those for directories, those for kinds, or all. -/
  marks : Nat
  width : Nat
  tab : Nat
  zone : Calendar.Zone
  now : Int
  /-- The format for times, those of the last half year and others. -/
  formats : String × String
  finish : String
  /-- The powers of which units stand for, if sizes are shown in units. -/
  units : Option Nat

namespace ListStyle

/-- The mark for what a node is. -/
def mark (st : ListStyle) (n : Node) : String :=
  match n.content with
  | .directory _ => if 1 ≤ st.marks then "/" else ""
  | .link _ => if 2 ≤ st.marks then "@" else ""
  | .pipe _ => if 2 ≤ st.marks then "|" else ""
  | .device _ => ""
  | _ => if 3 ≤ st.marks && n.isExecutable then "*" else ""

/-- A name as it is shown. -/
def shown (st : ListStyle) (s : String) : String :=
  let style := match st.options.last? ['b', 'N', 'Q', 'Y'] with
    | some 'b' => "escape"
    | some 'Q' => "c"
    | some 'Y' => (st.options.value? 'Y').getD "literal"
    | _ => "literal"
  let cs := Multibyte.characters s.toList
  let withLetters (special : List Char) : String := String.ofList (cs.flatMap fun c =>
    if special.contains c then ['\\', c]
    else if c = '\'' then [c]
    else if c = '\x1b' then Quoting.octal c
    else Quoting.shown c)
  match style with
  | "escape" => withLetters [' ']
  | "c" => "\"" ++ withLetters ['"'] ++ "\""
  | "locale" => Quoting.curly s
  | "clocale" => Quoting.curly s
  | "shell" => if Quoting.hasControl s then Quoting.single s else Quoting.escaped s
  | "shell-always" => if Quoting.hasControl s then Quoting.single s else Quoting.always s
  | "shell-escape" => Quoting.escaped s
  | "shell-escape-always" => Quoting.always s
  | _ =>
    if st.options.last? ['q', 'V'] = some 'q' then
      String.ofList (cs.flatMap fun c => if Quoting.isControl c then ['?'] else Multibyte.octets c)
    else s

/-- A number of octets in units, rounded up. -/
def inUnits (base n : Nat) : String :=
  let rec go : (letters : List String) → (scale : Nat) → String
    | [], _ => toString n
    | letter :: letters, scale =>
      if n < base * scale || letters.isEmpty then
        let tenths := (n * 10 + scale - 1) / scale
        if tenths < 100 && scale != 1 then
          toString (tenths / 10) ++ "." ++ toString (tenths % 10) ++ letter
        else
          let whole := (n + scale - 1) / scale
          if whole = base && !letters.isEmpty then "1.0" ++ letters.headD "" else toString whole ++ letter
      else go letters (scale * base)
  go ["", if base = 1000 then "k" else "K", "M", "G", "T", "P", "E"] 1

/-- A size as it is shown. -/
def size (st : ListStyle) (n : Nat) : String :=
  match st.units with
  | some base => inUnits base n
  | none => toString n

/-- A number of kibibytes as it is shown. -/
def blocks (st : ListStyle) (n : Nat) : String :=
  match st.units with
  | some base => inUnits base (n * 1024)
  | none => toString n

/-- What is shown before names that are not on lines of their own, in some space. -/
def lead (st : ListStyle) (widths : Nat × Nat) (e : Entry) : String :=
  let padded (width : Nat) (s : String) : String :=
    if st.setting = .commas then s else Format.padded width false s
  (if st.options.has 'i' then padded widths.1 (toString (e.number + 2)) ++ " " else "") ++
    (if st.options.has 's' then padded widths.2 (st.blocks (blocksOf e.node)) ++ " " else "")

/-- The widths of what is shown before names. -/
def leadWidths (st : ListStyle) (es : List Entry) : Nat × Nat :=
  (es.foldl (fun w e => max w (toString (e.number + 2)).length) 0,
    es.foldl (fun w e => max w (st.blocks (blocksOf e.node)).length) 0)

/-- An entry without more than its name. -/
def brief (st : ListStyle) (widths : Nat × Nat) (e : Entry) : String :=
  st.lead widths e ++ st.shown e.name ++ st.mark e.node

/-- The time of an entry as it is shown. -/
def time (st : ListStyle) (e : Entry) : String :=
  let age := st.now - e.node.changed
  let format := if 0 ≤ age && age < 15778476 * 1000000000 then st.formats.1 else st.formats.2
  Calendar.written st.zone e.node.changed format

/-- The lines that say much about entries. -/
def longLines (st : ListStyle) (es : List Entry) : List String :=
  let widths := st.leadWidths es
  let sizeText (e : Entry) : String :=
    match e.node.content with
    | .device d => toString (deviceNumbers d).1 ++ ", " ++ toString (deviceNumbers d).2
    | _ => st.size e.node.size
  let widest (f : Entry → String) : Nat := es.foldl (fun w e => max w (f e).length) 0
  let count (e : Entry) : String := toString e.names
  let o := st.options
  let who := if o.has 'n' then "0" else "root"
  es.map fun e =>
    st.lead widths e ++ kindLetter e.node ++ Mode.letters e.node.mode ++ " " ++
      Format.padded (widest count) false (count e) ++ " " ++
      (if o.has 'g' then "" else who ++ " ") ++
      (if o.has 'o' || o.has 'G' then "" else who ++ " ") ++
      (if o.has 'P' then who ++ " " else "") ++
      Format.padded (widest sizeText) false (sizeText e) ++ " " ++ st.time e ++ " " ++ st.shown e.name ++
      (match e.node.content with
        | .link target => " -> " ++ st.shown target ++ ((e.target.map st.mark).getD "")
        | _ => st.mark e.node)

/-! ### Setting out -/

/-- How many columns a text takes. -/
def columnsOf (s : String) : Nat :=
  ((Multibyte.characters s.toList).map fun c =>
    if Quoting.isControl c then 0 else Multibyte.columns c).foldl (· + ·) 0

/-- The widths of columns in which texts of some widths fit on lines, if they do. -/
def columnWidths? (width : Nat) (across : Bool) (widths : Array Nat) (columns : Nat) : Option (List Nat) :=
  let n := widths.size
  let rows := (n + columns - 1) / columns
  let placed := widths.toList.zipIdx.map fun (w, i) => (if across then i % columns else i / rows, w)
  let of (k : Nat) : Nat :=
    placed.foldl (fun m (c, w) => if c = k then max m (w + (if c + 1 = columns then 0 else 2)) else m) 3
  let all := (List.range columns).map of
  if all.foldl (· + ·) 0 < width then some all else none

/-- A gap from a column to a column, with tabs where they fit. -/
def gap (tab : Nat) : (fuel : Nat) → (start stop : Nat) → List Char
  | 0, _, _ => []
  | n + 1, start, stop =>
    if stop ≤ start then []
    else if tab != 0 && (start + 1) / tab < stop / tab then
      '\t' :: gap tab n (start + tab - start % tab) stop
    else ' ' :: gap tab n (start + 1) stop

/-- A line of texts in columns. -/
def columnLine (tab position : Nat) : List (String × Nat) → String
  | [] => ""
  | [(s, _)] => s
  | (s, w) :: more =>
    s ++ String.ofList (gap tab (w + 1) (position + columnsOf s) (position + w)) ++
      columnLine tab (position + w) more

/-- Texts in columns. -/
def inColumns (st : ListStyle) (across : Bool) (texts : List String) : List String :=
  let widths := (texts.map columnsOf).toArray
  let n := texts.length
  let most := min (st.width / 3 + (if st.width % 3 = 0 then 0 else 1)) n
  let candidates := (List.range most).reverse.map (· + 1)
  match candidates.firstM fun k => (columnWidths? st.width across widths k).map fun ws => (k, ws) with
  | none => texts
  | some (k, ws) =>
    let rows := (n + k - 1) / k
    let all := texts.toArray
    (List.range rows).map fun row =>
      let places := (List.range k).map fun column => if across then row * k + column else column * rows + row
      columnLine st.tab 0 ((places.filterMap fun p => all[p]?).zip ws)

/-- Texts on lines, with commas between them. -/
def withCommas (width : Nat) (position : Nat) (first : Bool) : List String → String
  | [] => ""
  | s :: more =>
    let w := columnsOf s
    if first then s ++ withCommas width w false more
    else if width = 0 || position + w + 2 < width then ", " ++ s ++ withCommas width (position + 2 + w) false more
    else ",\n" ++ s ++ withCommas width w false more

/-- The text of a list. -/
def text (st : ListStyle) (es : List Entry) : String :=
  let widths := st.leadWidths es
  let texts := es.map (st.brief widths)
  let all (ls : List String) : String := String.join (ls.map (· ++ st.finish))
  match st.setting with
  | .lines => all texts
  | .long => all (st.longLines es)
  | .commas => if es.isEmpty then "" else withCommas st.width 0 true texts ++ st.finish
  | .columns =>
    if es.isEmpty then "" else if st.width = 0 then "  ".intercalate texts ++ "\n" else all (st.inColumns false texts)
  | .across =>
    if es.isEmpty then "" else if st.width = 0 then "  ".intercalate texts ++ "\n" else all (st.inColumns true texts)

/-! ### Order -/

/-- The ending of a name, from the last point on. -/
def ending (s : String) : String :=
  match s.splitOn "." with
  | [_] => ""
  | parts => "." ++ (parts.getLast?.getD "")

/-- Entries in the order that was asked for. -/
def sorted (st : ListStyle) (es : List Entry) : List Entry :=
  let o := st.options
  let byName (a b : Entry) : Ordering := compare a.name b.name
  let order (a b : Entry) : Ordering :=
    match o.last? ['S', 't', 'v', 'X', 'U', 'f'] with
    | some 'S' => (compare b.node.size a.node.size).then (byName a b)
    | some 't' => (compare b.node.changed a.node.changed).then (byName a b)
    | some 'v' => (Sorting.compareVersions a.name.toList b.name.toList).then (byName a b)
    | some 'X' => (compare (ending a.name) (ending b.name)).then (byName a b)
    | _ =>
      if (o.has 'c' || o.has 'u') && st.setting != .long then
        (compare b.node.changed a.node.changed).then (byName a b)
      else byName a b
  let ordered := match o.last? ['S', 't', 'v', 'X', 'U', 'f'] with
    | some 'U' => es
    | some 'f' => es
    | _ =>
      let up := es.mergeSort fun a b => order a b != .gt
      if o.has 'r' then up.reverse else up
  if o.has 'J' then
    let isFirst (e : Entry) : Bool := e.node.isDirectory || e.target.any (·.isDirectory)
    ordered.filter isFirst ++ ordered.filter (!isFirst ·)
  else ordered

/-- Whether a name in a directory is listed. -/
def isListed (st : ListStyle) (name : String) : Bool :=
  let o := st.options
  let all := o.has 'a' || o.has 'f' || o.has 'A'
  let admits (pattern : String) : Bool :=
    (Pattern.ofOctets false (pattern.toList.map fun c => (c, false))).admits name && (!name.startsWith "." || pattern.startsWith ".")
  let patterns (c : Char) : List String := (o.given.filter (·.1 = c)).map (·.2)
  (all || !name.startsWith ".") && !(o.has 'B' && name.endsWith "~") && !((patterns 'I').any admits) &&
    (all || !((patterns '!').any admits))

end ListStyle

/-! ### Listing -/

/-- The entry of a path, which is shown by a name. -/
def entryOf (name path : String) (through : Bool) : Sh (Except Refusal Entry) := do
  match ← (if through then Sh.node path else Sh.nodeItself path) with
  | .error r => return .error r
  | .ok found =>
    let target ← if found.node.content.isLink then do
        match ← Sh.node path with
        | .ok t => pure (some t.node)
        | .error _ => pure none
      else pure none
    return .ok ⟨name, found.number, found.node, target, ← nameCountOf found.number⟩

/-- Lists a directory and, if that was asked for, those in it. -/
def listTree (name : String) (st : ListStyle) : (depth : Nat) → (headed first : Bool) → (path shown : String) →
    (number : Nat) → Sh Nat
  | 0, _, _, _, _, _ => return 1
  | n + 1, headed, first, path, shown, number => do
    let o := st.options
    let names ← Sh.ask (·.files.entries number)
    let own := (names.map (·.1)).filter st.isListed
    let dots := if o.has 'a' || o.has 'f' then [".", ".."] else []
    let found ← Sh.collect (dots ++ own) fun entry => do
      let inner := inside path entry
      match ← entryOf entry inner (o.has 'L') with
      | .ok e => return some (e, true)
      | .error r =>
        -- of what is shown by its name alone nothing needs to be known
        let known := st.marks = 0 && st.setting != .long && !o.has 's' && (o.last? ['S', 't', 'c', 'u']).isNone
        if !known then tell name ("cannot access " ++ Quoting.always inner ++ ": " ++ r.reason)
        match ← entryOf entry inner false with
        | .ok e => return some (e, known)
        | .error _ => return none
    let es := st.sorted ((found.filterMap id).map (·.1))
    let total := ((es.map fun e => blocksOf e.node).foldl (· + ·) 0)
    Sh.print ((if headed then (if first then "" else "\n") ++ shown ++ ":\n" else "") ++
      (if st.setting = .long || o.has 's' then "total " ++ st.blocks total ++ "\n" else "") ++ st.text es)
    let status := if found.all fun e => e.any (·.2) then 0 else 1
    if o.has 'R' then
      let inner ← Sh.worst es fun e =>
        if e.node.isDirectory && e.name != "." && e.name != ".." then
          listTree name st n true false (inside path e.name) (inside shown e.name) e.number
        else return 0
      return max status inner
    else return status

/-- The names of the options for lists. Signs stand for those that have no letter. -/
def listOptions : OptionNames :=
  { letters := "1aAbBcCdDfFgGhHiklLmnNopqQrRsStuUvxXZ", valued := "IwTKWY!=^~+", optional := "FO"
    wordly := "EJKOPVWYyz0e!=^~+", words := [("all", 'a'), ("almost-all", 'A'), ("author", 'P'), ("escape", 'b'),
      ("block-size", 'K'), ("ignore-backups", 'B'), ("color", 'O'), ("directory", 'd'), ("dired", 'D'),
      ("classify", 'F'), ("file-type", 'y'), ("format", 'W'), ("full-time", 'E'), ("group-directories-first", 'J'),
      ("no-group", 'G'), ("human-readable", 'h'), ("si", 'z'), ("hide", '!'), ("indicator-style", '='),
      ("inode", 'i'), ("ignore", 'I'), ("kibibytes", 'k'), ("dereference", 'L'),
      ("dereference-command-line", 'H'), ("dereference-command-line-symlink-to-dir", 'e'),
      ("numeric-uid-gid", 'n'), ("literal", 'N'), ("hide-control-chars", 'q'), ("show-control-chars", 'V'),
      ("quote-name", 'Q'), ("quoting-style", 'Y'), ("reverse", 'r'), ("recursive", 'R'), ("size", 's'),
      ("sort", '^'), ("time", '~'), ("time-style", '+'), ("tabsize", 'T'), ("width", 'w'), ("zero", '0'),
      ("hyperlink", 'O'), ("context", 'Z')] }

/-- An option whose value is one of some words, which may be synonyms: the option with its code, and
    the words with the letters they mean. -/
structure Choice where
  code : Char
  option : String
  words : List (List String × Char)

/-- The options of lists whose values are words. -/
def listChoices : List Choice := [
  ⟨'^', "--sort", [(["none"], 'U'), (["time"], 't'), (["size"], 'S'), (["extension"], 'X'), (["version"], 'v'),
    (["width"], '^'), (["name"], '^')]⟩,
  ⟨'W', "--format", [(["verbose", "long"], 'l'), (["commas"], 'm'), (["horizontal", "across"], 'x'),
    (["vertical"], 'C'), (["single-column"], '1')]⟩,
  ⟨'~', "--time", [(["atime", "access", "use"], 'u'), (["ctime", "status"], 'c'),
    (["mtime", "modification"], '~'), (["birth", "creation"], '~')]⟩,
  ⟨'=', "--indicator-style", [(["none"], '='), (["slash"], 'p'), (["file-type"], 'y'), (["classify"], 'F')]⟩,
  ⟨'O', "--color", [(["always", "yes", "force"], 'O'), (["never", "no", "none"], 'O'),
    (["auto", "tty", "if-tty"], 'O')]⟩,
  ⟨'F', "--classify", [(["always", "yes", "force"], 'F'), (["never", "no", "none"], '='),
    (["auto", "tty", "if-tty"], '=')]⟩]

/-- The letters that options stand for, or the first option with a value that it cannot have. -/
def chosenLetters (choices : List Choice) (given : List (Char × String)) :
    Except (Choice × String) (List (Char × String)) :=
  given.mapM fun (c, value) =>
    match choices.find? (·.code = c) with
    | some choice =>
      if value = "" then .ok (c, value)
      else match choice.words.find? fun w => w.1.contains value with
        | some (_, letter) => .ok (letter, "")
        | none => .error (choice, value)
    | none => .ok (c, value)

/-- How entries are set out that are set out in some way at first. -/
def settingOf (usual : Setting) (o : Options) : Setting :=
  o.given.foldl (fun st (c, _) =>
    if "lngoE".toList.contains c then .long
    else if c = 'C' then .columns
    else if c = 'x' then .across
    else if c = 'm' then .commas
    else if c = '1' || c = '0' then (if st = .long then .long else .lines)
    else st) usual

/-- The formats for times of a style. -/
def timeFormats (style : String) : String × String :=
  match style with
  | "full-iso" => ("%Y-%m-%d %H:%M:%S.%N %z", "%Y-%m-%d %H:%M:%S.%N %z")
  | "long-iso" => ("%Y-%m-%d %H:%M", "%Y-%m-%d %H:%M")
  | "iso" => ("%m-%d %H:%M", "%Y-%m-%d ")
  | s =>
    if s.startsWith "+" then
      match (s.drop 1).toString.splitOn "\n" with
      | [old, recent] => (recent, old)
      | _ => ((s.drop 1).toString, (s.drop 1).toString)
    else ("%b %e %H:%M", "%b %e  %Y")

/-- Lists files and directories, set out in some way unless another one was asked for. -/
def listWith (usual : Setting) (quoting : List (Char × String)) : Utility := fun _ name args =>
  withOptions listOptions true 2 name args fun o => do
    match chosenLetters listChoices o.given with
    | .error (choice, value) =>
      tell name ("invalid argument " ++ Quoting.curly value ++ " for " ++ Quoting.curly choice.option)
      Sh.report "Valid arguments are:"
      Sh.each (choice.words.filter fun w => w.1 != ["name"]) fun w =>
        Sh.report ("  - " ++ ", ".intercalate (w.1.map Quoting.curly))
      Sh.report ("Try '" ++ name ++ " --help' for more information.")
      return 2
    | .ok given =>
      let o : Options := { o with given := quoting ++ given }
      let bad (what value : String) : Sh Nat := fail name ("invalid " ++ what ++ ": " ++ Quoting.curly value) 2
      let width := (o.value? 'w').getD "80"
      let tab := (o.value? 'T').getD "8"
      match natural? width, natural? tab with
      | none, _ => bad "line width" width
      | _, none => bad "tab size" tab
      | some width, some tab =>
        let s ← Sh.ask id
        let style := if o.has 'E' then "full-iso" else (o.value? '+').getD ""
        let st : ListStyle := {
          options := o
          setting := settingOf usual o
          marks := match o.last? ['F', 'p', 'y', '='] with
            | some 'F' => 3
            | some 'y' => 2
            | some 'p' => 1
            | _ => 0
          width := width
          tab := tab
          zone := ← zone
          now := s.files.now
          formats := timeFormats style
          finish := if o.has '0' then "\x00" else "\n"
          units := match o.last? ['h', 'z', 'k'] with
            | some 'h' => some 1024
            | some 'z' => some 1000
            | _ => none }
        let paths := orHere o.operands
        let itself := o.has 'd' || st.marks = 3 || st.setting = .long
        let found ← Sh.collect paths fun path => do
          let target ← Sh.node path
          let through := o.has 'L' || o.has 'H' ||
            (!itself && match target with
              | .ok t => t.node.isDirectory
              | .error _ => false)
          match ← entryOf path path through with
          | .ok e => return some e
          | .error r =>
            tell name ("cannot access " ++ Quoting.always path ++ ": " ++ r.reason)
            return none
        let es := st.sorted (found.filterMap id)
        let isOpened (e : Entry) : Bool := !o.has 'd' && e.node.isDirectory
        let files := es.filter (!isOpened ·)
        let directories := es.filter isOpened
        if !files.isEmpty then
          Sh.print (st.text files ++ if directories.isEmpty then "" else "\n")
        let headed := o.has 'R' || paths.length > 1 || directories.length > 1 || !files.isEmpty
        let rec go (first : Bool) : List Entry → Sh Nat
          | [] => return 0
          | e :: es => do
            let status ← listTree name st deepestTree headed first e.name (st.shown e.name) e.number
            return max status (← go false es)
        let status ← go true directories
        refusedAtEnd name (if found.any Option.isNone then 2 else status)
where
  /-- The paths that are given, or that of the directory where one is. -/
  orHere (paths : List String) : List String := if paths.isEmpty then ["."] else paths

/-- Lists files and directories, one on a line. -/
def ls : Utility := listWith .lines []

/-- Lists files and directories in columns. -/
def dir : Utility := listWith .columns [('b', "")]

/-- Lists files and directories with what is known of them. -/
def vdir : Utility := listWith .long [('b', "")]

/-! ### What is known of files -/

/-- What a node is, in words. -/
def kindInWords (n : Node) : String :=
  match n.content with
  | .directory _ => "directory"
  | .link _ => "symbolic link"
  | .pipe _ => "fifo"
  | .device _ => "character special file"
  | _ => if n.size = 0 then "regular empty file" else "regular file"

/-- The bits that say what a node is. -/
def kindBits (n : Node) : Nat :=
  match n.content with
  | .directory _ => 0o040000
  | .link _ => 0o120000
  | .pipe _ => 0o010000
  | .device _ => 0o020000
  | _ => 0o100000

/-- What is asked of a file. -/
structure Inquiry where
  path : String
  number : Nat
  node : Node
  names : Nat
  zone : Calendar.Zone

namespace Inquiry

/-- What a letter asks for: a text, or a number in a base. -/
inductive Answer where
  | text (s : String)
  | number (base : Nat) (n : Int)
  | time (nanoseconds : Int)

/-- The number of the device that holds a node. -/
def deviceOf (n : Node) : Nat :=
  match n.content with
  | .device _ => 6
  | _ => 65024

/-- The numbers of the device that a node is. -/
def numbersOf (n : Node) : Nat × Nat :=
  match n.content with
  | .device d => deviceNumbers d
  | _ => (0, 0)

/-- When its content was changed, in words. -/
def changed (q : Inquiry) : String := Calendar.written q.zone q.node.changed "%Y-%m-%d %H:%M:%S.%N %z"

/-- The answer to a letter. -/
def answer (q : Inquiry) : Char → Answer
  | 'n' => .text q.path
  | 'N' => .text (Quoting.always q.path ++ match q.node.content with
      | .link target => " -> " ++ Quoting.always target
      | _ => "")
  | 'a' => .number 8 q.node.mode
  | 'A' => .text (kindLetter q.node ++ Mode.letters q.node.mode)
  | 'b' => .number 10 (blocksOf q.node * 2)
  | 'B' => .number 10 512
  | 'C' => .text "?"
  | 'd' => .number 10 (deviceOf q.node)
  | 'D' => .number 16 (deviceOf q.node)
  | 'f' => .number 16 (kindBits q.node + q.node.mode : Nat)
  | 'F' => .text (kindInWords q.node)
  | 'g' => .number 10 0
  | 'G' => .text "root"
  | 'h' => .number 10 q.names
  | 'i' => .number 10 (q.number + 2 : Nat)
  | 'm' => .text "/"
  | 'o' => .number 10 4096
  | 'r' => .number 10 ((numbersOf q.node).1 * 256 + (numbersOf q.node).2 : Nat)
  | 'R' => .number 16 ((numbersOf q.node).1 * 256 + (numbersOf q.node).2 : Nat)
  | 's' => .number 10 q.node.size
  | 't' => .number 16 (numbersOf q.node).1
  | 'T' => .number 16 (numbersOf q.node).2
  | 'u' => .number 10 0
  | 'U' => .text "root"
  | 'w' => .text (changed q)
  | 'x' => .text (changed q)
  | 'y' => .text (changed q)
  | 'z' => .text (changed q)
  | 'W' => .time q.node.changed
  | 'X' => .time q.node.changed
  | 'Y' => .time q.node.changed
  | 'Z' => .time q.node.changed
  | _ => .text "?"

/-- An answer in some space. -/
def shown (flags : List Char) (width : Nat) (precision : Option Nat) : Answer → String
  | .text s =>
    let s := match precision with
      | some p => (s.take p).toString
      | none => s
    Format.padded width (flags.contains '-') s
  | .number base n =>
    let digits := String.ofList (Nat.toDigits base n.natAbs)
    let digits := Fraction.zeroPadded (precision.getD 0) digits
    let lead := if flags.contains '#' && n != 0 then (if base = 8 then "0" else if base = 16 then "0x" else "") else ""
    let sign := if n < 0 then "-" else if base = 10 && flags.contains '+' then "+"
      else if base = 10 && flags.contains ' ' then " " else ""
    if flags.contains '-' then Format.padded width true (sign ++ lead ++ digits)
    else if flags.contains '0' && precision.isNone then
      sign ++ lead ++ Fraction.zeroPadded (width - sign.length - lead.length) digits
    else Format.padded width false (sign ++ lead ++ digits)
  | .time t =>
    let whole := toString (t.fdiv 1000000000)
    let part := Fraction.zeroPadded 9 (toString (t.fmod 1000000000))
    let s := match precision with
      | some 0 => whole
      | some p => whole ++ "." ++ (part.take p).toString ++ String.ofList (List.replicate (p - 9) '0')
      | none => whole
    if flags.contains '0' && !flags.contains '-' then Fraction.zeroPadded width s
    else Format.padded width (flags.contains '-') s

/-- What a format asks of a file. With `escaping`, letters after a backslash stand for
    characters. -/
def text (escaping : Bool) (q : Inquiry) : (fuel : Nat) → List Char → List Char
  | 0, _ => []
  | _, [] => []
  | _, ['%'] => ['%']
  | n + 1, '%' :: '%' :: cs => '%' :: text escaping q n cs
  | n + 1, '%' :: cs =>
    let flags := cs.takeWhile fun c => "-+ 0#'I".toList.contains c
    let rest := cs.drop flags.length
    let width := rest.takeWhile Char.isDigit
    let rest := rest.drop width.length
    let (precision, rest) := match rest with
      | '.' :: ds =>
        let digits := ds.takeWhile Char.isDigit
        (some (if digits.isEmpty then 9 else numberOf 10 digits), ds.drop digits.length)
      | rest => (none, rest)
    let part (pair : Nat × Nat) (high : Bool) (cs : List Char) : List Char :=
      (shown flags (numberOf 10 width) precision (.number 10 (if high then pair.1 else pair.2 : Nat))).toList ++
        text escaping q n cs
    let holder := (deviceOf q.node / 256, deviceOf q.node % 256)
    match rest with
    | 'H' :: 'd' :: cs => part holder true cs
    | 'L' :: 'd' :: cs => part holder false cs
    | 'H' :: 'r' :: cs => part (numbersOf q.node) true cs
    | 'L' :: 'r' :: cs => part (numbersOf q.node) false cs
    | c :: cs => (shown flags (numberOf 10 width) precision (q.answer c)).toList ++ text escaping q n cs
    | [] => '%' :: cs
  | n + 1, '\\' :: cs =>
    if !escaping then '\\' :: text escaping q n cs
    else
      match cs with
      | 'x' :: rest =>
        let digits := (rest.take 2).takeWhile fun c => (digitValue? 16 c).isSome
        if digits.isEmpty then 'x' :: text escaping q n rest
        else Char.ofNat (numberOf 16 digits % 256) :: text escaping q n (rest.drop digits.length)
      | c :: rest =>
        let digits := (cs.take 3).takeWhile fun c => (digitValue? 8 c).isSome
        if !digits.isEmpty then
          Char.ofNat (numberOf 8 digits % 256) :: text escaping q n (cs.drop digits.length)
        else
          (([('a', '\x07'), ('b', '\x08'), ('e', '\x1b'), ('f', '\x0c'), ('n', '\n'), ('r', '\r'), ('t', '\t'),
            ('v', '\x0b')] : List (Char × Char)).lookup c |>.getD c) :: text escaping q n rest
      | [] => ['\\']
  | n + 1, c :: cs => c :: text escaping q n cs

/-- The letters of a format that follow a backslash and stand for nothing else. -/
def strangeLetters : List Char → List Char
  | '\\' :: c :: cs => if "abefnrtvx01234567\"\\".toList.contains c then strangeLetters cs else c :: strangeLetters cs
  | _ :: cs => strangeLetters cs
  | [] => []

/-- The first part of a format that asks for nothing. -/
def invalid? : (fuel : Nat) → List Char → Option (List Char)
  | 0, _ => none
  | n + 1, '%' :: cs =>
    let extent := cs.takeWhile fun c => "-+ #'I.".toList.contains c || c.isDigit
    match cs.drop extent.length with
    | [] => if extent.isEmpty then none else some ('%' :: extent)
    | '%' :: rest => if extent.isEmpty then invalid? n rest else some ('%' :: extent ++ ['%'])
    | _ :: rest => invalid? n rest
  | n + 1, _ :: cs => invalid? n cs
  | _, [] => none

/-- What is told if nothing else is asked for. -/
def usualFormat (n : Node) : String :=
  "  File: %N\n  Size: %-10s\tBlocks: %-10b IO Block: %-6o %F\n" ++
    (match n.content with
      | .device _ => "Device: %Hd,%Ld\tInode: %-11i Links: %-5h Device type: %Hr,%Lr\n"
      | _ => "Device: %Hd,%Ld\tInode: %-11i Links: %h\n") ++
    "Access: (%04a/%10.10A)  Uid: (%5u/%8U)   Gid: (%5g/%8G)\nAccess: %x\nModify: %y\nChange: %z\n Birth: %w\n"

end Inquiry

/-- Tells what is known of files. -/
def stat : Utility := fun _ name args =>
  withOptions { letters := "Lft", valued := "cP", wordly := "P", words := [("dereference", 'L'),
      ("file-system", 'f'), ("format", 'c'), ("printf", 'P'), ("terse", 't')] } true 1 name args fun o => do
    if o.operands.isEmpty then missingOperand name none
    else
      let zone ← zone
      let format := match o.last? ['c', 'P'] with
        | some c => (o.value? c).getD ""
        | none => ""
      let escaping := o.last? ['c', 'P'] = some 'P'
      match Inquiry.invalid? (format.length + 1) format.toList with
      | some directive => fail name (Quoting.curly (String.ofList directive) ++ ": invalid directive") 1
      | none =>
        refusedAtEnd name (← Sh.worst o.operands fun path => do
          match ← (if o.has 'L' then Sh.node path else Sh.nodeItself path) with
          | .error r => fail name ("cannot statx " ++ Quoting.always path ++ ": " ++ r.reason) 1
          | .ok found =>
            let q : Inquiry := ⟨path, found.number, found.node, ← nameCountOf found.number, zone⟩
            let told (format : String) : String :=
              String.ofList (q.text escaping (format.length + 1) format.toList)
            if escaping then
              Sh.each (Inquiry.strangeLetters format.toList) fun c =>
                tell name ("warning: unrecognized escape '\\" ++ String.singleton c ++ "'")
            Sh.print (match o.last? ['c', 'P'] with
              | some 'c' => told format ++ "\n"
              | some _ => told format
              | none =>
                if o.has 't' then told "%n %s %b %f %u %g %D %i %h %t %T %X %Y %Z %W %o" ++ "\n"
                else
                  -- a name stands without quotes here
                  let first := path ++ match q.node.content with
                    | .link target => " -> " ++ target
                    | _ => ""
                  "  File: " ++ first ++ told ((Inquiry.usualFormat q.node).drop 10).toString)
            return 0)

end Retrace.Unix.Utility
