import Retrace.Unix.Formula
import Retrace.Unix.Pattern
import Retrace.Unix.Printing
import Retrace.Unix.Quoting

/-!
# Expanding words

A word is expanded to `Piece`s, characters of which it is known how they got
there. Splitting the pieces at separators gives *fields*, and a field with
wildcards gives the names of the files that match it. Where only one text can
stand, as in assignments, the pieces are not split.

What a word contains can be any commands. An `Engine` says how these are run.
-/

namespace Retrace.Unix

/-- How a character got into a word. -/
inductive Origin where
  /-- It was quoted. -/
  | quoted
  /-- It was written as it is. -/
  | plain
  /-- It is part of a value. -/
  | value
deriving DecidableEq

/-- A character and where it is from. -/
structure Glyph where
  char : Char
  origin : Origin

/-- What words are expanded to. -/
inductive Piece where
  | glyph (g : Glyph)
  /-- There is a field here even if it is empty. -/
  | mark
  /-- There need not be a field here, although there is a mark before it. -/
  | unmark
  /-- A field ends here. -/
  | boundary

/-- How commands are run and words expanded. -/
structure Engine where
  exec : Command → Sh Unit
  expand : Word → Sh (List Piece)
  /-- Runs a script in this shell, whose lines are counted from the given one on. Complaints about
      how it is written name the context it is from. -/
  source : (context : String) → (line : Nat) → (script : String) → Sh Unit
  /-- Runs a program whose name and arguments are given, or says why it cannot be run. -/
  invoke : List String → Sh (Except Refusal Nat)
  /-- Runs something in a subshell. What it puts off is run as well if that is awaited. -/
  apart : (awaited : Bool) → Sh Unit → Sh Unit

namespace Engine

/-- Runs some commands one after the other. -/
def execAll (e : Engine) (cs : List Command) : Sh Unit :=
  Sh.each cs e.exec

end Engine

namespace Piece

/-- The characters of a text as pieces. -/
def ofText (origin : Origin) (s : String) : List Piece :=
  s.toList.map fun c => .glyph ⟨c, origin⟩

/-- The text of some pieces. -/
def text (ps : List Piece) : String :=
  String.ofList <| ps.filterMap fun
    | .glyph g => some g.char
    | .boundary => some ' '
    | _ => none

/-- The characters of some pieces as those of a pattern. -/
def marked (ps : List Piece) : List Marked :=
  ps.filterMap fun
    | .glyph g => some (g.char, g.origin = .quoted)
    | .boundary => some (' ', false)
    | _ => none

end Piece

/-! ### Fields -/

/-- The characters that separate fields: the blanks among them, and the others. -/
structure Separators where
  blanks : List Char
  others : List Char

/-- The separators named by a text. -/
def Separators.ofText (s : String) : Separators :=
  let isBlankSeparator (c : Char) : Bool := c = ' ' || c = '\t' || c = '\n'
  ⟨s.toList.filter isBlankSeparator, s.toList.filter fun c => !isBlankSeparator c⟩

/-- The separators if there are no others. -/
def Separators.usual : String := " \t\n"

namespace Field

/-- The field that is being read: its characters, the last one first; whether there is one;
    and whether it follows blanks that ended another one. -/
structure Begun where
  glyphs : List Glyph
  present : Bool
  afterBlanks : Bool

/-- Nothing yet. -/
def Begun.nothing : Begun := ⟨[], false, false⟩

/-- The field that was read, if there is one. -/
def Begun.finish (f : Begun) : List (List Glyph) :=
  if f.present then [f.glyphs.reverse] else []

/-- The fields of some pieces, after the one that is being read. -/
def split (sep : Separators) (f : Begun) : List Piece → List (List Glyph)
  | [] => f.finish
  | .mark :: .unmark :: ps => split sep f ps
  | .mark :: ps => split sep { f with present := true, afterBlanks := false } ps
  | .unmark :: ps => split sep f ps
  | .boundary :: ps => f.finish ++ split sep .nothing ps
  | .glyph g :: ps =>
    if g.origin = .value && sep.blanks.contains g.char then
      if f.present then f.glyphs.reverse :: split sep { Begun.nothing with afterBlanks := true } ps
      else split sep f ps
    else if g.origin = .value && sep.others.contains g.char then
      if f.present then f.glyphs.reverse :: split sep .nothing ps
      else if f.afterBlanks then split sep .nothing ps
      else [] :: split sep .nothing ps
    else split sep ⟨g :: f.glyphs, true, false⟩ ps

/-- The text of a field. -/
def text (f : List Glyph) : String :=
  String.ofList (f.map (·.char))

end Field

/-! ### Names of files -/

namespace Names

/-- How names are matched. -/
structure Manner where
  extended : Bool
  lists : Bool
  /-- Names that begin with a dot are names like others. -/
  hidden : Bool
  /-- Capitals are letters like others. -/
  folded : Bool
  /-- Two stars stand for any directories. -/
  deep : Bool

/-- How a shell matches names. -/
def Manner.of (s : State) : Manner :=
  let has (name : String) : Bool := s.choices.contains name
  ⟨s.dialect.extended, has "extglob", has "dotglob", has "nocaseglob", has "globstar"⟩

/-- The pattern that some characters mean. -/
def Manner.pattern (m : Manner) (cs : List Marked) : Pattern :=
  let p := if m.extended then Pattern.ofOctets m.lists cs else .ofMarked false cs
  if m.folded then p.map Wild.folded else p

/-- Whether a name is matched. -/
def Manner.admits (m : Manner) (p : Pattern) (name : String) : Bool :=
  let cs := if m.extended then Multibyte.characters name.toList else name.toList
  p.admitsAll (if m.folded then cs.map Multibyte.lower else cs)

/-- The names in a directory that a pattern matches. A dot at the beginning of one has to be
    written in the pattern. -/
def matching (m : Manner) (p : Pattern) (names : List String) : List String :=
  let hidden := match p with
    | .char '.' :: _ => true
    | _ => false
  let names := if hidden && !m.extended then [".", ".."] ++ names else names
  names.filter fun n => (hidden || m.hidden || !n.startsWith ".") && m.admits p n

/-- The parts of a path between its slashes. -/
def parts (cs : List Marked) : List (List Marked) :=
  cs.foldr (fun c ps =>
    if c.1 = '/' then [] :: ps
    else match ps with
      | p :: ps => (c :: p) :: ps
      | [] => [[c]]) [[]]

/-- The names in the directory that paths with this beginning are in. -/
def namesIn (s : State) (base : String) : List String :=
  match s.files.find s.directory (if base = "" then "." else base) true with
  | .ok found => s.files.names found.number
  | .error _ => []

/-- The paths of the directories below one, each with a slash at its end. -/
def directoriesBelow (s : State) (m : Manner) : (depth : Nat) → (base : String) → List String
  | 0, _ => []
  | n + 1, base =>
    (namesIn s base).flatMap fun name =>
      match s.files.find s.directory (base ++ name) false with
      | .ok found =>
        if found.node.isDirectory && (m.hidden || !name.startsWith ".") then
          (base ++ name ++ "/") :: directoriesBelow s m n (base ++ name ++ "/")
        else []
      | .error _ => []

/-- How deep directories are looked for. -/
def deepest : Nat := 100

/-- The paths that begin with `base` and go on as some parts say. -/
def below (s : State) (m : Manner) (base : String) : List (List Marked) → List String
  | [] => [base]
  | [p] =>
    if m.deep && p.map (·.1) = ['*', '*'] then
      let inner := base :: directoriesBelow s m deepest base
      (if base = "" then [] else [base]) ++
        inner.flatMap fun b => ((namesIn s b).filter fun n => m.hidden || !n.startsWith ".").map (b ++ ·)
    else if Pattern.hasWildcard m.lists p then
      (matching m (m.pattern p) (namesIn s base)).map (base ++ ·)
    else
      let path := base ++ literal p
      match s.files.find s.directory (if path = "" then "." else path) false with
      | .ok _ => [path]
      | .error _ => []
  | p :: ps =>
    if m.deep && p.map (·.1) = ['*', '*'] then
      (base :: directoriesBelow s m deepest base).flatMap fun b => below s m b ps
    else if Pattern.hasWildcard m.lists p then
      (matching m (m.pattern p) (namesIn s base)).flatMap fun n =>
        match s.files.find s.directory (base ++ n) true with
        | .ok found => if found.node.isDirectory then below s m (base ++ n ++ "/") ps else []
        | .error _ => []
    else below s m (base ++ literal p ++ "/") ps
where
  /-- The text of a part without wildcards, in which a backslash protects a character. -/
  literal (p : List Marked) : String :=
    String.ofList ((Wild.read false p.length p).filterMap fun
      | .char c => some c
      | _ => none)

/-- The names of the files a field matches, or else the field itself. -/
def ofField (f : List Glyph) : Sh (List String) := do
  let s ← Sh.ask id
  let m := Manner.of s
  let cs : List Marked := f.map fun g => (g.char, g.origin = .quoted)
  if s.choices.contains "noglob" || !Pattern.hasWildcard m.lists cs then return [Field.text f]
  else
    let found := (below s m "" (parts cs)).mergeSort (· ≤ ·)
    let found := if m.deep then found.eraseDups else found
    match found with
    | [] =>
      if s.choices.contains "failglob" then Sh.mistake ("no match: " ++ Field.text f)
      else return if s.choices.contains "nullglob" then [] else [Field.text f]
    | names => return names

end Names

/-! ### Braces -/

namespace Braces

/-- A character that was written as it is, or another part of a word. -/
inductive Item where
  | char (c : Char)
  | part (p : Part)

/-- The items of a word. -/
def items (w : Word) : List Item :=
  w.flatMap fun
    | .text s false => s.toList.map .char
    | p => [.part p]

/-- The word with some items. -/
def word (is : List Item) : Word :=
  Read.join (is.map fun
    | .char c => .text (String.singleton c) false
    | .part p => p)

/-- The items up to the brace that closes, split at the commas, and what is left. -/
def alternatives : (depth : Nat) → List Item → Option (List (List Item) × List Item)
  | _, [] => none
  | depth, .char c :: is =>
    if c = closeBrace && depth = 0 then some ([[]], is)
    else if c = ',' && depth = 0 then
      (alternatives 0 is).map fun (as, rest) => ([] :: as, rest)
    else
      let depth := if c = openBrace then depth + 1 else if c = closeBrace then depth - 1 else depth
      (alternatives depth is).map fun (as, rest) => (begin (.char c) as, rest)
  | depth, i :: is => (alternatives depth is).map fun (as, rest) => (begin i as, rest)
where
  /-- Puts an item before the first of some alternatives. -/
  begin (i : Item) : List (List Item) → List (List Item)
    | a :: as => (i :: a) :: as
    | [] => [[i]]

/-- The numbers from one to another. -/
def between (a b step : Int) : List Int :=
  let step := if step = 0 then 1 else step.natAbs
  let count := (b - a).natAbs / step + 1
  (List.range count).map fun k => if a ≤ b then a + (k * step : Nat) else a - (k * step : Nat)

/-- A number with zeros before it. -/
def padded (width : Nat) (n : Int) : String :=
  let digits := toString n.natAbs
  let sign := if n < 0 then "-" else ""
  sign ++ String.ofList (List.replicate (width - digits.length - sign.length) '0') ++ digits

/-- The texts a sequence stands for. -/
def sequence? (s : String) : Option (List String) :=
  let zeros (t : String) : Bool :=
    let digits := t.toList.dropWhile (· = '-')
    digits.length > 1 && digits.head? = some '0'
  let go (a b : String) (step : Int) : Option (List String) :=
    match a.toInt?, b.toInt? with
    | some m, some n =>
      let width := if zeros a || zeros b then max a.length b.length else 0
      some ((between m n step).map (padded width))
    | _, _ =>
      match a.toList, b.toList with
      | [c], [d] =>
        if c.isAlpha && d.isAlpha then
          some ((between c.toNat d.toNat step).map fun n => String.singleton (Char.ofNat n.toNat))
        else none
      | _, _ => none
  match s.splitOn ".." with
  | [a, b] => go a b 1
  | [a, b, step] => step.toInt?.bind (go a b)
  | _ => none

/-- The texts that braces around one alternative stand for. -/
def sequenceOf? (is : List Item) : Option (List String) :=
  let cs := is.filterMap fun
    | .char c => some c
    | .part _ => none
  if cs.length = is.length then sequence? (String.ofList cs) else none

/-- The items that braces stand for. -/
def expand : (fuel : Nat) → List Item → List (List Item)
  | 0, is => [is]
  | _ + 1, [] => [[]]
  | n + 1, i :: is =>
    let plain := (expand n is).map (i :: ·)
    match i with
    | .char c =>
      if c = openBrace then
        match alternatives 0 is with
        | some ([a], rest) =>
          match sequenceOf? a with
          | some texts =>
            texts.flatMap fun t => (expand n rest).map (t.toList.map .char ++ ·)
          | none => plain
        | some (as, rest) =>
          let after := expand n rest
          as.flatMap fun a => (expand n a).flatMap fun b => after.map (b ++ ·)
        | none => plain
      else plain
    | .part _ => plain

/-- The words that a word with braces stands for. -/
def words (w : Word) : List Word :=
  let is := items w
  let braced := is.any fun
    | .char c => c = openBrace
    | .part _ => false
  if braced then (expand (is.length + 1) is).map word else [w]

end Braces

/-! ### Values of parameters -/

namespace Expand

/-- The letters of the choices that have one, with their names, in order. -/
def letters (extended : Bool) : List (Char × String) :=
  if extended then
    [('a', "allexport"), ('b', "notify"), ('e', "errexit"), ('f', "noglob"), ('h', "hashall"),
      ('k', "keyword"), ('m', "monitor"), ('n', "noexec"), ('p', "privileged"), ('t', "onecmd"),
      ('u', "nounset"), ('v', "verbose"), ('x', "xtrace"), ('B', "braceexpand"), ('C', "noclobber"),
      ('E', "errtrace"), ('H', "histexpand"), ('P', "physical"), ('T', "functrace")]
  else
    [('e', "errexit"), ('f', "noglob"), ('I', "ignoreeof"), ('m', "monitor"), ('n', "noexec"),
      ('s', "stdin"), ('x', "xtrace"), ('v', "verbose"), ('V', "vi"), ('E', "emacs"), ('C', "noclobber"),
      ('a', "allexport"), ('b', "notify"), ('u', "nounset")]

/-- The letters of the choices that were made. -/
def choiceLetters (s : State) : String :=
  let chosen := ((letters s.dialect.extended).filter fun l => s.choices.contains l.2).map (·.1)
  if s.dialect.extended then
    String.ofList chosen ++ (if s.choices.contains "stdin" then "s" else if s.choices.contains "script" then ""
      else "c")
  else String.ofList chosen.reverse

/-- The value of a parameter that is no variable. -/
def special? (s : State) (name : String) : Option (Option String) :=
  match name with
  | "?" => some (some (toString s.status))
  | "#" => some (some (toString s.positional.length))
  | "$" => some (some (toString s.shell))
  | "!" => some (s.lastJob.map toString)
  | "-" => some (some (choiceLetters s))
  | "0" => some (some s.dialect.name)
  | _ =>
    match name.toNat? with
    | some 0 => some (some s.dialect.name)
    | some n => some (s.positional[n - 1]?)
    | none => none

/-- Some values as the items of a list. -/
def listOf (values : List String) : Variable :=
  { Variable.unset with
    items := values.zipIdx.map fun (v, i) => (toString i, v)
    isList := true
    isGiven := !values.isEmpty }

/-- The choices that are made by a command of their own, in order. -/
def shellChoices : List String :=
  ["autocd", "assoc_expand_once", "cdable_vars", "cdspell", "checkhash", "checkjobs", "checkwinsize",
    "cmdhist", "compat31", "compat32", "compat40", "compat41", "compat42", "compat43", "compat44",
    "complete_fullquote", "direxpand", "dirspell", "dotglob", "execfail", "expand_aliases", "extdebug",
    "extglob", "extquote", "failglob", "force_fignore", "globasciiranges", "globskipdots", "globstar",
    "gnu_errfmt", "histappend", "histreedit", "histverify", "hostcomplete", "huponexit",
    "inherit_errexit", "interactive_comments", "lastpipe", "lithist", "localvar_inherit",
    "localvar_unset", "login_shell", "mailwarn", "no_empty_cmd_completion", "nocaseglob",
    "nocasematch", "noexpand_translation", "nullglob", "patsub_replacement", "progcomp",
    "progcomp_alias", "promptvars", "restricted_shell", "shift_verbose", "sourcepath",
    "varredir_close", "xpg_echo"]

/-- A parameter that the shell itself keeps. -/
def kept? (s : State) (name : String) : Option Variable :=
  if !s.dialect.extended then none
  else match name with
    | "PIPESTATUS" => some (listOf (s.stageStatuses.map toString))
    | "FUNCNAME" =>
      if s.frames.isEmpty then none
      else some (listOf (s.frames.map (·.name) ++ if s.choices.contains "script" then ["main"] else []))
    | "BASH_LINENO" =>
      some (listOf (s.frames.map (fun f => toString f.line) ++ if s.choices.contains "script" then ["0"] else []))
    | "BASH_SOURCE" =>
      let own := s.scripts.headD (if s.choices.contains "script" then s.dialect.name else "environment")
      if s.frames.isEmpty && !s.choices.contains "script" && s.scripts.isEmpty then some (listOf [])
      else some (listOf (List.replicate (max 1 s.frames.length) own ++
        if s.choices.contains "script" && !s.frames.isEmpty then [s.dialect.name] else []))
    | "DIRSTACK" => some (listOf (s.here :: s.stack))
    | "GROUPS" => some (listOf ["0"])
    | "SHELLOPTS" =>
      some (.single (":".intercalate ((s.choices.filter fun c =>
        (["braceexpand", "hashall", "interactive-comments", "allexport", "errexit", "errtrace", "functrace",
          "noclobber", "noglob", "nounset", "pipefail", "posix", "verbose", "xtrace", "monitor",
          "keyword", "noexec", "physical", "notify"].contains c)).mergeSort (· ≤ ·))))
    | "BASHOPTS" =>
      some (.single (":".intercalate ((shellChoices.filter fun c => s.choices.contains c))))
    | "BASH_COMMAND" => s.current.map fun c => .single (Printing.heading s.documents c)
    | "_" => some (.single s.lastArgument)
    | _ => none

/-- The text of a word. -/
def text (e : Engine) (w : Word) : Sh String := do
  return Piece.text (← e.expand w)

/-- The value of the formula a word stands for. -/
def number (e : Engine) (w : Word) : Sh Int64 := do
  Formula.value (← text e w)

/-- The key that a text stands for. -/
def keyOfText (name text : String) : Sh String := do
  let v ← Sh.parameter? name
  if v.any (·.isKeyed) then return text
  else
    let n := (← Formula.value text).toInt
    if n < 0 then
      let last := (v.bind fun v => v.items.getLast?).bind fun i => i.1.toInt?
      let k := (last.getD (-1)) + 1 + n
      return toString k
    else return toString n

/-- The key that a word stands for. -/
def key (e : Engine) (name : String) (w : Word) : Sh String := do
  keyOfText name (← text e w)

/-- The key that a text stands for where something is assigned. -/
def keyToAssign (name text : String) : Sh String := do
  let k ← keyOfText name text
  if k.startsWith "-" && !((← Sh.parameter? name).any (·.isKeyed)) then
    Sh.mistake (name ++ "[" ++ text ++ "]: bad array subscript")
  else return k

/-- The items of a parameter, or its only value; `none` if it is not set. -/
def items? (name : String) : Sh (Option (List (String × String))) := do
  match ← Formula.dynamic? name with
  | some t => return some [("0", t)]
  | none =>
    let s ← Sh.ask id
    match kept? s name with
    | some v => return some v.items
    | none => return (← Sh.parameter? name).map (·.items)

/-- The values of a parameter; `none` if it is not set. -/
def values (e : Engine) (name : String) (sel : Selector) : Sh (Option (List String)) := do
  let s ← Sh.ask id
  if name = "@" || name = "*" then
    return if s.positional.isEmpty then none else some s.positional
  match special? s name with
  | some v => return v.map fun v => [v]
  | none =>
    let other ← Sh.resolved name
    -- a reference may be to an item
    let (name, key) : String × Option String := match other.splitOn "[" with
      | [base, rest] => (base, some (rest.takeWhile (· != ']')).toString)
      | _ => (name, none)
    let items ← items? name
    let item (k : String) : Option (List String) := (items.bind fun is => is.lookup k).map fun t => [t]
    match sel with
    | .whole =>
      match key with
      | some k => return item (← keyOfText name k)
      | none => return item "0"
    | .item k =>
      let k ← Expand.key e name k
      if k.startsWith "-" && !((← Sh.parameter? name).any (·.isKeyed)) then
        Sh.complain (name ++ ": bad array subscript")
        return none
      return item k
    | _ =>
      return match items with
        | some is => if is.isEmpty then none else some (is.map (·.2))
        | none => none

/-- Whether several values can be meant. -/
def isSeveral : Selector → Bool
  | .each => true
  | .joined => true
  | _ => false

/-- What the values are separated by when they are joined. -/
def joint : Sh String := do
  match ← Sh.value? "IFS" with
  | some s =>
    if ← Sh.isExtended then
      return String.ofList (Multibyte.ofCharacters ((Multibyte.characters s.toList).take 1))
    else return String.ofList (s.toList.take 1)
  | none => return " "

/-- Some values as pieces. -/
def pieces (sel : Selector) (quoted : Bool) (vs : List String) : Sh (List Piece) := do
  if quoted then
    match sel with
    | .each =>
      if vs.isEmpty then return [.unmark]
      else return ((vs.map fun v => Piece.mark :: Piece.ofText .quoted v).intersperse [.boundary]).flatten
    | _ => return .mark :: Piece.ofText .quoted ((← joint).intercalate vs)
  else return ((vs.map (Piece.ofText .value)).intersperse [.boundary]).flatten

/-- A complaint about a parameter that has no value, for which the script is given up. -/
def unsetFault {α : Type} (name : String) : Sh α := do
  if ← Sh.isExtended then
    let dollar := if (name.toList.all Char.isDigit) || name = "!" then "$" else ""
    Sh.fatal (dollar ++ name ++ ": unbound variable")
  else Sh.fatal (name ++ ": parameter not set")

/-- The values of a parameter, which has to have one if that was chosen. -/
def required (e : Engine) (name : String) (sel : Selector) : Sh (List String) := do
  match ← values e name sel with
  | some vs => return vs
  | none =>
    if (← Sh.chosen "nounset") && !isSeveral sel then
      match sel with
      | .item k => unsetFault (name ++ "[" ++ (← text e k) ++ "]")
      | _ => unsetFault name
    else return []

/-- The pieces of a word that stands for a value. -/
def substitute (e : Engine) (quoted : Bool) (w : Word) : Sh (List Piece) := do
  let ps ← e.expand w
  return ps.map fun
    | .glyph ⟨c, .plain⟩ => .glyph ⟨c, if quoted then .quoted else .value⟩
    | p => p

/-! ### Matching values -/

/-- The characters of a text, as the dialect sees them. -/
def charactersOf (s : String) : Sh (List Char) := do
  return if ← Sh.isExtended then Multibyte.characters s.toList else s.toList

/-- The text of some characters. -/
def ofCharacters (cs : List Char) : Sh String := do
  return String.ofList (if ← Sh.isExtended then Multibyte.ofCharacters cs else cs)

/-- Does something with the characters of a text. -/
def throughCharacters (f : List Char → List Char) (s : String) : Sh String := do
  ofCharacters (f (← charactersOf s))

/-- The pattern that some pieces stand for. -/
def patternOf (ps : List Piece) : Sh Pattern := do
  if ← Sh.isExtended then return .ofOctets (← Sh.chosen "extglob") (Piece.marked ps)
  else return .ofMarked false (Piece.marked ps)

/-- Whether a pattern matches a text. -/
def admits (p : Pattern) (s : String) : Sh Bool := do
  return p.admitsAll (← charactersOf s)

/-- What is left of some characters without a match of a pattern. -/
def trimmed (atEnd longest : Bool) (p : Pattern) (cs : List Char) : List Char :=
  if atEnd then
    let starts := (List.range (cs.length + 1)).filter fun n => p.admitsAll (cs.drop n)
    match if longest then starts.head? else starts.getLast? with
    | some n => cs.take n
    | none => cs
  else
    match if longest then (p.lengths cs).getLast? else (p.lengths cs).head? with
    | some n => cs.drop n
    | none => cs

/-- The characters with the matches of a pattern replaced, all of them or the first one. -/
def replacedAfter (p : Pattern) (all : Bool) (by' : List Char → List Char) : (fuel : Nat) →
    List Char → List Char
  | 0, cs => cs
  | _ + 1, [] => []
  | n + 1, c :: cs =>
    match (p.lengths (c :: cs)).getLast? with
    | some (k + 1) =>
      let rest := cs.drop k
      by' (c :: cs.take k) ++ (if all then replacedAfter p all by' n rest else rest)
    | _ => c :: replacedAfter p all by' n cs

/-- Some characters with matches of a pattern replaced. -/
def replaced (which : Occurrence) (p : Pattern) (by' : List Char → List Char) (cs : List Char) : List Char :=
  match which with
  | .first => replacedAfter p false by' (cs.length + 1) cs
  | .all => replacedAfter p true by' (cs.length + 1) cs
  | .atStart =>
    match (p.lengths cs).getLast? with
    | some n => by' (cs.take n) ++ cs.drop n
    | none => cs
  | .atEnd =>
    match (List.range (cs.length + 1)).find? fun n => p.admitsAll (cs.drop n) with
    | some n => cs.take n ++ by' (cs.drop n)
    | none => cs

/-- What replaces a match: an ampersand that is not quoted stands for the match. -/
def replacement : List Marked → List Char → List Char
  | [], _ => []
  | ('\\', false) :: ('&', false) :: ms, found => '&' :: replacement ms found
  | ('\\', false) :: ('\\', false) :: ms, found => '\\' :: replacement ms found
  | ('&', false) :: ms, found => found ++ replacement ms found
  | (c, _) :: ms, found => c :: replacement ms found

/-- A letter that is changed. -/
def changed : Recasing → Char → Char
  | .upper, c => Multibyte.upper c
  | .lower, c => Multibyte.lower c
  | .toggle, c => if Multibyte.upper c != c then Multibyte.upper c else Multibyte.lower c

/-- Some characters with their letters changed, or only the first one. -/
def recased (how : Recasing) (all : Bool) (p : Pattern) (cs : List Char) : List Char :=
  let change (c : Char) : Char := if p.isEmpty || p.admitsAll [c] then changed how c else c
  match cs with
  | c :: cs => change c :: if all then cs.map change else cs
  | [] => []

/-- The part of a list from a position on. A negative count is one from the end. -/
def sliced {α : Type} (start : Int) (count : Option Int) (xs : List α) : Option (List α) :=
  let n : Int := xs.length
  let first := if start < 0 then n + start else start
  if first < 0 || n < first then some []
  else
    match count with
    | none => some (xs.drop first.toNat)
    | some c =>
      let last := if c < 0 then n + c else min n (first + c)
      if last < first then none else some ((xs.take last.toNat).drop first.toNat)

/-- The complaint that something means nothing. -/
def badSubstitution {α : Type} (source : String) : Sh α := do
  if ← Sh.isExtended then Sh.mistake (source ++ ": bad substitution")
  else Sh.mistake "Bad substitution"

/-- A parameter that is used with a word for want of a value. -/
def withFallback (e : Engine) (name : String) (sel : Selector) (quoted : Bool) (kind : Fallback)
    (orEmpty : Bool) (w : Word) : Sh (List Piece) := do
  let vs ← values e name sel
  let present := match vs with
    | some vs => !(orEmpty && (if isSeveral sel then " ".intercalate vs = "" else vs.all (· = "")))
    | none => false
  let own : Sh (List Piece) := pieces sel quoted (vs.getD [])
  match kind with
  | .instead => if present then own else substitute e quoted w
  | .ifSet => if present then substitute e quoted w else pieces sel quoted []
  | .assign =>
    if present then own
    else if !isName name then
      if ← Sh.isExtended then Sh.mistake ("$" ++ name ++ ": cannot assign in this way")
      else badSubstitution ""
    else
      let v ← text e w
      match sel with
      | .item k => Sh.assignItem name (← key e name k) v true
      | _ => Sh.assign name v
      pieces sel quoted [v]
  | .complain =>
    if present then own
    else
      let message ← text e w
      let extended ← Sh.isExtended
      let message := if message != "" then message
        else if orEmpty then
          if extended then "parameter null or not set" else "parameter not set or null"
        else "parameter not set"
      Sh.fatal (name ++ ": " ++ message)

/-- A part of a list of values, or of the value there is. -/
def slice (e : Engine) (name : String) (sel : Selector) (vs : List String) (start : Word)
    (count : Option Word) : Sh (List String) := do
  let a := (← number e start).toInt
  let n ← match count with
    | some w => do pure (some (← number e w).toInt)
    | none => pure none
  let tooShort {α : Type} : Sh α := do
    Sh.mistake ((← match count with | some w => text e w | none => pure "") ++ ": substring expression < 0")
  if isSeveral sel then
    if n.any (· < 0) then tooShort
    else if name = "@" || name = "*" then
      let first ← Sh.ask (·.dialect.name)
      -- the name of the shell counts, but only if it is asked for
      return (sliced a n (first :: vs)).getD []
    else
      let v ← Sh.parameter? name
      let items := (← items? name).getD []
      if v.any (·.isKeyed) then return (sliced a n (items.map (·.2))).getD []
      else
        let last := ((items.getLast?).bind fun i => i.1.toInt?).getD (-1)
        let first := if a < 0 then last + 1 + a else a
        if first < 0 then return []
        let from' := items.filter fun i => first ≤ (i.1.toInt?).getD 0
        let values := from'.map (·.2)
        return match n with
          | some k => values.take k.toNat
          | none => values
  else
    Sh.collect vs fun v => do
      match sliced a n (← charactersOf v) with
      | some cs => ofCharacters cs
      | none => tooShort

/-- The letters that say what is known of a parameter. -/
def attributes (v : Variable) : String :=
  (if v.isKeyed then "A" else if v.isList then "a" else "") ++ (if v.numeric then "i" else "") ++
    (if v.isReference then "n" else "") ++ (if v.constant then "r" else "") ++
    (if v.exported then "x" else "") ++
    (match v.recasing with
      | some .lower => "l"
      | some .upper => "u"
      | some .toggle => "c"
      | none => "")

/-- A key as it is shown. -/
def shownKey (keyed : Bool) (k : String) : String :=
  if !keyed then k
  else if k.toList.any (fun c => Quoting.isControl c && c.toNat < 0x80) then Quoting.word k
  else if k = "" || k = "@" || k = "*" || k.toList.any (fun c => " \"'$\x60\\!]&;()<>|*?[#~\t\n".toList.contains c) then
    Quoting.doubled k
  else k

/-- The list that a parameter holds, as it could be given to it. -/
def shownList (v : Variable) : String :=
  "(" ++ " ".intercalate (v.items.map fun i => "[" ++ shownKey v.isKeyed i.1 ++ "]=" ++ Quoting.valued i.2) ++
    (if v.isKeyed && !v.items.isEmpty then " )" else ")")

/-- The text that the signs in a prompt stand for. -/
def promptSigns (s : State) : (length : Nat) → List Char → List Char
  | 0, _ => []
  | _ + 1, [] => []
  | n + 1, '\\' :: c :: cs =>
    let go (text : String) : List Char := text.toList ++ promptSigns s n cs
    let here := s.here
    match c with
    | 'n' => go "\n"
    | 'r' => go "\r"
    | 'a' => go "\x07"
    | 'e' => go "\x1b"
    | '\\' => go "\\\\"
    | '$' => go "#"
    | '#' => go "1"
    | '!' => go "1"
    | 'u' => go "root"
    | 's' => go s.dialect.name
    | 'v' => go "5.2"
    | 'V' => go "5.2.21"
    | 'w' => go here
    | 'W' => go (s.directory.getLast?.getD "/")
    | '[' => go ""
    | ']' => go ""
    | c =>
      if (digitValue? 8 c).isSome then
        let ds := ((c :: cs).take 3).takeWhile fun d => (digitValue? 8 d).isSome
        Char.ofNat (numberOf 8 ds % 256) :: promptSigns s n ((c :: cs).drop ds.length)
      else '\\' :: c :: promptSigns s n cs
  | n + 1, c :: cs => c :: promptSigns s n cs

/-- A text as it is shown as a prompt. -/
def prompt (e : Engine) (s : String) : Sh String := do
  let st ← Sh.ask id
  let shown := if st.dialect.extended then String.ofList (promptSigns st (s.length + 1) s.toList) else s
  match Source.wordOf? st.dialect.extended shown st.nextDocument with
  | some w => text e w
  | none => return shown

/-- The values of a parameter, shown as a letter says. -/
def shownValues (e : Engine) (name : String) (sel : Selector) (letter : Char) : Sh (List String) := do
  let v ← Sh.parameter? name
  let vs := (← values e name sel).getD []
  let letters := ((v.map attributes).getD "")
  let declared (value : String) : String :=
    if letters = "" then name ++ "=" ++ value else "declare -" ++ letters ++ " " ++ name ++ "=" ++ value
  let changing (how : Recasing) (all : Bool) : Sh (List String) :=
    Sh.collect vs (throughCharacters (recased how all []))
  match letter with
  | 'Q' => return vs.map Quoting.reusable
  | 'U' => changing .upper true
  | 'u' => changing .upper false
  | 'L' => changing .lower true
  | 'E' => return vs.map fun t => String.ofList ((Read.ansi (2 * t.length + 2) t.toList).1)
  | 'P' => Sh.collect vs (prompt e)
  | 'a' =>
    return match v with
      | some _ => if isSeveral sel then vs.map fun _ => letters else [letters]
      | none => []
  | 'A' =>
    match v with
    | some v =>
      if isSeveral sel && v.isList then
        return ["declare -" ++ letters ++ " " ++ name ++ "=" ++ shownList v]
      else return vs.map fun t => declared (Quoting.reusable t)
    | none =>
      if name = "@" || name = "*" then
        return ["set -- " ++ " ".intercalate (vs.map Quoting.reusable)]
      else return []
  | letter =>
    match v with
    | some v =>
      if isSeveral sel && v.isList then
        if letter = 'k' then return v.items.flatMap fun i => [i.1, i.2]
        else return [" ".intercalate (v.items.map fun i => i.1 ++ " " ++ Quoting.doubled i.2)]
      else return vs.map Quoting.reusable
    | none => return vs.map Quoting.reusable

/-- What a text names: a parameter, and which of its values. -/
def namedBy (s : String) : String × Selector :=
  match s.splitOn "[" with
  | [base, rest] =>
    let k := (rest.takeWhile (· != ']')).toString
    (base, if k = "@" then .each else if k = "*" then .joined else .item [.text k true])
  | _ => (s, if s = "@" then .each else if s = "*" then .joined else .whole)

/-- The pieces of a parameter. -/
def parameter (e : Engine) (name : String) (sel : Selector) (use : Use) (quoted : Bool) :
    Sh (List Piece) := do
  match use with
  | .value => pieces sel quoted (← required e name sel)
  | .size =>
    let vs ← if name = "@" || name = "*" then Sh.ask (·.positional) else required e name sel
    let n ← if isSeveral sel then pure vs.length else do
      pure (((← Sh.collect vs charactersOf).map List.length).foldl (· + ·) 0)
    pieces .whole quoted [toString n]
  | .keys => pieces sel quoted (((← items? name).getD []).map (·.1))
  | .names =>
    let known ← Sh.ask (·.parameters)
    let found := (known.filter fun p => p.1.startsWith name && !p.2.items.isEmpty).map (·.1)
    pieces sel quoted (found.mergeSort (· ≤ ·))
  | .named use =>
    let itself ← Sh.parameterItself? name
    if itself.any (·.isReference) then
      match use with
      | .value => pieces sel quoted [← Sh.resolved name]
      | use =>
        let (base, sel) := namedBy (((← items? name).bind fun is => is.lookup "0").getD name)
        parameter e base sel use quoted
    else match ← values e name sel with
      | some (target :: _) =>
        let (base, chosen) := namedBy target
        if isName base || base.toNat?.isSome || ["@", "*", "#", "?", "!", "-", "$"].contains base then
          parameter e base chosen use quoted
        else Sh.mistake (target ++ ": invalid variable name")
      | _ =>
        match use with
        | .fallback _ _ _ => parameter e name sel use quoted
        | _ => Sh.mistake (name ++ ": invalid indirect expansion")
  | .fallback kind orEmpty w => withFallback e name sel quoted kind orEmpty w
  | .trim atEnd longest p =>
    let vs ← required e name sel
    let p ← patternOf (← e.expand p)
    pieces sel quoted (← Sh.collect vs (throughCharacters (trimmed atEnd longest p)))
  | .slice start count =>
    let vs ← if isSeveral sel then do pure ((← values e name sel).getD []) else required e name sel
    pieces sel quoted (← slice e name sel vs start count)
  | .replace which p w =>
    let vs ← required e name sel
    let p ← patternOf (← e.expand p)
    let ms := Piece.marked (← e.expand w)
    let ms ← if ← Sh.chosen "patsub_replacement" then pure (Pattern.ofOctets.decoded ms.length ms)
      else pure ((Pattern.ofOctets.decoded ms.length ms).map fun m => (m.1, true))
    pieces sel quoted (← Sh.collect vs (throughCharacters (replaced which p (replacement ms))))
  | .recase how all p =>
    let vs ← required e name sel
    let p ← patternOf (← e.expand p)
    pieces sel quoted (← Sh.collect vs (throughCharacters (recased how all p)))
  | .shown letter =>
    let _ ← required e name sel
    pieces sel quoted (← shownValues e name sel letter)
  | .invalid source => badSubstitution source

/-! ### Words -/

/-- What is printed by something that is run in a subshell, without the ends of lines at the end. -/
def captured (e : Engine) (body : Sh Unit) : Sh String := do
  let n ← Sh.addChannel (.sink [] none)
  e.apart true do
    Sh.lead 1 (some n)
    Sh.change fun s => { s with level := s.level + 1 }
    if (← Sh.isExtended) && !(← Sh.chosen "inherit_errexit") && !(← Sh.chosen "posix") then
      Sh.change fun s => { s with choices := s.choices.filter (· != "errexit") }
    body
  let printed ← Sh.ask fun s => ((s.channels[n]?).map (Sh.collected s.ended)).getD ""
  let printed := printed.toList
  Sh.setChannel n .null
  Sh.change fun s => { s with outputStatus := some s.status }
  if printed.contains '\x00' then
    if ← Sh.isExtended then
      Sh.complain "warning: command substitution: ignored null byte in input"
  let cs := printed.filter (· != '\x00')
  return String.ofList (cs.reverse.dropWhile (· = '\n')).reverse

/-- The highest number of a stream that is there for one command only. -/
def highestBorrowed : Nat := 63

/-- Lets a new stream lead to a channel: its path. -/
def borrow (channel : Nat) : Sh String := do
  let s ← Sh.ask id
  let free := ((List.range (highestBorrowed + 1)).reverse.find? fun n =>
    (s.streams.lookup n).isNone).getD highestBorrowed
  Sh.lead free (some channel)
  Sh.change fun s => { s with borrowed := free :: s.borrowed }
  return "/dev/fd/" ++ toString free

/-- The file whose content stands for the output of commands that only redirect their input. -/
def onlyInput? : List Command → Option Spelled
  | [.simple _ [] [] [.mk _ .usual .input target]] => some target
  | _ => none

/-- The pieces of a part of a word. -/
def part (e : Engine) : Part → Sh (List Piece)
  | .text s true => return if s = "" then [.mark] else Piece.ofText .quoted s
  | .text s false => return Piece.ofText .plain s
  | .parameter name sel use quoted => parameter e name sel use quoted
  | .output body quoted => do
    let extended ← Sh.isExtended
    let s ← captured e do
      match if extended then onlyInput? body else none with
      | some target =>
        let path ← text e target.meaning
        match ← Sh.contents path with
        | .ok t =>
          Sh.print t
          Sh.setStatus 0
        | .error r =>
          Sh.complain (path ++ ": " ++ r.reason)
          Sh.setStatus 1
      | none => e.execAll body
    return Piece.ofText (if quoted then .quoted else .value) s
  | .formula w quoted => do
    let n ← number e w
    return Piece.ofText (if quoted then .quoted else .value) (toString n.toInt)
  | .process true body => do
    let n ← Sh.addChannel (.sink [] none)
    let before ← Sh.ask (·.status)
    e.apart true do
      Sh.lead 1 (some n)
      e.execAll body
    Sh.setStatus before
    let printed ← Sh.ask fun s => ((s.channels[n]?).map (Sh.collected s.ended)).getD ""
    Sh.setChannel n (.source printed.toList false)
    return Piece.ofText .quoted (← borrow n)
  | .process false body => do
    let n ← Sh.addChannel (.sink [] none)
    Sh.change fun s => { s with consumers := s.consumers ++ [(n, body)] }
    return Piece.ofText .quoted (← borrow n)

/-- The pieces of a word. -/
def word (e : Engine) (w : Word) : Sh (List Piece) := do
  return (← Sh.collect w (part e)).flatten

/-- A word with the tilde at its beginning replaced by the path of a home. -/
def tilde (w : Word) : Sh Word := do
  match w with
  | .text s false :: ps =>
    let user := s.toList.takeWhile (· != '/')
    let closed := ps.isEmpty || user.length < s.length
    match user with
    | '~' :: name =>
      if !closed then return w
      let extended ← Sh.isExtended
      let path ← match String.ofList name with
        | "" => do pure (some ((← Sh.value? "HOME").getD "/root"))
        | "+" => if extended then Sh.value? "PWD" else pure none
        | "-" => if extended then Sh.value? "OLDPWD" else pure none
        | "root" => pure (some "/root")
        | _ => pure none
      match path with
      | some path =>
        return .text path true :: .text (String.ofList (s.toList.drop user.length)) false :: ps
      | none => return w
    | _ => return w
  | _ => return w

/-- The text of a word where only one can stand. -/
def single (e : Engine) (w : Word) : Sh String := do
  return Piece.text (← e.expand (← tilde w))

/-- A word that is assigned, in which tildes that come first or after colons are replaced. -/
def assignedTildes (w : Word) : Sh Word := do
  match w with
  | .text s false :: ps =>
    match s.splitOn ":" with
    | first :: more =>
      let first ← tilde (.text first false :: if more.isEmpty then ps else [])
      let more := more.zipIdx.map fun (t, i) => (t, i + 1 == more.length)
      let more ← Sh.collect more fun (t, last) => do
        return .text ":" false :: (← tilde (.text t false :: if last then ps else []))
      return first ++ more.flatten
    | [] => return w
  | w => return w

/-- The text of a word that is assigned, in which a colon can come before a tilde. -/
def assigned (e : Engine) (w : Word) : Sh String := do
  text e (← assignedTildes w)

/-- The pattern a word stands for. -/
def pattern (e : Engine) (w : Word) : Sh Pattern := do
  patternOf (← e.expand (← tilde w))

/-- A word with its tildes replaced, also those in what looks like an assignment in the extended
    dialect. -/
def tildes (w : Word) : Sh Word := do
  match if ← Sh.isExtended then Read.assignment? w else none with
  | some (name, added, value) =>
    return .text (name ++ (if added then "+=" else "=")) false :: (← assignedTildes value)
  | none => tilde w

/-- The fields of a word. -/
def fields (e : Engine) (w : Word) : Sh (List String) := do
  let ws := if (← Sh.isExtended) && (← Sh.chosen "braceexpand") then Braces.words w else [w]
  let fieldLists ← Sh.collect ws fun w => do
    let ps ← e.expand (← tildes w)
    let sep := Separators.ofText ((← Sh.value? "IFS").getD Separators.usual)
    return (← Sh.collect (Field.split sep .nothing ps) Names.ofField).flatten
  return fieldLists.flatten

/-! ### Tracing -/

/-- Shows a command that is about to be run, if that was chosen. -/
def trace (e : Engine) (shown : String) : Sh Unit := do
  let s ← Sh.ask id
  if s.choices.contains "xtrace" then
    let mark := (← Sh.value? "PS4").getD (if s.dialect.extended then "" else "+ ")
    Sh.change fun s => { s with choices := s.choices.filter (· != "xtrace") }
    let mark ← if mark = "+ " then pure mark else prompt e mark
    Sh.change fun t => { t with choices := s.choices, status := s.status, outputStatus := s.outputStatus }
    let mark := if !s.dialect.extended then mark
      else String.ofList (List.replicate (s.level - 1) (mark.toList.headD '+')) ++ mark
    let stream := if s.dialect.extended then
        (((s.parameters.lookup "BASH_XTRACEFD").bind fun v => v.items.lookup "0").bind String.toNat?).getD 2
      else 2
    let _ ← Sh.write stream (mark ++ shown ++ "\n")

end Expand

end Retrace.Unix
