import Retrace.Unix.Difference
import Retrace.Unix.Format
import Retrace.Unix.Regular

/-!
# Differences that are shown

How the changes between two lists of lines are written. Changes that are near to
each other are shown together, in a *hunk*, with the lines around them; the
other manners show each change alone. Side by side, each line of one list stands
beside the line of the other one that it corresponds to.

Some changes are *ignored*: hunks of nothing else are not shown.
-/

namespace Retrace.Unix

/-- The manners in which differences are shown. -/
inductive DifferenceStyle where
  /-- The lines of either list after each other. -/
  | plain
  /-- The parts of both lists with their surroundings. -/
  | context
  /-- One text with the lines of both lists. -/
  | unified
  /-- Commands for an editor, the last ones first. -/
  | script
  /-- The same commands, the first ones first. -/
  | forward
  /-- Commands with the numbers of lines. -/
  | counted
  /-- The lists side by side. -/
  | beside
  /-- As formats say. -/
  | formatted
  deriving DecidableEq

/-- The formats for groups of lines and for lines. -/
structure DifferenceFormats where
  oldGroup : String
  newGroup : String
  sameGroup : String
  changedGroup : String
  oldLine : String
  newLine : String
  sameLine : String

/-- How differences are shown. -/
structure DifferenceManner where
  style : DifferenceStyle
  /-- How many lines around changes are shown. -/
  context : Nat
  /-- Tabs are shown as blanks. -/
  expands : Bool
  /-- A tab stands before each line, so that its own tabs are where they were. -/
  indents : Bool
  /-- No blanks are put before empty lines. -/
  trims : Bool
  tab : Nat
  width : Nat
  /-- Side by side, lines that are the same are shown once, or not at all. -/
  leftOnly : Bool
  changedOnly : Bool
  /-- What a line looks like that begins a part of the text. -/
  heading : Option Regular
  formats : DifferenceFormats

/-- Two lists of lines, with their ends, and the changes between them. -/
structure Compared where
  old : Array String
  new : Array String
  changes : List Change
  ignored : Change → Bool

namespace Change

/-- The place after the lines that are deleted. -/
def oldStop (c : Change) : Nat := c.oldStart + c.oldCount

/-- The place after the lines that are put in. -/
def newStop (c : Change) : Nat := c.newStart + c.newCount

/-- The letter for what is done. -/
def letter (c : Change) : String :=
  if c.oldCount = 0 then "a" else if c.newCount = 0 then "d" else "c"

end Change

namespace Compared

/-- Lines of the old list from a place up to another one. -/
def oldLines (d : Compared) (start stop : Nat) : List String := (d.old.extract start stop).toList

/-- Lines of the new list from a place up to another one. -/
def newLines (d : Compared) (start stop : Nat) : List String := (d.new.extract start stop).toList

/-- The lines that a change deletes. -/
def deleted (d : Compared) (c : Change) : List String := d.oldLines c.oldStart c.oldStop

/-- The lines that a change puts in. -/
def inserted (d : Compared) (c : Change) : List String := d.newLines c.newStart c.newStop

/-- The changes that are not ignored. -/
def notable (d : Compared) : List Change := d.changes.filter fun c => !d.ignored c

/-- Changes in hunks: in one of them there are few lines between two changes, and fewer still if one of the
    two is ignored. -/
def grouped (d : Compared) (context : Nat) : List Change → List (List Change)
  | [] => []
  | c :: cs =>
    match d.grouped context cs with
    | (next :: more) :: hunks =>
      let most := if d.ignored c || d.ignored next then context else 2 * context + 1
      if next.oldStart - c.oldStop < most then (c :: next :: more) :: hunks else [c] :: (next :: more) :: hunks
    | _ => [[c]]

/-- The hunks that are shown. -/
def hunks (d : Compared) (context : Nat) : List (List Change) :=
  (d.grouped context d.changes).filter fun h => !(h.all d.ignored)

end Compared

namespace DifferenceManner

/-! ### Lines -/

/-- A line whose tabs are blanks. -/
def expanded (m : DifferenceManner) (l : String) : String :=
  if m.expands && l.toList.contains '\t' then
    String.ofList ((l.toList.foldl (fun (out, column) c =>
      if c = '\t' then
        let blanks := m.tab - column % max 1 m.tab
        (List.replicate blanks ' ' ++ out, column + blanks)
      else (c :: out, column + 1)) (([], 0) : List Char × Nat)).1.reverse)
  else l

/-- What is said after a line that has no end. -/
def withNote (l : String) : String :=
  if l.endsWith "\n" then l else l ++ "\n\\ No newline at end of file\n"

/-- A line after a mark. -/
def marked (m : DifferenceManner) (mark l : String) : String :=
  let before :=
    if m.trims && l = "\n" then (if mark.startsWith " " then "" else mark)
    else mark ++ (if m.indents then "\t" else " ")
  before ++ withNote (m.expanded l)

/-- Lines after a mark. -/
def markedAll (m : DifferenceManner) (mark : String) (ls : List String) : String :=
  String.join (ls.map (m.marked mark))

/-- A line of the unified manner: its mark is a blank if it is in both lists. -/
def unifiedLine (m : DifferenceManner) (mark l : String) : String :=
  let bare := m.trims && l = "\n"
  let before :=
    if mark = " " then (if bare then "" else if m.indents then "\t" else " ")
    else mark ++ (if m.indents && !bare then "\t" else "")
  before ++ withNote (m.expanded l)

/-! ### Places -/

/-- The numbers of the lines from a place on, with the first and the last one if they are several. Of none,
    the number of the line before. -/
def range (separator : String) (start count : Nat) : String :=
  if count ≤ 1 then toString (start + count) else toString (start + 1) ++ separator ++ toString (start + count)

/-- The first line and how many there are. -/
def counted (start count : Nat) : String :=
  if count = 1 then toString (start + 1)
  else toString (if count = 0 then start else start + 1) ++ "," ++ toString count

/-- The last line before a place that begins a part of the text, as it is shown. -/
def headingAt (m : DifferenceManner) (d : Compared) (place : Nat) : String :=
  match m.heading with
  | none => ""
  | some r =>
    let isHeading (l : String) : Bool :=
      (Regular.find? .usual r (Multibyte.characters (l.toList.filter (· != '\n'))) 0).isSome
    match (d.oldLines 0 place).reverse.find? isHeading with
    | none => ""
    | some l =>
      let cs := ((l.toList.dropWhile Char.isWhitespace).takeWhile (· != '\n')).take 40
      " " ++ String.ofList (cs.reverse.dropWhile Char.isWhitespace).reverse

/-- The part of both lists that a hunk shows. -/
structure Extent where
  oldStart : Nat
  oldStop : Nat
  newStart : Nat
  newStop : Nat

/-- The part of both lists that a hunk shows. -/
def extent (m : DifferenceManner) (d : Compared) (hunk : List Change) : Extent :=
  let first := hunk.headD ⟨0, 0, 0, 0⟩
  let last := hunk.getLast?.getD first
  ⟨first.oldStart - m.context, min d.old.size (last.oldStop + m.context),
    first.newStart - m.context, min d.new.size (last.newStop + m.context)⟩

/-! ### Manners -/

/-- A change in the plain manner. -/
def plainChange (m : DifferenceManner) (d : Compared) (c : Change) : String :=
  range "," c.oldStart c.oldCount ++ c.letter ++ range "," c.newStart c.newCount ++ "\n" ++
    m.markedAll "<" (d.deleted c) ++ (if c.letter = "c" then "---\n" else "") ++ m.markedAll ">" (d.inserted c)

/-- The lines of a hunk from a place on, in the unified manner. -/
def unifiedLines (m : DifferenceManner) (d : Compared) (place stop : Nat) : List Change → String
  | [] => String.join ((d.oldLines place stop).map (m.unifiedLine " "))
  | c :: cs =>
    String.join ((d.oldLines place c.oldStart).map (m.unifiedLine " ") ++ (d.deleted c).map (m.unifiedLine "-") ++
      (d.inserted c).map (m.unifiedLine "+")) ++ m.unifiedLines d c.oldStop stop cs

/-- A hunk in the unified manner. -/
def unifiedHunk (m : DifferenceManner) (d : Compared) (hunk : List Change) : String :=
  let e := m.extent d hunk
  "@@ -" ++ counted e.oldStart (e.oldStop - e.oldStart) ++ " +" ++ counted e.newStart (e.newStop - e.newStart) ++
    " @@" ++ m.headingAt d e.oldStart ++ "\n" ++ m.unifiedLines d e.oldStart e.oldStop hunk

/-- The lines of one list in a hunk, from a place on, each after its mark. -/
def sideLines (m : DifferenceManner) (lines : Nat → Nat → List String) (mark : String) (start stop count : Change → Nat)
    (other : Change → Nat) (place finish : Nat) : List Change → String
  | [] => m.markedAll " " (lines place finish)
  | c :: cs =>
    m.markedAll " " (lines place (start c)) ++
      m.markedAll (if other c > 0 then "!" else mark) (if count c = 0 then [] else lines (start c) (stop c)) ++
      m.sideLines lines mark start stop count other (stop c) finish cs

/-- A hunk in the manner that shows the parts of both lists. -/
def contextHunk (m : DifferenceManner) (d : Compared) (hunk : List Change) : String :=
  let e := m.extent d hunk
  let old :=
    if hunk.any fun c => c.oldCount > 0 then
      m.sideLines d.oldLines "-" Change.oldStart Change.oldStop Change.oldCount Change.newCount e.oldStart e.oldStop hunk
    else ""
  let new :=
    if hunk.any fun c => c.newCount > 0 then
      m.sideLines d.newLines "+" Change.newStart Change.newStop Change.newCount Change.oldCount e.newStart e.newStop hunk
    else ""
  "***************" ++ m.headingAt d e.oldStart ++ "\n*** " ++ range "," e.oldStart (e.oldStop - e.oldStart) ++
    " ****\n" ++ old ++ "--- " ++ range "," e.newStart (e.newStop - e.newStart) ++ " ----\n" ++ new

/-- Lines for an editor, with what ends them. A line that would end them itself is put in with another dot
    before it, which is taken away afterwards. -/
def editLines (taking : Bool) : List String → String
  | [] => if taking then ".\n" else ""
  | l :: ls =>
    (if taking then "" else "a\n") ++
      (if l = ".\n" then "..\n.\ns/.//\n" ++ editLines false ls else l ++ editLines true ls)

/-- A change as a command for an editor. -/
def scriptChange (m : DifferenceManner) (d : Compared) (c : Change) : String :=
  range "," c.oldStart c.oldCount ++ c.letter ++ "\n" ++
    (if c.newCount = 0 then "" else editLines true ((d.inserted c).map m.expanded))

/-- A change as a command that is to be carried out after those before it. -/
def forwardChange (m : DifferenceManner) (d : Compared) (c : Change) : String :=
  c.letter ++ range " " c.oldStart c.oldCount ++ "\n" ++
    (if c.newCount = 0 then "" else String.join ((d.inserted c).map m.expanded) ++ ".\n")

/-- A change as commands with the numbers of lines. -/
def countedChange (m : DifferenceManner) (d : Compared) (c : Change) : String :=
  (if c.oldCount = 0 then "" else s!"d{c.oldStart + 1} {c.oldCount}\n") ++
    (if c.newCount = 0 then ""
     else s!"a{c.oldStop} {c.newCount}\n" ++ String.join ((d.inserted c).map m.expanded))

/-! ### Side by side -/

/-- The layout of two columns: how wide they are, and where the second one begins. -/
structure TwoColumns where
  half : Nat
  second : Nat
  tab : Nat
  expands : Bool

/-- The layout for a width. -/
def columns (m : DifferenceManner) : TwoColumns :=
  let t := if m.expands then 1 else m.tab
  let second := (m.width / 2 + (t + 3) / 2 + (if m.width % 2 = 1 && (t + 3) % 2 = 1 then 1 else 0)) / t * t
  ⟨if second ≤ 3 || m.width ≤ second then 0 else min (second - 3) (m.width - second), second, m.tab, m.expands⟩

/-- The tabs and blanks from a column to another one. -/
def TwoColumns.gap (t : TwoColumns) (start stop : Nat) : String :=
  let size := max 1 t.tab
  let tabs := if t.expands then 0 else stop / size - start / size
  let start := if tabs = 0 then start else stop / size * size
  String.ofList (List.replicate tabs '\t' ++ List.replicate (stop - start) ' ')

/-- A part of a line that has been shown in a column: where the line has come to, where the column has, and the
    text. -/
structure Cut where
  place : Nat
  column : Nat
  text : String

/-- Shows one more character in a column, if there is room for it. -/
def TwoColumns.next (t : TwoColumns) (indent : Nat) (s : Cut) (c : Char) : Cut :=
  if c = '\t' then
    let blanks := t.tab - s.place % max 1 t.tab
    let stop := s.column + blanks
    let s := if s.place = s.column then
        if t.expands then
          let stop := min stop t.half
          { s with
            column := max s.column stop
            text := s.text ++ String.ofList (List.replicate (stop - s.column) ' ') }
        else if stop < t.half then
          { s with
            column := stop
            text := s.text.push c }
        else s
      else s
    { s with place := s.place + blanks }
  else if c = '\r' then ⟨0, 0, s.text.push c ++ t.gap 0 indent⟩
  else
    let place := s.place + Multibyte.columns c
    if place ≤ t.half then ⟨place, place, s.text ++ String.ofList (Multibyte.octets c)⟩ else { s with place := place }

/-- As much of a line as a column has room for. -/
def TwoColumns.shown (t : TwoColumns) (indent : Nat) (l : String) : Cut :=
  (Multibyte.characters (l.toList.filter (· != '\n'))).foldl (t.next indent) ⟨0, 0, ""⟩

/-- Two lines side by side. -/
def TwoColumns.row (t : TwoColumns) (sign : Char) (left right : Option String) : String :=
  let ends (l : Option String) : Bool := l.any (·.endsWith "\n")
  let s := match left with
    | some l => t.shown 0 l
    | none => ⟨0, 0, ""⟩
  let sign := if sign = '|' && ends left != ends right then (if ends left then '/' else '\\') else sign
  let place := (t.half + t.second - 1) / 2
  let (text, column) :=
    if sign = ' ' then (s.text, s.column)
    else ((s.text ++ t.gap s.column place).push sign, place + 1)
  let text := match right with
    | some l => if l.startsWith "\n" then text else text ++ t.gap column t.second ++ (t.shown t.second l).text
    | none => text
  if ends left || ends right then text ++ "\n" else text

/-- Lines that are the same, side by side. -/
def besideSame (m : DifferenceManner) (t : TwoColumns) (lefts rights : List String) : List String :=
  if m.changedOnly then []
  else if m.leftOnly then lefts.map fun l => t.row '(' (some l) none
  else
    (lefts.zip rights).map (fun (l, r) => t.row ' ' (some l) (some r)) ++
      (rights.drop lefts.length).map (fun r => t.row ')' none (some r)) ++
      (lefts.drop rights.length).map fun l => t.row '(' (some l) none

/-- The lists side by side, from places on. -/
def besideFrom (m : DifferenceManner) (d : Compared) (t : TwoColumns) (i j : Nat) : List Change → List String
  | [] => m.besideSame t (d.oldLines i d.old.size) (d.newLines j d.new.size)
  | c :: cs =>
    let (olds, news) := (d.deleted c, d.inserted c)
    m.besideSame t (d.oldLines i c.oldStart) (d.newLines j c.newStart) ++
      (olds.zip news).map (fun (l, r) => t.row '|' (some l) (some r)) ++
      (news.drop olds.length).map (fun r => t.row '>' none (some r)) ++
      (olds.drop news.length).map (fun l => t.row '<' (some l) none) ++ m.besideFrom d t c.oldStop c.newStop cs

/-! ### Formats -/

/-- A line by a format. -/
def formattedLine (number : Nat) (line : String) : List Char → String
  | [] => ""
  | '%' :: 'l' :: cs => line ++ formattedLine number line cs
  | '%' :: 'L' :: cs => line ++ "\n" ++ formattedLine number line cs
  | '%' :: 'd' :: 'n' :: cs => toString number ++ formattedLine number line cs
  | '%' :: 'c' :: '\'' :: c :: '\'' :: cs => String.singleton c ++ formattedLine number line cs
  | '%' :: '%' :: cs => "%" ++ formattedLine number line cs
  | '%' :: c :: cs =>
    -- a number with a width
    let rest := (c :: cs).dropWhile fun d => d.isDigit || d = '-'
    match rest with
    | 'd' :: 'n' :: _ =>
      let w := (c :: cs).take ((c :: cs).length - rest.length)
      let digits := w.filter Char.isDigit
      let size := numberOf 10 digits
      let n := toString number
      let blanks := String.ofList (List.replicate (size - n.length) (if digits.head? = some '0' then '0' else ' '))
      (if w.contains '-' then n ++ blanks else blanks ++ n) ++ formattedLine number line (cs.drop (w.length + 1))
    | _ => String.ofList ['%', c] ++ formattedLine number line cs
  | c :: cs => String.singleton c ++ formattedLine number line cs
  termination_by cs => cs.length
  decreasing_by all_goals (simp; try omega)

/-- Lines by a format, numbered from a place on. -/
def formattedLines (format : String) (start : Nat) (ls : List String) : String :=
  String.join (ls.zipIdx.map fun (l, k) =>
    formattedLine (start + k + 1) ((l.dropEndWhile (· = '\n')).toString) format.toList)

/-- A group of lines by a format. -/
def formattedGroup (m : DifferenceManner) (d : Compared) (c : Change) : List Char → String
  | [] => ""
  | '%' :: '<' :: cs => formattedLines m.formats.oldLine c.oldStart (d.deleted c) ++ m.formattedGroup d c cs
  | '%' :: '>' :: cs => formattedLines m.formats.newLine c.newStart (d.inserted c) ++ m.formattedGroup d c cs
  | '%' :: '=' :: cs => formattedLines m.formats.sameLine c.oldStart (d.deleted c) ++ m.formattedGroup d c cs
  | '%' :: 'd' :: 'f' :: cs => toString (c.oldStart + 1) ++ m.formattedGroup d c cs
  | '%' :: 'd' :: 'l' :: cs => toString c.oldStop ++ m.formattedGroup d c cs
  | '%' :: 'd' :: 'n' :: cs => toString c.oldCount ++ m.formattedGroup d c cs
  | '%' :: 'd' :: 'e' :: cs => toString c.oldStart ++ m.formattedGroup d c cs
  | '%' :: 'd' :: 'm' :: cs => toString (c.oldStop + 1) ++ m.formattedGroup d c cs
  | '%' :: 'd' :: 'F' :: cs => toString (c.newStart + 1) ++ m.formattedGroup d c cs
  | '%' :: 'd' :: 'L' :: cs => toString c.newStop ++ m.formattedGroup d c cs
  | '%' :: 'd' :: 'N' :: cs => toString c.newCount ++ m.formattedGroup d c cs
  | '%' :: 'd' :: 'E' :: cs => toString c.newStart ++ m.formattedGroup d c cs
  | '%' :: 'd' :: 'M' :: cs => toString (c.newStop + 1) ++ m.formattedGroup d c cs
  | '%' :: 'c' :: '\'' :: x :: '\'' :: cs => String.singleton x ++ m.formattedGroup d c cs
  | '%' :: '%' :: cs => "%" ++ m.formattedGroup d c cs
  | x :: cs => String.singleton x ++ m.formattedGroup d c cs

/-- The lists by formats, from places on. -/
def formattedFrom (m : DifferenceManner) (d : Compared) (i j : Nat) : List Change → String
  | [] =>
    if d.old.size ≤ i then ""
    else m.formattedGroup d ⟨i, d.old.size - i, j, d.new.size - j⟩ m.formats.sameGroup.toList
  | c :: cs =>
    let same := if c.oldStart ≤ i then ""
      else m.formattedGroup d ⟨i, c.oldStart - i, j, c.newStart - j⟩ m.formats.sameGroup.toList
    let format :=
      if c.newCount = 0 then m.formats.oldGroup
      else if c.oldCount = 0 then m.formats.newGroup
      else m.formats.changedGroup
    same ++ m.formattedGroup d c format.toList ++ m.formattedFrom d c.oldStop c.newStop cs

/-! ### All -/

/-- Whether something is shown even if there is no difference. -/
def showsSame (m : DifferenceManner) : Bool :=
  match m.style with
  | .beside => !m.changedOnly
  | .formatted => !(m.formats.sameGroup = "" || (m.formats.sameGroup = "%=" && m.formats.sameLine = ""))
  | _ => false

/-- The differences, after a heading for those manners that have one. -/
def shown (m : DifferenceManner) (d : Compared) (heading : String) : String :=
  let each (f : Change → String) (cs : List Change) : String := String.join (cs.map f)
  let all (f : List Change → String) : String :=
    match d.hunks m.context with
    | [] => ""
    | hs => heading ++ String.join (hs.map f)
  match m.style with
  | .plain => each (m.plainChange d) d.notable
  | .script => each (m.scriptChange d) d.notable.reverse
  | .forward => each (m.forwardChange d) d.notable
  | .counted => each (m.countedChange d) d.notable
  | .unified => all (m.unifiedHunk d)
  | .context => all (m.contextHunk d)
  | .beside => String.join (m.besideFrom d m.columns 0 0 d.notable)
  | .formatted => m.formattedFrom d 0 0 d.notable

end DifferenceManner

end Retrace.Unix
