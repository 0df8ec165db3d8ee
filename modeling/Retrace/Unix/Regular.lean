import Retrace.Unix.Characters
import Retrace.Unix.Pattern

/-!
# Regular expressions

The two ways of writing regular expressions, *basic* and *extended*, are read
into one kind of tree. A match is the first one in the text, and the longest
among those that begin there.

What an expression does with a place in a text is the list of the places it can
lead to, the preferred one first. Of two ways to the same place only the first
is kept.
-/

namespace Retrace.Unix

/-- What regular expressions are made of. -/
inductive Regular where
  | empty
  | char (c : Char)
  | any
  | among (negated : Bool) (members : List Member)
  /-- The beginning of the text. -/
  | atStart
  /-- The end of the text. -/
  | atEnd
  /-- The beginning of a line, if lines are looked at. -/
  | lineStart
  /-- The end of a line, if lines are looked at. -/
  | lineEnd
  /-- The edge of a word: its beginning, its end, or either; or no edge. -/
  | edge (beginning ending inverted : Bool)
  | group (number : Nat) (r : Regular)
  | sequence (a b : Regular)
  | either (a b : Regular)
  /-- A repetition, for which more rounds are preferred unless it is `reluctant`. -/
  | repetition (r : Regular) (least : Nat) (most : Option Nat) (reluctant : Bool)
  /-- What a group matched before. -/
  | again (number : Nat)
  /-- A condition on what comes next, or came before. -/
  | around (ahead negated : Bool) (r : Regular)
  /-- The preferred way only. -/
  | decided (r : Regular)
  /-- Small letters and capitals are the same in it. -/
  | folding (r : Regular)
  /-- The match is taken to begin here. -/
  | restart

namespace Regular

/-! ### Matching -/

/-- A place in a text. -/
structure Position where
  /-- The characters before it, the last one first. -/
  before : List Char
  after : List Char
  /-- The number of characters before it. -/
  offset : Nat
  /-- Where the groups began and ended. -/
  groups : List (Nat × Nat × Nat)
  /-- Where the match is taken to begin, if not where it does. -/
  start : Option Nat

/-- The beginning of a text. -/
def Position.first (text : List Char) : Position := ⟨[], text, 0, [], none⟩

/-- The place after the next character. -/
def Position.advance (p : Position) : Position :=
  match p.after with
  | c :: cs => { p with before := c :: p.before, after := cs, offset := p.offset + 1 }
  | [] => p

/-- The place before the last character. -/
def Position.retreat (p : Position) : Position :=
  match p.before with
  | c :: cs => { p with before := cs, after := c :: p.after, offset := p.offset - 1 }
  | [] => p

/-- The place after some characters. -/
def Position.advanceBy : Nat → Position → Position
  | 0, p => p
  | n + 1, p => advanceBy n p.advance

/-- The characters between two places. -/
def Position.between (p : Position) (start stop : Nat) : List Char :=
  ((p.before.reverse ++ p.after).take stop).drop start

/-- How a text is looked at. -/
structure Manner where
  /-- Small letters and capitals are the same. -/
  folded : Bool
  /-- A text has lines. -/
  lines : Bool
  /-- The preferred match is wanted rather than the longest one. -/
  preferred : Bool

/-- How a text is usually looked at. -/
def Manner.usual : Manner := ⟨false, false, false⟩

/-- Whether a character is part of words. -/
def isWordly (c : Char) : Bool := c.isDigit || c = '_' || Multibyte.isLetter c

/-- Whether two characters are the same. -/
def same (m : Manner) (c d : Char) : Bool :=
  c = d || (m.folded && Multibyte.lower c = Multibyte.lower d)

/-- Whether a character is in a set. -/
def inSet (m : Manner) (negated : Bool) (members : List Member) (c : Char) : Bool :=
  let has (c : Char) : Bool := members.any (Member.has c)
  (has c || (m.folded && (has (Multibyte.lower c) || has (Multibyte.upper c)))) != negated

/-- Some places without those that were mentioned before. -/
def distinct (ps : List Position) : List Position :=
  match ps with
  | [] => []
  | [p] => [p]
  | ps =>
    (ps.foldl (fun (kept, seen) p =>
      if Nat.testBit seen p.offset then (kept, seen) else (p :: kept, seen ||| (1 <<< p.offset)))
      (([], 0) : List Position × Nat)).1.reverse

/-- The places to which one character leads. -/
def one (p : Position) (accepts : Char → Bool) : List Position :=
  match p.after with
  | c :: _ => if accepts c then [p.advance] else []
  | [] => []

/-- What an expression for a single character accepts. -/
def single? (m : Manner) : Regular → Option (Char → Bool)
  | .char c => some (same m c)
  | .any => some fun _ => true
  | .among negated members => some (inSet m negated members)
  | _ => none

/-- The places that are reached by passing over at most so many characters, the nearest
    first. -/
def passed (accepts : Char → Bool) : (most : Nat) → Position → List Position
  | 0, p => [p]
  | n + 1, p =>
    match p.after with
    | c :: _ => if accepts c then p :: passed accepts n p.advance else [p]
    | [] => [p]

/-- The places to which repeating something leads. -/
def repeated (step : Position → List Position) (reluctant : Bool) : (fuel least : Nat) →
    (most : Option Nat) → Position → List Position
  | 0, least, _, p => if least = 0 then [p] else []
  | n + 1, least, most, p =>
    if most = some 0 then [p]
    else
      let next := (step p).filter fun q => least != 0 || q.offset != p.offset
      let more := next.flatMap (repeated step reluctant n (least - 1) (most.map (· - 1)))
      distinct (if least != 0 then more else if reluctant then p :: more else more ++ [p])

/-- The places an expression leads to. -/
def places (m : Manner) : Regular → Position → List Position
  | .empty, p => [p]
  | .char c, p => one p (same m c)
  | .any, p => one p fun _ => true
  | .among negated members, p => one p (inSet m negated members)
  | .atStart, p => if p.before.isEmpty then [p] else []
  | .atEnd, p => if p.after.isEmpty then [p] else []
  | .lineStart, p =>
    if p.before.isEmpty || (m.lines && p.before.head? = some '\n') then [p] else []
  | .lineEnd, p => if p.after.isEmpty || (m.lines && p.after.head? = some '\n') then [p] else []
  | .edge beginning ending inverted, p =>
    let b := p.before.head?.any isWordly
    let a := p.after.head?.any isWordly
    if ((beginning && !b && a) || (ending && b && !a)) != inverted then [p] else []
  | .group n r, p =>
    (places m r p).map fun q =>
      { q with groups := (n, p.offset, q.offset) :: q.groups.filter (·.1 != n) }
  | .sequence a b, p => distinct ((places m a p).flatMap (places m b))
  | .either a b, p => distinct (places m a p ++ places m b p)
  | .repetition r least most reluctant, p =>
    match single? m r with
    | some accepts =>
      let ps := (passed accepts (most.getD p.after.length) p).drop least
      if reluctant then ps else ps.reverse
    | none => repeated (places m r) reluctant (p.after.length + least + 1) least most p
  | .again n, p =>
    match p.groups.lookup n with
    | some (first, last) =>
      let cs := p.between first last
      let next := p.after.take cs.length
      if next.length = cs.length && (cs.zip next).all fun (c, d) => same m c d then
        [p.advanceBy cs.length]
      else []
    | none => []
  | .around ahead negated r, p =>
    let found := if ahead then !(places m r p).isEmpty
      else (List.range (p.before.length + 1)).any fun k =>
        (places m r (Nat.repeat Position.retreat k p)).any fun q => q.offset = p.offset
    if found != negated then [p] else []
  | .decided r, p => (places m r p).take 1
  | .folding r, p => places { m with folded := true } r p
  | .restart, p => [{ p with start := some p.offset }]

/-- What was matched: where it begins and ends, and where the groups do. -/
structure Match where
  start : Nat
  stop : Nat
  groups : List (Nat × Nat × Nat)

/-- The place with the greatest offset, the first one of several. -/
def longest : List Position → Option Position
  | [] => none
  | p :: ps =>
    some (ps.foldl (fun (best : Position) q => if best.offset < q.offset then q else best) p)

/-- The place that a match from one ends at, among those that are possible. -/
def best (m : Manner) (ps : List Position) : Option Position :=
  if m.preferred then ps.head? else longest ps

/-- The first match from a place on. -/
def matchFrom (m : Manner) (r : Regular) : (fuel : Nat) → Position → Option Match
  | 0, _ => none
  | n + 1, p =>
    match best m (places m r p) with
    | some q => some ⟨q.start.getD p.offset, q.offset, q.groups⟩
    | none => if p.after.isEmpty then none else matchFrom m r n p.advance

/-- The first match in a text that begins after some characters. -/
def find? (m : Manner) (r : Regular) (s : List Char) (skipped : Nat) : Option Match :=
  matchFrom m r (s.length + 1) (Position.advanceBy skipped (.first s))

/-! ### Reading -/

/-- How expressions are written. -/
structure Writing where
  /-- Groups, alternatives and intervals have no backslash before them. -/
  extended : Bool
  /-- A repetition of nothing is passed over, and a brace that begins no interval stands for
      itself. -/
  lenient : Bool
  /-- A parenthesis that closes no group stands for itself. -/
  closes : Bool
  /-- A repetition must not be repeated by a star or an interval. -/
  once : Bool

namespace Writing

/-- Basic expressions. -/
def basic : Writing := ⟨false, false, false, false⟩

/-- Extended expressions. -/
def full : Writing := ⟨true, false, false, false⟩

/-- A mark that is preceded by a backslash in basic expressions. -/
def mark (w : Writing) (s : String) : String := if w.extended then s else "\\" ++ s

/-- What opens a group. -/
def opening (w : Writing) : String := w.mark "("

/-- What closes a group. -/
def closing (w : Writing) : String := w.mark ")"

/-- What separates alternatives. -/
def bar (w : Writing) : String := w.mark "|"

end Writing

/-- What is left of an expression, the number of groups it has so far, and how many of them
    are open. -/
structure Reading where
  rest : List Char
  groups : Nat
  opened : Nat
  /-- The groups that are closed. -/
  closed : List Nat

/-- The reading of an expression. What is wrong with one is told in words. -/
abbrev Parse := StateT Reading (Except String)

/-- Passes over a text if it comes next. -/
def accept (s : String) : Parse Bool := do
  let r ← get
  if s.toList.isPrefixOf r.rest then
    set { r with rest := r.rest.drop s.length }
    return true
  else return false

/-- Passes over a text if it comes next and a condition holds. -/
def acceptIf (condition : Bool) (s : String) : Parse Bool :=
  if condition then accept s else return false

/-- Whether a text comes next. -/
def isNext (s : String) : Parse Bool := do
  return s.toList.isPrefixOf (← get).rest

/-- The characters of words as a set. -/
def wordSet : List Member := [.named "alnum", .range '_' '_']

/-- The greatest number of repetitions that can be asked for. -/
def mostRepetitions : Nat := 32767

/-- The numbers in an interval, after the brace that opens it; `none` if it is none. -/
def interval (w : Writing) : Parse (Option (Nat × Option Nat)) := do
  let before ← get
  let number : Parse (Option Nat) := do
    let r ← get
    let ds := r.rest.takeWhile Char.isDigit
    set { r with rest := r.rest.drop ds.length }
    return if ds.isEmpty then none else some (numberOf 10 ds)
  let low ← number
  let comma ← accept ","
  let high ← if comma then number else pure low
  let closed ← accept (w.mark "\x7d")
  if comma && high.isSome && (← isNext ",") then throw "Invalid content of \\\x7b\\\x7d"
  else if closed && (low.isSome || comma) then
    if high.any fun h => h < low.getD 0 || mostRepetitions < h then
      if high.any fun h => mostRepetitions < h then throw "Regular expression too big"
      else throw "Invalid content of \\\x7b\\\x7d"
    else if mostRepetitions < low.getD 0 then throw "Regular expression too big"
    else return some (low.getD 0, high)
  else if w.lenient && w.extended then
    set before
    return none
  else if (← get).rest.isEmpty && !closed then throw "Unmatched \\\x7b"
  else throw "Invalid content of \\\x7b\\\x7d"

/-- The repetitions after something, which may be one itself. -/
def repetitions (w : Writing) (repeated : Bool) (r : Regular) : (fuel : Nat) → Parse Regular
  | 0 => return r
  | n + 1 => do
    if repeated && w.once && ((← isNext "*") || (← isNext (w.mark "\x7b"))) then
      throw "Invalid preceding regular expression"
    if ← accept "*" then repetitions w true (.repetition r 0 none false) n
    else if ← accept (w.mark "+") then repetitions w true (.repetition r 1 none false) n
    else if ← accept (w.mark "?") then repetitions w true (.repetition r 0 (some 1) false) n
    else
      let before ← get
      if ← accept (w.mark "\x7b") then
        match ← interval w with
        | some (low, high) => repetitions w true (.repetition r low high false) n
        | none =>
          set before
          return r
      else return r

/-- What a character after a backslash stands for. -/
def escaped (c : Char) : Parse Regular := do
  match c with
  | 'w' => return .among false wordSet
  | 'W' => return .among true wordSet
  | 's' => return .among false [.named "space"]
  | 'S' => return .among true [.named "space"]
  | 'b' => return .edge true true false
  | 'B' => return .edge true true true
  | '<' => return .edge true false false
  | '>' => return .edge false true false
  | '\x60' => return .atStart
  | '\'' => return .atEnd
  | c =>
    if c.isDigit && c != '0' then
      let n := c.toNat - '0'.toNat
      if (← get).closed.contains n then return .again n else throw "Invalid back reference"
    else return .char c

/-- Whether the end of an alternative comes next. -/
def isEnd (w : Writing) : Parse Bool := do
  let r ← get
  return r.rest.isEmpty || ((← isNext w.closing) && !(w.closes && r.opened = 0)) || (← isNext w.bar)

/-- The next character or set. -/
def basic (w : Writing) (first : Bool) : Parse Regular := do
  let r ← get
  match r.rest with
  | [] => return .empty
  | c :: cs =>
    set { r with rest := cs }
    match c with
    | '.' => return .any
    | '[' =>
      let negated := cs.head? = some '^'
      let body : List Marked := (if negated then cs.drop 1 else cs).map fun c => (c, c = '\\')
      match Wild.members (body.length + 1) true body with
      | some (ms, rest) =>
        set { r with rest := rest.map Prod.fst }
        if ms.any Member.isUnknown then throw "Invalid character class name"
        else if ms.any Member.isBackward then throw "Invalid range end"
        else return .among negated ms
      | none => throw "Unmatched [, [^, [:, [., or [="
    | '^' => return if first || w.extended then .lineStart else .char '^'
    | '$' => return if w.extended || (← isEnd w) then .lineEnd else .char '$'
    | '\\' =>
      match cs with
      | [] => throw "Trailing backslash"
      | d :: rest =>
        set { r with rest := rest }
        escaped d
    | c => return .char c

/-- Whether an expression stands for no characters but only says where they are. -/
def isAnchor : Regular → Bool
  | .atStart => true
  | .atEnd => true
  | .lineStart => true
  | .lineEnd => true
  | .edge _ _ _ => true
  | _ => false

/-- Whether a repetition comes next. -/
def isRepetition (w : Writing) : Parse Bool := do
  return (← isNext "*") || (← isNext (w.mark "+")) || (← isNext (w.mark "?")) || (← isNext (w.mark "\x7b"))

mutual

/-- Alternatives. -/
def alternatives (w : Writing) : (fuel : Nat) → Parse Regular
  | 0 => throw "Regular expression too big"
  | n + 1 => do
    let a ← items w true n
    if ← accept w.bar then return .either a (← alternatives w n) else return a

/-- The items of an alternative. -/
def items (w : Writing) (first : Bool) : (fuel : Nat) → Parse Regular
  | 0 => throw "Regular expression too big"
  | n + 1 => do
    if ← isEnd w then return .empty
    else
      let a ← item w first n
      -- a caret is an anchor at the beginning only
      let b ← items w (a.isAnchor && (w.extended || !(← isNext "^"))) n
      match b with
      | .empty => return a
      | b => return .sequence a b

/-- An item with its repetitions. -/
def item (w : Writing) (first : Bool) : (fuel : Nat) → Parse Regular
  | 0 => throw "Regular expression too big"
  | n + 1 => do
    if ← accept w.opening then
      let number := (← get).groups + 1
      modify fun r => { r with groups := number, opened := r.opened + 1 }
      let inner ← alternatives w n
      if ← accept w.closing then
        modify fun r => { r with opened := r.opened - 1, closed := number :: r.closed }
        repetitions w false (.group number inner) ((← get).rest.length + 1)
      else throw "Unmatched ( or \\("
    else if first && (← isRepetition w) then
      if w.extended then
        if !w.lenient then throw "Invalid preceding regular expression"
        else
          modify fun r => { r with rest := r.rest.drop 1 }
          let isClosing ← isNext w.closing
          if (← get).rest.isEmpty then return .empty
          else if isClosing || (← isNext w.bar) then
            if isClosing then repetitions w false (← basic w false) ((← get).rest.length + 1) else return .empty
          else item w first n
      else if ← accept "*" then repetitions w false (.char '*') ((← get).rest.length + 1)
      else if ← accept "\\+" then repetitions w false (.char '+') ((← get).rest.length + 1)
      else if ← accept "\\?" then repetitions w false (.char '?') ((← get).rest.length + 1)
      else if ← acceptIf w.lenient "\\\x7b" then repetitions w false (.char '\x7b') ((← get).rest.length + 1)
      else throw "Invalid preceding regular expression"
    else
      let r ← basic w first
      if r.isAnchor then return r else repetitions w false r ((← get).rest.length + 1)

end

/-- Reads an expression that is written in some characters. -/
def ofCharacters (w : Writing) (cs : List Char) : Except String Regular := do
  let whole : Parse Regular := do
    let r ← alternatives w (4 * cs.length + 8)
    if (← get).rest.isEmpty then return r
    else throw "Unmatched ) or \\)"
  return (← whole.run ⟨cs, 0, 0, []⟩).1

/-- Reads an expression. -/
def read (w : Writing) (s : String) : Except String Regular :=
  ofCharacters w (Multibyte.characters s.toList)

/-- How many groups an expression has. -/
def groupCount : Regular → Nat
  | .group _ r => groupCount r + 1
  | .sequence a b => groupCount a + groupCount b
  | .either a b => groupCount a + groupCount b
  | .repetition r _ _ _ => groupCount r
  | .around _ _ r => groupCount r
  | .decided r => groupCount r
  | .folding r => groupCount r
  | _ => 0

/-- The expression that stands for a text. -/
def ofText (s : String) : Regular :=
  (Multibyte.characters s.toList).foldr (fun c r => .sequence (.char c) r) .empty

end Regular

end Retrace.Unix
