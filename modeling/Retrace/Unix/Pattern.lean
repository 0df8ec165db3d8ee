import Retrace.Unix.Multibyte

/-!
# Wildcards

Patterns for texts: `*` stands for any text, `?` for any character, and a set
between brackets for any of its members; every other character stands for
itself, and so does a quoted one. A list of patterns between parentheses stands
for one of them, for any number of them, or for anything else, as the sign before
it says.

A pattern is matched by following all the places that its elements can lead to
at once.
-/

namespace Retrace.Unix

/-- A character of a pattern, and whether it was quoted. -/
abbrev Marked := Char × Bool

/-- The characters named by the classes of a set. -/
def classMember? (name : String) : Option (Char → Bool) :=
  let graphic (c : Char) : Bool := ('!' ≤ c && c ≤ '~') || (0xa1 ≤ c.toNat && !Multibyte.isStray c)
  let isUpper (c : Char) : Bool := c.isUpper || (0x80 ≤ c.toNat && Multibyte.lower c != c)
  let isLower (c : Char) : Bool := c.isLower || (0x80 ≤ c.toNat && Multibyte.upper c != c)
  match name with
  | "alpha" => some Multibyte.isLetter
  | "digit" => some Char.isDigit
  | "alnum" => some fun c => c.isDigit || Multibyte.isLetter c
  | "upper" => some isUpper
  | "lower" => some isLower
  | "space" => some fun c => c = ' ' || ('\x09' ≤ c && c ≤ '\x0d')
  | "blank" => some fun c => c = ' ' || c = '\t'
  | "punct" => some fun c => graphic c && !c.isDigit && !Multibyte.isLetter c
  | "print" => some fun c => c = ' ' || graphic c
  | "graph" => some graphic
  | "cntrl" => some fun c => c < ' ' || c = '\x7f'
  | "xdigit" => some fun c => c.isDigit || ('a' ≤ c && c ≤ 'f') || ('A' ≤ c && c ≤ 'F')
  | "word" => some fun c => c.isDigit || Multibyte.isLetter c || c = '_'
  | "ascii" => some fun c => c.toNat < 0x80
  | _ => none

/-- A member of a set. -/
inductive Member where
  /-- The characters from one to another. -/
  | range (low high : Char)
  | named (name : String)
  /-- All characters but those of a class. -/
  | outside (name : String)

/-- Whether a character is among those a member stands for. -/
def Member.has (c : Char) : Member → Bool
  | range low high => low ≤ c && c ≤ high
  | named name => (classMember? name).any (· c)
  | outside name => !(classMember? name).any (· c)

/-- Whether a member is a class that there is not. -/
def Member.isUnknown : Member → Bool
  | range _ _ => false
  | named name => (classMember? name).isNone
  | outside name => (classMember? name).isNone

/-- Whether a member is a range that ends before it begins. -/
def Member.isBackward : Member → Bool
  | range low high => high < low
  | named _ => false
  | outside _ => false

/-- What the sign before a list of patterns says. -/
inductive Repeats where
  | optional | any | some | one
  /-- Anything that matches none of them. -/
  | other
deriving DecidableEq

/-- The repetition a sign stands for. -/
def Repeats.of? : Char → Option Repeats
  | '?' => .some .optional
  | '*' => .some .any
  | '+' => .some .some
  | '@' => .some .one
  | '!' => .some .other
  | _ => none

/-- What a pattern is made of. -/
inductive Wild where
  | char (c : Char)
  | one
  | many
  | set (negated : Bool) (members : List Member)
  | list (how : Repeats) (patterns : List (List Wild))

namespace Wild

/-- The name between two signs in a set, and what is left after it. -/
def named? (sign : Char) (cs : List Marked) : Option (String × List Marked) :=
  let name := cs.takeWhile fun m => m.1 != sign
  match cs.drop name.length with
  | (_, _) :: (']', _) :: rest => .some (String.ofList (name.map (·.1)), rest)
  | _ => none

/-- The members of a set up to the bracket that closes it, and what is left;
    `none` if there is no such bracket. -/
def members : (length : Nat) → (first : Bool) → List Marked → Option (List Member × List Marked)
  | 0, _, _ => none
  | _ + 1, _, [] => none
  | n + 1, first, (c, quoted) :: cs =>
    let one (d : Char) (rest : List Marked) : Option (List Member × List Marked) :=
      match rest with
      | ('-', false) :: (e, q) :: more =>
        if e = ']' && !q then (members n false rest).map fun (ms, rest) => (.range d d :: ms, rest)
        else
          match e, q, more with
          | '\\', false, (f, _) :: more =>
            (members n false more).map fun (ms, rest) => (.range d f :: ms, rest)
          | '[', false, ('.', false) :: more =>
            match named? '.' more with
            | .some (name, more) =>
              (members n false more).map fun (ms, rest) =>
                (.range d ((name.toList.head?).getD d) :: ms, rest)
            | none => (members n false more).map fun (ms, rest) => (.range d e :: ms, rest)
          | _, _, _ => (members n false more).map fun (ms, rest) => (.range d e :: ms, rest)
      | rest => (members n false rest).map fun (ms, rest) => (.range d d :: ms, rest)
    if c = ']' && !quoted && !first then .some ([], cs)
    else if c = '\\' && !quoted then
      match cs with
      | (d, _) :: rest => one d rest
      | [] => none
    else if c = '[' && !quoted then
      match cs with
      | (':', false) :: rest =>
        match named? ':' rest with
        | .some (name, rest) =>
          (members n false rest).map fun (ms, rest) => (.named name :: ms, rest)
        | none => one c cs
      | ('.', false) :: rest =>
        match named? '.' rest with
        | .some (name, rest) => one ((name.toList.head?).getD '.') rest
        | none => one c cs
      | ('=', false) :: rest =>
        match named? '=' rest with
        | .some (name, rest) => one ((name.toList.head?).getD '=') rest
        | none => one c cs
      | cs => one c cs
    else one c cs

/-- The patterns of a list up to the parenthesis that closes it, with as many open as given, and
    what is left. -/
def alternatives : (depth : Nat) → List Marked → Option (List (List Marked) × List Marked)
  | _, [] => none
  | depth, (c, quoted) :: cs =>
    let begin (depth : Nat) : Option (List (List Marked) × List Marked) :=
      (alternatives depth cs).map fun (as, rest) =>
        match as with
        | a :: as => (((c, quoted) :: a) :: as, rest)
        | [] => ([[(c, quoted)]], rest)
    if quoted then begin depth
    else if c = '(' then begin (depth + 1)
    else if c = ')' then
      match depth with
      | 0 => .some ([[]], cs)
      | depth + 1 => begin depth
    else if c = '|' && depth = 0 then (alternatives 0 cs).map fun (as, rest) => ([] :: as, rest)
    else begin depth

/-- What the characters of a pattern mean. With `lists` there may be lists of patterns in it. -/
def read (lists : Bool) : (length : Nat) → List Marked → List Wild
  | 0, _ => []
  | _, [] => []
  | n + 1, (c, true) :: cs => .char c :: read lists n cs
  | n + 1, (c, false) :: cs =>
    let listed := if lists && cs.head? = .some ('(', false) then
        (Repeats.of? c).bind fun how => (alternatives 0 (cs.drop 1)).map fun (as, rest) => (how, as, rest)
      else none
    match listed with
    | .some (how, as, rest) => .list how (as.map (read lists n)) :: read lists n rest
    | none =>
      if c = '*' then .many :: read lists n cs
      else if c = '?' then .one :: read lists n cs
      else if c = '[' then
        let negated := cs.head?.any fun m => !m.2 && (m.1 = '!' || m.1 = '^')
        match members (cs.length + 1) true (if negated then cs.drop 1 else cs) with
        | .some (ms, rest) => .set negated ms :: read lists n rest
        | none => .char c :: read lists n cs
      else if c = '\\' then
        match cs with
        | (d, _) :: rest => .char d :: read lists n rest
        | [] => [.char c]
      else .char c :: read lists n cs

/-- Two ascending lists of places put together. -/
def union : List Nat → List Nat → List Nat
  | [], bs => bs
  | as, [] => as
  | a :: as, b :: bs =>
    if a < b then a :: union as (b :: bs)
    else if b < a then b :: union (a :: as) bs
    else a :: union as bs
termination_by as bs => as.length + bs.length

/-- The places that can be reached by repeating a step. -/
def closure (step : List Nat → List Nat) : (most : Nat) → (seen new : List Nat) → List Nat
  | 0, seen, _ => seen
  | n + 1, seen, new =>
    let next := (step new).filter fun p => !seen.contains p
    if next.isEmpty then seen else closure step n (union seen next) next

mutual

/-- The places in a text after a match of an element that begins at one of some places. -/
def after (text : Array Char) : Wild → List Nat → List Nat
  | .char c, ps => (ps.filter fun p => text[p]? = .some c).map (· + 1)
  | .one, ps => (ps.filter fun p => p < text.size).map (· + 1)
  | .many, ps =>
    match ps with
    | p :: _ => (List.range (text.size + 1 - p)).map (p + ·)
    | [] => []
  | .set negated ms, ps =>
    (ps.filter fun p =>
      match text[p]? with
      | .some c => ms.any (Member.has c) != negated
      | none => false).map (· + 1)
  | .list how as, ps =>
    match how with
    | .one => afterAny text as ps
    | .optional => union ps (afterAny text as ps)
    | .any => closure (fun ps => afterAny text as ps) (text.size + 1) ps ps
    | .some =>
      let once := afterAny text as ps
      closure (fun ps => afterAny text as ps) (text.size + 1) once once
    | .other =>
      ps.foldl (fun found p =>
        let matched := afterAny text as [p]
        union found (((List.range (text.size + 1 - p)).map (p + ·)).filter fun q => !matched.contains q)) []

/-- The places after a match of a pattern. -/
def afterAll (text : Array Char) : List Wild → List Nat → List Nat
  | [], ps => ps
  | w :: ws, ps => afterAll text ws (after text w ps)

/-- The places after a match of one of some patterns. -/
def afterAny (text : Array Char) : List (List Wild) → List Nat → List Nat
  | [], _ => []
  | a :: as, ps => union (afterAll text a ps) (afterAny text as ps)

end

/-- An element in which letters are small. -/
def folded : Wild → Wild
  | .char c => .char (Multibyte.lower c)
  | .set negated ms => .set negated (ms ++ ms.filterMap fun
      | .range a b => .some (.range (Multibyte.lower a) (Multibyte.lower b))
      | .named n => if n = "upper" then .some (.named "lower") else none
      | .outside _ => none)
  | w => w

end Wild

/-- A pattern. -/
abbrev Pattern := List Wild

namespace Pattern

/-- What some characters mean as a pattern. -/
def ofMarked (lists : Bool) (cs : List Marked) : Pattern :=
  Wild.read lists cs.length cs

/-- A pattern written in octets, in which characters are what they encode. -/
def ofOctets (lists : Bool) (cs : List Marked) : Pattern :=
  if cs.all fun m => m.1.toNat < 0x80 then ofMarked lists cs
  else ofMarked lists (decoded cs.length cs)
where
  /-- The characters that marked octets encode. -/
  decoded : (most : Nat) → List Marked → List Marked
    | 0, _ => []
    | _ + 1, [] => []
    | n + 1, (c, q) :: cs =>
      let (d, length) := Multibyte.first c (cs.map (·.1))
      (d, q) :: decoded n (cs.drop (length - 1))

/-- Whether the pattern matches the whole of some characters. -/
def admitsAll (p : Pattern) (cs : List Char) : Bool :=
  (Wild.afterAll cs.toArray p [0]).contains cs.length

/-- Whether the pattern matches the whole of a text of octets. -/
def admits (p : Pattern) (s : String) : Bool :=
  p.admitsAll (Multibyte.characters s.toList)

/-- Whether some characters contain a wildcard. -/
def hasWildcard (lists : Bool) (cs : List Marked) : Bool :=
  (ofMarked lists cs).any fun
    | .char _ => false
    | _ => true

/-- The lengths of the texts at the beginning of `cs` that the pattern matches,
    ascending. -/
def lengths (p : Pattern) (cs : List Char) : List Nat :=
  Wild.afterAll cs.toArray p [0]

end Pattern

end Retrace.Unix
