import Retrace.Unix.Utility.Options

/-!
# Lines in order

What puts lines in order, and what looks at lines that follow each other. Lines
are compared by keys, which are parts of them: from a character of a field to a
character of a field. How two keys are compared is said by letters. Lines whose
keys are the same are compared as a whole.
-/

namespace Retrace.Unix.Utility

namespace Sorting

/-! ### Keys -/

/-- The place of a character: the number of fields before it, and of characters in its field. -/
structure Spot where
  fields : Nat
  characters : Nat

/-- A key. -/
structure Key where
  start : Spot
  /-- Where the key ends, if not with the line. Without characters it ends with a field. -/
  stop : Option Spot
  letters : List Char
  /-- Blanks do not count at the start, or where the key stops. -/
  trimStart : Bool
  trimStop : Bool

/-- The letters that say how keys are compared. -/
def orderLetters : List Char := "bdfgiMhnRrV".toList

/-- A number of a place in a key, the letters after it, and what is left. -/
def spot (what : String) (whole : String) (cs : List Char) : Except String (Nat × Option Nat × List Char × List Char) := do
  let ds := cs.takeWhile Char.isDigit
  if ds.isEmpty then
    throw ("invalid number " ++ what ++ ": invalid count at start of " ++ Quoting.curly (String.ofList cs))
  let rest := cs.drop ds.length
  let (character, rest) ← match rest with
    | '.' :: more =>
      let es := more.takeWhile Char.isDigit
      if es.isEmpty then
        throw ("invalid number after '.': invalid count at start of " ++ Quoting.curly (String.ofList more))
      pure (some (numberOf 10 es), more.drop es.length)
    | rest => pure (none, rest)
  let letters := rest.takeWhile orderLetters.contains
  if numberOf 10 ds = 0 then
    throw ("field number is zero: invalid field specification " ++ Quoting.curly whole)
  return (numberOf 10 ds, character, letters, rest.drop letters.length)

/-- Reads a key. -/
def Key.read (s : String) : Except String Key := do
  let (f, c, ls, rest) ← spot "at field start" s s.toList
  if c = some 0 then throw ("character offset is zero: invalid field specification " ++ Quoting.curly s)
  let start : Spot := ⟨f - 1, c.getD 1 - 1⟩
  match rest with
  | [] => return ⟨start, none, ls.filter (· != 'b'), ls.contains 'b', ls.contains 'b'⟩
  | ',' :: more =>
    let (g, d, ms, rest) ← spot "after ','" s more
    if rest.isEmpty then
      return ⟨start, some ⟨g - 1, d.getD 0⟩, (ls ++ ms).filter (· != 'b'), ls.contains 'b', ms.contains 'b'⟩
    else throw ("stray character in field spec: invalid field specification " ++ Quoting.curly s)
  | _ => throw ("stray character in field spec: invalid field specification " ++ Quoting.curly s)

/-- The characters after a number of fields. -/
def afterFields (separator : Option Char) : Nat → List Char → List Char
  | 0, cs => cs
  | n + 1, cs =>
    match separator with
    | some c => afterFields separator n ((cs.dropWhile (· != c)).drop 1)
    | none => afterFields separator n ((cs.dropWhile isBlank).dropWhile fun c => !isBlank c)

/-- The number of characters before the end of a key. -/
def stopOf (separator : Option Char) (k : Key) (stop : Spot) (cs : List Char) : Nat :=
  let trim (cs : List Char) : List Char := if k.trimStop then cs.dropWhile isBlank else cs
  if stop.characters = 0 then
    match separator with
    | some c =>
      let rest := afterFields separator stop.fields cs
      cs.length - (rest.dropWhile (· != c)).length
    | none => cs.length - (afterFields separator (stop.fields + 1) cs).length
  else
    let rest := trim (afterFields separator stop.fields cs)
    min cs.length (cs.length - rest.length + stop.characters)

/-- The characters of a line that are a key. -/
def Key.part (separator : Option Char) (k : Key) (cs : List Char) : List Char :=
  let rest := afterFields separator k.start.fields cs
  let rest := if k.trimStart then rest.dropWhile isBlank else rest
  let first := min cs.length (cs.length - rest.length + k.start.characters)
  let last := match k.stop with
    | some stop => stopOf separator k stop cs
    | none => cs.length
  (cs.take last).drop first

/-! ### Comparing -/

/-- A number in a line: its sign, and its digits before and after the point. -/
structure Digits where
  negative : Bool
  whole : List Char
  after : List Char

/-- The number at the beginning of some characters. -/
def Digits.of (cs : List Char) : Digits :=
  let cs := cs.dropWhile isBlank
  let negative := cs.head? = some '-'
  let cs := if negative then cs.drop 1 else cs
  let whole := cs.takeWhile Char.isDigit
  let after := match cs.drop whole.length with
    | '.' :: ds => ds.takeWhile Char.isDigit
    | _ => []
  ⟨negative, whole.dropWhile (· = '0'), (after.reverse.dropWhile (· = '0')).reverse⟩

/-- Whether a number is zero. -/
def Digits.isZero (d : Digits) : Bool := d.whole.isEmpty && d.after.isEmpty

/-- Compares two numbers without their signs. -/
def Digits.compareSizes (a b : Digits) : Ordering :=
  ((compare a.whole.length b.whole.length).then
    (compare (String.ofList a.whole) (String.ofList b.whole))).then
    (compare (String.ofList a.after) (String.ofList b.after))

/-- Compares two numbers. -/
def Digits.compare (a b : Digits) : Ordering :=
  let na := a.negative && !a.isZero
  let nb := b.negative && !b.isZero
  match na, nb with
  | false, false => a.compareSizes b
  | true, true => b.compareSizes a
  | true, false => .lt
  | false, true => .gt

/-- The place of a unit after a number among all units. -/
def unitOrder (cs : List Char) : Int :=
  let d := Digits.of cs
  if d.isZero then 0
  else
    let rest := (cs.dropWhile isBlank).dropWhile fun c => c.isDigit || c = '-' || c = '.'
    let place : Int := match rest.head? with
      | some c => ("kKMGTPEZYRQ".toList.idxOf? c).map (fun n => ((max n 1 : Nat) : Int)) |>.getD 0
      | none => 0
    if d.negative then -place else place

/-- The place of a month in the year, by its first letters. -/
def monthOrder (cs : List Char) : Nat :=
  let word := ((cs.dropWhile isBlank).take 3).map Char.toUpper
  match ["JAN", "FEB", "MAR", "APR", "MAY", "JUN", "JUL", "AUG", "SEP", "OCT", "NOV", "DEC"].idxOf?
      (String.ofList word) with
  | some n => n + 1
  | none => 0

/-- Compares quantities, of which there may be none at the beginning of a line. -/
def compareQuantities (a b : List Char) : Ordering :=
  let rank (q : Option (Quantity × List Char)) : Nat := match q with
    | none => 0
    | some (.undefined _, _) => 1
    | some (.infinite true, _) => 2
    | some (.finite _, _) => 3
    | some (.infinite false, _) => 4
  let p := Quantity.read? a
  let q := Quantity.read? b
  match p, q with
  | some (.finite f, _), some (.finite g, _) => if f.less g then .lt else if g.less f then .gt else .eq
  | _, _ => compare (rank p) (rank q)

/-- The weight of a character where versions are compared. -/
def versionWeight (c : Option Char) : Int :=
  match c with
  | none => -1
  | some c =>
    if c.isDigit then 0 else if c.isAlpha then c.toNat else if c = '~' then -2 else c.toNat + 256

/-- Compares the characters of versions up to their next digits, and says what is left. -/
def compareLetters : (fuel : Nat) → List Char → List Char → Ordering × List Char × List Char
  | 0, a, b => (.eq, a, b)
  | n + 1, a, b =>
    let more (cs : List Char) : Bool := cs.head?.any fun c => !c.isDigit
    if more a || more b then
      match compare (versionWeight a.head?) (versionWeight b.head?) with
      | .eq => compareLetters n (a.drop 1) (b.drop 1)
      | o => (o, a, b)
    else (.eq, a, b)

/-- Compares versions part by part. -/
def compareParts : (fuel : Nat) → List Char → List Char → Ordering
  | 0, _, _ => .eq
  | n + 1, a, b =>
    if a.isEmpty && b.isEmpty then .eq
    else
      match compareLetters (a.length + b.length + 1) a b with
      | (.eq, a, b) =>
        let da := (a.takeWhile Char.isDigit).dropWhile (· = '0')
        let db := (b.takeWhile Char.isDigit).dropWhile (· = '0')
        ((compare da.length db.length).then (compare (String.ofList da) (String.ofList db))).then
          (compareParts n (a.dropWhile Char.isDigit) (b.dropWhile Char.isDigit))
      | (o, _, _) => o

/-- The number of characters at the end of a name that are endings after points. -/
def endingsLength (cs : List Char) : Nat :=
  -- an ending is a point, a letter, and letters or digits
  let rec go : (fuel : Nat) → (taken : Nat) → List Char → Nat
    | 0, taken, _ => taken
    | n + 1, taken, reversed =>
      let word := reversed.takeWhile fun c => c.isAlphanum || c = '~'
      match reversed.drop word.length with
      | '.' :: rest =>
        if word.getLast?.any (fun c => c.isAlpha || c = '~') then go n (taken + word.length + 1) rest else taken
      | _ => taken
  go (cs.length + 1) 0 cs.reverse

/-- Compares versions. -/
def compareVersions (a b : List Char) : Ordering :=
  let rank (cs : List Char) : Nat :=
    if cs = ['.'] then 1 else if cs = ['.', '.'] then 2 else if cs.head? = some '.' then 3 else 4
  let fuel := a.length + b.length + 1
  if a.isEmpty || b.isEmpty then compare a.length b.length
  else
    (compare (rank a) (rank b)).then
      ((compareParts fuel (a.take (a.length - endingsLength a)) (b.take (b.length - endingsLength b))).then
        (compareParts fuel a b))

/-- Compares keys as letters say. -/
def compareKeys (letters : List Char) (a b : List Char) : Ordering :=
  let tidy (cs : List Char) : List Char :=
    let cs := if letters.contains 'd' then cs.filter fun c => isBlank c || c.isAlphanum else cs
    let cs := if letters.contains 'i' then cs.filter fun c => ' ' ≤ c && c ≤ '~' else cs
    if letters.contains 'f' then cs.map Char.toUpper else cs
  if letters.contains 'n' then (Digits.of a).compare (Digits.of b)
  else if letters.contains 'h' then
    (compare (unitOrder a) (unitOrder b)).then ((Digits.of a).compare (Digits.of b))
  else if letters.contains 'g' then compareQuantities a b
  else if letters.contains 'M' then compare (monthOrder a) (monthOrder b)
  else if letters.contains 'V' then compareVersions (tidy a) (tidy b)
  else compare (String.ofList (tidy a)) (String.ofList (tidy b))

end Sorting

/-- How lines are compared. -/
structure Sorting where
  keys : List Sorting.Key
  separator : Option Char
  /-- The last comparison is turned round. -/
  reversed : Bool
  stable : Bool
  unique : Bool

namespace Sorting

/-- A line with its keys. -/
structure Keyed where
  line : String
  parts : List (List Char × List Char)

/-- A line with its keys and the letters that say how these are compared. -/
def keyed (s : Sorting) (line : String) : Keyed :=
  ⟨line, s.keys.map fun k => (k.letters, k.part s.separator line.toList)⟩

/-- Compares two lines by their keys. -/
def compareByKeys (s : Sorting) (a b : Keyed) : Ordering :=
  if s.keys.isEmpty then compare a.line b.line
  else
    (a.parts.zip b.parts).foldl (fun result ((letters, x), (_, y)) =>
      match result with
      | .eq =>
        let o := compareKeys letters x y
        if letters.contains 'r' then o.swap else o
      | o => o) .eq

/-- Compares two lines. -/
def compareLines (s : Sorting) (a b : Keyed) : Ordering :=
  match s.compareByKeys a b with
  | .eq =>
    if s.stable || s.unique then .eq
    else if s.reversed then compare b.line a.line
    else compare a.line b.line
  | o => o

/-- Some lines without those that are the same as the one before them. -/
def withoutRepeats (same : Keyed → Keyed → Bool) (ls : List Keyed) : List Keyed :=
  (ls.foldl (fun (kept : List Keyed) l =>
    match kept with
    | p :: _ => if same p l then kept else l :: kept
    | [] => [l]) []).reverse

/-- The first line that does not come after the one before it, and its number. -/
def disorder? (s : Sorting) (n : Nat) : List Keyed → Option (Nat × String)
  | a :: b :: ls =>
    let o := s.compareLines a b
    if o = .gt || (s.unique && o = .eq) then some (n + 1, b.line) else disorder? s (n + 1) (b :: ls)
  | _ => none

/-- Two lists of lines in order put together. -/
def merged (s : Sorting) : (fuel : Nat) → List Keyed → List Keyed → List Keyed
  | 0, a, b => a ++ b
  | _ + 1, [], b => b
  | _ + 1, a, [] => a
  | n + 1, a :: as, b :: bs =>
    if (s.compareLines a b).isLE then a :: merged s n as (b :: bs) else b :: merged s n (a :: as) bs

/-- What a key is compared by if it has no letters of its own. -/
def inheriting (letters : List Char) (k : Key) : Key :=
  if k.letters.isEmpty && !k.trimStart && !k.trimStop then
    { k with
      letters := letters.filter (· != 'b')
      trimStart := letters.contains 'b'
      trimStop := letters.contains 'b' }
  else k

/-- Letters that cannot be together. -/
def incompatible? (letters : List Char) : Option String :=
  let kinds := "ghMnRV".toList.filter letters.contains
  let kinds := if letters.contains 'd' || letters.contains 'i' then
      (if kinds.all fun c => c = 'R' || c = 'V' then kinds else "di".toList.filter letters.contains ++ kinds)
    else kinds
  if kinds.length > 1 then some (String.ofList kinds) else none

end Sorting

/-- Sorts lines. -/
def sort : Utility := fun _ name args =>
  withOptions { letters := "bcCdfghimMnrRsuVz", valued := "koStTp", optional := "KW", wordly := "pKW", words := [
        ("ignore-leading-blanks", 'b'), ("check", 'K'), ("dictionary-order", 'd'), ("ignore-case", 'f'),
        ("general-numeric-sort", 'g'), ("ignore-nonprinting", 'i'), ("key", 'k'), ("merge", 'm'),
        ("month-sort", 'M'), ("numeric-sort", 'n'), ("human-numeric-sort", 'h'), ("version-sort", 'V'),
        ("random-sort", 'R'), ("sort", 'W'), ("output", 'o'), ("reverse", 'r'), ("stable", 's'),
        ("buffer-size", 'S'), ("field-separator", 't'), ("temporary-directory", 'T'), ("unique", 'u'),
        ("zero-terminated", 'z'), ("parallel", 'p')] } true 2 name args
    fun o => do
    let keys := (o.given.filter (·.1 = 'k')).map fun g => Sorting.Key.read g.2
    let kind : List Char := match o.value? 'W' with
      | some "general-numeric" => ['g']
      | some "human-numeric" => ['h']
      | some "month" => ['M']
      | some "numeric" => ['n']
      | some "version" => ['V']
      | _ => []
    let letters := (o.given.map (·.1)).filter Sorting.orderLetters.contains ++ kind
    let read := keys.filterMap Except.toOption
    let fault := keys.findSome? fun
      | .error m => some m
      | .ok _ => none
    let clash := ((letters :: read.map (·.letters)).findSome? Sorting.incompatible?).map fun s =>
      "options '-" ++ s ++ "' are incompatible"
    let tab : Except String (Option Char) := match o.value? 't' with
      | none => .ok none
      | some "\\0" => .ok (some '\x00')
      | some "" => .error "empty tab"
      | some t => if t.length = 1 then .ok t.toList.head? else .error ("multi-character tab " ++ Quoting.curly t)
    match fault, tab, clash with
    | some m, _, _ => fail name m 2
    | _, .error m, _ => fail name m 2
    | _, _, some m => fail name m 2
    | none, .ok separator, none =>
      let plain := letters.filter fun c => c != 'r'
      let whole : Sorting.Key := ⟨⟨0, 0⟩, none, letters.filter (· != 'b'), letters.contains 'b', letters.contains 'b'⟩
      let s : Sorting := {
        keys := if read.isEmpty then (if plain.isEmpty && !letters.contains 'r' then [] else [whole])
          else read.map (Sorting.inheriting letters)
        separator := separator
        reversed := letters.contains 'r'
        stable := o.has 's'
        unique := o.has 'u' }
      let finish := if o.has 'z' then '\x00' else '\n'
      let paths := orInput o.operands
      let quiet := o.has 'C' || o.value? 'K' = some "quiet" || o.value? 'K' = some "silent"
      let checks := o.has 'c' || o.has 'C' || o.has 'K'
      if checks && paths.length > 1 then
        fail name ("extra operand " ++ Quoting.always ((paths[1]?).getD "") ++ " not allowed with -" ++
          (if quiet then "C" else "c")) 2
      else
        let texts ← Sh.collect paths fun path => do
          match ← Sh.contents path with
          | .ok text => return some ((piecesOf finish text).map s.keyed)
          | .error .isDirectory =>
            tell name ("read failed: " ++ Quoting.name path ++ ": Is a directory")
            return none
          | .error r =>
            tell name ((if checks then "open failed: " else "cannot read: ") ++ Quoting.name path ++ ": " ++ r.reason)
            return none
        if texts.any Option.isNone then return 2
        else if checks then
          match s.disorder? 1 (texts.filterMap id).flatten with
          | some (n, l) =>
            if !quiet then tell name (paths.headD "-" ++ ":" ++ toString n ++ ": disorder: " ++ l)
            return 1
          | none => return 0
        else
          let lists := texts.filterMap id
          let sorted :=
            if o.has 'm' then
              lists.foldl (fun (all : List Sorting.Keyed) ls => s.merged (all.length + ls.length + 1) all ls) []
            else lists.flatten.mergeSort fun a b => (s.compareLines a b).isLE
          let sorted := if s.unique then Sorting.withoutRepeats (fun a b => s.compareByKeys a b = .eq) sorted
            else sorted
          let text := joinedBy finish (sorted.map (·.line))
          match o.value? 'o' with
          | some path =>
            let status ← printInto name path text .writing fun path reason =>
              "open failed: " ++ Quoting.name path ++ ": " ++ reason
            return 2 * status
          | none =>
            Sh.print text
            match ← Sh.ask (·.refused) with
            | some r =>
              Sh.change fun s => { s with refused := none }
              fail name ("write failed: 'standard output': " ++ r.reason) 2
            | none => return 0

/-! ### Repeated lines -/

/-- The groups of lines that are the same, one after the other. -/
def groups (same : String → String → Bool) (ls : List String) : List (List String) :=
  ((ls.foldl (fun (done : List (List String)) l =>
    match done with
    | (p :: g) :: rest => if same p l then (l :: p :: g) :: rest else [l] :: (p :: g) :: rest
    | rest => [l] :: rest) []).map List.reverse).reverse

/-- The arguments of `uniq` with old ways to skip fields and characters made options. -/
def skipsAsOptions (args : List String) : List String :=
  args.flatMap fun a =>
    match a.toList with
    | '-' :: c :: cs => if (c :: cs).all Char.isDigit then ["-f", String.ofList (c :: cs)] else [a]
    | '+' :: c :: cs => if (c :: cs).all Char.isDigit then ["-s", String.ofList (c :: cs)] else [a]
    | _ => [a]

/-- Prints one of several lines that are the same. -/
def uniq : Utility := fun _ name args =>
  withOptions { letters := "cdDiuz", valued := "fsw", optional := "GA", wordly := "GA", words := [("count", 'c'),
      ("repeated", 'd'), ("all-repeated", 'A'), ("group", 'G'), ("ignore-case", 'i'), ("unique", 'u'),
      ("skip-fields", 'f'), ("skip-chars", 's'), ("check-chars", 'w'), ("zero-terminated", 'z')] } true 1
    name (skipsAsOptions args) fun o => do
    let number (c : Char) (what : String) : Except String (Option Nat) :=
      match o.value? c with
      | none => .ok none
      | some s => match natural? s with
        | some n => .ok (some n)
        | none => .error (Quoting.name s ++ ": invalid number of " ++ what)
    let all := o.has 'D' || o.has 'A'
    let grouping := o.value? 'G'
    match number 'f' "fields to skip", number 's' "bytes to skip", number 'w' "bytes to compare" with
    | .error m, _, _ => fail name m 1
    | _, .error m, _ => fail name m 1
    | _, _, .error m => fail name m 1
    | .ok fields, .ok characters, .ok most =>
      let methods := ["none", "prepend", "separate"]
      let manners := ["prepend", "append", "separate", "both"]
      let method := match o.value? 'A' with
        | none => "none"
        | some "" => "none"
        | some m => m
      let manner := match grouping with
        | some "" => "separate"
        | some m => m
        | none => "separate"
      if !methods.contains method then invalidChoice name "--all-repeated" method methods
      else if !manners.contains manner then invalidChoice name "--group" manner manners
      else if grouping.isSome && (o.has 'c' || o.has 'd' || all || o.has 'u') then
        misused name "--group is mutually exclusive with -c/-d/-D/-u" 1
      else if all && o.has 'c' then
        misused name "printing all duplicated lines and repeat counts is meaningless" 1
      else
        let skipField (cs : List Char) : List Char := (cs.dropWhile isBlank).dropWhile fun c => !isBlank c
        let part (l : String) : List Char :=
          let cs := Nat.repeat skipField (fields.getD 0) l.toList
          let cs := cs.drop (characters.getD 0)
          let cs := match most with
            | some n => cs.take n
            | none => cs
          if o.has 'i' then cs.map Char.toUpper else cs
        match o.operands with
        | _ :: _ :: extra :: _ => extraOperand name extra
        | operands =>
          let source := operands.headD "-"
          match ← Sh.contents source with
          | .error .isDirectory => fail name ("error reading " ++ Quoting.always source ++ ": Is a directory") 1
          | .error r => fail name (plainComplaint source r.reason) 1
          | .ok text =>
            let finish := if o.has 'z' then '\x00' else '\n'
            let gs := groups (fun a b => part a = part b) (piecesOf finish text)
            let gs := gs.filter fun g =>
              (!(o.has 'd' || all) || g.length > 1) && (!o.has 'u' || g.length = 1)
            let row (g : List String) : List String :=
              if all then g
              else if o.has 'c' then [Format.padded 7 false (toString g.length) ++ " " ++ g.headD ""]
              else [g.headD ""]
            let between (before after : Bool) : List String :=
              (gs.zipIdx.flatMap fun (g, i) => (if before || i > 0 then [""] else []) ++ g) ++
                if after && !gs.isEmpty then [""] else []
            let rows := match grouping with
              | some _ => between (manner = "prepend" || manner = "both") (manner = "append" || manner = "both")
              | none =>
                if all && method = "prepend" then between true false
                else if all && method = "separate" then between false false
                else gs.flatMap row
            let out := joinedBy finish rows
            match operands with
            | [_, target] =>
              if target = "-" then
                Sh.print out
                refusedAtEnd name 0
              else printInto name target out .writing plainComplaint
            | _ =>
              Sh.print out
              refusedAtEnd name 0

/-! ### Other orders -/

/-- A permutation of some members, of a number. -/
def permuted {α : Type} : (fuel seed : Nat) → List α → List α
  | 0, _, xs => xs
  | n + 1, seed, xs =>
    match xs[seed / 65536 % xs.length]? with
    | some x => x :: permuted n ((seed * 6364136223846793005 + 1442695040888963407) % Nat.pow 2 64)
        (xs.eraseIdx (seed / 65536 % xs.length))
    | none => xs

/-- Prints lines in an order that is left to chance. -/
def shuf : Utility := fun _ name args =>
  withOptions { letters := "erz", valued := "inoR", wordly := "R", words := [("echo", 'e'), ("input-range", 'i'),
      ("head-count", 'n'), ("output", 'o'), ("random-source", 'R'), ("repeat", 'r'), ("zero-terminated", 'z')] } true 1
    name args fun o => do
    let finish := if o.has 'z' then '\x00' else '\n'
    let seed ← Sh.ask fun s => s.seed * 7919 + s.nextProcess * 104729 + 12345
    let most : Except String (Option Nat) := match o.value? 'n' with
      | none => .ok none
      | some s => match natural? s with
        | some n => .ok (some n)
        | none => .error ("invalid line count: " ++ Quoting.curly s)
    let range : Except String (Option (List String)) := match o.value? 'i' with
      | none => .ok none
      | some s => match s.splitOn "-" with
        | [a, b] => match natural? a, natural? b with
          | some a, some b =>
            if a ≤ b + 1 then .ok (some ((List.range (min (b + 1 - a) 1000000)).map fun k => toString (a + k)))
            else .error ("invalid input range: " ++ Quoting.curly s)
          | _, _ => .error ("invalid input range: " ++ Quoting.curly s)
        | _ => .error ("invalid input range: " ++ Quoting.curly s)
    match most, range with
    | .error m, _ => fail name m 1
    | _, .error m => fail name m 1
    | .ok most, .ok range =>
      let read : Sh (Except Nat (List String)) := do
        match range with
        | some ls =>
          match o.operands with
          | extra :: _ => return .error (← extraOperand name extra)
          | [] => return .ok ls
        | none =>
          if o.has 'e' then return .ok o.operands
          else match o.operands with
            | _ :: extra :: _ => return .error (← extraOperand name extra)
            | operands =>
              match ← Sh.contents (operands.headD "-") with
              | .ok text => return .ok (piecesOf finish text)
              | .error r => return .error (← fail name (plainComplaint (operands.headD "-") r.reason) 1)
      match ← read with
      | .error status => return status
      | .ok ls =>
        if o.has 'r' && ls.isEmpty && most != some 0 then fail name "no lines to repeat" 1
        else
          let mixed :=
            if o.has 'r' then
              (List.range (most.getD 10000)).map fun k => (ls[(seed * (k + 1) * 6364136223846793005 / 65536) % ls.length]?).getD ""
            else permuted ls.length seed ls
          let mixed := match most with
            | some n => mixed.take n
            | none => mixed
          let text := joinedBy finish mixed
          match o.value? 'o' with
          | some path => printInto name path text .writing plainComplaint
          | none =>
            Sh.print text
            refusedAtEnd name 0

/-- Something that comes before others: how many come before it, and those it comes before, the
    last one that was named first. -/
structure Precedent where
  before : Nat
  after : List String

/-- The things in an order in which none comes before one that it comes after, as far as there
    is one. -/
def ordered : (fuel : Nat) → (waiting : List String) → List (String × Precedent) → List String
  | 0, _, _ => []
  | _ + 1, [], _ => []
  | n + 1, x :: waiting, table =>
    let after := ((table.lookup x).map (·.after)).getD []
    let (waiting, table) := after.foldl (fun (waiting, table) y =>
      let left := ((table.lookup y).map (·.before)).getD 1 - 1
      (if left = 0 then waiting ++ [y] else waiting,
        table.map fun (z, (p : Precedent)) => if z = y then (z, { p with before := left }) else (z, p)))
      ((waiting, table) : List String × List (String × Precedent))
    x :: ordered n waiting table

/-- A loop among things each of which some other one comes before: its members, of which the
    last one comes before the first. Going back from a thing, each is linked to the one after it. -/
def loop? (table : List (String × Precedent)) : (fuel : Nat) → (last : Option String) →
    (links : List (String × String)) → (names : List String) → Option (List String)
  | 0, _, _, _ => none
  | n + 1, last, links, [] => loop? table n last links (table.map (·.1))
  | n + 1, last, links, x :: xs =>
    match table.lookup x, last with
    | none, _ => loop? table n last links xs
    | some _, none => loop? table n (some x) links xs
    | some p, some l =>
      if !p.after.contains l then loop? table n last links xs
      else match links.lookup x with
        | none => loop? table n (some x) ((x, l) :: links) xs
        | some _ =>
          let rec path : Nat → String → List String
            | 0, _ => []
            | k + 1, y => if y = x then [y] else y :: path k ((links.lookup y).getD x)
          some (path (links.length + 1) l)

/-- The things in an order. Where there is a loop, what closes it is left out. -/
def orderedAll : (fuel : Nat) → List (String × Precedent) → List (Except (List String) String)
  | 0, _ => []
  | n + 1, table =>
    let ready := (table.filter fun (_, p) => p.before = 0).map (·.1)
    if table.isEmpty then []
    else if ready.isEmpty then
      let size := table.length + 2
      match loop? table (2 * size * size) none [] [] with
      | none => []
      | some inLoop =>
        let first := inLoop.headD ""
        let last := inLoop.getLast?.getD ""
        let table := table.map fun (x, p) =>
          let p := if x = last then { p with after := p.after.erase first } else p
          (x, if x = first then { p with before := p.before - 1 } else p)
        .error inLoop :: orderedAll n table
    else
      let order := ordered (table.length + 1) ready table
      let rest := (table.filter fun (x, _) => !order.contains x).map fun (x, p) =>
        (x, { p with before := (table.foldl (fun n (y, q) =>
          if order.contains y then n else n + (q.after.filter (· = x)).length) 0) })
      order.map .ok ++ orderedAll n rest

/-- Prints things in an order that pairs of them ask for. -/
def tsort : Utility := fun _ name args =>
  withOptions {} true 1 name args fun o => do
    match o.operands with
    | _ :: extra :: _ => extraOperand name extra
    | operands =>
      let path := operands.headD "-"
      match ← Sh.contents path with
      | .error .isDirectory => fail name (Quoting.name path ++ ": read error: Is a directory") 1
      | .error r => fail name (plainComplaint path r.reason) 1
      | .ok text =>
        let words := (((text.toList.splitOnP fun c => isBlank c || c = '\n').filter (· != [])).map String.ofList)
        let rec pairs : List String → Option (List (String × String))
          | [] => some []
          | [_] => none
          | a :: b :: ws => (pairs ws).map ((a, b) :: ·)
        match pairs words with
        | none => fail name (Quoting.name path ++ ": input contains an odd number of tokens") 1
        | some ps =>
          let names := words.eraseDups.mergeSort (· ≤ ·)
          let proper := ps.filter fun (a, b) => a != b
          let table := names.map fun x => (x, (⟨(proper.filter fun p => p.2 = x).length,
            ((proper.filter fun p => p.1 = x).map (·.2)).reverse⟩ : Precedent))
          let order := orderedAll (2 * words.length + 2) table
          Sh.each order fun
            | .ok x => Sh.print (x ++ "\n")
            | .error inLoop => do
              tell name (Quoting.name path ++ ": input contains a loop:")
              Sh.each inLoop fun x => tell name x
          refusedAtEnd name (if order.any fun r => !r.isOk then 1 else 0)

end Retrace.Unix.Utility
