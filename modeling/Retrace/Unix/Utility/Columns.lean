import Retrace.Unix.Utility.Options

/-!
# Parts of lines

What selects parts of lines, puts lines side by side, or compares two files whose
lines are in order. The parts of a line are its characters, or the fields
between its delimiters, and are counted from one.
-/

namespace Retrace.Unix.Utility

/-! ### Selecting -/

/-- A range of positions; without an end it goes on. -/
structure Range where
  first : Nat
  last : Option Nat

namespace Range

/-- Whether a position is in a range. -/
def has (r : Range) (n : Nat) : Bool :=
  r.first ≤ n && r.last.all (n ≤ ·)

/-- Ranges in order, those put together that overlap. -/
def merged (rs : List Range) : List Range :=
  let sorted := rs.mergeSort fun a b => a.first ≤ b.first
  (sorted.foldl (fun (done : List Range) r =>
    match done with
    | p :: more =>
      if p.last.all (r.first ≤ ·) then
        ⟨p.first, match p.last, r.last with
          | some a, some b => some (max a b)
          | _, _ => none⟩ :: more
      else r :: p :: more
    | [] => [r]) []).reverse

/-- The ranges of what is in none of some ranges that are in order. -/
def complement (next : Nat) : List Range → List Range
  | [] => [⟨next, none⟩]
  | r :: rs =>
    (if next < r.first then [⟨next, some (r.first - 1)⟩] else []) ++
      match r.last with
      | some n => complement (n + 1) rs
      | none => []

end Range

/-- Reads ranges of fields or of characters. -/
def ranges (fields : Bool) (s : String) : Except String (List Range) :=
  let zero := if fields then "fields are numbered from 1" else "byte/character positions are numbered from 1"
  let number (u : String) : Except String (Option Nat) :=
    if u = "" then .ok none
    else match natural? u with
      | some 0 => .error zero
      | some n => .ok (some n)
      | none =>
        .error (if fields then "invalid field value " ++ Quoting.curly u
          else "invalid byte/character position " ++ Quoting.curly u)
  (((s.toList.map fun c => if isBlank c then ',' else c).splitOn ',').map String.ofList).mapM fun t =>
    match t.splitOn "-" with
    | [u] => do
      match ← number u with
      | some n => .ok ⟨n, some n⟩
      | none => .error zero
    | [u, v] => do
      let a ← number u
      let b ← number v
      match a, b with
      | none, none => .error "invalid range with no endpoint: -"
      | a, some b => if b < a.getD 1 then .error "invalid decreasing range" else .ok ⟨a.getD 1, some b⟩
      | some a, none => .ok ⟨a, none⟩
    | _ => .error (if fields then "invalid field range" else "invalid byte or character range")

/-- The characters of a line that are in some ranges, with a text between the ranges. -/
def selected (joint : String) (rs : List Range) (cs : List Char) : String :=
  joint.intercalate ((rs.map fun r =>
    String.ofList ((match r.last with
      | some n => cs.take n
      | none => cs).drop (r.first - 1))).filter (· != ""))

/-- Prints parts of lines. -/
def cut : Utility := fun _ name args =>
  withOptions { letters := "nsz", valued := "bcdfO", wordly := "O", words := [("bytes", 'b'), ("characters", 'c'), ("fields", 'f'),
      ("delimiter", 'd'), ("only-delimited", 's'), ("output-delimiter", 'O'), ("complement", 'C'),
      ("zero-terminated", 'z')] } true 1 name args fun o => do
    let lists := o.given.filter fun g => g.1 = 'b' || g.1 = 'c' || g.1 = 'f'
    match lists with
    | [] => misused name "you must specify a list of bytes, characters, or fields" 1
    | _ :: _ :: _ => misused name "only one list may be specified" 1
    | [(kind, list)] =>
      let byFields := kind = 'f'
      let delimiter := match o.value? 'd' with
        | some "" => "\x00"
        | some d => d
        | none => "\t"
      if delimiter.length > 1 then misused name "the delimiter must be a single character" 1
      else if !byFields && (o.value? 'd').isSome then
        misused name "an input delimiter may be specified only when operating on fields" 1
      else if !byFields && o.has 's' then
        misused name ("suppressing non-delimited lines makes sense\n\tonly when operating on fields") 1
      else match ranges byFields list with
        | .error m => misused name m 1
        | .ok rs =>
          let rs := Range.merged rs
          let rs := if o.has 'C' then Range.complement 1 rs else rs
          let finish := if o.has 'z' then '\x00' else '\n'
          let joint := (o.value? 'O').getD (if byFields then delimiter else "")
          let line (l : String) : List String :=
            if byFields then
              if l.toList.contains (delimiter.toList.headD '\x00') then
                [joint.intercalate (((l.splitOn delimiter).zipIdx.filter fun (_, i) =>
                  rs.any (·.has (i + 1))).map (·.1))]
              else if o.has 's' then [] else [l]
            else [selected joint rs l.toList]
          let status ← eachFlow name o.operands plainComplaint fun _ text => do
            Sh.print (joinedBy finish ((piecesOf finish text).flatMap line))
            return 0
          refusedAtEnd name status

/-! ### Side by side -/

/-- The texts a list of delimiters stands for. -/
def delimiters : List Char → List String
  | '\\' :: c :: cs =>
    (match c with
      | 'n' => "\n"
      | 't' => "\t"
      | 'b' => "\x08"
      | 'f' => "\x0c"
      | 'r' => "\r"
      | 'v' => "\x0b"
      | '0' => ""
      | c => String.singleton c) :: delimiters cs
  | c :: cs => String.singleton c :: delimiters cs
  | [] => []

/-- Texts with delimiters between them, which are used in turn. -/
def delimited (ds : List String) (texts : List String) : String :=
  let rec go (n : Nat) : List String → String
    | [] => ""
    | [t] => t
    | t :: ts => t ++ (ds[n % ds.length]?).getD "" ++ go (n + 1) ts
  go 0 texts

/-- Rows of lines taken from lists by turns, until all lists are used up. Columns with the same
    number take from the same list. -/
def rows (columns : List Nat) : (fuel : Nat) → List (List String) → List (List String)
  | 0, _ => []
  | n + 1, lists =>
    if lists.all List.isEmpty then []
    else
      let (row, lists) := columns.foldl (fun (row, lists) k =>
        match (lists[k]?).getD [] with
        | l :: _ => (l :: row, lists.modify k (·.drop 1))
        | [] => ("" :: row, lists)) (([], lists) : List String × List (List String))
      row.reverse :: rows columns n lists

/-- Puts the lines of files side by side. -/
def paste : Utility := fun _ name args =>
  withOptions { letters := "sz", valued := "d", words := [("delimiters", 'd'), ("serial", 's'),
      ("zero-terminated", 'z')] } true 1 name args fun o => do
    let given := (o.value? 'd').getD "\t"
    if (given.toList.reverse.takeWhile (· = '\\')).length % 2 = 1 then
      fail name ("delimiter list ends with an unescaped backslash: " ++ given) 1
    else
      let ds := if given = "" then [""] else delimiters given.toList
      let finish := if o.has 'z' then '\x00' else '\n'
      let paths := orInput o.operands
      let read (path : String) : Sh (Option (List String)) := do
        match ← Sh.contents path with
        | .ok text => return some (piecesOf finish text)
        | .error r =>
          tell name (plainComplaint path r.reason)
          return none
      if o.has 's' then
        let statuses ← Sh.collect paths fun path => do
          match ← read path with
          | some ls =>
            Sh.print (delimited ds ls ++ String.singleton finish)
            return 0
          | none => return 1
        refusedAtEnd name (statuses.foldl max 0)
      else
        let distinct := paths.eraseDups
        let columns := paths.zipIdx.map fun (p, i) => if p = "-" then distinct.idxOf p else distinct.length + i
        let lists ← Sh.collect (distinct.map (fun p => (p, p == "-")) ++ paths.map (fun p => (p, p != "-")))
          fun (path, isNeeded) => if isNeeded then read path else pure (some [])
        if lists.any Option.isNone then return 1
        else
          let lists := lists.filterMap id
          let all := rows columns ((lists.map List.length).foldl (· + ·) 1) lists
          Sh.print (joinedBy finish (all.map (delimited ds)))
          refusedAtEnd name 0

/-! ### Common lines -/

/-- The lines of two files that are in order, with the column each belongs to. -/
def merging : (fuel : Nat) → (a b : List String) → List (Nat × String)
  | 0, _, _ => []
  | _ + 1, [], bs => bs.map (2, ·)
  | _ + 1, as, [] => as.map (1, ·)
  | n + 1, a :: as, b :: bs =>
    match compare a b with
    | .lt => (1, a) :: merging n as (b :: bs)
    | .gt => (2, b) :: merging n (a :: as) bs
    | .eq => (3, a) :: merging n as bs

/-- Whether the lines of a file are in order. -/
def isOrdered : List String → Bool
  | a :: b :: ls => a ≤ b && isOrdered (b :: ls)
  | _ => true

/-- The lines that are in order before the first one that is not. -/
def orderedPart : List String → List String
  | a :: b :: ls => if a ≤ b then a :: orderedPart (b :: ls) else [a]
  | ls => ls

/-- Merged lines up to the last one of a number of lines of a file. -/
def upToLast (file : Nat) : (count : Nat) → List (Nat × String) → List (Nat × String)
  | 0, _ => []
  | _, [] => []
  | n + 1, (k, l) :: rest => (k, l) :: upToLast file (if k = file || k = 3 then n else n + 1) rest

/-- Compares two files whose lines are in order. -/
def comm : Utility := fun _ name args =>
  withOptions { letters := "123z", valued := "O", wordly := "O", words := [("check-order", 'k'), ("nocheck-order", 'K'),
      ("output-delimiter", 'O'), ("total", 'T'), ("zero-terminated", 'z')] } true 1 name args fun o => do
    match o.operands with
    | [] => missingOperand name none
    | [a] => missingOperand name (some a)
    | [a, b] =>
      let finish := if o.has 'z' then '\x00' else '\n'
      let read (path : String) : Sh (Except Nat (List String)) := do
        match ← Sh.contents path with
        | .ok text => return .ok (piecesOf finish text)
        | .error r => return .error (← fail name (plainComplaint path r.reason) 1)
      match ← read a with
      | .error status => return status
      | .ok as =>
        match ← read b with
        | .error status => return status
        | .ok bs =>
          let all := merging (as.length + bs.length + 1) as bs
          let disordered := [(1, as), (2, bs)].filter fun (_, ls) => !isOrdered ls
          -- where order is asked for, the end is where it ends
          let all := if o.has 'k' then disordered.foldl (fun all (k, ls) => upToLast k (orderedPart ls).length all) all
            else all
          let shown (k : Nat) : Bool := !o.has (Char.ofNat ('0'.toNat + k))
          let joint := match o.value? 'O' with
            | some "" => "\x00"
            | some d => d
            | none => "\t"
          let lead (k : Nat) : String :=
            String.join (((List.range (k - 1)).filter fun i => shown (i + 1)).map fun _ => joint)
          Sh.print (joinedBy finish ((all.filter fun r => shown r.1).map fun r => lead r.1 ++ r.2))
          if o.has 'T' then
            let count (k : Nat) : String := toString (all.filter fun r => r.1 = k).length
            Sh.print (joint.intercalate [count 1, count 2, count 3, "total"] ++ String.singleton finish)
          if disordered.isEmpty || o.has 'K' then refusedAtEnd name 0
          else
            Sh.each disordered fun (k, _) => tell name ("file " ++ toString k ++ " is not in sorted order")
            if !o.has 'k' then tell name "input is not in sorted order"
            return 1
    | _ :: _ :: extra :: _ => extraOperand name extra

/-! ### Joining -/

/-- A field of a joined line: the one that is joined by, or that of a file. -/
inductive JoinedField where
  | joint
  | field (file number : Nat)

/-- How lines are joined. -/
structure Joining where
  first : Nat
  second : Nat
  separator : Option Char
  empty : String
  format : Option (List JoinedField)
  folded : Bool
  /-- The lines are printed that have no partner: of the first file, and of the second one. -/
  alone : Bool × Bool
  together : Bool
  header : Bool

namespace Joining

/-- The fields of a line. -/
def fields (j : Joining) (l : String) : List String :=
  match j.separator with
  | some c => l.splitOn (String.singleton c)
  | none => ((l.toList.splitOnP isBlank).filter (· != [])).map String.ofList

/-- What a line is joined by. -/
def key (j : Joining) (n : Nat) (fs : List String) : String :=
  let k := (fs[n - 1]?).getD ""
  if j.folded then String.ofList (k.toList.map Char.toLower) else k

/-- A line joined from the fields of two, of which one may be missing. -/
def line (j : Joining) (a b : Option (List String)) : String :=
  let key := match a, b with
    | some fs, _ => (fs[j.first - 1]?).getD ""
    | none, some fs => (fs[j.second - 1]?).getD ""
    | none, none => ""
  let filled (s : String) : String := if s = "" then j.empty else s
  let others (n : Nat) (fs : Option (List String)) : List String :=
    ((fs.getD []).zipIdx.filter fun (_, i) => i + 1 != n).map (·.1)
  let joint := match j.separator with
    | some c => String.singleton c
    | none => " "
  let parts := match j.format with
    | none => filled key :: (others j.first a ++ others j.second b).map filled
    | some fs => fs.map fun
      | .joint => filled key
      | .field 1 n => filled (((a.getD [])[n - 1]?).getD "")
      | .field _ n => filled (((b.getD [])[n - 1]?).getD "")
  joint.intercalate parts

/-- The joined lines of two lists whose keys are in order. -/
def lines (j : Joining) : (fuel : Nat) → (as bs : List (List String)) → List String
  | 0, _, _ => []
  | _ + 1, [], bs => if j.alone.2 then bs.map fun b => j.line none (some b) else []
  | _ + 1, as, [] => if j.alone.1 then as.map fun a => j.line (some a) none else []
  | n + 1, a :: as, b :: bs =>
    let ka := j.key j.first a
    let kb := j.key j.second b
    match compare ka kb with
    | .lt => (if j.alone.1 then [j.line (some a) none] else []) ++ lines j n as (b :: bs)
    | .gt => (if j.alone.2 then [j.line none (some b)] else []) ++ lines j n (a :: as) bs
    | .eq =>
      let sameA := (a :: as).takeWhile fun x => j.key j.first x = ka
      let sameB := (b :: bs).takeWhile fun x => j.key j.second x = ka
      (if j.together then sameA.flatMap fun x => sameB.map fun y => j.line (some x) (some y) else []) ++
        lines j n ((a :: as).drop sameA.length) ((b :: bs).drop sameB.length)

/-- The number of the first line whose key comes before that of the line before it. -/
def disorder? (j : Joining) (n : Nat) (number : Nat) : List (List String) → Option Nat
  | a :: b :: ls => if j.key n a ≤ j.key n b then disorder? j n (number + 1) (b :: ls) else some (number + 1)
  | _ => none

/-- The fields of a format. -/
def format? (s : String) : Except String (List JoinedField) :=
  let parts := ((s.toList.map fun c => if isBlank c then ',' else c).splitOn ',').map String.ofList
  parts.mapM fun p =>
    if p = "0" then .ok .joint
    else match p.splitOn "." with
      | [f, n] =>
        if f != "1" && f != "2" then .error ("invalid file number in field spec: " ++ Quoting.curly p)
        else match (natural? n).filter (0 < ·) with
          | some n => .ok (.field (if f = "1" then 1 else 2) n)
          | none => .error ("invalid field number: " ++ Quoting.curly n)
      | _ => .error ("invalid field specifier: " ++ Quoting.curly p)

end Joining

/-- Joins the lines of two files by a field. -/
def join : Utility := fun _ name args =>
  withOptions { letters := "iz", valued := "12jtaveo", words := [("ignore-case", 'i'), ("check-order", 'k'),
      ("nocheck-order", 'K'), ("zero-terminated", 'z'), ("header", 'h')] } true 1 name args fun o => do
    let number (c : Char) : Except String Nat :=
      match (o.value? c).or (o.value? 'j') with
      | none => .ok 1
      | some s => match (natural? s).filter (0 < ·) with
        | some n => .ok n
        | none => .error ("invalid field number: " ++ Quoting.curly s)
    let separator : Except String (Option Char) := match o.value? 't' with
      | none => .ok none
      | some "" => .ok (some '\n')
      | some "\\0" => .ok (some '\x00')
      | some s => if s.length = 1 then .ok s.toList.head? else .error ("multi-character tab " ++ Quoting.curly s)
    let sides := (o.given.filter fun g => g.1 = 'a' || g.1 = 'v').map (·.2)
    match number '1', number '2', separator, (sides.find? fun s => s != "1" && s != "2") with
    | .error m, _, _, _ => fail name m 1
    | _, .error m, _, _ => fail name m 1
    | _, _, .error m, _ => fail name m 1
    | _, _, _, some s => fail name ("invalid field number: " ++ Quoting.curly s) 1
    | .ok first, .ok second, .ok separator, none =>
      let auto := o.value? 'o' = some "auto"
      match match o.value? 'o' with
        | none => Except.ok none
        | some "auto" => .ok none
        | some s => (Joining.format? s).map some with
      | .error m => fail name m 1
      | .ok format =>
        match o.operands with
        | [] => missingOperand name none
        | [a] => missingOperand name (some a)
        | [a, b] =>
          let finish := if o.has 'z' then '\x00' else '\n'
          let read (path : String) : Sh (Except Nat (List String)) := do
            match ← Sh.contents path with
            | .ok text => return .ok (piecesOf finish text)
            | .error r => return .error (← fail name (plainComplaint path r.reason) 1)
          match ← read a with
          | .error status => return status
          | .ok as =>
            match ← read b with
            | .error status => return status
            | .ok bs =>
              let j : Joining := {
                first := first
                second := second
                separator := separator
                empty := (o.value? 'e').getD ""
                format := format
                folded := o.has 'i'
                alone := (sides.contains "1", sides.contains "2")
                together := (o.value? 'v').isNone
                header := o.has 'h' }
              let fa := as.map j.fields
              let fb := bs.map j.fields
              -- without a format of its own each line has the fields of the first lines
              let j := if auto then { j with format := some (.joint ::
                  ((List.range ((fa.headD []).length)).filter (· + 1 != first)).map (fun i => .field 1 (i + 1)) ++
                  ((List.range ((fb.headD []).length)).filter (· + 1 != second)).map fun i => .field 2 (i + 1)) }
                else j
              let (heads, ta, tb) := if j.header then
                  ((if fa.isEmpty && fb.isEmpty then [] else [j.line fa.head? fb.head?]), fa.drop 1, fb.drop 1)
                else ([], fa, fb)
              let shift := if j.header then 2 else 1
              let keysA := ta.map (j.key first)
              let keysB := tb.map (j.key second)
              let allPaired := keysA.all keysB.contains && keysB.all keysA.contains
              let out := j.lines (ta.length + tb.length + 1) ta tb
              let faults := [(a, j.disorder? first shift ta, as), (b, j.disorder? second shift tb, bs)].filterMap
                fun (path, n, ls) => n.map fun n => (path, n, (ls[n - 1]?).getD "")
              if o.has 'K' || faults.isEmpty || (allPaired && !o.has 'k') then
                Sh.print (joinedBy finish (heads ++ out))
                refusedAtEnd name 0
              else
                Sh.print (joinedBy finish (heads ++ out))
                Sh.each faults fun (path, n, l) =>
                  tell name (path ++ ":" ++ toString n ++ ": is not sorted: " ++ l)
                if !o.has 'k' then tell name "input is not in sorted order"
                return 1
        | _ :: _ :: extra :: _ => misused name ("extra operand " ++ Quoting.always extra) 1

end Retrace.Unix.Utility
