import Retrace.Unix.Utility.Options

/-!
# Characters replaced by others

A set of characters is written as a text: characters stand for themselves, some
for others after a backslash, and there are ranges, classes and repetitions
between brackets. The characters of a first set are replaced by those at the
same places in a second one, or are left out; and of several ones in a row only
one may be kept.
-/

namespace Retrace.Unix.Utility

namespace Translation

/-- What a set is made of. -/
inductive Item where
  | chars (cs : List Char)
  /-- A character as often as given, or as often as needed. -/
  | fill (c : Char) (count : Option Nat)
  | named (name : String) (cs : List Char)
  /-- The characters that count as the same as one. -/
  | like (c : Char)

/-- All characters, in order. -/
def allChars : List Char := (List.range 256).map Char.ofNat

/-- The characters of a set that is written, and whether each is protected by a backslash. -/
def unquoted : (fuel : Nat) → List Char → List (Char × Bool)
  | 0, _ => []
  | _ + 1, [] => []
  | _ + 1, ['\\'] => [('\\', false)]
  | n + 1, '\\' :: c :: cs =>
    let named (d : Char) : List (Char × Bool) := (d, true) :: unquoted n cs
    match c with
    | 'a' => named '\x07'
    | 'b' => named '\x08'
    | 'f' => named '\x0c'
    | 'n' => named '\n'
    | 'r' => named '\r'
    | 't' => named '\t'
    | 'v' => named '\x0b'
    | c =>
      let ds := ((c :: cs).take 3).takeWhile fun d => (digitValue? 8 d).isSome
      if ds.isEmpty then named c
      else
        let ds := if numberOf 8 ds > 255 then ds.take 2 else ds
        (Char.ofNat (numberOf 8 ds), true) :: unquoted n ((c :: cs).drop ds.length)
  | n + 1, c :: cs => (c, false) :: unquoted n cs

/-- The octal digits after backslashes that are too many for one character. -/
def ambiguous : (fuel : Nat) → List Char → List (List Char)
  | 0, _ => []
  | n + 1, '\\' :: c :: cs =>
    let ds := ((c :: cs).take 3).takeWhile fun d => (digitValue? 8 d).isSome
    if numberOf 8 ds > 255 then ds :: ambiguous n ((c :: cs).drop 2) else ambiguous n cs
  | n + 1, _ :: cs => ambiguous n cs
  | _ + 1, [] => []

/-- A character as it is shown in a complaint. -/
def shown (c : Char) : String :=
  if ' ' ≤ c && c ≤ '~' then String.singleton c
  else "\\" ++ Fraction.zeroPadded 3 (String.ofList (Nat.toDigits 8 c.toNat))

/-- Whether a character comes next that is not protected. -/
def comes (c : Char) (cs : List (Char × Bool)) : Bool :=
  cs.head? = some (c, false)

/-- The characters up to some sign and a closing bracket, and what is left. -/
def enclosed (sign : Char) : List (Char × Bool) → Option (List Char × List (Char × Bool))
  | [] => none
  | (c, p) :: cs =>
    if c = sign && !p && comes ']' cs then some ([], cs.drop 1)
    else (enclosed sign cs).map fun (inner, rest) => (c :: inner, rest)

/-- A repetition after an opening bracket, and what is left. -/
def repeated? (cs : List (Char × Bool)) : Except String (Option (Item × List (Char × Bool))) :=
  match cs with
  | (c, _) :: ('*', false) :: rest =>
    let digits := rest.takeWhile fun d => d != (']', false)
    let more := rest.drop digits.length
    if more.isEmpty then .ok none
    else
      let ds := digits.map (·.1)
      let base := if ds.head? = some '0' then 8 else 10
      if ds.all fun d => (digitValue? base d).isSome then
        let n := numberOf base ds
        .ok (some (.fill c (if n = 0 then none else some n), more.drop 1))
      else .error ("invalid repeat count " ++ Quoting.curly (String.ofList ds) ++ " in [c*n] construct")
  | _ => .ok none

/-- The items of a set. -/
def items : (fuel : Nat) → List (Char × Bool) → Except String (List Item)
  | 0, _ => .ok []
  | n + 1, cs =>
    match cs with
    | [] => .ok []
    | (a, p) :: rest => do
      let bracketed : Option (Item × List (Char × Bool)) ←
        if a = '[' && !p && rest.length > 1 then
          let sign := (rest.head?.map (·.1)).getD ' '
          let named := if comes ':' rest || comes '=' rest then enclosed sign (rest.drop 1) else none
          match named with
          | none => repeated? rest
          | some (name, left) =>
            if name.isEmpty then
              throw (if sign = ':' then "missing character class name '[::]'"
                else "missing equivalence class character '[==]'")
            else if sign = ':' then
              match classMember? (String.ofList name) with
              | some has => pure (some (Item.named (String.ofList name) (allChars.filter fun c => c.toNat < 128 && has c), left))
              | none =>
                match ← repeated? rest with
                | some r => pure (some r)
                | none => throw ("invalid character class " ++ Quoting.curly (String.ofList name))
            else
              match name with
              | [c] => pure (some (.like c, left))
              | _ =>
                match ← repeated? rest with
                | some r => pure (some r)
                | none => throw (Quoting.name (String.ofList name) ++
                    ": equivalence class operand must be a single character")
        else pure none
      match bracketed with
      | some (item, left) => return item :: (← items n left)
      | none =>
        match rest with
        | ('-', false) :: (b, _) :: more =>
          if b < a then
            throw ("range-endpoints of '" ++ shown a ++ "-" ++ shown b ++
              "' are in reverse collating sequence order")
          else
            let range := (List.range (b.toNat - a.toNat + 1)).map fun k => Char.ofNat (a.toNat + k)
            return .chars range :: (← items n more)
        | rest => return .chars [a] :: (← items n rest)

/-- How many characters an item stands for, if that is known. -/
def Item.length? : Item → Option Nat
  | .chars cs => some cs.length
  | .fill _ n => n
  | .named _ cs => some cs.length
  | .like _ => some 1

/-- How many characters some items stand for, as far as that is known. -/
def lengthOf (is : List Item) : Nat := (is.map fun i => i.length?.getD 0).foldl (· + ·) 0

/-- The characters of items that are as many as those of another set, if they can be. -/
def chars (is : List Item) (length : Nat) : List Char :=
  is.flatMap fun
    | .chars cs => cs
    | .fill c none => List.replicate (length - lengthOf is) c
    | .fill c (some n) => List.replicate n c
    | .named _ cs => cs
    | .like c => [c]

/-- Whether an item stands for capitals or for small letters. -/
def Item.isCase : Item → Bool
  | .named name _ => name = "upper" || name = "lower"
  | _ => false

/-- The places at which capitals or small letters begin among the characters of items. -/
def casePlaces (start length : Nat) (all : List Item) : List Item → List Nat
  | [] => []
  | i :: is =>
    let n := i.length?.getD (length - lengthOf all)
    (if i.isCase then [start] else []) ++ casePlaces (start + n) length all is

/-- What is wrong with two sets, of which the first has been replaced by its complement or not, and
    is replaced by the second or not. -/
def fault? (complemented truncated translating : Bool) (a b : List Item) : Option String :=
  let isFill : Item → Bool := fun i => i.length?.isNone
  let isClass : Item → Bool := fun | .named _ _ => true | _ => false
  let isLike : Item → Bool := fun | .like _ => true | _ => false
  let set := chars a 0
  let length := if complemented then (allChars.filter fun c => !set.contains c).length else set.length
  let second := chars b length
  let same (cs : List Char) : Bool := cs.all fun c => some c = cs.head?
  if a.any isFill then some "the [c*] repeat construct may not appear in string1"
  else if (b.filter isFill).length > 1 then some "only one [c*] repeat construct may appear in string2"
  else if !translating then
    if b.any isFill then some "the [c*] construct may appear in string2 only when translating" else none
  else if b.any isLike then some "[=c=] expressions may not appear in string2 when translating"
  else if b.any fun i => isClass i && !i.isCase then
    some "when translating, the only character classes that may appear in\nstring2 are 'upper' and 'lower'"
  else if b.any Item.isCase &&
      !((casePlaces 0 length b b).all (casePlaces 0 length a a).contains && !complemented) then
    some "misaligned [:upper:] and/or [:lower:] construct"
  else if second.length < length && !truncated && second.isEmpty then
    some "when not truncating set1, string2 must be non-empty"
  else if second.length < length && !truncated && (b.getLast?.any isClass) then
    some "when translating with string1 longer than string2,\nthe latter string must not end with a character class"
  else if complemented && a.any isClass && !(same second) then
    some ("when translating with complemented character classes,\n" ++
      "string2 must map all characters in the domain to one")
  else none

/-- Characters with those of a set left out that follow themselves. -/
def squeezed (has : Char → Bool) (cs : List Char) : List Char :=
  (cs.foldl (fun (kept : List Char) c => if kept.head? = some c && has c then kept else c :: kept) []).reverse

/-- A quick way to tell whether characters are in a set. -/
def membership (set : List Char) : Char → Bool :=
  let table : Array Bool := set.foldl (fun (t : Array Bool) c => t.modify c.toNat fun _ => true) (Array.replicate 256 false)
  fun c => table.getD c.toNat false

/-- A quick way to replace the characters of a set by those of another one. -/
def replacement (set by' : List Char) : Char → Char :=
  let table : Array Char := (set.zip by').foldl (fun (t : Array Char) (c, d) => t.modify c.toNat fun _ => d)
    allChars.toArray
  fun c => table.getD c.toNat c

end Translation

open Translation in
/-- Replaces, removes or squeezes characters. -/
def tr : Utility := fun _ name args =>
  withOptions { letters := "cCdst", words := [("complement", 'c'), ("delete", 'd'), ("squeeze-repeats", 's'),
      ("truncate-set1", 't')] } false 1 name args fun o => do
    let deletes := o.has 'd'
    let squeezes := o.has 's'
    let complemented := o.has 'c' || o.has 'C'
    match o.operands with
    | [] => missingOperand name none
    | first :: more =>
      let translates := !deletes && !more.isEmpty
      if more.isEmpty && deletes = squeezes then
        tell name ("missing operand after " ++ Quoting.curly first)
        Sh.report (if deletes then "Two strings must be given when both deleting and squeezing repeats."
          else "Two strings must be given when translating.")
        Sh.report ("Try '" ++ name ++ " --help' for more information.")
        return 1
      else if !more.isEmpty && deletes && !squeezes then
        tell name ("extra operand " ++ Quoting.curly (more.headD ""))
        if more.length = 1 then
          Sh.report "Only one string may be given when deleting without squeezing repeats."
        Sh.report ("Try '" ++ name ++ " --help' for more information.")
        return 1
      else if more.length > 1 then extraOperand name ((more.drop 1).headD "")
      else
        let spelled (s : String) : Except String (List Item) :=
          items (s.length + 1) (unquoted (s.length + 1) s.toList)
        let dangling (s : String) : Bool := (s.toList.reverse.takeWhile (· = '\\')).length % 2 = 1
        Sh.each ((first :: more).filter dangling) fun _ =>
          tell name "warning: an unescaped backslash at end of string is not portable"
        Sh.each ((first :: more).flatMap fun s => ambiguous (s.length + 1) s.toList) fun ds =>
          tell name ("warning: the ambiguous octal escape \\" ++ String.ofList ds ++
            " is being\n\tinterpreted as the 2-byte sequence \\0" ++ String.ofList (ds.take 2) ++ ", " ++
            String.ofList (ds.drop 2))
        let sets : Except String (List Item × List Item) := do
          return (← spelled first, ← spelled (more.headD ""))
        match sets with
        | .error m => fail name m 1
        | .ok (a, b) =>
          match fault? complemented (o.has 't') translates a b with
          | some m => fail name m 1
          | none =>
            let set := chars a 0
            let set := if complemented then allChars.filter fun c => !set.contains c else set
            let second := chars b set.length
            let set := if translates && o.has 't' then set.take second.length else set
            let filled := second ++ List.replicate (set.length - second.length) (second.getLast?.getD ' ')
            match ← flow "-" with
            | .error r => fail name ("read error: " ++ r.reason) 1
            | .ok (text, unfinished) =>
              let cs := text.toList
              let cs :=
                if deletes then
                  let has := membership set
                  cs.filter fun c => !has c
                else if translates then cs.map (replacement set filled)
                else cs
              let cs := if squeezes then squeezed (membership (if more.isEmpty then set else filled ++ second)) cs
                else cs
              Sh.print (String.ofList cs)
              if unfinished then Sh.wantMore else refusedAtEnd name 0

end Retrace.Unix.Utility
