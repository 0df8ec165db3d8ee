import Std.Data.HashMap
import Retrace.Unix.Format
import Retrace.Unix.RecordScript
import Retrace.Unix.RecordScript.Token

/-!
# Values in scripts for records

A value is a number or a text. A text that was read counts as a number where it
looks like one. Values are kept in tables, by keys that are texts; whole numbers
stand for their digits.

The keys of a table come in an order that depends on how they came into it: they
lie in *places* that a checksum says, those used last first.
-/

namespace Retrace.Unix

/-- A value in a script for records. -/
inductive RecordValue where
  /-- What nothing was put into. -/
  | unset
  | number (x : Float)
  | text (s : String)
  /-- A text that was read. -/
  | input (s : String)

namespace RecordValue

/-! ### Numbers and texts -/

/-- A number as a quantity. -/
def quantityOf (x : Float) : Quantity :=
  match Decimal.Binary64.ofFloat x with
  | .nan => .undefined true
  | .infinite negative => .infinite negative
  | .finite negative significand exponent =>
    .finite ⟨negative, significand * Nat.pow 2 exponent.toNat, Nat.pow 2 (-exponent).toNat⟩

/-- A number without its fraction. One that is too large is the greatest one that can be had. -/
def wholeOf (x : Float) : Int :=
  let least : Int := -(Nat.pow 2 63)
  match quantityOf x with
  | .finite f =>
    let n : Int := f.numerator / f.denominator
    if f.negative then max least (-n) else min n (Nat.pow 2 64 - 1)
  | .infinite negative => if negative then least else Nat.pow 2 64 - 1
  | .undefined _ => least

/-- A number without a fraction in digits, if it is one that is not too large. -/
def digits? (x : Float) : Option String :=
  if x.abs < 1e15 then (if x.floor == x then some (toString x.toInt64.toInt) else none)
  else match quantityOf x with
  | .finite f =>
    let n := f.numerator / f.denominator
    if f.numerator % f.denominator != 0 then none
    else if f.negative then (if n ≤ Nat.pow 2 63 then some (toString (-(n : Int))) else none)
    else if n ≤ Nat.pow 2 64 then some (toString (min n (Nat.pow 2 64 - 1))) else none
  | _ => none

/-- The number at the beginning of a text, or zero. -/
def numberOfText (s : String) : Float :=
  match Quantity.read? s.toList with
  | some (q, _) => RecordScript.floatOf (Quantity.rounded .double q).1
  | none => 0

/-- The number that a text looks like, with blanks around it perhaps. -/
def numberIn? (s : String) : Option Float :=
  let blank (c : Char) : Bool := c = ' ' || ('\t' ≤ c && c ≤ '\r')
  let cs := s.toList.dropWhile blank
  match cs with
  | c :: _ =>
    if c.isDigit || c = '.' || c = '-' || c = '+' then
      let unsigned := if c = '-' || c = '+' then cs.drop 1 else cs
      if unsigned.head?.any fun d => d.isDigit || d = '.' then
        match Quantity.read? cs with
        | some (q, rest) =>
          if rest.all blank then some (RecordScript.floatOf (Quantity.rounded .double q).1) else none
        | none => none
      else none
    else none
  | [] => none

/-- The number of a value. -/
def toNumber : RecordValue → Float
  | .unset => 0
  | .number x => x
  | .text s => numberOfText s
  | .input s => numberOfText s

/-- Whether a value holds. -/
def holds : RecordValue → Bool
  | .unset => false
  | .number x => x != 0
  | .text s => s != ""
  | .input s =>
    match numberIn? s with
    | some x => x != 0
    | none => s != ""

/-! ### Formats -/

/-- How a part of a format is filled in. -/
structure Slot where
  flags : List Char
  width : Nat
  precision : Option Nat

namespace Slot

/-- What stands before a number. -/
def sign (k : Slot) (negative : Bool) : String :=
  if negative then "-" else if k.flags.contains '+' then "+" else if k.flags.contains ' ' then " " else ""

/-- A text in the space it is given. -/
def fit (k : Slot) (s : String) : String :=
  Format.padded k.width (k.flags.contains '-') s

/-- A number in the space it is given. -/
def fitNumber (k : Slot) (zeros : Bool) (sign digits : String) : String :=
  Format.paddedNumber k.width (k.flags.contains '-') (zeros && k.flags.contains '0') sign digits

/-- A whole number. -/
def whole (k : Slot) (n : Int) : String :=
  let digits := if n = 0 && k.precision = some 0 then "" else toString n.natAbs
  k.fitNumber k.precision.isNone (k.sign (n < 0)) (Fraction.zeroPadded (k.precision.getD 0) digits)

/-- A whole number in a base. Those below zero are taken from a power of two. -/
def inBase (k : Slot) (base : Nat) (capitals : Bool) (lead : String) (n : Int) : String :=
  let n := (n.fmod (Nat.pow 2 64)).toNat
  let digits := if n = 0 && k.precision = some 0 then "" else String.ofList (Nat.toDigits base n)
  let digits := Fraction.zeroPadded (k.precision.getD 0) digits
  let alternate := k.flags.contains '#' && n != 0
  let digits := if alternate && base = 8 && !digits.startsWith "0" then "0" ++ digits else digits
  let lead := if alternate && base = 16 then lead else ""
  let text := k.fitNumber k.precision.isNone lead digits
  if capitals then text.map Char.toUpper else text

/-- A number with a fraction, in a way that a letter says. -/
def fractional (k : Slot) (letter : Char) (x : Float) : String :=
  let alternate := k.flags.contains '#'
  let capital := letter.isUpper
  let raised (s : String) : String := if capital then s.map Char.toUpper else s
  match quantityOf x with
  | .finite f =>
    let p := k.precision.getD 6
    let text := match letter.toLower with
      | 'e' => Fraction.scientific p alternate f
      | 'f' => Fraction.fixed p alternate f
      | _ => Fraction.general p alternate f
    k.fitNumber true (k.sign f.negative) (raised text)
  | .infinite negative => k.fitNumber false (k.sign negative) (raised "inf")
  | .undefined negative => k.fitNumber false (k.sign negative) (raised "nan")

end Slot

/-- The character of a value: the one with the code that is a number, or the first one of a text. -/
def characterOf (v : RecordValue) : String :=
  let coded (x : Float) : String := String.singleton (Char.ofNat ((wholeOf x).fmod 256).toNat)
  let first (s : String) : String := if s = "" then "\x00" else (s.take 1).toString
  match v with
  | .number x => coded x
  | .unset => ""
  | .text s => first s
  | .input s =>
    match numberIn? s with
    | some x => coded x
    | none => first s

mutual

/-- The text of a value, where numbers with a fraction are written in a format. -/
def toText (format : String) : (fuel : Nat) → RecordValue → String
  | _, .unset => ""
  | _, .text s => s
  | _, .input s => s
  | 0, .number _ => ""
  | n + 1, .number x =>
    match digits? x with
    | some s => s
    | none => (filled "%.6g" n format.toList [.number x] 1).1

/-- A format with values put into it. Those that are texts there are written in another format. What is wrong is
    told in words after what comes before that; the parts are numbered. -/
def filled (inner : String) : (fuel : Nat) → List Char → List RecordValue → (count : Nat) → String × Option String
  | 0, _, _, _ => ("", none)
  | _, [], _, _ => ("", none)
  | n + 1, '%' :: '%' :: cs, args, count =>
    let (s, wrong) := filled inner n cs args count
    ("%" ++ s, wrong)
  | n + 1, '%' :: cs, args, count =>
    let few : String × Option String := ("", some "not enough arguments passed to ")
    let flags := cs.takeWhile fun c => "-+ #0".toList.contains c
    let rest := cs.drop flags.length
    let asked (rest : List Char) (args : List RecordValue) : Option (Option Int × List Char × List RecordValue) :=
      match rest with
      | '*' :: rest =>
        match args with
        | a :: args => some (some (wholeOf a.toNumber), rest, args)
        | [] => none
      | rest =>
        let ds := rest.takeWhile Char.isDigit
        some (if ds.isEmpty then none else some (numberOf 10 ds), rest.drop ds.length, args)
    match asked rest args with
    | none => few
    | some (width, rest, args) =>
      let between : Option (Option Int × List Char × List RecordValue) := match rest with
        | '.' :: rest => (asked rest args).map fun (p, rest, args) => (some (p.getD 0), rest, args)
        | rest => some (none, rest, args)
      match between with
      | none => few
      | some (precision, rest, args) =>
        let w := width.getD 0
        let k : Slot := ⟨if w < 0 then '-' :: flags else flags, w.natAbs, (precision.filter (0 ≤ ·)).map Int.toNat⟩
        let rest := rest.dropWhile fun c => c = 'l' || c = 'h'
        match rest, args with
        | [], _ => few
        | _, [] => few
        | c :: rest, a :: args =>
          let go (s : String) : String × Option String :=
            let (t, wrong) := filled inner n rest args (count + 1)
            (s ++ t, wrong)
          match c with
          | 'd' => go (k.whole (wholeOf a.toNumber))
          | 'i' => go (k.whole (wholeOf a.toNumber))
          | 'o' => go (k.inBase 8 false "0" (wholeOf a.toNumber))
          | 'x' => go (k.inBase 16 false "0x" (wholeOf a.toNumber))
          | 'X' => go (k.inBase 16 true "0x" (wholeOf a.toNumber))
          | 'u' => go (k.inBase 10 false "" (wholeOf a.toNumber))
          | 'c' => go (k.fit (characterOf a))
          | 's' =>
            let s := toText inner n a
            go (k.fit (match k.precision with
              | some p => (s.take p).toString
              | none => s))
          | c =>
            if "eEfFgG".toList.contains c then go (k.fractional c a.toNumber)
            else ("", some ("improper conversion(number " ++ toString count ++ ") in "))
  | n + 1, cs, args, count =>
    let plain := cs.takeWhile (· != '%')
    let (s, wrong) := filled inner n (cs.drop plain.length) args count
    (String.ofList plain ++ s, wrong)

end

/-- The text of a value, where numbers with a fraction are written in a format. -/
def textIn (format : String) (v : RecordValue) : String := toText format (format.length + 8) v

/-! ### Calculating -/

/-- What is left of a division, with the sign of what is divided. -/
def remainder (a b : Float) : Float :=
  match Decimal.Binary64.ofFloat a, Decimal.Binary64.ofFloat b with
  | .finite negative m e, .finite _ n f =>
    if n = 0 then 0.0 / 0.0
    else
      let least := min e f
      let r := (m * Nat.pow 2 (e - least).toNat) % (n * Nat.pow 2 (f - least).toNat)
      Decimal.Binary64.nearest negative (r * Nat.pow 2 least.toNat) (Nat.pow 2 (-least).toNat)
  | .finite _ _ _, .infinite _ => a
  | _, _ => 0.0 / 0.0

/-- A calculation. -/
def calculate (c : RecordScript.Calculation) (a b : Float) : Float :=
  match c with
  | .add => a + b
  | .sub => a - b
  | .mul => a * b
  | .div => a / b
  | .mod => remainder a b
  | .pow => Float.pow a b

/-- Whether a comparison holds of what is ordered. -/
def ordered (c : RecordScript.Comparison) (less equal more : Bool) : Bool :=
  match c with
  | .less => less
  | .atMost => less || equal
  | .equal => equal
  | .unequal => !equal
  | .more => more
  | .atLeast => more || equal

/-- The number that a value counts as where values are compared, if it does. -/
def comparable? : RecordValue → Option Float
  | .unset => some 0
  | .number x => some x
  | .text _ => none
  | .input s => numberIn? s

/-- Whether a comparison holds of two values: of numbers, or of their texts if one of them is none. -/
def compare (format : String) (c : RecordScript.Comparison) (a b : RecordValue) : Bool :=
  match comparable? a, comparable? b with
  | some x, some y => ordered c (x < y) (x == y) (y < x)
  | _, _ =>
    let (s, t) := (textIn format a, textIn format b)
    ordered c (s < t) (s == t) (t < s)

end RecordValue

/-! ### Tables -/

/-- A key of a table. -/
inductive RecordKey where
  | number (n : Int)
  | text (s : String)

/-- The text of a key. -/
def RecordKey.shown : RecordKey → String
  | .number n => toString n
  | .text s => s

/-- The key that a value is, where numbers with a fraction are written in a format. -/
def RecordValue.key (format : String) : RecordValue → RecordKey
  | .number x => if x.abs < 1e15 && x.floor == x then .number x.toInt64.toInt else .text (textIn format (.number x))
  | v => .text (textIn format v)

/-- Values by their keys. The keys are kept in places by their texts, and those that are whole numbers by
    these, once that was asked for. -/
structure RecordTable where
  values : Std.HashMap String RecordValue
  /-- The keys were put in at once, numbered from one. -/
  listed : Bool
  /-- The keys in places by their texts, if they are kept so. -/
  texts : Option (Array (List String))
  /-- The keys in places by the numbers they are. -/
  numbers : Array (List Int)

namespace RecordTable

/-- A table without values. -/
def empty : RecordTable := ⟨∅, false, none, Array.replicate 64 []⟩

/-- How many values there are. -/
def size (t : RecordTable) : Nat := t.values.size

/-- The checksum of a key. -/
def checksum (key : String) : Nat :=
  (key.toList.foldl (fun (n : UInt32) c => (n ^^^ UInt32.ofNat c.toNat) * 16777619) 2166136261).toNat

/-- A list with one of its members at its beginning. -/
def front [BEq α] (x : α) (xs : List α) : List α := x :: xs.erase x

/-- The place of a number among some. -/
def placeOf (count : Nat) (n : Int) : Nat := (n.fmod count).toNat

/-- Keys that were put in at once are kept by their numbers. -/
def unlisted (t : RecordTable) : RecordTable :=
  if t.listed then
    let rec places (k : Nat) : Nat → Nat
      | 0 => k
      | fuel + 1 => if 12 * k < t.size then places (2 * k) fuel else k
    let count := places 64 t.size
    let numbers := (List.range t.size).foldl (fun (a : Array (List Int)) (i : Nat) =>
      a.modify ((i + 1) % count) (((i : Int) + 1) :: ·)) (Array.replicate count [])
    { t with listed := false, numbers := numbers }
  else t

/-- All keys are kept by their texts as well. -/
def withTexts (t : RecordTable) : RecordTable :=
  let t := t.unlisted
  match t.texts with
  | some _ => t
  | none =>
    let count := t.numbers.size
    let texts := t.numbers.foldl (fun (a : Array (List String)) ns =>
      ns.foldl (fun (a : Array (List String)) n =>
        let key := toString n
        a.modify (checksum key % count) (key :: ·)) a) (Array.replicate count [])
    { t with texts := some texts }

/-- A table with twice as many places. -/
def doubled (t : RecordTable) : RecordTable :=
  let count := t.numbers.size
  let spread {α : Type} (place : α → Nat) (a : Array (List α)) : Array (List α) :=
    let parts : List (List α × Nat) := a.toList.zipIdx
    (parts.map (fun (part : List α × Nat) => part.1.filter fun x => place x = part.2) ++
      parts.map fun (part : List α × Nat) => part.1.filter fun x => place x != part.2).toArray
  { t with
    numbers := spread (placeOf (2 * count)) t.numbers
    texts := t.texts.map (spread fun k => checksum k % (2 * count)) }

/-- A table with room for one more value. -/
def widened (t : RecordTable) : RecordTable :=
  if 12 * t.numbers.size < t.size then t.doubled else t

/-- Looks a key up by its text, and puts it in if it is not there and that is wanted. Whether it is there
    then. -/
def atText (t : RecordTable) (create : Bool) (key : String) : Bool × RecordTable :=
  if t.size = 0 && !create then (false, t)
  else
    let t := t.withTexts
    let moved (t : RecordTable) : RecordTable :=
      { t with texts := t.texts.map fun a => a.modify (checksum key % a.size) (front key) }
    if t.values.contains key then (true, moved t)
    else if create then (true, moved { t with values := t.values.insert key .unset }.widened)
    else (false, t)

/-- Looks a key up that is a number. -/
def atNumber (t : RecordTable) (create : Bool) (n : Int) : Bool × RecordTable :=
  if t.size = 0 && !create then (false, t)
  else
    let key := toString n
    if t.listed && (1 ≤ n && n ≤ t.size) then (true, t)
    else if t.listed && !create then (false, t)
    else
      let t := t.unlisted
      let moved (t : RecordTable) : RecordTable :=
        { t with numbers := t.numbers.modify (placeOf t.numbers.size n) (front n) }
      if ((t.numbers[placeOf t.numbers.size n]?).getD []).contains n then (true, moved t)
      else
        match t.texts with
        | some _ =>
          let (there, t) := t.atText create key
          (there, if there then moved t else t)
        | none =>
          if create then (true, moved { t with values := t.values.insert key .unset }.widened) else (false, t)

/-- Looks a key up, and puts it in if it is not there and that is wanted. Whether it is there then. -/
def locate (t : RecordTable) (create : Bool) : RecordKey → Bool × RecordTable
  | .number n => t.atNumber create n
  | .text s => t.atText create s

/-- The value of a key, which is put in if it is not there. -/
def get (t : RecordTable) (key : RecordKey) : RecordValue × RecordTable :=
  let t := (t.locate true key).2
  ((t.values.get? key.shown).getD .unset, t)

/-- Gives a value to a key. -/
def put (t : RecordTable) (key : RecordKey) (v : RecordValue) : RecordTable :=
  let t := (t.locate true key).2
  { t with values := t.values.insert key.shown v }

/-- Takes a key away. -/
def erase (t : RecordTable) (key : RecordKey) : RecordTable :=
  let shown := key.shown
  let (there, t) := match key with
    | .number n => t.unlisted.atNumber false n
    | .text s => t.atText false s
  if !there then t
  else if t.size = 1 then empty
  else
    let without : Array (List Int) := match shown.toInt?.filter (toString · = shown) with
      | some n => t.numbers.modify (placeOf t.numbers.size n) (·.erase n)
      | none => t.numbers
    { t with
      values := t.values.erase shown
      numbers := without
      texts := t.texts.map fun a => a.modify (checksum shown % a.size) (·.erase shown) }

/-- The keys in their order. -/
def keys (t : RecordTable) : List String × RecordTable :=
  if t.size = 0 then ([], t)
  else
    let t := t.withTexts
    (((t.texts.getD #[]).toList).flatten, t)

/-- A table of some values, numbered from one. -/
def ofList (vs : List RecordValue) : RecordTable :=
  if vs.isEmpty then empty
  else
    { empty with
      listed := true
      values := (vs.zipIdx).foldl (fun (m : Std.HashMap String RecordValue) (v, i) => m.insert (toString (i + 1)) v) ∅ }

end RecordTable

end Retrace.Unix
