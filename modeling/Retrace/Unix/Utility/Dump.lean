import Retrace.Unix.Format
import Retrace.Unix.Quantity
import Retrace.Unix.Utility.Options

/-!
# Octets shown

What shows the octets of files: as numbers of several sizes and bases, as
characters, or as the names of these. The octets are shown in *blocks*, one on a
line, or one on a line for each way of showing them; lines that would be the same
are left out but the first.
-/

namespace Retrace.Unix.Utility

namespace Dump

/-- What is shown of octets. -/
inductive Kind where
  /-- Numbers in a base. -/
  | number (base : Nat) (signed : Bool)
  | fraction
  | character
  /-- The names of characters. -/
  | named
deriving DecidableEq

/-- A way of showing octets, so many at once. -/
structure View where
  kind : Kind
  size : Nat
  /-- Whether the characters follow at the end of the line. -/
  trailed : Bool

/-- How many digits a number of some octets may have in a base. -/
def digitsOf (base size : Nat) : Nat := (Nat.toDigits base (Nat.pow 256 size - 1)).length

/-- The width of what is shown, without what separates it. -/
def View.width (v : View) : Nat :=
  match v.kind with
  | .number base signed =>
    if signed then (Nat.toDigits 10 (Nat.pow 256 v.size / 2)).length + 1 else digitsOf base v.size
  | .fraction => if v.size = 4 then 15 else 24
  | _ => 3

/-- The names of the first characters. -/
def controlNames : List String :=
  ["nul", "soh", "stx", "etx", "eot", "enq", "ack", "bel", "bs", "ht", "nl", "vt", "ff", "cr", "so", "si", "dle",
    "dc1", "dc2", "dc3", "dc4", "nak", "syn", "etb", "can", "em", "sub", "esc", "fs", "gs", "rs", "us", "sp"]

/-- A character as it is shown. -/
def character (c : Char) : String :=
  match c with
  | '\x00' => "\\0"
  | '\x07' => "\\a"
  | '\x08' => "\\b"
  | '\x0c' => "\\f"
  | '\n' => "\\n"
  | '\r' => "\\r"
  | '\t' => "\\t"
  | '\x0b' => "\\v"
  | c =>
    if ' ' ≤ c && c ≤ '~' then String.singleton c
    else Fraction.zeroPadded 3 (String.ofList (Nat.toDigits 8 c.toNat))

/-- The fraction that a word stands for, with a number of bits for the exponent and for what follows. -/
def fractionOf (exponentBits bits : Nat) (n : Nat) : Quantity :=
  let negative := 0 < n / Nat.pow 2 (exponentBits + bits)
  let exponent := n / Nat.pow 2 bits % Nat.pow 2 exponentBits
  let rest := n % Nat.pow 2 bits
  let bias := Nat.pow 2 (exponentBits - 1) - 1
  if exponent = Nat.pow 2 exponentBits - 1 then
    if rest = 0 then .infinite negative else .undefined negative
  else
    let significand := if exponent = 0 then rest else Nat.pow 2 bits + rest
    -- the value is the significand times two to this power
    let power : Int := (max exponent 1 : Nat) - (bias + bits : Nat)
    .finite ⟨negative, significand * Nat.pow 2 power.toNat, Nat.pow 2 (-power).toNat⟩

/-- Numbers of 32 bits. -/
def single : Precision := ⟨24, 128, 149, 1⟩

/-- The shortest text of a fraction that can be told from others, with some digits at least unless it is
    very small. -/
def shortest (p : Precision) (fewest most : Nat) (q : Quantity) : String :=
  match q with
  | .undefined negative => if negative then "-nan" else "nan"
  | .infinite negative => if negative then "-inf" else "inf"
  | .finite f =>
    let text (digits : Nat) : String := Fraction.general digits false { f with negative := false }
    let isExact (s : String) : Bool :=
      match Quantity.read? s.toList with
      | some (r, _) =>
        match (r.rounded p).1 with
        | .finite g => g.numerator * f.denominator = f.numerator * g.denominator
        | _ => false
      | none => false
    let isSmall := f.numerator * Nat.pow 2 (p.least + 1 - p.bits) < f.denominator
    let fewest := if isSmall then 1 else fewest
    let digits := ((List.range (most - fewest + 1)).map (· + fewest)).find? fun k => isExact (text k)
    (if f.negative then "-" else "") ++ text (digits.getD most)

/-- Some octets as they are shown. -/
def View.text (v : View) (bigEndian : Bool) (cs : List Char) : String :=
  let n : Nat := (if bigEndian then cs else cs.reverse).foldl (fun n c => n * 256 + c.toNat) 0
  match v.kind with
  | .number base signed =>
    if signed then toString (if n < Nat.pow 256 v.size / 2 then (n : Int) else (n : Int) - (Nat.pow 256 v.size : Nat))
    else
      let digits := String.ofList (Nat.toDigits base n)
      if base = 10 then digits else Fraction.zeroPadded v.width digits
  | .fraction =>
    if v.size = 4 then shortest single 6 9 (fractionOf 8 23 n) else shortest .double 15 17 (fractionOf 11 52 n)
  | .character => character (Char.ofNat n)
  | .named => if n % 128 = 127 then "del" else (controlNames[n % 128]?).getD (String.singleton (Char.ofNat (n % 128)))

/-- Pieces of a list of a length; the last one may be shorter. -/
def pieces {α : Type} (length : Nat) : (fuel : Nat) → List α → List (List α)
  | 0, _ => []
  | n + 1, xs => if xs.isEmpty then [] else xs.take length :: pieces length n (xs.drop length)

/-- The line of a block that is shown in a way, whose parts have a width altogether. -/
def View.line (v : View) (bigEndian : Bool) (blockSize whole : Nat) (block : List Char) : String :=
  let fields := blockSize / v.size
  let blank := (blockSize - block.length) / v.size
  let padding := whole - v.width * fields
  let filled := block ++ List.replicate (blockSize - block.length) '\x00'
  let parts := (pieces v.size fields filled).take (fields - blank)
  let shown := parts.zipIdx.map fun (cs, k) =>
    let i := fields - k
    Format.padded (v.width + (padding * i / fields - padding * (i - 1) / fields)) false (v.text bigEndian cs)
  String.join shown ++
    if v.trailed then
      String.ofList (List.replicate (blank * v.width + padding * blank / fields) ' ') ++ "  >" ++
        String.ofList (block.map fun c => if ' ' ≤ c && c ≤ '~' then c else '.') ++ "<"
    else ""

/-- How octets are shown. -/
structure Style where
  views : List View
  /-- The base of addresses, if there are any, and their width. -/
  address : Option (Nat × Nat)
  blockSize : Nat
  repeats : Bool
  bigEndian : Bool

/-- An address as it is shown. -/
def Style.addressText (st : Style) (n : Nat) : String :=
  match st.address with
  | some (base, width) => Fraction.zeroPadded width (String.ofList (Nat.toDigits base n))
  | none => ""

/-- Octets as they are shown, from an address on. -/
def Style.lines (st : Style) (whole : Nat) : (fuel : Nat) → (address : Nat) → (last : Option (List Char)) →
    (repeated : Bool) → List Char → List String
  | 0, _, _, _, _ => []
  | n + 1, address, last, repeated, cs =>
    if cs.isEmpty then []
    else
      let block := cs.take st.blockSize
      let rest := cs.drop st.blockSize
      if !st.repeats && last = some block && block.length = st.blockSize then
        (if repeated then [] else ["*"]) ++ st.lines whole n (address + block.length) last true rest
      else
        let gap := String.ofList (List.replicate ((st.address.map (·.2)).getD 0) ' ')
        st.views.zipIdx.map (fun (v, k) =>
          (if k = 0 then st.addressText address else gap) ++ v.line st.bigEndian st.blockSize whole block) ++
          st.lines whole n (address + block.length) (some block) false rest

/-- Octets as they are shown, with the address of their end. -/
def Style.text (st : Style) (address : Nat) (cs : List Char) : String :=
  let whole := (st.views.map fun v => (v.width + 1) * (st.blockSize / v.size)).foldl max 0
  let last := st.addressText (address + cs.length)
  unlines (st.lines whole (cs.length + 1) address none false cs) ++ if last = "" then "" else last ++ "\n"

/-- The views that letters ask for. -/
def views? (whole : String) : (fuel : Nat) → List Char → Except String (List View)
  | 0, _ => .ok []
  | _, [] => .ok []
  | n + 1, c :: cs =>
    let invalid (size : Nat) (kind : String) : String :=
      "invalid type string " ++ Quoting.curly whole ++ ";\nthis system doesn't provide a " ++ toString size ++
        "-byte " ++ kind ++ " type"
    let sized (kind : Kind) (letters : List (Char × Nat)) (usual : Nat) (sizes : List Nat) (noun : String) :
        Except String (List View) :=
      let digits := cs.takeWhile Char.isDigit
      let (size, rest) := match digits, cs with
        | [], d :: ds =>
          match letters.lookup d with
          | some k => (k, ds)
          | none => (usual, d :: ds)
        | [], [] => (usual, [])
        | ds, cs => (numberOf 10 ds, cs.drop ds.length)
      if !sizes.contains size then .error (invalid size noun)
      else
        let trailed := rest.head? = some 'z'
        (views? whole n (if trailed then rest.drop 1 else rest)).map (⟨kind, size, trailed⟩ :: ·)
    let plain (kind : Kind) : Except String (List View) :=
      let trailed := cs.head? = some 'z'
      (views? whole n (if trailed then cs.drop 1 else cs)).map (⟨kind, 1, trailed⟩ :: ·)
    let integer (base : Nat) (signed : Bool) : Except String (List View) :=
      sized (.number base signed) [('C', 1), ('S', 2), ('I', 4), ('L', 8)] 4 [1, 2, 4, 8] "integral"
    match c with
    | 'a' => plain .named
    | 'c' => plain .character
    | 'd' => integer 10 true
    | 'u' => integer 10 false
    | 'o' => integer 8 false
    | 'x' => integer 16 false
    | 'f' => sized .fraction [('F', 4), ('D', 8)] 8 [4, 8] "floating point"
    | c => .error ("invalid character '" ++ String.singleton c ++ "' in type string " ++ Quoting.curly whole)

/-- The views that options ask for by their letters. -/
def shortViews : List (Char × String) := [('a', "a"), ('b', "o1"), ('c', "c"), ('d', "u2"), ('f', "fF"), ('i', "dI"),
  ('l', "dL"), ('o', "o2"), ('s', "d2"), ('x', "x2"), ('B', "o2"), ('D', "u4"), ('e', "fD"), ('F', "fD"), ('h', "x2"),
  ('H', "x4"), ('I', "dL"), ('L', "dL"), ('O', "o4"), ('X', "x4")]

/-- A number of octets, which may have another base and a unit. -/
def count? (s : String) : Option Nat :=
  match s.toList with
  | '0' :: 'x' :: ds => if !ds.isEmpty && ds.all fun d => (digitValue? 16 d).isSome then some (numberOf 16 ds) else none
  | '0' :: d :: ds =>
    if (d :: ds).all fun e => (digitValue? 8 e).isSome then some (numberOf 8 (d :: ds)) else amount? s
  | d :: _ => if d.isDigit then amount? s else none
  | [] => none

/-- The texts of at least so many characters that can be shown, with their addresses. -/
def strings (least : Nat) (cs : List Char) : List (Nat × String) :=
  let isShown (c : Char) : Bool := (' ' ≤ c && c ≤ '~') || ('\x07' ≤ c && c ≤ '\r')
  let (found, _, _) := cs.foldl (fun (acc : List (Nat × String) × List Char × Nat) c =>
    let (found, current, address) := acc
    if c = '\x00' then
      (if least ≤ current.length then (address - current.length, String.ofList current.reverse) :: found else found,
        [], address + 1)
    else if isShown c then (found, c :: current, address + 1)
    else (found, [], address + 1)) (([], [], 0) : List (Nat × String) × List Char × Nat)
  found.reverse

end Dump

open Dump in
/-- Shows the octets of files. -/
def od : Utility := fun _ name args =>
  let names : OptionNames := {
    letters := String.ofList (shortViews.map (·.1)) ++ "v"
    valued := "AjNtSE"
    optional := "w"
    wordly := "E"
    words := [("skip-bytes", 'j'), ("address-radix", 'A'), ("read-bytes", 'N'), ("format", 't'),
      ("output-duplicates", 'v'), ("strings", 'S'), ("width", 'w'), ("endian", 'E')] }
  withOptions names true 1 name args fun o => do
    let asked := o.given.filterMap fun (c, value) =>
      if c = 't' then some value else shortViews.lookup c
    let views := (if asked.isEmpty then ["o2"] else asked).mapM fun s => views? s (s.length + 1) s.toList
    let address : Except String (Option (Nat × Nat)) := match (o.value? 'A').map String.toList with
      | none => .ok (some (8, 7))
      | some ('o' :: _) => .ok (some (8, 7))
      | some ('d' :: _) => .ok (some (10, 7))
      | some ('x' :: _) => .ok (some (16, 6))
      | some ('n' :: _) => .ok none
      | some cs =>
        .error ("invalid output address radix '" ++ String.ofList (cs.take 1) ++
          "'; it must be one character from [doxn]")
    let number (c : Char) : Except String (Option Nat) := match o.value? c with
      | none => .ok none
      | some s =>
        match count? s with
        | some n => .ok (some n)
        | none => .error ("invalid -" ++ String.singleton c ++ " argument " ++ Quoting.always s)
    let width : Except String (Option Nat) := match o.value? 'w' with
      | none => .ok none
      | some "" => .ok (some 32)
      | some s =>
        match count? s with
        | some n => .ok (some n)
        | none => .error ("invalid -w argument " ++ Quoting.always s)
    match address, number 'j', number 'N', views, width, number 'S' with
    | .error m, _, _, _, _, _ => fail name m 1
    | _, .error m, _, _, _, _ => fail name m 1
    | _, _, .error m, _, _, _ => fail name m 1
    | _, _, _, .error m, _, _ => fail name m 1
    | _, _, _, _, .error m, _ => fail name m 1
    | _, _, _, _, _, .error m => fail name m 1
    | .ok address, .ok skipped, .ok most, .ok views, .ok width, .ok least =>
      let views := views.flatten
      let unit := views.foldl (fun n v => max n v.size) 1
      let usual := if unit < 16 then unit * (16 / unit) else unit
      let skipped := skipped.getD 0
      let wanted := most.map (skipped + ·)
      let (text, status) ← match wanted, o.operands with
        | some n, [] => do
          match ← Sh.inputWanted 0 fun cs => if n ≤ cs.length then some n else none with
          | .ok text => pure (text, 0)
          | .error r => pure ("", ← fail name ("-: " ++ r.reason) 1)
        | _, _ => allContents name o.operands plainComplaint
      if text.length < skipped then
        return ← if status = 0 then fail name "cannot skip past end of combined input" 1 else pure status
      let blockSize ← match width with
        | none => pure usual
        | some w =>
          if w = 0 || w % unit != 0 then do
            tell name ("warning: invalid width " ++ toString w ++ "; using " ++ toString unit ++ " instead")
            pure unit
          else pure w
      let cs := text.toList.drop skipped
      let cs := match most with
        | some n => cs.take n
        | none => cs
      let st : Style := ⟨views, address, blockSize, o.has 'v', o.value? 'E' = some "big"⟩
      match least with
      | some least =>
        Sh.print (unlines ((strings least cs).map fun (a, s) =>
          let place := st.addressText (skipped + a)
          if place = "" then s else place ++ " " ++ s))
      | none => Sh.print (if cs.isEmpty && status != 0 && o.operands.length = 1 then "" else st.text skipped cs)
      refusedAtEnd name status

end Retrace.Unix.Utility
