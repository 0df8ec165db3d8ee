import Retrace.Unix.Utility.Copying

/-!
# Copying in blocks

What copies a part of a file into a part of another one, and changes it on the
way. What is read in one piece is a *record*; it is full or a part of one. Records
are counted, and what was counted is told at the end.
-/

namespace Retrace.Unix.Utility

namespace Blocks

/-- What is asked for. -/
structure Wanted where
  input : Option String
  output : Option String
  inputSize : Nat
  outputSize : Nat
  /-- Whether both sizes were given as one, so that each record stays one. -/
  together : Bool
  lineSize : Nat
  count : Option Nat
  countOctets : Bool
  skipped : Nat
  skipOctets : Bool
  sought : Nat
  seekOctets : Bool
  conversions : List String
  inputFlags : List String
  outputFlags : List String
  level : String

/-- Nothing special. -/
def Wanted.nothing : Wanted := {
  input := none
  output := none
  inputSize := 512
  outputSize := 512
  together := false
  lineSize := 0
  count := none
  countOctets := false
  skipped := 0
  skipOctets := false
  sought := 0
  seekOctets := false
  conversions := []
  inputFlags := []
  outputFlags := []
  level := "" }

/-- A complaint about an operand, and whether it says where to read on. -/
structure Misuse where
  message : String
  hints : Bool

/-- The units of numbers. -/
def units : List (String × Nat) :=
  [("", 1), ("c", 1), ("w", 2), ("b", 512), ("B", 1), ("k", 1024), ("K", 1024), ("KiB", 1024), ("kB", 1000), ("KB", 1000),
    ("M", Nat.pow 1024 2), ("MiB", Nat.pow 1024 2), ("MB", Nat.pow 1000 2), ("xM", Nat.pow 1024 2), ("G", Nat.pow 1024 3), ("GiB", Nat.pow 1024 3),
    ("GB", Nat.pow 1000 3), ("T", Nat.pow 1024 4), ("TiB", Nat.pow 1024 4), ("TB", Nat.pow 1000 4), ("P", Nat.pow 1024 5), ("E", Nat.pow 1024 6)]

/-- A number with a unit, or a product of such numbers. -/
def number? (s : String) : Option Nat :=
  let factor (t : String) : Option Nat :=
    let ds := t.toList.takeWhile Char.isDigit
    if ds.isEmpty then none
    else (units.lookup (t.drop ds.length).toString).map (numberOf 10 ds * ·)
  (s.splitOn "x").foldl (fun n t => match n, factor t with
    | some a, some b => some (a * b)
    | _, _ => none) (some 1)

/-- The conversions there are. -/
def conversionNames : List String :=
  ["ascii", "ebcdic", "ibm", "block", "unblock", "lcase", "ucase", "sparse", "swab", "sync", "excl", "nocreat", "notrunc",
    "noerror", "fdatasync", "fsync"]

/-- The flags there are. -/
def flagNames : List String :=
  ["append", "direct", "directory", "dsync", "sync", "fullblock", "nonblock", "noatime", "nocache", "noctty", "nofollow",
    "count_bytes", "skip_bytes", "seek_bytes"]

/-- Takes an operand into account. -/
def Wanted.with (w : Wanted) (operand : String) : Except Misuse Wanted := do
  let name := String.ofList (operand.toList.takeWhile (· != '='))
  let value := (operand.drop (name.length + 1)).toString
  let unknown : Misuse := ⟨"unrecognized operand " ++ Quoting.always operand, true⟩
  if !operand.toList.contains '=' then throw unknown
  let number (least : Nat) : Except Misuse Nat :=
    match number? value with
    | some n => if n < least then throw ⟨"invalid number: " ++ Quoting.always value, false⟩ else return n
    | none => throw ⟨"invalid number: " ++ Quoting.always value, false⟩
  let names (what : String) (known : List String) : Except Misuse (List String) := do
    let given := value.splitOn ","
    match given.find? fun n => !known.contains n with
    | some n => throw ⟨"invalid " ++ what ++ ": " ++ Quoting.curly n, true⟩
    | none => return given
  let inOctets := value.endsWith "B" && (natural? (value.dropEnd 1).toString).isSome
  match name with
  | "if" => return { w with input := some value }
  | "of" => return { w with output := some value }
  | "bs" =>
    let n ← number 1
    return { w with inputSize := n, outputSize := n, together := true }
  | "ibs" => return { w with inputSize := ← number 1, together := false }
  | "obs" => return { w with outputSize := ← number 1, together := false }
  | "cbs" => return { w with lineSize := ← number 1 }
  | "count" => return { w with count := some (← number 0), countOctets := inOctets }
  | "skip" => return { w with skipped := ← number 0, skipOctets := inOctets }
  | "iseek" => return { w with skipped := ← number 0, skipOctets := inOctets }
  | "seek" => return { w with sought := ← number 0, seekOctets := inOctets }
  | "oseek" => return { w with sought := ← number 0, seekOctets := inOctets }
  | "conv" =>
    let given ← names "conversion" conversionNames
    let all := w.conversions ++ given
    if all.contains "lcase" && all.contains "ucase" then throw ⟨"cannot combine lcase and ucase", false⟩
    else if all.contains "block" && all.contains "unblock" then throw ⟨"cannot combine block and unblock", false⟩
    else if all.contains "excl" && all.contains "nocreat" then throw ⟨"cannot combine excl and nocreat", false⟩
    else return { w with conversions := all }
  | "iflag" => return { w with inputFlags := w.inputFlags ++ (← names "input flag" flagNames) }
  | "oflag" => return { w with outputFlags := w.outputFlags ++ (← names "output flag" flagNames) }
  | "status" =>
    if ["none", "noxfer", "progress"].contains value then return { w with level := value }
    else throw ⟨"invalid status level: " ++ Quoting.curly value, true⟩
  | _ => throw unknown

/-- How many octets of the input are passed over. -/
def Wanted.skippedOctets (w : Wanted) : Nat :=
  if w.skipOctets || w.inputFlags.contains "skip_bytes" then w.skipped else w.skipped * w.inputSize

/-- How many octets of the output are passed over. -/
def Wanted.soughtOctets (w : Wanted) : Nat :=
  if w.seekOctets || w.outputFlags.contains "seek_bytes" then w.sought else w.sought * w.outputSize

/-- How many octets are read at most. -/
def Wanted.countedOctets (w : Wanted) : Option Nat :=
  w.count.map fun n => if w.countOctets || w.inputFlags.contains "count_bytes" then n else n * w.inputSize

/-! ### Changes -/

/-- Each octet changes places with the next one. -/
def swapped : List Char → List Char
  | a :: b :: cs => b :: a :: swapped cs
  | cs => cs

/-- Lines made as long as each other, with blanks at their ends; and how many of them were too
    long. -/
def blocked (size : Nat) (text : List Char) : List Char × Nat :=
  let ls := (linesOf (String.ofList text)).map String.toList
  (ls.flatMap fun l => l.take size ++ List.replicate (size - l.length) ' ',
    (ls.filter fun l => size < l.length).length)

/-- Blocks made lines, without the blanks at their ends. -/
def unblocked (size : Nat) : (fuel : Nat) → List Char → List Char
  | 0, _ => []
  | _, [] => []
  | n + 1, cs => ((cs.take size).reverse.dropWhile (· = ' ')).reverse ++ '\n' :: unblocked size n (cs.drop size)

/-- What becomes of a record. -/
def Wanted.changed (w : Wanted) (record : List Char) : List Char :=
  let has (c : String) : Bool := w.conversions.contains c
  let filled := if has "sync" then
      record ++ List.replicate (w.inputSize - record.length) (if has "block" || has "unblock" then ' ' else '\x00')
    else record
  let cased := if has "ucase" then filled.map Char.toUpper else if has "lcase" then filled.map Char.toLower else filled
  if has "swab" then swapped cased else cased

/-- The records of an input. -/
def records (size : Nat) : (fuel : Nat) → List Char → List (List Char)
  | 0, _ => []
  | _, [] => []
  | n + 1, cs => cs.take size :: records size n (cs.drop size)

/-- What is printed, and how many records there were. -/
structure Copied where
  text : List Char
  fullIn : Nat
  partIn : Nat
  fullOut : Nat
  partOut : Nat
  truncated : Nat

/-- Copies an input. -/
def Wanted.copied (w : Wanted) (text : List Char) : Copied :=
  let rs := records w.inputSize (text.length + 1) text
  let full := (rs.filter fun r => r.length = w.inputSize).length
  let changed := rs.map w.changed
  let out := changed.flatten
  let (out, truncated) :=
    if 0 < w.lineSize && w.conversions.contains "block" then blocked w.lineSize out
    else if 0 < w.lineSize && w.conversions.contains "unblock" then (unblocked w.lineSize (out.length + 1) out, 0)
    else (out, 0)
  let (fullOut, partOut) :=
    if w.together && w.conversions.all fun c => !(["ucase", "lcase", "swab", "block", "unblock"].contains c) then
      ((changed.filter fun r => r.length = w.outputSize).length, (changed.filter fun r => r.length != w.outputSize).length)
    else (out.length / w.outputSize, if out.length % w.outputSize = 0 then 0 else 1)
  ⟨out, full, rs.length - full, fullOut, partOut, truncated⟩

/-! ### What is told -/

/-- A number with a unit, which is a power of a base. -/
def shortened (base : Nat) (units : List String) (n : Nat) : String :=
  let power := ((List.range units.length).reverse.find? fun k => Nat.pow base (k + 1) ≤ n).map (· + 1)
  match power with
  | none => toString n ++ " B"
  | some k =>
    let tenths := (n * 10 + Nat.pow base k / 2) / Nat.pow base k
    (if tenths < 100 then toString (tenths / 10) ++ "." ++ toString (tenths % 10)
      else toString ((n + Nat.pow base k / 2) / Nat.pow base k)) ++ " " ++ units.getD (k - 1) ""

/-- The time, in nanoseconds, that copying takes. -/
def time : Nat := 100000

/-- What is told of the records. -/
def summary (w : Wanted) (c : Copied) : List String :=
  let n := c.text.length
  let thousands := shortened 1000 ["kB", "MB", "GB", "TB"]
  let size := toString n ++ (if n = 1 then " byte" else " bytes") ++
    if n < 1000 then "" else " (" ++ thousands n ++ (if n < 1024 then "" else
      ", " ++ shortened 1024 ["KiB", "MiB", "GiB", "TiB"] n) ++ ")"
  [toString c.fullIn ++ "+" ++ toString c.partIn ++ " records in",
    toString c.fullOut ++ "+" ++ toString c.partOut ++ " records out"] ++
    (if c.truncated = 0 then []
      else [toString c.truncated ++ " truncated record" ++ if c.truncated = 1 then "" else "s"]) ++
    if w.level = "noxfer" then []
    else [size ++ " copied, 0.0001 s, " ++ thousands (n * 1000000000 / time) ++ "/s"]

/-! ### Copying -/

/-- The octets of something that has as many as one wants. -/
def endless (pattern : List Char) (n : Nat) : List Char :=
  (List.replicate (n / max 1 pattern.length + 1) pattern).flatten.take n

/-- What is read of the input; and whether there was less than what was to be passed over. -/
def readInput (w : Wanted) : Sh (Except Refusal (List Char × Bool)) := do
  let skipped := w.skippedOctets
  let wanted := w.countedOctets.map (skipped + ·)
  let part (cs : List Char) : List Char × Bool :=
    let rest := cs.drop skipped
    (match w.countedOctets with
      | some n => rest.take n
      | none => rest, cs.length < skipped)
  match w.input with
  | none =>
    let text ← Sh.inputWanted 0 fun cs => wanted.bind fun n => if n ≤ cs.length then some n else none
    return text.map fun s => part s.toList
  | some path =>
    match ← Sh.node path with
    | .ok found =>
      match found.node.content, wanted with
      | .device d, some n => return .ok (part (endless (Files.deviceText d).toList n))
      | _, _ => return (← Sh.contents path).map fun s => part s.toList
    | .error _ => return (← Sh.contents path).map fun s => part s.toList

/-- Whether an output can be opened. What it holds is given up to where writing begins. -/
def openOutput (w : Wanted) (path : String) : Sh (Except Refusal Unit) := do
  let has (c : String) : Bool := w.conversions.contains c
  let found ← Sh.node path
  let exists' := holds found fun _ => true
  if has "excl" && exists' then return .error .alreadyExists
  else if has "nocreat" && !exists' then return .error .notFound
  else if holds found fun f => f.node.isDirectory then return .error .isDirectory
  else if holds found fun f => !f.node.content.isFile then return .ok ()
  else
    let mode ← Sh.newMode 0o666
    Sh.changeFiles fun fs d =>
      let before := match found with
        | .ok f => match f.node.content with
          | .file text => text
          | _ => ""
        | .error _ => ""
      let start := w.soughtOctets
      let kept := if has "notrunc" then before
        else String.ofList (before.toList.take start ++ List.replicate (start - before.length) '\x00')
      fs.write mode d path kept

/-- Puts a text where writing begins. -/
def writeOutput (w : Wanted) (path : String) (text : List Char) : Sh (Except Refusal Unit) := do
  match ← Sh.node path with
  | .error r => return .error r
  | .ok found =>
    match found.node.content with
    | .file before =>
      let cs := before.toList
      let start := if w.outputFlags.contains "append" then cs.length else w.soughtOctets
      let new := if text.isEmpty then before
        else String.ofList (cs.take start ++ List.replicate (start - cs.length) '\x00' ++ text ++
          cs.drop (start + text.length))
      Sh.changeFiles fun fs d => fs.write 0 d path new
    | _ =>
      match ← Sh.openFile path .writing with
      | .error r => return .error r
      | .ok n => Sh.withStreams do
        Sh.lead 1 (some n)
        put (String.ofList text)

end Blocks

/-- Copies in blocks. -/
def dd : Utility := fun _ name args => do
  let args := if args.head? = some "--" then args.drop 1 else args
  match args.foldlM Blocks.Wanted.with .nothing with
  | .error m => if m.hints then misused name m.message 1 else fail name m.message 1
  | .ok w =>
    let unopened (path : String) (r : Refusal) : Sh Nat :=
      fail name ("failed to open " ++ Quoting.always path ++ ": " ++ r.reason) 1
    let input ← match w.input with
      | some path => Sh.node path
      | none => pure (.error .notFound)
    match w.input, input with
    | some path, .error r => if (Sh.streamPath? path).isNone then unopened path r else copy name w unopened
    | _, _ => copy name w unopened
where
  /-- Copies from what can be read. -/
  copy (name : String) (w : Blocks.Wanted) (unopened : String → Refusal → Sh Nat) : Sh Nat := do
    let opened ← match w.output with
      | some path => Blocks.openOutput w path
      | none => pure (.ok ())
    match opened with
    | .error r => unopened (w.output.getD "") r
    | .ok _ =>
      let tell' (c : Blocks.Copied) : Sh Unit :=
        if w.level = "none" then pure () else Sh.each (Blocks.summary w c) Sh.report
      match ← Blocks.readInput w with
      | .error r =>
        tell name ("error reading " ++ Quoting.always (w.input.getD "standard input") ++ ": " ++ r.reason)
        tell' ⟨[], 0, 0, 0, 0, 0⟩
        return 1
      | .ok (text, passedOver) =>
        if passedOver then tell name (Quoting.name (w.input.getD "standard input") ++ ": cannot skip to specified offset")
        let c := w.copied text
        let written ← match w.output with
          | some path => Blocks.writeOutput w path c.text
          | none => put (String.ofList c.text)
        match written with
        | .ok _ =>
          tell' c
          return 0
        | .error r =>
          tell name ("error writing " ++ Quoting.always (w.output.getD "standard output") ++ ": " ++ r.reason)
          tell' { c with text := [], fullOut := 0, partOut := 0 }
          return 1

end Retrace.Unix.Utility
