import Retrace.Unix.Characters

/-!
# Modes of files

Who may do what with a file: nine bits for reading, writing and running it by
its owner, its group and all others, and three more. Modes are written in octal
digits, or as changes to be made to a mode.
-/

namespace Retrace.Unix.Mode

/-- What is said about the bits of a mode. -/
inductive Bits where
  /-- These bits. -/
  | those (bits : Nat)
  /-- The bits for running, if anyone may run it, or if it is a directory. -/
  | running
  /-- What one of the three may do, as far to the right as given. -/
  | copied (shift : Nat)

/-- A change to a mode: the bits it is about, all if there are none; the sign; and the bits. -/
structure Change where
  affected : Nat
  sign : Char
  bits : List Bits

/-- The mode in octal digits. -/
def ofOctal? (s : String) : Option Nat :=
  let cs := s.toList
  if cs.isEmpty || !(cs.all fun c => (digitValue? 8 c).isSome) then none
  else
    let n := numberOf 8 cs
    if n ≤ 0o7777 then some n else none

/-- The bits that a letter for someone is about. -/
def affected? : Char → Option Nat
  | 'u' => some 0o4700
  | 'g' => some 0o2070
  | 'o' => some 0o1007
  | 'a' => some 0o7777
  | _ => none

/-- The bits that a letter for doing something is about. -/
def bits? : Char → Option Bits
  | 'r' => some (.those 0o444)
  | 'w' => some (.those 0o222)
  | 'x' => some (.those 0o111)
  | 's' => some (.those 0o6000)
  | 't' => some (.those 0o1000)
  | 'X' => some .running
  | _ => none

/-- The bits that a letter for copying is about. -/
def copied? : Char → Option Bits
  | 'u' => some (.copied 6)
  | 'g' => some (.copied 3)
  | 'o' => some (.copied 0)
  | _ => none

/-- Whether a character is a sign between who and what. -/
def isSign (c : Char) : Bool := c = '+' || c = '-' || c = '='

/-- The changes after who is meant. -/
def changesAfter (affected : Nat) : (length : Nat) → List Char → Option (List Change)
  | 0, _ => none
  | _ + 1, [] => some []
  | n + 1, c :: cs =>
    if !isSign c then none
    else
      match cs.head?.bind copied? with
      | some b => (changesAfter affected n (cs.drop 1)).map (⟨affected, c, [b]⟩ :: ·)
      | none =>
        let letters := cs.takeWhile fun d => (bits? d).isSome
        (changesAfter affected n (cs.drop letters.length)).map
          (⟨affected, c, letters.filterMap bits?⟩ :: ·)

/-- The changes in a text. -/
def changes? (s : String) : Option (List Change) :=
  let clauses := (s.splitOn ",").map fun clause =>
    let cs := clause.toList
    let who := cs.takeWhile fun c => (affected? c).isSome
    let rest := cs.drop who.length
    if rest.isEmpty then none
    else
      let affected := (who.filterMap affected?).foldl (· ||| ·) 0
      changesAfter affected (rest.length + 1) rest
  if clauses.all Option.isSome then some (clauses.flatMap (·.getD [])) else none

/-- A mode with a change made. -/
def apply (isDirectory : Bool) (mask mode : Nat) (c : Change) : Nat :=
  let without (a b : Nat) : Nat := a - (a &&& b)
  let value (b : Bits) : Nat :=
    match b with
    | .those bits => bits
    | .running => if isDirectory || mode &&& 0o111 != 0 then 0o111 else 0
    | .copied shift => ((mode >>> shift) &&& 7) * 0o111
  let all := (c.bits.map value).foldl (· ||| ·) 0
  let all := all &&& (if c.affected = 0 then without 0o7777 mask else c.affected)
  match c.sign with
  | '+' => mode ||| all
  | '-' => without mode all
  | _ =>
    let kept := if c.affected = 0 then 0 else without mode c.affected
    let kept := if isDirectory then kept ||| (mode &&& 0o6000) else kept
    kept ||| all

/-- A mode with changes made. -/
def applyAll (isDirectory : Bool) (mask mode : Nat) (cs : List Change) : Nat :=
  cs.foldl (apply isDirectory mask) mode

/-- The mode that a text gives to a file of some mode. -/
def given? (s : String) (isDirectory : Bool) (mask mode : Nat) : Option Nat :=
  match ofOctal? s with
  | some m => some (if isDirectory && s.length < 5 then m ||| (mode &&& 0o6000) else m)
  | none => (changes? s).map (applyAll isDirectory mask mode)

/-- A mode in octal digits. -/
def octal (mode : Nat) : String := String.ofList (Nat.toDigits 8 mode)

/-- The letters for what someone may do. -/
def lettersFor (bits : Nat) (special : Bool) (whenRunning otherwise : Char) : String :=
  (if bits &&& 4 != 0 then "r" else "-") ++ (if bits &&& 2 != 0 then "w" else "-") ++
    (if special then String.singleton (if bits &&& 1 != 0 then whenRunning else otherwise)
      else if bits &&& 1 != 0 then "x" else "-")

/-- A mode in letters. -/
def letters (mode : Nat) : String :=
  lettersFor (mode >>> 6 &&& 7) (mode &&& 0o4000 != 0) 's' 'S' ++
    lettersFor (mode >>> 3 &&& 7) (mode &&& 0o2000 != 0) 's' 'S' ++
    lettersFor (mode &&& 7) (mode &&& 0o1000 != 0) 't' 'T'

/-- What a mask leaves to all, in letters. -/
def left (mask : Nat) : String :=
  let for' (shift : Nat) : String :=
    let bits := 7 - ((mask >>> shift) &&& 7)
    String.ofList (["r", "w", "x"].flatMap fun l =>
      if (l = "r" && bits &&& 4 != 0) || (l = "w" && bits &&& 2 != 0) || (l = "x" && bits &&& 1 != 0) then
        l.toList
      else [])
  "u=" ++ for' 6 ++ ",g=" ++ for' 3 ++ ",o=" ++ for' 0

end Retrace.Unix.Mode
