import Retrace.Text.Octets

/-!
# Characters in octets

A text of octets may encode characters, each in up to four octets. Here the
octets are taken for the characters they encode; an octet that encodes none
stands for itself, as one of the last characters there are, which no text
contains.
-/

namespace Retrace.Unix.Multibyte

/-- The character that stands for an octet which encodes none. -/
def stray (c : Char) : Char := Char.ofNat (0x10ff00 + c.toNat)

/-- Whether a character stands for an octet which encodes none. -/
def isStray (c : Char) : Bool := 0x10ff80 ≤ c.toNat

/-- The value of an octet that goes on with a character. -/
def continuation? (c : Char) : Option Nat :=
  if 0x80 ≤ c.toNat ∧ c.toNat < 0xc0 then some (c.toNat - 0x80) else none

/-- The character at the beginning of some octets, and how many of them encode it. -/
def first (c : Char) (cs : List Char) : Char × Nat :=
  let n := c.toNat
  let none' := (stray c, 1)
  if n < 0x80 then (c, 1)
  else
    match cs with
    | [] => none'
    | d :: ds =>
      match continuation? d with
      | none => none'
      | some x =>
        if 0xc2 ≤ n ∧ n < 0xe0 then (Char.ofNat ((n - 0xc0) * 64 + x), 2)
        else
          match ds with
          | [] => none'
          | e :: es =>
            match continuation? e with
            | none => none'
            | some y =>
              let three := (n - 0xe0) * 4096 + x * 64 + y
              if 0xe0 ≤ n ∧ n < 0xf0 then
                if three < 0x800 ∨ (0xd800 ≤ three ∧ three < 0xe000) then none'
                else (Char.ofNat three, 3)
              else
                match es with
                | [] => none'
                | f :: _ =>
                  match continuation? f with
                  | none => none'
                  | some z =>
                    let four := (n - 0xf0) * 262144 + x * 4096 + y * 64 + z
                    if 0xf0 ≤ n ∧ n < 0xf5 ∧ 0x10000 ≤ four ∧ four < 0x10ff80 then
                      (Char.ofNat four, 4)
                    else none'

/-- The characters that octets encode, in at most so many steps. -/
def charactersAtMost : (most : Nat) → List Char → List Char
  | 0, _ => []
  | _ + 1, [] => []
  | n + 1, c :: cs =>
    let (d, length) := first c cs
    d :: charactersAtMost n (cs.drop (length - 1))

/-- The characters that octets encode. -/
def characters (octets : List Char) : List Char :=
  if octets.all fun c => c.toNat < 0x80 then octets
  else charactersAtMost octets.length octets

/-- The octets in which a character is encoded. -/
def octets (c : Char) : List Char :=
  let n := c.toNat
  if n < 0x80 then [c]
  else if isStray c then [Char.ofNat (n - 0x10ff00)]
  else if n < 0x800 then [Char.ofNat (0xc0 + n / 64), Char.ofNat (0x80 + n % 64)]
  else if n < 0x10000 then
    [Char.ofNat (0xe0 + n / 4096), Char.ofNat (0x80 + n / 64 % 64), Char.ofNat (0x80 + n % 64)]
  else
    [Char.ofNat (0xf0 + n / 262144), Char.ofNat (0x80 + n / 4096 % 64),
      Char.ofNat (0x80 + n / 64 % 64), Char.ofNat (0x80 + n % 64)]

/-- The octets that encode some characters. -/
def ofCharacters (cs : List Char) : List Char :=
  if cs.all fun c => c.toNat < 0x80 then cs else cs.flatMap octets

/-- Does something with the characters that a text encodes. -/
def through (f : List Char → List Char) (s : String) : String :=
  String.ofList (ofCharacters (f (characters s.toList)))

/-- How many characters a text encodes. -/
def length (s : String) : Nat :=
  (characters s.toList).length

/-! ### Letters -/

/-- The capital letter of a letter. -/
def upper (c : Char) : Char :=
  let n := c.toNat
  let shift (k : Nat) : Char := Char.ofNat (n - k)
  if n < 0x80 then c.toUpper
  else if n = 0xb5 then Char.ofNat 0x39c
  else if 0xe0 ≤ n ∧ n ≤ 0xfe ∧ n ≠ 0xf7 then shift 32
  else if n = 0xff then Char.ofNat 0x178
  else if (0x100 ≤ n ∧ n ≤ 0x137) ∨ (0x14a ≤ n ∧ n ≤ 0x177) ∨ (0x1e00 ≤ n ∧ n ≤ 0x1e95) ∨
      (0x1ea0 ≤ n ∧ n ≤ 0x1eff) ∨ (0x460 ≤ n ∧ n ≤ 0x481) ∨ (0x48a ≤ n ∧ n ≤ 0x4bf) ∨
      (0x4d0 ≤ n ∧ n ≤ 0x52f) then
    if n % 2 = 1 ∧ n ≠ 0x131 then shift 1 else if n = 0x131 then 'I' else c
  else if (0x139 ≤ n ∧ n ≤ 0x148) ∨ (0x179 ≤ n ∧ n ≤ 0x17e) then
    if n % 2 = 0 then shift 1 else c
  else if n = 0x17f then 'S'
  else if n = 0x3ac then Char.ofNat 0x386
  else if 0x3ad ≤ n ∧ n ≤ 0x3af then shift 37
  else if n = 0x3c2 then Char.ofNat 0x3a3
  else if 0x3b1 ≤ n ∧ n ≤ 0x3cb then shift 32
  else if n = 0x3cc then Char.ofNat 0x38c
  else if n = 0x3cd ∨ n = 0x3ce then shift 63
  else if 0x430 ≤ n ∧ n ≤ 0x44f then shift 32
  else if 0x450 ≤ n ∧ n ≤ 0x45f then shift 80
  else if 0x561 ≤ n ∧ n ≤ 0x586 then shift 48
  else c

/-- The small letter of a letter. -/
def lower (c : Char) : Char :=
  let n := c.toNat
  let shift (k : Nat) : Char := Char.ofNat (n + k)
  if n < 0x80 then c.toLower
  else if 0xc0 ≤ n ∧ n ≤ 0xde ∧ n ≠ 0xd7 then shift 32
  else if n = 0x178 then Char.ofNat 0xff
  else if (0x100 ≤ n ∧ n ≤ 0x137) ∨ (0x14a ≤ n ∧ n ≤ 0x177) ∨ (0x1e00 ≤ n ∧ n ≤ 0x1e95) ∨
      (0x1ea0 ≤ n ∧ n ≤ 0x1eff) ∨ (0x460 ≤ n ∧ n ≤ 0x481) ∨ (0x48a ≤ n ∧ n ≤ 0x4bf) ∨
      (0x4d0 ≤ n ∧ n ≤ 0x52f) then
    if n % 2 = 0 ∧ n ≠ 0x130 then shift 1 else if n = 0x130 then 'i' else c
  else if (0x139 ≤ n ∧ n ≤ 0x148) ∨ (0x179 ≤ n ∧ n ≤ 0x17e) then
    if n % 2 = 1 then shift 1 else c
  else if n = 0x386 then Char.ofNat 0x3ac
  else if 0x388 ≤ n ∧ n ≤ 0x38a then shift 37
  else if n = 0x38c then Char.ofNat 0x3cc
  else if n = 0x38e ∨ n = 0x38f then shift 63
  else if 0x391 ≤ n ∧ n ≤ 0x3ab then shift 32
  else if 0x410 ≤ n ∧ n ≤ 0x42f then shift 32
  else if 0x400 ≤ n ∧ n ≤ 0x40f then shift 80
  else if 0x531 ≤ n ∧ n ≤ 0x556 then shift 48
  else c

/-- Whether a character is a letter, as far as letters are told from other characters. -/
def isLetter (c : Char) : Bool :=
  let n := c.toNat
  c.isAlpha || upper c != c || lower c != c || n = 0xaa || n = 0xba || n = 0xdf || n = 0x138 ||
    n = 0x149 || (0x180 ≤ n && n ≤ 0x2c1) || (0x3e2 ≤ n && n ≤ 0x3ff) || (0x5d0 ≤ n && n ≤ 0x5ea) ||
    (0x620 ≤ n && n ≤ 0x64a) || (0x904 ≤ n && n ≤ 0x939) || (0x10d0 ≤ n && n ≤ 0x10fa) ||
    (0x3041 ≤ n && n ≤ 0x3096) || (0x30a1 ≤ n && n ≤ 0x30fa) || (0x3400 ≤ n && n ≤ 0x4dbf) ||
    (0x4e00 ≤ n && n ≤ 0x9fff) || (0xac00 ≤ n && n ≤ 0xd7a3)

/-- How many columns a character takes. -/
def columns (c : Char) : Nat :=
  let n := c.toNat
  if (0x300 ≤ n ∧ n ≤ 0x36f) ∨ (0x200b ≤ n ∧ n ≤ 0x200f) ∨ (0xfe00 ≤ n ∧ n ≤ 0xfe0f) ∨
      (0x20d0 ≤ n ∧ n ≤ 0x20f0) then 0
  else if (0x1100 ≤ n ∧ n ≤ 0x115f) ∨ (0x2e80 ≤ n ∧ n ≤ 0x303e) ∨ (0x3041 ≤ n ∧ n ≤ 0x33ff) ∨
      (0x3400 ≤ n ∧ n ≤ 0x4dbf) ∨ (0x4e00 ≤ n ∧ n ≤ 0x9fff) ∨ (0xa000 ≤ n ∧ n ≤ 0xa4cf) ∨
      (0xac00 ≤ n ∧ n ≤ 0xd7a3) ∨ (0xf900 ≤ n ∧ n ≤ 0xfaff) ∨ (0xfe30 ≤ n ∧ n ≤ 0xfe6f) ∨
      (0xff00 ≤ n ∧ n ≤ 0xff60) ∨ (0xffe0 ≤ n ∧ n ≤ 0xffe6) ∨ (0x1f300 ≤ n ∧ n ≤ 0x1f64f) ∨
      (0x1f680 ≤ n ∧ n ≤ 0x1f6c5) ∨ (0x1f900 ≤ n ∧ n ≤ 0x1f9ff) ∨ (0x20000 ≤ n ∧ n ≤ 0x3fffd) then 2
  else 1

end Retrace.Unix.Multibyte
