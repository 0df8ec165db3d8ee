/-!
# Text out of bytes

Reads bytes as UTF-8 and puts a replacement character where they are none: one
for each byte that cannot begin a character, and one for each beginning of a
character that is broken off, as long as it could have been continued.
-/

namespace Retrace.Text.Utf8

/-- The part of a character read so far: what the bytes have contributed, how
    many bytes are missing, and the range the next one has to be in. -/
structure Pending where
  value : Nat
  missing : Nat
  low : Nat
  high : Nat

/-- The character that stands for what is none. -/
def replacement : Char := '\ufffd'

/-- Reads a byte that begins a character. -/
def lead (b : Nat) : List Char × Option Pending :=
  if b < 0x80 then ([Char.ofNat b], none)
  else if 0xc2 ≤ b ∧ b ≤ 0xdf then ([], some ⟨b - 0xc0, 1, 0x80, 0xbf⟩)
  else if 0xe0 ≤ b ∧ b ≤ 0xef then
    let low := if b = 0xe0 then 0xa0 else 0x80
    let high := if b = 0xed then 0x9f else 0xbf
    ([], some ⟨b - 0xe0, 2, low, high⟩)
  else if 0xf0 ≤ b ∧ b ≤ 0xf4 then
    let low := if b = 0xf0 then 0x90 else 0x80
    let high := if b = 0xf4 then 0x8f else 0xbf
    ([], some ⟨b - 0xf0, 3, low, high⟩)
  else ([replacement], none)

/-- Reads a byte after what is pending. -/
def next (pending : Option Pending) (b : Nat) : List Char × Option Pending :=
  match pending with
  | none => lead b
  | some p =>
    if p.low ≤ b ∧ b ≤ p.high then
      let value := p.value * 64 + (b - 0x80)
      if p.missing ≤ 1 then ([Char.ofNat value], none)
      else ([], some ⟨value, p.missing - 1, 0x80, 0xbf⟩)
    else
      let (cs, pending) := lead b
      (replacement :: cs, pending)

/-- The characters of some bytes, after what is pending. -/
def characters (pending : Option Pending) : List UInt8 → List Char
  | [] => if pending.isSome then [replacement] else []
  | b :: bytes =>
    let (cs, pending) := next pending b.toNat
    cs ++ characters pending bytes

/-- The text of some bytes. -/
def decode (bytes : List UInt8) : String :=
  String.ofList (characters none bytes)

end Retrace.Text.Utf8
