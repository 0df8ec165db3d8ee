/-!
# Texts of octets

Outside a session texts are sequences of bytes, which need not be valid UTF-8:
the content of a file, the name of one, what a command prints. Here such a
sequence is a `String` whose every character stands for one byte, the one with
the same code.
-/

namespace Retrace.Text.Octets

/-- The octets of some bytes. -/
def ofBytes (bytes : ByteArray) : String :=
  String.ofList (bytes.toList.map fun b => Char.ofNat b.toNat)

/-- Whether every character is its own encoding. -/
def isPlain (s : String) : Bool :=
  s.toList.all fun c => c.toNat < 0x80

/-- The octets a text is encoded in. -/
def ofText (s : String) : String :=
  if isPlain s then s else ofBytes s.toUTF8

/-- The bytes the octets stand for. -/
def toBytes (octets : String) : List UInt8 :=
  octets.toList.map fun c => UInt8.ofNat c.toNat

/-- The text encoded in some octets, if they encode one. -/
def toText? (octets : String) : Option String :=
  if isPlain octets then some octets
  else String.fromUTF8? ⟨(toBytes octets).toArray⟩

end Retrace.Text.Octets
