import Retrace.Unix.Digest
import Retrace.Unix.Utility.Names

/-!
# Digests of files, and texts for octets

What prints digests of files and checks whether files still have them, and what
writes octets with few characters and reads them again.
-/

namespace Retrace.Unix.Utility

/-! ### Digests -/

/-- A way of making digests: its name where it is told, the octets of its digests, and how they are made. -/
structure DigestKind where
  tag : String
  size : Nat
  digest : List Nat → List Nat

/-- The digest of a text in base 16. -/
def DigestKind.text (k : DigestKind) (s : String) : String :=
  Digest.digits (k.digest (s.toList.map Char.toNat))

/-- The ways of making digests, by the names of the utilities. -/
def digestKinds : List (String × DigestKind) := [
  ("md5", ⟨"MD5", 16, Digest.of128⟩), ("sha1", ⟨"SHA1", 20, Digest.of160⟩),
  ("sha224", ⟨"SHA224", 28, Digest.Second.of224.of⟩), ("sha256", ⟨"SHA256", 32, Digest.Second.of256.of⟩),
  ("sha384", ⟨"SHA384", 48, Digest.Second.of384.of⟩), ("sha512", ⟨"SHA512", 64, Digest.Second.of512.of⟩),
  ("blake2b", ⟨"BLAKE2b", 64, Digest.mixing 64⟩)]

/-- A name in which the characters that would end it are written otherwise, and whether there are any. -/
def digestName (s : String) : String × Bool :=
  let isStrange (c : Char) : Bool := c = '\\' || c = '\n' || c = '\r'
  (String.ofList (s.toList.flatMap fun c =>
    if c = '\\' then ['\\', '\\'] else if c = '\n' then ['\\', 'n'] else if c = '\r' then ['\\', 'r'] else [c]),
    s.toList.any isStrange)

/-- A name that was written otherwise. -/
def digestNameOf (s : String) : String :=
  let rec go : List Char → List Char
    | '\\' :: 'n' :: cs => '\n' :: go cs
    | '\\' :: 'r' :: cs => '\r' :: go cs
    | '\\' :: '\\' :: cs => '\\' :: go cs
    | c :: cs => c :: go cs
    | [] => []
  String.ofList (go s.toList)

/-- The line for the digest of a file. -/
def digestLine (k : DigestKind) (tagged binary nul : Bool) (digest path : String) : String :=
  let (name, isStrange) := if nul then (path, false) else digestName path
  let mark := if isStrange then "\\" else ""
  mark ++ (if tagged then k.tag ++ " (" ++ name ++ ") = " ++ digest else digest ++ (if binary then " *" else "  ") ++ name) ++
    (if nul then "\x00" else "\n")

/-- The digest and the name in a line, if it has the right form. -/
def checkedLine? (k : DigestKind) (line : String) : Option (String × String) :=
  let isStrange := line.startsWith "\\"
  let line := if isStrange then (line.drop 1).toString else line
  let isDigest (s : String) : Bool := s.length = 2 * k.size && s.toList.all fun c => (digitValue? 16 c).isSome
  let named (s : String) : String := if isStrange then digestNameOf s else s
  let start := k.tag ++ " ("
  if line.startsWith start then
    match ((line.drop start.length).toString.splitOn ") = ").reverse with
    | digest :: rest =>
      if isDigest digest && !rest.isEmpty then some (digest, named (") = ".intercalate rest.reverse)) else none
    | [] => none
  else
    let digest := (line.take (2 * k.size)).toString
    let rest := (line.drop (2 * k.size)).toString
    if isDigest digest && (rest.startsWith "  " || rest.startsWith " *") && rest.length > 2 then
      some (digest, named (rest.drop 2).toString)
    else none

/-- A number of things with a verb. -/
def plural (n : Nat) (one many : String) : String :=
  toString n ++ " " ++ if n = 1 then one else many

/-- Checks the digests in a file. -/
def checkDigests (name : String) (k : DigestKind) (o : Options) (path : String) : Sh Nat := do
  let shown := if path = "-" then "standard input" else path
  match ← Sh.contents path with
  | .error r => fail name (Quoting.name shown ++ ": " ++ r.reason) 1
  | .ok text =>
    let lines := ((linesOf text).zipIdx 1).filter fun l => l.1 != "" && !l.1.startsWith "#"
    let read := lines.map fun (l, i) => (i, checkedLine? k l)
    let silent := o.has 'S'
    let results ← Sh.collect read fun (i, r) => do
      match r with
      | none =>
        if o.has 'w' then
          tell name (shown ++ ": " ++ toString i ++ ": improperly formatted " ++ k.tag ++ " checksum line")
        return (none, 0)
      | some (digest, file) =>
        let told := (digestName file).1
        let mark := if (digestName file).2 then "\\" else ""
        match ← Sh.contents file with
        | .ok content =>
          if k.text content = digest.toLower then
            if !silent && !o.has 'q' then Sh.print (mark ++ told ++ ": OK\n")
            return (some true, 0)
          else
            if !silent then Sh.print (mark ++ told ++ ": FAILED\n")
            return (some false, 1)
        | .error r =>
          if o.has 'i' && r matches .notFound then return (none, 3)
          else
            tell name (Quoting.name file ++ ": " ++ r.reason)
            if !silent then Sh.print (mark ++ told ++ ": FAILED open or read\n")
            return (some false, 2)
    let count (n : Nat) : Nat := (results.filter (·.2 = n)).length
    let bad := (read.filter (·.2.isNone)).length
    if bad = read.length then
      fail name (Quoting.name shown ++ ": no properly formatted checksum lines found") 1
    else
      let warn (n : Nat) (one many : String) : Sh Unit :=
        if 0 < n && !silent then tell name ("WARNING: " ++ plural n one many) else pure ()
      warn bad "line is improperly formatted" "lines are improperly formatted"
      warn (count 2) "listed file could not be read" "listed files could not be read"
      warn (count 1) "computed checksum did NOT match" "computed checksums did NOT match"
      let verified := results.any fun r => r.1 = some true
      if o.has 'i' && !verified && count 1 = 0 then
        fail name (Quoting.name shown ++ ": no file was verified") 1
      else return if 0 < count 1 || 0 < count 2 || (o.has 'X' && 0 < bad) then 1 else 0

/-- The names of the options for digests. -/
def digestOptions : OptionNames :=
  { letters := "bctwz", valued := "la", wordly := "TUqSXiRB", words := [("binary", 'b'), ("check", 'c'), ("tag", 'T'),
      ("untagged", 'U'), ("text", 't'), ("zero", 'z'), ("ignore-missing", 'i'), ("quiet", 'q'), ("status", 'S'),
      ("strict", 'X'), ("warn", 'w'), ("length", 'l'), ("algorithm", 'a'), ("raw", 'R'), ("base64", 'B')] }

/-- Prints digests of files, or checks them. -/
def digestsWith (kind : DigestKind) (cut : Bool) : Utility := fun _ name args =>
  withOptions { digestOptions with valued := if cut then "l" else "" } true 1 name args fun o => do
    let length := (o.value? 'l').bind natural?
    match o.value? 'l', length with
    | some v, none => fail name ("invalid length: " ++ Quoting.curly v) 1
    | _, _ =>
      let bits := length.getD 0
      if bits % 8 != 0 then
        tell name ("invalid length: " ++ Quoting.curly ((o.value? 'l').getD ""))
        fail name "length is not a multiple of 8" 1
      else if 512 < bits then
        tell name ("invalid length: " ++ Quoting.curly ((o.value? 'l').getD ""))
        fail name "maximum digest length for 'BLAKE2b' is 512 bits" 1
      else
        let k : DigestKind := if bits = 0 then kind
          else { kind with tag := kind.tag ++ "-" ++ toString bits, size := bits / 8, digest := Digest.mixing (bits / 8) }
        if o.has 'c' && o.has 'T' then misused name "the --tag option is meaningless when verifying checksums" 1
        else if o.has 'c' then refusedAtEnd name (← Sh.worst (orInput o.operands) (checkDigests name k o))
        else if o.has 'q' then misused name "the --quiet option is meaningful only when verifying checksums" 1
        else if o.has 'S' then misused name "the --status option is meaningful only when verifying checksums" 1
        else if o.has 'w' then misused name "the --warn option is meaningful only when verifying checksums" 1
        else
          let binary := o.last? ['b', 't'] = some 'b'
          refusedAtEnd name (← eachContent name o.operands plainComplaint fun path text => do
            Sh.print (digestLine k (o.has 'T') binary (o.has 'z') (k.text text) path)
            return 0)

/-- Prints digests of a way, by its name. -/
def digests (way : String) : Utility :=
  match digestKinds.lookup way with
  | some k => digestsWith k (way = "blake2b")
  | none => fun _ _ _ => return 1

/-- The line for the sum of a file that is named, or of the input. -/
def sumLine (plain : Bool) (text : String) (path? : Option String) : String :=
  let octets := text.toList.map Char.toNat
  let blocks (size : Nat) : Nat := (octets.length + size - 1) / size
  let name := match path? with
    | some path => " " ++ path
    | none => ""
  (if plain then toString (Digest.plain octets) ++ " " ++ toString (blocks 512)
    else
      let digits := toString (Digest.turning octets)
      let count := toString (blocks 1024)
      String.ofList (List.replicate (5 - digits.length) '0') ++ digits ++ " " ++
        String.ofList (List.replicate (5 - count.length) ' ') ++ count) ++ name ++ "\n"

/-- Prints sums of files. -/
def sum : Utility := fun _ name args =>
  withOptions { letters := "rs", words := [("sysv", 's')] } true 1 name args fun o => do
    refusedAtEnd name (← eachContent name o.operands plainComplaint fun path text => do
      Sh.print (sumLine (o.last? ['r', 's'] = some 's') text (if o.operands.isEmpty then none else some path))
      return 0)

/-- Prints sums that find errors, or digests. -/
def cksum : Utility := fun e name args =>
  withOptions digestOptions true 1 name args fun o => do
    let way := (o.value? 'a').getD "crc"
    let named (path : String) : Option String := if o.operands.isEmpty then none else some path
    match way with
    | "crc" =>
      refusedAtEnd name (← eachContent name o.operands plainComplaint fun path text => do
        let crc := Digest.cyclic (text.toList.map Char.toNat)
        Sh.print (toString crc ++ " " ++ toString text.length ++ (match named path with
          | some p => " " ++ p
          | none => "") ++ "\n")
        return 0)
    | "bsd" =>
      refusedAtEnd name (← eachContent name o.operands plainComplaint fun path text => do
        Sh.print (sumLine false text (named path))
        return 0)
    | "sysv" =>
      refusedAtEnd name (← eachContent name o.operands plainComplaint fun path text => do
        Sh.print (sumLine true text (named path))
        return 0)
    | way =>
      match digestKinds.lookup way with
      | some k =>
        let kept := o.given.filter fun g => !"aUT".toList.contains g.1
        let flags := kept.map fun (c, v) => (if c = 'l' then "--length=" ++ v else
          match digestOptions.words.find? (·.2 = c) with
          | some w => "--" ++ w.1
          | none => "-" ++ String.singleton c)
        let tagged := if o.has 'c' || o.last? ['U', 'T'] = some 'U' then [] else ["--tag"]
        digestsWith k (way = "blake2b") e name (flags ++ tagged ++ "--" :: o.operands)
      | none =>
        invalidChoice name "--algorithm" way
          ["bsd", "sysv", "crc", "md5", "sha1", "sha224", "sha256", "sha384", "sha512", "blake2b", "sm3"]

/-! ### Texts for octets -/

/-- A way of writing octets: each character stands for some bits, and characters stand in groups. -/
structure Encoding where
  alphabet : List Char
  bits : Nat
  group : Nat
  /-- Groups that are not full are filled up with a sign. -/
  filled : Bool
  /-- The bit that is worth least comes first. -/
  reversed : Bool

namespace Encoding

/-- The letters and digits that characters are taken from. -/
def capitals : List Char := "ABCDEFGHIJKLMNOPQRSTUVWXYZ".toList

/-- The digits. -/
def figures : List Char := "0123456789".toList

/-- Sixty-four characters. -/
def base64 : Encoding := ⟨capitals ++ capitals.map Char.toLower ++ figures ++ ['+', '/'], 6, 4, true, false⟩

/-- Sixty-four characters that have no other meaning in addresses. -/
def base64url : Encoding := ⟨capitals ++ capitals.map Char.toLower ++ figures ++ ['-', '_'], 6, 4, true, false⟩

/-- Thirty-two characters. -/
def base32 : Encoding := ⟨capitals ++ "234567".toList, 5, 8, true, false⟩

/-- Thirty-two characters in their own order. -/
def base32hex : Encoding := ⟨figures ++ capitals.take 22, 5, 8, true, false⟩

/-- The digits of base 16. -/
def base16 : Encoding := ⟨figures ++ capitals.take 6, 4, 2, false, false⟩

/-- The digits of base 2. -/
def base2 : Encoding := ⟨['0', '1'], 1, 8, false, false⟩

/-- The bits of a number, the one that is worth most first. -/
def bitsOf (count n : Nat) : List Bool := (List.range count).map fun k => n.testBit (count - 1 - k)

/-- The number of some bits. -/
def ofBits (bs : List Bool) : Nat := bs.foldl (fun n b => 2 * n + b.toNat) 0

/-- The bits of octets. -/
def octetBits (e : Encoding) (cs : List Char) : List Bool :=
  cs.flatMap fun c => if e.reversed then (bitsOf 8 c.toNat).reverse else bitsOf 8 c.toNat

/-- Octets as they are written. -/
def encode (e : Encoding) (cs : List Char) : List Char :=
  let bits := e.octetBits cs
  let digits := (Digest.pieces e.bits (bits.length + 1) bits).map fun piece =>
    (e.alphabet[ofBits (piece ++ List.replicate (e.bits - piece.length) false)]?).getD '='
  if e.filled then digits ++ List.replicate ((e.group - digits.length % e.group) % e.group) '=' else digits

/-- The octets that the characters of a group stand for. -/
def octets (e : Encoding) (cs : List Char) : List Char :=
  let bits := cs.flatMap fun c => bitsOf e.bits (e.alphabet.idxOf c)
  ((Digest.pieces 8 (bits.length + 1) bits).filter fun p => p.length = 8).map fun p =>
    Char.ofNat (ofBits (if e.reversed then p.reverse else p))

/-- The octets that are written, up to the first mistake if there is one; and whether there is none. -/
def decode (e : Encoding) : (fuel : Nat) → List Char → List Char × Bool
  | 0, _ => ([], false)
  | n + 1, cs =>
    if cs.isEmpty then ([], true)
    else
      let group := cs.take e.group
      let body := group.takeWhile e.alphabet.contains
      let rest := group.drop body.length
      let whole := body.length * e.bits / 8
      let isRight := group.length = e.group && (rest.isEmpty ||
        (e.filled && 0 < whole && rest.all (· = '=') && (whole * 8 + e.bits - 1) / e.bits = body.length))
      if isRight then
        let (more, good) := decode e n (cs.drop e.group)
        (e.octets body ++ more, good)
      else if e.bits = 6 || group.length = e.group then (e.octets body, false)
      else ([], false)

end Encoding

/-- The ways of writing octets, by the letters of options. -/
def encodings : List (Char × Encoding) := [('6', .base64), ('U', .base64url), ('3', .base32), ('H', .base32hex),
  ('1', .base16), ('2', .base2), ('L', { Encoding.base2 with reversed := true })]

/-- Writes octets in a way, or in the one that is asked for, or reads them again. -/
def encoding (usual : Option Encoding) : Utility := fun _ name args =>
  let names : OptionNames := {
    letters := "di"
    valued := "w"
    wordly := "6U3H12L"
    words := [("decode", 'd'), ("ignore-garbage", 'i'), ("wrap", 'w')] ++ (if usual.isSome then [] else
      [("base64", '6'), ("base64url", 'U'), ("base32", '3'), ("base32hex", 'H'), ("base16", '1'), ("base2msbf", '2'),
        ("base2lsbf", 'L')]) }
  withOptions names true 1 name args fun o => do
    let asked := usual.or ((o.last? (encodings.map (·.1))).bind fun c => encodings.lookup c)
    let wrap := (o.value? 'w').getD "76"
    match asked, natural? wrap, o.operands with
    | _, none, _ => fail name ("invalid wrap size: " ++ Quoting.curly wrap) 1
    | none, _, _ => misused name "missing encoding type" 1
    | _, _, _ :: extra :: _ => extraOperand name extra
    | some e, some width, operands =>
      match ← Sh.contents (operands.headD "-") with
      | .error r => fail name (plainComplaint (operands.headD "-") r.reason) 1
      | .ok text =>
        if o.has 'd' then
          let cs := text.toList.filter (· != '\n')
          let cs := if o.has 'i' then cs.filter fun c => e.alphabet.contains c || c = '=' else cs
          let (octets, good) := e.decode (cs.length + 1) cs
          Sh.print (String.ofList octets)
          if good then refusedAtEnd name 0 else fail name "invalid input" 1
        else
          let cs := e.encode text.toList
          let lines := if width = 0 then [cs] else Digest.pieces width (cs.length + 1) cs
          Sh.print ("\n".intercalate (lines.map String.ofList) ++ if width = 0 || cs.isEmpty then "" else "\n")
          refusedAtEnd name 0

/-- Writes octets with sixty-four characters. -/
def base64 : Utility := encoding (some .base64)

/-- Writes octets with thirty-two characters. -/
def base32 : Utility := encoding (some .base32)

/-- Writes octets in the way that is asked for. -/
def basenc : Utility := encoding none

end Retrace.Unix.Utility
