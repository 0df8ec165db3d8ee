import Retrace.Unix.Multibyte

/-!
# Quoting

Texts written in such a way that a shell reads them as one word. There are
several ways: with backslashes, between single or double quotes, and between
quotes in which letters after a backslash stand for characters that cannot be
shown.
-/

namespace Retrace.Unix.Quoting

/-- Whether a character needs a backslash to stand for itself. -/
def isSpecial (c : Char) : Bool :=
  " !\"$&'()*;<>?[\\]^\x60\x7b|\x7d,".toList.contains c

/-- Whether a character cannot be shown. -/
def isControl (c : Char) : Bool :=
  c < ' ' || c = '\x7f' || (0x80 ≤ c.toNat && c.toNat < 0xa0) || c.toNat = 0x2028 || c.toNat = 0x2029 ||
    Multibyte.isStray c

/-- Whether a text has characters that cannot be shown. -/
def hasControl (s : String) : Bool :=
  (Multibyte.characters s.toList).any isControl

/-- The octal digits of an octet after a backslash. -/
def octal (c : Char) : List Char :=
  let digits := Nat.toDigits 8 c.toNat
  '\\' :: (List.replicate (3 - digits.length) '0' ++ digits)

/-- A character inside quotes in which letters after a backslash have a meaning. -/
def shown (c : Char) : List Char :=
  match c with
  | '\n' => ['\\', 'n']
  | '\t' => ['\\', 't']
  | '\r' => ['\\', 'r']
  | '\x07' => ['\\', 'a']
  | '\x08' => ['\\', 'b']
  | '\x0b' => ['\\', 'v']
  | '\x0c' => ['\\', 'f']
  | '\x1b' => ['\\', 'E']
  | '\\' => ['\\', '\\']
  | '\'' => ['\\', '\'']
  | c => if isControl c then (Multibyte.octets c).flatMap octal else Multibyte.octets c

/-- A text between quotes in which letters after a backslash have a meaning. -/
def ansi (s : String) : String :=
  "$'" ++ String.ofList ((Multibyte.characters s.toList).flatMap shown) ++ "'"

/-- A text between single quotes. -/
def single (s : String) : String :=
  "'" ++ "'\\''".intercalate (s.splitOn "'") ++ "'"

/-- A text between double quotes. -/
def doubled (s : String) : String :=
  "\"" ++ String.ofList (s.toList.flatMap fun c =>
    if "\"\\$\x60".toList.contains c then ['\\', c] else [c]) ++ "\""

/-- A text written with backslashes. -/
def word (s : String) : String :=
  let cs := s.toList
  if cs.isEmpty then "''"
  else if hasControl s then ansi s
  else
    let quoted := cs.zipIdx.flatMap fun (c, i) =>
      if isSpecial c || (i = 0 && (c = '#' || c = '~')) then ['\\', c] else [c]
    String.ofList quoted

/-- A text in quotes, so that it can be used again. -/
def reusable (s : String) : String :=
  if hasControl s then ansi s else single s

/-- A value in quotes, as it is shown in declarations. -/
def valued (s : String) : String :=
  if hasControl s then ansi s else doubled s

/-- Whether a text means something else without quotes. -/
def hasMeaning (s : String) : Bool :=
  s.toList.any (fun c => " \t\n'\"\\|&;()<>!\x7b\x7d*[]?^$\x60".toList.contains c) ||
    s.startsWith "~" || s.startsWith "#" || hasTilde s.toList
where
  /-- Whether a tilde follows a sign. -/
  hasTilde : List Char → Bool
    | '=' :: '~' :: _ => true
    | ':' :: '~' :: _ => true
    | _ :: cs => hasTilde cs
    | [] => false

/-- A value in quotes if it needs them. -/
def ifNeeded (s : String) : String :=
  if hasControl s then ansi s
  else if hasMeaning s then single s
  else s

/-- A value in quotes if it needs them, where what is run is shown. -/
def traced (s : String) : String :=
  if hasMeaning s then single s
  else if hasControl s then ansi s
  else s

/-- An argument in quotes if it needs them, where what is run is shown. -/
def tracedArgument (s : String) : String :=
  if s = "" then "''" else traced s

/-! ### Names in complaints -/

/-- Whether a character can stand in a name without quotes. -/
def isPlain (first : Bool) (c : Char) : Bool :=
  c.isAlphanum || "%+,-./:@]_\x7b\x7d".toList.contains c || (!first && (c = '#' || c = '~')) ||
    (0x80 ≤ c.toNat && !isControl c)

/-- The parts of a text that can and that cannot be shown. -/
def runs (cs : List Char) : List (Bool × List Char) :=
  cs.foldr (fun c rs =>
    match rs with
    | (control, ds) :: more =>
      if control = isControl c then (control, c :: ds) :: more else (isControl c, [c]) :: rs
    | [] => [(isControl c, [c])]) []

/-- A character that cannot be shown, by a letter or by its octets. -/
def shownControl (c : Char) : List Char :=
  if c = '\x1b' then octal c else shown c

/-- A name in quotes. -/
def always (s : String) : String :=
  let cs := Multibyte.characters s.toList
  let text (cs : List Char) : String := String.ofList (Multibyte.ofCharacters cs)
  if cs.any isControl then
    let parts := (runs cs).map fun (control, ds) =>
      if control then "$'" ++ String.ofList (ds.flatMap shownControl) ++ "'" else single (text ds)
    let lead := match runs cs with
      | (true, _) :: _ => "''"
      | _ => ""
    lead ++ String.join parts
  else if cs.contains '\'' && cs.all (fun c => c = '\'' || c = ' ' || isPlain false c) then
    "\"" ++ s ++ "\""
  else single s

/-- A name, in quotes if a shell would need them. -/
def escaped (s : String) : String :=
  match Multibyte.characters s.toList with
  | [c] => if isPlain true c && c != '\x7b' && c != '\x7d' then s else always s
  | c :: cs => if isPlain true c && cs.all (isPlain false) then s else always s
  | [] => "''"

/-- A name before a colon, in quotes if it needs them. -/
def name (s : String) : String :=
  if s.toList.contains ':' then always s else escaped s

/-- A text between curly quotes. -/
def curly (s : String) : String :=
  let shownIn (c : Char) : List Char :=
    match c with
    | '\'' => [c]
    | '\x1b' => octal c
    | c => shown c
  Text.Octets.ofText "\u2018" ++ String.ofList ((Multibyte.characters s.toList).flatMap shownIn) ++
    Text.Octets.ofText "\u2019"

end Retrace.Unix.Quoting
