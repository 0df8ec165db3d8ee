import Retrace.Decimal.Binary64
import Retrace.Unix.Quantity

/-!
# Tokens of scripts for records

The words, signs and texts that a script is made of. The ends of lines are tokens,
since they can end statements. Whether a slash divides or begins an expression is
seen from the token before it.
-/

namespace Retrace.Unix

namespace RecordScript

/-- A part of a script. -/
inductive Token where
  | number (x : Float)
  | text (s : String)
  | regular (s : String)
  | name (s : String)
  /-- A name with a parenthesis that follows directly. -/
  | function (s : String)
  /-- A word with a meaning. -/
  | word (s : String)
  /-- The name of a function that all scripts have. -/
  | known (s : String)
  | sign (s : String)
  | newline
  | finish
  deriving BEq

/-- The words with a meaning. -/
def words : List String := ["BEGIN", "END", "break", "continue", "delete", "do", "else", "exit", "for", "func", "function",
  "getline", "if", "in", "next", "nextfile", "print", "printf", "return", "while"]

/-- The functions that all scripts have, with the least and greatest number of arguments. -/
def knownFunctions : List (String × Nat × Nat) := [("atan2", 2, 2), ("close", 1, 1), ("cos", 1, 1), ("exp", 1, 1),
  ("fflush", 0, 1), ("gsub", 2, 3), ("index", 2, 2), ("int", 1, 1), ("length", 0, 1), ("log", 1, 1), ("match", 2, 2),
  ("mktime", 1, 1), ("rand", 0, 0), ("sin", 1, 1), ("split", 2, 3), ("sprintf", 1, 255), ("sqrt", 1, 1),
  ("srand", 0, 1), ("strftime", 0, 3), ("sub", 2, 3), ("substr", 2, 3), ("system", 1, 1), ("systime", 0, 0),
  ("tolower", 1, 1), ("toupper", 1, 1)]

/-- The signs, the longer ones first. -/
def signs : List String := ["+=", "-=", "*=", "/=", "%=", "^=", "==", "<=", ">=", "!=", "++", "--", "&&", "||", ">>", "!~",
  "+", "-", "*", "/", "%", "^", "!", ">", "<", "|", "?", ":", "~", "$", "=", "(", ")", "[", "]", "\x7b", "\x7d", ";", ","]

/-- Whether a token ends what has a value, so that a slash after it divides. -/
def Token.endsValue : Token → Bool
  | .number _ => true
  | .text _ => true
  | .regular _ => true
  | .name _ => true
  | .known _ => true
  | .sign s => s = ")" || s = "]" || s = "++" || s = "--" || s = "$"
  | _ => false

/-- A token as it is shown. -/
def Token.shown : Token → String
  | .number x => if x == x.floor && x.abs < 1e15 then toString x.toInt64.toInt else toString x
  | .text s => "\"" ++ s ++ "\""
  | .regular s => "/" ++ s ++ "/"
  | .name s => s
  | .function s => s
  | .word s => s
  | .known s => s
  | .sign s => s
  | .newline => "end of line"
  | .finish => "end of line"

/-- The number of a quantity. -/
def floatOf : Quantity → Float
  | .finite f => Decimal.Binary64.nearest f.negative f.numerator f.denominator
  | .infinite negative => Decimal.Binary64.infinity negative
  | .undefined _ => 0.0 / 0.0

/-- What some characters after a backslash stand for, if they have a meaning, and what is left after them. -/
def escape? (cs : List Char) : Option (Char × List Char) :=
  let octal := (cs.takeWhile fun d => '0' ≤ d && d ≤ '7').take 3
  let hexadecimal := ((cs.drop 1).takeWhile fun d => (digitValue? 16 d).isSome).take 2
  if !octal.isEmpty then some (Char.ofNat (numberOf 8 octal % 256), cs.drop octal.length)
  else if cs.head? = some 'x' && !hexadecimal.isEmpty then
    some (Char.ofNat (numberOf 16 hexadecimal), cs.drop (hexadecimal.length + 1))
  else match cs with
    | [] => none
    | c :: rest =>
      (([('"', '"'), ('\\', '\\'), ('a', '\x07'), ('b', '\x08'), ('f', '\x0c'), ('n', '\n'), ('r', '\r'), ('t', '\t'),
        ('v', '\x0b')] : List (Char × Char)).lookup c).map (·, rest)

/-- A text between quotes, and what is left after the quote that closes it. -/
def quoted : (fuel : Nat) → List Char → Option (List Char × List Char)
  | 0, _ => none
  | _, [] => none
  | _, '\n' :: _ => none
  | _, '"' :: cs => some ([], cs)
  | n + 1, '\\' :: '\n' :: cs => quoted n cs
  | n + 1, '\\' :: c :: cs =>
    match escape? (c :: cs) with
    | some (d, rest) => (quoted n rest).map fun (s, rest) => (d :: s, rest)
    | none => (quoted n cs).map fun (s, rest) => ('\\' :: c :: s, rest)
  | n + 1, c :: cs => (quoted n cs).map fun (s, rest) => (c :: s, rest)

/-- A text in which backslashes have a meaning. -/
def unescaped : (fuel : Nat) → List Char → List Char
  | 0, cs => cs
  | _, [] => []
  | n + 1, '\\' :: cs =>
    match escape? cs with
    | some (d, rest) => d :: unescaped n rest
    | none => '\\' :: unescaped n cs
  | n + 1, c :: cs => c :: unescaped n cs

/-- An expression between slashes, and what is left after the slash that closes it. In brackets a slash closes
    nothing. -/
def slashed : (inSet : Bool) → List Char → Option (List Char × List Char)
  | _, [] => none
  | _, '\n' :: _ => none
  | false, '/' :: cs => some ([], cs)
  | inSet, '\\' :: '/' :: cs => (slashed inSet cs).map fun (s, rest) => ('/' :: s, rest)
  | inSet, '\\' :: c :: cs => (slashed inSet cs).map fun (s, rest) => ('\\' :: c :: s, rest)
  | false, '[' :: '^' :: ']' :: cs => (slashed true cs).map fun (s, rest) => ('[' :: '^' :: ']' :: s, rest)
  | false, '[' :: ']' :: cs => (slashed true cs).map fun (s, rest) => ('[' :: ']' :: s, rest)
  | false, '[' :: cs => (slashed true cs).map fun (s, rest) => ('[' :: s, rest)
  | true, ']' :: cs => (slashed false cs).map fun (s, rest) => (']' :: s, rest)
  | inSet, c :: cs => (slashed inSet cs).map fun (s, rest) => (c :: s, rest)

/-- A name or a word. -/
def named (s : String) (parenthesis : Bool) : Token :=
  if words.contains s then .word (if s = "func" then "function" else s)
  else if knownFunctions.any (·.1 = s) then .known s
  else if parenthesis then .function s
  else .name s

/-- The tokens of a script with the numbers of their lines, given the line and the token before. -/
def tokens : (fuel : Nat) → (line : Nat) → (before : Token) → List Char → Except String (List (Token × Nat))
  | 0, line, _, _ => .ok [(.finish, line)]
  | _, line, _, [] => .ok [(.finish, line)]
  | n + 1, line, before, c :: cs =>
    let go (t : Token) (rest : List Char) : Except String (List (Token × Nat)) :=
      (tokens n line t rest).map ((t, line) :: ·)
    if c = '\n' then (tokens n (line + 1) .newline cs).map ((.newline, line) :: ·)
    else if c = ' ' || c = '\t' || c = '\r' then tokens n line before cs
    else if c = '#' then tokens n line before (cs.dropWhile (· != '\n'))
    else if c = '\\' && cs.head? = some '\n' then tokens n (line + 1) before (cs.drop 1)
    else if c = '"' then
      match quoted (cs.length + 1) cs with
      | some (s, rest) =>
        let lines := ((cs.take (cs.length - rest.length)).filter (· = '\n')).length
        (tokens n (line + lines) (.text "") rest).map ((.text (String.ofList s), line) :: ·)
      | none => .error ("line " ++ toString line ++ ": runaway string constant \"" ++
          String.ofList ((cs.takeWhile (· != '\n')).take 10) ++ " ...")
    else if c = '/' && !before.endsValue then
      match slashed false cs with
      | some (s, rest) => go (.regular (String.ofList s)) rest
      | none => .error ("line " ++ toString line ++ ": runaway regular expression /" ++
          String.ofList ((cs.takeWhile (· != '\n')).take 10) ++ " ...")
    else if beginsName c then
      let word := c :: cs.takeWhile continuesName
      let rest := cs.drop (word.length - 1)
      go (named (String.ofList word) (rest.head? = some '(')) rest
    else if c.isDigit || (c = '.' && cs.head?.any Char.isDigit) then
      -- letters after a zero are a name
      let digits := if c = '0' && (cs.head? = some 'x' || cs.head? = some 'X') then [c] else c :: cs
      match Quantity.unsigned? false digits with
      | some (q, rest) =>
        let x := floatOf (Quantity.rounded .double q).1
        let rest := if digits.length = 1 then cs else rest
        if x.isInf then
          .error ("line " ++ toString line ++ ": " ++ String.ofList ((c :: cs).take (cs.length + 1 - rest.length)) ++
            " : decimal overflow")
        else go (.number x) rest
      | none => go (.sign (String.singleton c)) cs
    else match signs.find? fun s => s.toList.isPrefixOf (c :: cs) with
      | some s => go (.sign s) ((c :: cs).drop s.length)
      | none => .error (toString line ++ ": unexpected character '" ++ String.singleton c ++ "'")

end RecordScript

end Retrace.Unix
