import Retrace.Unix.Expansion
import Retrace.Unix.Regular

/-!
# Conditions

What is asked about texts, numbers and files: by a command whose arguments are
the condition (`Test`), and between double brackets (`Condition`), where words
are not split and patterns and regular expressions can be matched.
-/

namespace Retrace.Unix

/-- The operators on one argument. -/
def isUnaryOperator (extended : Bool) (op : String) : Bool :=
  match op.toList with
  | ['-', c] =>
    (if extended then "abcdefghknoprstuvwxzGLNORS" else "bcdefghknprstuwxzGLOS").toList.contains c
  | _ => false

/-- The operators between two arguments, other than those between conditions. -/
def binaryOperators (extended : Bool) : List String :=
  ["=", "!=", "<", ">", "-eq", "-ne", "-lt", "-le", "-gt", "-ge", "-nt", "-ot", "-ef"] ++
    (if extended then ["=="] else [])

/-- What is at the end of a path. -/
def nodeAt? (s : State) (path : String) (through : Bool) : Option Node :=
  match Sh.streamPath? path with
  | some n =>
    match (s.streams.lookup n).bind fun k => s.channels[k]? with
    | some (.file number _ _ _) => s.files.node? number
    | some (.pipe number) => s.files.node? number
    | some .null => some ⟨.device .null, 0o666, 0⟩
    | some (.sink _ _) => some ⟨.pipe "", 0o600, 0⟩
    | some (.source _ _) => some ⟨.pipe "", 0o600, 0⟩
    | some (.device d) => some ⟨.device d, 0o666, 0⟩
    | some .full => some ⟨.device .full, 0o666, 0⟩
    | some .directory => some ⟨.directory [], 0o755, 0⟩
    | none => none
  | none =>
    match s.files.find s.directory path through with
    | .ok found => some found.node
    | .error _ => none

/-- Whether a parameter that is named, or an item of one, has a value. -/
def isSet (s : State) (arg : String) : Bool :=
  let name := (arg.takeWhile (· != '[')).toString
  if name.length < arg.length then
    let key := ((arg.drop (name.length + 1)).dropEnd 1).toString
    match s.parameters.lookup (Sh.target s.parameters Sh.mostReferences name) with
    | some v =>
      if key = "@" || key = "*" then !v.items.isEmpty
      else
        match Expand.keyOfText name key s with
        | (.done k, _) => (v.items.lookup k).isSome
        | _ => false
    | none => false
  else
    match Expand.special? s arg with
    | some v => v.isSome
    | none =>
      match Expand.items? arg s with
      | (.done (some items), _) => (items.lookup "0").isSome
      | _ => false

/-- Whether an operator on one argument holds. -/
def unaryHolds (s : State) (op arg : String) : Bool :=
  let node := nodeAt? s arg true
  let has (p : Content → Bool) : Bool := node.any fun n => p n.content
  let hasMode (mask : Nat) : Bool := node.any fun n => n.mode &&& mask != 0
  let isLink := (nodeAt? s arg false).any (·.content.isLink)
  match op with
  | "-z" => arg = ""
  | "-n" => arg != ""
  | "-f" => has Content.isFile
  | "-d" => has Content.isDirectory
  | "-s" => node.any (0 < ·.size)
  | "-x" => node.any fun n => n.isDirectory || n.isExecutable
  | "-L" => isLink
  | "-h" => isLink
  | "-c" => has fun
    | .device _ => true
    | _ => false
  | "-p" => has fun
    | .pipe _ => true
    | _ => false
  | "-u" => hasMode 0o4000
  | "-g" => hasMode 0o2000
  | "-k" => hasMode 0o1000
  | "-v" => isSet s arg
  | "-R" => (s.parameters.lookup arg).any (·.isReference)
  | "-o" => s.choices.contains arg
  | _ => if ["-b", "-S", "-t"].contains op then false else node.isSome

/-- Compares numbers. -/
def numbersHold (op : String) (a b : Int) : Bool :=
  match op with
  | "-eq" => a = b
  | "-ne" => a != b
  | "-lt" => a < b
  | "-le" => a ≤ b
  | "-gt" => b < a
  | _ => b ≤ a

/-- Whether two paths lead to the same file. -/
def sameFile (s : State) (a b : String) : Bool :=
  match s.files.find s.directory a true, s.files.find s.directory b true with
  | .ok m, .ok n => m.number == n.number
  | _, _ => false

/-- Whether the first file was changed after the second one, or is the only one there. -/
def isNewer (s : State) (a b : String) : Bool :=
  match nodeAt? s a true, nodeAt? s b true with
  | some m, some n => n.changed < m.changed
  | some _, none => s.dialect.extended
  | _, _ => false

/-- The operators that compare numbers. -/
def comparesNumbers (op : String) : Bool :=
  ["-eq", "-ne", "-lt", "-le", "-gt", "-ge"].contains op

namespace Test

/-- The number in an argument. -/
def integer (extended : Bool) (arg : String) : Except String Int :=
  let trimmed := arg.trimAscii.toString
  let digits := if trimmed.startsWith "-" || trimmed.startsWith "+" then (trimmed.drop 1).toString else trimmed
  let complaint := if extended then arg ++ ": integer expression expected" else "Illegal number: " ++ arg
  match digits.toNat? with
  | some n =>
    let n : Int := if trimmed.startsWith "-" then -n else n
    if !(digits.toList.contains '_') && Int64.minValue.toInt ≤ n && n ≤ Int64.maxValue.toInt then .ok n else .error complaint
  | none => .error complaint

/-- Whether an operator between two arguments holds. -/
def binaryHolds (s : State) (op a b : String) : Except String Bool := do
  if comparesNumbers op then
    return numbersHold op (← integer s.dialect.extended a) (← integer s.dialect.extended b)
  else
    return match op with
      | "!=" => a != b
      | "<" => a < b
      | ">" => b < a
      | "-ef" => sameFile s a b
      | "-nt" => isNewer s a b
      | "-ot" => isNewer s b a
      | _ => a = b

/-- Whether an operator on an argument holds, which may have to be a number. -/
def unary (s : State) (op a : String) : Except String Bool := do
  if op = "-t" then
    let _ ← integer s.dialect.extended a
    return false
  else return unaryHolds s op a

/-- The arguments that are left, and the last one that was taken. -/
structure Reading where
  rest : List String
  last : String

/-- The reading of arguments. What is wrong is told in words. -/
abbrev Read := StateT Reading (Except String)

/-- Takes the next argument. -/
def take? : Read (Option String) := do
  let r ← get
  match r.rest with
  | a :: rest =>
    set (⟨rest, a⟩ : Reading)
    return some a
  | [] => return none

/-- The condition at the beginning of the arguments. -/
def primary (s : State) (deeper : Read Bool) : (negations : Nat) → Read Bool
  | 0 => throw "too many arguments"
  | n + 1 => do
    let extended := s.dialect.extended
    match (← get).rest with
    | a :: op :: b :: rest =>
      if (binaryOperators extended).contains op then
        set (⟨rest, b⟩ : Reading)
        return ← binaryHolds s op a b
    | [a, op] =>
      if !extended && (binaryOperators extended).contains op && !isUnaryOperator extended a && a != "!" then
        throw (op ++ ": argument expected")
    | _ => pure ()
    match ← take? with
    | none => if extended then throw "argument expected" else return false
    | some "!" => return !(← primary s deeper n)
    | some "(" =>
      if (← get).rest.isEmpty then return true
      else
        let v ← deeper
        if (← take?) = some ")" then return v
        else throw (if extended then "\x60)' expected" else "closing paren expected")
    | some a =>
      if isUnaryOperator extended a then
        match ← take? with
        | some b => unary s a b
        | none => return true
      else return a != ""

/-- Conditions joined by an operator. -/
def joined (op : String) (combine : Bool → Bool → Bool) (operand : Read Bool) :
    (fuel : Nat) → Bool → Read Bool
  | 0, v => return v
  | n + 1, v => do
    let r ← get
    if r.rest.head? = some op then
      set { r with rest := r.rest.drop 1, last := op }
      let w ← operand
      joined op combine operand n (combine v w)
    else return v

/-- A condition in which parentheses are nested at most as deeply as given. -/
def condition (s : State) : (depth : Nat) → Read Bool
  | 0 => throw "too many arguments"
  | n + 1 => do
    let length := (← get).rest.length + 1
    let conjunction : Read Bool := do
      let v ← primary s (condition s n) length
      joined "-a" (· && ·) (primary s (condition s n) length) length v
    let v ← conjunction
    joined "-o" (· || ·) conjunction length v

/-- Whether all arguments are a condition that holds. -/
def whole (s : State) (args : List String) : Except String Bool := do
  let (v, r) ← (condition s (args.length + 1)).run ⟨args, ""⟩
  if r.rest.isEmpty then return v
  else if s.dialect.extended then
    let next := r.rest.headD ""
    .error (if next.startsWith "-" then "syntax error: \x60" ++ next ++ "' unexpected"
      else "too many arguments")
  else .error (if r.last = "" then "unexpected operator" else r.last ++ ": unexpected operator")

/-- Whether two arguments are a condition that holds. -/
def two (s : State) (a b : String) : Except String Bool :=
  if a = "!" then .ok (b = "")
  else if isUnaryOperator s.dialect.extended a then unary s a b
  else if s.dialect.extended then .error (a ++ ": unary operator expected")
  else whole s [a, b]

/-- Whether three arguments are a condition that holds. -/
def three (s : State) (a b c : String) : Except String Bool :=
  if (binaryOperators s.dialect.extended).contains b then binaryHolds s b a c
  else if b = "-a" then .ok (a != "" && c != "")
  else if b = "-o" then .ok (a != "" || c != "")
  else if a = "!" then (two s b c).map (!·)
  else if a = "(" && c = ")" then .ok (b != "")
  else if s.dialect.extended then .error (b ++ ": binary operator expected")
  else whole s [a, b, c]

/-- Whether some arguments are a condition that holds. -/
def holds (s : State) : List String → Except String Bool
  | [] => .ok false
  | [a] => .ok (a != "")
  | [a, b] => two s a b
  | [a, b, c] => three s a b c
  | [a, b, c, d] =>
    if a = "!" then (three s b c d).map (!·)
    else if a = "(" && d = ")" then two s b c
    else whole s [a, b, c, d]
  | args => whole s args

end Test

/-! ### Conditions between brackets -/

namespace Condition

/-- The expression that a word stands for, whose quoted characters stand for themselves. -/
def expression (ps : List Piece) : String :=
  String.ofList ((Piece.marked ps).flatMap fun (c, quoted) =>
    if quoted && "\\^$.*+?()[]\x7b\x7d|".toList.contains c then ['\\', c] else [c])

/-- A pattern as it is shown, with backslashes before quoted characters. -/
def shownPattern (ps : List Piece) : String :=
  String.ofList ((Piece.marked ps).flatMap fun (c, quoted) => if quoted then ['\\', c] else [c])

/-- Remembers what an expression and its groups matched. -/
def remember (r : Regular) (text : List Char) (m : Regular.Match) : Sh Unit := do
  let part (a b : Nat) : String :=
    String.ofList (Multibyte.ofCharacters ((text.take b).drop a))
  let groups := (List.range r.groupCount).map fun k =>
    match m.groups.lookup (k + 1) with
    | some (a, b) => part a b
    | none => ""
  Sh.setVariable "BASH_REMATCH" (some (Expand.listOf (part m.start m.stop :: groups)))

/-- Shows a condition that was looked at, if that was chosen. -/
def trace (e : Engine) (negated : Bool) (words : List String) : Sh Unit :=
  Expand.trace e ("[[ " ++ (if negated then "! " else "") ++
    " ".intercalate (words.map fun w => if w = "" then "''" else w) ++ " ]]")

/-- How the extended dialect writes regular expressions. -/
def writing : Regular.Writing := ⟨true, false, true, false⟩

/-- Whether a text is matched by a regular expression; `none` if that means nothing. -/
def expressionHolds (x source : String) : Sh (Option Bool) := do
  match Regular.read writing source with
  | .error _ => return none
  | .ok r =>
    let text := Multibyte.characters x.toList
    match Regular.find? ⟨← Sh.chosen "nocasematch", false, false⟩ r text 0 with
    | some m =>
      remember r text m
      return some true
    | none =>
      Sh.setVariable "BASH_REMATCH" (some { Variable.unset with isList := true, isGiven := true })
      return some false

/-- Whether a text is matched by a pattern, in which there may be lists of patterns. -/
def patternHolds (x : String) (ps : List Piece) : Sh Bool := do
  let p := Pattern.ofOctets true (Piece.marked ps)
  let cs := Multibyte.characters x.toList
  if ← Sh.chosen "nocasematch" then
    return Pattern.admitsAll (p.map Wild.folded) (cs.map Multibyte.lower)
  else return p.admitsAll cs

/-- Whether an operator between two words holds; `none` if the words mean nothing. -/
def binaryHolds (e : Engine) (negated : Bool) (op : String) (a b : Spelled) : Sh (Option Bool) := do
  let x ← Expand.single e a.meaning
  if op = "=~" then
    let source := expression (← e.expand b.meaning)
    trace e negated [x, op, source]
    expressionHolds x source
  else if op = "=" || op = "==" || op = "!=" then
    let ps ← e.expand (← Expand.tilde b.meaning)
    trace e negated [x, op, shownPattern ps]
    return some ((← patternHolds x ps) != (op == "!="))
  else
    let y ← Expand.single e b.meaning
    trace e negated [x, op, y]
    if comparesNumbers op then
      let number (text : String) : Sh (Option Int) := do
        match ← Formula.evaluate text with
        | .ok n => return some n.toInt
        | .error f =>
          Sh.complain ("[[: " ++ Formula.complaint true text f)
          return none
      match ← number x with
      | some m =>
        match ← number y with
        | some n => return some (numbersHold op m n)
        | none => return some false
      | none => return some false
    else
      let s ← Sh.ask id
      return some (match op with
        | "<" => decide (x < y)
        | ">" => decide (y < x)
        | "-ef" => sameFile s x y
        | "-nt" => isNewer s x y
        | _ => isNewer s y x)

/-- Whether a condition holds; `none` if it means nothing. With `negated` a negation comes
    before it. -/
def holds (e : Engine) (negated : Bool) : Condition → Sh (Option Bool)
  | .word w => do
    let x ← Expand.single e w.meaning
    trace e negated ["-n", x]
    return some (x != "")
  | .unary op w => do
    let x ← Expand.single e w.meaning
    trace e negated [op, x]
    return some (← Sh.ask fun s => unaryHolds s op x)
  | .binary op a b => binaryHolds e negated op a b
  | .not c => do return (← holds e (!negated) c).map (!·)
  | .and c d => do
    match ← holds e false c with
    | some true => holds e false d
    | v => return v
  | .or c d => do
    match ← holds e false c with
    | some false => holds e false d
    | v => return v
  | .group c => holds e negated c

end Condition

end Retrace.Unix
