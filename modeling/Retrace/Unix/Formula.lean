import Retrace.Unix.Reader
import Retrace.Unix.Quoting
import Retrace.Unix.State

/-!
# Formulas

What is calculated between double parentheses: whole numbers of 64 bits, with
the operators of C. A name stands for the value of a parameter, which is a
formula itself in the extended dialect and has to be a number in the other one;
a parameter without a value counts as zero.

A formula is split into tokens, read into a tree and then evaluated. What is
wrong with one is told together with what was left of it at that point.
-/

namespace Retrace.Unix

/-- What can be wrong with a formula. -/
inductive FormulaProblem where
  | division
  | exponent
  /-- Something is missing that an operator needs. -/
  | operand
  /-- A character means nothing. -/
  | character
  /-- Something follows where the formula should end. -/
  | trailing
  | parenthesis
  | colon
  /-- What is assigned to is no parameter. -/
  | target
  /-- A digit is none in its base. -/
  | digit
  | base
  /-- Names stand for formulas without end. -/
  | depth
  /-- The value of a parameter is no number. -/
  | value

/-- Why a formula has no value. -/
structure FormulaFault where
  problem : FormulaProblem
  /-- What was left of the formula. -/
  token : String
  /-- What followed that and is not shown. -/
  hidden : String
  /-- The formula, if it is the value of a parameter. -/
  inner : Option String

/-- A fault in the formula itself. -/
def FormulaFault.at (p : FormulaProblem) (token : String) : FormulaFault := ⟨p, token, "", none⟩

/-- A fault in a formula that is the value of a parameter. -/
def FormulaFault.inside (s : String) (f : FormulaFault) : FormulaFault :=
  { f with inner := f.inner.or (some s) }

/-- The operators between two operands, by how strongly they bind. -/
inductive Operator where
  | comma
  | or | and
  | bitOr | bitXor | bitAnd
  | equal | unequal
  | less | lessEqual | greater | greaterEqual
  | shiftLeft | shiftRight
  | add | sub
  | mul | div | mod
  | pow
deriving DecidableEq

/-- The operators before an operand. -/
inductive Sign where
  | plus | minus | not | complement

/-- What formulas are made of. -/
inductive Formula where
  | number (n : Int64)
  /-- A parameter, or the item of a key, which may be a formula itself. -/
  | parameter (name : String) (key : Option String)
  | signed (s : Sign) (a : Formula)
  /-- An operation, with the text that follows its operator. -/
  | operation (op : Operator) (a b : Formula) (rest : String)
  | choice (c a b : Formula)
  /-- An assignment, of the value of an operation if there is an operator. -/
  | assignment (name : String) (key : Option String) (op : Option Operator) (a : Formula)
      (rest : String)
  /-- A parameter changed by one; its value is the one before or after that. -/
  | step (name : String) (key : Option String) (up after : Bool)

namespace Formula

/-! ### Tokens -/

/-- What a token is. -/
inductive TokenKind where
  | number (n : Int64)
  | name (s : String)
  /-- A name with a key between brackets. -/
  | item (s key : String)
  | mark (s : String)
deriving DecidableEq

/-- A token, and the formula from there on. -/
structure Token where
  kind : TokenKind
  source : String

/-- The marks, those first that begin with another one. -/
def marks (extended : Bool) : List String :=
  (if extended then ["**"] else []) ++
  ["<<=", ">>=", "&&", "||", "==", "!=", "<=", ">=", "<<", ">>", "+=", "-=", "*=", "/=", "%=",
    "&=", "|=", "^=", "+", "-", "*", "/", "%", "<", ">", "=", "!", "~", "&", "|", "^", "?", ":",
    "(", ")"] ++ (if extended then [","] else [])

/-- The value of a digit in numbers that name their base. -/
def baseDigit (base : Nat) (c : Char) : Nat :=
  if c.isDigit then c.toNat - '0'.toNat
  else if c.isLower then c.toNat - 'a'.toNat + 10
  else if c.isUpper then c.toNat - 'A'.toNat + (if base ≤ 36 then 10 else 36)
  else if c = '@' then 62
  else 63

/-- The number with some digits, wrapped to 64 bits. -/
def digits? (base : Nat) (ds : List Char) : Option Int64 :=
  let vs := ds.map (baseDigit base)
  if vs.all (· < base) then some (Int64.ofNat (vs.foldl (fun n v => base * n + v) 0)) else none

/-- The number written in the extended dialect. -/
def extendedNumber (s : String) : Except FormulaProblem Int64 :=
  let digits (base : Nat) (ds : List Char) : Except FormulaProblem Int64 :=
    match digits? base ds with
    | some n => .ok n
    | none => .error .digit
  match s.splitOn "#" with
  | [_] =>
    match s.toList with
    | '0' :: 'x' :: ds => digits 16 ds
    | '0' :: 'X' :: ds => digits 16 ds
    | '0' :: ds => digits 8 ds
    | ds => digits 10 ds
  | [b, ds] =>
    match b.toNat? with
    | some base => if 2 ≤ base ∧ base ≤ 64 then digits base ds.toList else .error .base
    | none => .error .base
  | _ => .error .base

/-- The number at the beginning of some characters in the other dialect, and its length. -/
def plainNumber (cs : List Char) : Int64 × Nat :=
  let capped (n : Nat) : Int64 :=
    if n < Nat.pow 2 63 then Int64.ofNat n else Int64.maxValue
  let digits (base : Nat) (ds : List Char) (before : Nat) : Int64 × Nat :=
    let ds := ds.takeWhile fun c => (digitValue? base c).isSome
    (capped (numberOf base ds), before + ds.length)
  match cs with
  | '0' :: x :: d :: ds =>
    if (x = 'x' || x = 'X') && (digitValue? 16 d).isSome then digits 16 (d :: ds) 2
    else digits 8 cs 0
  | '0' :: _ => digits 8 cs 0
  | _ => digits 10 cs 0

/-- Whether two equal signs change a parameter, after a token and before some characters. -/
def isStep (previous : Option TokenKind) (rest : List Char) : Bool :=
  match previous with
  | some (.name _) => true
  | some (.number _) => false
  | some (.item _ _) => true
  | _ => (rest.dropWhile Char.isWhitespace).head?.any beginsName

/-- The characters up to the bracket that closes, with as many open as given. -/
def upToBracket : (depth : Nat) → List Char → Option (List Char)
  | _, [] => none
  | depth, c :: cs =>
    if c = ']' then
      match depth with
      | 0 => some []
      | depth + 1 => (upToBracket depth cs).map (c :: ·)
    else (upToBracket (if c = '[' then depth + 1 else depth) cs).map (c :: ·)

/-- The tokens of a formula. -/
def tokensAfter (extended : Bool) : (length : Nat) → Option TokenKind → List Char →
    Except FormulaFault (List Token)
  | 0, _, _ => .ok []
  | n + 1, previous, cs =>
    match cs with
    | [] => .ok []
    | c :: rest =>
      let source := String.ofList cs
      let go (kind : TokenKind) (length : Nat) : Except FormulaFault (List Token) :=
        (tokensAfter extended n (some kind) (cs.drop length)).map (⟨kind, source⟩ :: ·)
      if c.isWhitespace then tokensAfter extended n previous rest
      else if beginsName c then
        let name := cs.takeWhile continuesName
        let key := match cs.drop name.length with
          | '[' :: rest => if extended then upToBracket 0 rest else none
          | _ => none
        match key with
        | some key =>
          go (.item (String.ofList name) (String.ofList key)) (name.length + key.length + 2)
        | none => go (.name (String.ofList name)) name.length
      else if c.isDigit then
        if extended then
          let word := cs.takeWhile fun d => d.isAlphanum || d = '#' || d = '@' || d = '_'
          match extendedNumber (String.ofList word) with
          | .ok k => go (.number k) word.length
          | .error p => .error ⟨p, String.ofList word, String.ofList (cs.drop word.length), none⟩
        else
          let (k, length) := plainNumber cs
          go (.number k) length
      else if extended && (c = '+' || c = '-') && rest.head? = some c
          && isStep previous (rest.drop 1) then
        go (.mark (String.ofList [c, c])) 2
      else
        match (marks extended).find? (·.toList.isPrefixOf cs) with
        | some m => go (.mark m) m.length
        | none =>
          match previous with
          | some (.number _) => .error (.at .character source)
          | some (.name _) => .error (.at .character source)
          | some (.item _ _) => .error (.at .character source)
          | _ => .error (.at .operand source)

/-! ### Reading -/

/-- The tokens that are left, and the last one that was read. -/
structure Cursor where
  rest : List Token
  last : String

/-- The reading of a part of a formula. -/
abbrev Parse := StateT Cursor (Except FormulaFault)

/-- What is wrong at this point. -/
def wrong {α : Type} (p : FormulaProblem) : Parse α := do
  let c ← get
  throw (.at p ((c.rest.head?.map (·.source)).getD c.last))

/-- The next token. -/
def peek : Parse (Option TokenKind) := do
  return (← get).rest.head?.map (·.kind)

/-- Passes over the next token. -/
def advance : Parse Unit :=
  modify fun c =>
    match c.rest with
    | t :: ts => ⟨ts, t.source⟩
    | [] => c

/-- Passes over a mark if it comes next. -/
def accept (s : String) : Parse Bool := do
  if (← peek) = some (.mark s) then
    advance
    return true
  else return false

/-- What is left of the formula. -/
def left : Parse String := do
  return ((← get).rest.head?.map (·.source)).getD ""

/-- The operators between two operands, with how strongly they bind. -/
def operator? : String → Option (Operator × Nat)
  | "," => some (.comma, 0)
  | "||" => some (.or, 3)
  | "&&" => some (.and, 4)
  | "|" => some (.bitOr, 5)
  | "^" => some (.bitXor, 6)
  | "&" => some (.bitAnd, 7)
  | "==" => some (.equal, 8)
  | "!=" => some (.unequal, 8)
  | "<" => some (.less, 9)
  | "<=" => some (.lessEqual, 9)
  | ">" => some (.greater, 9)
  | ">=" => some (.greaterEqual, 9)
  | "<<" => some (.shiftLeft, 10)
  | ">>" => some (.shiftRight, 10)
  | "+" => some (.add, 11)
  | "-" => some (.sub, 11)
  | "*" => some (.mul, 12)
  | "/" => some (.div, 12)
  | "%" => some (.mod, 12)
  | "**" => some (.pow, 13)
  | _ => none

/-- The operators that assign, with the operation they stand for. -/
def assigning? : String → Option (Option Operator)
  | "=" => some none
  | "+=" => some (some .add)
  | "-=" => some (some .sub)
  | "*=" => some (some .mul)
  | "/=" => some (some .div)
  | "%=" => some (some .mod)
  | "<<=" => some (some .shiftLeft)
  | ">>=" => some (some .shiftRight)
  | "&=" => some (some .bitAnd)
  | "|=" => some (some .bitOr)
  | "^=" => some (some .bitXor)
  | _ => none

/-- The operators before an operand. -/
def sign? : String → Option Sign
  | "+" => some .plus
  | "-" => some .minus
  | "!" => some .not
  | "~" => some .complement
  | _ => none

/-- How strongly an assignment binds. -/
def assignmentLevel : Nat := 1

/-- How strongly a choice binds. -/
def choiceLevel : Nat := 2

/-- A parameter, and the key of an item of it. -/
def readParameter : Parse (String × Option String) := do
  match ← peek with
  | some (.name name) =>
    advance
    return (name, none)
  | some (.item name key) =>
    advance
    return (name, some key)
  | _ => wrong .operand

/-- A parameter, which may be changed by one. -/
def readStep (name : String) (key : Option String) : Parse Formula := do
  if ← accept "++" then return .step name key true false
  else if ← accept "--" then return .step name key false false
  else return .parameter name key

mutual

/-- A formula whose operators bind at least as strongly as `level`. -/
def readFormula (extended : Bool) (level : Nat) : (fuel : Nat) → Parse Formula
  | 0 => wrong .depth
  | n + 1 => do
    let a ← readOperand extended n
    readOn extended level a n

/-- What follows an operand. -/
def readOn (extended : Bool) (level : Nat) (a : Formula) : (fuel : Nat) → Parse Formula
  | 0 => wrong .depth
  | n + 1 => do
    match ← peek with
    | some (.mark m) =>
      match assigning? m with
      | some op =>
        if assignmentLevel < level then return a
        else match a with
          | .parameter name key =>
            advance
            let rest ← left
            let b ← readFormula extended assignmentLevel n
            readOn extended level (.assignment name key op b rest) n
          | _ => if extended then wrong .target else return a
      | none =>
        if m = "?" then
          if choiceLevel < level then return a
          else
            advance
            let b ← readFormula extended (if extended then 0 else assignmentLevel) n
            if ← accept ":" then
              let c ← readFormula extended choiceLevel n
              readOn extended level (.choice a b c) n
            else wrong .colon
        else
          match operator? m with
          | some (op, strength) =>
            if strength < level then return a
            else
              advance
              let rest ← left
              let b ← readFormula extended (if op = .pow then strength else strength + 1) n
              readOn extended level (.operation op a b rest) n
          | none => return a
    | _ => return a

/-- A number, a parameter, or a formula in parentheses, with the operators before it. -/
def readOperand (extended : Bool) : (fuel : Nat) → Parse Formula
  | 0 => wrong .depth
  | n + 1 => do
    match ← peek with
    | some (.number k) =>
      advance
      return .number k
    | some (.name name) =>
      advance
      readStep name none
    | some (.item name key) =>
      advance
      readStep name (some key)
    | some (.mark "(") =>
      advance
      let a ← readFormula extended 0 n
      if ← accept ")" then return a else wrong .parenthesis
    | some (.mark "++") =>
      advance
      let (name, key) ← readParameter
      return .step name key true true
    | some (.mark "--") =>
      advance
      let (name, key) ← readParameter
      return .step name key false true
    | some (.mark m) =>
      match sign? m with
      | some s =>
        advance
        return .signed s (← readOperand extended n)
      | none => wrong .operand
    | none => wrong .operand

end

/-- Reads a formula. An empty one is zero in the extended dialect. -/
def read (extended : Bool) (s : String) : Except FormulaFault Formula := do
  let tokens ← tokensAfter extended (s.length + 1) none s.toList
  if tokens.isEmpty && extended then return .number 0
  let whole : Parse Formula := do
    let a ← readFormula extended 0 (4 * tokens.length + 8)
    if (← peek).isSome then wrong .trailing else return a
  return (← whole.run ⟨tokens, ""⟩).1

/-! ### Values -/

/-- A power, wrapped to 64 bits. -/
def power (base : Int64) : (bits exponent : Nat) → Int64
  | 0, _ => 1
  | bits + 1, e =>
    if e = 0 then 1
    else
      let half := power base bits (e / 2)
      if e % 2 = 1 then base * half * half else half * half

/-- The number that stands for a truth value. -/
def truth (b : Bool) : Int64 := if b then 1 else 0

/-- The value of an operation. -/
def apply (op : Operator) (a b : Int64) (rest : String) : Except FormulaFault Int64 :=
  match op with
  | .comma => .ok b
  | .or => .ok (truth (a != 0 || b != 0))
  | .and => .ok (truth (a != 0 && b != 0))
  | .bitOr => .ok (a ||| b)
  | .bitXor => .ok (a ^^^ b)
  | .bitAnd => .ok (a &&& b)
  | .equal => .ok (truth (a == b))
  | .unequal => .ok (truth (a != b))
  | .less => .ok (truth (a < b))
  | .lessEqual => .ok (truth (a ≤ b))
  | .greater => .ok (truth (b < a))
  | .greaterEqual => .ok (truth (b ≤ a))
  | .shiftLeft => .ok (a <<< b)
  | .shiftRight => .ok (a >>> b)
  | .add => .ok (a + b)
  | .sub => .ok (a - b)
  | .mul => .ok (a * b)
  | .div => if b = 0 then .error (.at .division rest) else .ok (a / b)
  | .mod => if b = 0 then .error (.at .division rest) else .ok (a % b)
  | .pow =>
    if b < 0 then
      let signs := rest.toList.takeWhile fun c => c = '-' || c.isWhitespace
      .error (.at .exponent (String.ofList (rest.toList.drop signs.length)))
    else .ok (power a 64 b.toInt.toNat)

/-- The value of an operand with an operator before it. -/
def applySign (s : Sign) (a : Int64) : Int64 :=
  match s with
  | .plus => a
  | .minus => -a
  | .not => truth (a == 0)
  | .complement => ~~~a

/-- The evaluation of a formula. -/
abbrev Eval := ExceptT FormulaFault Sh

/-- Gives a value to a parameter or to an item of it. -/
def store (name : String) (key : Option String) (value : Int64) : Eval Unit :=
  match key with
  | some k => liftM (Sh.assignItem name k (toString value.toInt) true)
  | none => liftM (Sh.assign name (toString value.toInt))

/-- How parameters are looked up: their values, and what the text of a key means for a
    parameter. -/
structure Looking where
  value : String → Option String → Eval Int64
  key : String → String → Eval String

/-- The value of a formula, when parameters can be looked up. -/
def valueBy (look : Looking) : Formula → Eval Int64
  | .number n => pure n
  | .parameter name key => do look.value name (← keyOf name key)
  | .signed s a => do return applySign s (← valueBy look a)
  | .operation op a b rest => do
    let x ← valueBy look a
    if op = .and && x == 0 then return 0
    else if op = .or && x != 0 then return 1
    else
      match apply op x (← valueBy look b) rest with
      | .ok n => return n
      | .error f => throw f
  | .choice c a b => do
    if (← valueBy look c) != 0 then valueBy look a else valueBy look b
  | .assignment name key op a rest => do
    let k ← keyOf name key
    let n ← valueBy look a
    let n ← match op with
      | none => pure n
      | some op =>
        match apply op (← look.value name k) n rest with
        | .ok n => pure n
        | .error f => throw f
    store name k n
    return n
  | .step name key up after => do
    let k ← keyOf name key
    let old ← look.value name k
    let new := if up then old + 1 else old - 1
    store name k new
    return if after then new else old
where
  /-- The key of an item of a parameter. -/
  keyOf (name : String) : Option String → Eval (Option String)
    | some key => do return some (← look.key name key)
    | none => pure none

/-- The value of a parameter that always has another one. -/
def dynamic? (name : String) : Sh (Option String) := do
  let s ← Sh.ask id
  let seconds (n : Int) : String := toString (n / 1000000000)
  match name with
  | "LINENO" => return some (toString s.line)
  | _ =>
    if !s.dialect.extended then return none
    match name with
    | "RANDOM" =>
      let last := if s.seed = 0 then 123459876 else s.seed
      let next : Int := 16807 * (last % 127773 : Nat) - 2836 * (last / 127773 : Nat)
      let next := (if next < 0 then next + 0x7fffffff else next).toNat
      Sh.change fun s => { s with seed := next }
      return some (toString (((next / 65536) ^^^ (next % 65536)) % 32768))
    | "SRANDOM" => return some "2026"
    | "SECONDS" => return some (seconds (s.files.now - s.started))
    | "EPOCHSECONDS" => return some (seconds s.files.now)
    | "EPOCHREALTIME" => return some (seconds s.files.now ++ ".000000")
    | "BASHPID" => return some (toString s.process)
    | "BASH_SUBSHELL" => return some (toString s.depth)
    | _ => return none

/-- How parameters are looked up whose values may be formulas, and so on, at most the given
    number of times. -/
def looking : (depth : Nat) → Looking
  | 0 => {
      value := fun name _ => throw ((FormulaFault.at .depth name).inside name)
      key := fun name _ => throw ((FormulaFault.at .depth name).inside name) }
  | n + 1 => {
      value := fun name key => do
        let v ← liftM (Sh.parameter? name)
        let extended ← liftM Sh.isExtended
        let text ← match ← liftM (dynamic? name) with
          | some t => pure (some t)
          | none => pure (v.bind fun v => v.items.lookup (key.getD "0"))
        match text with
        | none =>
          if (← liftM (Sh.chosen "nounset")) && extended then
            liftM (Sh.fatal (α := Int64) (name ++ ": unbound variable"))
          else return 0
        | some text =>
          if extended then
            match read true text with
            | .ok f => tryCatch (valueBy (looking n) f) fun e => throw (e.inside text)
            | .error e => throw (e.inside text)
          else
            let trimmed := text.trimAscii.toString
            let negative := trimmed.startsWith "-"
            let digits := if negative || trimmed.startsWith "+" then trimmed.drop 1 |>.toString else trimmed
            let (k, length) := plainNumber digits.toList
            if trimmed = "" then return 0
            else if length = 0 || length != digits.length then throw (.at .value text)
            else return if negative then -k else k
      key := fun name key => do
        let v ← liftM (Sh.parameter? name)
        if v.any (·.isKeyed) then return key
        else
          let k ← match read true key with
            | .ok f => valueBy (looking n) f
            | .error e => throw e
          if k < 0 then
            let last := (v.bind fun v => v.items.getLast?).bind fun i => i.1.toInt?
            return toString ((last.getD (-1)) + 1 + k.toInt)
          else return toString k.toInt }

/-- How many formulas may stand for one another. -/
def deepest : Nat := 1024

/-- The value of a formula that is given as a text. -/
def evaluate (s : String) : Sh (Except FormulaFault Int64) := do
  match read (← Sh.isExtended) s with
  | .ok f => (valueBy (looking deepest) f).run
  | .error e => pure (.error e)

/-! ### Complaints -/

/-- What is wrong, in the words of the extended dialect. -/
def FormulaProblem.text : FormulaProblem → String
  | .division => "division by 0"
  | .exponent => "exponent less than 0"
  | .operand => "syntax error: operand expected"
  | .character => "syntax error: invalid arithmetic operator"
  | .trailing => "syntax error in expression"
  | .parenthesis => "missing \x60)'"
  | .colon => "\x60:' expected for conditional expression"
  | .target => "attempted assignment to non-variable"
  | .digit => "value too great for base"
  | .base => "invalid arithmetic base"
  | .depth => "expression recursion level exceeded"
  | .value => "syntax error"

/-- What is wrong, in the words of the other dialect. -/
def FormulaProblem.plainText : FormulaProblem → String
  | .division => "division by zero"
  | .trailing => "expecting EOF"
  | .character => "expecting EOF"
  | .target => "expecting EOF"
  | .parenthesis => "expecting ')'"
  | .colon => "expecting ':'"
  | _ => "expecting primary"

/-- A complaint about a formula. -/
def complaint (extended : Bool) (s : String) (f : FormulaFault) : String :=
  if extended then
    let shown := ((f.inner.getD s).toList.dropWhile Char.isWhitespace).reverse.drop f.hidden.length
    String.ofList shown.reverse ++ ": " ++ FormulaProblem.text f.problem ++ " (error token is \"" ++ f.token ++ "\")"
  else
    match f.problem with
    | .value => "Illegal number: " ++ f.token
    | p => "arithmetic expression: " ++ FormulaProblem.plainText p ++ ": \"" ++ s ++ "\""

/-- The value of a formula that has to have one. -/
def value (s : String) : Sh Int64 := do
  match ← evaluate s with
  | .ok n => pure n
  | .error f => Sh.mistake (complaint (← Sh.isExtended) s f)

end Formula

end Retrace.Unix
