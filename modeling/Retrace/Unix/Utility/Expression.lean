import Retrace.Unix.Regular
import Retrace.Unix.Utility.Options

/-!
# Expressions given as arguments

The utility that evaluates an expression each of whose tokens is an argument of
its own. Values are texts; operators that need numbers take those texts that
are. What cannot change the value is read, but not evaluated.
-/

namespace Retrace.Unix.Utility

namespace Expression

/-- The arguments that are left, the last one that was taken, and whether what is read is
    evaluated. -/
structure Reading where
  rest : List String
  last : String
  evaluated : Bool

/-- The evaluation of arguments. What is wrong is told in words. -/
abbrev Eval := StateT Reading (Except String)

/-- The number in a text. -/
def number? (s : String) : Option Int :=
  let digits := if s.startsWith "-" then (s.drop 1).toString else s
  if digits != "" && digits.toList.all Char.isDigit then s.toInt? else none

/-- Whether a text counts as nothing. -/
def isNull (s : String) : Bool :=
  s = "" || (s != "-" && (if s.startsWith "-" then s.drop 1 else s.drop 0).toString.toList.all (· = '0'))

/-- Whether one of some arguments comes next. -/
def next? (ops : List String) : Eval (Option String) := do
  let r ← get
  match r.rest with
  | a :: rest =>
    if ops.contains a then
      set { r with rest := rest, last := a }
      return some a
    else return none
  | [] => return none

/-- The next argument. -/
def take : Eval String := do
  let r ← get
  match r.rest with
  | a :: rest =>
    set { r with rest := rest, last := a }
    return a
  | [] => throw ("syntax error: missing argument after " ++ Quoting.curly r.last)

/-- Reads something that is only evaluated under a condition. -/
def evaluatedIf (condition : Bool) (x : Eval String) : Eval String := do
  let before := (← get).evaluated
  modify fun r => { r with evaluated := before && condition }
  let v ← x
  modify fun r => { r with evaluated := before }
  return v

/-- A value, unless nothing is evaluated. -/
def computed (x : Eval String) : Eval String := do
  if (← get).evaluated then x else return ""

/-- What an expression matches at the beginning of a text. -/
def matched (text pattern : String) : Eval String :=
  match Regular.read .basic pattern with
  | .error m => throw m
  | .ok r =>
    let hasGroup := r.groupCount > 0
    let cs := Multibyte.characters text.toList
    match Regular.longest (Regular.places .usual r (.first cs)) with
    | some p =>
      return if hasGroup then
        match p.groups.lookup 1 with
        | some (a, b) => String.ofList (Multibyte.ofCharacters ((cs.take b).drop a))
        | none => ""
      else toString p.offset
    | none => return if hasGroup then "" else "0"

/-- The number in a text that has to be one. -/
def integer (s : String) : Eval Int :=
  match number? s with
  | some n => return n
  | none => throw "non-integer argument"

/-- The value of an operation on numbers. -/
def arithmetic (op a b : String) : Eval String := computed do
  let m ← integer a
  let n ← integer b
  match op with
  | "+" => return toString (m + n)
  | "-" => return toString (m - n)
  | "*" => return toString (m * n)
  | _ =>
    if n = 0 then throw "division by zero"
    else return toString (if op = "/" then m.tdiv n else m.tmod n)

/-- The value of a comparison: of numbers if both are, else of texts. -/
def comparison (op a b : String) : Eval String := computed do
  let o := match number? a, number? b with
    | some m, some n => compare m n
    | _, _ => compare a b
  let holds : Bool := match op with
    | "<" => o = .lt
    | "<=" => o != .gt
    | ">" => o = .gt
    | ">=" => o != .lt
    | "!=" => o != .eq
    | _ => o = .eq
  return if holds then "1" else "0"

/-- Operations from left to right. -/
def chain (ops : List String) (operand : Eval String) (apply : String → String → String → Eval String) :
    (fuel : Nat) → String → Eval String
  | 0, a => return a
  | n + 1, a => do
    match ← next? ops with
    | some op => chain ops operand apply n (← apply op a (← operand))
    | none => return a

/-- Operations of which the second operand may not matter. -/
def lazyChain (op : String) (operand : Eval String) (needed : String → Bool) (apply : String → String → String) :
    (fuel : Nat) → String → Eval String
  | 0, a => return a
  | n + 1, a => do
    match ← next? [op] with
    | some _ =>
      let b ← evaluatedIf (needed a) operand
      lazyChain op operand needed apply n (apply a b)
    | none => return a

/-- The place of the first character of a text that is among others. -/
def indexOf (text set : String) : Nat :=
  let others := Multibyte.characters set.toList
  match (Multibyte.characters text.toList).findIdx? others.contains with
  | some i => i + 1
  | none => 0

/-- A number of characters of a text from a place on. -/
def part (text first count : String) : String :=
  match number? first, number? count with
  | some f, some c =>
    if f ≤ 0 || c ≤ 0 then ""
    else Multibyte.through (fun cs => (cs.drop (f.toNat - 1)).take c.toNat) text
  | _, _ => ""

/-- An operand that is no argument alone; `operand` reads one, `whole` an expression. -/
def primary (operand whole : Eval String) : Eval String := do
  match ← next? ["(", ")", "+", "length", "substr", "index", "match"] with
  | some "(" =>
    let v ← whole
    match ← next? [")"] with
    | some _ => return v
    | none =>
      let r ← get
      match r.rest with
      | a :: _ => throw ("syntax error: expecting ')' instead of " ++ Quoting.curly a)
      | [] => throw ("syntax error: expecting ')' after " ++ Quoting.curly r.last)
  | some ")" => throw "syntax error: unexpected ')'"
  | some "+" => take
  | some "length" => return toString (Multibyte.length (← operand))
  | some "match" =>
    let text ← operand
    let pattern ← operand
    computed (matched text pattern)
  | some "index" =>
    let text ← operand
    return toString (indexOf text (← operand))
  | some _ =>
    let text ← operand
    let first ← operand
    return part text first (← operand)
  | none => take

/-- An expression, in which parentheses are nested at most as deeply as given. -/
def whole : (depth : Nat) → Eval String
  | 0 => take
  | n + 1 => do
    let length := (← get).rest.length + 1
    let rec operand : Nat → Eval String
      | 0 => take
      | k + 1 => primary (operand k) (whole n)
    let p := operand length
    let matching : Eval String := do
      chain [":"] p (fun _ a b => computed (matched a b)) length (← p)
    let product : Eval String := do
      chain ["*", "/", "%"] matching arithmetic length (← matching)
    let sum : Eval String := do
      chain ["+", "-"] product arithmetic length (← product)
    let compared : Eval String := do
      chain ["<", "<=", "=", "==", "!=", ">=", ">"] sum comparison length (← sum)
    let both : Eval String := do
      lazyChain "&" compared (fun a => !isNull a) (fun a b => if isNull a || isNull b then "0" else a) length
        (← compared)
    lazyChain "|" both isNull (fun a b => if isNull a then (if isNull b then "0" else b) else a) length (← both)

end Expression

/-- Evaluates an expression. -/
def expr : Utility := fun _ name args => do
  let args := if args.head? = some "--" then args.drop 1 else args
  if args.isEmpty then misused name "missing operand" 2
  else
    let evaluated : Except String String := do
      let (v, r) ← (Expression.whole (args.length + 1)).run ⟨args, "", true⟩
      match r.rest with
      | [] => return v
      | a :: _ => throw ("syntax error: unexpected argument " ++ Quoting.curly a)
    match evaluated with
    | .ok v =>
      Sh.print (v ++ "\n")
      refusedAtEnd name (if Expression.isNull v then 1 else 0)
    | .error m => fail name m 2

end Retrace.Unix.Utility
