/-!
# Syntax

The trees a program is made of. They arrive already built: nothing here reads
source text, and a literal still carries the *lexeme* it was written with, to
be read when it is evaluated.

An expression computes a value. A statement is an `Action` at a `Location`;
besides the usual ones it may

* `skip` a body, so that whatever the body rebinds can be taken back, with
  *seizes* that may handle the reason for taking it back;
* `reverse` with a payload, which takes back everything rebound since the
  innermost enclosing skip was entered;
* carry, on an expression, an *undo annotation*: the statement that takes the
  expression's effect back when no rebinding was recorded for it.

Bodies that run under a condition of some sort share one shape, `Clause`: the
arms of a branch, the cases of a switch and the seizes of a skip.
-/

namespace Retrace

/-- A place in a source text. -/
structure Location where
  line : Nat
  column : Nat
deriving DecidableEq

/-- The location of a statement that was given none. -/
def Location.unknown : Location := ⟨0, 0⟩

/-- What a literal denotes. A lexeme is read according to it. -/
inductive LiteralKind where
  | str
  | int
  | rational
  | truth
  | falsity
deriving DecidableEq

/-- Operators between two operands. -/
inductive BinaryOp where
  | add | sub | mul | div | mod | pow
  | eq | ne | lt | le | gt | ge
  | and | or
deriving DecidableEq

/-- The operator as it is written in a program. -/
def BinaryOp.symbol : BinaryOp → String
  | .add => "+"
  | .sub => "-"
  | .mul => "*"
  | .div => "/"
  | .mod => "%"
  | .pow => "**"
  | .eq => "=="
  | .ne => "!="
  | .lt => "<"
  | .le => "<="
  | .gt => ">"
  | .ge => ">="
  | .and => "&&"
  | .or => "||"

/-- Operators on one operand. -/
inductive UnaryOp where
  | not
  | neg
deriving DecidableEq

/-- How an assignment combines the stored value with the new one. -/
inductive AssignOp where
  | set | add | sub | mul | div | mod
deriving DecidableEq

/-- The operator a compound assignment applies, none for a plain one. -/
def AssignOp.binary? : AssignOp → Option BinaryOp
  | .set => none
  | .add => some .add
  | .sub => some .sub
  | .mul => some .mul
  | .div => some .div
  | .mod => some .mod

/-- Counting a target up or down by one. -/
inductive StepOp where
  | increment
  | decrement
deriving DecidableEq

/-- Expressions. -/
inductive Expr where
  | literal (kind : LiteralKind) (lexeme : String)
  | ident (name : String)
  | group (inner : Expr)
  | unary (op : UnaryOp) (operand : Expr)
  | binary (op : BinaryOp) (left right : Expr)
  | call (callee : Expr) (args : List Expr)
  | field (object : Expr) (name : String)
  | index (container key : Expr)
  | list (items : List Expr)
  | map (entries : List (Expr × Expr))

/-- A body and what it waits for. -/
structure Clause (τ σ : Type) where
  /-- What decides whether the body runs. -/
  trigger : τ
  /-- The statements of the body. -/
  body : List σ

/-- The declaration of a variable; without an initial value it starts void. -/
structure VarDecl where
  name : String
  init : Option Expr

/-- The jumps within a function body. -/
inductive Jump where
  /-- `break`, out of the nearest loop or switch. -/
  | leave
  /-- `fallthrough`, from a clause of a switch into the next one. -/
  | fallthrough
deriving DecidableEq

/-- The jump as it is written in a program. -/
def Jump.keyword : Jump → String
  | .leave => "break"
  | .fallthrough => "fallthrough"

mutual

/-- A statement: what it does, and where it stands in the source. -/
structure Stmt where
  action : Action
  location : Location

/-- What a statement does. -/
inductive Action where
  | block (body : List Stmt)
  /-- An expression for its effect, perhaps with the statement undoing it. -/
  | expr (expr : Expr) (undo : Option Stmt)
  | ret (value : Option Expr)
  | declare (decl : Decl)
  | assign (target : Expr) (op : AssignOp) (value : Expr)
  | step (target : Expr) (op : StepOp)
  /-- A loop; without initial declaration and increment it is a `while`. -/
  | loop (init : Option VarDecl) (condition : Expr) (increment : Option Stmt) (body : List Stmt)
  /-- The first arm whose condition holds, or else `otherwise`. -/
  | branch (arms : List (Clause Expr Stmt)) (otherwise : Option (List Stmt))
  | jump (jump : Jump)
  /-- A switch; a clause without a trigger is its `default`. -/
  | switch (subject : Expr) (cases : List (Clause (Option Expr) Stmt))
  /-- A skip; a seize without a trigger takes whatever no pattern took. -/
  | skip (body : List Stmt) (seizes : List (Clause (Option Expr) Stmt))
  | reverse (payload : Expr)

/-- Declarations. A class has no meaning at run time. -/
inductive Decl where
  | function (name : String) (params : List String) (body : List Stmt)
  | variable (decl : VarDecl)
  | classLike (name : String) (members : List Decl)

end

/-- The statements run in a scope of their own. -/
abbrev Block := List Stmt

/-- An arm of a branch. -/
abbrev Arm := Clause Expr Stmt

/-- A clause of a switch, triggered by a value equal to the subject. -/
abbrev Case := Clause (Option Expr) Stmt

/-- A clause of a skip, triggered by a value equal to the payload. -/
abbrev Seize := Clause (Option Expr) Stmt

/-- The shape of an expression, to name it in a diagnosis. -/
inductive Expr.Form where
  | literal | identifier | grouping | unary | binary | call | field | index | list | map
deriving DecidableEq

namespace Expr

/-- The shape of an expression. -/
def form : Expr → Form
  | literal _ _ => .literal
  | ident _ => .identifier
  | group _ => .grouping
  | unary _ _ => .unary
  | binary _ _ _ => .binary
  | call _ _ => .call
  | field _ _ => .field
  | index _ _ => .index
  | list _ => .list
  | map _ => .map

/-- The words for a shape. -/
def Form.description : Form → String
  | .literal => "literal"
  | .identifier => "identifier"
  | .grouping => "grouping"
  | .unary => "unary expression"
  | .binary => "binary expression"
  | .call => "call"
  | .field => "field access"
  | .index => "index expression"
  | .list => "list literal"
  | .map => "map literal"

end Expr

end Retrace
