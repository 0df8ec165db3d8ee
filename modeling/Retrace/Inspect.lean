import Retrace.Decimal.Layout
import Retrace.Flow
import Retrace.Text.Quoted

/-!
# Structure as text

A flow, with the value it returns and the body of a function in that value,
written out in full: every node by its name, followed by its parts in
parentheses, or in braces where the parts have names of their own. A diagnosis
shows a flow this way, since the printed text of a value does not tell a string
from a number or show what is in a function.
-/

namespace Retrace

namespace Inspect

/-- A node with unnamed parts. -/
def node (name : String) (parts : List String) : String :=
  name ++ "(" ++ String.intercalate ", " parts ++ ")"

/-- A node with named parts. -/
def record (name : String) (parts : List (String × String)) : String :=
  name ++ " \x7b " ++ String.intercalate ", " (parts.map fun p => p.1 ++ ": " ++ p.2) ++ " \x7d"

/-- A sequence. -/
def sequence (items : List String) : String :=
  "[" ++ String.intercalate ", " items ++ "]"

/-- A part that may be absent. -/
def optional : Option String → String
  | none => "None"
  | some part => node "Some" [part]

/-- A sequence of names. -/
def names (ns : List String) : String :=
  sequence (ns.map Text.quoted)

end Inspect

open Inspect

/-- The name of a kind of literal. -/
def LiteralKind.inspect : LiteralKind → String
  | .str => "Str"
  | .int => "Int"
  | .rational => "Rational"
  | .truth => "True"
  | .falsity => "False"

/-- The name of an operator. -/
def BinaryOp.inspect : BinaryOp → String
  | .add => "Add"
  | .sub => "Sub"
  | .mul => "Mul"
  | .div => "Div"
  | .mod => "Mod"
  | .pow => "Pow"
  | .eq => "Eq"
  | .ne => "Ne"
  | .lt => "Lt"
  | .le => "Le"
  | .gt => "Gt"
  | .ge => "Ge"
  | .and => "And"
  | .or => "Or"

/-- The name of an operator. -/
def UnaryOp.inspect : UnaryOp → String
  | .not => "Not"
  | .neg => "Neg"

/-- The name of an operator. -/
def AssignOp.inspect : AssignOp → String
  | .set => "Assign"
  | .add => "AddAssign"
  | .sub => "SubAssign"
  | .mul => "MulAssign"
  | .div => "DivAssign"
  | .mod => "ModAssign"

/-- The name of an operator. -/
def StepOp.inspect : StepOp → String
  | .increment => "Increment"
  | .decrement => "Decrement"

/-- The name of a jump. -/
def Jump.inspect : Jump → String
  | .leave => "Break"
  | .fallthrough => "Fallthrough"

/-- A location. -/
def Location.inspect (l : Location) : String :=
  record "SourceLocation" [("line", toString l.line), ("column", toString l.column)]

/-! ## Expressions -/

mutual

/-- An expression. -/
def Expr.inspect : Expr → String
  | .literal kind lexeme =>
    record "Literal" [("kind", kind.inspect), ("lexeme", Text.quoted lexeme)]
  | .ident name => node "Ident" [Text.quoted name]
  | .group inner => node "Group" [inner.inspect]
  | .unary op operand => record "Unary" [("op", op.inspect), ("expr", operand.inspect)]
  | .binary op left right =>
    record "Binary" [("op", op.inspect), ("left", left.inspect), ("right", right.inspect)]
  | .call callee args =>
    record "Call" [("callee", callee.inspect), ("args", sequence (Expr.inspectAll args))]
  | .field object name => record "Dot" [("object", object.inspect), ("field", Text.quoted name)]
  | .index container key =>
    record "Index" [("container", container.inspect), ("index", key.inspect)]
  | .list items => node "List" [sequence (Expr.inspectAll items)]
  | .map entries => node "Map" [sequence (Expr.inspectEntries entries)]

/-- Expressions, each on its own. -/
def Expr.inspectAll : List Expr → List String
  | [] => []
  | e :: es => e.inspect :: Expr.inspectAll es

/-- The entries of a map, each on its own. -/
def Expr.inspectEntries : List (Expr × Expr) → List String
  | [] => []
  | (k, v) :: es => node "" [k.inspect, v.inspect] :: Expr.inspectEntries es

end

/-- The declaration of a variable. -/
def VarDecl.inspect (d : VarDecl) : String :=
  record "VarDecl" [("name", Text.quoted d.name), ("value", optional (d.init.map Expr.inspect))]

/-! ## Statements -/

namespace Inspect

/-- A body, given its statements. -/
def body (statements : List String) : String :=
  record "Block" [("statements", sequence statements)]

end Inspect

mutual

/-- A statement. -/
def Stmt.inspect : Stmt → String
  | ⟨action, location⟩ =>
    record "Stmt" [("kind", action.inspect), ("location", location.inspect)]

/-- What a statement does. -/
def Action.inspect : Action → String
  | .block b => node "Block" [body (Stmt.inspectAll b)]
  | .expr e undo => record "Expr" [("expr", e.inspect), ("undo", optional (Stmt.inspectUndo undo))]
  | .ret value => node "Return" [optional (value.map Expr.inspect)]
  | .declare d => node "Decl" [d.inspect]
  | .assign target op value =>
    record "Assign" [("target", target.inspect), ("op", op.inspect), ("value", value.inspect)]
  | .step target op => record "IncDec" [("target", target.inspect), ("op", op.inspect)]
  | .loop init condition increment b =>
    record "For" [("init", optional (init.map VarDecl.inspect)), ("condition", condition.inspect),
      ("increment", optional (Stmt.inspectUndo increment)), ("body", body (Stmt.inspectAll b))]
  | .branch arms otherwise =>
    record "If" [("branches", sequence (Stmt.inspectArms arms)),
      ("else_branch", optional (Stmt.inspectElse otherwise))]
  | .jump j => j.inspect
  | .switch subject cases =>
    record "Switch" [("subject", subject.inspect), ("cases", sequence (Stmt.inspectCases cases))]
  | .skip b seizes =>
    node "Skip" [record "SkipStmt" [("body", body (Stmt.inspectAll b)),
      ("seizes", sequence (Stmt.inspectSeizes seizes))]]
  | .reverse payload => node "Reverse" [payload.inspect]

/-- A declaration. -/
def Decl.inspect : Decl → String
  | .function name params b =>
    node "Func" [record "FuncDecl" [("name", Text.quoted name), ("params", names params),
      ("body", body (Stmt.inspectAll b))]]
  | .variable d => node "Var" [d.inspect]
  | .classLike name members =>
    node "Class" [record "ClassDecl" [("name", Text.quoted name),
      ("members", sequence (Stmt.inspectDecls members))]]

/-- Statements, each on its own. -/
def Stmt.inspectAll : List Stmt → List String
  | [] => []
  | s :: ss => s.inspect :: Stmt.inspectAll ss

/-- A statement that may be absent. -/
def Stmt.inspectUndo : Option Stmt → Option String
  | none => none
  | some s => some s.inspect

/-- A body that may be absent. -/
def Stmt.inspectElse : Option (List Stmt) → Option String
  | none => none
  | some b => some (body (Stmt.inspectAll b))

/-- The arms of a branch, each on its own. -/
def Stmt.inspectArms : List (Clause Expr Stmt) → List String
  | [] => []
  | ⟨condition, b⟩ :: arms =>
    record "CondBlock" [("condition", condition.inspect), ("body", body (Stmt.inspectAll b))] ::
      Stmt.inspectArms arms

/-- The clauses of a switch, each on its own. -/
def Stmt.inspectCases : List (Clause (Option Expr) Stmt) → List String
  | [] => []
  | ⟨none, b⟩ :: cases =>
    record "Default" [("body", body (Stmt.inspectAll b))] :: Stmt.inspectCases cases
  | ⟨some value, b⟩ :: cases =>
    record "Case" [("value", value.inspect), ("body", body (Stmt.inspectAll b))] ::
      Stmt.inspectCases cases

/-- The seizes of a skip, each on its own. -/
def Stmt.inspectSeizes : List (Clause (Option Expr) Stmt) → List String
  | [] => []
  | ⟨pattern, b⟩ :: seizes =>
    record "Seize" [("pattern", optional (pattern.map Expr.inspect)),
      ("body", body (Stmt.inspectAll b))] :: Stmt.inspectSeizes seizes

/-- Declarations, each on its own. -/
def Stmt.inspectDecls : List Decl → List String
  | [] => []
  | d :: ds => d.inspect :: Stmt.inspectDecls ds

end

/-! ## Values -/

mutual

/-- A value. What a native function runs cannot be shown. -/
def Value.inspect : Value → String
  | .void => "Void"
  | .bool b => node "Bool" [if b then "true" else "false"]
  | .str s => node "Str" [Text.quoted s]
  | .int n => node "Int" [toString n.toInt]
  | .rational x => node "Rational" [Decimal.Layout.marked.write x]
  | .map es => node "Map" [record "MapValue" [("entries", sequence (Entries.inspectAll es))]]
  | .function f =>
    node "Func" [record "Function" [("name", Text.quoted f.name), ("params", names f.params),
      ("body", body (Stmt.inspectAll f.body))]]
  | .native f =>
    node "NativeFunc" [record "NativeFunction" [("name", Text.quoted f.name),
      ("params", names f.params), ("callback", "_"),
      ("variadic", if f.variadic then "true" else "false")]]
  | .pair i v =>
    node "IndexValuePair" [record "IndexValuePair" [("index", i.inspect), ("value", v.inspect)]]

/-- The entries of a map, each on its own. -/
def Entries.inspectAll : List (Value × Value) → List String
  | [] => []
  | (k, v) :: es => node "" [k.inspect, v.inspect] :: Entries.inspectAll es

end

/-- A flow. -/
def Flow.inspect : Flow → String
  | .normal => "Normal"
  | .jump j => j.inspect
  | .returned v => node "Return" [v.inspect]

end Retrace
