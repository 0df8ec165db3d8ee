import Retrace.Syntax

/-!
# Values

What expressions evaluate to. A value never changes: an operation that seems
to change a map builds another one.

Maps hold their entries in the order of insertion, and any value may be a key.
Functions are values too; a *native* function is one the program does not
define, and only names what it runs (`NativeCode`), as the running of it needs
more than values. A *pair* is one entry of a map taken out of it.
-/

namespace Retrace

/-- A function a program declares. -/
structure Function where
  name : String
  params : List String
  body : Block

/-- The functions every program finds defined. -/
inductive Builtin where
  | println | read | write | touch | delete | shell
deriving DecidableEq

/-- What a native function runs: a builtin, or what the host keeps under a key. -/
inductive NativeCode where
  | builtin (builtin : Builtin)
  | host (key : String)
deriving DecidableEq

/-- A function the program does not define. A *variadic* one takes any number of
    arguments, and has no parameters to name them. -/
structure NativeFunction where
  name : String
  params : List String
  variadic : Bool
  code : NativeCode
deriving DecidableEq

/-- Values. -/
inductive Value where
  | void
  | bool (b : Bool)
  | str (s : String)
  | int (n : Int64)
  | rational (x : Float)
  | map (entries : List (Value × Value))
  | function (f : Function)
  | native (f : NativeFunction)
  | pair (index value : Value)

instance : Inhabited Value := ⟨.void⟩

/-- The entries of a map, in the order of insertion. -/
abbrev Entries := List (Value × Value)

/-- The kinds of values. -/
inductive Kind where
  | void | bool | str | int | rational | map | function | native | pair
deriving DecidableEq

/-- The word for a kind. -/
def Kind.name : Kind → String
  | .void => "void"
  | .bool => "bool"
  | .str => "string"
  | .int => "int"
  | .rational => "rational"
  | .map => "map"
  | .function => "function"
  | .native => "native function"
  | .pair => "index/value pair"

namespace Value

/-- The kind of a value. -/
def kind : Value → Kind
  | void => .void
  | bool _ => .bool
  | str _ => .str
  | int _ => .int
  | rational _ => .rational
  | map _ => .map
  | function _ => .function
  | native _ => .native
  | pair _ _ => .pair

/-- Void stands for the absence of a value. -/
def isVoid : Value → Bool
  | void => true
  | _ => false

/-- Integers and rationals are the numbers. -/
def isNumber : Value → Bool
  | int _ => true
  | rational _ => true
  | _ => false

/-- The truth value, if it is one. -/
def bool? : Value → Option Bool
  | bool b => some b
  | _ => none

/-- The integer, if it is one. -/
def int? : Value → Option Int64
  | int n => some n
  | _ => none

/-- The string, if it is one. -/
def str? : Value → Option String
  | str s => some s
  | _ => none

/-- The entries, if it is a map. -/
def entries? : Value → Option Entries
  | map es => some es
  | _ => none

/-- Whether it can be called. -/
def isCallable : Value → Bool
  | function _ => true
  | native _ => true
  | _ => false

@[simp] theorem isVoid_eq_true_iff {v : Value} : v.isVoid = true ↔ v = void := by
  cases v <;> simp [isVoid]

end Value

end Retrace
