import Retrace.Failure
import Retrace.Value.Equality

/-!
# Inside containers

Reading what a container holds, and replacing what is reached from a value
along a *path* of keys. As values never change, replacing copies the maps along
the path; a missing key on the way counts as void, and storing void at the end
takes the last key out.
-/

namespace Retrace.Value

/-- The truth value it has to be. -/
def expectBool : Value → Except Failure Bool
  | bool b => .ok b
  | v => .error (.unexpected .bool v)

/-- The string it has to be. -/
def expectStr : Value → Except Failure String
  | str s => .ok s
  | v => .error (.unexpected .str v)

/-- The character of `s` at a position, as a string; void beyond its ends. -/
def charAt (s : String) (position : Int64) : Value :=
  if position.toInt < 0 then void
  else match s.toList[position.toInt.toNat]? with
    | some c => str c.toString
    | none => void

/-- What a map holds at a key, or a string at a position. -/
def index (container key : Value) : Except Failure Value :=
  match container with
  | map es => .ok (Entries.get es key)
  | str s =>
    match key with
    | int n => .ok (charAt s n)
    | key => .error (.unexpected .int key)
  | v => .error (.unexpected .mapOrStr v)

/-- What a map holds at the name of a field. -/
def field (object : Value) (name : String) : Except Failure Value :=
  match object with
  | map es => .ok (Entries.get es (str name))
  | v => .error (.unexpected .map v)

/-- What is reached from `root` along a path. -/
def readPath (root : Value) : (path : List Value) → Except Failure Value
  | [] => .ok root
  | key :: path => do (← index root key).readPath path

/-- `root` with what is reached along a path replaced by `value`. -/
def updatePath (root : Value) (path : List Value) (value : Value) : Except Failure Value :=
  match path with
  | [] => .ok value
  | key :: path =>
    match root with
    | map es => do
      let child ← updatePath (Entries.get es key) path value
      .ok (map (Entries.store es key child))
    | v => .error (.unexpected .map v)

end Retrace.Value
