import Retrace.Value

/-!
# Equality and maps

Two values are `equals` only when they are of one kind. Strings, truth values
and integers are compared by what they hold; a rational is equal to itself even
when it is no number, and the two zeros are equal; functions are compared by
name; maps are equal when they have as many entries and each entry of the one
is found in the other, whatever the order.

Equality decides which key of a map is meant, so it comes with the operations
on entries: looking a key up (`Entries.get?`), and storing at a key
(`Entries.store`). Storing void takes the key out, so that a key is void
exactly when it is absent.
-/

namespace Retrace

/-- Equality of rationals: a rational that is no number is equal to itself. -/
def Rational.equals (x y : Float) : Bool :=
  x == y || (x.isNaN && y.isNaN)

mutual

/-- Equality of values. -/
def Value.equals : Value → Value → Bool
  | .void, .void => true
  | .bool a, .bool b => a == b
  | .str a, .str b => a == b
  | .int a, .int b => a == b
  | .rational a, .rational b => Rational.equals a b
  | .map as, .map bs => as.length == bs.length && Entries.within as bs
  | .function f, .function g => f.name == g.name
  | .native f, .native g => f.name == g.name
  | .pair i v, .pair j w => i.equals j && v.equals w
  | _, _ => false

/-- Every entry of the first map is found in the second: the first entry there
    with an equal key has an equal value. -/
def Entries.within : List (Value × Value) → List (Value × Value) → Bool
  | [], _ => true
  | (k, v) :: as, bs =>
    (match bs.find? (fun e => k.equals e.1) with
      | some e => v.equals e.2
      | none => false) && Entries.within as bs

end

namespace Entries

/-- The value stored at `key`. -/
def get? (es : Entries) (key : Value) : Option Value :=
  (es.find? (fun e => e.1.equals key)).map (·.2)

/-- The value stored at `key`, void if there is none. -/
def get (es : Entries) (key : Value) : Value :=
  (get? es key).getD .void

/-- Replaces the value of the first entry whose key equals `key`, keeping the
    key it was stored under; appends an entry if there is none. -/
def insert (es : Entries) (key value : Value) : Entries :=
  match es with
  | [] => [(key, value)]
  | e :: es => if e.1.equals key then (e.1, value) :: es else e :: insert es key value

/-- Takes out the first entry whose key equals `key`. -/
def erase (es : Entries) (key : Value) : Entries :=
  es.eraseP (fun e => e.1.equals key)

/-- Stores `value` at `key`; storing void takes the key out. -/
def store (es : Entries) (key value : Value) : Entries :=
  if value.isVoid then erase es key else insert es key value

/-- The map holding the given entries, stored one after the other. -/
def ofList (es : List (Value × Value)) : Entries :=
  es.foldl (fun m e => store m e.1 e.2) []

/-- The map holding the given items, with their positions for keys. -/
def ofItems (items : List Value) : Entries :=
  ofList (items.zipIdx.map fun p => (.int (Int64.ofNat p.2), p.1))

end Entries

end Retrace
