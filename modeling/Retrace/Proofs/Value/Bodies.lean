import Retrace.Proofs.Value.Atoms
import Retrace.Proofs.Value.Failing

/-!
# Bodies of functions in values

No operation on values looks into the body of a function: functions are equal
when their names are, and only the name is printed. So if the bodies of all
functions in the operands are changed (`Value.mapBodies`), an operation has the
same result but for these bodies, and the same failure.
-/

namespace Retrace

mutual

/-- The value with `g` applied to the bodies of all functions in it. -/
def Value.mapBodies (g : Block → Block) : Value → Value
  | .map es => .map (Entries.mapBodies g es)
  | .function f => .function { f with body := g f.body }
  | .pair i v => .pair (i.mapBodies g) (v.mapBodies g)
  | .void => .void
  | .bool b => .bool b
  | .str s => .str s
  | .int n => .int n
  | .rational x => .rational x
  | .native f => .native f

/-- The entries with `g` applied to the bodies of all functions in them. -/
def Entries.mapBodies (g : Block → Block) : List (Value × Value) → List (Value × Value)
  | [] => []
  | (k, v) :: es => (k.mapBodies g, v.mapBodies g) :: Entries.mapBodies g es

end

/-- The flow with `g` applied to the bodies of all functions in the value it carries. -/
def Flow.mapBodies (g : Block → Block) : Flow → Flow
  | .returned v => .returned (v.mapBodies g)
  | .normal => .normal
  | .jump j => .jump j

/-- The failure with `g` applied to the bodies of all functions in the payload, if it is a
    reversal that nothing took. -/
def Failure.mapBodies (g : Block → Block) : Failure → Failure
  | .unhandledReversal payload => .unhandledReversal (payload.mapBodies g)
  | e => e

/-- What becomes of a result if `φ` is applied to a value, and `g` to the bodies of functions in
    a failure. -/
def Result.mapBodies {α β : Type} (g : Block → Block) (φ : α → β) :
    Except Failure α → Except Failure β
  | .ok a => .ok (φ a)
  | .error e => .error (e.mapBodies g)

variable (g : Block → Block)

namespace Value

@[simp] theorem kind_mapBodies (v : Value) : (v.mapBodies g).kind = v.kind := by
  cases v <;> simp [mapBodies, kind]

@[simp] theorem isVoid_mapBodies (v : Value) : (v.mapBodies g).isVoid = v.isVoid := by
  cases v <;> simp [mapBodies, isVoid]

@[simp] theorem isCallable_mapBodies (v : Value) :
    (v.mapBodies g).isCallable = v.isCallable := by
  cases v <;> simp [mapBodies, isCallable]

theorem mapBodies_of_isAtom {v : Value} (h : v.isAtom) : v.mapBodies g = v := by
  cases v <;> simp_all [mapBodies, isAtom]

end Value

@[simp] theorem Failure.unexpected_mapBodies (wanted : Wanted) (v : Value) :
    Failure.unexpected wanted (v.mapBodies g) = .unexpected wanted v := by
  rw [Failure.unexpected, Failure.unexpected, Value.kind_mapBodies]

theorem Failure.Ordinary.mapBodies_eq {e : Failure} (h : e.Ordinary) : e.mapBodies g = e := by
  cases e with
  | unhandledReversal => exact absurd h id
  | _ => simp [Failure.mapBodies]

namespace Result

variable {α β γ δ : Type} {φ : α → β} {ψ : γ → δ}

theorem mapBodies_bind {x : Except Failure α} {f : α → Except Failure γ} {y : Except Failure β}
    {f' : β → Except Failure δ} (hx : y = mapBodies g φ x)
    (hf : ∀ a, f' (φ a) = mapBodies g ψ (f a)) :
    (y >>= f') = mapBodies g ψ (x >>= f) := by
  subst hx
  cases x with
  | ok a => exact hf a
  | error e => rfl

/-- Nothing becomes of the result of an operation that gives atoms and fails operationally. -/
theorem mapBodies_eq_self {x : Except Failure Value} (hatom : ∀ v, x = .ok v → v.isAtom)
    (hfail : ∀ e, x = .error e → e.Operational) : mapBodies g (Value.mapBodies g) x = x := by
  cases x with
  | ok v => rw [mapBodies, Value.mapBodies_of_isAtom g (hatom v rfl)]
  | error e => rw [mapBodies, (hfail e rfl).ordinary.mapBodies_eq]

end Result

theorem Entries.mapBodies_eq_map (es : Entries) :
    Entries.mapBodies g es = es.map fun e => (e.1.mapBodies g, e.2.mapBodies g) := by
  induction es with
  | nil => rw [Entries.mapBodies, List.map_nil]
  | cons e es ih => rw [Entries.mapBodies, List.map_cons, ih]

/-! ### Texts and equality -/

mutual

theorem Value.text_mapBodies : ∀ v : Value, (v.mapBodies g).text = v.text
  | .map es => by
    rw [Value.mapBodies, Value.text, Value.text, Entries.texts_mapBodies es]
  | .pair i v => by
    rw [Value.mapBodies, Value.text, Value.text, i.text_mapBodies, v.text_mapBodies]
  | .function _ => by rw [Value.mapBodies, Value.text, Value.text]
  | .void | .bool _ | .str _ | .int _ | .rational _ | .native _ => by rw [Value.mapBodies]

theorem Entries.texts_mapBodies :
    ∀ es : List (Value × Value), Entries.texts (Entries.mapBodies g es) = Entries.texts es
  | [] => by rw [Entries.mapBodies]
  | (k, v) :: es => by
    rw [Entries.mapBodies, Entries.texts, Entries.texts, k.text_mapBodies, v.text_mapBodies,
      Entries.texts_mapBodies es]

end

mutual

theorem Value.equals_mapBodies : ∀ v w : Value, (v.mapBodies g).equals (w.mapBodies g) = v.equals w
  | .map as, w => by
    cases w with
    | map bs =>
      rw [Value.mapBodies, Value.mapBodies, Value.equals, Value.equals,
        Entries.within_mapBodies as bs, Entries.mapBodies_eq_map, Entries.mapBodies_eq_map,
        List.length_map, List.length_map]
    | _ => simp [Value.mapBodies, Value.equals]
  | .pair i v, w => by
    cases w with
    | pair j w =>
      rw [Value.mapBodies, Value.mapBodies, Value.equals, Value.equals, i.equals_mapBodies,
        v.equals_mapBodies]
    | _ => simp [Value.mapBodies, Value.equals]
  | .function _, w | .void, w | .bool _, w | .str _, w | .int _, w | .rational _, w
  | .native _, w => by
    cases w <;> simp [Value.mapBodies, Value.equals]

theorem Entries.within_mapBodies : ∀ as bs : List (Value × Value),
    Entries.within (Entries.mapBodies g as) (Entries.mapBodies g bs) = Entries.within as bs
  | [], bs => by rw [Entries.mapBodies, Entries.within, Entries.within]
  | (k, v) :: as, bs => by
    -- The entry found in the second map is the same one, as the keys are equal to the same keys.
    have hfind : (Entries.mapBodies g bs).find? (fun e => (k.mapBodies g).equals e.1) =
        (bs.find? fun e => k.equals e.1).map fun e => (e.1.mapBodies g, e.2.mapBodies g) := by
      rw [Entries.mapBodies_eq_map, List.find?_map]
      congr 2
      funext e
      exact k.equals_mapBodies e.1
    rw [Entries.mapBodies, Entries.within, Entries.within, hfind, Entries.within_mapBodies as bs]
    cases bs.find? (fun e => k.equals e.1) with
    | none => rfl
    | some e =>
      rw [Option.map_some]
      simp only [v.equals_mapBodies]

end

attribute [simp] Value.text_mapBodies Value.equals_mapBodies

/-! ### Maps -/

namespace Entries

variable (es : Entries) (k v : Value)

theorem get_mapBodies : get (mapBodies g es) (k.mapBodies g) = (get es k).mapBodies g := by
  rw [get, get, get?, get?, mapBodies_eq_map, List.find?_map]
  simp only [Function.comp_def, Value.equals_mapBodies]
  cases es.find? (fun e => e.1.equals k) with
  | none => rw [Option.map_none, Option.map_none, Option.getD_none, Value.mapBodies]
  | some e => rfl

theorem insert_mapBodies :
    insert (mapBodies g es) (k.mapBodies g) (v.mapBodies g) = mapBodies g (insert es k v) := by
  induction es with
  | nil => simp only [insert, mapBodies]
  | cons e es ih =>
    simp only [insert, mapBodies, Value.equals_mapBodies]
    split <;> simp only [mapBodies, ih]

theorem erase_mapBodies : erase (mapBodies g es) (k.mapBodies g) = mapBodies g (erase es k) := by
  rw [erase, erase, mapBodies_eq_map, mapBodies_eq_map, List.eraseP_map]
  simp only [Function.comp_def, Value.equals_mapBodies]

theorem store_mapBodies :
    store (mapBodies g es) (k.mapBodies g) (v.mapBodies g) = mapBodies g (store es k v) := by
  rw [store, store, Value.isVoid_mapBodies]
  split
  · exact erase_mapBodies g es k
  · exact insert_mapBodies g es k v

theorem ofList_mapBodies : ofList (mapBodies g es) = mapBodies g (ofList es) := by
  have hnil : mapBodies g [] = [] := by rw [mapBodies]
  rw [ofList, ofList]
  -- The fold begins with the empty map, but the induction needs any map.
  conv_lhs => rw [← hnil]
  generalize ([] : Entries) = fs
  induction es generalizing fs with
  | nil => rw [hnil, List.foldl_nil, List.foldl_nil]
  | cons e es ih =>
    rw [mapBodies, List.foldl_cons, List.foldl_cons, store_mapBodies]
    exact ih _

theorem ofItems_mapBodies (items : List Value) :
    ofItems (items.map (Value.mapBodies g)) = mapBodies g (ofItems items) := by
  rw [ofItems, ofItems, ← ofList_mapBodies, mapBodies_eq_map, List.zipIdx_map, List.map_map,
    List.map_map]
  congr 2

end Entries

namespace Value

theorem index_mapBodies (a k : Value) :
    (a.mapBodies g).index (k.mapBodies g) = Result.mapBodies g (mapBodies g) (a.index k) := by
  cases a with
  | map es =>
    rw [mapBodies, index, index, Entries.get_mapBodies]
    rfl
  | str s =>
    rw [mapBodies]
    cases k with
    | int n => rw [mapBodies, index, Result.mapBodies, mapBodies_of_isAtom g (isAtom_charAt s n)]
    | _ => simp [mapBodies, index, Result.mapBodies, Failure.mapBodies, Failure.unexpected, kind]
  | _ => simp [mapBodies, index, Result.mapBodies, Failure.mapBodies, Failure.unexpected, kind]

theorem field_mapBodies (a : Value) (name : String) :
    (a.mapBodies g).field name = Result.mapBodies g (mapBodies g) (a.field name) := by
  cases a with
  | map es =>
    have hkey : (str name).mapBodies g = str name := mapBodies_of_isAtom g rfl
    rw [mapBodies, field, field, ← hkey, Entries.get_mapBodies, hkey]
    rfl
  | _ => simp [mapBodies, field, Result.mapBodies, Failure.mapBodies, Failure.unexpected, kind]

theorem readPath_mapBodies (root : Value) (path : List Value) :
    (root.mapBodies g).readPath (path.map (mapBodies g)) =
      Result.mapBodies g (mapBodies g) (root.readPath path) := by
  induction path generalizing root with
  | nil =>
    rw [List.map_nil, readPath, readPath]
    rfl
  | cons k path ih =>
    rw [List.map_cons, readPath, readPath]
    exact Result.mapBodies_bind g (index_mapBodies g root k) ih

theorem updatePath_mapBodies (root : Value) (path : List Value) (v : Value) :
    (root.mapBodies g).updatePath (path.map (mapBodies g)) (v.mapBodies g) =
      Result.mapBodies g (mapBodies g) (root.updatePath path v) := by
  induction path generalizing root with
  | nil =>
    rw [List.map_nil, updatePath_nil, updatePath_nil]
    rfl
  | cons k path ih =>
    cases root with
    | map es =>
      rw [List.map_cons, mapBodies, updatePath, updatePath, Entries.get_mapBodies]
      refine Result.mapBodies_bind g (ih (Entries.get es k)) fun child => ?_
      rw [Entries.store_mapBodies, Result.mapBodies, mapBodies]
    | _ =>
      simp [mapBodies, updatePath, Result.mapBodies, Failure.mapBodies, Failure.unexpected, kind]

/-! ### Operators -/

theorem numbers?_mapBodies (a b : Value) :
    numbers? (a.mapBodies g) (b.mapBodies g) = numbers? a b := by
  cases a <;> cases b <;> simp [mapBodies, numbers?]

theorem operands_mapBodies (wanted : Wanted) (op : BinaryOp) (a b : Value) :
    Failure.operands wanted op (a.mapBodies g) (b.mapBodies g) = .operands wanted op a b := by
  simp [Failure.operands]

theorem arithmetic_mapBodies (op : BinaryOp) (a b : Value)
    (onInts : Int64 → Int64 → Except Failure Value) (onRationals : Float → Float → Float) :
    arithmetic op (a.mapBodies g) (b.mapBodies g) onInts onRationals =
      arithmetic op a b onInts onRationals := by
  rw [arithmetic, arithmetic, numbers?_mapBodies, operands_mapBodies]

theorem add_mapBodies (a b : Value) : (a.mapBodies g).add (b.mapBodies g) = a.add b := by
  cases a <;> cases b <;>
    simp [mapBodies, add, arithmetic, numbers?, Failure.operands, kind]

theorem mod_mapBodies (a b : Value) : (a.mapBodies g).mod (b.mapBodies g) = a.mod b := by
  cases a <;> cases b <;> simp [mapBodies, mod, Failure.operands, kind]

theorem connect_mapBodies (op : BinaryOp) (f : Bool → Bool → Bool) (a b : Value) :
    connect op f (a.mapBodies g) (b.mapBodies g) = connect op f a b := by
  cases a <;> cases b <;> simp [mapBodies, connect, Failure.operands, kind]

theorem compare_mapBodies (op : BinaryOp) (a b : Value) :
    compare op (a.mapBodies g) (b.mapBodies g) = compare op a b := by
  rw [compare, compare, numbers?_mapBodies, operands_mapBodies]

/-- Operators between two operands do not depend on the bodies of functions. -/
theorem binary_mapBodies (op : BinaryOp) (a b : Value) :
    (a.mapBodies g).binary op (b.mapBodies g) =
      Result.mapBodies g (mapBodies g) (a.binary op b) := by
  rw [Result.mapBodies_eq_self g (fun _ => isAtom_of_binary) fun _ => operational_of_binary]
  cases op with
  | add => exact add_mapBodies g a b
  | sub | mul | div | pow => exact arithmetic_mapBodies g ..
  | mod => exact mod_mapBodies g a b
  | eq | ne => rw [binary, binary, equals_mapBodies]
  | lt | le | gt | ge => exact compare_mapBodies g ..
  | and | or => exact connect_mapBodies g ..

/-- Operators on one operand do not depend on the bodies of functions. -/
theorem unary_mapBodies (op : UnaryOp) (a : Value) :
    (a.mapBodies g).unary op = Result.mapBodies g (mapBodies g) (a.unary op) := by
  rw [Result.mapBodies_eq_self g (fun _ => isAtom_of_unary) fun _ => operational_of_unary]
  cases op <;> cases a <;> simp [mapBodies, unary, Failure.unexpected, kind]

theorem step_mapBodies (op : StepOp) (a : Value) :
    (a.mapBodies g).step op = Result.mapBodies g (mapBodies g) (a.step op) := by
  rw [Result.mapBodies_eq_self g (fun _ => isAtom_of_step) fun _ => operational_of_step]
  have hone : (int 1).mapBodies g = int 1 := mapBodies_of_isAtom g rfl
  cases op with
  | increment => simpa only [step, hone] using add_mapBodies g a (int 1)
  | decrement => simpa only [step, sub, hone] using arithmetic_mapBodies g .sub a (int 1) ..

theorem ofLiteral_mapBodies (kind : LiteralKind) (lexeme : String) :
    ofLiteral kind lexeme = Result.mapBodies g (mapBodies g) (ofLiteral kind lexeme) :=
  (Result.mapBodies_eq_self g (fun _ => isAtom_of_ofLiteral) fun _ => operational_of_ofLiteral).symm

theorem expectBool_mapBodies (a : Value) :
    (a.mapBodies g).expectBool = Result.mapBodies g (fun b => b) a.expectBool := by
  cases a <;>
    simp [mapBodies, expectBool, Result.mapBodies, Failure.mapBodies, Failure.unexpected, kind]

end Value

end Retrace
