import Retrace.Eval.Assignment
import Retrace.Eval.Call
import Retrace.Proofs.Natives
import Retrace.Proofs.Value.Bodies

/-!
# Bodies of functions in scopes

The bodies of all functions that are bound can be changed (`Scopes.mapBodies`),
and names are still found where they were, bound to the same values but for
these bodies.

A native function sees the values that its arguments are bound to. A host is
*blind* to the bodies of functions (`Host.Blind`) if what its native functions
do does not depend on them. The builtins are blind to them.
-/

namespace Retrace

variable (g : Block → Block)

namespace Bindings

/-- The bindings with `g` applied to the bodies of all functions in them. -/
def mapBodies (bs : Bindings) : Bindings :=
  bs.map fun b => (b.1, b.2.mapBodies g)

theorem get?_mapBodies (bs : Bindings) (name : String) :
    get? (mapBodies g bs) name = (get? bs name).map (Value.mapBodies g) := by
  induction bs with
  | nil => rfl
  | cons b bs ih =>
    rw [mapBodies, List.map_cons, get?_cons, get?_cons]
    split
    · rfl
    · exact ih

theorem binds_mapBodies (bs : Bindings) (name : String) :
    binds (mapBodies g bs) name = binds bs name := by
  rw [binds_eq_isSome_get?, binds_eq_isSome_get?, get?_mapBodies, Option.isSome_map]

theorem bind_mapBodies (bs : Bindings) (name : String) (v : Value) :
    bind (mapBodies g bs) name (v.mapBodies g) = mapBodies g (bind bs name v) := by
  induction bs with
  | nil => rfl
  | cons b bs ih =>
    rw [mapBodies, List.map_cons, bind, bind]
    split
    · rfl
    · rw [← mapBodies, ih]
      rfl

end Bindings

/-- The scope with `g` applied to the bodies of all functions bound in it. -/
def Scope.mapBodies (s : Scope) : Scope :=
  { s with bindings := s.bindings.mapBodies g }

namespace Scopes

/-- The scopes with `g` applied to the bodies of all functions bound in them. -/
def mapBodies (ss : Scopes) : Scopes :=
  { ss with row := ss.row.map (Scope.mapBodies g) }

variable (ss : Scopes) (id : ScopeId) (name : String) (v : Value)

theorem scope?_mapBodies :
    (ss.mapBodies g).scope? id = (ss.scope? id).map (Scope.mapBodies g) := by
  rw [scope?, scope?, mapBodies, Array.getElem?_map, Option.filter_map]
  rfl

theorem scope_mapBodies :
    (ss.mapBodies g).scope id = Result.mapBodies g (Scope.mapBodies g) (ss.scope id) := by
  rw [scope, scope, scope?_mapBodies]
  cases ss.scope? id <;> rfl

theorem ownerAmong_mapBodies (links : Nat) :
    (ss.mapBodies g).ownerAmong name links id =
      Result.mapBodies g (fun o => o) (ss.ownerAmong name links id) := by
  induction links generalizing id with
  | zero => rfl
  | succ links ih =>
    rw [ownerAmong, ownerAmong]
    refine Result.mapBodies_bind g (scope_mapBodies g ss id) fun s => ?_
    rw [Scope.mapBodies, Bindings.binds_mapBodies]
    split
    · rfl
    · cases s.parent with
      | none => rfl
      | some parent => exact ih parent

theorem owner_mapBodies :
    (ss.mapBodies g).owner id name = Result.mapBodies g (fun o => o) (ss.owner id name) :=
  Result.mapBodies_bind g (ownerAmong_mapBodies g ss id name _) fun o => by cases o <;> rfl

theorem getLocal_mapBodies :
    (ss.mapBodies g).getLocal id name =
      Result.mapBodies g (Option.map (Value.mapBodies g)) (ss.getLocal id name) :=
  Result.mapBodies_bind g (scope_mapBodies g ss id) fun s =>
    congrArg Except.ok (Bindings.get?_mapBodies g s.bindings name)

theorem get_mapBodies :
    (ss.mapBodies g).get id name = Result.mapBodies g (Value.mapBodies g) (ss.get id name) :=
  Result.mapBodies_bind g (owner_mapBodies g ss id name) fun owner =>
    Result.mapBodies_bind g (getLocal_mapBodies g ss owner name) fun v => by cases v <;> rfl

theorem modify_mapBodies (slot : Nat) :
    (ss.row.map (Scope.mapBodies g)).modify slot (·.bind name (v.mapBodies g)) =
      (ss.row.modify slot (·.bind name v)).map (Scope.mapBodies g) := by
  apply Array.ext_getElem?
  intro i
  rw [Array.getElem?_modify, Array.getElem?_map, Array.getElem?_map, Array.getElem?_modify]
  split
  · cases ss.row[i]? with
    | none => rfl
    | some s =>
      rw [Option.map_some, Option.map_some, Option.map_some, Option.map_some, Scope.bind,
        Scope.mapBodies, Bindings.bind_mapBodies]
      rfl
  · rfl

theorem define_mapBodies :
    (ss.mapBodies g).define id name (v.mapBodies g) =
      Result.mapBodies g (mapBodies g) (ss.define id name v) := by
  refine Result.mapBodies_bind g (scope_mapBodies g ss id) fun s => ?_
  rw [mapBodies, modify_mapBodies]
  rfl

theorem defineGlobal_mapBodies :
    (ss.mapBodies g).defineGlobal name (v.mapBodies g) = (ss.defineGlobal name v).mapBodies g := by
  rw [defineGlobal, mapBodies, modify_mapBodies]
  rfl

/-- A native function has no body. -/
theorem defineGlobal_native_mapBodies (f : NativeFunction) :
    (ss.mapBodies g).defineGlobal name (.native f) =
      (ss.defineGlobal name (.native f)).mapBodies g :=
  defineGlobal_mapBodies g ss name (.native f)

theorem push_mapBodies (parent : ScopeId) :
    (ss.mapBodies g).push parent = ((ss.push parent).1, (ss.push parent).2.mapBodies g) := by
  rw [push, push, mapBodies, mapBodies, Array.size_map, Array.map_push]
  rfl

theorem take_mapBodies (n : Nat) :
    ({ ss.mapBodies g with row := (ss.mapBodies g).row.take n } : Scopes) =
      ({ ss with row := ss.row.take n } : Scopes).mapBodies g := by
  rw [mapBodies, mapBodies, Array.take_eq_extract, Array.take_eq_extract, Array.map_extract]

theorem discard_mapBodies : (ss.mapBodies g).discard id = (ss.discard id).mapBodies g :=
  take_mapBodies g ss id.slot

theorem discardLocals_mapBodies :
    (ss.mapBodies g).discardLocals = ss.discardLocals.mapBodies g :=
  take_mapBodies g ss 1

end Scopes

/-! ### Assignments -/

/-- The breadcrumb with `g` applied to the bodies of all functions in what it takes back. -/
def Breadcrumb.mapBodies : Breadcrumb → Breadcrumb
  | .binding scope name previous => .binding scope name (previous.mapBodies g)
  | .entry scope name path previous =>
    .entry scope name (path.map (Value.mapBodies g)) (previous.mapBodies g)
  | c => c

/-- The target with `g` applied to the bodies of all functions in its keys. -/
def Target.mapBodies (t : Target) : Target :=
  { t with path := t.path.map (Value.mapBodies g) }

/-- The rebinding with `g` applied to the bodies of all functions in it. -/
def Rebinding.mapBodies (b : Rebinding) : Rebinding :=
  { b with value := b.value.mapBodies g, crumb := b.crumb.mapBodies g }

namespace Target

variable (t : Target) (ss : Scopes) (id : ScopeId) (v : Value)

theorem mapBodies_push (k : Value) :
    (t.push k).mapBodies g = (t.mapBodies g).push (k.mapBodies g) := by
  rw [push, mapBodies, List.map_append]
  rfl

theorem read_mapBodies :
    (t.mapBodies g).read (ss.mapBodies g) id =
      Result.mapBodies g (Value.mapBodies g) (t.read ss id) :=
  Result.mapBodies_bind g (Scopes.get_mapBodies g ss id t.name) fun bound =>
    bound.readPath_mapBodies g t.path

theorem rebinding_mapBodies :
    (t.mapBodies g).rebinding (ss.mapBodies g) id (v.mapBodies g) =
      Result.mapBodies g (Rebinding.mapBodies g) (t.rebinding ss id v) := by
  rw [rebinding, rebinding]
  refine Result.mapBodies_bind g (Scopes.owner_mapBodies g ss id t.name) fun owner => ?_
  refine Result.mapBodies_bind g (Scopes.get_mapBodies g ss owner t.name) fun bound => ?_
  rw [mapBodies, List.getLast?_map]
  cases t.path.getLast? with
  | none => rfl
  | some key =>
    simp only [Option.map_some, ← List.map_dropLast]
    refine Result.mapBodies_bind g (bound.updatePath_mapBodies g t.path v) fun updated => ?_
    refine Result.mapBodies_bind g (bound.readPath_mapBodies g _) fun parent => ?_
    refine Result.mapBodies_bind g (parent.index_mapBodies g key) fun previous => ?_
    simp only [Result.mapBodies, Rebinding.mapBodies, Breadcrumb.mapBodies, Value.mapBodies]

end Target

/-! ### Native functions -/

/-- The call with `g` applied to the bodies of all functions bound. -/
def NativeCall.mapBodies (c : NativeCall) : NativeCall :=
  { c with scopes := c.scopes.mapBodies g }

namespace NativeM

variable {α β γ δ : Type} {φ : α → β} {ψ : γ → δ}

/-- Whether `y` does what `x` does if `g` is applied to the bodies of all functions bound, and
    gives what `φ` makes of what `x` gives. -/
def Mirrors (φ : α → β) (x : NativeM α) (y : NativeM β) : Prop :=
  ∀ c s, y (c.mapBodies g) s = (Result.mapBodies g φ (x c s).1, (x c s).2)

namespace Mirrors

variable {g}

theorem bind {x : NativeM α} {y : NativeM β} {f : α → NativeM γ} {f' : β → NativeM δ}
    (hx : Mirrors g φ x y) (hf : ∀ a, Mirrors g ψ (f a) (f' (φ a))) :
    Mirrors g ψ (x >>= f) (y >>= f') := by
  intro c s
  rw [bind_apply, bind_apply, hx]
  rcases x c s with ⟨_ | a, s'⟩
  · rfl
  · exact hf a c s'

theorem pure (a : α) : Mirrors g φ (pure a) (pure (φ a)) :=
  fun _ _ => rfl

theorem fail {e : Failure} (h : e.Ordinary) : Mirrors g φ (fail e) (fail e) :=
  fun _ _ => by rw [NativeM.fail, NativeM.fail, Result.mapBodies, h.mapBodies_eq]

theorem call : Mirrors g (NativeCall.mapBodies g) call call :=
  fun _ _ => rfl

theorem surroundings : Mirrors g (fun s => s) surroundings surroundings :=
  fun _ _ => rfl

theorem modifyTerminal (f : Terminal → Terminal) :
    Mirrors g (fun u => u) (modifyTerminal f) (modifyTerminal f) :=
  fun _ _ => rfl

theorem setFiles (files : Files) : Mirrors g (fun u => u) (setFiles files) (setFiles files) :=
  fun _ _ => rfl

theorem granted (operation : OutsideOperation) (target : String) (x : Except Refusal α) :
    Mirrors g (fun a => a) (granted operation target x) (granted operation target x) := by
  cases x with
  | ok a => exact pure a
  | error r => exact fail trivial

theorem ofExcept {x : Except Failure α} {y : Except Failure β} (h : y = Result.mapBodies g φ x) :
    Mirrors g φ (ofExcept x) (ofExcept y) :=
  fun _ _ => by rw [h]; rfl

theorem arg (name : String) : Mirrors g (Value.mapBodies g) (arg name) (arg name) := by
  refine bind call fun c => bind (ofExcept (Scopes.getLocal_mapBodies g ..)) fun v => ?_
  cases v with
  | none => exact fail trivial
  | some v => exact pure v

theorem strArg (name : String) : Mirrors g (fun s => s) (strArg name) (strArg name) := by
  refine bind (arg name) fun v => ?_
  cases v with
  | str s => exact pure s
  | _ =>
    simp only [Value.mapBodies]
    exact fail trivial

theorem args (names : List String) :
    Mirrors g (List.map (Value.mapBodies g)) (args names) (args names) := by
  induction names with
  | nil => exact pure []
  | cons name names ih => exact bind (arg name) fun v => bind ih fun vs => pure (v :: vs)

theorem positional : Mirrors g (List.map (Value.mapBodies g)) positional positional :=
  bind call fun _ => args _

end Mirrors

end NativeM

open NativeM in
/-- The builtins do not look into the bodies of functions. -/
theorem Builtin.mirrors (b : Builtin) (shell : Shell) :
    Mirrors g (Value.mapBodies g) (b.run shell) (b.run shell) := by
  cases b with
  | println =>
    refine .bind .positional fun vs => ?_
    have htexts : (vs.map (Value.mapBodies g)).map Value.text = vs.map Value.text := by
      rw [List.map_map]
      exact List.map_congr_left fun v _ => v.text_mapBodies g
    rw [htexts]
    exact .bind (.modifyTerminal _) fun _ => .pure Value.void
  | read =>
    exact .bind (.strArg _) fun _ => .bind .surroundings fun _ => .bind (.granted _ _ _) fun s =>
      .pure (Value.str s)
  | write =>
    exact .bind (.strArg _) fun _ => .bind (.strArg _) fun _ => .bind .surroundings fun _ =>
      .bind (.granted _ _ _) fun _ => .bind (.setFiles _) fun _ => .pure Value.void
  | touch | delete =>
    refine .bind (.strArg _) fun _ => .bind .surroundings fun _ => ?_
    dsimp only
    split
    · exact .bind (.setFiles _) fun _ => .pure Value.void
    · exact .pure Value.void
  | shell =>
    exact .bind (.strArg _) fun _ => .bind .call fun _ => .bind .surroundings fun _ =>
      .bind (.granted _ _ _) fun _ => .bind (.setFiles _) fun _ =>
        .bind (.modifyTerminal _) fun _ => .bind (.modifyTerminal _) fun _ => .pure Value.void

/-- The arguments are bound to the same names, whatever they are. -/
theorem NativeFunction.bindArgs_map (f : NativeFunction) (φ : Value → Value) (args : List Value) :
    f.bindArgs (args.map φ) = (f.bindArgs args).map fun b => (b.1, φ b.2) := by
  rw [bindArgs, bindArgs, List.length_map]
  split <;> rw [List.zip_map_right] <;> rfl

/-- What native functions of the host do does not depend on the bodies of functions. -/
def Host.Blind (host : Host) : Prop :=
  ∀ key, NativeM.Mirrors g (Value.mapBodies g) (host.native key) (host.native key)

variable {g} in
theorem Host.Blind.run {host : Host} (h : host.Blind g) (code : NativeCode) :
    NativeM.Mirrors g (Value.mapBodies g) (code.run host) (code.run host) := by
  cases code with
  | builtin b => exact b.mirrors g host.shell
  | host key => exact h key

end Retrace
