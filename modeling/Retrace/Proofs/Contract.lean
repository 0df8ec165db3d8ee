import Retrace.Eval
import Retrace.Proofs.Assignment
import Retrace.Proofs.Discipline
import Retrace.Proofs.Natives
import Retrace.Proofs.Value.Failing

/-!
# Contracts

What is proved of all runs of programs has the form of a *contract*: of a run
from a machine with `pre` it says how the machine after it is related to the one
before (`post`), which may depend on how the run ended. A contract comes with a
discipline for the values and statements, and says which failures there may be
(`failure`), the ordinary ones among them. It can be met in parts: it is met by
two runs one after the other if it is met by each (`Meets.bind`).

Most of what evaluators do is made of a few runs that touch the machine. If a
contract is met by these (`Contract.Basic`), then expressions and the statements
that declare nothing meet it when their parts do, and the calls, blocks, loops
and skips in them (`Evaluator.Serves`), with one step for each kind of node
(`Serves.expression`, `Serves.statement`).

A contract is *lawful* (`Contract.Lawful`) if it is met by declarations too, by a
block or a call when it is met by what is run in it, and by a skip when it is met
by its parts. Then every run of a program meets it, whatever its fuel
(`Lawful.evaluator`), by induction on the fuel.
-/

namespace Retrace

/-- How a run ended. -/
inductive Ending where
  | value
  | reversal
  | failure
deriving DecidableEq

/-- How a run with the given result ended. -/
def Ending.of {α : Type} : Except Stop α → Ending
  | .ok _ => .value
  | .error (.reversal _) => .reversal
  | .error (.failure _) => .failure

/-- Whether the value satisfies `P` that a flow carries, if it carries one. -/
def Flow.Obey (P : Value → Prop) : Flow → Prop
  | .returned v => P v
  | _ => True

/-- How runs change machines that satisfy `pre`, and which failures they may end with. -/
structure Contract where
  discipline : Discipline
  failure : Failure → Prop := fun _ => True
  pre : Machine → Prop
  post : Machine → Ending → Machine → Prop
  ordinary : ∀ {e : Failure}, e.Ordinary → failure e := by exact fun _ => trivial
  bound : ∀ {m}, pre m → m.scopes.Obey discipline.value
  lookup : ∀ {m name e}, pre m → m.scopes.get m.current name = .error e → failure e := by
    exact fun _ _ => trivial
  refl : ∀ {m}, pre m → post m .value m
  fail : ∀ {m}, pre m → post m .failure m
  next : ∀ {m m'}, pre m → post m .value m' → pre m'
  trans : ∀ {m m' m'' e}, pre m → post m .value m' → post m' e m'' → post m e m''

namespace Contract

variable (Q : Contract) {α β : Type}

/-- Whether a value that is the result satisfies `V`, the payload of a reversal obeys the
    discipline, and a failure is one that there may be. -/
def Allows (V : α → Prop) : Except Stop α → Prop
  | .ok a => V a
  | .error (.reversal payload) => Q.discipline.value payload
  | .error (.failure e) => Q.failure e

/-- A run keeps the contract, and gives only what satisfies `V`. -/
def Meets (V : α → Prop) (x : Run α) : Prop :=
  ∀ m r m', Q.pre m → x m = some (r, m') → Q.post m (.of r) m' ∧ Q.Allows V r

variable {Q} {V : α → Prop} {W : β → Prop}

namespace Meets

theorem bind {x : Run α} {f : α → Run β} (hx : Q.Meets V x)
    (hf : ∀ a, V a → Q.Meets W (f a)) : Q.Meets W (x >>= f) := by
  intro m r m' hm hr
  rcases Run.bind_eq_some hr with ⟨a, m₁, ha, hr⟩ | ⟨e, he, rfl⟩
  · obtain ⟨hpost, hV⟩ := hx m _ m₁ hm ha
    obtain ⟨hpost', hW⟩ := hf a hV m₁ r m' (Q.next hm hpost) hr
    exact ⟨Q.trans hm hpost hpost', hW⟩
  · obtain ⟨hpost, hV⟩ := hx m _ m' hm he
    cases e <;> exact ⟨hpost, hV⟩

theorem pure {a : α} (h : V a) : Q.Meets V (pure a) := by
  intro m r m' hm hr
  obtain ⟨rfl, rfl⟩ := Run.pure_eq_some hr
  exact ⟨Q.refl hm, h⟩

theorem fail {e : Failure} (h : e.Ordinary) : Q.Meets V (Run.fail e) := by
  intro m r m' hm hr
  obtain ⟨rfl, rfl⟩ := Run.fail_eq_some hr
  exact ⟨Q.fail hm, Q.ordinary h⟩

theorem starved : Q.Meets V Run.starved :=
  fun _ _ _ _ hr => absurd hr (by simp [Run.starved])

theorem read {f : Machine → α} (h : ∀ m, V (f m)) : Q.Meets V (Run.read f) := by
  intro m r m' hm hr
  obtain ⟨rfl, rfl⟩ := Run.read_eq_some hr
  exact ⟨Q.refl hm, h m'⟩

theorem query {f : Machine → Except Failure α} (h : ∀ m a, Q.pre m → f m = .ok a → V a)
    (hfail : ∀ m e, Q.pre m → f m = .error e → Q.failure e := by exact fun _ _ _ _ => trivial) :
    Q.Meets V (Run.query f) := by
  intro m r m' hm hr
  obtain ⟨rfl, ⟨a, ha, rfl⟩ | ⟨e, rfl, he⟩⟩ := Run.query_eq_some hr
  · exact ⟨Q.refl hm, h m' a hm ha⟩
  · exact ⟨Q.fail hm, hfail m' e hm he⟩

theorem ofExcept {x : Except Failure α} (h : ∀ a, x = .ok a → V a)
    (hfail : ∀ e, x = .error e → e.Operational) : Q.Meets V (Run.ofExcept x) :=
  query (fun _ a _ ha => h a ha) fun _ e _ he => Q.ordinary (hfail e he).ordinary

theorem lookup (name : String) : Q.Meets Q.discipline.value (Run.lookup name) :=
  query (fun _ _ hm hv => (Q.bound hm).get hv) fun _ _ hm he => Q.lookup hm he

theorem readTarget (t : Target) : Q.Meets Q.discipline.value (Run.readTarget t) := by
  refine .query (fun m v hm hv => Q.discipline.closed.read (Q.bound hm) hv) fun m e hm he => ?_
  rw [Target.read] at he
  cases hb : m.scopes.get m.current t.name with
  | error e' =>
    rw [hb] at he
    exact Except.error.inj he ▸ Q.lookup hm hb
  | ok bound =>
    rw [hb] at he
    exact Q.ordinary (Value.operational_of_readPath he).ordinary

end Meets

end Contract

/-- An evaluator whose expressions meet a contract. -/
structure Evaluator.Evaluates (r : Evaluator) (Q : Contract) : Prop where
  eval : ∀ e, Q.Meets Q.discipline.value (r.eval e)

/-- An evaluator whose runs meet a contract. -/
structure Evaluator.Satisfies (r : Evaluator) (Q : Contract) : Prop extends r.Evaluates Q where
  exec : ∀ s, Q.discipline.stmt s → Q.Meets (Flow.Obey Q.discipline.value) (r.exec s)

/-- An evaluator whose expressions meet a contract, and so do calls, blocks, loops and skips. -/
structure Evaluator.Serves (r : Evaluator) (host : Host) (Q : Contract) : Prop
    extends r.Evaluates Q where
  callValue : ∀ {f : Value}, Q.discipline.value f → ∀ {args : List Value},
    (∀ v ∈ args, Q.discipline.value v) → Q.Meets Q.discipline.value (r.callValue host f args)
  block : ∀ {b : Block}, (∀ s ∈ b, Q.discipline.stmt s) →
    Q.Meets (Flow.Obey Q.discipline.value) (r.block b)
  loop : ∀ (init : Option VarDecl) (condition : Expr) {increment : Option Stmt} {body : Block},
    (∀ s ∈ increment.toList, Q.discipline.stmt s) → (∀ s ∈ body, Q.discipline.stmt s) →
    Q.Meets (Flow.Obey Q.discipline.value) (r.loop init condition increment body)
  skip : ∀ {body seizes l}, Q.discipline.stmt ⟨.skip body seizes, l⟩ →
    Q.Meets (Flow.Obey Q.discipline.value) (r.skip body seizes)

/-- A contract that is met by what native functions do, and by what statements do themselves that
    declare nothing. -/
structure Contract.Basic (Q : Contract) (host : Host) : Prop where
  keeps : host.Keeps Q.discipline.value
  nativeFailure : ∀ {m} {code : NativeCode} {argc e s}, Q.pre m →
    code.run host ⟨m.scopes, m.current, argc, m.settings⟩ m.surroundings = (.error e, s) →
    Q.failure e := by exact fun _ _ => trivial
  store : ∀ (t : Target) {v}, (∀ k ∈ t.path, Q.discipline.value k) → Q.discipline.value v →
    Q.Meets (fun _ => True) (Run.store t v)
  record : ∀ {e undo l}, Q.discipline.stmt ⟨.expr e (some undo), l⟩ →
    Q.Meets (fun _ => True) do
      let scope ← Run.read (·.current)
      Run.record (.replay scope undo)
  locate : ∀ l, Q.Meets (fun _ => True) (Run.setLocation l)
  surround : ∀ {m e} s, Q.pre m → e ≠ .reversal → Q.post m e { m with surroundings := s }
  reverse : ∀ {m}, Q.pre m → Q.post m .reversal { m with reversing := true }

/-- A contract that is met by what the runs of programs are made of. -/
structure Contract.Lawful (Q : Contract) (host : Host) : Prop extends Q.Basic host where
  declare : ∀ name {v}, Q.discipline.value v → Q.Meets (fun _ => True) (Run.declare name v)
  inBlock : ∀ {α : Type} {V : α → Prop} {x : Run α}, Q.Meets V x → Q.Meets V (Run.inBlock x)
  inCall : ∀ {α : Type} {V : α → Prop} {x : Run α}, Q.Meets V x → Q.Meets V (Run.inCall x)
  skip : ∀ fuel {body seizes l}, (evaluator host fuel).Satisfies Q →
    Q.discipline.stmt ⟨.skip body seizes, l⟩ →
    Q.Meets (Flow.Obey Q.discipline.value) ((evaluator host fuel).skip body seizes)

/-! ### Several parts one after the other -/

section Parts

variable {Q : Contract} {r : Evaluator}

namespace Evaluator.Evaluates

variable (hr : r.Evaluates Q)
include hr

theorem evalAll (es : List Expr) :
    Q.Meets (fun vs => ∀ v ∈ vs, Q.discipline.value v) (r.evalAll es) := by
  induction es with
  | nil => exact .pure fun _ h => absurd h List.not_mem_nil
  | cons e es ih =>
    refine .bind (hr.eval e) fun v hv => .bind ih fun vs hvs => .pure ?_
    exact List.forall_mem_cons.2 ⟨hv, hvs⟩

theorem evalEntries (es : List (Expr × Expr)) :
    Q.Meets (fun fs => ∀ f ∈ fs, Q.discipline.value f.1 ∧ Q.discipline.value f.2)
      (r.evalEntries es) := by
  induction es with
  | nil => exact .pure fun _ h => absurd h List.not_mem_nil
  | cons e es ih =>
    refine .bind (hr.eval e.1) fun k hk => .bind (hr.eval e.2) fun v hv =>
      .bind ih fun fs hfs => .pure ?_
    exact List.forall_mem_cons.2 ⟨⟨hk, hv⟩, hfs⟩

theorem condition (e : Expr) : Q.Meets (fun _ => True) (r.condition e) :=
  .bind (hr.eval e) fun _ _ => .ofExcept (fun _ _ => trivial) fun _ => Value.operational_of_expectBool

theorem target (e : Expr) :
    Q.Meets (fun t => ∀ k ∈ t.path, Q.discipline.value k) (r.target e) := by
  fun_induction Evaluator.target r e with
  | case1 name => exact .pure fun _ h => absurd h List.not_mem_nil
  | case2 inner ih => exact ih
  | case3 container key ih =>
    refine .bind ih fun t ht => .bind (hr.eval key) fun k hk => .pure ?_
    exact List.forall_mem_append.2 ⟨ht, List.forall_mem_singleton.2 hk⟩
  | case4 object name ih =>
    refine .bind ih fun t ht => .pure ?_
    exact List.forall_mem_append.2 ⟨ht, List.forall_mem_singleton.2 (Q.discipline.atom rfl)⟩
  | case5 => exact .fail trivial

theorem select {P : Case → Prop} (subject : Value) {cases : List Case} {kept : Option (List Case)}
    (hcases : ∀ c ∈ cases, P c) (hkept : ∀ c ∈ kept.getD [], P c) :
    Q.Meets (fun chosen => ∀ c ∈ chosen, P c) (r.select subject kept cases) := by
  induction cases generalizing kept with
  | nil => exact .pure hkept
  | cons c cases ih =>
    obtain ⟨trigger, body⟩ := c
    have htail := (List.forall_mem_cons.1 hcases).2
    cases trigger with
    | none =>
      -- The default clause is only kept for when no other one is chosen.
      refine ih htail ?_
      cases kept with
      | none => exact hcases
      | some kept => exact hkept
    | some value =>
      refine .bind (hr.eval value) fun v _ => ?_
      split
      · exact .pure hcases
      · exact ih htail hkept

theorem declareVariable
    (hdeclare : ∀ name {v}, Q.discipline.value v → Q.Meets (fun _ => True) (Run.declare name v))
    (d : VarDecl) : Q.Meets (fun _ => True) (r.declareVariable d) := by
  rw [Evaluator.declareVariable]
  split
  · exact .bind (hr.eval _) fun v hv => hdeclare _ hv
  · exact hdeclare _ (Q.discipline.atom rfl)

/-- Dispatching a reversal meets the contract if the seizes do. -/
theorem dispatch
    (hseize : ∀ {b : Block}, (∀ s ∈ b, Q.discipline.stmt s) →
      Q.Meets (Flow.Obey Q.discipline.value) (r.seize b))
    (hstop : ∀ {m}, Q.pre m → Q.post m .reversal m) {payload : Value}
    (hpayload : Q.discipline.value payload) {kept : Option Block} {seizes : List Seize}
    (hkept : ∀ s ∈ kept.getD [], Q.discipline.stmt s)
    (hseizes : ∀ c ∈ seizes, ∀ s ∈ c.body, Q.discipline.stmt s) :
    Q.Meets (Flow.Obey Q.discipline.value) (r.dispatch payload kept seizes) := by
  induction seizes generalizing kept with
  | nil =>
    cases kept with
    | some b => exact hseize hkept
    | none =>
      intro m x m' hm hx
      obtain ⟨rfl, rfl⟩ := Run.stop_eq_some hx
      exact ⟨hstop hm, hpayload⟩
  | cons c seizes ih =>
    obtain ⟨pattern, b⟩ := c
    obtain ⟨hc, hrest⟩ := List.forall_mem_cons.1 hseizes
    cases pattern with
    | none =>
      rw [Evaluator.dispatch]
      refine ih ?_ hrest
      cases kept with
      | none => exact hc
      | some kept => exact hkept
    | some pattern =>
      rw [Evaluator.dispatch]
      refine .bind (hr.eval pattern) fun v _ => ?_
      split
      · exact hseize hc
      · exact ih hkept hrest

end Evaluator.Evaluates

namespace Evaluator.Satisfies

variable (hr : r.Satisfies Q)
include hr

theorem execAll {b : Block} (hb : ∀ s ∈ b, Q.discipline.stmt s) :
    Q.Meets (Flow.Obey Q.discipline.value) (r.execAll b) := by
  induction b with
  | nil => exact .pure trivial
  | cons s b ih =>
    obtain ⟨hs, hb⟩ := List.forall_mem_cons.1 hb
    refine .bind (hr.exec s hs) fun flow hflow => ?_
    cases flow with
    | normal => exact ih hb
    | jump j => exact .pure trivial
    | returned v => exact .pure hflow

theorem increment {increment : Option Stmt}
    (hincrement : ∀ s ∈ increment.toList, Q.discipline.stmt s) :
    Q.Meets (fun _ => True) (r.increment increment) := by
  cases increment with
  | none => exact .pure trivial
  | some s =>
    exact .bind (hr.exec s (hincrement s (List.mem_singleton_self s))) fun _ _ => .pure trivial

theorem iterate (condition : Expr) {increment : Option Stmt} {body : Block}
    (hincrement : ∀ s ∈ increment.toList, Q.discipline.stmt s)
    (hbody : Q.Meets (Flow.Obey Q.discipline.value) (r.block body)) (n : Nat) :
    Q.Meets (Flow.Obey Q.discipline.value) (r.iterate condition increment body n) := by
  -- The induction is on the rounds that are left. The evaluator of the body stays the same.
  induction n with
  | zero => exact .starved
  | succ n ih =>
    refine .bind (hr.condition condition) fun holds _ => ?_
    cases holds with
    | false => exact .pure trivial
    | true =>
      refine .bind hbody fun flow hflow => ?_
      match flow with
      | .normal => exact .bind (hr.increment hincrement) fun _ _ => ih
      | .jump .leave => exact .pure trivial
      | .jump .fallthrough => exact .fail trivial
      | .returned v => exact .pure hflow

end Evaluator.Satisfies

end Parts

/-! ### Calls -/

section Calls

variable {Q : Contract} {host : Host} {r : Evaluator} {args : List Value}

theorem Contract.Meets.declareAll
    (hdeclare : ∀ name {v}, Q.discipline.value v → Q.Meets (fun _ => True) (Run.declare name v))
    {binds : List (String × Value)} (h : ∀ b ∈ binds, Q.discipline.value b.2) :
    Q.Meets (fun _ => True) (Run.declareAll binds) := by
  induction binds with
  | nil => exact .pure trivial
  | cons b binds ih =>
    obtain ⟨hb, h⟩ := List.forall_mem_cons.1 h
    exact .bind (hdeclare b.1 hb) fun _ _ => ih h

/-- The parameters of a function are bound to the arguments, and no others. -/
theorem Discipline.value_of_mem_zip {D : Discipline} {params : List String}
    (hargs : ∀ v ∈ args, D.value v) : ∀ b ∈ params.zip args, D.value b.2 :=
  fun _ hb => hargs _ (List.of_mem_zip hb).2

theorem Discipline.value_of_mem_bindArgs {D : Discipline} {f : NativeFunction}
    (hargs : ∀ v ∈ args, D.value v) : ∀ b ∈ f.bindArgs args, D.value b.2 := by
  intro b hb
  rw [NativeFunction.bindArgs] at hb
  split at hb <;> exact hargs _ (List.of_mem_zip hb).2

theorem Contract.Meets.callFunction {f : Function}
    (hbody : Q.Meets (Flow.Obey Q.discipline.value) (Run.inCall do
      Run.declareAll (f.params.zip args)
      r.execAll f.body)) :
    Q.Meets Q.discipline.value (r.callFunction f args) := by
  rw [Evaluator.callFunction]
  split
  · exact .fail trivial
  · refine .bind hbody fun flow hflow => ?_
    -- A body that does not return gives void, and a jump out of it fails.
    cases flow with
    | normal => exact .pure (Q.discipline.atom rfl)
    | jump j => exact .fail trivial
    | returned v => exact .pure hflow

theorem Contract.Meets.callNative {f : NativeFunction}
    (hbody : Q.Meets Q.discipline.value (Run.inCall do
      Run.declareAll (f.bindArgs args)
      Run.native (f.code.run host) args.length)) :
    Q.Meets Q.discipline.value (Evaluator.callNative host f args) := by
  rw [Evaluator.callNative]
  split
  · exact .fail trivial
  · exact hbody

theorem Contract.Basic.native (hQ : Q.Basic host) (code : NativeCode) (argc : Nat) :
    Q.Meets Q.discipline.value (Run.native (code.run host) argc) := by
  intro m r m' hm hr
  rw [Run.native] at hr
  split at hr
  -- Nothing is changed but the surroundings, also if the function fails.
  · rename_i hv
    obtain ⟨rfl, rfl⟩ := Prod.mk.inj (Option.some.inj hr)
    have hbound := Q.bound hm
    exact ⟨hQ.surround _ hm (by simp [Ending.of]), Q.discipline.closed.run hQ.keeps hbound hv⟩
  · rename_i he
    obtain ⟨rfl, rfl⟩ := Run.fail_eq_some hr
    exact ⟨hQ.surround _ hm (by simp [Ending.of]), hQ.nativeFailure hm he⟩

end Calls

namespace Evaluator.Serves

variable {Q : Contract} {host : Host} {r : Evaluator} (hr : r.Serves host Q)
include hr

/-! ### Expressions -/

theorem call (callee : Expr) (args : List Expr) :
    Q.Meets Q.discipline.value (r.call host callee args) := by
  refine .bind (hr.eval callee) fun f hf => ?_
  split
  · exact .bind (hr.evalAll args) fun vs hvs => hr.callValue hf hvs
  · exact .fail trivial

/-- Every kind of expression meets the contract if its parts do. -/
theorem expression (e : Expr) : Q.Meets Q.discipline.value (r.expression host e) := by
  cases e with
  | literal kind lexeme =>
    exact .ofExcept (fun v hv => Q.discipline.atom (Value.isAtom_of_ofLiteral hv))
      fun _ => Value.operational_of_ofLiteral
  | ident name => exact .lookup name
  | group inner => exact hr.eval inner
  | unary op operand =>
    refine .bind (hr.eval operand) fun v _ => .ofExcept (fun w hw => ?_) fun _ =>
      Value.operational_of_unary
    exact Q.discipline.atom (Value.isAtom_of_unary hw)
  | binary op left right =>
    refine .bind (hr.eval left) fun a _ => .bind (hr.eval right) fun b _ =>
      .ofExcept (fun w hw => ?_) fun _ => Value.operational_of_binary
    exact Q.discipline.atom (Value.isAtom_of_binary hw)
  | call callee args => exact hr.call callee args
  | field object name =>
    exact .bind (hr.eval object) fun v hv =>
      .ofExcept (fun w hw => Q.discipline.closed.field hv hw) fun _ => Value.operational_of_field
  | index container key =>
    exact .bind (hr.eval container) fun v hv => .bind (hr.eval key) fun k _ =>
      .ofExcept (fun w hw => Q.discipline.closed.index hv hw) fun _ => Value.operational_of_index
  | list items =>
    exact .bind (hr.evalAll items) fun vs hvs => .pure (Q.discipline.closed.ofItems hvs)
  | map entries =>
    exact .bind (hr.evalEntries entries) fun es hes => .pure (Q.discipline.closed.ofList hes)

/-! ### Statements that declare nothing -/

theorem branch {arms : List Arm} {otherwise : Option Block}
    (harms : ∀ a ∈ arms, ∀ s ∈ a.body, Q.discipline.stmt s)
    (hotherwise : ∀ s ∈ otherwise.getD [], Q.discipline.stmt s) :
    Q.Meets (Flow.Obey Q.discipline.value) (r.branch otherwise arms) := by
  induction arms with
  | nil =>
    cases otherwise with
    | none => exact .pure trivial
    | some b => exact hr.block hotherwise
  | cons a arms ih =>
    obtain ⟨ha, harms⟩ := List.forall_mem_cons.1 harms
    refine .bind (hr.condition a.trigger) fun holds _ => ?_
    cases holds with
    | true => exact hr.block ha
    | false => exact ih harms

theorem fallInto {cases : List Case}
    (hcases : ∀ c ∈ cases, ∀ s ∈ c.body, Q.discipline.stmt s) :
    Q.Meets (Flow.Obey Q.discipline.value) (r.fallInto cases) := by
  induction cases with
  | nil => exact .pure trivial
  | cons c cases ih =>
    obtain ⟨hc, hcases⟩ := List.forall_mem_cons.1 hcases
    refine .bind (hr.block hc) fun flow hflow => ?_
    split
    · split
      · exact ih hcases
      · exact .fail trivial
    · exact .pure hflow
    · exact .pure trivial

theorem switch (subject : Expr) {cases : List Case}
    (hcases : ∀ c ∈ cases, ∀ s ∈ c.body, Q.discipline.stmt s) :
    Q.Meets (Flow.Obey Q.discipline.value) (r.switch subject cases) :=
  .bind (hr.eval subject) fun v _ =>
    .bind (hr.select v hcases fun _ h => absurd h List.not_mem_nil) fun _ hchosen =>
      hr.fallInto hchosen

variable (hQ : Q.Basic host)
include hQ

theorem assign (target : Expr) (op : AssignOp) (value : Expr) :
    Q.Meets (fun _ => True) (r.assign target op value) := by
  refine .bind (hr.target target) fun t ht => .bind (hr.eval value) fun v hv => ?_
  cases op.binary? with
  | none => exact hQ.store t ht hv
  | some op =>
    -- What is assigned to is read first, and the operator gives an atom.
    refine .bind (Contract.Meets.readTarget t) fun old _ =>
      .bind (.ofExcept (fun new hnew => ?_) fun _ => Value.operational_of_binary) fun new hnew =>
        hQ.store t ht hnew
    exact Q.discipline.atom (Value.isAtom_of_binary hnew)

theorem step (target : Expr) (op : StepOp) : Q.Meets (fun _ => True) (r.step target op) := by
  refine .bind (hr.target target) fun t ht => .bind (Contract.Meets.readTarget t) fun old _ =>
    .bind (.ofExcept (fun new hnew => ?_) fun _ => Value.operational_of_step) fun new hnew =>
      hQ.store t ht hnew
  exact Q.discipline.atom (Value.isAtom_of_step hnew)

theorem effect {e : Expr} {undo : Option Stmt} {l : Location}
    (h : Q.discipline.stmt ⟨.expr e undo, l⟩) : Q.Meets (fun _ => True) (r.effect e undo) := by
  refine .bind (hr.eval e) fun _ _ => ?_
  cases undo with
  | none => exact .pure trivial
  | some undo => exact hQ.record h

/-- Every kind of statement meets the contract if its parts do, and its declaration if it is one. -/
theorem statement {s : Stmt} (hs : Q.discipline.stmt s)
    (hdeclare : ∀ d, s.action = .declare d → Q.Meets (fun _ => True) (r.declaration d)) :
    Q.Meets (Flow.Obey Q.discipline.value) (r.statement s) := by
  refine .bind (hQ.locate s.location) fun _ _ => ?_
  obtain ⟨action, l⟩ := s
  have hparts := Q.discipline.parts hs
  cases action with
  | block b => exact hr.block hparts
  | expr e undo => exact .bind (hr.effect hQ hs) fun _ _ => .pure trivial
  | ret value =>
    cases value with
    | none => exact .pure (Q.discipline.atom rfl)
    | some e => exact .bind (hr.eval e) fun v hv => .pure hv
  | declare d => exact .bind (hdeclare d rfl) fun _ _ => .pure trivial
  | assign target op value => exact .bind (hr.assign hQ target op value) fun _ _ => .pure trivial
  | step target op => exact .bind (hr.step hQ target op) fun _ _ => .pure trivial
  | loop init condition increment body =>
    obtain ⟨hincrement, hbody⟩ := List.forall_mem_append.1 hparts
    exact hr.loop init condition hincrement hbody
  | branch arms otherwise =>
    obtain ⟨harms, hotherwise⟩ := List.forall_mem_append.1 hparts
    exact hr.branch (fun a ha s hs => harms s (List.mem_flatMap.2 ⟨a, ha, hs⟩)) hotherwise
  | jump j => exact .pure trivial
  | switch subject cases =>
    exact hr.switch subject fun c hc s hs => hparts s (List.mem_flatMap.2 ⟨c, hc, hs⟩)
  | skip body seizes => exact hr.skip hs
  | reverse payload =>
    -- The reversal begins when the payload is known, which is why it obeys the discipline.
    refine .bind (hr.eval payload) fun v hv m r m' hm h => ?_
    obtain ⟨rfl, rfl⟩ := Prod.mk.inj (Option.some.inj h)
    exact ⟨hQ.reverse hm, hv⟩

end Evaluator.Serves

namespace Contract.Lawful

variable {Q : Contract} {host : Host} (hQ : Q.Lawful host)
include hQ

theorem declareAll {binds : List (String × Value)}
    (h : ∀ b ∈ binds, Q.discipline.value b.2) : Q.Meets (fun _ => True) (Run.declareAll binds) :=
  .declareAll hQ.declare h

theorem callNative (f : NativeFunction) {args : List Value}
    (hargs : ∀ v ∈ args, Q.discipline.value v) :
    Q.Meets Q.discipline.value (Evaluator.callNative host f args) := by
  refine .callNative (hQ.inCall ?_)
  exact .bind (hQ.declareAll (Q.discipline.value_of_mem_bindArgs hargs)) fun _ _ => hQ.native _ _

section Evaluator

variable {r : Evaluator} (hr : r.Satisfies Q)
include hr

theorem callValue {f : Value} (hf : Q.discipline.value f) {args : List Value}
    (hargs : ∀ v ∈ args, Q.discipline.value v) :
    Q.Meets Q.discipline.value (r.callValue host f args) := by
  cases f with
  | function f =>
    refine .callFunction (hQ.inCall ?_)
    exact .bind (hQ.declareAll (Q.discipline.value_of_mem_zip hargs)) fun _ _ =>
      hr.execAll (Q.discipline.function.1 hf)
  | native f => exact hQ.callNative f hargs
  | _ => exact .fail trivial

theorem block {b : Block} (hb : ∀ s ∈ b, Q.discipline.stmt s) :
    Q.Meets (Flow.Obey Q.discipline.value) (r.block b) :=
  hQ.inBlock (hr.execAll hb)

theorem declaration {d : Decl} {l : Location} (hd : Q.discipline.stmt ⟨.declare d, l⟩) :
    Q.Meets (fun _ => True) (r.declaration d) := by
  cases d with
  | function name params body =>
    exact hQ.declare name (Q.discipline.function.2 (Q.discipline.parts hd))
  | «variable» d => exact hr.declareVariable hQ.declare d
  | classLike name members => exact .pure trivial

theorem loop (init : Option VarDecl) (condition : Expr) {increment : Option Stmt} {body : Block}
    (hincrement : ∀ s ∈ increment.toList, Q.discipline.stmt s)
    (hbody : ∀ s ∈ body, Q.discipline.stmt s) :
    Q.Meets (Flow.Obey Q.discipline.value) (r.loop init condition increment body) := by
  have hiterate := hr.iterate condition hincrement (hQ.block hr hbody) r.rounds
  refine hQ.inBlock ?_
  cases init with
  | none => exact hiterate
  | some d => exact .bind (hr.declareVariable hQ.declare d) fun _ _ => hiterate

end Evaluator

/-! ### Evaluators -/

theorem serves {fuel : Nat} (hr : (evaluator host fuel).Satisfies Q) :
    (evaluator host fuel).Serves host Q where
  eval := hr.eval
  callValue hf _ := hQ.callValue hr hf
  block := hQ.block hr
  loop init condition _ _ := hQ.loop hr init condition
  skip := hQ.skip fuel hr

/-- Every run of a program meets a lawful contract. -/
theorem evaluator (fuel : Nat) : (Retrace.evaluator host fuel).Satisfies Q := by
  induction fuel with
  | zero => exact ⟨⟨fun _ => .starved⟩, fun _ _ => .starved⟩
  | succ fuel ih =>
    refine ⟨⟨(hQ.serves ih).expression⟩, fun s hs => ?_⟩
    refine (hQ.serves ih).statement hQ.toBasic hs fun d hd => ?_
    obtain ⟨action, l⟩ := s
    obtain rfl : action = .declare d := hd
    exact hQ.declaration ih hs

end Contract.Lawful

end Retrace
