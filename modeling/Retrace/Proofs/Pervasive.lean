import Retrace.Eval

/-!
# What holds of all runs

A property of runs is *compositional* (`Compositional`) if it holds of the few
runs that touch the machine, and of a run that is put together from others if it
holds of these. If this is so of skips too, which are more than their parts one
after the other, then the property is *pervasive* (`Pervasive`): it holds of every
run of a program, whatever the program does (`Pervasive.evaluator`).

What the property is about are families of runs, which are put together in the
same way from families of their parts. So the runs that two evaluators make of
the same program can be compared, or those that evaluators make of it that depend
on something. A property of single runs is one of families with one member.

Nothing is known here of the values that are handled; where something has to be,
there are contracts.
-/

namespace Retrace

variable {ι : Type}

/-- A property that is kept when runs of parts of a program are put together, but for skips. -/
structure Compositional (host : Host) (P : ∀ {α : Type}, (ι → Run α) → Prop) : Prop where
  starved : ∀ {α : Type}, P fun _ => (Run.starved : Run α)
  pure : ∀ {α : Type} (a : α), P fun _ => (pure a : Run α)
  bind : ∀ {α β : Type} {x : ι → Run α} {f : ι → α → Run β}, P x → (∀ a, P fun i => f i a) →
    P fun i => x i >>= f i
  stop : ∀ {α : Type} (reason : Stop), P fun _ => (Run.stop reason : Run α)
  lookup : ∀ name, P fun _ => Run.lookup name
  readTarget : ∀ t, P fun _ => Run.readTarget t
  declare : ∀ name v, P fun _ => Run.declare name v
  store : ∀ t v, P fun _ => Run.store t v
  record : ∀ undo, P fun _ => do
    let scope ← Run.read (·.current)
    Run.record (.replay scope undo)
  setReversing : ∀ b, P fun _ => Run.setReversing b
  native : ∀ (code : NativeCode) argc, P fun _ => Run.native (code.run host) argc
  inBlock : ∀ {α : Type} {x : ι → Run α}, P x → P fun i => Run.inBlock (x i)
  inCall : ∀ {α : Type} {x : ι → Run α}, P x → P fun i => Run.inCall (x i)

/-- A property that is kept by whatever runs of programs are made of. -/
structure Pervasive (host : Host) (P : ∀ {α : Type}, (ι → Run α) → Prop) : Prop
    extends Compositional host P where
  setLocation : ∀ l, P fun _ => Run.setLocation l
  skip : ∀ {r : ι → Evaluator} {rounds : Nat}, (∀ i, (r i).rounds = rounds) →
    (∀ e, P fun i => (r i).eval e) → (∀ s, P fun i => (r i).exec s) → ∀ body seizes,
    P fun i => (r i).skip body seizes

namespace Compositional

variable {host : Host} {P : ∀ {α : Type}, (ι → Run α) → Prop} (hP : Compositional host P)
include hP

theorem fail {α : Type} (e : Failure) : P fun _ => (Run.fail e : Run α) :=
  hP.stop (.failure e)

theorem ofExcept {α : Type} (x : Except Failure α) : P fun _ => Run.ofExcept x := by
  cases x with
  | ok a => exact hP.pure a
  | error e => exact hP.fail e

theorem declareAll (binds : List (String × Value)) : P fun _ => Run.declareAll binds := by
  induction binds with
  | nil => exact hP.pure ()
  | cons b binds ih => exact hP.bind (hP.declare b.1 b.2) fun _ => ih

section Evaluator

variable {r : ι → Evaluator} {rounds : Nat} (hrounds : ∀ i, (r i).rounds = rounds)
  (heval : ∀ e, P fun i => (r i).eval e) (hexec : ∀ s, P fun i => (r i).exec s)

/-! ### Expressions -/

section

include heval

theorem evalAll (es : List Expr) : P fun i => (r i).evalAll es := by
  induction es with
  | nil => exact hP.pure []
  | cons e es ih => exact hP.bind (heval e) fun _ => hP.bind ih fun _ => hP.pure _

theorem evalEntries (es : List (Expr × Expr)) : P fun i => (r i).evalEntries es := by
  induction es with
  | nil => exact hP.pure []
  | cons e es ih =>
    exact hP.bind (heval e.1) fun _ => hP.bind (heval e.2) fun _ => hP.bind ih fun _ => hP.pure _

theorem condition (e : Expr) : P fun i => (r i).condition e :=
  hP.bind (heval e) fun _ => hP.ofExcept _

theorem target : ∀ e : Expr, P fun i => (r i).target e
  | .ident _ => hP.pure _
  | .group inner => target inner
  | .index container key => hP.bind (target container) fun _ => hP.bind (heval key) fun _ =>
      hP.pure _
  | .field object _ => hP.bind (target object) fun _ => hP.pure _
  | .literal _ _ | .unary _ _ | .binary _ _ _ | .call _ _ | .list _ | .map _ => hP.fail _

end

/-! ### Calls -/

theorem callNative (f : NativeFunction) (args : List Value) :
    P fun _ => Evaluator.callNative host f args := by
  rw [Evaluator.callNative]
  split
  · exact hP.fail _
  · exact hP.inCall (hP.bind (hP.declareAll _) fun _ => hP.native _ _)

theorem toValue (flow : Flow) : P fun _ => flow.toValue := by
  cases flow with
  | normal | returned => exact hP.pure _
  | jump => exact hP.fail _

include hexec

theorem execAll (b : Block) : P fun i => (r i).execAll b := by
  induction b with
  | nil => exact hP.pure _
  | cons s b ih =>
    refine hP.bind (hexec s) fun flow => ?_
    cases flow with
    | normal => exact ih
    | jump | returned => exact hP.pure _

theorem block (b : Block) : P fun i => (r i).block b :=
  hP.inBlock (hP.execAll hexec b)

theorem callFunction (f : Function) (args : List Value) : P fun i => (r i).callFunction f args := by
  by_cases hargs : args.length ≠ f.params.length
  · simp only [Evaluator.callFunction, if_pos hargs]
    exact hP.fail _
  · simp only [Evaluator.callFunction, if_neg hargs]
    exact hP.bind (hP.inCall (hP.bind (hP.declareAll _) fun _ => hP.execAll hexec _)) hP.toValue

theorem callValue (f : Value) (args : List Value) : P fun i => (r i).callValue host f args := by
  cases f with
  | function f => exact hP.callFunction hexec f args
  | native f => exact hP.callNative f args
  | _ => exact hP.fail _

include heval

/-- It holds of every kind of expression if it holds of its parts. -/
theorem expression (e : Expr) : P fun i => (r i).expression host e := by
  cases e with
  | literal kind lexeme => exact hP.ofExcept _
  | ident name => exact hP.lookup name
  | group inner => exact heval inner
  | unary op operand => exact hP.bind (heval operand) fun _ => hP.ofExcept _
  | binary op left right =>
    exact hP.bind (heval left) fun _ => hP.bind (heval right) fun _ => hP.ofExcept _
  | call callee args =>
    refine hP.bind (heval callee) fun f => ?_
    split
    · exact hP.bind (hP.evalAll heval args) fun vs => hP.callValue hexec f vs
    · exact hP.fail _
  | field object name => exact hP.bind (heval object) fun _ => hP.ofExcept _
  | index container key =>
    exact hP.bind (heval container) fun _ => hP.bind (heval key) fun _ => hP.ofExcept _
  | list items => exact hP.bind (hP.evalAll heval items) fun _ => hP.pure _
  | map entries => exact hP.bind (hP.evalEntries heval entries) fun _ => hP.pure _

omit hexec

/-! ### Assignments and declarations -/

theorem assign (target : Expr) (op : AssignOp) (value : Expr) :
    P fun i => (r i).assign target op value := by
  refine hP.bind (hP.target heval target) fun t => hP.bind (heval value) fun v => ?_
  split
  · exact hP.store t v
  · exact hP.bind (hP.readTarget t) fun _ => hP.bind (hP.ofExcept _) fun new => hP.store t new

theorem step (target : Expr) (op : StepOp) : P fun i => (r i).step target op :=
  hP.bind (hP.target heval target) fun t => hP.bind (hP.readTarget t) fun _ =>
    hP.bind (hP.ofExcept _) fun new => hP.store t new

theorem declareVariable (d : VarDecl) : P fun i => (r i).declareVariable d := by
  obtain ⟨name, init⟩ := d
  cases init with
  | none => exact hP.declare name .void
  | some e => exact hP.bind (heval e) fun v => hP.declare name v

theorem declaration (d : Decl) : P fun i => (r i).declaration d := by
  cases d with
  | function name params body => exact hP.declare name _
  | «variable» d => exact hP.declareVariable heval d
  | classLike => exact hP.pure ()

/-! ### Branches, switches and loops -/

theorem select (subject : Value) (kept : Option (List Case)) (cases : List Case) :
    P fun i => (r i).select subject kept cases := by
  induction cases generalizing kept with
  | nil => exact hP.pure _
  | cons c cases ih =>
    obtain ⟨trigger, body⟩ := c
    cases trigger with
    | none => exact ih _
    | some value =>
      refine hP.bind (heval value) fun v => ?_
      split
      · exact hP.pure _
      · exact ih kept

include hexec

theorem branch (otherwise : Option Block) (arms : List Arm) :
    P fun i => (r i).branch otherwise arms := by
  induction arms with
  | nil =>
    cases otherwise with
    | none => exact hP.pure _
    | some b => exact hP.block hexec b
  | cons a arms ih =>
    refine hP.bind (hP.condition heval a.trigger) fun holds => ?_
    cases holds with
    | true => exact hP.block hexec a.body
    | false => exact ih

omit heval in
theorem fallInto (cases : List Case) : P fun i => (r i).fallInto cases := by
  induction cases with
  | nil => exact hP.pure _
  | cons c cases ih =>
    refine hP.bind (hP.block hexec c.body) fun flow => ?_
    split
    · split
      · exact ih
      · exact hP.fail _
    · exact hP.pure _
    · exact hP.pure _

omit heval in
theorem increment (increment : Option Stmt) : P fun i => (r i).increment increment := by
  cases increment with
  | none => exact hP.pure ()
  | some s => exact hP.bind (hexec s) fun _ => hP.pure ()

theorem iterate (condition : Expr) (increment : Option Stmt) (body : Block) (n : Nat) :
    P fun i => (r i).iterate condition increment body n := by
  induction n with
  | zero => exact hP.starved
  | succ n ih =>
    refine hP.bind (hP.condition heval condition) fun holds => ?_
    cases holds with
    | false => exact hP.pure _
    | true =>
      refine hP.bind (hP.block hexec body) fun flow => ?_
      match flow with
      | .normal => exact hP.bind (hP.increment hexec increment) fun _ => ih
      | .jump .leave => exact hP.pure _
      | .jump .fallthrough => exact hP.fail _
      | .returned v => exact hP.pure _

include hrounds

theorem loop (init : Option VarDecl) (condition : Expr) (increment : Option Stmt) (body : Block) :
    P fun i => (r i).loop init condition increment body := by
  have hiterate : P fun i => (r i).iterate condition increment body (r i).rounds := by
    simp only [hrounds]
    exact hP.iterate heval hexec condition increment body rounds
  refine hP.inBlock ?_
  cases init with
  | none => exact hiterate
  | some d => exact hP.bind (hP.declareVariable heval d) fun _ => hiterate

/-! ### Statements -/

omit hrounds hexec in
theorem effect (e : Expr) (undo : Option Stmt) : P fun i => (r i).effect e undo := by
  refine hP.bind (heval e) fun _ => ?_
  cases undo with
  | none => exact hP.pure ()
  | some s => exact hP.record s

omit hrounds heval in
/-- It holds of a seize, which is a block once the reversal is over. -/
theorem seize (b : Block) : P fun i => (r i).seize b :=
  hP.bind (hP.setReversing false) fun _ => hP.block hexec b

omit hrounds in
theorem dispatch (payload : Value) (kept : Option Block) (seizes : List Seize) :
    P fun i => (r i).dispatch payload kept seizes := by
  induction seizes generalizing kept with
  | nil =>
    cases kept with
    | none => exact hP.stop _
    | some b => exact hP.seize hexec b
  | cons c seizes ih =>
    obtain ⟨pattern, b⟩ := c
    cases pattern with
    | none =>
      simp only [Evaluator.dispatch]
      exact ih _
    | some pattern =>
      simp only [Evaluator.dispatch]
      refine hP.bind (heval pattern) fun v => ?_
      split
      · exact hP.seize hexec b
      · exact ih kept

/-- It holds of what every kind of statement does if it holds of its parts, and of skips. -/
theorem action (hskip : ∀ body seizes, P fun i => (r i).skip body seizes) (a : Action) :
    P fun i => (r i).action a := by
  cases a with
  | block b => exact hP.block hexec b
  | expr e undo => exact hP.bind (hP.effect heval e undo) fun _ => hP.pure _
  | ret value =>
    cases value with
    | none => exact hP.pure _
    | some e => exact hP.bind (heval e) fun _ => hP.pure _
  | declare d => exact hP.bind (hP.declaration heval d) fun _ => hP.pure _
  | assign target op value => exact hP.bind (hP.assign heval target op value) fun _ => hP.pure _
  | step target op => exact hP.bind (hP.step heval target op) fun _ => hP.pure _
  | loop init condition increment body =>
    exact hP.loop hrounds heval hexec init condition increment body
  | branch arms otherwise => exact hP.branch heval hexec otherwise arms
  | jump j => exact hP.pure _
  | switch subject cases =>
    exact hP.bind (heval subject) fun v => hP.bind (hP.select heval v none cases) fun chosen =>
      hP.fallInto hexec chosen
  | skip body seizes => exact hskip body seizes
  | reverse payload =>
    exact hP.bind (heval payload) fun v => hP.bind (hP.setReversing true) fun _ => hP.stop _

end Evaluator

end Compositional

/-- It holds of every run of a program, whatever the fuel. -/
theorem Pervasive.evaluator {host : Host} {P : ∀ {α : Type}, (ι → Run α) → Prop}
    (hP : Pervasive host P) (fuel : Nat) :
    (∀ e, P fun _ => (evaluator host fuel).eval e) ∧
      ∀ s, P fun _ => (evaluator host fuel).exec s := by
  induction fuel with
  | zero => exact ⟨fun _ => hP.starved, fun _ => hP.starved⟩
  | succ fuel ih =>
    refine ⟨hP.expression ih.1 ih.2, fun s => hP.bind (hP.setLocation s.location) fun _ => ?_⟩
    exact hP.action (fun _ => rfl) ih.1 ih.2 (hP.skip (fun _ => rfl) ih.1 ih.2) s.action

end Retrace
