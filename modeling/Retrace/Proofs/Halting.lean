import Retrace.Proofs.Anchoring
import Retrace.Proofs.Plain

/-!
# Runs that halt

A program is *straight* (`Stmt.Straight`) if it has no loops and no undo
annotations. Its functions may still call each other in any way. But calls may be
nested only so deeply, and within the body of a function it is always a part of
the text that is run next. A rollback ends as well, since it replays no statement
and so only takes breadcrumbs away.

A family of runs, one for each fuel, *halts* (`Halts`) if with enough fuel all of
them end in the same way. How much is enough depends on the machine. Families are
put together like runs, and halt if their parts do; a call halts if what is called
does so where one call less is left. So that straight programs halt is proved by
induction on the number of calls that may be nested deeper, and for each number
by induction on the text (`Evaluator.halts`).
-/

namespace Retrace

/-- Whether it is no loop, and no expression with an undo annotation. -/
def Action.Straight : Action → Prop
  | .expr _ undo => undo = none
  | .loop _ _ _ _ => False
  | _ => True

/-- Whether there are no loops and no undo annotations in the statement and in all statements in
    it, also those in the functions it declares. -/
abbrev Stmt.Straight : Stmt → Prop :=
  All Action.parts Action.Straight

/-- All statements are straight, also those of the functions that values hold. -/
def Discipline.straight : Discipline :=
  .holding Stmt.Straight Stmt.All.parts

/-- Whether all functions that the value holds are straight. -/
abbrev Value.Straight : Value → Prop :=
  Discipline.straight.value

/-- The contract that all is straight, and no statement is recorded to be replayed. -/
def Contract.straight : Contract :=
  anchoring (F := fun _ => True) .straight False
    ⟨fun _ => trivial, fun _ => trivial, fun _ => trivial, fun _ => trivial, fun _ => trivial⟩

theorem Contract.lawful_straight {host : Host} (hhost : host.Keeps Value.Straight) :
    Contract.straight.Lawful host :=
  anchoring.lawful hhost (fun _ _ _ _ _ _ _ _ => trivial) fun h =>
    absurd h.action (by simp [Action.Straight])

/-! ### Runs that need no fuel -/

namespace Run

variable {α β : Type}

/-- The run ends, from whatever machine. -/
def Total (x : Run α) : Prop :=
  ∀ m, ∃ p, x m = some p

namespace Total

theorem bind {x : Run α} {f : α → Run β} (hx : x.Total) (hf : ∀ a, (f a).Total) :
    (x >>= f).Total := by
  intro m
  obtain ⟨⟨r, m'⟩, hr⟩ := hx m
  rw [bind_apply, hr]
  cases r with
  | ok a => exact hf a m'
  | error e => exact ⟨_, rfl⟩

theorem pure (a : α) : (pure a : Run α).Total :=
  fun _ => ⟨_, rfl⟩

theorem stop (reason : Stop) : (stop reason : Run α).Total :=
  fun _ => ⟨_, rfl⟩

theorem update (f : Machine → Machine) : (update f).Total :=
  fun _ => ⟨_, rfl⟩

theorem read (f : Machine → α) : (read f).Total :=
  fun _ => ⟨_, rfl⟩

theorem query (f : Machine → Except Failure α) : (query f).Total := by
  intro m
  rw [Run.query]
  cases f m <;> exact ⟨_, rfl⟩

theorem updateScopes (f : Scopes → Except Failure Scopes) : (updateScopes f).Total := by
  intro m
  obtain ⟨r, ss, h⟩ := exists_updateScopes f m
  exact ⟨_, h⟩

theorem record (c : Breadcrumb) : (record c).Total := by
  intro m
  rw [Run.record]
  split
  · exact ⟨_, rfl⟩
  · split <;> exact ⟨_, rfl⟩

theorem declare (name : String) (v : Value) : (declare name v).Total :=
  .bind (.read _) fun _ => .updateScopes _

theorem declareAll (binds : List (String × Value)) : (declareAll binds).Total := by
  induction binds with
  | nil => exact .pure ()
  | cons b binds ih => exact .bind (.declare b.1 b.2) fun _ => ih

theorem store (t : Target) (v : Value) : (store t v).Total :=
  .bind (.query _) fun _ => .bind (.record _) fun _ => .updateScopes _

theorem native (x : NativeM α) (argc : Nat) : (native x argc).Total := by
  intro m
  rw [Run.native]
  split <;> exact ⟨_, rfl⟩

end Total

end Run

/-! ### Families of runs -/

open Contract (straight)

/-- The runs keep what is straight so, and with enough fuel they end, all in the same way, where
    calls may be nested at most `k` deeper. -/
structure Halts {α : Type} (k : Nat) (V : α → Prop) (x : Nat → Run α) : Prop where
  meets : ∀ fuel, straight.Meets V (x fuel)
  ends : ∀ m, straight.pre m → m.settings.maxCallDepth ≤ m.callDepth + k →
    ∃ enough p, ∀ fuel, enough ≤ fuel → x fuel m = some p

namespace Halts

variable {α β : Type} {k : Nat} {V : α → Prop} {W : β → Prop}

theorem bind {x : Nat → Run α} {f : α → Nat → Run β} (hx : Halts k V x)
    (hf : ∀ a, V a → Halts k W (f a)) : Halts k W fun fuel => x fuel >>= fun a => f a fuel where
  meets fuel := .bind (hx.meets fuel) fun a ha => (hf a ha).meets fuel
  ends m hm hk := by
    obtain ⟨enough, ⟨r, m'⟩, hr⟩ := hx.ends m hm hk
    obtain ⟨hpost, hV⟩ := hx.meets enough m r m' hm (hr enough (Nat.le_refl _))
    cases r with
    | error e =>
      refine ⟨enough, (.error e, m'), fun fuel hfuel => ?_⟩
      rw [Run.bind_apply, hr fuel hfuel]
    | ok a =>
      -- The second part begins with as many calls left as the first one.
      have hk' : m'.settings.maxCallDepth ≤ m'.callDepth + k := by
        rw [hpost.1.1.settings, hpost.1.1.callDepth]
        exact hk
      obtain ⟨enough', p, hp⟩ := (hf a hV).ends m' (straight.next hm hpost) hk'
      refine ⟨max enough enough', p, fun fuel hfuel => ?_⟩
      rw [Run.bind_apply, hr fuel (Nat.le_trans (Nat.le_max_left _ _) hfuel)]
      exact hp fuel (Nat.le_trans (Nat.le_max_right _ _) hfuel)

/-- A run that needs no fuel. -/
theorem const {x : Run α} (h : straight.Meets V x) (ht : x.Total) : Halts k V fun _ => x where
  meets _ := h
  ends m _ _ :=
    have ⟨p, hp⟩ := ht m
    ⟨0, p, fun _ _ => hp⟩

theorem pure {a : α} (h : V a) : Halts k V fun _ => pure a :=
  const (.pure h) (.pure a)

theorem fail {e : Failure} (h : e.Ordinary) : Halts k V fun _ => Run.fail e :=
  const (.fail h) (.stop _)

theorem ofExcept {x : Except Failure α} (h : ∀ a, x = .ok a → V a)
    (hfail : ∀ e, x = .error e → e.Operational) : Halts k V fun _ => Run.ofExcept x :=
  const (.ofExcept h hfail) (.query fun _ => x)

theorem readTarget (t : Target) : Halts k Value.Straight fun _ => Run.readTarget t :=
  const (.readTarget t) (.query _)

theorem inBlock {x : Nat → Run α} (hx : Halts k V x) :
    Halts k V fun fuel => Run.inBlock (x fuel) where
  meets fuel := anchoring.meets_inBlock (hx.meets fuel)
  ends m hm hk := by
    obtain ⟨enough, p, hp⟩ :=
      hx.ends (m.enter m.current) (anchoring.pre_enter hm hm.2.live) hk
    refine ⟨enough, (p.1, p.2.leave m), fun fuel hfuel => ?_⟩
    have hblock : Run.inBlock (x fuel) m = Run.inNewScope m.current (x fuel) m := rfl
    rw [hblock, Run.inNewScope_apply, hp fuel hfuel]
    rfl

/-- What is run as a call has one call less to make. -/
theorem inCall {x : Nat → Run α} (hmeets : ∀ fuel, straight.Meets V (x fuel))
    (hx : ∀ j < k, Halts j V x) : Halts k V fun fuel => Run.inCall (x fuel) where
  meets fuel := anchoring.meets_inCall (hmeets fuel)
  ends m hm hk := by
    by_cases hdepth : m.settings.maxCallDepth ≤ m.callDepth
    · refine ⟨0, (.error (.failure (.callDepthExceeded m.settings.maxCallDepth)), m),
        fun fuel _ => ?_⟩
      rw [Run.inCall_apply, if_pos hdepth]
      rfl
    · obtain ⟨j, rfl⟩ : ∃ j, k = j + 1 := ⟨k - 1, by omega⟩
      have hk' : m.enterCall.settings.maxCallDepth ≤ m.enterCall.callDepth + j := by
        rw [Nat.add_comm j, ← Nat.add_assoc] at hk
        exact hk
      obtain ⟨enough, p, hp⟩ :=
        (hx j (Nat.lt_succ_self j)).ends m.enterCall (anchoring.pre_enterCall hm) hk'
      refine ⟨enough, (p.1, { p.2.leave m with callDepth := p.2.callDepth - 1 }),
        fun fuel hfuel => ?_⟩
      rw [Run.inCall_apply, if_neg hdepth, hp fuel hfuel]
      rfl

end Halts

namespace Evaluator

variable {host : Host} (hhost : host.Keeps Value.Straight) {k : Nat}

/-! ### Several parts one after the other -/

section Parts

theorem halts_execAll {b : Block}
    (h : ∀ s ∈ b, Halts k (Flow.Obey Value.Straight) fun fuel => (evaluator host fuel).exec s) :
    Halts k (Flow.Obey Value.Straight) fun fuel => (evaluator host fuel).execAll b := by
  induction b with
  | nil => exact .pure trivial
  | cons s b ih =>
    obtain ⟨hs, hb⟩ := List.forall_mem_cons.1 h
    refine .bind hs fun flow hflow => ?_
    cases flow with
    | normal => exact ih hb
    | jump | returned => exact .pure hflow

theorem halts_block {b : Block}
    (h : ∀ s ∈ b, Halts k (Flow.Obey Value.Straight) fun fuel => (evaluator host fuel).exec s) :
    Halts k (Flow.Obey Value.Straight) fun fuel => (evaluator host fuel).block b :=
  .inBlock (halts_execAll h)

end Parts

/-! ### Calls -/

/-- Whatever is called, that halts. -/
def CallsHalt (host : Host) (k : Nat) : Prop :=
  ∀ {f : Value} {args : List Value}, f.Straight → (∀ v ∈ args, v.Straight) →
    Halts k Value.Straight fun fuel => (evaluator host fuel).callValue host f args

section Calls

variable (hexec : ∀ j < k, ∀ s : Stmt, s.Straight →
  Halts j (Flow.Obey Value.Straight) fun fuel => (evaluator host fuel).exec s)
include hhost

theorem halts_callNative (f : NativeFunction) {args : List Value}
    (hargs : ∀ v ∈ args, v.Straight) :
    Halts k Value.Straight fun _ => callNative host f args := by
  refine .const ((Contract.lawful_straight hhost).callNative f hargs) fun m => ?_
  rw [callNative]
  split
  · exact ⟨_, rfl⟩
  · rw [Run.inCall_apply]
    split
    · exact ⟨_, rfl⟩
    · obtain ⟨p, hp⟩ := Run.Total.bind (.declareAll (f.bindArgs args))
        (fun _ => .native (f.code.run host) args.length) m.enterCall
      rw [hp]
      exact ⟨_, rfl⟩

include hexec

theorem halts_callFunction {f : Function} (hf : ∀ s ∈ f.body, s.Straight) {args : List Value}
    (hargs : ∀ v ∈ args, v.Straight) :
    Halts k Value.Straight fun fuel => (evaluator host fuel).callFunction f args := by
  by_cases hlength : args.length ≠ f.params.length
  · simp only [callFunction, if_pos hlength]
    exact .fail trivial
  · simp only [callFunction, if_neg hlength]
    have hlawful := Contract.lawful_straight hhost
    have hbinds : straight.Meets (fun _ => True) (Run.declareAll (f.params.zip args)) :=
      hlawful.declareAll fun b hb => hargs _ (List.of_mem_zip hb).2
    refine .bind (V := Flow.Obey Value.Straight) (.inCall (fun fuel => ?_) fun j hj => ?_)
      fun flow hflow => ?_
    · exact .bind hbinds fun _ _ => (hlawful.evaluator fuel).execAll hf
    · exact .bind (.const hbinds (.declareAll _)) fun _ _ =>
        halts_execAll fun s hs => hexec j hj s (hf s hs)
    · cases flow with
      | normal => exact .pure (Discipline.straight.atom rfl)
      | jump j => exact .fail trivial
      | returned v => exact .pure hflow

theorem callsHalt : CallsHalt host k := by
  intro f args hf hargs
  cases f with
  | function f => exact halts_callFunction hhost hexec (Discipline.straight.function.1 hf) hargs
  | native f => exact halts_callNative hhost f hargs
  | _ => exact .fail trivial

end Calls

/-! ### Expressions -/

/-- With one unit of fuel more an expression is evaluated by the meaning of its kind. -/
theorem halts_of_expression (hhost : host.Keeps Value.Straight) {e : Expr}
    (h : Halts k Value.Straight fun fuel => (evaluator host fuel).expression host e) :
    Halts k Value.Straight fun fuel => (evaluator host fuel).eval e where
  meets fuel := ((Contract.lawful_straight hhost).evaluator fuel).eval e
  ends m hm hk := by
    obtain ⟨enough, p, hp⟩ := h.ends m hm hk
    refine ⟨enough + 1, p, fun fuel hfuel => ?_⟩
    obtain ⟨fuel, rfl⟩ : ∃ n, fuel = n + 1 := ⟨fuel - 1, by omega⟩
    rw [eval_evaluator_succ]
    exact hp fuel (Nat.le_of_succ_le_succ hfuel)

mutual

/-- Where calls halt every expression does. -/
theorem halts_eval (hhost : host.Keeps Value.Straight) (hcall : CallsHalt host k) : ∀ e : Expr,
    Halts k Value.Straight fun fuel => (evaluator host fuel).eval e
  | .literal kind lexeme => halts_of_expression hhost <|
    .ofExcept (fun _ hv => Discipline.straight.atom (Value.isAtom_of_ofLiteral hv)) fun _ =>
      Value.operational_of_ofLiteral
  | .ident name => halts_of_expression hhost <| .const (.lookup name) (.query _)
  | .group inner => halts_of_expression hhost (halts_eval hhost hcall inner)
  | .unary op operand => halts_of_expression hhost <|
    .bind (halts_eval hhost hcall operand) fun _ _ =>
      .ofExcept (fun _ hv => Discipline.straight.atom (Value.isAtom_of_unary hv)) fun _ =>
        Value.operational_of_unary
  | .binary op left right => halts_of_expression hhost <|
    .bind (halts_eval hhost hcall left) fun _ _ => .bind (halts_eval hhost hcall right) fun _ _ =>
      .ofExcept (fun _ hv => Discipline.straight.atom (Value.isAtom_of_binary hv)) fun _ =>
        Value.operational_of_binary
  | .call callee args => halts_of_expression hhost <|
    .bind (halts_eval hhost hcall callee) fun f hf => by
      by_cases hcallable : f.isCallable
      · simp only [if_pos hcallable]
        exact .bind (halts_evalAll hhost hcall args) fun _ hvs => hcall hf hvs
      · simp only [if_neg hcallable]
        exact .fail trivial
  | .field object name => halts_of_expression hhost <|
    .bind (halts_eval hhost hcall object) fun _ hv =>
      .ofExcept (fun _ hw => Discipline.straight.closed.field hv hw) fun _ =>
        Value.operational_of_field
  | .index container key => halts_of_expression hhost <|
    .bind (halts_eval hhost hcall container) fun _ hv => .bind (halts_eval hhost hcall key)
      fun _ _ => .ofExcept (fun _ hw => Discipline.straight.closed.index hv hw) fun _ =>
        Value.operational_of_index
  | .list items => halts_of_expression hhost <|
    .bind (halts_evalAll hhost hcall items) fun _ hvs =>
      .pure (Discipline.straight.closed.ofItems hvs)
  | .map entries => halts_of_expression hhost <|
    .bind (halts_evalEntries hhost hcall entries) fun _ hes =>
      .pure (Discipline.straight.closed.ofList hes)

theorem halts_evalAll (hhost : host.Keeps Value.Straight) (hcall : CallsHalt host k) :
    ∀ es : List Expr,
      Halts k (fun vs => ∀ v ∈ vs, v.Straight) fun fuel => (evaluator host fuel).evalAll es
  | [] => .pure fun _ h => absurd h List.not_mem_nil
  | e :: es => .bind (halts_eval hhost hcall e) fun _ hv =>
      .bind (halts_evalAll hhost hcall es) fun _ hvs => .pure (List.forall_mem_cons.2 ⟨hv, hvs⟩)

theorem halts_evalEntries (hhost : host.Keeps Value.Straight) (hcall : CallsHalt host k) :
    ∀ es : List (Expr × Expr),
      Halts k (fun fs => ∀ f ∈ fs, f.1.Straight ∧ f.2.Straight) fun fuel =>
        (evaluator host fuel).evalEntries es
  | [] => .pure fun _ h => absurd h List.not_mem_nil
  | (key, value) :: es => .bind (halts_eval hhost hcall key) fun _ hk =>
      .bind (halts_eval hhost hcall value) fun _ hv =>
        .bind (halts_evalEntries hhost hcall es) fun _ hfs =>
          .pure (List.forall_mem_cons.2 ⟨⟨hk, hv⟩, hfs⟩)

end

/-! ### Statements -/

section Statements

variable (heval : ∀ e : Expr, Halts k Value.Straight fun fuel => (evaluator host fuel).eval e)

section

include heval

theorem halts_target (e : Expr) :
    Halts k (fun t => ∀ key ∈ t.path, key.Straight) fun fuel => (evaluator host fuel).target e := by
  induction e using Evaluator.target.induct with
  | case1 name => exact .pure fun _ h => absurd h List.not_mem_nil
  | case2 inner ih => exact ih
  | case3 container key ih =>
    exact .bind ih fun t ht => .bind (heval key) fun v hv =>
      .pure (List.forall_mem_append.2 ⟨ht, List.forall_mem_singleton.2 hv⟩)
  | case4 object name ih =>
    exact .bind ih fun t ht => .pure (List.forall_mem_append.2
      ⟨ht, List.forall_mem_singleton.2 (Discipline.straight.atom rfl)⟩)
  | case5 e hident hgroup hindex hfield =>
    have htarget : ∀ r : Evaluator, r.target e = .fail (.typeMismatch .target (.expr e.form)) :=
      fun r => by simp only [Evaluator.target]
    simp only [htarget]
    exact .fail trivial

theorem halts_condition (e : Expr) :
    Halts k (fun _ => True) fun fuel => (evaluator host fuel).condition e :=
  .bind (heval e) fun _ _ => .ofExcept (fun _ _ => trivial) fun _ =>
    Value.operational_of_expectBool

theorem halts_branch {arms : List Arm} {otherwise : Option Block}
    (harms : ∀ a ∈ arms, ∀ s ∈ a.body,
      Halts k (Flow.Obey Value.Straight) fun fuel => (evaluator host fuel).exec s)
    (hotherwise : ∀ s ∈ otherwise.getD [],
      Halts k (Flow.Obey Value.Straight) fun fuel => (evaluator host fuel).exec s) :
    Halts k (Flow.Obey Value.Straight) fun fuel => (evaluator host fuel).branch otherwise arms := by
  induction arms with
  | nil =>
    cases otherwise with
    | none => exact .pure trivial
    | some b => exact halts_block hotherwise
  | cons a arms ih =>
    obtain ⟨ha, harms⟩ := List.forall_mem_cons.1 harms
    refine .bind (halts_condition heval a.trigger) fun holds _ => ?_
    cases holds with
    | true => exact halts_block ha
    | false => exact ih harms

theorem halts_select {P : Case → Prop} (subject : Value) {cases : List Case}
    {kept : Option (List Case)} (hcases : ∀ c ∈ cases, P c) (hkept : ∀ c ∈ kept.getD [], P c) :
    Halts k (fun chosen => ∀ c ∈ chosen, P c) fun fuel =>
      (evaluator host fuel).select subject kept cases := by
  induction cases generalizing kept with
  | nil => exact .pure hkept
  | cons c cases ih =>
    obtain ⟨trigger, body⟩ := c
    have htail := (List.forall_mem_cons.1 hcases).2
    cases trigger with
    | none =>
      refine ih htail ?_
      cases kept with
      | none => exact hcases
      | some kept => exact hkept
    | some value =>
      refine .bind (heval value) fun v _ => ?_
      by_cases hequals : subject.equals v
      · simp only [if_pos hequals]
        exact .pure hcases
      · simp only [if_neg hequals]
        exact ih htail hkept

end

theorem halts_fallInto {cases : List Case} (hcases : ∀ c ∈ cases, ∀ s ∈ c.body,
      Halts k (Flow.Obey Value.Straight) fun fuel => (evaluator host fuel).exec s) :
    Halts k (Flow.Obey Value.Straight) fun fuel => (evaluator host fuel).fallInto cases := by
  induction cases with
  | nil => exact .pure trivial
  | cons c cases ih =>
    obtain ⟨hc, hcases⟩ := List.forall_mem_cons.1 hcases
    refine .bind (halts_block hc) fun flow hflow => ?_
    match flow with
    | .normal | .jump .leave => exact .pure trivial
    | .returned v => exact .pure hflow
    | .jump .fallthrough =>
      by_cases hends : endsWithFallthrough c.body
      · simp only [if_pos hends]
        exact ih hcases
      · simp only [if_neg hends]
        exact .fail trivial

section

include hhost

theorem halts_store {t : Target} (ht : ∀ key ∈ t.path, key.Straight) {v : Value}
    (hv : v.Straight) : Halts k (fun _ => True) fun _ => Run.store t v :=
  .const ((Contract.lawful_straight hhost).store t ht hv) (.store t v)

theorem halts_declare (name : String) {v : Value} (hv : v.Straight) :
    Halts k (fun _ => True) fun _ => Run.declare name v :=
  .const ((Contract.lawful_straight hhost).declare name hv) (.declare name v)

include heval

theorem halts_assign (target : Expr) (op : AssignOp) (value : Expr) :
    Halts k (fun _ => True) fun fuel => (evaluator host fuel).assign target op value := by
  refine .bind (halts_target heval target) fun t ht => .bind (heval value) fun v hv => ?_
  cases op.binary? with
  | none => exact halts_store hhost ht hv
  | some op =>
    refine .bind (.readTarget t) fun old _ => .bind (V := Value.Straight) (.ofExcept
      (fun new hnew => ?_) fun _ => Value.operational_of_binary) fun new hnew =>
        halts_store hhost ht hnew
    exact Discipline.straight.atom (Value.isAtom_of_binary hnew)

theorem halts_step (target : Expr) (op : StepOp) :
    Halts k (fun _ => True) fun fuel => (evaluator host fuel).step target op := by
  refine .bind (halts_target heval target) fun t ht => .bind (.readTarget t) fun old _ =>
    .bind (V := Value.Straight) (.ofExcept (fun new hnew => ?_) fun _ =>
      Value.operational_of_step) fun new hnew => halts_store hhost ht hnew
  exact Discipline.straight.atom (Value.isAtom_of_step hnew)

theorem halts_declareVariable (d : VarDecl) :
    Halts k (fun _ => True) fun fuel => (evaluator host fuel).declareVariable d := by
  obtain ⟨name, init⟩ := d
  cases init with
  | some e => exact .bind (heval e) fun v hv => halts_declare hhost name hv
  | none => exact halts_declare hhost name (Discipline.straight.atom rfl)

theorem halts_declaration {d : Decl} {l : Location} (hd : Stmt.Straight ⟨.declare d, l⟩) :
    Halts k (fun _ => True) fun fuel => (evaluator host fuel).declaration d := by
  cases d with
  | function name params body =>
    exact halts_declare hhost name (v := .function ⟨name, params, body⟩)
      (Discipline.straight.function.2 hd.parts)
  | «variable» d => exact halts_declareVariable hhost heval d
  | classLike name members => exact .pure trivial

end

/-! ### Skips -/

section

include heval

theorem halts_dispatch {payload : Value} (hpayload : payload.Straight) {kept : Option Block}
    {seizes : List Seize}
    (hkept : ∀ s ∈ kept.getD [],
      Halts k (Flow.Obey Value.Straight) fun fuel => (evaluator host fuel).exec s)
    (hseizes : ∀ c ∈ seizes, ∀ s ∈ c.body,
      Halts k (Flow.Obey Value.Straight) fun fuel => (evaluator host fuel).exec s) :
    Halts k (Flow.Obey Value.Straight) fun fuel =>
      (evaluator host fuel).dispatch payload kept seizes := by
  have hseize : ∀ {b : Block}, (∀ s ∈ b,
      Halts k (Flow.Obey Value.Straight) fun fuel => (evaluator host fuel).exec s) →
      Halts k (Flow.Obey Value.Straight) fun fuel => (evaluator host fuel).seize b :=
    fun hb => .bind (.const anchoring.meets_resume (.update _)) fun _ _ => halts_block hb
  induction seizes generalizing kept with
  | nil =>
    cases kept with
    | none =>
      refine .const (fun m r m' hm hr => ?_) (.stop (.reversal payload))
      obtain ⟨rfl, rfl⟩ := Run.stop_eq_some hr
      exact ⟨⟨⟨.refl hm.1.2, fun h => absurd h (by simp [Ending.of])⟩, fun _ => .refl _⟩, hpayload⟩
    | some b => exact hseize hkept
  | cons c seizes ih =>
    obtain ⟨pattern, b⟩ := c
    obtain ⟨hc, hrest⟩ := List.forall_mem_cons.1 hseizes
    cases pattern with
    | none =>
      simp only [dispatch]
      refine ih ?_ hrest
      cases kept with
      | none => exact hc
      | some kept => exact hkept
    | some pattern =>
      simp only [dispatch]
      refine .bind (heval pattern) fun v _ => ?_
      by_cases hequals : v.equals payload
      · simp only [if_pos hequals]
        exact hseize hc
      · simp only [if_neg hequals]
        exact ih hkept hrest

omit heval in
/-- A rollback ends, whatever the fuel, if that is enough for the breadcrumbs there are. -/
theorem exists_rollBack (host : Host) {m m₂ : Machine} {marker : Marker} {l : Ledger} {e : Ending}
    (hl : m.ledger.openSkip m.scopes.nextSerial = .ok (marker, l))
    (hpost : straight.post { m with ledger := l } e m₂) (he : e ≠ .failure) :
    ∃ p, ∀ fuel, m₂.ledger.crumbs.length < fuel →
      (evaluator host fuel).rollBack marker m.current m₂ = some p := by
  obtain ⟨added, hc, hadded⟩ := (hpost.2 he).crumbs
  have hcrumbs : m₂.ledger.crumbs = added ++ .marker marker :: m.ledger.crumbs :=
    hc.trans (by rw [(Ledger.openSkip_eq_ok hl).2.1])
  have hnone : ∀ c ∈ added, ∀ scope undo, c ≠ .replay scope undo := fun c hmem scope undo h =>
    (h ▸ hadded c hmem : Breadcrumb.Anchored False _ _ (.replay scope undo)).1
  obtain ⟨p, hp⟩ := exists_restoreAbove m.current hcrumbs hnone
  refine ⟨p, fun fuel hfuel => hp _ _ ?_⟩
  rw [rounds_evaluator]
  rw [hcrumbs, List.length_append] at hfuel
  omega

include hhost

omit heval in
/-- After a rollback it goes on where the skip was entered. -/
theorem pre_rolledBack {m m₂ m₃ : Machine} {marker : Marker} {l : Ledger} {e : Ending} {fuel : Nat}
    (hl : m.ledger.openSkip m.scopes.nextSerial = .ok (marker, l)) (hm : straight.pre m)
    (hpost : straight.post { m with ledger := l } e m₂)
    (hroll : (evaluator host fuel).rollBack marker m.current m₂ = some (.ok (), m₃)) :
    straight.pre (m₃.closeSkip marker) ∧ Bracketed .straight m (m₃.closeSkip marker) := by
  have hrb := (bracketing.lawful hhost).evaluator fuel
  have hb := (bracketing.restoreAbove hrb (bracketing.pre_open hl hm.1)
    ⟨_, (Ledger.openSkip_eq_ok hl).2.1⟩ hpost.1.1 hroll).1
  have hclosed := bracketing.closeSkip hl hm.1 hb
  exact ⟨⟨⟨hclosed.ledger.tidy hm.1.1, hclosed.bound⟩, hm.2.of_bracketed hclosed⟩, hclosed⟩

/-- A skip that a reversal leaves ends, as the rollback has only so much to take back. -/
theorem skip_ends_of_reversal {body : Block} {seizes : List Seize} {m m₂ : Machine}
    {marker : Marker} {l : Ledger} {payload : Value} {enough : Nat}
    (hl : m.ledger.openSkip m.scopes.nextSerial = .ok (marker, l)) (hm : straight.pre m)
    (hk : m.settings.maxCallDepth ≤ m.callDepth + k)
    (hbody : ∀ fuel, enough ≤ fuel → (evaluator host fuel).block body { m with ledger := l } =
      some (.error (.reversal payload), m₂))
    (hpost : straight.post { m with ledger := l } .reversal m₂) (hpayload : payload.Straight)
    (hseizes : ∀ c ∈ seizes, ∀ s ∈ c.body,
      Halts k (Flow.Obey Value.Straight) fun fuel => (evaluator host fuel).exec s) :
    ∃ enough p, ∀ fuel, enough ≤ fuel → (evaluator host fuel).skip body seizes m = some p := by
  obtain ⟨⟨x, m₃⟩, hroll⟩ := exists_rollBack host hl hpost (by simp)
  cases x with
  | error reason =>
    refine ⟨max enough (m₂.ledger.crumbs.length + 1), (.error reason, m₃.discardSkip marker),
      fun fuel hfuel => ?_⟩
    rw [skip_of_openSkip _ body seizes hl, hbody fuel (by omega)]
    dsimp only
    rw [hroll fuel (by omega)]
  | ok u =>
    -- A clause is chosen with as many calls left as the skip began with.
    obtain ⟨hpre, hb⟩ := pre_rolledBack hhost hl hm hpost (hroll _ (Nat.lt_succ_self _))
    have hk' : (m₃.closeSkip marker).settings.maxCallDepth ≤
        (m₃.closeSkip marker).callDepth + k := by
      rw [hb.settings, hb.callDepth]
      exact hk
    have hkept : ∀ s ∈ (none : Option Block).getD [],
        Halts k (Flow.Obey Value.Straight) fun fuel => (evaluator host fuel).exec s :=
      List.forall_mem_nil _
    obtain ⟨enough', p, hp⟩ := (halts_dispatch heval hpayload hkept hseizes).ends _ hpre hk'
    refine ⟨max enough (max enough' (m₂.ledger.crumbs.length + 1)), p, fun fuel hfuel => ?_⟩
    rw [skip_of_openSkip _ body seizes hl, hbody fuel (by omega)]
    dsimp only
    rw [hroll fuel (by omega)]
    exact hp fuel (by omega)

theorem halts_skip {body : Block} {seizes : List Seize} {l₀ : Location}
    (hs : Stmt.Straight ⟨.skip body seizes, l₀⟩)
    (hbody : ∀ s ∈ body,
      Halts k (Flow.Obey Value.Straight) fun fuel => (evaluator host fuel).exec s)
    (hseizes : ∀ c ∈ seizes, ∀ s ∈ c.body,
      Halts k (Flow.Obey Value.Straight) fun fuel => (evaluator host fuel).exec s) :
    Halts k (Flow.Obey Value.Straight) fun fuel => (evaluator host fuel).skip body seizes where
  meets fuel :=
    have hlawful := Contract.lawful_straight hhost
    hlawful.skip fuel (hlawful.evaluator fuel) hs
  ends m hm hk := by
    cases hl : m.ledger.openSkip m.scopes.nextSerial with
    | error e => exact ⟨0, _, fun _ _ => skip_of_full _ body seizes hl⟩
    | ok opened =>
      obtain ⟨marker, l⟩ := opened
      have hblock := halts_block hbody
      have hopened := anchoring.pre_open hl hm
      obtain ⟨enough, ⟨y, m₂⟩, hy⟩ := hblock.ends { m with ledger := l } hopened hk
      -- Whatever the fuel, the skip is resolved as the body asks for.
      have hskip := fun fuel (hfuel : enough ≤ fuel) => by
        have h := (evaluator host fuel).skip_of_openSkip body seizes hl
        rwa [hy fuel hfuel] at h
      cases y with
      | ok flow =>
        cases flow with
        | returned v => exact ⟨enough, _, hskip⟩
        | normal => exact ⟨enough, _, hskip⟩
        | jump j => exact ⟨enough, _, hskip⟩
      | error reason =>
        cases reason with
        | failure e => exact ⟨enough, _, hskip⟩
        | reversal payload =>
          obtain ⟨hpost, hpayload⟩ :=
            hblock.meets enough _ _ _ hopened (hy enough (Nat.le_refl _))
          exact skip_ends_of_reversal hhost heval hl hm hk hy hpost hpayload hseizes

/-! ### Statements -/

theorem halts_action {s : Stmt} (hs : s.Straight)
    (hparts : ∀ t ∈ s.action.parts,
      Halts k (Flow.Obey Value.Straight) fun fuel => (evaluator host fuel).exec t) :
    Halts k (Flow.Obey Value.Straight) fun fuel => (evaluator host fuel).action s.action := by
  obtain ⟨action, l⟩ := s
  have haction := hs.action
  cases action with
  | block b => exact halts_block hparts
  | expr e undo =>
    obtain rfl : undo = none := haction
    exact .bind (V := fun _ => True) (.bind (heval e) fun _ _ => .pure trivial) fun _ _ =>
      .pure trivial
  | ret value =>
    cases value with
    | none => exact .pure (Discipline.straight.atom rfl)
    | some e => exact .bind (heval e) fun v hv => .pure hv
  | declare d => exact .bind (halts_declaration hhost heval hs) fun _ _ => .pure trivial
  | assign target op value =>
    exact .bind (halts_assign hhost heval target op value) fun _ _ => .pure trivial
  | step target op => exact .bind (halts_step hhost heval target op) fun _ _ => .pure trivial
  | loop init condition increment body => exact absurd haction id
  | branch arms otherwise =>
    obtain ⟨harms, hotherwise⟩ := List.forall_mem_append.1 hparts
    exact halts_branch heval (fun a ha s hs => harms s (List.mem_flatMap.2 ⟨a, ha, hs⟩)) hotherwise
  | jump j => exact .pure trivial
  | switch subject cases =>
    have hcases : ∀ c ∈ cases, ∀ s ∈ c.body, Halts k (Flow.Obey Value.Straight) fun fuel =>
        (evaluator host fuel).exec s := fun c hc s hs =>
      hparts s (List.mem_flatMap.2 ⟨c, hc, hs⟩)
    exact .bind (heval subject) fun v _ =>
      .bind (halts_select heval v hcases (List.forall_mem_nil _)) fun _ => halts_fallInto
  | skip body seizes =>
    obtain ⟨hbody, hseizes⟩ := List.forall_mem_append.1 hparts
    exact halts_skip hhost heval hs hbody fun c hc s hs =>
      hseizes s (List.mem_flatMap.2 ⟨c, hc, hs⟩)
  | reverse payload =>
    refine .bind (heval payload) fun v hv => .const (fun m r m' hm h => ?_) fun m => ⟨_, rfl⟩
    obtain ⟨rfl, rfl⟩ := Prod.mk.inj (Option.some.inj h)
    exact ⟨(Contract.lawful_straight hhost).reverse hm, hv⟩

omit heval in
/-- With one unit of fuel more a statement is run by what it does. -/
theorem halts_of_action {s : Stmt} (hs : s.Straight)
    (h : Halts k (Flow.Obey Value.Straight) fun fuel => (evaluator host fuel).action s.action) :
    Halts k (Flow.Obey Value.Straight) fun fuel => (evaluator host fuel).exec s where
  meets fuel := ((Contract.lawful_straight hhost).evaluator fuel).exec s hs
  ends m hm hk := by
    have hlocate := (Contract.lawful_straight hhost).locate s.location
    obtain ⟨enough, p, hp⟩ := (Halts.bind (.const hlocate (.update _)) fun _ _ => h).ends m hm hk
    refine ⟨enough + 1, p, fun fuel hfuel => ?_⟩
    obtain ⟨fuel, rfl⟩ : ∃ n, fuel = n + 1 := ⟨fuel - 1, by omega⟩
    rw [exec_evaluator_succ]
    exact hp fuel (Nat.le_of_succ_le_succ hfuel)

/-- Where every expression halts, every straight statement does. -/
theorem halts_exec {s : Stmt} (hs : s.Straight) :
    Halts k (Flow.Obey Value.Straight) fun fuel => (evaluator host fuel).exec s := by
  induction hs with
  | mk haction hparts ih =>
    exact halts_of_action hhost (.mk haction hparts)
      (halts_action hhost heval (.mk haction hparts) ih)

end

end Statements

/-! ### Programs -/

include hhost

/-- Straight statements halt, however many calls may be nested. -/
theorem halts_stmt (k : Nat) : ∀ s : Stmt, s.Straight →
    Halts k (Flow.Obey Value.Straight) fun fuel => (evaluator host fuel).exec s := by
  -- What a function runs may call less deeply than what calls the function.
  induction k using Nat.strongRecOn with
  | _ k ih =>
    intro s hs
    exact halts_exec hhost (halts_eval hhost (callsHalt hhost ih)) hs

/-- Whatever function is called, that halts. -/
theorem halts_call (k : Nat) : CallsHalt host k :=
  callsHalt hhost fun j _ => halts_stmt hhost j

theorem halts_expr (k : Nat) (e : Expr) :
    Halts k Value.Straight fun fuel => (evaluator host fuel).eval e :=
  halts_eval hhost (halts_call hhost k) e

end Evaluator

end Retrace
