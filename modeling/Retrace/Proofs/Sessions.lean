import Retrace.Proofs.Bracketing
import Retrace.Session

/-!
# Sessions

A host makes one request after the other (`Machine.Serves`), and the machines in
between are those of a *session* (`Session`).

In between the machine is *settled* (`Machine.Settled`): nothing is left of the
runs there were but what they bound in the global scope. After a run that
stopped this is the work of the reset. A run that went to its end settles by
itself, as it brackets what it does to the machine and is calm.

What else holds in between is shown by a property that *endures*
(`Machine.Enduring`): it is kept by every run that is carried out for the host.
-/

namespace Retrace

namespace Machine

/-- One request of the host. The arguments of a call satisfy `P`. -/
inductive Serves (host : Host) (P : Value → Prop) (m : Machine) : Machine → Prop
  | declare {fuel : Nat} {d : Decl} {answer : Except Failure Unit} {m' : Machine} :
      m.declare host fuel d = some (answer, m') → Serves host P m m'
  | load {fuel : Nat} {ds : List Decl} {answer : Except Failure Unit} {m' : Machine} :
      m.load host fuel ds = some (answer, m') → Serves host P m m'
  | runMain {fuel : Nat} {answer : Except Failure Value} {m' : Machine} :
      m.runMain host fuel = some (answer, m') → Serves host P m m'
  | call {fuel : Nat} {name : String} {args : List Value} {answer : Except Failure Value}
      {m' : Machine} : (∀ v ∈ args, P v) →
      m.call host fuel name args = some (answer, m') → Serves host P m m'
  | registerNative (name : String) (params : List String) (key : String) :
      Serves host P m (m.registerNative name params key)
  | registerVariadic (name : String) (key : String) :
      Serves host P m (m.registerVariadic name key)

section

variable {α : Type} {host : Host} {fuel : Nat} {m m' : Machine}

/-- A run that is carried out for the host goes to its end, or stops and is followed by a reset. -/
theorem settle_eq_some {x : Run α} {answer : Except Failure α}
    (h : m.settle x = some (answer, m')) :
    (∃ a, x m = some (.ok a, m') ∧ answer = .ok a) ∨
      ∃ reason m₁, x m = some (.error reason, m₁) ∧ answer = .error reason.toFailure ∧
        m' = m₁.reset := by
  rw [settle] at h
  split at h
  · obtain ⟨rfl, rfl⟩ := Prod.mk.inj (Option.some.inj h)
    exact .inl ⟨_, ‹_›, rfl⟩
  · obtain ⟨rfl, rfl⟩ := Prod.mk.inj (Option.some.inj h)
    exact .inr ⟨_, _, ‹_›, rfl, rfl⟩
  · exact absurd h (by simp)

theorem load_nil_eq_some {answer : Except Failure Unit}
    (h : m.load host fuel [] = some (answer, m')) : answer = .ok () ∧ m' = m := by
  obtain ⟨rfl, rfl⟩ := Prod.mk.inj (Option.some.inj h)
  exact ⟨rfl, rfl⟩

theorem load_cons_eq_some {d : Decl} {ds : List Decl} {answer : Except Failure Unit}
    (h : m.load host fuel (d :: ds) = some (answer, m')) :
    (∃ m₁, m.declare host fuel d = some (.ok (), m₁) ∧ m₁.load host fuel ds = some (answer, m')) ∨
      m.declare host fuel d = some (answer, m') := by
  rw [load] at h
  split at h
  · exact .inl ⟨_, ‹_›, h⟩
  · exact .inr h

end

/-- Nothing is left of a run but what it bound in the global scope. -/
structure Settled (m : Machine) : Prop where
  /-- Only the global scope is live. -/
  scopes : m.scopes.skeleton = [(0, none)]
  current : m.current = Scopes.global
  crumbs : m.ledger.crumbs = []
  openSkips : m.ledger.openSkips = 0
  reversing : m.reversing = false
  callDepth : m.callDepth = 0

end Machine

/-- The machines there are between the requests of a host that calls functions with
    arguments that satisfy `P`. -/
inductive Session (host : Host) (P : Value → Prop) : Machine → Prop
  | start (settings : Settings) (files : Files) : Session host P (.initial settings files)
  | serve {m m' : Machine} : Session host P m → m.Serves host P m' → Session host P m'

/-- A settled machine in which all that is bound obeys a discipline. -/
structure Machine.Resting (D : Discipline) (m : Machine) : Prop extends m.Settled where
  bound : m.scopes.Obey D.value

theorem Machine.obey_mainFunction {P : Value → Prop} {m : Machine} (h : m.scopes.Obey P) {f : Value}
    (hf : m.mainFunction = .ok f) : P f := by
  rw [Machine.mainFunction] at hf
  cases hl : m.scopes.getLocal Scopes.global "main" with
  | error e => simp [hl, bind, Except.bind] at hf
  | ok o =>
    cases o with
    | none => simp [hl, bind, Except.bind] at hf
    | some w =>
      simp only [hl, bind, Except.bind, Except.ok.injEq] at hf
      exact hf ▸ h _ _ _ (Scopes.getLocal_eq_ok hl).2

/-- In the beginning there are but the builtins. -/
theorem Machine.obey_initial {P : Value → Prop} (hP : ∀ f, P (.native f)) (settings : Settings)
    (files : Files) : (initial settings files).scopes.Obey P := by
  -- The builtins are bound one after the other, in whatever scopes there are.
  have hbuiltins : ∀ (bs : List Builtin) {ss : Scopes}, ss.Obey P →
      (bs.foldl (fun ss b => ss.defineGlobal b.name (.native b.function)) ss).Obey P := by
    intro bs
    induction bs with
    | nil => exact fun h => h
    | cons b bs ih => exact fun h => ih (h.defineGlobal (hP _))
  refine hbuiltins Builtin.all fun id name v hv => ?_
  obtain ⟨s, hs, hv⟩ := Option.bind_eq_some_iff.1 hv
  obtain ⟨hs, -⟩ := Scopes.scope?_eq_some_iff.1 hs
  have hmem := Array.mem_of_getElem? hs
  rw [Scopes.initial, List.mem_toArray, List.mem_singleton] at hmem
  rw [hmem] at hv
  exact absurd hv (by simp)

namespace Machine.Resting

variable {D : Discipline} {host : Host} {P : Value → Prop} {m m' : Machine}

theorem pre (h : m.Resting D) : (bracketing D).pre m :=
  ⟨fun _ => h.crumbs, h.bound⟩

theorem initial (settings : Settings) (files : Files) : (initial settings files).Resting D :=
  ⟨⟨rfl, rfl, rfl, rfl, rfl, rfl⟩, Machine.obey_initial D.native settings files⟩

/-- A run that goes to its end leaves the machine settled. -/
theorem of_value (h : m.Resting D) (hb : Bracketed D m m') (hcalm : Calm m m') :
    m'.Resting D where
  scopes := hb.skeleton.trans h.scopes
  current := hb.current.trans h.current
  crumbs := by
    -- Without an open skip nothing has been added.
    obtain ⟨added, hc, -, h0⟩ := hb.ledger.crumbs
    rw [hc, h0 h.openSkips, h.crumbs]
    rfl
  openSkips := hb.ledger.openSkips.trans h.openSkips
  reversing := Bool.eq_false_iff.2 fun hrev =>
    absurd (h.reversing.symm.trans (hcalm hrev).1) (by simp)
  callDepth := hb.callDepth.trans h.callDepth
  bound := hb.bound

/-- However a run ends, a reset settles the machine. -/
theorem reset (h : m.Resting D) (hb : Bracketed D m m') : m'.reset.Resting D where
  scopes := by
    rw [Machine.reset, Scopes.discardLocals, Scopes.skeleton_take, hb.skeleton, h.scopes]
    rfl
  current := rfl
  crumbs := rfl
  openSkips := rfl
  reversing := rfl
  callDepth := rfl
  bound := hb.bound.discardLocals

theorem settle {α : Type} {V : α → Prop} {x : Run α} (h : m.Resting D)
    (hx : (bracketing D).Meets V x) {answer : Except Failure α}
    (hr : m.settle x = some (answer, m')) : m'.Resting D := by
  obtain ⟨a, hr', -⟩ | ⟨reason, m₁, hr', -, rfl⟩ := settle_eq_some hr
  · obtain ⟨⟨hb, hcalm⟩, -⟩ := hx m _ _ h.pre hr'
    exact h.of_value hb (hcalm rfl)
  · obtain ⟨⟨hb, -⟩, -⟩ := hx m _ _ h.pre hr'
    exact h.reset hb

theorem addNative (h : m.Resting D) (f : NativeFunction) : (m.addNative f).Resting D :=
  ⟨⟨(Scopes.skeleton_modify ..).trans h.scopes, h.current, h.crumbs, h.openSkips, h.reversing,
    h.callDepth⟩, h.bound.defineGlobal (D.native f)⟩

section

variable (hhost : host.Keeps D.value)
include hhost

theorem declare (h : m.Resting D) {fuel : Nat} {d : Decl} (hd : D.stmt ⟨.declare d, .unknown⟩)
    {answer : Except Failure Unit} (hr : m.declare host fuel d = some (answer, m')) :
    m'.Resting D := by
  have hlawful := bracketing.lawful hhost
  exact h.settle (hlawful.declaration (hlawful.evaluator fuel) hd) hr

theorem load (h : m.Resting D) {fuel : Nat} {ds : List Decl}
    (hds : ∀ d ∈ ds, D.stmt ⟨.declare d, .unknown⟩) {answer : Except Failure Unit}
    (hr : m.load host fuel ds = some (answer, m')) : m'.Resting D := by
  induction ds generalizing m with
  | nil => exact (load_nil_eq_some hr).2 ▸ h
  | cons d ds ih =>
    obtain ⟨hd, hds⟩ := List.forall_mem_cons.1 hds
    obtain ⟨m₁, hr', hr⟩ | hr := load_cons_eq_some hr
    · exact ih (h.declare hhost hd hr') hds hr
    · exact h.declare hhost hd hr

theorem callFound (h : m.Resting D) {fuel : Nat} {f : Except Failure Value}
    (hf : ∀ v, f = .ok v → D.value v) {args : List Value} (hargs : ∀ v ∈ args, D.value v)
    {answer : Except Failure Value}
    (hr : m.callFound host fuel f args = some (answer, m')) : m'.Resting D := by
  have hlawful := bracketing.lawful hhost
  cases f with
  | ok f => exact h.settle (hlawful.callValue (hlawful.evaluator fuel) (hf f rfl) hargs) hr
  | error e =>
    obtain ⟨rfl, rfl⟩ := Prod.mk.inj (Option.some.inj hr)
    exact h

variable (hstmt : ∀ s, D.stmt s) (hP : ∀ v, P v → D.value v)
include hstmt hP

/-- After each request the machine is settled, and all that is bound obeys the discipline. -/
theorem serves (h : m.Resting D) (hr : m.Serves host P m') : m'.Resting D := by
  cases hr with
  | declare hr => exact h.declare hhost (hstmt _) hr
  | load hr => exact h.load hhost (fun _ _ => hstmt _) hr
  | runMain hr =>
    exact h.callFound hhost (fun _ hf => Machine.obey_mainFunction h.bound hf)
      (fun _ h => absurd h List.not_mem_nil) hr
  | call hargs hr =>
    exact h.callFound hhost (fun _ hf => h.bound.get hf) (fun v hv => hP v (hargs v hv)) hr
  | registerNative => exact h.addNative _
  | registerVariadic => exact h.addNative _

theorem of_session (h : Session host P m) : m.Resting D := by
  induction h with
  | start settings files => exact .initial settings files
  | serve _ hr ih => exact ih.serves hhost hstmt hP hr

end

end Machine.Resting

theorem Host.keeps_any (host : Host) : host.Keeps Discipline.any.value :=
  fun _ _ _ _ _ _ _ => trivial

/-- A property of machines that is kept when a native function is added, and by every run that is
    carried out for the host. -/
structure Machine.Enduring (C : Machine → Prop) : Prop where
  addNative : ∀ {m : Machine} (f : NativeFunction), C m → C (m.addNative f)
  settle : ∀ {α : Type} {V : α → Prop} {x : Run α} {m m' : Machine} {answer : Except Failure α},
    C m → (bracketing .any).Meets V x → m.settle x = some (answer, m') → C m'

namespace Machine.Enduring

variable {C : Machine → Prop} (hC : Enduring C) {host : Host} {P : Value → Prop}
  {m m' : Machine} {fuel : Nat}
include hC

theorem declare (h : C m) {d : Decl} {answer : Except Failure Unit}
    (hr : m.declare host fuel d = some (answer, m')) : C m' := by
  have hlawful := bracketing.lawful host.keeps_any
  have hd : Discipline.any.stmt ⟨.declare d, .unknown⟩ := trivial
  exact hC.settle h (hlawful.declaration (hlawful.evaluator fuel) hd) hr

theorem load (h : C m) {ds : List Decl} {answer : Except Failure Unit}
    (hr : m.load host fuel ds = some (answer, m')) : C m' := by
  induction ds generalizing m with
  | nil => exact (load_nil_eq_some hr).2 ▸ h
  | cons d ds ih =>
    obtain ⟨m₁, hr', hr⟩ | hr := load_cons_eq_some hr
    · exact ih (hC.declare h hr') hr
    · exact hC.declare h hr

theorem callFound (h : C m) {f : Except Failure Value} {args : List Value}
    {answer : Except Failure Value} (hr : m.callFound host fuel f args = some (answer, m')) :
    C m' := by
  have hlawful := bracketing.lawful host.keeps_any
  have hargs : ∀ v ∈ args, Discipline.any.value v := fun _ _ => trivial
  cases f with
  | ok f => exact hC.settle h (hlawful.callValue (hlawful.evaluator fuel) (f := f) trivial hargs) hr
  | error e =>
    obtain ⟨rfl, rfl⟩ := Prod.mk.inj (Option.some.inj hr)
    exact h

theorem serves (h : C m) (hr : m.Serves host P m') : C m' := by
  cases hr with
  | declare hr => exact hC.declare h hr
  | load hr => exact hC.load h hr
  | runMain hr => exact hC.callFound h hr
  | call _ hr => exact hC.callFound h hr
  | registerNative => exact hC.addNative _ h
  | registerVariadic => exact hC.addNative _ h

/-- If it holds in the beginning it holds between requests. -/
theorem of_session (hinitial : ∀ settings files, C (.initial settings files))
    (h : Session host P m) : C m := by
  induction h with
  | start settings files => exact hinitial settings files
  | serve _ hr ih => exact hC.serves ih hr

end Machine.Enduring

/-- Between requests the machine is settled; and a request whose run goes to its end
    leaves it so without a reset. -/
theorem Session.settled {host : Host} {P : Value → Prop} {m : Machine} (h : Session host P m) :
    m.Settled ∧
      (∀ fuel d m', (evaluator host fuel).declaration d m = some (.ok (), m') → m'.Settled) ∧
      ∀ fuel f args v m',
        (evaluator host fuel).callValue host f args m = some (.ok v, m') → m'.Settled := by
  have hm : m.Resting .any := .of_session host.keeps_any (fun _ => trivial) (fun _ _ => trivial) h
  have hlawful := bracketing.lawful host.keeps_any
  refine ⟨hm.toSettled, fun fuel d m' hr => ?_, fun fuel f args v m' hr => ?_⟩
  · have hd : Discipline.any.stmt ⟨.declare d, .unknown⟩ := trivial
    obtain ⟨⟨hb, hcalm⟩, -⟩ :=
      hlawful.declaration (hlawful.evaluator fuel) hd m _ m' hm.pre hr
    exact (hm.of_value hb (hcalm rfl)).toSettled
  · have hargs : ∀ v ∈ args, Discipline.any.value v := fun _ _ => trivial
    obtain ⟨⟨hb, hcalm⟩, -⟩ :=
      hlawful.callValue (hlawful.evaluator fuel) (f := f) trivial hargs m _ m' hm.pre hr
    exact (hm.of_value hb (hcalm rfl)).toSettled

/-- A host that adds no native functions, where no program is there to be a shell. -/
def Host.bare : Host where
  native _ := .fail .noMainFunction
  shell _ _ _ := .error .notFound

/-- The machine at the beginning, with the default settings and no files. -/
abbrev Machine.bare : Machine :=
  .initial .default .bare

theorem Host.bare_keeps (P : Value → Prop) : bare.Keeps P :=
  fun _ _ _ _ _ _ h => absurd (congrArg Prod.fst h) (by simp [bare, NativeM.fail])

/-- A program whose main function assigns to `x`, takes that back and returns `x`. -/
def Session.retracing : List Decl :=
  [.variable ⟨"x", some (.literal .str "before")⟩,
    .function "main" [] [⟨.skip
      [⟨.assign (.ident "x") .set (.literal .str "after"), .unknown⟩,
        ⟨.reverse (.literal .truth "true"), .unknown⟩]
      [⟨none, [⟨.ret (some (.ident "x")), .unknown⟩]⟩], .unknown⟩]]

theorem Session.settled_retracing :
    ∃ m, Session .bare (fun _ => True) m ∧ (m.global? "x").any (·.equals (.str "before")) ∧
      m.Settled := by
  have h : ((Machine.bare.load .bare 5 retracing).bind
      fun loaded => loaded.2.runMain .bare 9).any
        (fun run => (run.2.global? "x").any (·.equals (.str "before"))) := by decide +kernel
  obtain ⟨run, hrun, hx⟩ := (Option.any_eq_true _ _).1 h
  obtain ⟨loaded, hload, hrun⟩ := Option.bind_eq_some_iff.1 hrun
  have hm : Session .bare (fun _ => True) run.2 :=
    .serve (.serve (.start .default .bare) (.load hload)) (.runMain hrun)
  exact ⟨run.2, hm, hx, hm.settled.1⟩

end Retrace
