import Retrace.Proofs.Pervasive
import Retrace.Proofs.Run

/-!
# The statements that a run begins

Whatever is run may begin statements on its way: those inside it, those in the
bodies of the functions that it calls, and those that it replays. To see which ones,
the statements are left to something else (`Executor`): all the rest is done as ever
by the evaluator `executing` it. A run *begins* a statement (`Begins`) if it does not
end unless this one does.

The statements that a run begins make up its *course* (`Course`), and all runs of
programs have one (`Traceable.executing`). How the run ends depends on these
statements alone. The location is the one that the last of them leaves; and if one of
them fails, so does the run, and it leaves the same location.
-/

namespace Retrace

/-- How statements are run, with the given fuel. -/
abbrev Executor : Type :=
  Nat → Stmt → Run Flow

/-- Statements are run by the evaluator. -/
def Host.executor (host : Host) : Executor :=
  fun fuel => (evaluator host fuel).exec

/-- The evaluator that leaves the running of statements to an executor. -/
def executing (host : Host) (exec : Executor) : (fuel : Nat) → Evaluator
  | 0 => .starved
  | fuel + 1 => {
      rounds := fuel + 1
      eval := fun e => (executing host exec fuel).expression host e
      exec := exec (fuel + 1) }

theorem rounds_executing (host : Host) (exec : Executor) (fuel : Nat) :
    (executing host exec fuel).rounds = fuel := by
  cases fuel <;> rfl

theorem executing_executor (host : Host) (fuel : Nat) :
    executing host host.executor fuel = evaluator host fuel := by
  induction fuel with
  | zero => rfl
  | succ fuel ih =>
    rw [executing, ih]
    rfl

/-- Statements are only run with less fuel. -/
theorem executing_congr {host : Host} {exec exec' : Executor} {fuel : Nat}
    (h : ∀ n, n ≤ fuel → exec n = exec' n) :
    executing host exec fuel = executing host exec' fuel := by
  induction fuel with
  | zero => rfl
  | succ fuel ih =>
    rw [executing, executing, ih fun n hn => h n (Nat.le_succ_of_le hn),
      h (fuel + 1) (Nat.le_refl _)]

/-- A statement that is begun in a machine, with the fuel to run it. -/
structure Begun where
  fuel : Nat
  stmt : Stmt
  machine : Machine

/-- How the statement ends. -/
def Begun.run (b : Begun) (exec : Executor) : Option (Except Stop Flow × Machine) :=
  exec b.fuel b.stmt b.machine

/-- All statements but one can be run as ever. -/
theorem Begun.exists_without (b : Begun) (host : Host) : ∃ exec : Executor,
    (∀ c, c ≠ b → c.run exec = c.run host.executor) ∧ b.run exec = none := by
  classical
  exact ⟨fun fuel s m => if (⟨fuel, s, m⟩ : Begun) = b then none else host.executor fuel s m,
    fun _ hc => if_neg hc, if_pos rfl⟩

/-- From `m` on the run goes to an end, and begins the statement: it would not go to an end if this
    one did not. -/
structure Begins (host : Host) {α : Type} (x : Executor → Run α) (m : Machine) (b : Begun) :
    Prop where
  ends : ∃ out, x host.executor m = some out
  needs : ∀ exec : Executor, (∀ c, c ≠ b → c.run exec = c.run host.executor) → b.run exec = none →
    x exec m = none

/-- The statements that the executor does run it runs as the evaluator does. -/
def Executor.Within (exec : Executor) (host : Host) : Prop :=
  ∀ b : Begun, b.run exec = none ∨ b.run exec = b.run host.executor

/-- The location `l'` is the one that is left by the last one of the statements, or `l` if there
    are none. -/
inductive Leaves (host : Host) (l : Location) : List Begun → Location → Prop
  | nil : Leaves host l [] l
  | last {b : Begun} {out : Except Stop Flow × Machine} (bs : List Begun) :
      b.run host.executor = some out → Leaves host l (bs ++ [b]) out.2.location

theorem Leaves.append {host : Host} {l l₁ l' : Location} {bs bs' : List Begun}
    (h : Leaves host l bs l₁) (h' : Leaves host l₁ bs' l') : Leaves host l (bs ++ bs') l' := by
  cases h' with
  | nil => rwa [List.append_nil]
  | last bs' hb =>
    rw [← List.append_assoc]
    exact .last _ hb

/-- From `m` on the run begins the statements, one after the other, and ends in the given way. If
    it begins none, its location is `l`. -/
structure Course (host : Host) {α : Type} (x : Executor → Run α) (m : Machine) (l : Location)
    (bs : List Begun) (out : Except Stop α × Machine) : Prop where
  /-- It depends on these statements alone how the run ends. -/
  runs : ∀ exec : Executor, (∀ b ∈ bs, b.run exec = b.run host.executor) → x exec m = some out
  needs : ∀ exec : Executor, exec.Within host → ∀ b ∈ bs, b.run exec = none → x exec m = none
  leaves : Leaves host l bs out.2.location
  /-- A failure is passed on. -/
  fails : ∀ b ∈ bs, ∀ e w, b.run host.executor = some (.error (.failure e), w) →
    (∃ e', out.1 = .error (.failure e')) ∧ out.2.location = w.location

section

variable {α β : Type} {host : Host} {x : Executor → Run α} {y : Executor → Run β}
  {z : Executor → Run β} {m m₁ : Machine} {l : Location} {bs bs' : List Begun}

namespace Course

theorem nil {out : Except Stop α × Machine} (h : ∀ exec, x exec m = some out) :
    Course host x m out.2.location [] out where
  runs exec _ := h exec
  needs _ _ _ hb := absurd hb List.not_mem_nil
  leaves := .nil
  fails _ hb := absurd hb List.not_mem_nil

theorem ends {out : Except Stop α × Machine} (h : Course host x m l bs out) :
    x host.executor m = some out :=
  h.runs host.executor fun _ _ => rfl

/-- The statements of the course are those that are begun. -/
theorem begins_iff {out : Except Stop α × Machine} (h : Course host x m l bs out) {b : Begun} :
    Begins host x m b ↔ b ∈ bs := by
  constructor
  · intro hb
    refine Classical.byContradiction fun hmem => ?_
    obtain ⟨exec, hothers, hnone⟩ := b.exists_without host
    have hends := h.runs exec fun c hc => hothers c fun heq => hmem (heq ▸ hc)
    exact absurd (hends.symm.trans (hb.needs exec hothers hnone)) (by simp)
  · refine fun hmem => ⟨⟨out, h.ends⟩, fun exec hothers hnone => h.needs exec ?_ b hmem hnone⟩
    intro c
    by_cases hc : c = b
    · exact .inl (hc ▸ hnone)
    · exact .inr (hothers c hc)

/-- If the executor runs no other statements, then the run begins one that it does not run, or ends
    as ever. -/
theorem within {out : Except Stop α × Machine} (h : Course host x m l bs out) {exec : Executor}
    (hexec : exec.Within host) : x exec m = none ∨ x exec m = some out := by
  by_cases hbs : ∃ b ∈ bs, b.run exec = none
  · obtain ⟨b, hb, hnone⟩ := hbs
    exact .inl (h.needs exec hexec b hb hnone)
  · exact .inr (h.runs exec fun b hb => (hexec b).resolve_left fun hnone => hbs ⟨b, hb, hnone⟩)

/-- One run after the other; after a failure of the first one no more is to come than another
    failure. -/
theorem andThen {r : Except Stop α} {out : Except Stop β × Machine}
    (hx : Course host x m l bs (r, m₁)) (hz : Course host z m₁ m₁.location bs' out)
    (hnone : ∀ exec, x exec m = none → y exec m = none)
    (hsome : ∀ exec, x exec m = some (r, m₁) → y exec m = z exec m₁)
    (hfails : ∀ e, r = .error (.failure e) →
      (∃ e', out.1 = .error (.failure e')) ∧ out.2.location = m₁.location) :
    Course host y m l (bs ++ bs') out where
  runs exec hexec := by
    obtain ⟨hbs, hbs'⟩ := List.forall_mem_append.1 hexec
    rw [hsome exec (hx.runs exec hbs), hz.runs exec hbs']
  needs exec hexec b hb hbnone := by
    rcases hx.within hexec with h | h
    · exact hnone exec h
    · rw [hsome exec h]
      rcases List.mem_append.1 hb with hb | hb
      · exact absurd (h.symm.trans (hx.needs exec hexec b hb hbnone)) (by simp)
      · exact hz.needs exec hexec b hb hbnone
  leaves := hx.leaves.append hz.leaves
  fails b hb e w hw := by
    rcases List.mem_append.1 hb with hb | hb
    · obtain ⟨⟨e', he'⟩, hlocation⟩ := hx.fails b hb e w hw
      obtain ⟨he, hout⟩ := hfails e' he'
      exact ⟨he, hout.trans hlocation⟩
    · exact hz.fails b hb e w hw

/-- The same run but for what is changed in the machine before it and after it. -/
theorem inside {r : Except Stop α} {y : Executor → Run α} {m₀ : Machine} {f : Machine → Machine}
    (hx : Course host x m₀ l bs (r, m₁))
    (hy : ∀ exec, y exec m = (x exec m₀).map fun p => (p.1, f p.2))
    (hf : (f m₁).location = m₁.location) : Course host y m l bs (r, f m₁) where
  runs exec hexec := by rw [hy, hx.runs exec hexec, Option.map_some]
  needs exec hexec b hb hnone := by rw [hy, hx.needs exec hexec b hb hnone, Option.map_none]
  leaves := hf.symm ▸ hx.leaves
  fails b hb e w hw := by
    obtain ⟨he, hlocation⟩ := hx.fails b hb e w hw
    exact ⟨he, hf.trans hlocation⟩

end Course

end

/-! ### Runs that begin nothing -/

/-- The run leaves the location as it was. -/
def Run.Stays {α : Type} (x : Run α) : Prop :=
  ∀ m r m', x m = some (r, m') → m'.location = m.location

namespace Run.Stays

variable {α β : Type}

theorem pure (a : α) : (pure a : Run α).Stays :=
  fun _ _ _ h => (pure_eq_some h).2 ▸ rfl

theorem stop (e : Stop) : (stop e : Run α).Stays :=
  fun _ _ _ h => (stop_eq_some h).2 ▸ rfl

theorem bind {x : Run α} {f : α → Run β} (hx : x.Stays) (hf : ∀ a, (f a).Stays) :
    (x >>= f).Stays := by
  intro m r m' h
  rcases bind_eq_some h with ⟨a, m₁, hx', hf'⟩ | ⟨e, he, -⟩
  · exact (hf a _ _ _ hf').trans (hx _ _ _ hx')
  · exact hx _ _ _ he

theorem query (f : Machine → Except Failure α) : (query f).Stays :=
  fun _ _ _ h => (query_eq_some h).1 ▸ rfl

theorem read (f : Machine → α) : (read f).Stays :=
  fun _ _ _ h => (read_eq_some h).2 ▸ rfl

theorem update {f : Machine → Machine} (hf : ∀ m, (f m).location = m.location) :
    (update f).Stays := by
  intro m r m' h
  obtain ⟨-, rfl⟩ := Prod.mk.inj (Option.some.inj h)
  exact hf m

theorem updateScopes (f : Scopes → Except Failure Scopes) : (updateScopes f).Stays := by
  intro m r m' h
  obtain ⟨ss, -, -, rfl⟩ | ⟨e, -, rfl, -⟩ := updateScopes_eq_some h <;> rfl

theorem record (c : Breadcrumb) : (record c).Stays := by
  intro m r m' h
  obtain ⟨-, -, rfl⟩ | ⟨l, -, -, -, rfl⟩ | ⟨e, -, rfl, -⟩ := record_eq_some h <;> rfl

theorem openSkip : openSkip.Stays := by
  intro m r m' h
  obtain ⟨marker, l, -, -, rfl⟩ | ⟨e, -, rfl, -⟩ := openSkip_eq_some h <;> rfl

theorem popAbove (marker : Marker) : (popAbove marker).Stays := by
  intro m r m' h
  obtain ⟨c, l, -, -, rfl⟩ | ⟨-, -, rfl⟩ := popAbove_eq_some h <;> rfl

theorem native (x : NativeM α) (argc : Nat) : (native x argc).Stays := by
  intro m r m' h
  rw [Run.native] at h
  split at h
  · obtain ⟨-, rfl⟩ := Prod.mk.inj (Option.some.inj h)
    rfl
  · exact (fail_eq_some h).2 ▸ rfl

theorem store (t : Target) (v : Value) : (store t v).Stays :=
  .bind (query _) fun b => .bind (record b.crumb) fun _ => updateScopes _

theorem whenRestorable (marker : Marker) (scope : ScopeId) {x : Run Unit} (hx : x.Stays) :
    (whenRestorable marker scope x).Stays := by
  refine .bind (query _) fun b => ?_
  cases b with
  | true => exact hx
  | false => exact .pure ()

end Run.Stays

/-! ### All runs -/

/-- The run has a course, from wherever it goes to an end. -/
def Traceable (host : Host) {α : Type} (x : Executor → Run α) : Prop :=
  ∀ m out, x host.executor m = some out → ∃ bs, Course host x m m.location bs out

namespace Traceable

variable {α β : Type} {host : Host} {x : Executor → Run α}

theorem of_stays {y : Run α} (h : y.Stays) : Traceable host fun _ => y := by
  rintro m ⟨r, m'⟩ hy
  rw [← h m r m' hy]
  exact ⟨[], .nil fun _ => hy⟩

/-- To run a statement is to begin it. -/
theorem exec (host : Host) (fuel : Nat) (s : Stmt) : Traceable host fun exec => exec fuel s := by
  intro m out hout
  refine ⟨[⟨fuel, s, m⟩], ?_, ?_, .last [] hout, ?_⟩
  · exact fun exec hexec => (hexec _ (List.mem_singleton_self _)).trans hout
  · intro exec _ b hb hnone
    rwa [List.mem_singleton.1 hb] at hnone
  · intro b hb e w hw
    rw [List.mem_singleton.1 hb] at hw
    obtain rfl := Option.some.inj (hout.symm.trans hw)
    exact ⟨⟨e, rfl⟩, rfl⟩

theorem bind {f : Executor → α → Run β} (hx : Traceable host x)
    (hf : ∀ a, Traceable host fun exec => f exec a) :
    Traceable host fun exec => x exec >>= f exec := by
  rintro m ⟨r, m'⟩ h
  rcases Run.bind_eq_some h with ⟨a, m₁, hx', hf'⟩ | ⟨e, he, rfl⟩
  · obtain ⟨bs, hbs⟩ := hx m _ hx'
    obtain ⟨bs', hbs'⟩ := hf a m₁ _ hf'
    refine ⟨bs ++ bs', hbs.andThen hbs' (fun exec h => ?_) (fun exec h => ?_) (by simp)⟩
    all_goals rw [Run.bind_apply, h]
  · obtain ⟨bs, hbs⟩ := hx m _ he
    have hstop : Traceable host fun _ => (Run.stop e : Run β) := of_stays (.stop e)
    obtain ⟨bs', hbs'⟩ := hstop m' _ rfl
    refine ⟨bs ++ bs', hbs.andThen hbs' (fun exec h => ?_) (fun exec h => ?_) ?_⟩
    · rw [Run.bind_apply, h]
    · rw [Run.bind_apply, h]
      rfl
    · intro e' he'
      exact ⟨⟨e', congrArg _ (Except.error.inj he')⟩, rfl⟩

/-- What is made of a failure is a failure. -/
theorem attempt_bind {f : Executor → Except Stop α → Run β} (hx : Traceable host x)
    (hf : ∀ a, Traceable host fun exec => f exec a)
    (hfails : ∀ e m r m', f host.executor (.error (.failure e)) m = some (r, m') →
      (∃ e', r = .error (.failure e')) ∧ m'.location = m.location) :
    Traceable host fun exec => Run.attempt (x exec) >>= f exec := by
  rintro m ⟨r, m'⟩ h
  obtain ⟨y, m₁, hx', hf'⟩ := Run.attempt_bind_eq_some h
  obtain ⟨bs, hbs⟩ := hx m _ hx'
  obtain ⟨bs', hbs'⟩ := hf y m₁ _ hf'
  refine ⟨bs ++ bs', hbs.andThen hbs' (fun exec h => ?_) (fun exec h => ?_) ?_⟩
  · rw [Run.bind_apply, Run.attempt, h]
  · rw [Run.bind_apply, Run.attempt, h]
  · rintro e rfl
    exact hfails e m₁ r m' hf'

theorem inScope (scope : ScopeId) (hx : Traceable host x) :
    Traceable host fun exec => Run.inScope scope (x exec) := by
  rintro m ⟨r, m'⟩ h
  obtain ⟨m₁, hx', rfl⟩ := Run.inScope_eq_some h
  obtain ⟨bs, hbs⟩ := hx _ _ hx'
  exact ⟨bs, hbs.inside (f := fun m₁ => { m₁ with current := m.current })
    (fun exec => Run.inScope_apply scope (x exec) m) rfl⟩

theorem inBlock (hx : Traceable host x) : Traceable host fun exec => Run.inBlock (x exec) := by
  rintro m ⟨r, m'⟩ h
  obtain ⟨m₁, hx', rfl⟩ := Run.inBlock_eq_some h
  obtain ⟨bs, hbs⟩ := hx _ _ hx'
  exact ⟨bs, hbs.inside (f := fun m₁ => m₁.leave m)
    (fun exec => Run.inNewScope_apply m.current (x exec) m) rfl⟩

theorem inCall (hx : Traceable host x) : Traceable host fun exec => Run.inCall (x exec) := by
  rintro m ⟨r, m'⟩ h
  by_cases hdepth : m.settings.maxCallDepth ≤ m.callDepth
  · -- Nothing is run if calls are nested too deeply.
    have hcall : ∀ exec, Run.inCall (x exec) m =
        Run.fail (.callDepthExceeded m.settings.maxCallDepth) m := fun exec => by
      rw [Run.inCall_apply, if_pos hdepth]
    obtain ⟨rfl, rfl⟩ := Run.fail_eq_some ((hcall _).symm.trans h)
    exact ⟨[], .nil hcall⟩
  · have hcall : ∀ exec, Run.inCall (x exec) m = (x exec m.enterCall).map fun p =>
        (p.1, { p.2.leave m with callDepth := p.2.callDepth - 1 }) := fun exec => by
      rw [Run.inCall_apply, if_neg hdepth]
    obtain ⟨⟨r₁, m₁⟩, hx', h⟩ := Option.map_eq_some_iff.1 ((hcall _).symm.trans h)
    obtain ⟨rfl, rfl⟩ := Prod.mk.inj h
    obtain ⟨bs, hbs⟩ := hx _ _ hx'
    exact ⟨bs, hbs.inside (f := fun m₁ => { m₁.leave m with callDepth := m₁.callDepth - 1 })
      hcall rfl⟩

theorem compositional (host : Host) : Compositional host (Traceable host) where
  starved _ _ h := absurd h (by simp [Run.starved])
  pure a := of_stays (.pure a)
  bind := bind
  stop reason := of_stays (.stop reason)
  lookup _ := of_stays (.query _)
  readTarget _ := of_stays (.query _)
  declare _ _ := of_stays (.bind (.read _) fun _ => .updateScopes _)
  store t v := of_stays (.store t v)
  record _ := of_stays (.bind (.read _) fun _ => .record _)
  setReversing _ := of_stays (.update fun _ => rfl)
  native _ _ := of_stays (.native _ _)
  inBlock := inBlock
  inCall := inCall

/-! ### Rollbacks and skips -/

section Skips

variable {r : Executor → Evaluator} {rounds : Nat}
  (hexec : ∀ s, Traceable host fun exec => (r exec).exec s)
include hexec

theorem replay (scope : ScopeId) (undo : Stmt) :
    Traceable host fun exec => (r exec).replay scope undo := by
  refine attempt_bind (inScope scope (hexec undo)) (fun x => ?_) fun e m x m' h => ?_
  · match x with
    | .ok .normal => exact of_stays (.pure ())
    | .ok (.jump _) | .ok (.returned _) => exact of_stays (.stop _)
    | .error (.reversal _) | .error (.failure _) => exact of_stays (.stop _)
  · obtain ⟨rfl, rfl⟩ := Run.fail_eq_some h
    exact ⟨⟨_, rfl⟩, rfl⟩

theorem restore (marker : Marker) (enclosing : ScopeId) (c : Breadcrumb) :
    Traceable host fun exec => (r exec).restore marker enclosing c := by
  cases c with
  | marker => exact of_stays (.stop _)
  | binding | entry => exact of_stays (.whenRestorable marker _ (.updateScopes _))
  | replay scope undo =>
    refine bind (of_stays (.query _)) fun b => ?_
    cases b with
    | true => exact replay hexec scope undo
    | false => exact replay hexec enclosing undo

theorem restoreAbove (marker : Marker) (enclosing : ScopeId) (n : Nat) :
    Traceable host fun exec => (r exec).restoreAbove marker enclosing n := by
  induction n with
  | zero => exact (compositional host).starved
  | succ n ih =>
    refine bind (of_stays (.popAbove marker)) fun c => ?_
    cases c with
    | none => exact of_stays (.pure ())
    | some c => exact bind (restore hexec marker enclosing c) fun _ => ih

theorem skip (hrounds : ∀ exec, (r exec).rounds = rounds)
    (heval : ∀ e, Traceable host fun exec => (r exec).eval e) (body : Block)
    (seizes : List Seize) : Traceable host fun exec => (r exec).skip body seizes := by
  have hcompositional := compositional host
  have hdiscard : ∀ marker, (Run.discardSkip marker).Stays := fun _ => .update fun _ => rfl
  have hclose : ∀ marker, (Run.closeSkip marker).Stays := fun _ => .update fun _ => rfl
  have hroll : ∀ marker enclosing,
      Traceable host fun exec => (r exec).rollBack marker enclosing := by
    intro marker enclosing
    simp only [Evaluator.rollBack, hrounds]
    exact restoreAbove hexec marker enclosing rounds
  refine bind (of_stays (.read _)) fun enclosing => bind (of_stays .openSkip) fun marker => ?_
  refine attempt_bind (hcompositional.block hexec body) (fun x => ?_) fun e m x m' h => ?_
  · match x with
    | .ok (.returned v) => exact of_stays (.bind (hdiscard marker) fun _ => .pure _)
    | .ok .normal | .ok (.jump _) => exact of_stays (.bind (hclose marker) fun _ => .pure _)
    | .error (.failure e) => exact of_stays (.bind (hdiscard marker) fun _ => .stop _)
    | .error (.reversal payload) =>
      refine attempt_bind (hroll marker enclosing) (fun x => ?_) fun e m x m' h => ?_
      · cases x with
        | ok u => exact bind (of_stays (hclose marker)) fun _ =>
            hcompositional.dispatch heval hexec payload none seizes
        | error reason => exact of_stays (.bind (hdiscard marker) fun _ => .stop _)
      · obtain ⟨rfl, rfl⟩ := Prod.mk.inj (Option.some.inj h)
        exact ⟨⟨_, rfl⟩, rfl⟩
  · obtain ⟨rfl, rfl⟩ := Prod.mk.inj (Option.some.inj h)
    exact ⟨⟨_, rfl⟩, rfl⟩

end Skips

/-- Every run of a program has a course. -/
theorem executing (host : Host) (fuel : Nat) :
    (∀ e, Traceable host fun exec => (Retrace.executing host exec fuel).eval e) ∧
      ∀ s, Traceable host fun exec => (Retrace.executing host exec fuel).exec s := by
  have hcompositional := compositional host
  induction fuel with
  | zero => exact ⟨fun _ => hcompositional.starved, fun _ => hcompositional.starved⟩
  | succ fuel ih => exact ⟨hcompositional.expression ih.1 ih.2, exec host (fuel + 1)⟩

theorem action (host : Host) (fuel : Nat) (a : Action) :
    Traceable host fun exec => (Retrace.executing host exec fuel).action a := by
  have hrounds : ∀ exec, (Retrace.executing host exec fuel).rounds = fuel := fun exec =>
    rounds_executing host exec fuel
  obtain ⟨heval, hexec⟩ := executing host fuel
  exact (compositional host).action hrounds heval hexec (skip hexec hrounds heval) a

theorem declaration (host : Host) (fuel : Nat) (d : Decl) :
    Traceable host fun exec => (Retrace.executing host exec fuel).declaration d :=
  (compositional host).declaration (executing host fuel).1 d

theorem callValue (host : Host) (fuel : Nat) (f : Value) (args : List Value) :
    Traceable host fun exec => (Retrace.executing host exec fuel).callValue host f args :=
  (compositional host).callValue (executing host fuel).2 f args

end Traceable

/-- The location is the one of the statement, until it begins another one. -/
theorem exists_course_statement {host : Host} {fuel : Nat} {s : Stmt} {m : Machine}
    {out : Except Stop Flow × Machine} (h : (evaluator host fuel).statement s m = some out) :
    ∃ bs, Course host (fun exec => (executing host exec fuel).statement s) m s.location bs out := by
  rw [← executing_executor] at h
  obtain ⟨bs, hbs⟩ := Traceable.action host fuel s.action { m with location := s.location } out h
  exact ⟨bs, hbs.runs, hbs.needs, hbs.leaves, hbs.fails⟩

end Retrace
