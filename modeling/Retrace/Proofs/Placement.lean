import Retrace.Eval
import Retrace.Proofs.Assignment
import Retrace.Proofs.Ledger
import Retrace.Proofs.Natives
import Retrace.Proofs.Reversal

/-!
# Where jumps stand

A program is *placed* (`Stmt.Placed`) if its jumps stand where something takes
them: within the body of a function a `break` stands inside the body of a loop or
a clause of a switch, and a `fallthrough` is the last statement of a clause. The
functions that values hold are part of the program, wherever these are kept.

A run *lands* (`Run.Lands`) if it does not fail because of a jump, and leaves
nothing behind that is not placed. Runs that touch the machine land if they are
given what is placed, and so do runs that are put together from those that do.
-/

namespace Retrace

/-- The statements of a clause, without the `fallthrough` at their end. -/
def withoutFallthrough (b : Block) : Block :=
  if endsWithFallthrough b then b.dropLast else b

/-- Whether in the statement, and in the functions it declares, all jumps stand where something
    takes them. The statement itself may be `inside` the body of a loop or a clause of a
    switch. -/
inductive Stmt.Placed : (inside : Bool) → Stmt → Prop
  | block {inside : Bool} {body : Block} {l : Location} :
      (∀ s ∈ body, Placed inside s) → Placed inside ⟨.block body, l⟩
  | expr {inside : Bool} {e : Expr} {undo : Option Stmt} {l : Location} :
      (∀ s ∈ undo.toList, Placed inside s) → Placed inside ⟨.expr e undo, l⟩
  | ret {inside : Bool} {value : Option Expr} {l : Location} : Placed inside ⟨.ret value, l⟩
  | function {inside : Bool} {name : String} {params : List String} {body : Block} {l : Location} :
      (∀ s ∈ body, Placed false s) → Placed inside ⟨.declare (.function name params body), l⟩
  | variable {inside : Bool} {d : VarDecl} {l : Location} :
      Placed inside ⟨.declare (.variable d), l⟩
  | classLike {inside : Bool} {name : String} {members : List Decl} {l : Location} :
      Placed inside ⟨.declare (.classLike name members), l⟩
  | assign {inside : Bool} {target : Expr} {op : AssignOp} {value : Expr} {l : Location} :
      Placed inside ⟨.assign target op value, l⟩
  | step {inside : Bool} {target : Expr} {op : StepOp} {l : Location} :
      Placed inside ⟨.step target op, l⟩
  | loop {inside : Bool} {init : Option VarDecl} {condition : Expr} {increment : Option Stmt}
      {body : Block} {l : Location} : (∀ s ∈ increment.toList, Placed inside s) →
      (∀ s ∈ body, Placed true s) → Placed inside ⟨.loop init condition increment body, l⟩
  | branch {inside : Bool} {arms : List Arm} {otherwise : Option Block} {l : Location} :
      (∀ a ∈ arms, ∀ s ∈ a.body, Placed inside s) → (∀ s ∈ otherwise.getD [], Placed inside s) →
      Placed inside ⟨.branch arms otherwise, l⟩
  | leave {l : Location} : Placed true ⟨.jump .leave, l⟩
  | switch {inside : Bool} {subject : Expr} {cases : List Case} {l : Location} :
      (∀ c ∈ cases, ∀ s ∈ withoutFallthrough c.body, Placed true s) →
      Placed inside ⟨.switch subject cases, l⟩
  | skip {inside : Bool} {body : Block} {seizes : List Seize} {l : Location} :
      (∀ s ∈ body, Placed inside s) → (∀ c ∈ seizes, ∀ s ∈ c.body, Placed inside s) →
      Placed inside ⟨.skip body seizes, l⟩
  | reverse {inside : Bool} {payload : Expr} {l : Location} :
      Placed inside ⟨.reverse payload, l⟩

/-- Whether all jumps in the functions that the value holds are placed. -/
def Value.Placed (v : Value) : Prop :=
  ∀ f, v.Holds f → ∀ s ∈ f.body, s.Placed false

theorem Value.closed_placed : Closed Placed :=
  closed_holds fun f => ∀ s ∈ f.body, s.Placed false

/-- Whether what is kept by the breadcrumb is placed. -/
def Breadcrumb.Placed : Breadcrumb → Prop :=
  Carries Value.Placed fun undo => ∃ inside, undo.Placed inside

/-- Whether all that is bound and recorded is placed. -/
structure Machine.Placed (m : Machine) : Prop where
  bound : m.scopes.Obey Value.Placed
  crumbs : ∀ c ∈ m.ledger.crumbs, c.Placed

namespace Machine.Placed

variable {m m' : Machine}

theorem moved (h : m.Placed) (scope : ScopeId) : { m with current := scope }.Placed :=
  ⟨h.bound, h.crumbs⟩

theorem enter (h : m.Placed) (parent : ScopeId) : (m.enter parent).Placed :=
  ⟨h.bound.push parent, h.crumbs⟩

theorem enterCall (h : m.Placed) : m.enterCall.Placed :=
  ⟨h.bound.push _, h.crumbs⟩

theorem leave (h : m'.Placed) (m : Machine) : (m'.leave m).Placed :=
  ⟨h.bound.discard _, h.crumbs⟩

end Machine.Placed

/-- Whether the flow can come from a statement that is placed. -/
def Flow.Lands (inside : Bool) : Flow → Prop
  | .normal => True
  | .returned v => v.Placed
  | .jump .leave => inside = true
  | .jump .fallthrough => False

/-- Whether the failure is due to no jump. -/
def Failure.Lands (e : Failure) : Prop :=
  ∀ j, e ≠ .misplacedJump j

/-- Whether the reason to stop is no jump, and its payload is placed if it has one. -/
def Stop.Lands : Stop → Prop
  | .reversal payload => payload.Placed
  | .failure e => e.Lands

/-! ### Failures that are due to no jump -/

namespace Failure

variable {e : Failure}

theorem Operational.lands (h : e.Operational) : e.Lands := by
  rintro j rfl
  exact h

/-- Whether it is due to a name or a scope that is not there. -/
def Missing : Failure → Prop
  | .undefinedName _ => True
  | .staleScope _ => True
  | _ => False

theorem Missing.lands (h : e.Missing) : e.Lands := by
  rintro j rfl
  exact h

end Failure

namespace Scopes

variable {ss : Scopes} {id : ScopeId} {name : String} {e : Failure}

theorem missing_of_scope (h : ss.scope id = .error e) : e.Missing := by
  rw [scope] at h
  split at h
  · exact absurd h (by simp)
  · exact Except.error.inj h ▸ trivial

theorem missing_of_ownerAmong {links : Nat} (h : ss.ownerAmong name links id = .error e) :
    e.Missing := by
  induction links generalizing id with
  | zero => exact absurd h (by simp [ownerAmong])
  | succ links ih =>
    rw [ownerAmong] at h
    rcases Failure.of_bind h with h | ⟨s, -, h⟩
    · exact missing_of_scope h
    · split at h
      · exact absurd h (by simp)
      · split at h
        · exact ih h
        · exact absurd h (by simp)

theorem missing_of_owner (h : ss.owner id name = .error e) : e.Missing := by
  rcases Failure.of_bind h with h | ⟨o, -, h⟩
  · exact missing_of_ownerAmong h
  · split at h
    · exact absurd h (by simp)
    · exact Except.error.inj h ▸ trivial

theorem missing_of_getLocal (h : ss.getLocal id name = .error e) : e.Missing := by
  rcases Failure.of_bind h with h | ⟨s, -, h⟩
  · exact missing_of_scope h
  · exact absurd h (by simp)

theorem missing_of_get (h : ss.get id name = .error e) : e.Missing := by
  rcases Failure.of_bind h with h | ⟨owner, -, h⟩
  · exact missing_of_owner h
  rcases Failure.of_bind h with h | ⟨o, -, h⟩
  · exact missing_of_getLocal h
  · split at h
    · exact absurd h (by simp)
    · exact Except.error.inj h ▸ trivial

theorem missing_of_define {v : Value} (h : ss.define id name v = .error e) : e.Missing := by
  rcases Failure.of_bind h with h | ⟨s, -, h⟩
  · exact missing_of_scope h
  · exact absurd h (by simp)

end Scopes

/-! ### Runs that land -/

namespace Run

variable {α β : Type}

/-- Whether a value that is the result satisfies `V`, and a reason to stop lands. -/
def Ends (V : α → Prop) : Except Stop α → Prop
  | .ok a => V a
  | .error reason => reason.Lands

/-- In a placed machine the run does not fail because of a jump, and it leaves the machine
    placed. What it gives satisfies `V`. -/
def Lands (V : α → Prop) (x : Run α) : Prop :=
  ∀ m r m', m.Placed → x m = some (r, m') → m'.Placed ∧ Ends V r

variable {V : α → Prop} {W : β → Prop}

namespace Lands

theorem bind {x : Run α} {f : α → Run β} (hx : Lands V x) (hf : ∀ a, V a → Lands W (f a)) :
    Lands W (x >>= f) := by
  intro m r m' hm hr
  rcases bind_eq_some hr with ⟨a, m₁, ha, hr⟩ | ⟨e, he, rfl⟩
  · obtain ⟨hm₁, hV⟩ := hx m _ m₁ hm ha
    exact hf a hV m₁ r m' hm₁ hr
  · exact hx m _ m' hm he

theorem pure {a : α} (h : V a) : Lands V (pure a) := by
  intro m r m' hm hr
  obtain ⟨rfl, rfl⟩ := pure_eq_some hr
  exact ⟨hm, h⟩

theorem stop {reason : Stop} (h : reason.Lands) : Lands V (Run.stop reason) := by
  intro m r m' hm hr
  obtain ⟨rfl, rfl⟩ := stop_eq_some hr
  exact ⟨hm, h⟩

theorem fail {e : Failure} (h : e.Lands) : Lands V (Run.fail e) :=
  stop h

theorem starved : Lands V Run.starved :=
  fun _ _ _ _ hr => absurd hr (by simp [Run.starved])

theorem weaken {V' : α → Prop} {x : Run α} (hx : Lands V x) (h : ∀ a, V a → V' a) :
    Lands V' x := by
  intro m r m' hm hr
  obtain ⟨hm', hV⟩ := hx m r m' hm hr
  refine ⟨hm', ?_⟩
  cases r with
  | ok a => exact h a hV
  | error reason => exact hV

theorem attempt {x : Run α} (hx : Lands V x) : Lands (Ends V) (Run.attempt x) := by
  intro m r m' hm hr
  obtain ⟨r', rfl, hr'⟩ := attempt_eq_some hr
  exact hx m r' m' hm hr'

theorem query {f : Machine → Except Failure α} (h : ∀ m a, m.Placed → f m = .ok a → V a)
    (hfail : ∀ m e, f m = .error e → e.Lands) : Lands V (Run.query f) := by
  intro m r m' hm hr
  obtain ⟨rfl, ⟨a, ha, rfl⟩ | ⟨e, rfl, he⟩⟩ := query_eq_some hr
  · exact ⟨hm, h m' a hm ha⟩
  · exact ⟨hm, hfail m' e he⟩

theorem ofExcept {x : Except Failure α} (h : ∀ a, x = .ok a → V a)
    (hfail : ∀ e, x = .error e → e.Operational) : Lands V (Run.ofExcept x) :=
  query (fun _ a _ ha => h a ha) fun _ e he => (hfail e he).lands

/-- A change of the machine that keeps it placed. -/
theorem update {f : Machine → Machine} (h : ∀ m, m.Placed → (f m).Placed) :
    Lands (fun _ => True) (Run.update f) := by
  intro m r m' hm hr
  obtain ⟨rfl, rfl⟩ := Prod.mk.inj (Option.some.inj hr)
  exact ⟨h m hm, trivial⟩

theorem current : Lands (fun _ => True) (read (·.current)) := by
  intro m r m' hm hr
  obtain ⟨rfl, rfl⟩ := read_eq_some hr
  exact ⟨hm, trivial⟩

/-! ### Scopes -/

theorem lookup (name : String) : Lands Value.Placed (lookup name) :=
  query (fun _ _ hm hv => hm.bound.get hv) fun _ _ he => (Scopes.missing_of_get he).lands

theorem readTarget (t : Target) : Lands Value.Placed (readTarget t) := by
  refine query (fun m v hm hv => Value.closed_placed.read hm.bound hv) fun m e he => ?_
  rcases Failure.of_bind he with he | ⟨bound, -, he⟩
  · exact (Scopes.missing_of_get he).lands
  · exact (Value.operational_of_readPath he).lands

theorem updateScopes {f : Scopes → Except Failure Scopes}
    (h : ∀ ss ss', ss.Obey Value.Placed → f ss = .ok ss' → ss'.Obey Value.Placed)
    (hfail : ∀ ss e, f ss = .error e → e.Lands) : Lands (fun _ => True) (updateScopes f) := by
  intro m r m' hm hr
  obtain ⟨ss, hss, rfl, rfl⟩ | ⟨e, rfl, rfl, he⟩ := updateScopes_eq_some hr
  · exact ⟨⟨h _ ss hm.bound hss, hm.crumbs⟩, trivial⟩
  · exact ⟨hm, hfail _ e he⟩

theorem define (scope : ScopeId) (name : String) {v : Value} (hv : v.Placed) :
    Lands (fun _ => True) (define scope name v) :=
  updateScopes (fun _ _ h hd => h.define hv hd) fun _ _ he => (Scopes.missing_of_define he).lands

theorem declare (name : String) {v : Value} (hv : v.Placed) :
    Lands (fun _ => True) (declare name v) :=
  bind current fun scope _ => define scope name hv

theorem declareAll {binds : List (String × Value)} (h : ∀ b ∈ binds, b.2.Placed) :
    Lands (fun _ => True) (declareAll binds) := by
  induction binds with
  | nil => exact pure trivial
  | cons b binds ih =>
    obtain ⟨hb, h⟩ := List.forall_mem_cons.1 h
    exact bind (declare b.1 hb) fun _ _ => ih h

/-! ### Blocks and calls -/

theorem inScope (scope : ScopeId) {x : Run α} (hx : Lands V x) : Lands V (inScope scope x) := by
  intro m r m' hm hr
  obtain ⟨m₁, hr₁, rfl⟩ := inScope_eq_some hr
  obtain ⟨hm₁, hV⟩ := hx _ r m₁ (hm.moved scope) hr₁
  exact ⟨hm₁.moved m.current, hV⟩

theorem inBlock {x : Run α} (hx : Lands V x) : Lands V (inBlock x) := by
  intro m r m' hm hr
  obtain ⟨m₁, hr₁, rfl⟩ := inBlock_eq_some hr
  obtain ⟨hm₁, hV⟩ := hx _ r m₁ (hm.enter _) hr₁
  exact ⟨hm₁.leave m, hV⟩

theorem inCall {x : Run α} (hx : Lands V x) : Lands V (inCall x) := by
  intro m r m' hm hr
  obtain ⟨rfl, rfl⟩ | ⟨m₁, -, hr₁, rfl⟩ := inCall_eq_some hr
  · exact ⟨hm, fun j h => absurd h (by simp)⟩
  · obtain ⟨hm₁, hV⟩ := hx _ r m₁ hm.enterCall hr₁
    exact ⟨⟨(hm₁.leave m).bound, hm₁.crumbs⟩, hV⟩

/-! ### The ledger -/

theorem record {c : Breadcrumb} (hc : c.Placed) : Lands (fun _ => True) (record c) := by
  intro m r m' hm hr
  obtain ⟨-, rfl, rfl⟩ | ⟨l, -, hl, rfl, rfl⟩ | ⟨e, rfl, rfl, he⟩ := record_eq_some hr
  · exact ⟨hm, trivial⟩
  · refine ⟨⟨hm.bound, fun c' hc' => ?_⟩, trivial⟩
    rcases List.mem_cons.1 (Ledger.crumbs_record_subset hl hc') with rfl | hc'
    · exact hc
    · exact hm.crumbs c' hc'
  · exact ⟨hm, fun j h => absurd (Ledger.record_eq_error he ▸ h) (by simp)⟩

theorem openSkip : Lands (fun _ => True) openSkip := by
  intro m r m' hm hr
  obtain ⟨marker, l, hl, rfl, rfl⟩ | ⟨e, rfl, rfl, he⟩ := openSkip_eq_some hr
  · refine ⟨⟨hm.bound, fun c hc => ?_⟩, trivial⟩
    rw [(Ledger.openSkip_eq_ok hl).2.1] at hc
    rcases List.mem_cons.1 hc with rfl | hc
    · exact trivial
    · exact hm.crumbs c hc
  · exact ⟨hm, fun j h => absurd (Ledger.openSkip_eq_error he ▸ h) (by simp)⟩

theorem closeSkip (marker : Marker) : Lands (fun _ => True) (closeSkip marker) :=
  update fun _ hm => ⟨hm.bound, fun c hc => hm.crumbs c (Ledger.crumbs_close_subset _ _ hc)⟩

theorem discardSkip (marker : Marker) : Lands (fun _ => True) (discardSkip marker) :=
  update fun _ hm => ⟨hm.bound, fun c hc => hm.crumbs c (Ledger.crumbs_discard_subset _ _ hc)⟩

theorem popAbove (marker : Marker) : Lands (fun o => ∀ c ∈ o, c.Placed) (popAbove marker) := by
  intro m r m' hm hr
  obtain ⟨c, l, hl, rfl, rfl⟩ | ⟨-, rfl, rfl⟩ := popAbove_eq_some hr
  · have hcrumbs := hm.crumbs
    rw [(Ledger.popAbove_eq_some hl).1] at hcrumbs
    obtain ⟨hc, hcrumbs⟩ := List.forall_mem_cons.1 hcrumbs
    refine ⟨⟨hm.bound, hcrumbs⟩, fun c' hc' => ?_⟩
    exact Option.mem_some_iff.1 hc' ▸ hc
  · exact ⟨hm, fun c hc => absurd hc (by simp)⟩

theorem setReversing (b : Bool) : Lands (fun _ => True) (setReversing b) :=
  update fun _ hm => ⟨hm.bound, hm.crumbs⟩

theorem setLocation (l : Location) : Lands (fun _ => True) (setLocation l) :=
  update fun _ hm => ⟨hm.bound, hm.crumbs⟩

theorem store (t : Target) (ht : ∀ k ∈ t.path, k.Placed) {v : Value} (hv : v.Placed) :
    Lands (fun _ => True) (store t v) := by
  refine bind (V := fun b => b.crumb.Placed ∧ b.value.Placed) (query (fun m b hm hb => ?_)
    fun m e he => ?_) fun b hb => bind (record hb.1) fun _ _ => define _ _ hb.2
  · obtain ⟨bound, hlook, hstores⟩ := Target.rebinding_eq_ok hb
    exact hstores.carries Value.closed_placed (hm.bound _ _ _ hlook) ht hv
  · rcases Target.rebinding_eq_error he with he | ⟨owner, -, he⟩ | he
    · exact (Scopes.missing_of_owner he).lands
    · exact (Scopes.missing_of_get he).lands
    · exact he.lands

/-! ### Native functions -/

theorem native {host : Host} (hkeeps : host.Keeps Value.Placed)
    (hlands : ∀ key, (host.native key).Fails (fun _ => True) Failure.Lands) (code : NativeCode)
    (argc : Nat) : Lands Value.Placed (native (code.run host) argc) := by
  have hcode : (code.run host).Fails (fun _ => True) Failure.Lands := by
    cases code with
    | builtin b =>
      exact b.fails host.shell (fun _ _ h => absurd h (by simp))
        (fun _ he => (Scopes.missing_of_getLocal he).lands) (fun _ _ _ h => absurd h (by simp))
        fun _ _ _ _ h => absurd h (by simp)
    | host key => exact hlands key
  intro m r m' hm hr
  rw [Run.native] at hr
  split at hr
  · rename_i hv
    obtain ⟨rfl, rfl⟩ := Prod.mk.inj (Option.some.inj hr)
    have hbound := hm.bound
    exact ⟨⟨hm.bound, hm.crumbs⟩, Value.closed_placed.run hkeeps hbound hv⟩
  · rename_i he
    obtain ⟨rfl, rfl⟩ := fail_eq_some hr
    exact ⟨⟨hm.bound, hm.crumbs⟩, hcode _ _ _ _ trivial he⟩

end Lands

end Run

end Retrace
