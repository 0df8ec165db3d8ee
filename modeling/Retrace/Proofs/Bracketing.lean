import Retrace.Proofs.Assignment
import Retrace.Proofs.Contract
import Retrace.Proofs.Ledger
import Retrace.Proofs.Reversal

/-!
# What every run leaves as it was

However a run of a part of a program ends, it leaves the machine much as it
found it (`Bracketed`): the same scopes are live, with the same parents, the
same scope is being run in, calls are nested as deeply, as many skips are open,
and the ledger has only grown, by breadcrumbs that are no markers. So all that
remains of the run is what it bound, what it recorded, and what it did to the
outside world.

This is a contract (`bracketing`), and it is lawful for every discipline: the
values that get bound and recorded are only those the discipline allows. In a
skip all depends on the rollback, which runs statements while breadcrumbs are
being taken from the ledger. It never takes the marker away (`restoreAbove`),
as what it runs leaves the ledger it finds in place.

A run that gives a value is moreover *calm* (`Calm`): if a reversal is under way
at its end then it was all the time, and nothing was recorded.
-/

namespace Retrace

/-- Whether it is no marker, and what is recorded obeys a discipline. -/
def Breadcrumb.Obey (D : Discipline) : Breadcrumb → Prop
  | .marker _ => False
  | .binding _ _ previous => D.value previous
  | .entry _ _ path previous => (∀ k ∈ path, D.value k) ∧ D.value previous
  | .replay _ undo => D.stmt undo

theorem Rebinding.Stores.obey {D : Discipline} {b : Rebinding} {bound v : Value}
    {path : List Value} (h : b.Stores bound v path) (hbound : D.value bound)
    (hpath : ∀ k ∈ path, D.value k) (hv : D.value v) : b.crumb.Obey D ∧ D.value b.value := by
  obtain ⟨hcrumb, hvalue⟩ := h.carries (S := D.stmt) D.closed hbound hpath hv
  refine ⟨?_, hvalue⟩
  -- It is no marker that is recorded.
  cases h with
  | name => exact hcrumb
  | entry => exact hcrumb

/-- How the machine after a run is related to the one before. -/
structure Bracketed (D : Discipline) (m m' : Machine) : Prop where
  skeleton : m'.scopes.skeleton = m.scopes.skeleton
  nextSerial : m.scopes.nextSerial ≤ m'.scopes.nextSerial
  bound : m'.scopes.Obey D.value
  current : m'.current = m.current
  ledger : m.ledger.Extends (Breadcrumb.Obey D) m'.ledger
  settings : m'.settings = m.settings
  callDepth : m'.callDepth = m.callDepth

/-- If a reversal is under way in the end, it was so before, and nothing has been recorded. -/
def Calm (m m' : Machine) : Prop :=
  m'.reversing = true → m.reversing = true ∧ m'.ledger.crumbs = m.ledger.crumbs

variable {D : Discipline} {m m' m'' : Machine}

namespace Bracketed

theorem refl (h : m.scopes.Obey D.value) : Bracketed D m m :=
  ⟨rfl, Nat.le_refl _, h, rfl, .refl _, rfl, rfl⟩

theorem trans (h : Bracketed D m m') (h' : Bracketed D m' m'') : Bracketed D m m'' where
  skeleton := h'.skeleton.trans h.skeleton
  nextSerial := Nat.le_trans h.nextSerial h'.nextSerial
  bound := h'.bound
  current := h'.current.trans h.current
  ledger := h.ledger.trans h'.ledger
  settings := h'.settings.trans h.settings
  callDepth := h'.callDepth.trans h.callDepth

/-- A name is bound. -/
theorem define {ss : Scopes} {id : ScopeId} {name : String} {v : Value}
    (h : m.scopes.Obey D.value) (hv : D.value v) (hd : m.scopes.define id name v = .ok ss) :
    Bracketed D m { m with scopes := ss } where
  skeleton := Scopes.skeleton_define hd
  nextSerial := Nat.le_of_eq (Scopes.nextSerial_define hd).symm
  bound := h.define hv hd
  current := rfl
  ledger := .refl _
  settings := rfl
  callDepth := rfl

/-- The ledger is changed. -/
theorem withLedger {l : Ledger} (h : Bracketed D m m')
    (hl : m.ledger.Extends (Breadcrumb.Obey D) l) : Bracketed D m { m' with ledger := l } :=
  ⟨h.skeleton, h.nextSerial, h.bound, h.current, hl, h.settings, h.callDepth⟩

/-- A reversal begins or ends. -/
theorem withReversing (h : Bracketed D m m') (b : Bool) :
    Bracketed D m { m' with reversing := b } :=
  ⟨h.skeleton, h.nextSerial, h.bound, h.current, h.ledger, h.settings, h.callDepth⟩

/-- What is run in a new scope. -/
theorem leave {parent : ScopeId} (h : Bracketed D (m.enter parent) m') :
    Bracketed D m (m'.leave m) where
  skeleton := Scopes.skeleton_discard_push h.skeleton
  nextSerial := Nat.le_of_succ_le h.nextSerial
  bound := h.bound.discard _
  current := rfl
  ledger := h.ledger
  settings := h.settings
  callDepth := h.callDepth

/-- What is run as a call. -/
theorem leaveCall (h : Bracketed D m.enterCall m') :
    Bracketed D m { m'.leave m with callDepth := m'.callDepth - 1 } := by
  have hleave : Bracketed D { m with callDepth := m.callDepth + 1 } (m'.leave m) := h.leave
  have hdepth : m'.callDepth - 1 = m.callDepth := by
    rw [h.callDepth]
    rfl
  exact ⟨hleave.skeleton, hleave.nextSerial, hleave.bound, hleave.current, hleave.ledger,
    hleave.settings, hdepth⟩

end Bracketed

theorem Calm.refl (m : Machine) : Calm m m :=
  fun h => ⟨h, rfl⟩

theorem Calm.trans (h : Calm m m') (h' : Calm m' m'') : Calm m m'' := by
  intro hr
  obtain ⟨hr', hc'⟩ := h' hr
  obtain ⟨hr, hc⟩ := h hr'
  exact ⟨hr, hc'.trans hc⟩

variable (D) in
/-- The contract that every run brackets what it does to the machine. -/
def bracketing : Contract where
  discipline := D
  pre m := m.ledger.Tidy ∧ m.scopes.Obey D.value
  post m e m' := Bracketed D m m' ∧ (e = .value → Calm m m')
  bound h := h.2
  refl h := ⟨.refl h.2, fun _ => .refl _⟩
  fail h := ⟨.refl h.2, fun he => absurd he (by simp)⟩
  next h h' := ⟨h'.1.ledger.tidy h.1, h'.1.bound⟩
  trans _ h h' := ⟨h.1.trans h'.1, fun he => (h.2 rfl).trans (h'.2 he)⟩

namespace bracketing

variable {α : Type} {V : α → Prop} {x : Run α}

/-- A change of the machine that touches none of what is bracketed. -/
theorem meets_update {f : Machine → Machine}
    (h : ∀ m, (f m).scopes = m.scopes ∧ (f m).current = m.current ∧ (f m).ledger = m.ledger ∧
      (f m).settings = m.settings ∧ (f m).callDepth = m.callDepth ∧
      (f m).reversing = m.reversing) :
    (bracketing D).Meets (fun _ => True) (Run.update f) := by
  intro m r m' hm hr
  obtain ⟨rfl, rfl⟩ := Prod.mk.inj (Option.some.inj hr)
  obtain ⟨hs, hc, hl, hset, hd, hrev⟩ := h m
  refine ⟨⟨⟨?_, ?_, ?_, hc, ?_, hset, hd⟩, fun _ hr => ?_⟩, trivial⟩
  · rw [hs]
  · exact Nat.le_of_eq (by rw [hs])
  · rw [hs]
    exact hm.2
  · rw [hl]
    exact .refl _
  · rw [hl]
    exact ⟨hrev ▸ hr, rfl⟩

theorem meets_define (scope : ScopeId) (name : String) {v : Value} (hv : D.value v) :
    (bracketing D).Meets (fun _ => True) (Run.define scope name v) := by
  intro m r m' hm hr
  obtain ⟨ss, hd, rfl, rfl⟩ | ⟨e, rfl, rfl, -⟩ := Run.updateScopes_eq_some hr
  · exact ⟨⟨.define hm.2 hv hd, fun _ h => ⟨h, rfl⟩⟩, trivial⟩
  · exact ⟨(bracketing D).fail hm, trivial⟩

theorem meets_record {c : Breadcrumb} (hc : c.Obey D) :
    (bracketing D).Meets (fun _ => True) (Run.record c) := by
  intro m r m' hm hr
  obtain ⟨-, rfl, rfl⟩ | ⟨l, hrev, hl, rfl, rfl⟩ | ⟨e, rfl, rfl, -⟩ := Run.record_eq_some hr
  · exact ⟨(bracketing D).refl hm, trivial⟩
  · refine ⟨⟨(Bracketed.refl hm.2).withLedger (.record hc hl), fun _ h => ?_⟩, trivial⟩
    exact absurd (hrev.symm.trans h) (by simp)
  · exact ⟨(bracketing D).fail hm, trivial⟩

theorem meets_store (t : Target) {v : Value} (hpath : ∀ k ∈ t.path, D.value k)
    (hv : D.value v) : (bracketing D).Meets (fun _ => True) (Run.store t v) := by
  refine .bind (V := fun b => b.crumb.Obey D ∧ D.value b.value) (.query fun m b hm hb => ?_)
    fun b hb => .bind (meets_record hb.1) fun _ _ => meets_define _ _ hb.2
  obtain ⟨bound, hlook, hb⟩ := Target.rebinding_eq_ok hb
  exact hb.obey (hm.2 _ _ _ hlook) hpath hv

theorem pre_enter (hm : (bracketing D).pre m) (parent : ScopeId) :
    (bracketing D).pre (m.enter parent) :=
  ⟨hm.1, hm.2.push parent⟩

theorem pre_enterCall (hm : (bracketing D).pre m) : (bracketing D).pre m.enterCall :=
  ⟨hm.1, hm.2.push _⟩

theorem meets_inBlock (hx : (bracketing D).Meets V x) :
    (bracketing D).Meets V (Run.inBlock x) := by
  intro m r m' hm hr
  obtain ⟨m₁, hr₁, rfl⟩ := Run.inBlock_eq_some hr
  obtain ⟨⟨hb, hcalm⟩, hV⟩ := hx _ r m₁ (pre_enter hm _) hr₁
  exact ⟨⟨hb.leave, hcalm⟩, hV⟩

theorem meets_inCall (hx : (bracketing D).Meets V x) :
    (bracketing D).Meets V (Run.inCall x) := by
  intro m r m' hm hr
  obtain ⟨rfl, rfl⟩ | ⟨m₁, -, hr₁, rfl⟩ := Run.inCall_eq_some hr
  · exact ⟨(bracketing D).fail hm, trivial⟩
  · obtain ⟨⟨hb, hcalm⟩, hV⟩ := hx _ r m₁ (pre_enterCall hm) hr₁
    exact ⟨⟨hb.leaveCall, hcalm⟩, hV⟩

/-! ### Rollbacks -/

section Rollback

variable {r : Evaluator} (hr : r.Satisfies (bracketing D)) {marker : Marker}
  {enclosing : ScopeId}

theorem meets_whenRestorable {scope : ScopeId} {x : Run Unit}
    (hx : (bracketing D).Meets (fun _ => True) x) :
    (bracketing D).Meets (fun _ => True) (Run.whenRestorable marker scope x) := by
  refine .bind (V := fun _ => True) (.query fun _ _ _ _ => trivial) fun b _ => ?_
  cases b with
  | true => exact hx
  | false => exact .pure trivial

theorem meets_restoreEntry {scope : ScopeId} {name : String} {path : List Value}
    {previous : Value} (hpath : ∀ k ∈ path, D.value k) (hprevious : D.value previous) :
    (bracketing D).Meets (fun _ => True)
      (Run.updateScopes fun ss => ss.restoreEntry scope name path previous) := by
  intro m r m' hm hr
  obtain ⟨ss, hss, rfl, rfl⟩ | ⟨e, rfl, rfl, -⟩ := Run.updateScopes_eq_some hr
  · obtain ⟨key, value, bound, updated, rfl, hlook, hu, hd⟩ := Scopes.restoreEntry_eq_ok hss
    obtain ⟨hkey, hvalue⟩ := D.pair.1 hprevious
    have hpath' := List.forall_mem_append.2 ⟨hpath, List.forall_mem_singleton.2 hkey⟩
    have hupdated := D.closed.updatePath (hm.2 _ _ _ hlook) hpath' hvalue hu
    exact ⟨⟨.define hm.2 hupdated hd, fun _ h => ⟨h, rfl⟩⟩, trivial⟩
  · exact ⟨(bracketing D).fail hm, trivial⟩

include hr

theorem meets_replay (scope : ScopeId) {undo : Stmt} (hundo : D.stmt undo) :
    (bracketing D).Meets (fun _ => True) (r.replay scope undo) := by
  intro m x m' hm hx
  rcases Run.bind_eq_some hx with ⟨x₁, m₁, hx₁, hx⟩ | ⟨e, he, -⟩
  · obtain ⟨x₂, h, hx₂⟩ := Run.attempt_eq_some hx₁
    obtain rfl := Except.ok.inj h
    obtain ⟨m₂, hexec, rfl⟩ := Run.inScope_eq_some hx₂
    -- The statement is run in another scope, which is left again however it ends.
    obtain ⟨⟨hb, hcalm⟩, -⟩ := hr.exec undo hundo { m with current := scope } _ m₂ hm hexec
    have hb' : Bracketed D m { m₂ with current := m.current } :=
      ⟨hb.skeleton, hb.nextSerial, hb.bound, rfl, hb.ledger, hb.settings, hb.callDepth⟩
    -- However the statement ended, unless it did so normally the replay fails.
    split at hx
    · obtain ⟨rfl, rfl⟩ := Run.pure_eq_some hx
      exact ⟨⟨hb', fun _ => hcalm rfl⟩, trivial⟩
    all_goals
      obtain ⟨rfl, rfl⟩ := Run.fail_eq_some hx
      exact ⟨⟨hb', fun h => absurd h (by simp [Ending.of])⟩, trivial⟩
  · obtain ⟨_, h, -⟩ := Run.attempt_eq_some he
    exact absurd h (by simp)

/-- Restoring a breadcrumb brackets what it does, even if it runs a statement. -/
theorem meets_restore {c : Breadcrumb} (hc : c.Obey D) :
    (bracketing D).Meets (fun _ => True) (r.restore marker enclosing c) := by
  cases c with
  | marker => exact absurd hc id
  | binding scope name previous => exact meets_whenRestorable (meets_define scope name hc)
  | entry scope name path previous =>
    exact meets_whenRestorable (meets_restoreEntry hc.1 hc.2)
  | replay scope undo =>
    refine .bind (V := fun _ => True) (.query fun _ _ _ _ => trivial) fun b _ => ?_
    cases b with
    | true => exact meets_replay hr scope hc
    | false => exact meets_replay hr enclosing hc

section

variable {m₁ : Machine} (hm₁ : (bracketing D).pre m₁)
  (hmarker : ∃ cs, m₁.ledger.crumbs = .marker marker :: cs) (hb : Bracketed D m₁ m)
include hm₁ hmarker hb

/-- A breadcrumb is taken from above the marker and restored, even if that fails. -/
theorem popAbove {c : Breadcrumb} {l : Ledger} (hpop : m.ledger.popAbove marker = some (c, l))
    {x : Except Stop Unit}
    (hx : r.restore marker enclosing c { m with ledger := l } = some (x, m')) :
    Bracketed D m₁ m' := by
  obtain ⟨hc, hl⟩ := hb.ledger.popAbove hmarker hpop
  have hpre : (bracketing D).pre { m with ledger := l } := ⟨hl.tidy hm₁.1, hb.bound⟩
  obtain ⟨⟨hb', -⟩, -⟩ := meets_restore hr hc _ _ m' hpre hx
  exact (hb.withLedger hl).trans hb'

/-- In a rollback the marker stays where it is. -/
theorem restores {cs : List Breadcrumb} (h : r.Restores marker enclosing m cs m') :
    Bracketed D m₁ m' := by
  -- What is kept up is that the ledger extends the one with the marker on top.
  induction h with
  | nil => exact hb
  | cons hpop hrestore _ ih => exact ih (popAbove hr hm₁ hmarker hb hpop hrestore)

/-- A rollback takes away all above the marker, unless a failure prevents it. -/
theorem restoreAbove {n : Nat} {x : Except Stop Unit}
    (hx : r.restoreAbove marker enclosing n m = some (x, m')) :
    Bracketed D m₁ m' ∧ (x = .ok () → m'.ledger.crumbs = m₁.ledger.crumbs) := by
  obtain ⟨cs, m₂, hcs, -, hend⟩ := r.restores_of_restoreAbove hx
  have hb₂ := restores hr hm₁ hmarker hb hcs
  obtain ⟨rfl, rfl, hpop⟩ | ⟨c, l, e, rfl, hpop, hrestore⟩ := hend
  · exact ⟨hb₂, fun _ => hb₂.ledger.eq_of_popAbove hmarker id hpop⟩
  · exact ⟨popAbove hr hm₁ hmarker hb₂ hpop hrestore, fun h => absurd h (by simp)⟩

end

end Rollback

/-! ### Skips -/

section Skip

variable {r : Evaluator} (hr : r.Satisfies (bracketing D))
include hr

/-- A seize that takes a reversal ends it. -/
theorem seize {b : Block} (hstmts : ∀ s ∈ b, D.stmt s) (hm : (bracketing D).pre m)
    {x : Except Stop Flow} (hx : r.seize b m = some (x, m')) :
    Bracketed D m m' ∧ (bracketing D).Allows (Flow.Obey D.value) x ∧
      (Ending.of x = .value → m'.reversing = false) := by
  have hx' : r.block b { m with reversing := false } = some (x, m') := hx
  have hblock := meets_inBlock (hr.execAll hstmts)
  obtain ⟨⟨hb, hcalm⟩, hV⟩ := hblock { m with reversing := false } _ m' hm hx'
  have hm' : Bracketed D m { m with reversing := false } := (Bracketed.refl hm.2).withReversing _
  refine ⟨hm'.trans hb, hV, fun he => Bool.eq_false_iff.2 fun hrev => ?_⟩
  exact absurd (hcalm he hrev).1 (by simp)

/-- When a reversal is dispatched it is over, unless no seize takes it. -/
theorem dispatch {payload : Value} (hpayload : D.value payload) {kept : Option Block}
    {seizes : List Seize} (hkept : ∀ s ∈ kept.getD [], D.stmt s)
    (hseizes : ∀ c ∈ seizes, ∀ s ∈ c.body, D.stmt s) (hm : (bracketing D).pre m)
    {x : Except Stop Flow} (hx : r.dispatch payload kept seizes m = some (x, m')) :
    Bracketed D m m' ∧ (bracketing D).Allows (Flow.Obey D.value) x ∧
      (Ending.of x = .value → m'.reversing = false) := by
  induction seizes generalizing kept m with
  | nil =>
    cases kept with
    | some b => exact seize hr hkept hm hx
    | none =>
      obtain ⟨rfl, rfl⟩ := Run.stop_eq_some hx
      exact ⟨.refl hm.2, hpayload, fun h => absurd h (by simp [Ending.of])⟩
  | cons c seizes ih =>
    obtain ⟨pattern, b⟩ := c
    obtain ⟨hc, hrest⟩ := List.forall_mem_cons.1 hseizes
    cases pattern with
    | none =>
      rw [Evaluator.dispatch] at hx
      -- A seize without a pattern waits until all the others have been tried.
      refine ih ?_ hrest hm hx
      cases kept with
      | none => exact hc
      | some kept => exact hkept
    | some pattern =>
      rw [Evaluator.dispatch] at hx
      rcases Run.bind_eq_some hx with ⟨v, m₁, hv, hx⟩ | ⟨e, hv, rfl⟩
      · obtain ⟨⟨hb, hcalm⟩, -⟩ := hr.eval pattern m _ m₁ hm hv
        have hm₁ := (bracketing D).next hm ⟨hb, hcalm⟩
        split at hx
        · obtain ⟨hb', h⟩ := seize hr hc hm₁ hx
          exact ⟨hb.trans hb', h⟩
        · obtain ⟨hb', h⟩ := ih hkept hrest hm₁ hx
          exact ⟨hb.trans hb', h⟩
      · obtain ⟨⟨hb, -⟩, hV⟩ := hr.eval pattern m _ m' hm hv
        cases e with
        | reversal payload => exact ⟨hb, hV, fun h => absurd h (by simp [Ending.of])⟩
        | failure e => exact ⟨hb, trivial, fun h => absurd h (by simp [Ending.of])⟩

end Skip

section Open

variable {marker : Marker} {l : Ledger}
  (hl : m.ledger.openSkip m.scopes.nextSerial = .ok (marker, l))
include hl

theorem pre_open (hm : (bracketing D).pre m) : (bracketing D).pre { m with ledger := l } :=
  ⟨Ledger.tidy_of_openSkip hl, hm.2⟩

variable (hm : (bracketing D).pre m) (hb : Bracketed D { m with ledger := l } m')
include hm hb

theorem closeSkip : Bracketed D m (m'.closeSkip marker) :=
  ⟨hb.skeleton, hb.nextSerial, hb.bound, hb.current, hb.ledger.close hl id hm.1, hb.settings,
    hb.callDepth⟩

/-- A skip whose breadcrumbs are dropped leaves the ledger as it was. -/
theorem ledger_discardSkip :
    (m'.discardSkip marker).ledger = { m.ledger with nextMarker := m'.ledger.nextMarker } :=
  hb.ledger.discard hl id hm.1

theorem discardSkip : Bracketed D m (m'.discardSkip marker) := by
  refine ⟨hb.skeleton, hb.nextSerial, hb.bound, hb.current, ?_, hb.settings, hb.callDepth⟩
  -- Nothing is added, not even by what was run inside the skip.
  rw [ledger_discardSkip hl hm hb]
  exact ⟨rfl, rfl, [], rfl, fun _ h => absurd h List.not_mem_nil, fun _ => rfl⟩

end Open

theorem meets_skip {r : Evaluator} (hr : r.Satisfies (bracketing D)) {body : Block}
    {seizes : List Seize} (hbody : ∀ s ∈ body, D.stmt s)
    (hseizes : ∀ c ∈ seizes, ∀ s ∈ c.body, D.stmt s) :
    (bracketing D).Meets (Flow.Obey D.value) (r.skip body seizes) := by
  have hblock := meets_inBlock (hr.execAll hbody)
  intro m x m' hm hx
  cases r.skipped hx with
  | full => exact ⟨(bracketing D).fail hm, trivial⟩
  | returned hl h =>
    obtain ⟨⟨hb, hcalm⟩, hV⟩ := hblock _ _ _ (pre_open hl hm) h
    refine ⟨⟨discardSkip hl hm hb, fun _ hrev => ⟨(hcalm rfl hrev).1, ?_⟩⟩, hV⟩
    rw [ledger_discardSkip hl hm hb]
  | closed hl h hflow =>
    obtain ⟨⟨hb, hcalm⟩, hV⟩ := hblock _ _ _ (pre_open hl hm) h
    refine ⟨⟨closeSkip hl hm hb, fun _ hrev => ⟨(hcalm rfl hrev).1, ?_⟩⟩, hV⟩
    -- Nothing was recorded above the marker, which is what is taken out.
    have hcrumbs := (hcalm rfl hrev).2.trans (Ledger.openSkip_eq_ok hl).2.1
    rw [← List.nil_append (_ :: _)] at hcrumbs
    refine (hb.ledger.crumbs_close hl id hcrumbs).trans ?_
    split
    · exact (hm.1 ‹_›).symm
    · rfl
  | failed hl h =>
    obtain ⟨⟨hb, -⟩, -⟩ := hblock _ _ _ (pre_open hl hm) h
    exact ⟨⟨discardSkip hl hm hb, fun h => absurd h (by simp [Ending.of])⟩, trivial⟩
  | stuck hl h hroll =>
    obtain ⟨⟨hb, -⟩, -⟩ := hblock _ _ _ (pre_open hl hm) h
    obtain ⟨hb', -⟩ := restoreAbove hr (pre_open hl hm) ⟨_, (Ledger.openSkip_eq_ok hl).2.1⟩ hb hroll
    exact ⟨⟨discardSkip hl hm hb', fun h => absurd h (by simp [Ending.of])⟩, trivial⟩
  | reversed hl h hroll hdispatch =>
    obtain ⟨⟨hb, -⟩, hpayload⟩ := hblock _ _ _ (pre_open hl hm) h
    obtain ⟨hb', -⟩ := restoreAbove hr (pre_open hl hm) ⟨_, (Ledger.openSkip_eq_ok hl).2.1⟩ hb hroll
    have hb₃ := closeSkip hl hm hb'
    have hm₃ : (bracketing D).pre _ := ⟨hb₃.ledger.tidy hm.1, hb₃.bound⟩
    obtain ⟨hb₄, hV, hcalm⟩ := dispatch hr hpayload (fun _ h => absurd h List.not_mem_nil) hseizes
      hm₃ hdispatch
    refine ⟨⟨hb₃.trans hb₄, fun he hrev => ?_⟩, hV⟩
    exact absurd ((hcalm he).symm.trans hrev) (by simp)

/-- Bracketing is lawful. -/
theorem lawful {host : Host} (hhost : host.Keeps D.value) : (bracketing D).Lawful host where
  keeps := hhost
  declare name v hv :=
    .bind (V := fun _ => True) (.read fun _ => trivial) fun scope _ => meets_define scope name hv
  store := meets_store
  record h := by
    refine .bind (V := fun _ => True) (.read fun _ => trivial) fun scope _ => meets_record ?_
    exact D.parts h _ (List.mem_singleton_self _)
  locate l := meets_update fun _ => ⟨rfl, rfl, rfl, rfl, rfl, rfl⟩
  surround {m e} s hm _ :=
    ⟨⟨rfl, Nat.le_refl _, hm.2, rfl, .refl _, rfl, rfl⟩, fun _ h => ⟨h, rfl⟩⟩
  reverse hm := ⟨(Bracketed.refl hm.2).withReversing true, fun h => absurd h (by simp)⟩
  inBlock := meets_inBlock
  inCall := meets_inCall
  skip fuel body seizes l hr hs := by
    obtain ⟨hbody, hseizes⟩ := List.forall_mem_append.1 (D.parts hs)
    exact meets_skip hr hbody fun c hc s hs => hseizes s (List.mem_flatMap.2 ⟨c, hc, hs⟩)

end bracketing

end Retrace
