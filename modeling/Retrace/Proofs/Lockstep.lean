import Retrace.Proofs.Lead
import Retrace.Proofs.Natives
import Retrace.Proofs.Pervasive

/-!
# Runs in lockstep

Two machines correspond if one is ahead of the other (`Machine.Ahead`): what is live, bound and
recorded in it corresponds to what is in the other one. A run from both goes on in *lockstep*
(`Run.Lockstep`): it ends in the same way in both, and the machines after it correspond again.
Neither the serial numbers nor the numbers of the markers are of any account.

If there is more room in the machine that is ahead, the run may go on there where it fails in
the other one. Then no more is said of it (`Run.InStep.exceeded`). But a run that has failed
fails to the end: no seize takes a failure, and a rollback only makes another failure of it. So
whatever does not fail with less room does the same with more.

For all this the handles that are used have to be live (`Machine.Steady`), and those that are
recorded live or yet to come; this is what a run keeps (`Machine.Kept`).
-/

namespace Retrace

namespace Machine

variable {k : Lead} {m m' m₁ m₁' m₂ m₂' : Machine} {parent : ScopeId}

/-- The scopes are in order, the one that is being run in is live, and the ledger is tidy. -/
structure Steady (m : Machine) : Prop where
  tidy : m.ledger.Tidy
  scopes : m.scopes.Orderly
  live : m.scopes.contains m.current

/-- How a run leaves a machine. -/
structure Kept (m m₁ : Machine) : Prop where
  bracketed : Bracketed .any m m₁
  anchors : Anchors True m m₁

/-- The machine `m'` corresponds to `m`, but for where the statement stands that was begun
    last. -/
structure Ahead (k : Lead) (m m' : Machine) : Prop where
  scopes : Scopes.Ahead k m.scopes m'.scopes
  current : m'.current = k.handle m.current
  ledger : m'.ledger = k.ledger m.ledger
  surroundings : m'.surroundings = m.surroundings
  settings : m'.settings = k.settings m.settings
  reversing : m'.reversing = m.reversing
  callDepth : m'.callDepth = m.callDepth

/-- Whether from `m` to `m₁` and from `m'` to `m₁'` the same statement was begun last, or none. -/
def SameCourse (m m₁ m' m₁' : Machine) : Prop :=
  m₁'.location = m₁.location ∨ m₁.location = m.location ∧ m₁'.location = m'.location

theorem SameCourse.refl (m m' : Machine) : SameCourse m m m' m' :=
  .inr ⟨rfl, rfl⟩

theorem SameCourse.trans (h : SameCourse m m₁ m' m₁') (h' : SameCourse m₁ m₂ m₁' m₂') :
    SameCourse m m₂ m' m₂' := by
  rcases h' with h' | ⟨h₂, h₂'⟩
  · exact .inl h'
  · rw [SameCourse, h₂, h₂']
    exact h

namespace Kept

theorem of_same (hscopes : m₁.scopes = m.scopes) (hcurrent : m₁.current = m.current)
    (hledger : m₁.ledger = m.ledger) (hsettings : m₁.settings = m.settings)
    (hdepth : m₁.callDepth = m.callDepth) : m.Kept m₁ where
  bracketed := by
    refine ⟨?_, ?_, fun _ _ _ _ => trivial, hcurrent, ?_, hsettings, hdepth⟩
    · rw [hscopes]
    · exact Nat.le_of_eq (by rw [hscopes])
    · rw [hledger]
      exact .refl _
  anchors := .of_look (by rw [hledger]) fun _ _ h => by rwa [hscopes]

theorem refl (m : Machine) : m.Kept m :=
  of_same rfl rfl rfl rfl rfl

theorem trans (h : m.Kept m₁) (h' : m₁.Kept m₂) : m.Kept m₂ :=
  ⟨h.bracketed.trans h'.bracketed, h.anchors.trans h'.anchors h.bracketed h'.bracketed⟩

theorem define {ss : Scopes} {id : ScopeId} {name : String} {v : Value}
    (hd : m.scopes.define id name v = .ok ss) : m.Kept { m with scopes := ss } :=
  ⟨.define (fun _ _ _ _ => trivial) trivial hd, .define (l := m.ledger) rfl hd⟩

/-- What is run in a new scope. -/
theorem leave (h : (m.enter parent).Kept m₁) : m.Kept (m₁.leave m) :=
  ⟨h.bracketed.leave, h.anchors.leave h.bracketed⟩

/-- What is run as a call. -/
theorem leaveCall (h : m.enterCall.Kept m₁) :
    m.Kept { m₁.leave m with callDepth := m₁.callDepth - 1 } :=
  ⟨h.bracketed.leaveCall, h.anchors.leaveCall h.bracketed⟩

section Open

variable {marker : Marker} {l : Ledger}
  (hl : m.ledger.openSkip m.scopes.nextSerial = .ok (marker, l)) (hm : m.ledger.Tidy)
  (h : { m with ledger := l }.Kept m₁)
include hl hm h

theorem closeSkip : m.Kept (m₁.closeSkip marker) :=
  have hpre : (bracketing .any).pre m := ⟨hm, fun _ _ _ _ => trivial⟩
  ⟨bracketing.closeSkip hl hpre h.bracketed, h.anchors.closeSkip hl hpre h.bracketed⟩

theorem discardSkip : m.Kept (m₁.discardSkip marker) :=
  have hpre : (bracketing .any).pre m := ⟨hm, fun _ _ _ _ => trivial⟩
  ⟨bracketing.discardSkip hl hpre h.bracketed, h.anchors.discardSkip hl hpre h.bracketed⟩

end Open

end Kept

namespace Steady

theorem of_kept (h : m.Steady) (hkept : m.Kept m₁) : m₁.Steady where
  tidy := hkept.bracketed.ledger.tidy h.tidy
  scopes := h.scopes.congr hkept.bracketed.skeleton hkept.bracketed.nextSerial
  live := by
    rw [Scopes.contains_congr hkept.bracketed.skeleton, hkept.bracketed.current]
    exact h.live

theorem enter (h : m.Steady) (hparent : m.scopes.contains parent) : (m.enter parent).Steady :=
  ⟨h.tidy, h.scopes.push hparent, Scopes.contains_push_self m.scopes parent⟩

theorem enterCall (h : m.Steady) : m.enterCall.Steady :=
  have h' : { m with callDepth := m.callDepth + 1 }.Steady := ⟨h.tidy, h.scopes, h.live⟩
  h'.enter h.scopes.rooted.global

theorem openSkip (h : m.Steady) {marker : Marker} {l : Ledger}
    (hl : m.ledger.openSkip m.scopes.nextSerial = .ok (marker, l)) :
    { m with ledger := l }.Steady :=
  ⟨Ledger.tidy_of_openSkip hl, h.scopes, h.live⟩

end Steady

namespace Ahead

theorem enter (h : m.Ahead k m') (hserial : 0 < m.scopes.nextSerial) (parent : ScopeId) :
    (m.enter parent).Ahead k (m'.enter (k.handle parent)) :=
  have hpush := h.scopes.push hserial parent
  { h with scopes := hpush.2, current := hpush.1 }

theorem enterCall (h : m.Ahead k m') (hserial : 0 < m.scopes.nextSerial) :
    m.enterCall.Ahead k m'.enterCall :=
  have h' : Ahead k { m with callDepth := m.callDepth + 1 }
      { m' with callDepth := m'.callDepth + 1 } :=
    { h with callDepth := congrArg Nat.succ h.callDepth }
  h'.enter hserial Scopes.global

theorem leave (h : m.Ahead k m') (h₁ : m₁.Ahead k m₁') : (m₁.leave m).Ahead k (m₁'.leave m') :=
  { h₁ with scopes := h₁.scopes.discard _ _ h.scopes.size, current := h.current }

theorem withLedger (h : m.Ahead k m') (l : Ledger) :
    Ahead k { m with ledger := l } { m' with ledger := k.ledger l } :=
  { h with ledger := rfl }

theorem closeSkip (h : m.Ahead k m') (marker : Marker) :
    (m.closeSkip marker).Ahead k (m'.closeSkip (k.marker marker)) := by
  refine { h with ledger := ?_ }
  rw [Machine.closeSkip, h.ledger, Lead.close_ledger]
  rfl

theorem discardSkip (h : m.Ahead k m') (marker : Marker) :
    (m.discardSkip marker).Ahead k (m'.discardSkip (k.marker marker)) := by
  refine { h with ledger := ?_ }
  rw [Machine.discardSkip, h.ledger, Lead.discard_ledger]
  rfl

end Ahead

end Machine

namespace Run

open Machine (SameCourse)

variable {α β : Type} {k : Lead} {m m' m₁ m₁' : Machine}

/-- How a run ends from two machines of which the second is ahead. -/
inductive InStep (k : Lead) (m m' : Machine) :
    Option (Except Stop α × Machine) → Option (Except Stop α × Machine) → Prop
  | ended {r : Except Stop α} {m₁ m₁' : Machine} : m.Kept m₁ → m₁.Ahead k m₁' →
      SameCourse m m₁ m' m₁' → InStep k m m' (some (r, m₁)) (some (r, m₁'))
  /-- There may have been too little room in the first one only. -/
  | exceeded {e : Failure} {m₁ : Machine} {o : Option (Except Stop α × Machine)} : k.Roomier →
      InStep k m m' (some (.error (.failure e), m₁)) o
  | starved : InStep k m m' none none

namespace InStep

variable {o o' : Option (Except Stop α × Machine)}

theorem same (h : m.Ahead k m') (r : Except Stop α) :
    InStep k m m' (some (r, m)) (some (r, m')) :=
  .ended (.refl m) h (.refl m m')

theorem trans (hkept : m.Kept m₁) (hcourse : SameCourse m m₁ m' m₁')
    (h : InStep k m₁ m₁' o o') : InStep k m m' o o' := by
  cases h with
  | ended hkept' h hcourse' => exact .ended (hkept.trans hkept') h (hcourse.trans hcourse')
  | exceeded hk => exact .exceeded hk
  | starved => exact .starved

theorem bind {x x' : Run α} {f f' : α → Run β} (hx : InStep k m m' (x m) (x' m'))
    (hf : ∀ a m₁ m₁', m.Kept m₁ → m₁.Ahead k m₁' → InStep k m₁ m₁' (f a m₁) (f' a m₁')) :
    InStep k m m' ((x >>= f) m) ((x' >>= f') m') := by
  rw [bind_apply, bind_apply]
  generalize x m = o, x' m' = o' at hx ⊢
  cases hx with
  | @ended r m₁ m₁' hkept h hcourse =>
    cases r with
    | ok a => exact (hf a m₁ m₁' hkept h).trans hkept hcourse
    | error e => exact .ended hkept h hcourse
  | exceeded hk => exact .exceeded hk
  | starved => exact .starved

/-- Both machines are changed afterwards, in corresponding ways. -/
theorem map {n n' : Machine} (h : InStep k n n' o o') (f f' : Machine → Machine)
    (hf : ∀ m₁ m₁', n.Kept m₁ → m₁.Ahead k m₁' → SameCourse n m₁ n' m₁' →
      m.Kept (f m₁) ∧ (f m₁).Ahead k (f' m₁') ∧ SameCourse m (f m₁) m' (f' m₁')) :
    InStep k m m' (o.map fun p => (p.1, f p.2)) (o'.map fun p => (p.1, f' p.2)) := by
  cases h with
  | ended hkept h hcourse =>
    obtain ⟨hkept', h', hcourse'⟩ := hf _ _ hkept h hcourse
    exact .ended hkept' h' hcourse'
  | exceeded hk => exact .exceeded hk
  | starved => exact .starved

end InStep

/-- From any two machines of which the second is ahead the run goes on in the same way. -/
def Lockstep (k : Lead) (x : Run α) : Prop :=
  ∀ m m', m.Steady → m.Ahead k m' → InStep k m m' (x m) (x m')

/-! ### Single steps -/

section Step

variable (hm : m.Steady) (h : m.Ahead k m')
include h

/-- Handles correspond, wherever they come from. -/
theorem inStep_define {id : ScopeId} (hid : m.scopes.contains id) (name : String) (v : Value) :
    InStep k m m' (define id name v m) (define (k.handle id) name v m') := by
  have hd := Scopes.define_eq hid name v
  obtain ⟨tt', hd', ht⟩ := h.scopes.define hd
  have hrun := updateScopes_eq (f := fun ss => ss.define id name v) hd
  have hrun' := updateScopes_eq (f := fun ss => ss.define (k.handle id) name v) hd'
  rw [define, define, hrun, hrun']
  exact .ended (.define hd) { h with scopes := ht } (.refl m m')

theorem inStep_record {c : Breadcrumb} (hobey : c.Obey .any)
    (hc : c.Anchored True m.scopes m.scopes) :
    InStep k m m' (record c m) (record (k.crumb c) m') := by
  rw [record, record, h.ledger]
  by_cases hreversing : m.reversing = true
  · rw [if_pos hreversing, if_pos (h.reversing.trans hreversing)]
    exact .same h _
  · rw [if_neg hreversing, if_neg (h.reversing ▸ hreversing)]
    cases hl : m.ledger.record c with
    | ok l =>
      rw [Lead.record_ledger hl]
      refine .ended ⟨?_, .record hl hc fun _ _ hbound => hbound⟩ (h.withLedger l) (.refl m m')
      exact (Bracketed.refl fun _ _ _ _ => trivial).withLedger (.record hobey hl)
    | error e =>
      -- Only if there is less room in the first machine the second one is not as full.
      by_cases hk : k.Roomier
      · exact .exceeded hk
      · rw [Lead.record_ledger_error hk hl]
        exact .same h _

include hm

theorem inStep_store (t : Target) (v : Value) :
    InStep k m m' (store t v m) (store t v m') := by
  have hrun : ∀ m₁, store t v m₁ = match t.rebinding m₁.scopes m₁.current v with
      | .ok b => (record b.crumb >>= fun _ => define b.owner b.name b.value) m₁
      | .error e => fail e m₁ := by
    intro m₁
    rw [store, bind_apply, query]
    cases t.rebinding m₁.scopes m₁.current v <;> rfl
  rw [hrun, hrun, h.current, h.scopes.rebinding hm.scopes hm.live]
  cases hb : t.rebinding m.scopes m.current v with
  | error e => exact .same h _
  | ok b =>
    obtain ⟨bound, hlook, hstores⟩ := Target.rebinding_eq_ok hb
    have hobey := (hstores.obey (D := .any) trivial (fun _ _ => trivial) trivial).1
    have hanchored : b.crumb.Anchored True m.scopes m.scopes :=
      hstores.anchored hlook (by rw [hlook]; rfl)
    refine .bind (inStep_record h hobey hanchored) fun _ m₁ m₁' hkept h₁ => ?_
    refine inStep_define h₁ ?_ b.name b.value
    rw [Scopes.contains_congr hkept.bracketed.skeleton]
    exact Scopes.contains_of_look hlook

theorem inStep_native {host : Host} (hhost : host.Secluded)
    (hlimits : k.Roomier → host.IgnoresLimits) (code : NativeCode) (argc : Nat) :
    InStep k m m' (native (code.run host) argc m) (native (code.run host) argc m') := by
  have hrun : code.run host ⟨m'.scopes, m'.current, argc, m'.settings⟩ m'.surroundings =
      code.run host ⟨m.scopes, m.current, argc, m.settings⟩ m.surroundings := by
    have halike : NativeCall.Alike ⟨m.scopes, m.current, argc, k.settings m.settings⟩
        ⟨m'.scopes, m'.current, argc, m'.settings⟩ :=
      ⟨fun name => h.current ▸ h.scopes.getLocal hm.live name, rfl, h.settings⟩
    rw [hhost.run code _ _ _ halike, h.surroundings]
    by_cases hk : k.Roomier
    · exact (hlimits hk).run code ⟨m.scopes, m.current, argc, m.settings⟩ _ _ _
    · rw [Lead.settings_eq hk]
  have hended : ∀ (r : Except Stop Value) s, InStep k m m' (some (r, { m with surroundings := s }))
      (some (r, { m' with surroundings := s })) := fun r s =>
    .ended (.of_same rfl rfl rfl rfl rfl) { h with surroundings := rfl } (.refl m m')
  rw [native, native, hrun]
  rcases code.run host ⟨m.scopes, m.current, argc, m.settings⟩ m.surroundings with ⟨e | v, s⟩
  · exact hended _ s
  · exact hended _ s

end Step

namespace Lockstep

theorem query {f : Machine → Except Failure α}
    (hf : ∀ m m', m.Steady → m.Ahead k m' → f m' = f m) : Lockstep k (query f) := by
  intro m m' hm h
  rw [Run.query, Run.query, hf m m' hm h]
  cases f m with
  | ok a => exact .same h _
  | error e => exact .same h _

/-! ### Blocks and calls -/

theorem inBlock {x : Run α} (hx : Lockstep k x) : Lockstep k (inBlock x) := by
  intro m m' hm h
  have hrun : ∀ m₁ : Machine, Run.inBlock x m₁ = Run.inNewScope m₁.current x m₁ := fun _ => rfl
  rw [hrun, hrun, inNewScope_apply, inNewScope_apply, h.current]
  have henter := h.enter hm.scopes.nextSerial_pos m.current
  exact (hx _ _ (hm.enter hm.live) henter).map (·.leave m) (·.leave m')
    fun m₁ m₁' hkept h₁ hcourse => ⟨hkept.leave, h.leave h₁, hcourse⟩

theorem inCall {x : Run α} (hx : Lockstep k x) : Lockstep k (inCall x) := by
  intro m m' hm h
  rw [inCall_apply, inCall_apply, h.callDepth, h.settings]
  by_cases hdepth : m.settings.maxCallDepth ≤ m.callDepth
  · rw [if_pos hdepth]
    by_cases hk : k.Roomier
    · exact .exceeded hk
    · rw [Lead.settings_eq hk, if_pos hdepth]
      exact .same h _
  · have hdepth' : ¬(k.settings m.settings).maxCallDepth ≤ m.callDepth := by
      simp only [Lead.settings]
      omega
    rw [if_neg hdepth, if_neg hdepth']
    have henter := h.enterCall hm.scopes.nextSerial_pos
    refine (hx _ _ hm.enterCall henter).map
      (fun m₁ => { m₁.leave m with callDepth := m₁.callDepth - 1 })
      (fun m₁ => { m₁.leave m' with callDepth := m₁.callDepth - 1 })
      fun m₁ m₁' hkept h₁ hcourse => ⟨hkept.leaveCall, ?_, hcourse⟩
    exact { h.leave h₁ with callDepth := congrArg (· - 1) h₁.callDepth }

theorem declare (name : String) (v : Value) : Lockstep k (declare name v) := by
  intro m m' hm h
  have hrun : ∀ m₁, Run.declare name v m₁ = Run.define m₁.current name v m₁ := fun _ => rfl
  rw [hrun, hrun, h.current]
  exact inStep_define h hm.live name v

theorem recordUndo (undo : Stmt) :
    Lockstep k (read (·.current) >>= fun scope => record (.replay scope undo)) := by
  intro m m' hm h
  have hrun : ∀ m₁ : Machine, (read (·.current) >>= fun scope =>
      Run.record (.replay scope undo)) m₁ = Run.record (.replay m₁.current undo) m₁ :=
    fun _ => rfl
  rw [hrun, hrun, h.current]
  exact inStep_record h (c := .replay m.current undo) trivial ⟨trivial, .inl hm.live⟩

theorem compositional {host : Host} (hhost : host.Secluded)
    (hlimits : k.Roomier → host.IgnoresLimits) :
    Compositional host fun x : Unit → Run _ => Lockstep k (x ()) where
  starved _ _ _ _ := .starved
  pure _ _ _ _ h := .same h _
  bind hx hf m m' hm h :=
    (hx m m' hm h).bind fun a m₁ m₁' hkept h₁ => hf a m₁ m₁' (hm.of_kept hkept) h₁
  stop _ _ _ _ h := .same h _
  lookup name := query fun m m' hm h => by rw [h.current, h.scopes.get hm.scopes hm.live]
  readTarget t := query fun m m' hm h => by rw [h.current, h.scopes.read hm.scopes hm.live]
  declare := declare
  store t v m m' hm h := inStep_store hm h t v
  record := recordUndo
  setReversing b m m' _ h :=
    .ended (.of_same rfl rfl rfl rfl rfl) { h with reversing := rfl } (.refl m m')
  native code argc m m' hm h := inStep_native hm h hhost hlimits code argc
  inBlock := inBlock
  inCall := inCall

end Lockstep

/-! ### Rollbacks -/

section Rollback

variable {marker : Marker} {enclosing scope : ScopeId}

theorem inStep_inScope (hm : m.Steady) (h : m.Ahead k m') (hscope : m.scopes.contains scope)
    {x : Run α} (hx : Lockstep k x) :
    InStep k m m' (inScope scope x m) (inScope (k.handle scope) x m') := by
  have hin : Machine.Ahead k { m with current := scope } { m' with current := k.handle scope } :=
    { h with current := rfl }
  have hsteady : Machine.Steady { m with current := scope } := ⟨hm.tidy, hm.scopes, hscope⟩
  rw [inScope_apply, inScope_apply]
  refine (hx _ _ hsteady hin).map (fun m₁ => { m₁ with current := m.current })
    (fun m₁ => { m₁ with current := m'.current }) fun m₁ m₁' hkept h₁ hcourse => ⟨?_, ?_, hcourse⟩
  · exact ⟨{ hkept.bracketed with current := rfl }, { hkept.anchors with }⟩
  · exact { h₁ with current := h.current }

theorem inStep_whenRestorable (h : m.Ahead k m')
    (hforesees : m.scopes.contains scope ∨ marker.encloses scope.serial) {x x' : Run Unit}
    (hx : m.scopes.contains scope → InStep k m m' (x m) (x' m')) :
    InStep k m m' (whenRestorable marker scope x m)
      (whenRestorable (k.marker marker) (k.handle scope) x' m') := by
  have hcontains := h.scopes.contains scope
  by_cases hlive : m.scopes.contains scope
  · rw [whenRestorable_live hlive, whenRestorable_live (hcontains.trans hlive)]
    exact hx hlive
  · have hencloses := hforesees.resolve_left hlive
    have hencloses' : (k.marker marker).encloses (k.handle scope).serial :=
      Lead.encloses_marker.trans hencloses
    rw [whenRestorable_gone hlive hencloses,
      whenRestorable_gone (by rwa [hcontains]) hencloses']
    exact .same h _

variable {r : Evaluator} (hexec : ∀ s, Lockstep k (r.exec s))
include hexec

theorem inStep_replay (hm : m.Steady) (h : m.Ahead k m') (hscope : m.scopes.contains scope)
    (undo : Stmt) :
    InStep k m m' (r.replay scope undo m) (r.replay (k.handle scope) undo m') := by
  have hrun := inStep_inScope hm h hscope (hexec undo)
  rw [Evaluator.replay, Evaluator.replay, bind_apply, bind_apply, attempt, attempt]
  generalize inScope scope (r.exec undo) m = o,
    inScope (k.handle scope) (r.exec undo) m' = o' at hrun ⊢
  cases hrun with
  | starved => exact .starved
  -- A failure of the statement makes the rollback fail.
  | exceeded hk => exact .exceeded hk
  | @ended x m₁ m₁' hkept h₁ hcourse =>
    cases x with
    | ok flow => cases flow <;> exact .ended hkept h₁ hcourse
    | error reason => cases reason <;> exact .ended hkept h₁ hcourse

theorem inStep_restore (hm : m.Steady) (h : m.Ahead k m') {ss : Scopes} {c : Breadcrumb}
    (hc : c.Anchored True ss m.scopes)
    (hforesees : ∀ id, ss.Foresees id → m.scopes.contains id ∨ marker.encloses id.serial)
    (henclosing : m.scopes.contains enclosing) :
    InStep k m m' (r.restore marker enclosing c m)
      (r.restore (k.marker marker) (k.handle enclosing) (k.crumb c) m') := by
  cases c with
  | marker => exact absurd hc id
  | binding scope name previous =>
    exact inStep_whenRestorable h (hforesees _ hc) fun hlive => inStep_define h hlive name previous
  | entry scope name path previous =>
    refine inStep_whenRestorable h (hforesees _ hc.1) fun hlive => ?_
    rw [updateScopes, updateScopes]
    cases hss : m.scopes.restoreEntry scope name path previous with
    | error e =>
      rw [h.scopes.restoreEntry_error hlive hss]
      exact .same h _
    | ok ss =>
      obtain ⟨ss', hss', hss₁⟩ := h.scopes.restoreEntry hss
      obtain ⟨_, _, _, _, -, -, -, hd⟩ := Scopes.restoreEntry_eq_ok hss
      rw [hss']
      exact .ended (.define hd) { h with scopes := hss₁ } (.refl m m')
  | replay scope undo =>
    have hcontains := h.scopes.contains scope
    rw [Lead.crumb, Evaluator.restore, Evaluator.restore, bind_apply, bind_apply, restorable,
      restorable, query, query, Scopes.restorable, Scopes.restorable, hcontains]
    by_cases hlive : m.scopes.contains scope
    · rw [if_pos hlive, if_pos hlive]
      exact inStep_replay hexec hm h hlive undo
    · have hencloses := (hforesees scope hc.2).resolve_left hlive
      have hencloses' : (k.marker marker).encloses (k.handle scope).serial :=
        Lead.encloses_marker.trans hencloses
      rw [if_neg hlive, if_neg hlive, if_pos hencloses, if_pos hencloses']
      exact inStep_replay hexec hm h henclosing undo

/-- In the rollback of a skip that was entered in `m₁`, and in the machine that is ahead in
    `m₁'`. -/
theorem inStep_restoreAbove (hm₁ : m₁.Steady)
    (hmarker : ∃ old, m₁.ledger.crumbs = .marker marker :: old)
    (hhorizon : marker.horizon = m₁.scopes.nextSerial) (h : m.Ahead k m') (hkept : m₁.Kept m)
    (hcourse : SameCourse m₁ m m₁' m') (n : Nat) :
    InStep k m₁ m₁' (r.restoreAbove marker m₁.current n m)
      (r.restoreAbove (k.marker marker) (k.handle m₁.current) n m') := by
  induction n generalizing m m' with
  | zero => exact .starved
  | succ n ih =>
    rw [Evaluator.restoreAbove_succ, Evaluator.restoreAbove_succ, h.ledger, Lead.popAbove_ledger]
    cases hpop : m.ledger.popAbove marker with
    | none => exact .ended hkept h hcourse
    | some p =>
      obtain ⟨c, l⟩ := p
      obtain ⟨-, hl⟩ := hkept.bracketed.ledger.popAbove hmarker hpop
      obtain ⟨hc, hanchors⟩ := hkept.anchors.popAbove hmarker hpop
      have hkept' : m₁.Kept { m with ledger := l } := ⟨hkept.bracketed.withLedger hl, hanchors⟩
      have hlive : ∀ id, m.scopes.contains id = m₁.scopes.contains id :=
        Scopes.contains_congr hkept.bracketed.skeleton
      -- What is not live any more was created inside the skip.
      have hforesees : ∀ id, m₁.scopes.Foresees id →
          m.scopes.contains id ∨ marker.encloses id.serial := by
        intro id hid
        rw [hlive, Marker.encloses, hhorizon, decide_eq_true_eq]
        exact hid
      have hrestore := inStep_restore hexec (hm₁.of_kept hkept') (h.withLedger l) hc hforesees
        ((hlive m₁.current).trans hm₁.live)
      rw [Option.map_some]
      dsimp only
      rw [bind_apply, bind_apply]
      generalize r.restore marker m₁.current c { m with ledger := l } = o,
        r.restore (k.marker marker) (k.handle m₁.current) (k.crumb c)
          { m' with ledger := k.ledger l } = o' at hrestore ⊢
      cases hrestore with
      | starved => exact .starved
      | exceeded hk => exact .exceeded hk
      | @ended x m₂ m₂' hkept₂ h₂ hcourse₂ =>
        have hcourse' : SameCourse m₁ m₂ m₁' m₂' := hcourse.trans hcourse₂
        cases x with
        | ok u => exact ih h₂ (hkept'.trans hkept₂) hcourse'
        | error e => exact .ended (hkept'.trans hkept₂) h₂ hcourse'

end Rollback

/-! ### Skips -/

namespace Lockstep

theorem skip {host : Host} (hhost : host.Secluded) (hlimits : k.Roomier → host.IgnoresLimits)
    {r : Evaluator} (heval : ∀ e, Lockstep k (r.eval e)) (hexec : ∀ s, Lockstep k (r.exec s))
    (body : Block) (seizes : List Seize) : Lockstep k (r.skip body seizes) := by
  have hcompositional := compositional hhost hlimits
  intro m m' hm h
  cases hl : m.ledger.openSkip m.scopes.nextSerial with
  | error e =>
    rw [r.skip_of_full body seizes hl]
    by_cases hk : k.Roomier
    · exact .exceeded hk
    · have hl' : m'.ledger.openSkip m'.scopes.nextSerial = .error e := by
        rw [h.ledger, h.scopes.nextSerial]
        exact Lead.openSkip_ledger_error hk hl
      rw [r.skip_of_full body seizes hl']
      exact .same h _
  | ok opened =>
    obtain ⟨marker, l⟩ := opened
    obtain ⟨hmarker, hcrumbs, -⟩ := Ledger.openSkip_eq_ok hl
    have hl' : m'.ledger.openSkip m'.scopes.nextSerial = .ok (k.marker marker, k.ledger l) := by
      rw [h.ledger, h.scopes.nextSerial]
      exact Lead.openSkip_ledger hl
    have hm₁ := hm.openSkip hl
    have hblock : Lockstep k (r.block body) := hcompositional.block (r := fun _ => r) hexec body
    have hblock := hblock _ _ hm₁ (h.withLedger l)
    rw [r.skip_of_openSkip body seizes hl, r.skip_of_openSkip body seizes hl']
    generalize r.block body { m with ledger := l } = o,
      r.block body { m' with ledger := k.ledger l } = o' at hblock ⊢
    cases hblock with
    | starved => exact .starved
    | exceeded hk => exact .exceeded hk
    | @ended x m₂ m₂' hkept h₂ hcourse =>
      match x with
      | .ok (.returned v) =>
        exact .ended (hkept.discardSkip hl hm.tidy) (h₂.discardSkip marker) hcourse
      | .ok .normal => exact .ended (hkept.closeSkip hl hm.tidy) (h₂.closeSkip marker) hcourse
      | .ok (.jump j) => exact .ended (hkept.closeSkip hl hm.tidy) (h₂.closeSkip marker) hcourse
      | .error (.failure e) =>
        exact .ended (hkept.discardSkip hl hm.tidy) (h₂.discardSkip marker) hcourse
      | .error (.reversal payload) =>
        have hroll := inStep_restoreAbove hexec hm₁ ⟨_, hcrumbs⟩
          (congrArg Marker.horizon hmarker) h₂ hkept hcourse r.rounds
        dsimp only
        rw [h.current, Evaluator.rollBack, Evaluator.rollBack]
        generalize r.restoreAbove marker m.current r.rounds m₂ = o,
          r.restoreAbove (k.marker marker) (k.handle m.current) r.rounds m₂' = o' at hroll ⊢
        cases hroll with
        | starved => exact .starved
        -- No seize is tried after a rollback that fails.
        | exceeded hk => exact .exceeded hk
        | @ended y m₃ m₃' hkept₃ h₃ hcourse₃ =>
          cases y with
          | error reason =>
            exact .ended (hkept₃.discardSkip hl hm.tidy) (h₃.discardSkip marker) hcourse₃
          | ok u =>
            have hclosed := hkept₃.closeSkip hl hm.tidy
            have hcourse' : SameCourse m (m₃.closeSkip marker) m'
                (m₃'.closeSkip (k.marker marker)) := hcourse₃
            have hdispatch : Lockstep k (r.dispatch payload none seizes) :=
              hcompositional.dispatch (r := fun _ => r) heval hexec payload none seizes
            exact .trans hclosed hcourse'
              (hdispatch _ _ (hm.of_kept hclosed) (h₃.closeSkip marker))

/-- Every run goes on in lockstep. -/
theorem pervasive {host : Host} (hhost : host.Secluded)
    (hlimits : k.Roomier → host.IgnoresLimits) :
    Pervasive host fun x : Unit → Run _ => Lockstep k (x ()) :=
  { compositional hhost hlimits with
    setLocation _ _ _ _ h := .ended (.of_same rfl rfl rfl rfl rfl) { h with } (.inl rfl)
    skip _ := skip hhost hlimits }

end Lockstep

end Run

end Retrace
