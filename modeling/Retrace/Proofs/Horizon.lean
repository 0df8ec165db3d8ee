import Retrace.Proofs.History

/-!
# Horizons

A rollback has to tell the scopes that were created inside the skip from those that are older,
and it does so in two ways: a scope is *live*, or its handle is stale; and its serial number is
below the *horizon* of the marker, which was the next serial number when the skip was entered,
or it is not. Both come to the same for every breadcrumb that is taken from above the marker
(`Reached.live_iff_below_horizon`). For in a state of a run every live scope has a serial number
below the next one (`Reached.steady`), the same scopes are live at the end of a run as were at
its beginning, and a breadcrumb belongs to one of these or to one that has been created since.

A statement that is to be replayed is moreover *local* (`Breadcrumb.Local`): it was recorded in
the scope that is being run in, or in a scope that has been created since, as blocks and calls
create one each. Every run records local ones only, which is a lawful contract (`localizing`).
So if the scope of such a breadcrumb is live in a rollback, it is the scope around the skip
itself, and if it is not, that is where the statement is replayed instead.
-/

namespace Retrace

/-- The scope it belongs to, if it is no marker. -/
def Breadcrumb.scope? : Breadcrumb → Option ScopeId
  | .marker _ => none
  | .binding scope _ _ => some scope
  | .entry scope _ _ _ => some scope
  | .replay scope _ => some scope

/-- Whether it is no marker, and if a statement is to be replayed it belongs to the scope `id` or
    to one with a serial number from the horizon on. -/
def Breadcrumb.Local (id : ScopeId) (horizon : Nat) : Breadcrumb → Prop
  | .marker _ => False
  | .binding _ _ _ => True
  | .entry _ _ _ _ => True
  | .replay scope _ => scope = id ∨ horizon ≤ scope.serial

theorem Breadcrumb.Local.imp {c : Breadcrumb} {id id' : ScopeId} {horizon horizon' : Nat}
    (h : c.Local id' horizon') (hid : id' = id ∨ horizon ≤ id'.serial)
    (hle : horizon ≤ horizon') : c.Local id horizon := by
  cases c with
  | marker => exact h
  | binding | entry => trivial
  | replay scope undo =>
    rcases h with rfl | hserial
    · exact hid
    · exact .inr (Nat.le_trans hle hserial)

theorem Rebinding.Stores.crumb_local {b : Rebinding} {bound v : Value} {path : List Value}
    (h : b.Stores bound v path) (id : ScopeId) (horizon : Nat) : b.crumb.Local id horizon := by
  cases h <;> trivial

theorem Ledger.Extends.imp {P Q : Breadcrumb → Prop} {l l' : Ledger} (h : l.Extends P l')
    (hPQ : ∀ c, P c → Q c) : l.Extends Q l' := by
  obtain ⟨added, hc, hadded, h0⟩ := h.crumbs
  exact ⟨h.openSkips, h.limit, added, hc, fun c hmem => hPQ c (hadded c hmem), h0⟩

variable {D : Discipline} {m m' m'' : Machine}

theorem Machine.Steady.pre (h : m.Steady) : (bracketing .any).pre m :=
  ⟨h.tidy, fun _ _ _ _ => trivial⟩

theorem Machine.Steady.of_bracketed (h : m.Steady) (hb : Bracketed D m m') : m'.Steady where
  tidy := hb.ledger.tidy h.tidy
  scopes := h.scopes.congr hb.skeleton hb.nextSerial
  live := by
    rw [Scopes.contains_congr hb.skeleton, hb.current]
    exact h.live

/-- The breadcrumbs that have been added are local. -/
def Localizes (m m' : Machine) : Prop :=
  m.ledger.Extends (Breadcrumb.Local m.current m.scopes.nextSerial) m'.ledger

namespace Localizes

theorem of_ledger (h : m'.ledger = m.ledger) : Localizes m m' := by
  rw [Localizes, h]
  exact .refl _

theorem trans (h : Localizes m m') (h' : Localizes m' m'') (hb : Bracketed D m m') :
    Localizes m m'' :=
  Ledger.Extends.trans h (h'.imp fun _ hc => hc.imp (.inl hb.current) hb.nextSerial)

/-- The new scope is one that was yet to come. -/
theorem of_enter {parent : ScopeId} (h : Localizes (m.enter parent) m') : Localizes m m' :=
  h.imp fun _ hc => hc.imp (.inr (Nat.le_refl _)) (Nat.le_succ _)

theorem record {c : Breadcrumb} {r : Except Stop Unit}
    (hc : c.Local m.current m.scopes.nextSerial) (hr : Run.record c m = some (r, m')) :
    Localizes m m' := by
  obtain ⟨-, -, rfl⟩ | ⟨l, -, hl, -, rfl⟩ | ⟨e, -, rfl, -⟩ := Run.record_eq_some hr
  · exact .of_ledger rfl
  · exact Ledger.Extends.record hc hl
  · exact .of_ledger rfl

section Open

variable {marker : Marker} {l : Ledger}
  (hl : m.ledger.openSkip m.scopes.nextSerial = .ok (marker, l)) (hm : m.ledger.Tidy)
  (h : Localizes { m with ledger := l } m')
include hl hm h

theorem closeSkip : Localizes m (m'.closeSkip marker) :=
  Ledger.Extends.close hl h id hm

theorem discardSkip : Localizes m (m'.discardSkip marker) := by
  have hledger : (m'.discardSkip marker).ledger =
      { m.ledger with nextMarker := m'.ledger.nextMarker } := Ledger.Extends.discard hl h id hm
  rw [Localizes, hledger]
  exact ⟨rfl, rfl, [], rfl, List.forall_mem_nil _, fun _ => rfl⟩

end Open

end Localizes

/-! ### The contract -/

/-- The contract that statements are recorded to be replayed in the scope that is being run in,
    or in scopes that are created meanwhile. -/
def localizing : Contract where
  discipline := .any
  pre := Machine.Steady
  post m e m' := (bracketing .any).post m e m' ∧ Localizes m m'
  bound _ := fun _ _ _ _ => trivial
  refl h := ⟨(bracketing .any).refl h.pre, .of_ledger rfl⟩
  fail h := ⟨(bracketing .any).fail h.pre, .of_ledger rfl⟩
  next h h' := h.of_bracketed h'.1.1
  trans h h' h'' := ⟨(bracketing .any).trans h.pre h'.1 h''.1, h'.2.trans h''.2 h'.1.1⟩

/-- A statement is replayed in the scope around the skip if its breadcrumb belongs to no other
    live scope, and was not left behind by one older than the skip. -/
theorem Evaluator.restore_replay (r : Evaluator) {marker : Marker} {enclosing scope : ScopeId}
    (undo : Stmt) (hlive : m.scopes.contains scope → scope = enclosing)
    (hgone : m.scopes.contains scope ∨ marker.encloses scope.serial) :
    r.restore marker enclosing (.replay scope undo) m = r.replay enclosing undo m := by
  rw [restore, Run.bind_apply, Run.restorable, Run.query, Scopes.restorable]
  by_cases h : m.scopes.contains scope
  · rw [if_pos h, hlive h]
    rfl
  · rw [if_neg h, if_pos (hgone.resolve_left h)]
    rfl

namespace localizing

variable {α : Type} {V : α → Prop} {x : Run α}

/-- It remains to be shown that a run that brackets what it does records local breadcrumbs. -/
theorem meets (hx : (bracketing .any).Meets V x)
    (h : ∀ m r m', m.Steady → x m = some (r, m') → Localizes m m') : localizing.Meets V x := by
  intro m r m' hm hr
  obtain ⟨hpost, hV⟩ := hx m r m' hm.pre hr
  refine ⟨⟨hpost, h m r m' hm hr⟩, ?_⟩
  match r, hV with
  | .ok a, hV => exact hV
  | .error (.reversal payload), hV => exact hV
  | .error (.failure e), _ => trivial

theorem meets_inBlock (hx : localizing.Meets V x) : localizing.Meets V (Run.inBlock x) := by
  intro m r m' hm hr
  obtain ⟨m₁, hr₁, rfl⟩ := Run.inBlock_eq_some hr
  obtain ⟨⟨⟨hb, hcalm⟩, hlocal⟩, hV⟩ := hx _ r m₁ (hm.enter hm.live) hr₁
  exact ⟨⟨⟨hb.leave, hcalm⟩, hlocal.of_enter⟩, hV⟩

theorem meets_inCall (hx : localizing.Meets V x) : localizing.Meets V (Run.inCall x) := by
  intro m r m' hm hr
  obtain ⟨rfl, rfl⟩ | ⟨m₁, -, hr₁, rfl⟩ := Run.inCall_eq_some hr
  · exact ⟨localizing.fail hm, trivial⟩
  · obtain ⟨⟨⟨hb, hcalm⟩, hlocal⟩, hV⟩ := hx _ r m₁ hm.enterCall hr₁
    have hlocal' : Localizes { m with callDepth := m.callDepth + 1 } m₁ := hlocal.of_enter
    exact ⟨⟨⟨hb.leaveCall, hcalm⟩, hlocal'⟩, hV⟩

theorem meets_declare (name : String) (v : Value) :
    localizing.Meets (fun _ => True) (Run.declare name v) := by
  refine meets (.bind (V := fun _ => True) (.read fun _ => trivial) fun scope _ =>
    bracketing.meets_define scope name trivial) fun m r m' _ hr => ?_
  have hdefine : Run.define m.current name v m = some (r, m') := hr
  obtain ⟨ss, -, -, rfl⟩ | ⟨e, -, rfl, -⟩ := Run.updateScopes_eq_some hdefine
  · exact .of_ledger rfl
  · exact .of_ledger rfl

theorem meets_store (t : Target) (v : Value) :
    localizing.Meets (fun _ => True) (Run.store t v) := by
  refine meets (bracketing.meets_store t (fun _ _ => trivial) trivial) fun m r m' _ hr => ?_
  obtain ⟨b, m₁, ss, hb, hrecord, -, -, rfl⟩ | ⟨e, -, rfl, -⟩ := Run.store_eq_some hr
  · -- What takes a rebinding back is no statement.
    obtain ⟨bound, -, hstores⟩ := Target.rebinding_eq_ok hb
    have hlocal : Localizes m m₁ := .record (hstores.crumb_local _ _) hrecord
    exact hlocal
  · exact .of_ledger rfl

theorem meets_record (undo : Stmt) :
    localizing.Meets (fun _ => True) (do
      let scope ← Run.read (·.current)
      Run.record (.replay scope undo)) := by
  refine meets (.bind (V := fun _ => True) (.read fun _ => trivial) fun scope _ =>
    bracketing.meets_record trivial) fun m r m' _ hr => ?_
  have hrecord : Run.record (.replay m.current undo) m = some (r, m') := hr
  have hc : (Breadcrumb.replay m.current undo).Local m.current m.scopes.nextSerial := Or.inl rfl
  exact .record hc hrecord

/-! ### Rollbacks -/

section Rollback

variable {r : Evaluator} (hr : r.Satisfies localizing) {marker : Marker}
include hr

/-- A statement that is replayed in the scope that is being run in records local breadcrumbs. -/
theorem replay (hm : m.Steady) {undo : Stmt} {x : Except Stop Unit}
    (hx : r.replay m.current undo m = some (x, m')) : Localizes m m' := by
  obtain ⟨y, m₁, hy, hx⟩ := Run.attempt_bind_eq_some hx
  obtain ⟨m₂, hexec, rfl⟩ := Run.inScope_eq_some hy
  obtain ⟨⟨-, hlocal⟩, -⟩ := hr.exec undo trivial m y m₂ hm hexec
  split at hx
  · obtain ⟨-, rfl⟩ := Run.pure_eq_some hx
    exact hlocal
  all_goals
    obtain ⟨-, rfl⟩ := Run.fail_eq_some hx
    exact hlocal

/-- Restoring a local breadcrumb records local ones, if no live scope is younger than the
    horizon. -/
theorem restore (hm : m.Steady) {c : Breadcrumb} {horizon : Nat}
    (hc : c.Local m.current horizon) (hfresh : ∀ id, m.scopes.contains id → id.serial < horizon)
    {x : Except Stop Unit} (hx : r.restore marker m.current c m = some (x, m')) :
    Localizes m m' := by
  by_cases hreplay : ∃ scope undo, c = .replay scope undo
  · obtain ⟨scope, undo, rfl⟩ := hreplay
    have hlive : m.scopes.contains scope → scope = m.current := fun h =>
      hc.resolve_right (Nat.not_le_of_lt (hfresh scope h))
    by_cases hgone : m.scopes.contains scope ∨ marker.encloses scope.serial
    · rw [r.restore_replay undo hlive hgone] at hx
      exact replay hr hm hx
    · -- Nothing is replayed then.
      rw [not_or] at hgone
      rw [Evaluator.restore, Run.bind_apply, Run.restorable, Run.query, Scopes.restorable,
        if_neg hgone.1, if_neg hgone.2] at hx
      obtain ⟨-, rfl⟩ := Prod.mk.inj (Option.some.inj hx)
      exact .of_ledger rfl
  · obtain ⟨y, ss, hrestore⟩ := Evaluator.exists_restore marker m.current m
      fun scope undo h => hreplay ⟨scope, undo, h⟩
    rw [hrestore r] at hx
    obtain ⟨-, rfl⟩ := Prod.mk.inj (Option.some.inj hx)
    exact .of_ledger rfl

section

variable {m₁ : Machine} (hm₁ : m₁.Steady)
  (hmarker : ∃ old, m₁.ledger.crumbs = .marker marker :: old) (hb : Bracketed .any m₁ m)
  (h : Localizes m₁ m)
include hm₁ hmarker hb h

/-- A breadcrumb is taken from above the marker and restored, in the rollback of the skip that
    was entered in `m₁`. -/
theorem popAbove {c : Breadcrumb} {l : Ledger} (hpop : m.ledger.popAbove marker = some (c, l))
    {x : Except Stop Unit}
    (hx : r.restore marker m₁.current c { m with ledger := l } = some (x, m')) :
    Localizes m₁ m' := by
  obtain ⟨hc, hrest⟩ := Ledger.Extends.popAbove h hmarker hpop
  have hb' : Bracketed .any m₁ { m with ledger := l } :=
    hb.withLedger (hb.ledger.popAbove hmarker hpop).2
  have hfresh : ∀ id, m.scopes.contains id → id.serial < m₁.scopes.nextSerial := fun id hid =>
    hm₁.scopes.fresh id (Scopes.contains_congr hb.skeleton id ▸ hid)
  rw [← hb.current] at hx hc
  have hlocal := restore hr (hm₁.of_bracketed hb') hc hfresh hx
  have h' : Localizes m₁ { m with ledger := l } := hrest
  exact h'.trans hlocal hb'

variable (hrb : r.Satisfies (bracketing .any))
include hrb

theorem restores {cs : List Breadcrumb} (hcs : r.Restores marker m₁.current m cs m') :
    Localizes m₁ m' := by
  induction hcs with
  | nil => exact h
  | cons hpop hrestore _ ih =>
    exact ih (bracketing.popAbove hrb hm₁.pre hmarker hb hpop hrestore)
      (popAbove hr hm₁ hmarker hb h hpop hrestore)

theorem restoreAbove {n : Nat} {x : Except Stop Unit}
    (hx : r.restoreAbove marker m₁.current n m = some (x, m')) : Localizes m₁ m' := by
  obtain ⟨cs, m₂, hcs, -, hend⟩ := r.restores_of_restoreAbove hx
  have hb₂ := bracketing.restores hrb hm₁.pre hmarker hb hcs
  have h₂ := restores hr hm₁ hmarker hb h hrb hcs
  obtain ⟨-, rfl, -⟩ | ⟨c, l, e, -, hpop, hrestore⟩ := hend
  · exact h₂
  · exact popAbove hr hm₁ hmarker hb₂ h₂ hpop hrestore

end

end Rollback

/-! ### Skips -/

theorem meets_resume : localizing.Meets (fun _ => True) (Run.setReversing false) := by
  intro m x m' hm hx
  obtain ⟨rfl, rfl⟩ := Prod.mk.inj (Option.some.inj hx)
  exact ⟨⟨⟨(Bracketed.refl hm.pre.2).withReversing false, fun _ h => absurd h (by simp)⟩,
    .of_ledger rfl⟩, trivial⟩

section Skip

variable {r : Evaluator} (hr : r.Satisfies localizing)
include hr

theorem meets_dispatch (payload : Value) (seizes : List Seize) :
    localizing.Meets (Flow.Obey fun _ => True) (r.dispatch payload none seizes) := by
  refine hr.dispatch (fun {b} _ => ?_) (fun hm => ?_) trivial (fun _ _ => trivial)
    fun _ _ _ _ => trivial
  · exact .bind meets_resume fun _ _ => meets_inBlock (hr.execAll fun _ _ => trivial)
  · exact ⟨⟨.refl hm.pre.2, fun h => absurd h (by simp)⟩, .of_ledger rfl⟩

theorem meets_skip (hrb : r.Satisfies (bracketing .any)) (body : Block) (seizes : List Seize) :
    localizing.Meets (Flow.Obey fun _ => True) (r.skip body seizes) := by
  have hblock : localizing.Meets (Flow.Obey fun _ => True) (r.block body) :=
    meets_inBlock (hr.execAll fun _ _ => trivial)
  have hskip : (bracketing .any).Meets (Flow.Obey fun _ => True) (r.skip body seizes) :=
    bracketing.meets_skip hrb (fun _ _ => trivial) fun _ _ _ _ => trivial
  refine meets hskip fun m x m' hm hx => ?_
  cases r.skipped hx with
  | full => exact .of_ledger rfl
  | returned hl h =>
    obtain ⟨⟨-, hlocal⟩, -⟩ := hblock _ _ _ (hm.openSkip hl) h
    exact hlocal.discardSkip hl hm.tidy
  | closed hl h =>
    obtain ⟨⟨-, hlocal⟩, -⟩ := hblock _ _ _ (hm.openSkip hl) h
    exact hlocal.closeSkip hl hm.tidy
  | failed hl h =>
    obtain ⟨⟨-, hlocal⟩, -⟩ := hblock _ _ _ (hm.openSkip hl) h
    exact hlocal.discardSkip hl hm.tidy
  | stuck hl h hroll =>
    obtain ⟨⟨⟨hb, -⟩, hlocal⟩, -⟩ := hblock _ _ _ (hm.openSkip hl) h
    have hrolled := restoreAbove hr (hm.openSkip hl) ⟨_, (Ledger.openSkip_eq_ok hl).2.1⟩ hb
      hlocal hrb hroll
    exact hrolled.discardSkip hl hm.tidy
  | reversed hl h hroll hdispatch =>
    obtain ⟨⟨⟨hb, -⟩, hlocal⟩, -⟩ := hblock _ _ _ (hm.openSkip hl) h
    have hmarker : ∃ old, Ledger.crumbs _ = _ :: old := ⟨_, (Ledger.openSkip_eq_ok hl).2.1⟩
    have hrolled := (restoreAbove hr (hm.openSkip hl) hmarker hb hlocal hrb hroll).closeSkip hl
      hm.tidy
    have hb₂ := (bracketing.restoreAbove hrb (hm.openSkip hl).pre hmarker hb hroll).1
    have hb₃ := bracketing.closeSkip hl hm.pre hb₂
    -- The seizes are tried when the skip is resolved.
    obtain ⟨⟨-, hlocal₄⟩, -⟩ := meets_dispatch hr _ _ _ _ _ (hm.of_bracketed hb₃) hdispatch
    exact hrolled.trans hlocal₄ hb₃

end Skip

/-- Localizing is lawful. -/
theorem lawful (host : Host) : localizing.Lawful host where
  keeps := host.keeps_any
  declare name v _ := meets_declare name v
  store t v _ _ := meets_store t v
  record _ := meets_record _
  locate l := by
    refine meets ((bracketing.lawful host.keeps_any).locate l) fun m r m' _ hr => ?_
    obtain ⟨-, rfl⟩ := Prod.mk.inj (Option.some.inj hr)
    exact .of_ledger rfl
  surround s hm he := ⟨(bracketing.lawful host.keeps_any).surround s hm.pre he, .of_ledger rfl⟩
  reverse hm := ⟨(bracketing.lawful host.keeps_any).reverse hm.pre, .of_ledger rfl⟩
  inBlock := meets_inBlock
  inCall := meets_inCall
  skip fuel body seizes l hr _ :=
    meets_skip hr ((bracketing.lawful host.keeps_any).evaluator fuel) body seizes

end localizing

/-! ### States of runs -/

variable {host : Host} {P : Value → Prop}

/-- In every state of a run the scopes are in order, and none is younger than the next one. -/
theorem Reached.steady (h : Reached host P m) : m.Steady := by
  have hlawful := bracketing.lawful (D := .any) host.keeps_any
  induction h with
  | rest h => exact (Machine.Ready.of_session h).steady
  | located l _ ih => exact ⟨ih.tidy, ih.scopes, ih.live⟩
  | evaluated _ hr ih =>
    obtain ⟨⟨hb, -⟩, -⟩ := (hlawful.evaluator _).eval _ _ _ _ ih.pre hr
    exact ih.of_bracketed hb
  | executed _ hr ih =>
    obtain ⟨⟨hb, -⟩, -⟩ := (hlawful.evaluator _).exec _ trivial _ _ _ ih.pre hr
    exact ih.of_bracketed hb
  | block _ ih => exact ih.enter ih.live
  | call _ _ _ hr ih =>
    obtain ⟨⟨hb, -⟩, -⟩ := hlawful.declareAll (fun _ _ => trivial) _ _ _ ih.enterCall.pre hr
    exact ih.enterCall.of_bracketed hb
  | skip _ hl ih => exact ih.openSkip hl
  | @replay m m₂ m₃ marker l l₃ fuel body payload cs scope undo hm hl hbody hcs hpop ih =>
    obtain ⟨hopened, hb₂⟩ := hm.bracketed_body hl hbody
    have hmarker : ∃ old, l.crumbs = .marker marker :: old := ⟨_, (Ledger.openSkip_eq_ok hl).2.1⟩
    have hb := bracketing.restores (hlawful.evaluator fuel) hopened hmarker hb₂ hcs
    have hb' := hb.withLedger (hb.ledger.popAbove hmarker hpop).2
    have hsteady := (ih.openSkip hl).of_bracketed hb'
    -- The statement is run in a live scope, wherever that is.
    refine ⟨hsteady.tidy, hsteady.scopes, ?_⟩
    simp only
    split
    · assumption
    · exact hb.current ▸ hsteady.live
  | reversed hm hl hbody hroll ih =>
    obtain ⟨hopened, hb₂⟩ := hm.bracketed_body hl hbody
    obtain ⟨hb, -⟩ := bracketing.restoreAbove (hlawful.evaluator _) hopened
      ⟨_, (Ledger.openSkip_eq_ok hl).2.1⟩ hb₂ hroll
    exact ih.of_bracketed (bracketing.closeSkip hl ih.pre hb)
  | seize _ ih => exact ⟨ih.tidy, ih.scopes, ih.live⟩

/-! ### Rollbacks from states of runs -/

/-- A breadcrumb that is anchored belongs to a scope. -/
theorem Breadcrumb.Anchored.exists_scope {replays : Prop} {ss ss' : Scopes} {c : Breadcrumb}
    (h : c.Anchored replays ss ss') : ∃ id, c.scope? = some id ∧ ss.Foresees id := by
  cases c with
  | marker => exact absurd h id
  | binding scope name previous => exact ⟨scope, rfl, h⟩
  | entry scope name path previous => exact ⟨scope, rfl, h.1⟩
  | replay scope undo => exact ⟨scope, rfl, h.2⟩

section

variable (hm : Reached host P m) {fuel : Nat} {body : Block} {marker : Marker} {l : Ledger}
  {payload : Value} {m₂ m₃ : Machine} {cs : List Breadcrumb}
  (hl : m.ledger.openSkip m.scopes.nextSerial = .ok (marker, l))
  (hbody : (evaluator host fuel).block body { m with ledger := l } =
    some (.error (.reversal payload), m₂))
  (hcs : (evaluator host fuel).Restores marker m.current m₂ cs m₃)
include hm hl hbody hcs

/-- Whatever a rollback has restored so far, the machine is bracketed. -/
theorem Reached.bracketed_restored : Bracketed .any { m with ledger := l } m₃ := by
  obtain ⟨hopened, hb⟩ := hm.bracketed_body hl hbody
  exact bracketing.restores ((bracketing.lawful host.keeps_any).evaluator fuel) hopened
    ⟨_, (Ledger.openSkip_eq_ok hl).2.1⟩ hb hcs

theorem Reached.anchors_restored : Anchors True { m with ledger := l } m₃ := by
  have hF : Failure.Admits fun _ => True := ⟨fun _ => trivial, fun _ => trivial, fun _ => trivial,
    fun _ => trivial, fun _ => trivial⟩
  have hlawful : (anchoring .any True hF).Lawful host :=
    anchoring.lawful host.keeps_any (fun _ _ _ _ _ _ _ _ => trivial) fun _ => trivial
  have hopened : (anchoring .any True hF).pre { m with ledger := l } :=
    anchoring.pre_open hl ⟨hm.sane_any.pre, hm.anchored⟩
  obtain ⟨⟨⟨hb, -⟩, hanchors⟩, -⟩ :=
    hlawful.block (hlawful.evaluator fuel) (fun _ _ => trivial) _ _ _ hopened hbody
  obtain ⟨hmarker, hcrumbs, -⟩ := Ledger.openSkip_eq_ok hl
  exact anchoring.restores (hlawful.evaluator fuel)
    ((bracketing.lawful host.keeps_any).evaluator fuel) hopened ⟨_, hcrumbs⟩
    (congrArg Marker.horizon hmarker) rfl hb (hanchors (by simp [Ending.of])) hcs

theorem Reached.localizes_restored : Localizes { m with ledger := l } m₃ := by
  have hlawful := localizing.lawful host
  have hopened := hm.steady.openSkip hl
  obtain ⟨⟨⟨hb, -⟩, hlocal⟩, -⟩ :=
    hlawful.block (hlawful.evaluator fuel) (fun _ _ => trivial) _ _ _ hopened hbody
  exact localizing.restores (hlawful.evaluator fuel) hopened
    ⟨_, (Ledger.openSkip_eq_ok hl).2.1⟩ hb hlocal
    ((bracketing.lawful host.keeps_any).evaluator fuel) hcs

/-- However far a rollback has come, of the breadcrumb that is taken next the scope is live if
    and only if its serial number is below the horizon. The live scopes are those that were live
    when the skip was entered, and if a statement is replayed then this is done in the scope
    around the skip, whatever scope the breadcrumb belongs to. -/
theorem Reached.live_iff_below_horizon {c : Breadcrumb} {l₃ : Ledger}
    (hpop : m₃.ledger.popAbove marker = some (c, l₃)) :
    (∃ id, c.scope? = some id ∧ (m₃.scopes.contains id ↔ id.serial < marker.horizon)) ∧
      (∀ id, m₃.scopes.contains id ↔ m.scopes.contains id) ∧ m₃.current = m.current ∧
      ∀ scope undo, c = .replay scope undo →
        (evaluator host fuel).restore marker m.current c { m₃ with ledger := l₃ } =
          (evaluator host fuel).replay m.current undo { m₃ with ledger := l₃ } := by
  obtain ⟨rfl, hcrumbs, -⟩ := Ledger.openSkip_eq_ok hl
  have hb := hm.bracketed_restored hl hbody hcs
  have hlive : ∀ id, m₃.scopes.contains id ↔ m.scopes.contains id := fun id =>
    Bool.eq_iff_iff.1 (Scopes.contains_congr hb.skeleton id)
  obtain ⟨hanchored, -⟩ := (hm.anchors_restored hl hbody hcs).popAbove ⟨_, hcrumbs⟩ hpop
  obtain ⟨hlocal, -⟩ :=
    Ledger.Extends.popAbove (hm.localizes_restored hl hbody hcs) ⟨_, hcrumbs⟩ hpop
  have hfresh : ∀ id, m₃.scopes.contains id → id.serial < m.scopes.nextSerial := fun id hid =>
    hm.steady.scopes.fresh id ((hlive id).1 hid)
  obtain ⟨id, hid, hforesees⟩ := hanchored.exists_scope
  refine ⟨⟨id, hid, hfresh id, fun hserial => ?_⟩, hlive, hb.current, ?_⟩
  · exact (hlive id).2 (hforesees.resolve_right (Nat.not_le_of_lt hserial))
  · rintro scope undo rfl
    refine Evaluator.restore_replay _ undo (fun h => ?_) ?_
    · -- A live scope is older than the horizon, so the statement was recorded around the skip.
      exact hlocal.resolve_right (Nat.not_le_of_lt (hfresh scope h))
    · exact hanchored.2.imp (hlive scope).2 decide_eq_true

end

/-- A body that reverses after a skip in it has come to its end, in which there was an effect
    with a statement that takes it back. -/
def Horizon.closing : Block :=
  [⟨.skip [⟨.expr (.ofBool true) (some ⟨.expr (.ofBool false) none, .unknown⟩), .unknown⟩] [],
      .unknown⟩,
    ⟨.reverse (.ofBool true), .unknown⟩]

/-- Whether a skip with that body is reversed when it is entered in `m`, and the newest breadcrumb
    is of a scope that is gone by then. -/
def Horizon.outlives (m : Machine) : Bool :=
  ((evaluator .bare 9).reversed? closing m).any fun p =>
    match p.2.ledger.popAbove p.1 with
    | some (.replay scope _, _) => !p.2.scopes.contains scope
    | _ => false

theorem Horizon.outlives_initial : outlives .bare := by decide +kernel

/-- That breadcrumb's statement is replayed in the global scope. -/
theorem Reached.live_iff_below_horizon_closing :
    ∃ (marker : Marker) (m₂ : Machine) (scope : ScopeId) (undo : Stmt) (l₃ : Ledger),
      m₂.ledger.popAbove marker = some (.replay scope undo, l₃) ∧
      ¬m₂.scopes.contains scope ∧ ¬scope.serial < marker.horizon ∧
      (evaluator .bare 9).restore marker Scopes.global (.replay scope undo)
          { m₂ with ledger := l₃ } =
        (evaluator .bare 9).replay Scopes.global undo { m₂ with ledger := l₃ } := by
  obtain ⟨⟨marker, m₂⟩, hreversed, h⟩ := (Option.any_eq_true _ _).1 Horizon.outlives_initial
  obtain ⟨m₁, payload, hopen, hbody⟩ := Evaluator.reversed?_eq_some hreversed
  have hm : Reached .bare (fun _ => True) .bare := .rest (.start .default .bare)
  split at h
  · rename_i scope undo l₃ hpop
    obtain ⟨_, l, hl, hok, rfl⟩ | ⟨e, hok, -⟩ := Run.openSkip_eq_some hopen
    · obtain rfl := Except.ok.inj hok
      obtain ⟨⟨id, hid, hiff⟩, -, -, hreplay⟩ := hm.live_iff_below_horizon hl hbody (.nil m₂) hpop
      obtain rfl := Option.some.inj hid
      have hgone : ¬m₂.scopes.contains scope := Bool.eq_false_iff.1 (Bool.not_eq_true' _ ▸ h)
      exact ⟨marker, m₂, scope, undo, l₃, hpop, hgone, fun h => hgone (hiff.2 h),
        hreplay scope undo rfl⟩
    · exact absurd hok (by simp)
  · exact absurd h (by simp)

end Retrace
