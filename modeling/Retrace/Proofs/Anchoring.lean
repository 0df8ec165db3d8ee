import Retrace.Proofs.Rooted

/-!
# What can always be restored

A breadcrumb is *anchored* (`Breadcrumb.Anchored`) if the scope it belongs to was
live when the skip was entered or has been created since, and so a rollback of
the skip finds it live or may pass it over. An entry is moreover to be stored
back in something: it keeps a pair, and its name is bound as long as its scope is
live, since no name is ever taken out of a scope.

While breadcrumbs are added they are anchored (`Anchors`), whatever program is
run. This is a lawful contract (`anchoring`). With it goes which failures there
may be: the ordinary ones, those of native functions, and those that replaying a
statement makes of them (`Failure.Admits`). None is due to a stale handle, or to
a breadcrumb that should not be where it is.
-/

namespace Retrace

/-- Whether the handle is one to a live scope or to one that is yet to come. -/
def Scopes.Foresees (ss : Scopes) (id : ScopeId) : Prop :=
  ss.contains id ∨ ss.nextSerial ≤ id.serial

/-- Whether it can be restored from `ss'` on, in the rollback of a skip that was entered when
    the scopes were `ss`. Statements are to be replayed only if `replays` holds. -/
def Breadcrumb.Anchored (replays : Prop) (ss ss' : Scopes) : Breadcrumb → Prop
  | .marker _ => False
  | .binding scope _ _ => ss.Foresees scope
  | .entry scope name _ previous => ss.Foresees scope ∧ (∃ key value, previous = .pair key value) ∧
      (ss'.contains scope → (ss'.look scope name).isSome)
  | .replay scope _ => replays ∧ ss.Foresees scope

/-- The names that were bound still are, and the breadcrumbs that have been added are
    anchored. -/
structure Anchors (replays : Prop) (m m' : Machine) : Prop where
  bound : ∀ id name, (m.scopes.look id name).isSome → (m'.scopes.look id name).isSome
  crumbs : ∃ added, m'.ledger.crumbs = added ++ m.ledger.crumbs ∧
    ∀ c ∈ added, c.Anchored replays m.scopes m'.scopes

variable {D : Discipline} {replays : Prop} {m m' m'' : Machine} {ss ss' tt tt' : Scopes}

theorem Breadcrumb.Anchored.imp {c : Breadcrumb} (h : c.Anchored replays ss ss')
    (hforesees : ∀ id, ss.Foresees id → tt.Foresees id)
    (hbound : ∀ id name, (ss'.contains id → (ss'.look id name).isSome) →
      tt'.contains id → (tt'.look id name).isSome) : c.Anchored replays tt tt' := by
  cases c with
  | marker => exact h
  | binding scope name previous => exact hforesees scope h
  | entry scope name path previous =>
    exact ⟨hforesees scope h.1, h.2.1, hbound scope name h.2.2⟩
  | replay scope undo => exact ⟨h.1, hforesees scope h.2⟩

theorem Bracketed.foresees (h : Bracketed D m m') {id : ScopeId} (hid : m'.scopes.Foresees id) :
    m.scopes.Foresees id :=
  hid.imp (fun hlive => Scopes.contains_congr h.skeleton id ▸ hlive) (Nat.le_trans h.nextSerial)

namespace Anchors

/-- Nothing has been added, and no name is unbound. -/
theorem of_look (hc : m'.ledger.crumbs = m.ledger.crumbs)
    (h : ∀ id name, (m.scopes.look id name).isSome → (m'.scopes.look id name).isSome) :
    Anchors replays m m' :=
  ⟨h, [], hc, List.forall_mem_nil _⟩

theorem refl (m : Machine) : Anchors replays m m :=
  of_look rfl fun _ _ h => h

theorem trans (h : Anchors replays m m') (h' : Anchors replays m' m'') (hb : Bracketed D m m')
    (hb' : Bracketed D m' m'') : Anchors replays m m'' := by
  obtain ⟨added, hc, hadded⟩ := h.crumbs
  obtain ⟨added', hc', hadded'⟩ := h'.crumbs
  refine ⟨fun id name hv => h'.bound id name (h.bound id name hv), added' ++ added, ?_, ?_⟩
  · rw [hc', hc, List.append_assoc]
  · refine List.forall_mem_append.2 ⟨fun c hmem => ?_, fun c hmem => ?_⟩
    · exact (hadded' c hmem).imp (fun _ => hb.foresees) fun _ _ hbound => hbound
    · refine (hadded c hmem).imp (fun _ hid => hid) fun id name hbound hlive => ?_
      exact h'.bound id name (hbound (Scopes.contains_congr hb'.skeleton id ▸ hlive))

/-- A name is bound in a live scope. -/
theorem define {id : ScopeId} {name : String} {v : Value} {l : Ledger}
    (hl : l.crumbs = m.ledger.crumbs) (hd : m.scopes.define id name v = .ok ss) :
    Anchors replays m { m with ledger := l, scopes := ss } :=
  of_look hl (Scopes.isSome_look_define hd)

/-- What is run in a new scope. -/
theorem leave {parent : ScopeId} (h : Anchors replays (m.enter parent) m')
    (hb : Bracketed D (m.enter parent) m') : Anchors replays m (m'.leave m) := by
  have hlook : ∀ id name, (m'.leave m).scopes.look id name =
      if id.slot < m.scopes.row.size then m'.scopes.look id name else none := fun id name =>
    Scopes.look_discard ..
  obtain ⟨added, hc, hadded⟩ := h.crumbs
  refine ⟨fun id name hv => ?_, added, hc, fun c hmem => (hadded c hmem).imp ?_ ?_⟩
  · obtain ⟨v, hv⟩ := Option.isSome_iff_exists.1 hv
    rw [hlook, if_pos (Scopes.slot_lt (Scopes.contains_of_look hv))]
    refine h.bound id name ?_
    rw [Machine.enter, Scopes.look_push, hv]
    rfl
  · -- The new scope counts as one that was yet to come.
    rintro id (hlive | hserial)
    · rcases Scopes.contains_of_push hlive with hlive | rfl
      · exact .inl hlive
      · exact .inr (Nat.le_refl _)
    · exact .inr (Nat.le_of_succ_le hserial)
  · intro id name hbound hlive
    have hlive' : m.scopes.contains id := by rwa [← Scopes.contains_congr hb.leave.skeleton]
    rw [hlook, if_pos (Scopes.slot_lt hlive')]
    refine hbound ?_
    rw [Scopes.contains_congr hb.skeleton]
    exact Scopes.contains_push hlive' parent

/-- What is run as a call. -/
theorem leaveCall (h : Anchors replays m.enterCall m') (hb : Bracketed D m.enterCall m') :
    Anchors replays m { m'.leave m with callDepth := m'.callDepth - 1 } := by
  -- How deeply calls are nested is of no account for scopes and breadcrumbs.
  have hleave : Anchors replays { m with callDepth := m.callDepth + 1 } (m'.leave m) := h.leave hb
  exact ⟨hleave.bound, hleave.crumbs⟩

/-- The newest breadcrumb above the marker is anchored, and so are the others. -/
theorem popAbove {marker : Marker} (h : Anchors replays m m')
    (hmarker : ∃ old, m.ledger.crumbs = .marker marker :: old) {c : Breadcrumb} {l : Ledger}
    (hpop : m'.ledger.popAbove marker = some (c, l)) :
    c.Anchored replays m.scopes m'.scopes ∧ Anchors replays m { m' with ledger := l } := by
  obtain ⟨old, hold⟩ := hmarker
  obtain ⟨added, hc, hadded⟩ := h.crumbs
  obtain ⟨hcrumbs, hne, -⟩ := Ledger.popAbove_eq_some hpop
  cases added with
  | nil =>
    -- Then the marker itself would be on top.
    rw [hc, List.nil_append, hold] at hcrumbs
    exact absurd (List.cons.inj hcrumbs).1.symm hne
  | cons c' added =>
    obtain ⟨rfl, hl⟩ := List.cons.inj (hcrumbs.symm.trans hc)
    obtain ⟨hanchored, hadded⟩ := List.forall_mem_cons.1 hadded
    exact ⟨hanchored, h.bound, added, hl, hadded⟩

section Open

variable {marker : Marker} {l : Ledger}
  (hl : m.ledger.openSkip m.scopes.nextSerial = .ok (marker, l))
  (hm : (bracketing D).pre m) (hb : Bracketed D { m with ledger := l } m')
  (h : Anchors replays { m with ledger := l } m')
include hl hm hb h

theorem closeSkip : Anchors replays m (m'.closeSkip marker) := by
  obtain ⟨added, hc, hadded⟩ := h.crumbs
  have hcrumbs : m'.ledger.crumbs = added ++ .marker marker :: m.ledger.crumbs :=
    hc.trans (by rw [(Ledger.openSkip_eq_ok hl).2.1])
  have hclose := hb.ledger.crumbs_close hl id hcrumbs
  by_cases hopen : m.ledger.openSkips = 0
  · -- Without another open skip there is nothing that could be restored any more.
    refine ⟨h.bound, [], ?_, List.forall_mem_nil _⟩
    exact (hclose.trans (if_pos hopen)).trans (hm.1 hopen).symm
  · exact ⟨h.bound, added, hclose.trans (if_neg hopen), hadded⟩

theorem discardSkip : Anchors replays m (m'.discardSkip marker) :=
  of_look (by rw [bracketing.ledger_discardSkip hl hm hb]) h.bound

end Open

end Anchors

/-! ### Restoring -/

/-- An entry is stored back unless something that is no map is in the way. -/
theorem Scopes.restoreEntry_eq_error {ss : Scopes} {scope : ScopeId} {name : String}
    {path : List Value} {key value : Value} {e : Failure} (hlive : ss.contains scope)
    (hbound : (ss.look scope name).isSome)
    (h : ss.restoreEntry scope name path (.pair key value) = .error e) :
    ∃ w : Value, w.kind ≠ .map ∧ e = .unexpected .map w := by
  obtain ⟨bound, hlook⟩ := Option.isSome_iff_exists.1 hbound
  cases hu : bound.updatePath (path ++ [key]) value with
  | ok updated =>
    rw [restoreEntry_eq hlook hu, define_eq hlive] at h
    exact absurd h (by simp)
  | error e' =>
    simp only [restoreEntry, getLocal_eq hlive, hlook, bind, Except.bind, hu,
      Except.error.injEq] at h
    exact h ▸ Value.updatePath_eq_error hu

namespace Evaluator

variable {marker : Marker} {c : Breadcrumb}

/-- An anchored breadcrumb without a statement is restored, and no name is unbound, unless it
    is an entry and something that is no map is in the way. -/
theorem restore_anchored (r : Evaluator) (enclosing : ScopeId) (hc : c.Anchored replays ss m.scopes)
    (hforesees : ∀ id, ss.Foresees id → m.scopes.contains id ∨ marker.encloses id.serial)
    (hreplay : ∀ scope undo, c ≠ .replay scope undo) :
    (∃ tt, r.restore marker enclosing c m = some (.ok (), { m with scopes := tt }) ∧
      tt.skeleton = m.scopes.skeleton ∧
      ∀ id name, (m.scopes.look id name).isSome → (tt.look id name).isSome) ∨
    ∃ w : Value, w.kind ≠ .map ∧ (∃ scope name path previous, c = .entry scope name path previous) ∧
      r.restore marker enclosing c m = some (.error (.failure (.unexpected .map w)), m) := by
  cases c with
  | marker => exact absurd hc id
  | replay scope undo => exact absurd rfl (hreplay scope undo)
  | binding scope name previous =>
    by_cases hlive : m.scopes.contains scope
    · have hd := Scopes.define_eq hlive name previous
      refine .inl ⟨_, (Run.whenRestorable_live hlive).trans ?_, Scopes.skeleton_define hd,
        Scopes.isSome_look_define hd⟩
      exact Run.updateScopes_eq (f := fun ss => ss.define scope name previous) hd
    · exact .inl ⟨m.scopes,
        Run.whenRestorable_gone hlive ((hforesees _ hc).resolve_left hlive), rfl,
        fun _ _ h => h⟩
  | entry scope name path previous =>
    obtain ⟨hscope, ⟨key, value, rfl⟩, hbound⟩ := hc
    by_cases hlive : m.scopes.contains scope
    · have hrun : r.restore marker enclosing (.entry scope name path (.pair key value)) m =
          Run.updateScopes (fun ss => ss.restoreEntry scope name path (.pair key value)) m :=
        Run.whenRestorable_live hlive
      cases hss : m.scopes.restoreEntry scope name path (.pair key value) with
      | ok tt =>
        obtain ⟨_, _, _, _, -, -, -, hd⟩ := Scopes.restoreEntry_eq_ok hss
        refine .inl ⟨tt, hrun.trans ?_, Scopes.skeleton_define hd, Scopes.isSome_look_define hd⟩
        exact Run.updateScopes_eq
          (f := fun ss => ss.restoreEntry scope name path (.pair key value)) hss
      | error e =>
        obtain ⟨w, hw, rfl⟩ := Scopes.restoreEntry_eq_error hlive (hbound hlive) hss
        refine .inr ⟨w, hw, ⟨scope, name, path, _, rfl⟩, hrun.trans ?_⟩
        rw [Run.updateScopes, hss]
        rfl
    · exact .inl ⟨m.scopes, Run.whenRestorable_gone hlive ((hforesees _ hscope).resolve_left hlive),
        rfl, fun _ _ h => h⟩

end Evaluator

/-! ### Recording -/

theorem Rebinding.Stores.anchored {b : Rebinding} {bound value : Value} {path : List Value}
    (h : b.Stores bound value path) (hlook : ss.look b.owner b.name = some bound)
    (hbound : (ss'.look b.owner b.name).isSome) : b.crumb.Anchored replays ss ss' := by
  have hforesees : ss.Foresees b.owner := .inl (Scopes.contains_of_look hlook)
  cases h with
  | name => exact hforesees
  | entry => exact ⟨hforesees, ⟨_, _, rfl⟩, fun _ => hbound⟩

/-- A breadcrumb is recorded, if any skip is open, and no name is unbound. -/
theorem Anchors.record {c : Breadcrumb} {l : Ledger} (hl : m.ledger.record c = .ok l)
    (hc : c.Anchored replays m.scopes ss)
    (hbound : ∀ id name, (m.scopes.look id name).isSome → (ss.look id name).isSome) :
    Anchors replays m { m with ledger := l, scopes := ss } := by
  obtain ⟨added, hcrumbs, hadded, -⟩ :=
    (Ledger.Extends.record (P := fun c' => c' = c) rfl hl).crumbs
  exact ⟨hbound, added, hcrumbs, fun c' hmem => hadded c' hmem ▸ hc⟩

/-! ### The contract -/

/-- Whether among the failures there may be are the ordinary ones, reversals that nothing took,
    and what replaying a statement makes of others. -/
structure Failure.Admits (F : Failure → Prop) : Prop where
  ordinary : ∀ {e : Failure}, e.Ordinary → F e
  unhandled : ∀ payload, F (.unhandledReversal payload)
  undoEnded : ∀ flow, F (.restoreFailed (.undoEnded flow))
  undoReversed : ∀ payload, F (.restoreFailed (.undoReversed payload))
  undoFailed : ∀ {e}, F e → F (.restoreFailed (.undoFailed e))

variable {F : Failure → Prop}

variable (D replays) in
/-- The contract that breadcrumbs are anchored. Statements are to be replayed only if
    `replays` holds. -/
def anchoring (hF : Failure.Admits F) : Contract where
  discipline := D
  failure := F
  pre m := (bracketing D).pre m ∧ m.Anchored
  post m e m' := (bracketing D).post m e m' ∧ (e ≠ .failure → Anchors replays m m')
  ordinary := hF.ordinary
  bound h := h.1.2
  lookup h he := by
    rw [h.2.rooted.get_eq_error h.2.live he]
    exact hF.ordinary trivial
  refl h := ⟨(bracketing D).refl h.1, fun _ => .refl _⟩
  fail h := ⟨(bracketing D).fail h.1, fun he => absurd rfl he⟩
  next h h' := ⟨(bracketing D).next h.1 h'.1, h.2.of_bracketed h'.1.1⟩
  trans h h' h'' := by
    refine ⟨(bracketing D).trans h.1 h'.1 h''.1, fun he => ?_⟩
    exact (h'.2 (by simp)).trans (h''.2 he) h'.1.1 h''.1.1

namespace anchoring

variable {hF : Failure.Admits F} {α : Type} {V : α → Prop} {x : Run α}

/-- Whether a run from `m` anchors what it adds, and fails only as it may. -/
def Anchored (replays : Prop) (F : Failure → Prop) (m : Machine) (r : Except Stop α)
    (m' : Machine) : Prop :=
  (Ending.of r ≠ .failure → Anchors replays m m') ∧ ∀ e, r = .error (.failure e) → F e

theorem Anchored.of_fails {e : Failure} (h : F e) :
    Anchored (α := α) replays F m (.error (.failure e)) m' :=
  ⟨fun he => absurd rfl he, fun _ he => Stop.failure.inj (Except.error.inj he) ▸ h⟩

theorem Anchored.of_not_fails {r : Except Stop α} (h : Anchors replays m m')
    (hr : ∀ e, r ≠ .error (.failure e)) : Anchored replays F m r m' :=
  ⟨fun _ => h, fun e he => absurd he (hr e)⟩

/-- It remains to be shown how a run that brackets what it does anchors what it adds. -/
theorem meets (hx : (bracketing D).Meets V x)
    (h : ∀ m r m', (anchoring D replays hF).pre m → x m = some (r, m') →
      Anchored replays F m r m') : (anchoring D replays hF).Meets V x := by
  intro m r m' hm hr
  obtain ⟨hpost, hV⟩ := hx m r m' hm.1 hr
  obtain ⟨hanchors, hfails⟩ := h m r m' hm hr
  refine ⟨⟨hpost, hanchors⟩, ?_⟩
  match r, hV, hfails with
  | .ok a, hV, _ => exact hV
  | .error (.reversal payload), hV, _ => exact hV
  | .error (.failure e), _, hfails => exact hfails e rfl

theorem anchored (hx : (anchoring D replays hF).Meets V x) (hm : (anchoring D replays hF).pre m)
    {r : Except Stop α} (hr : x m = some (r, m')) : Anchored replays F m r m' := by
  obtain ⟨⟨-, hanchors⟩, hV⟩ := hx m r m' hm hr
  exact ⟨hanchors, fun e he => by subst he; exact hV⟩

theorem pre_enter (hm : (anchoring D replays hF).pre m) {parent : ScopeId}
    (hparent : m.scopes.contains parent) : (anchoring D replays hF).pre (m.enter parent) :=
  ⟨bracketing.pre_enter hm.1 parent, hm.2.enter hparent⟩

theorem pre_enterCall (hm : (anchoring D replays hF).pre m) :
    (anchoring D replays hF).pre m.enterCall :=
  ⟨bracketing.pre_enterCall hm.1, hm.2.enterCall⟩

theorem pre_open {marker : Marker} {l : Ledger}
    (hl : m.ledger.openSkip m.scopes.nextSerial = .ok (marker, l))
    (hm : (anchoring D replays hF).pre m) : (anchoring D replays hF).pre { m with ledger := l } :=
  ⟨bracketing.pre_open hl hm.1, hm.2.rooted, hm.2.live⟩

theorem meets_inBlock (hx : (anchoring D replays hF).Meets V x) :
    (anchoring D replays hF).Meets V (Run.inBlock x) := by
  intro m r m' hm hr
  obtain ⟨m₁, hr₁, rfl⟩ := Run.inBlock_eq_some hr
  obtain ⟨⟨⟨hb, hcalm⟩, hanchors⟩, hV⟩ := hx _ r m₁ (pre_enter hm hm.2.live) hr₁
  exact ⟨⟨⟨hb.leave, hcalm⟩, fun he => (hanchors he).leave hb⟩, hV⟩

theorem meets_inCall (hx : (anchoring D replays hF).Meets V x) :
    (anchoring D replays hF).Meets V (Run.inCall x) := by
  intro m r m' hm hr
  obtain ⟨rfl, rfl⟩ | ⟨m₁, -, hr₁, rfl⟩ := Run.inCall_eq_some hr
  · exact ⟨(anchoring D replays hF).fail hm, hF.ordinary trivial⟩
  · obtain ⟨⟨⟨hb, hcalm⟩, hanchors⟩, hV⟩ := hx _ r m₁ (pre_enterCall hm) hr₁
    exact ⟨⟨⟨hb.leaveCall, hcalm⟩, fun he => (hanchors he).leaveCall hb⟩, hV⟩

theorem meets_declare (name : String) {v : Value} (hv : D.value v) :
    (anchoring D replays hF).Meets (fun _ => True) (Run.declare name v) := by
  refine meets (.bind (V := fun _ => True) (.read fun _ => trivial) fun scope _ =>
    bracketing.meets_define scope name hv) fun m r m' hm hr => ?_
  have hdefine : Run.define m.current name v m = some (r, m') := hr
  obtain ⟨ss, hd, rfl, rfl⟩ | ⟨e, -, -, he⟩ := Run.updateScopes_eq_some hdefine
  · exact .of_not_fails (.define (l := m.ledger) rfl hd) (by simp)
  · rw [Scopes.define_eq hm.2.live] at he
    exact absurd he (by simp)

theorem meets_store (t : Target) {v : Value} (hpath : ∀ k ∈ t.path, D.value k) (hv : D.value v) :
    (anchoring D replays hF).Meets (fun _ => True) (Run.store t v) := by
  refine meets (bracketing.meets_store t hpath hv) fun m r m' hm hr => ?_
  obtain ⟨b, m₁, ss, hb, hrecord, hd, rfl, rfl⟩ | ⟨e, rfl, -, he⟩ := Run.store_eq_some hr
  · obtain ⟨bound, hlook, hstores⟩ := Target.rebinding_eq_ok hb
    refine .of_not_fails ?_ (by simp)
    obtain ⟨-, -, rfl⟩ | ⟨l, -, hl, -, rfl⟩ | ⟨e, he, -⟩ := Run.record_eq_some hrecord
    · exact .define (l := m₁.ledger) rfl hd
    · refine .record hl (hstores.anchored hlook ?_) (Scopes.isSome_look_define hd)
      rw [Scopes.look_define hd, if_pos ⟨rfl, rfl⟩]
      rfl
    · exact absurd he (by simp)
  · refine .of_fails ?_
    rcases he with he | ⟨b, -, he⟩
    · exact hF.ordinary (Target.ordinary_of_rebinding hm.2.rooted hm.2.live he)
    · exact hF.ordinary (Ledger.record_eq_error he ▸ trivial)

theorem meets_record {undo : Stmt} (hundo : D.stmt undo) (hreplays : replays) :
    (anchoring D replays hF).Meets (fun _ => True) (do
      let scope ← Run.read (·.current)
      Run.record (.replay scope undo)) := by
  refine meets (.bind (V := fun _ => True) (.read fun _ => trivial) fun scope _ =>
    bracketing.meets_record hundo) fun m r m' hm hr => ?_
  have hrecord : Run.record (.replay m.current undo) m = some (r, m') := hr
  obtain ⟨-, rfl, rfl⟩ | ⟨l, -, hl, rfl, rfl⟩ | ⟨e, rfl, -, he⟩ := Run.record_eq_some hrecord
  · exact .of_not_fails (.refl m') (by simp)
  · exact .of_not_fails (.record hl ⟨hreplays, .inl hm.2.live⟩ fun _ _ h => h) (by simp)
  · exact .of_fails (hF.ordinary (Ledger.record_eq_error he ▸ trivial))

/-! ### Rollbacks -/

section Rollback

variable {r : Evaluator} (hr : r.Satisfies (anchoring D replays hF)) {marker : Marker}
  {enclosing : ScopeId}
include hr

/-- A statement that is replayed in a live scope anchors what it adds, and if it does not end
    normally that is a failure there may be. -/
theorem replay (hm : (anchoring D replays hF).pre m) {scope : ScopeId}
    (hscope : m.scopes.contains scope) {undo : Stmt} (hundo : D.stmt undo) {x : Except Stop Unit}
    (hx : r.replay scope undo m = some (x, m')) : Anchored replays F m x m' := by
  obtain ⟨y, m₁, hy, hx⟩ := Run.attempt_bind_eq_some hx
  obtain ⟨m₂, hexec, rfl⟩ := Run.inScope_eq_some hy
  have hpre : (anchoring D replays hF).pre { m with current := scope } :=
    ⟨hm.1, hm.2.rooted, hscope⟩
  obtain ⟨hanchors, hfails⟩ := anchored (hr.exec undo hundo) hpre hexec
  split at hx
  · obtain ⟨rfl, rfl⟩ := Run.pure_eq_some hx
    have h := hanchors (by simp [Ending.of])
    exact .of_not_fails ⟨h.bound, h.crumbs⟩ (by simp)
  all_goals obtain ⟨rfl, rfl⟩ := Run.fail_eq_some hx
  · exact .of_fails (hF.undoEnded _)
  · exact .of_fails (hF.undoReversed _)
  · exact .of_fails (hF.undoFailed (hfails _ rfl))

/-- Restoring an anchored breadcrumb anchors what that adds. -/
theorem restore (hm : (anchoring D replays hF).pre m) {c : Breadcrumb} (hobey : c.Obey D)
    (hc : c.Anchored replays ss m.scopes)
    (hforesees : ∀ id, ss.Foresees id → m.scopes.contains id ∨ marker.encloses id.serial)
    (henclosing : m.scopes.contains enclosing) {x : Except Stop Unit}
    (hx : r.restore marker enclosing c m = some (x, m')) : Anchored replays F m x m' := by
  by_cases hreplay : ∃ scope undo, c = .replay scope undo
  · obtain ⟨scope, undo, rfl⟩ := hreplay
    rw [Evaluator.restore, Run.bind_apply, Run.restorable, Run.query, Scopes.restorable] at hx
    -- If its scope is gone, the statement is run in the one around the skip.
    by_cases hlive : m.scopes.contains scope
    · rw [if_pos hlive] at hx
      exact replay hr hm hlive hobey hx
    · rw [if_neg hlive, if_pos ((hforesees scope hc.2).resolve_left hlive)] at hx
      exact replay hr hm henclosing hobey hx
  · have hnone : ∀ scope undo, c ≠ .replay scope undo :=
      fun scope undo h => hreplay ⟨scope, undo, h⟩
    rcases r.restore_anchored enclosing hc hforesees hnone with
      ⟨tt, htt, -, hbound⟩ | ⟨w, -, -, hw⟩
    · obtain ⟨rfl, rfl⟩ := Prod.mk.inj (Option.some.inj (htt.symm.trans hx))
      exact .of_not_fails (.of_look rfl hbound) (by simp)
    · obtain ⟨rfl, rfl⟩ := Prod.mk.inj (Option.some.inj (hw.symm.trans hx))
      exact .of_fails (hF.ordinary trivial)

section

variable (hrb : r.Satisfies (bracketing D)) {m₁ : Machine}
  (hm₁ : (anchoring D replays hF).pre m₁)
  (hmarker : ∃ old, m₁.ledger.crumbs = .marker marker :: old)
  (hhorizon : marker.horizon = m₁.scopes.nextSerial) (henclosing : enclosing = m₁.current)
  (hb : Bracketed D m₁ m) (h : Anchors replays m₁ m)
include hrb hm₁ hmarker hhorizon henclosing hb h

/-- A breadcrumb is taken from above the marker and restored, in the rollback of the skip that
    was entered in `m₁`. -/
theorem popAbove {c : Breadcrumb} {l : Ledger} (hpop : m.ledger.popAbove marker = some (c, l))
    {x : Except Stop Unit}
    (hx : r.restore marker enclosing c { m with ledger := l } = some (x, m')) :
    Anchored replays F m₁ x m' := by
  obtain ⟨hobey, hl⟩ := hb.ledger.popAbove hmarker hpop
  obtain ⟨hc, hrest⟩ := h.popAbove hmarker hpop
  have hb' : Bracketed D m₁ { m with ledger := l } := hb.withLedger hl
  have hpre : (anchoring D replays hF).pre { m with ledger := l } :=
    ⟨⟨hl.tidy hm₁.1.1, hb.bound⟩, hm₁.2.of_bracketed hb'⟩
  have hlive : ∀ id, m.scopes.contains id = m₁.scopes.contains id :=
    Scopes.contains_congr hb.skeleton
  -- What is not live any more was created inside the skip.
  have hforesees : ∀ id, m₁.scopes.Foresees id →
      m.scopes.contains id ∨ marker.encloses id.serial := by
    intro id hid
    rw [hlive, Marker.encloses, hhorizon, decide_eq_true_eq]
    exact hid
  have hlive' : m.scopes.contains enclosing := by
    rw [henclosing, hlive]
    exact hm₁.2.live
  obtain ⟨hanchors, hfails⟩ := restore hr hpre hobey hc hforesees hlive' hx
  obtain ⟨⟨hb₂, -⟩, -⟩ := bracketing.meets_restore hrb hobey _ _ m' hpre.1 hx
  exact ⟨fun he => hrest.trans (hanchors he) hb' hb₂, hfails⟩

/-- Whatever a rollback has restored so far, what is left above the marker is anchored. -/
theorem restores {cs : List Breadcrumb} (hcs : r.Restores marker enclosing m cs m') :
    Anchors replays m₁ m' := by
  induction hcs with
  | nil => exact h
  | cons hpop hrestore _ ih =>
    refine ih (bracketing.popAbove hrb hm₁.1 hmarker hb hpop hrestore) ?_
    exact (popAbove hr hrb hm₁ hmarker hhorizon henclosing hb h hpop hrestore).1
      (by simp [Ending.of])

/-- A rollback fails only as it may. -/
theorem restoreAbove {n : Nat} {x : Except Stop Unit}
    (hx : r.restoreAbove marker enclosing n m = some (x, m')) : Anchored replays F m₁ x m' := by
  obtain ⟨cs, m₂, hcs, -, hend⟩ := r.restores_of_restoreAbove hx
  have hb₂ := bracketing.restores hrb hm₁.1 hmarker hb hcs
  have h₂ := restores hr hrb hm₁ hmarker hhorizon henclosing hb h hcs
  obtain ⟨rfl, rfl, -⟩ | ⟨c, l, e, rfl, hpop, hrestore⟩ := hend
  · exact .of_not_fails h₂ (by simp)
  · exact popAbove hr hrb hm₁ hmarker hhorizon henclosing hb₂ h₂ hpop hrestore

end

end Rollback

/-! ### Skips -/

section Skip

variable {r : Evaluator} (hr : r.Satisfies (anchoring D replays hF))
include hr

omit hr in
/-- A reversal that is over is none that has been left behind. -/
theorem meets_resume : (anchoring D replays hF).Meets (fun _ => True) (Run.setReversing false) := by
  intro m x m' hm hx
  obtain ⟨rfl, rfl⟩ := Prod.mk.inj (Option.some.inj hx)
  exact ⟨⟨⟨(Bracketed.refl hm.1.2).withReversing false, fun _ h => absurd h (by simp)⟩,
    fun _ => .of_look rfl fun _ _ h => h⟩, trivial⟩

theorem meets_seize {b : Block} (hb : ∀ s ∈ b, D.stmt s) :
    (anchoring D replays hF).Meets (Flow.Obey D.value) (r.seize b) :=
  .bind meets_resume fun _ _ => meets_inBlock (hr.execAll hb)

theorem meets_dispatch {payload : Value} (hpayload : D.value payload) {kept : Option Block}
    {seizes : List Seize} (hkept : ∀ s ∈ kept.getD [], D.stmt s)
    (hseizes : ∀ c ∈ seizes, ∀ s ∈ c.body, D.stmt s) :
    (anchoring D replays hF).Meets (Flow.Obey D.value) (r.dispatch payload kept seizes) := by
  refine hr.dispatch (meets_seize hr) (fun hm => ?_) hpayload hkept hseizes
  exact ⟨⟨.refl hm.1.2, fun h => absurd h (by simp)⟩, fun _ => .refl _⟩

theorem meets_skip (hrb : r.Satisfies (bracketing D)) {body : Block} {seizes : List Seize}
    (hbody : ∀ s ∈ body, D.stmt s) (hseizes : ∀ c ∈ seizes, ∀ s ∈ c.body, D.stmt s) :
    (anchoring D replays hF).Meets (Flow.Obey D.value) (r.skip body seizes) := by
  have hblock := meets_inBlock (hr.execAll hbody)
  refine meets (bracketing.meets_skip hrb hbody hseizes) fun m x m' hm hx => ?_
  cases r.skipped hx with
  | full hfull => exact .of_fails (hF.ordinary (Ledger.openSkip_eq_error hfull ▸ trivial))
  | returned hl h =>
    obtain ⟨⟨⟨hb, -⟩, hanchors⟩, -⟩ := hblock _ _ _ (pre_open hl hm) h
    exact .of_not_fails ((hanchors (by simp [Ending.of])).discardSkip hl hm.1 hb) (by simp)
  | closed hl h hflow =>
    obtain ⟨⟨⟨hb, -⟩, hanchors⟩, -⟩ := hblock _ _ _ (pre_open hl hm) h
    exact .of_not_fails ((hanchors (by simp [Ending.of])).closeSkip hl hm.1 hb) (by simp)
  | failed hl h =>
    exact .of_fails ((anchored hblock (pre_open hl hm) h).2 _ rfl)
  | stuck hl h hroll =>
    obtain ⟨⟨⟨hb, -⟩, hanchors⟩, -⟩ := hblock _ _ _ (pre_open hl hm) h
    obtain ⟨hmarker, hcrumbs, -⟩ := Ledger.openSkip_eq_ok hl
    have hrolled := restoreAbove hr hrb (pre_open hl hm) ⟨_, hcrumbs⟩
      (congrArg Marker.horizon hmarker) rfl hb (hanchors (by simp [Ending.of])) hroll
    exact .of_fails (hrolled.2 _ rfl)
  | reversed hl h hroll hdispatch =>
    obtain ⟨⟨⟨hb, -⟩, hanchors⟩, hpayload⟩ := hblock _ _ _ (pre_open hl hm) h
    obtain ⟨hmarker, hcrumbs, -⟩ := Ledger.openSkip_eq_ok hl
    have hrolled := restoreAbove hr hrb (pre_open hl hm) ⟨_, hcrumbs⟩
      (congrArg Marker.horizon hmarker) rfl hb (hanchors (by simp [Ending.of])) hroll
    have hb₂ := (bracketing.restoreAbove hrb (pre_open hl hm).1 ⟨_, hcrumbs⟩ hb hroll).1
    have hb₃ := bracketing.closeSkip hl hm.1 hb₂
    have hanchors₃ := (hrolled.1 (by simp [Ending.of])).closeSkip hl hm.1 hb₂
    have hpre : (anchoring D replays hF).pre _ :=
      ⟨⟨hb₃.ledger.tidy hm.1.1, hb₃.bound⟩, hm.2.of_bracketed hb₃⟩
    -- The seizes are tried with nothing left above where the skip was entered.
    have hkept : ∀ s ∈ (none : Option Block).getD [], D.stmt s := List.forall_mem_nil _
    have hdispatches := meets_dispatch hr hpayload hkept hseizes
    obtain ⟨⟨⟨hb₄, -⟩, -⟩, -⟩ := hdispatches _ _ _ hpre hdispatch
    obtain ⟨hanchors₄, hfails⟩ := anchored hdispatches hpre hdispatch
    exact ⟨fun he => hanchors₃.trans (hanchors₄ he) hb₃ hb₄, hfails⟩

end Skip

/-- Anchoring is lawful if statements to be replayed are recorded only where they may be, and
    the native functions of the host fail only as they may. -/
theorem lawful {host : Host} (hhost : host.Keeps D.value) (hfails : host.FailsBy F)
    (hundo : ∀ {e undo l}, D.stmt ⟨.expr e (some undo), l⟩ → replays) :
    (anchoring D replays hF).Lawful host where
  keeps := hhost
  nativeFailure {m code argc e s} hm he := by
    cases code with
    | builtin b => exact hF.ordinary (b.fails_ordinarily _ _ _ _ _ hm.2.rooted hm.2.live he)
    | host key => exact hfails key _ _ _ _ hm.2.rooted hm.2.live he
  declare name v hv := meets_declare name hv
  store t v hpath hv := meets_store t hpath hv
  record h := meets_record (D.parts h _ (List.mem_singleton_self _)) (hundo h)
  locate l := by
    refine meets ((bracketing.lawful hhost).locate l) fun m r m' hm hr => ?_
    obtain ⟨rfl, rfl⟩ := Prod.mk.inj (Option.some.inj hr)
    exact .of_not_fails (.of_look rfl fun _ _ h => h) (by simp)
  surround s hm he :=
    ⟨(bracketing.lawful hhost).surround s hm.1 he, fun _ => .of_look rfl fun _ _ h => h⟩
  reverse hm := ⟨(bracketing.lawful hhost).reverse hm.1, fun _ => .of_look rfl fun _ _ h => h⟩
  inBlock := meets_inBlock
  inCall := meets_inCall
  skip fuel body seizes l hr hs := by
    have hrb := (bracketing.lawful hhost).evaluator fuel
    obtain ⟨hbody, hseizes⟩ := List.forall_mem_append.1 (D.parts hs)
    exact meets_skip hr hrb hbody fun c hc s hs => hseizes s (List.mem_flatMap.2 ⟨c, hc, hs⟩)

end anchoring

end Retrace
