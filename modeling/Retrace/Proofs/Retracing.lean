import Retrace.Proofs.Undoing

/-!
# What can be taken back

While a skip is open, the breadcrumbs that a run of a plain program adds lead
back from the machine after it to the one before (`Retraces`), unless the run
fails. This takes three facts. An assignment records how to take it back
(`Rebinding.Stores.undone`). A declaration is not recorded, but it only
concerns the scope that is being run in; so it is for all other scopes that a
run is led back, and for a block or a call, whose own scope is new and soon
gone, it is for all there were (`Retraces.leave`). And a skip inside the run
either leaves its breadcrumbs to the one around it, or is itself taken back to
where it was entered.

Together this makes a lawful contract (`retracing`). So a body that a reversal
leaves can be taken back, whatever it did (`retracing.body`).
-/

namespace Retrace

namespace Rebinding.Stores

variable {bound value : Value} {path : List Value} {b : Rebinding}

theorem concerns_iff (h : b.Stores bound value path) (id : ScopeId) (name : String) :
    b.crumb.Concerns id name ↔ b.owner = id ∧ b.name = name := by
  cases h with
  | name => exact Iff.rfl
  | entry => exact Iff.rfl

theorem fits (h : b.Stores bound value path) {ss : Scopes} (hlive : ss.contains b.owner) :
    b.crumb.Fits ss := by
  cases h with
  | name => exact .inl hlive
  | entry => exact ⟨.inl hlive, _, _, rfl⟩

/-- The breadcrumb of an assignment leads back to what there was before. -/
theorem undone (h : b.Stores bound value path) (hbound : bound.WellFormed)
    (hpath : ∀ k ∈ path, k.WellFormed) (hvalue : value.WellFormed) :
    ∃ w, Undone b.owner b.name [b.crumb] b.value w ∧ w.Alike bound := by
  cases h with
  | name owner name => exact ⟨bound, .binding (.nil bound), .refl bound⟩
  | entry owner name hcontainer hprevious hupdated =>
    obtain ⟨hparents, hkey⟩ := List.forall_mem_append.1 hpath
    obtain ⟨u, hu, hub⟩ := Value.updatePath_restore hbound hparents
      (List.forall_mem_singleton.1 hkey) hvalue hupdated hcontainer hprevious
    exact ⟨u, .entry hu (.nil u), hub⟩

end Rebinding.Stores

/-- What was recorded in a new scope counts as recorded in one that was yet to come. -/
theorem Breadcrumb.Fits.leave {c : Breadcrumb} {m : Machine} {parent : ScopeId}
    (h : c.Fits (m.enter parent).scopes) : c.Fits m.scopes := by
  refine h.imp fun id hid => ?_
  rcases hid with hid | hid
  · rcases Scopes.contains_of_push hid with hid | rfl
    · exact .inl hid
    · exact .inr (Nat.le_refl _)
  · exact .inr (Nat.le_of_succ_le hid)

/-- A scope that was live before a new one was entered binds the same once that is left. -/
theorem Machine.look_leave {m : Machine} {id : ScopeId} (h : m.scopes.contains id) (m' : Machine)
    (name : String) : (m'.leave m).scopes.look id name = m'.scopes.look id name :=
  (Scopes.look_discard ..).trans (if_pos (Scopes.slot_lt h))

namespace Retraces

variable {S : ScopeId → Prop} {m m' : Machine} {added : List Breadcrumb}

/-- The machine after a rebinding that has been recorded is led back to the one before. -/
theorem of_stores {b : Rebinding} {bound value : Value} {path : List Value} {l : Ledger}
    {ss : Scopes} (h : b.Stores bound value path)
    (hlook : m.scopes.look b.owner b.name = some bound) (hbound : bound.WellFormed)
    (hpath : ∀ k ∈ path, k.WellFormed) (hvalue : value.WellFormed)
    (hl : l.crumbs = b.crumb :: m.ledger.crumbs)
    (hd : m.scopes.define b.owner b.name b.value = .ok ss) :
    Retraces S m { m with ledger := l, scopes := ss } [b.crumb] := by
  have hlook' := Scopes.look_define hd
  refine ⟨hl, ?_, fun id name _ _ hnone => ?_, fun id name v _ hv => ?_⟩
  · exact List.forall_mem_singleton.2 (h.fits (Scopes.contains_of_look hlook))
  · -- A name that was not bound is not the one that is assigned to.
    have hne : ¬(b.owner = id ∧ b.name = name) := by
      rintro ⟨rfl, rfl⟩
      exact absurd (hlook.symm.trans hnone) (by simp)
    refine ⟨by rw [hlook', if_neg hne, hnone], ?_⟩
    exact List.forall_mem_singleton.2 (mt (h.concerns_iff id name).1 hne)
  · by_cases hname : b.owner = id ∧ b.name = name
    · obtain ⟨rfl, rfl⟩ := hname
      obtain rfl := Option.some.inj (hlook.symm.trans hv)
      obtain ⟨w, hw, hwb⟩ := h.undone hbound hpath hvalue
      exact ⟨b.value, w, by rw [hlook', if_pos ⟨rfl, rfl⟩], hw, hwb⟩
    · refine ⟨v, v, by rw [hlook', if_neg hname, hv], ?_, .refl v⟩
      exact .pass (mt (h.concerns_iff id name).1 hname) (.nil v)

/-- What is run in a new scope is led back for all scopes there were before. -/
theorem leave {parent : ScopeId}
    (h : Retraces (· ≠ (m.enter parent).current) (m.enter parent) m' added) :
    Retraces (fun _ => True) m (m'.leave m) added := by
  have hpush : ∀ id name, (m.enter parent).scopes.look id name = m.scopes.look id name :=
    Scopes.look_push m.scopes parent
  refine ⟨h.crumbs, fun c hc => (h.fits c hc).leave, fun id name _ hid hnone => ?_,
    fun id name v _ hv => ?_⟩
  · rw [Machine.look_leave hid]
    exact h.unbound id name (Scopes.ne_push hid parent) (Scopes.contains_push hid parent)
      ((hpush id name).trans hnone)
  · have hid := Scopes.contains_of_look hv
    rw [Machine.look_leave hid]
    exact h.bound id name v (Scopes.ne_push hid parent) ((hpush id name).trans hv)

/-- What is run as a call is led back for all scopes there were before. -/
theorem leaveCall (h : Retraces (· ≠ m.enterCall.current) m.enterCall m' added) :
    Retraces (fun _ => True) m { m'.leave m with callDepth := m'.callDepth - 1 } added := by
  -- How deeply calls are nested is of no account for what names are bound to.
  have hleave : Retraces _ { m with callDepth := m.callDepth + 1 } (m'.leave m) added := h.leave
  exact ⟨hleave.crumbs, hleave.fits, hleave.unbound, hleave.bound⟩

end Retraces

/-! ### Seizes -/

/-- A reversal that is dispatched fails or goes on, and then nothing has changed, or a seize
    takes it, if evaluating the patterns changes nothing. -/
theorem Evaluator.dispatch_eq_some (r : Evaluator) {payload : Value} {kept : Option Block}
    {seizes : List Seize} (hstill : ∀ c ∈ seizes, ∀ pattern ∈ c.trigger, (r.eval pattern).Still)
    {m m' : Machine} {x : Except Stop Flow}
    (h : r.dispatch payload kept seizes m = some (x, m')) :
    (∃ e, x = .error e ∧ m' = m) ∨
      ∃ b, (b ∈ kept ∨ ∃ c ∈ seizes, b = c.body) ∧
        r.block b { m with reversing := false } = some (x, m') := by
  induction seizes generalizing kept with
  | nil =>
    cases kept with
    | none =>
      obtain ⟨rfl, rfl⟩ := Run.stop_eq_some h
      exact .inl ⟨_, rfl, rfl⟩
    | some b => exact .inr ⟨b, .inl rfl, h⟩
  | cons c seizes ih =>
    obtain ⟨hc, hrest⟩ := List.forall_mem_cons.1 hstill
    obtain ⟨trigger, b⟩ := c
    cases trigger with
    | none =>
      rw [dispatch] at h
      rcases ih hrest h with hgone | ⟨b', hb' | ⟨c, hc, hb'⟩, hblock⟩
      · exact .inl hgone
      · cases kept with
        | none => exact .inr ⟨b', .inr ⟨_, List.mem_cons_self, (Option.some.inj hb').symm⟩, hblock⟩
        | some kept => exact .inr ⟨b', .inl hb', hblock⟩
      · exact .inr ⟨b', .inr ⟨c, List.mem_cons_of_mem _ hc, hb'⟩, hblock⟩
    | some pattern =>
      rw [dispatch] at h
      rcases Run.bind_eq_some h with ⟨v, m₁, hv, hrun⟩ | ⟨e, he, rfl⟩
      · obtain ⟨rfl, -⟩ := hc pattern rfl _ _ _ hv
        -- The pattern was evaluated without a trace, so the others are tried from the same machine.
        split at hrun
        · exact .inr ⟨b, .inr ⟨_, List.mem_cons_self, rfl⟩, hrun⟩
        · rcases ih hrest hrun with hgone | ⟨b', hb' | ⟨c, hc, hb'⟩, hblock⟩
          · exact .inl hgone
          · exact .inr ⟨b', .inl hb', hblock⟩
          · exact .inr ⟨b', .inr ⟨c, List.mem_cons_of_mem _ hc, hb'⟩, hblock⟩
      · obtain ⟨rfl, -⟩ := hc pattern rfl _ _ _ he
        exact .inl ⟨e, rfl, rfl⟩

/-- The body of a skip of a plain program does not return. -/
theorem Stmt.Plain.block_ne_returned {b : Block} {seizes : List Seize} {l₀ : Location}
    (hs : Stmt.Plain ⟨.skip b seizes, l₀⟩) {host : Host} {fuel : Nat} {m m' : Machine}
    {v : Value} : (evaluator host fuel).block b m ≠ some (.ok (.returned v), m') := by
  obtain ⟨hreturnfree, -⟩ := hs.action
  exact Evaluator.returnless_block (fun s hs => (hreturnfree s hs).exec host fuel) _ _ _

/-- A reversal of a plain program that is dispatched fails or goes on, or else a seize takes
    it. -/
theorem Stmt.Plain.dispatch_eq_some {b : Block} {seizes : List Seize} {l₀ : Location}
    (hs : Stmt.Plain ⟨.skip b seizes, l₀⟩) {host : Host} {fuel : Nat} {payload : Value}
    {m m' : Machine} {x : Except Stop Flow}
    (h : (evaluator host fuel).dispatch payload none seizes m = some (x, m')) :
    (∃ e, x = .error e ∧ m' = m) ∨ ∃ b', (∀ s ∈ b', s.Plain) ∧
      (evaluator host fuel).block b' { m with reversing := false } = some (x, m') := by
  obtain ⟨-, hcallfree⟩ := hs.action
  have hstill : ∀ c ∈ seizes, ∀ pattern ∈ c.trigger,
      ((evaluator host fuel).eval pattern).Still := fun c hc pattern hpattern =>
    (hcallfree c hc pattern hpattern).still host fuel
  refine (Evaluator.dispatch_eq_some _ hstill h).imp_right fun ⟨b', hb', hblock⟩ => ?_
  obtain ⟨c, hc, rfl⟩ := hb'.resolve_left (by simp)
  refine ⟨c.body, fun s hmem => ?_, hblock⟩
  exact (List.forall_mem_append.1 hs.parts).2 s (List.mem_flatMap.2 ⟨c, hc, hmem⟩)

/-! ### The contract -/

/-- The contract that a run which does not fail is led back by the breadcrumbs it adds, for
    all scopes but the one that is being run in. A skip is open, and no reversal is under
    way. -/
def retracing : Contract where
  discipline := .plain
  pre m := (bracketing .plain).pre m ∧ m.reversing = false ∧ 0 < m.ledger.openSkips
  post m e m' := (bracketing .plain).post m e m' ∧
    (e ≠ .failure → ∃ added, Retraces (· ≠ m.current) m m' added)
  bound h := h.1.2
  refl h := ⟨(bracketing .plain).refl h.1, fun _ => ⟨[], .refl _ _⟩⟩
  fail h := ⟨(bracketing .plain).fail h.1, fun he => absurd rfl he⟩
  next h h' := by
    obtain ⟨hpre, hrev, hopen⟩ := h
    obtain ⟨⟨hb, hcalm⟩, -⟩ := h'
    refine ⟨(bracketing .plain).next hpre ⟨hb, hcalm⟩, Bool.eq_false_iff.2 fun hrev' => ?_, ?_⟩
    · exact absurd (hrev.symm.trans (hcalm rfl hrev').1) (by simp)
    · exact hb.ledger.openSkips ▸ hopen
  trans h h' h'' := by
    refine ⟨(bracketing .plain).trans h.1 h'.1 h''.1, fun he => ?_⟩
    obtain ⟨⟨hb, -⟩, hback⟩ := h'
    obtain ⟨⟨hb', -⟩, hback'⟩ := h''
    obtain ⟨added, hadded⟩ := hback (by simp)
    obtain ⟨added', hadded'⟩ := hback' he
    exact ⟨added' ++ added, hadded.trans (hb.current ▸ hadded') hb hb'⟩

namespace retracing

variable {α : Type} {V : α → Prop} {x : Run α} {m m' : Machine}

/-- It remains to be shown how a run that brackets what it does is led back. -/
theorem meets (hx : (bracketing .plain).Meets V x)
    (h : ∀ m r m', retracing.pre m → x m = some (r, m') → Ending.of r ≠ .failure →
      ∃ added, Retraces (· ≠ m.current) m m' added) : retracing.Meets V x := by
  intro m r m' hm hr
  obtain ⟨hpost, hV⟩ := hx m r m' hm.1 hr
  exact ⟨⟨hpost, h m r m' hm hr⟩, hV⟩

/-- A block brackets what it does and is led back for all scopes. -/
theorem inBlock (hx : retracing.Meets V x) (hm : retracing.pre m) {r : Except Stop α}
    (hr : Run.inBlock x m = some (r, m')) :
    (bracketing .plain).post m (.of r) m' ∧
      (Ending.of r ≠ .failure → ∃ added, Retraces (fun _ => True) m m' added) ∧
      retracing.Allows V r := by
  obtain ⟨m₁, hr₁, rfl⟩ := Run.inBlock_eq_some hr
  have hpre : retracing.pre (m.enter m.current) := ⟨bracketing.pre_enter hm.1 _, hm.2⟩
  obtain ⟨⟨⟨hb, hcalm⟩, hback⟩, hV⟩ := hx _ r m₁ hpre hr₁
  exact ⟨⟨hb.leave, hcalm⟩, fun he => (hback he).imp fun _ h => h.leave, hV⟩

theorem meets_inBlock (hx : retracing.Meets V x) : retracing.Meets V (Run.inBlock x) := by
  intro m r m' hm hr
  obtain ⟨hpost, hback, hV⟩ := inBlock hx hm hr
  exact ⟨⟨hpost, fun he => (hback he).imp fun _ h => h.mono fun _ _ => trivial⟩, hV⟩

theorem meets_inCall (hx : retracing.Meets V x) : retracing.Meets V (Run.inCall x) := by
  intro m r m' hm hr
  obtain ⟨rfl, rfl⟩ | ⟨m₁, -, hr₁, rfl⟩ := Run.inCall_eq_some hr
  · exact ⟨retracing.fail hm, trivial⟩
  · have hpre : retracing.pre m.enterCall := ⟨bracketing.pre_enterCall hm.1, hm.2⟩
    obtain ⟨⟨⟨hb, hcalm⟩, hback⟩, hV⟩ := hx _ r m₁ hpre hr₁
    refine ⟨⟨⟨hb.leaveCall, hcalm⟩, fun he => (hback he).imp fun _ h => ?_⟩, hV⟩
    exact h.leaveCall.mono fun _ _ => trivial

/-- What is assigned to is led back by the breadcrumb that is recorded. -/
theorem meets_store (t : Target) {v : Value} (hpath : ∀ k ∈ t.path, k.Sound Stmt.Plain)
    (hv : v.Sound Stmt.Plain) : retracing.Meets (fun _ => True) (Run.store t v) := by
  refine meets (bracketing.meets_store t hpath hv) fun m r m' hm hr he => ?_
  obtain ⟨b, m₁, ss, hb, hrecord, hd, rfl, rfl⟩ | ⟨e, rfl, -⟩ := Run.store_eq_some hr
  · obtain ⟨bound, hlook, hstores⟩ := Target.rebinding_eq_ok hb
    obtain ⟨hrev, -⟩ | ⟨l, -, hl, -, rfl⟩ | ⟨e, h, -⟩ := Run.record_eq_some hrecord
    · exact absurd (hm.2.1.symm.trans hrev) (by simp)
    · exact ⟨_, .of_stores hstores hlook (hm.1.2 _ _ _ hlook).wellFormed
        (fun k hk => (hpath k hk).wellFormed) hv.wellFormed
        (Ledger.crumbs_of_record hm.2.2 hl) hd⟩
    · exact absurd h (by simp)
  · exact absurd rfl he

/-! ### Skips -/

section

variable {marker : Marker} {l : Ledger} {m₂ : Machine} {added : List Breadcrumb}
  (hl : m.ledger.openSkip m.scopes.nextSerial = .ok (marker, l))
include hl

/-- Whatever the body of a skip did, it is led back, unless it failed. -/
theorem body {r : Evaluator} (hr : r.Satisfies retracing) (hm : (bracketing .plain).pre m)
    (hrev : m.reversing = false) {b : Block} (hstmts : ∀ s ∈ b, s.Plain) {y : Except Stop Flow}
    (h : r.block b { m with ledger := l } = some (y, m₂)) (hy : Ending.of y ≠ .failure) :
    Bracketed .plain { m with ledger := l } m₂ ∧
      ∃ added, Retraces (fun _ => True) { m with ledger := l } m₂ added := by
  have hopen : 0 < l.openSkips := by
    rw [(Ledger.openSkip_eq_ok hl).2.2.1]
    exact Nat.succ_pos _
  have hpre : retracing.pre { m with ledger := l } := ⟨bracketing.pre_open hl hm, hrev, hopen⟩
  obtain ⟨⟨hb, -⟩, hback, -⟩ := inBlock (hr.execAll hstmts) hpre h
  exact ⟨hb, hback hy⟩

/-- A skip that is closed inside another one leaves its breadcrumbs to that. -/
theorem crumbs_closeSkip (hopen : 0 < m.ledger.openSkips)
    (hb : Bracketed .plain { m with ledger := l } m₂) (hc : m₂.ledger.crumbs = added ++ l.crumbs) :
    (m₂.closeSkip marker).ledger.crumbs = added ++ m.ledger.crumbs := by
  rw [(Ledger.openSkip_eq_ok hl).2.1] at hc
  exact (hb.ledger.crumbs_close hl id hc).trans (if_neg (Nat.ne_of_gt hopen))

theorem closeSkip (hopen : 0 < m.ledger.openSkips)
    (hb : Bracketed .plain { m with ledger := l } m₂)
    (h : Retraces (fun _ => True) { m with ledger := l } m₂ added) :
    Retraces (fun _ => True) m (m₂.closeSkip marker) added :=
  ⟨crumbs_closeSkip hl hopen hb h.crumbs, h.fits, h.unbound, h.bound⟩

end

theorem skip {host : Host} (hhost : host.Keeps Discipline.plain.value) {fuel : Nat}
    (hr : (evaluator host fuel).Satisfies retracing) {b : Block} {seizes : List Seize}
    {l₀ : Location} (hs : Stmt.Plain ⟨.skip b seizes, l₀⟩) (hm : retracing.pre m)
    {x : Except Stop Flow} (hx : (evaluator host fuel).skip b seizes m = some (x, m'))
    (he : Ending.of x ≠ .failure) : ∃ added, Retraces (fun _ => True) m m' added := by
  have hbody := (List.forall_mem_append.1 hs.parts).1
  cases (evaluator host fuel).skipped hx with
  | full => exact absurd rfl he
  | failed => exact absurd rfl he
  | stuck => exact absurd rfl he
  | returned hl h => exact absurd h hs.block_ne_returned
  | closed hl h =>
    obtain ⟨hb, added, hback⟩ := body hl hr hm.1 hm.2.1 hbody h he
    exact ⟨added, closeSkip hl hm.2.2 hb hback⟩
  | @reversed marker l payload m₂ m₃ m' x hl h hroll hdispatch =>
    obtain ⟨hb, added, hback⟩ := body hl hr hm.1 hm.2.1 hbody h (by simp [Ending.of])
    obtain ⟨rfl, hmarker, -⟩ := Ledger.openSkip_eq_ok hl
    -- The rollback ends in the machine that is led back to where the skip was entered.
    obtain ⟨m₄, hcs, hend, hback₄⟩ :=
      hback.restores hb ⟨_, hmarker⟩ rfl (evaluator host fuel) m.current
    obtain rfl : m₄ = m₃ := by
      rw [Evaluator.rollBack, Evaluator.restoreAbove_of_restores _ hcs hend] at hroll
      split at hroll
      · exact congrArg Prod.snd (Option.some.inj hroll)
      · exact absurd hroll (by simp)
    have hrb := (bracketing.lawful hhost).evaluator fuel
    have hb₄ := bracketing.restores hrb (bracketing.pre_open hl hm.1) ⟨_, hmarker⟩ hb hcs
    have hback₅ : Retraces (fun _ => True) m (m₄.closeSkip _) [] := closeSkip hl hm.2.2 hb₄ hback₄
    have hb₅ : Bracketed .plain m (m₄.closeSkip _) := bracketing.closeSkip hl hm.1 hb₄
    rcases hs.dispatch_eq_some hdispatch with ⟨e, rfl, rfl⟩ | ⟨b', hstmts, hblock⟩
    · exact ⟨[], hback₅⟩
    · -- A seize takes the reversal and goes on from where the skip was entered.
      have hpre : retracing.pre { m₄.closeSkip _ with reversing := false } :=
        ⟨⟨hb₅.ledger.tidy hm.1.1, hb₅.bound⟩, rfl, hb₅.ledger.openSkips ▸ hm.2.2⟩
      obtain ⟨⟨hb₆, -⟩, hback₆, -⟩ := inBlock (hr.execAll hstmts) hpre hblock
      obtain ⟨added', hadded'⟩ := hback₆ he
      exact ⟨added' ++ [],
        (hback₅.withReversing false).trans hadded' (hb₅.withReversing false) hb₆⟩

/-- Retracing is lawful. -/
theorem lawful {host : Host} (hhost : host.Keeps Discipline.plain.value) :
    retracing.Lawful host where
  keeps := hhost
  declare name v hv := by
    refine meets ((bracketing.lawful hhost).declare name hv) fun m r m' hm hr he => ?_
    have hdefine : Run.define m.current name v m = some (r, m') := hr
    obtain ⟨ss, hd, rfl, rfl⟩ | ⟨e, rfl, -⟩ := Run.updateScopes_eq_some hdefine
    · -- The scope that is being run in is the one that is left out.
      refine ⟨[], .of_look rfl fun id name' hid => ?_⟩
      exact (Scopes.look_define hd id name').trans (if_neg fun h => hid h.1.symm)
    · exact absurd rfl he
  store t v hpath hv := meets_store t hpath hv
  record h := absurd h.action (by simp [Action.Plain])
  locate l := by
    refine meets ((bracketing.lawful hhost).locate l) fun m r m' hm hr he => ?_
    obtain ⟨rfl, rfl⟩ := Prod.mk.inj (Option.some.inj hr)
    exact ⟨[], .of_look rfl fun _ _ _ => rfl⟩
  surround s hm he :=
    ⟨(bracketing.lawful hhost).surround s hm.1 he, fun _ => ⟨[], .of_look rfl fun _ _ _ => rfl⟩⟩
  reverse hm :=
    ⟨(bracketing.lawful hhost).reverse hm.1, fun _ => ⟨[], .of_look rfl fun _ _ _ => rfl⟩⟩
  inBlock := meets_inBlock
  inCall := meets_inCall
  skip fuel body seizes l hr hs := by
    have hrb := (bracketing.lawful hhost).evaluator fuel
    refine meets ((bracketing.lawful hhost).skip fuel hrb hs) fun m r m' hm hx he => ?_
    exact (skip hhost hr hs hm hx he).imp fun _ h => h.mono fun _ _ => trivial

end retracing

end Retrace
