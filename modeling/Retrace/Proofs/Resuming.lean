import Retrace.Proofs.Retracing

/-!
# Recording that is resumed

While a reversal is under way nothing is recorded. A skip may be entered then, in
a function that the pattern of a seize calls or in an undo statement. If a
seize inside it takes a reversal, recording is *resumed*, and what is recorded
from there on does not lead back to where the skip was entered, but to where
recording was resumed. Nothing more is needed for restoring it (`Restorable`).

This makes another lawful contract (`resuming`), for plain programs. It includes
what `retracing` says of the runs that begin while no reversal is under way, as
the part of a run after recording was resumed is such a run.
-/

namespace Retrace

namespace Restorable

variable {S T : ScopeId → Prop} {m m' m'' : Machine} {added added' : List Breadcrumb}

theorem mono (h : Restorable S m added m') (hTS : ∀ id, T id → S id) : Restorable T m added m' :=
  ⟨h.crumbs, h.skeleton, h.fits, fun id name hid => h.names id name (hTS id hid)⟩

/-- Nothing has been recorded. -/
theorem of_crumbs (hskeleton : m'.scopes.skeleton = m.scopes.skeleton)
    (hc : m'.ledger.crumbs = m.ledger.crumbs) : Restorable S m [] m' where
  crumbs := hc
  skeleton := hskeleton
  fits _ h := absurd h List.not_mem_nil
  names id name _ _ := by
    cases m'.scopes.look id name with
    | none => exact .inl ⟨rfl, fun _ h => absurd h List.not_mem_nil⟩
    | some v => exact .inr ⟨v, v, rfl, .nil v⟩

/-- Nothing had been recorded until the machine `m'`. -/
theorem after (h : Restorable S m' added m'') (hb : Bracketed .plain m m')
    (hc : m'.ledger.crumbs = m.ledger.crumbs) : Restorable S m added m'' where
  crumbs := h.crumbs.trans (by rw [hc])
  skeleton := h.skeleton.trans hb.skeleton
  fits c hc := by
    refine (h.fits c hc).imp fun id hid => hid.imp (fun hlive => ?_) (Nat.le_trans hb.nextSerial)
    rwa [← Scopes.contains_congr hb.skeleton]
  names id name hid hlive := h.names id name hid (by rwa [Scopes.contains_congr hb.skeleton])

/-- What is recorded later leads back to a machine from which the rest can be restored. -/
theorem trans (h : Restorable S m added m') (h' : Retraces S m' m'' added')
    (hb : Bracketed .plain m m') (hb' : Bracketed .plain m' m'') :
    Restorable S m (added' ++ added) m'' where
  crumbs := by rw [h'.crumbs, h.crumbs, List.append_assoc]
  skeleton := hb'.skeleton.trans h.skeleton
  fits c hc := by
    rcases List.mem_append.1 hc with hc | hc
    · refine (h'.fits c hc).imp fun id hid => hid.imp (fun hlive => ?_) (Nat.le_trans hb.nextSerial)
      rwa [← Scopes.contains_congr hb.skeleton]
    · exact h.fits c hc
  names id name hid hlive := by
    have hlive' : m'.scopes.contains id := by rwa [Scopes.contains_congr hb.skeleton]
    rcases h.names id name hid hlive with ⟨hnone, hcs⟩ | ⟨v, w, hv, hw⟩
    · obtain ⟨hnone', hcs'⟩ := h'.unbound id name hid hlive' hnone
      exact .inl ⟨hnone', List.forall_mem_append.2 ⟨hcs', hcs⟩⟩
    · obtain ⟨v', u, hv', hu, huv⟩ := h'.bound id name v hid hv
      -- The way back ends beside the value that the rest leads on from.
      have hsound := hu.sound (hb'.obey_of_crumbs h'.crumbs) (hb'.bound id name v' hv')
      obtain ⟨w', hw', -⟩ := hw.congr (hb.obey_of_crumbs h.crumbs) (hb.bound id name v hv) hsound
        huv.symm
      exact .inr ⟨v', w', hv', hu.append hw'⟩

/-- What is run in a new scope can be restored for all scopes there were before. -/
theorem leave {parent : ScopeId}
    (h : Restorable (· ≠ (m.enter parent).current) (m.enter parent) added m') :
    Restorable (fun _ => True) m added (m'.leave m) where
  crumbs := h.crumbs
  skeleton := Scopes.skeleton_discard_push h.skeleton
  fits c hc := (h.fits c hc).leave
  names id name _ hid := by
    rw [Machine.look_leave hid]
    exact h.names id name (Scopes.ne_push hid parent) (Scopes.contains_push hid parent)

/-- What is run as a call can be restored for all scopes there were before. -/
theorem leaveCall (h : Restorable (· ≠ m.enterCall.current) m.enterCall added m') :
    Restorable (fun _ => True) m added { m'.leave m with callDepth := m'.callDepth - 1 } := by
  have hleave : Restorable _ { m with callDepth := m.callDepth + 1 } added (m'.leave m) := h.leave
  exact ⟨hleave.crumbs, hleave.skeleton, hleave.fits, hleave.names⟩

end Restorable

/-- The breadcrumbs added since the machine `m` can be restored, and lead back to it if no reversal
    was under way there. -/
structure Resumes (S : ScopeId → Prop) (m m' : Machine) (added : List Breadcrumb) : Prop where
  restorable : Restorable S m added m'
  retraces : m.reversing = false → Retraces S m m' added

namespace Resumes

variable {S T : ScopeId → Prop} {m m' m'' : Machine} {added added' : List Breadcrumb}

theorem mono (h : Resumes S m m' added) (hTS : ∀ id, T id → S id) : Resumes T m m' added :=
  ⟨h.restorable.mono hTS, fun hrev => (h.retraces hrev).mono hTS⟩

theorem of_retraces (h : Retraces S m m' added) (hb : Bracketed .plain m m') :
    Resumes S m m' added :=
  ⟨h.restorable hb, fun _ => h⟩

theorem of_restorable (hrev : m.reversing = true) (h : Restorable S m added m') :
    Resumes S m m' added :=
  ⟨h, fun hrev' => absurd (hrev.symm.trans hrev') (by simp)⟩

theorem trans (h : Resumes S m m' added) (h' : Resumes S m' m'' added')
    (hb : Bracketed .plain m m') (hb' : Bracketed .plain m' m'') (hcalm : Calm m m') :
    ∃ added, Resumes S m m'' added := by
  cases hrev' : m'.reversing with
  | true =>
    -- Recording has not been resumed yet.
    obtain ⟨hrev, hc⟩ := hcalm hrev'
    exact ⟨added', .of_restorable hrev (h'.restorable.after hb hc)⟩
  | false =>
    have hback := h'.retraces hrev'
    exact ⟨added' ++ added, h.restorable.trans hback hb hb',
      fun hrev => (h.retraces hrev).trans hback hb hb'⟩

theorem leave {parent : ScopeId}
    (h : Resumes (· ≠ (m.enter parent).current) (m.enter parent) m' added) :
    Resumes (fun _ => True) m (m'.leave m) added :=
  ⟨h.restorable.leave, fun hrev => (h.retraces hrev).leave⟩

theorem leaveCall (h : Resumes (· ≠ m.enterCall.current) m.enterCall m' added) :
    Resumes (fun _ => True) m { m'.leave m with callDepth := m'.callDepth - 1 } added :=
  ⟨h.restorable.leaveCall, fun hrev => (h.retraces hrev).leaveCall⟩

end Resumes

/-- The contract that what a run which does not fail records can be restored, for all scopes but
    the one that is being run in. A skip is open. -/
def resuming : Contract where
  discipline := .plain
  pre m := (bracketing .plain).pre m ∧ 0 < m.ledger.openSkips
  post m e m' := (bracketing .plain).post m e m' ∧
    (e ≠ .failure → ∃ added, Resumes (· ≠ m.current) m m' added)
  bound h := h.1.2
  refl h :=
    ⟨(bracketing .plain).refl h.1, fun _ => ⟨[], .of_retraces (.refl _ _) (.refl h.1.2)⟩⟩
  fail h := ⟨(bracketing .plain).fail h.1, fun he => absurd rfl he⟩
  next h h' := ⟨(bracketing .plain).next h.1 h'.1, h'.1.1.ledger.openSkips ▸ h.2⟩
  trans h h' h'' := by
    refine ⟨(bracketing .plain).trans h.1 h'.1 h''.1, fun he => ?_⟩
    obtain ⟨⟨hb, hcalm⟩, hresumes⟩ := h'
    obtain ⟨⟨hb', -⟩, hresumes'⟩ := h''
    obtain ⟨added, hadded⟩ := hresumes (by simp)
    obtain ⟨added', hadded'⟩ := hresumes' he
    exact hadded.trans (hb.current ▸ hadded') hb hb' (hcalm rfl)

namespace resuming

variable {α : Type} {V : α → Prop} {x : Run α} {m m' : Machine}

/-- It remains to be shown how a run that brackets what it does can be restored. -/
theorem meets (hx : (bracketing .plain).Meets V x)
    (h : ∀ m r m', resuming.pre m → x m = some (r, m') → Ending.of r ≠ .failure →
      Bracketed .plain m m' → ∃ added, Resumes (· ≠ m.current) m m' added) :
    resuming.Meets V x := by
  intro m r m' hm hr
  obtain ⟨hpost, hV⟩ := hx m r m' hm.1 hr
  exact ⟨⟨hpost, fun he => h m r m' hm hr he hpost.1⟩, hV⟩

/-- A run that is led back, and is too short for recording to be resumed in it. -/
theorem of_retracing (hx : retracing.Meets V x) (hb : (bracketing .plain).Meets V x)
    (hquiet : ∀ m r m', m.reversing = true → x m = some (r, m') → Ending.of r ≠ .failure →
      m'.ledger.crumbs = m.ledger.crumbs) : resuming.Meets V x := by
  refine meets hb fun m r m' hm hr he hb => ?_
  cases hrev : m.reversing with
  | true => exact ⟨[], .of_restorable hrev (.of_crumbs hb.skeleton (hquiet m r m' hrev hr he))⟩
  | false =>
    obtain ⟨⟨-, hback⟩, -⟩ := hx m r m' ⟨hm.1, hrev, hm.2⟩ hr
    exact (hback he).imp fun _ h => .of_retraces h hb

/-- What a block records can be restored for all scopes. -/
theorem inBlock (hx : resuming.Meets V x) (hm : resuming.pre m) {r : Except Stop α}
    (hr : Run.inBlock x m = some (r, m')) :
    (bracketing .plain).post m (.of r) m' ∧
      (Ending.of r ≠ .failure → ∃ added, Resumes (fun _ => True) m m' added) ∧
      resuming.Allows V r := by
  obtain ⟨m₁, hr₁, rfl⟩ := Run.inBlock_eq_some hr
  have hpre : resuming.pre (m.enter m.current) := ⟨bracketing.pre_enter hm.1 _, hm.2⟩
  obtain ⟨⟨⟨hb, hcalm⟩, hresumes⟩, hV⟩ := hx _ r m₁ hpre hr₁
  exact ⟨⟨hb.leave, hcalm⟩, fun he => (hresumes he).imp fun _ h => h.leave, hV⟩

theorem meets_inBlock (hx : resuming.Meets V x) : resuming.Meets V (Run.inBlock x) := by
  intro m r m' hm hr
  obtain ⟨hpost, hresumes, hV⟩ := inBlock hx hm hr
  exact ⟨⟨hpost, fun he => (hresumes he).imp fun _ h => h.mono fun _ _ => trivial⟩, hV⟩

theorem meets_inCall (hx : resuming.Meets V x) : resuming.Meets V (Run.inCall x) := by
  intro m r m' hm hr
  obtain ⟨rfl, rfl⟩ | ⟨m₁, -, hr₁, rfl⟩ := Run.inCall_eq_some hr
  · exact ⟨resuming.fail hm, trivial⟩
  · have hpre : resuming.pre m.enterCall := ⟨bracketing.pre_enterCall hm.1, hm.2⟩
    obtain ⟨⟨⟨hb, hcalm⟩, hresumes⟩, hV⟩ := hx _ r m₁ hpre hr₁
    refine ⟨⟨⟨hb.leaveCall, hcalm⟩, fun he => (hresumes he).imp fun _ h => ?_⟩, hV⟩
    exact h.leaveCall.mono fun _ _ => trivial

/-! ### Skips -/

/-- Whatever the body of a skip recorded can be restored, unless it failed. -/
theorem body {marker : Marker} {l : Ledger} {m₂ : Machine}
    (hl : m.ledger.openSkip m.scopes.nextSerial = .ok (marker, l)) {r : Evaluator}
    (hr : r.Satisfies resuming) (hm : (bracketing .plain).pre m) {b : Block}
    (hstmts : ∀ s ∈ b, s.Plain) {y : Except Stop Flow}
    (h : r.block b { m with ledger := l } = some (y, m₂)) (hy : Ending.of y ≠ .failure) :
    Bracketed .plain { m with ledger := l } m₂ ∧
      ∃ added, Restorable (fun _ => True) { m with ledger := l } added m₂ := by
  have hopen : 0 < l.openSkips := by
    rw [(Ledger.openSkip_eq_ok hl).2.2.1]
    exact Nat.succ_pos _
  have hpre : resuming.pre { m with ledger := l } := ⟨bracketing.pre_open hl hm, hopen⟩
  obtain ⟨⟨hb, -⟩, hresumes, -⟩ := inBlock (hr.execAll hstmts) hpre h
  exact ⟨hb, (hresumes hy).imp fun _ h => h.restorable⟩

/-- A skip that is entered while a reversal is under way. -/
theorem skip {host : Host} (hhost : host.Keeps Discipline.plain.value) {fuel : Nat}
    (hr : (evaluator host fuel).Satisfies resuming) {b : Block} {seizes : List Seize}
    {l₀ : Location} (hs : Stmt.Plain ⟨.skip b seizes, l₀⟩) (hm : resuming.pre m)
    {x : Except Stop Flow} (hx : (evaluator host fuel).skip b seizes m = some (x, m'))
    (he : Ending.of x ≠ .failure) : ∃ added, Restorable (fun _ => True) m added m' := by
  have hbody := (List.forall_mem_append.1 hs.parts).1
  cases (evaluator host fuel).skipped hx with
  | full => exact absurd rfl he
  | failed => exact absurd rfl he
  | stuck => exact absurd rfl he
  | returned hl h => exact absurd h hs.block_ne_returned
  | closed hl h =>
    obtain ⟨hb, added, hadded⟩ := body hl hr hm.1 hbody h he
    exact ⟨added, retracing.crumbs_closeSkip hl hm.2 hb hadded.crumbs, hadded.skeleton,
      hadded.fits, hadded.names⟩
  | @reversed marker l payload m₂ m₃ m' x hl h hroll hdispatch =>
    obtain ⟨hb, -⟩ := body hl hr hm.1 hbody h (by simp [Ending.of])
    -- After the rollback nothing is recorded.
    have hrb := (bracketing.lawful hhost).evaluator fuel
    obtain ⟨hb₃, hend⟩ := bracketing.restoreAbove hrb (bracketing.pre_open hl hm.1)
      ⟨_, (Ledger.openSkip_eq_ok hl).2.1⟩ hb hroll
    have hc₃ : (m₃.closeSkip marker).ledger.crumbs = [] ++ m.ledger.crumbs :=
      retracing.crumbs_closeSkip hl hm.2 hb₃ (hend rfl)
    have hb₄ : Bracketed .plain m (m₃.closeSkip marker) := bracketing.closeSkip hl hm.1 hb₃
    rcases hs.dispatch_eq_some hdispatch with ⟨e, rfl, rfl⟩ | ⟨b', hstmts, hblock⟩
    · exact ⟨[], .of_crumbs hb₄.skeleton hc₃⟩
    · -- A seize takes the reversal, and what is recorded is what its body records.
      have hpre : resuming.pre { m₃.closeSkip marker with reversing := false } :=
        ⟨⟨hb₄.ledger.tidy hm.1.1, hb₄.bound⟩, hb₄.ledger.openSkips ▸ hm.2⟩
      obtain ⟨-, hresumes, -⟩ := inBlock (hr.execAll hstmts) hpre hblock
      obtain ⟨added, hadded⟩ := hresumes he
      exact ⟨added, hadded.restorable.after (hb₄.withReversing false) hc₃⟩

/-- Resuming is lawful. -/
theorem lawful {host : Host} (hhost : host.Keeps Discipline.plain.value) :
    resuming.Lawful host where
  keeps := hhost
  declare name v hv := by
    refine of_retracing ((retracing.lawful hhost).declare name hv)
      ((bracketing.lawful hhost).declare name hv) fun m r m' _ hr he => ?_
    have hdefine : Run.define m.current name v m = some (r, m') := hr
    obtain ⟨ss, -, rfl, rfl⟩ | ⟨e, rfl, -⟩ := Run.updateScopes_eq_some hdefine
    · rfl
    · exact absurd rfl he
  store t v hpath hv := by
    refine of_retracing ((retracing.lawful hhost).store t hpath hv)
      ((bracketing.lawful hhost).store t hpath hv) fun m r m' hrev hr he => ?_
    obtain ⟨b, m₁, ss, -, hrecord, -, rfl, rfl⟩ | ⟨e, rfl, -⟩ := Run.store_eq_some hr
    · obtain ⟨-, -, rfl⟩ | ⟨l, hrev', -⟩ | ⟨e, h, -⟩ := Run.record_eq_some hrecord
      · rfl
      · exact absurd (hrev.symm.trans hrev') (by simp)
      · exact absurd h (by simp)
    · exact absurd rfl he
  record h := absurd h.action (by simp [Action.Plain])
  locate l := by
    refine of_retracing ((retracing.lawful hhost).locate l) ((bracketing.lawful hhost).locate l)
      fun m r m' _ hr _ => ?_
    obtain ⟨rfl, rfl⟩ := Prod.mk.inj (Option.some.inj hr)
    rfl
  surround s hm he := by
    have hpost := (bracketing.lawful hhost).surround s hm.1 he
    exact ⟨hpost, fun _ => ⟨[], .of_retraces (.of_look rfl fun _ _ _ => rfl) hpost.1⟩⟩
  reverse hm := by
    have hpost := (bracketing.lawful hhost).reverse hm.1
    exact ⟨hpost, fun _ => ⟨[], .of_retraces (.of_look rfl fun _ _ _ => rfl) hpost.1⟩⟩
  inBlock := meets_inBlock
  inCall := meets_inCall
  skip fuel body seizes l hr hs := by
    have hrb := (bracketing.lawful hhost).evaluator fuel
    have hrt := (retracing.lawful hhost).evaluator fuel
    refine meets ((bracketing.lawful hhost).skip fuel hrb hs) fun m r m' hm hx he hb => ?_
    cases hrev : m.reversing with
    | true =>
      obtain ⟨added, hadded⟩ := skip hhost hr hs hm hx he
      exact ⟨added, .of_restorable hrev (hadded.mono fun _ _ => trivial)⟩
    | false =>
      obtain ⟨added, hadded⟩ := retracing.skip hhost hrt hs ⟨hm.1, hrev, hm.2⟩ hx he
      exact ⟨added, .of_retraces (hadded.mono fun _ _ => trivial) hb⟩

end resuming

end Retrace
