import Retrace.Proofs.Reached

/-!
# What a rollback restores

A rollback begins with a *log*: the breadcrumbs above the marker. It restores
each of them, in their order; but it takes the next breadcrumb from the ledger
as it then is, and a statement that is replayed may have added to it in the
meantime. So what is restored is the log with what was added in between
(`Reached.restores_log`), and it is the log itself exactly if each breadcrumb is
restored *silently*, so that the ledger stays as it is (`RestoresSilently`).

This is so if a reversal is under way all the time. A seize ends the reversal
that it takes, even if it does so in the midst of a rollback; so a skip in a
statement that is replayed makes the rest of the rollback record again
(`Reached.not_rollsBackExactly`).
-/

namespace Retrace

namespace Evaluator

variable (r : Evaluator)

/-- Breadcrumbs are taken from above the marker and restored, and nothing is recorded. -/
inductive RestoresSilently (marker : Marker) (enclosing : ScopeId) :
    Machine → List Breadcrumb → Machine → Prop
  | nil (m : Machine) : RestoresSilently marker enclosing m [] m
  | cons {m m₁ m' : Machine} {c : Breadcrumb} {cs : List Breadcrumb} {l : Ledger} :
      m.ledger.popAbove marker = some (c, l) →
      r.restore marker enclosing c { m with ledger := l } = some (.ok (), m₁) →
      m₁.ledger.crumbs = l.crumbs → RestoresSilently marker enclosing m₁ cs m' →
      RestoresSilently marker enclosing m (c :: cs) m'

variable {D : Discipline} {r} {marker : Marker} {enclosing : ScopeId}
  {m m₁ m' : Machine} {cs log old : List Breadcrumb}

theorem RestoresSilently.restores (h : r.RestoresSilently marker enclosing m cs m') :
    r.Restores marker enclosing m cs m' := by
  induction h with
  | nil m => exact .nil m
  | cons hpop hrestore _ _ ih => exact .cons hpop hrestore ih

/-- What is restored is the log with what was added to it in the meantime. -/
theorem Restores.log_sublist (hr : r.Satisfies (bracketing D)) (hm₁ : (bracketing D).pre m₁)
    (hmarker : m₁.ledger.crumbs = .marker marker :: old) (hb : Bracketed D m₁ m)
    (h : r.Restores marker enclosing m cs m') (hend : m'.ledger.popAbove marker = none)
    (hlog : m.ledger.crumbs = log ++ .marker marker :: old) :
    log.Sublist cs ∧ (cs = log ↔ r.RestoresSilently marker enclosing m cs m') ∧
      (m'.reversing = true → m.reversing = true ∧ cs = log) := by
  induction h generalizing log with
  | nil m =>
    have hnil := hb.ledger.eq_of_popAbove ⟨old, hmarker⟩ id hend
    rw [hmarker, hlog] at hnil
    obtain rfl : log = [] := List.append_left_eq_self.1 hnil
    exact ⟨.slnil, ⟨fun _ => .nil m, fun _ => rfl⟩, fun hrev => ⟨hrev, rfl⟩⟩
  | @cons m m₂ m' c cs l hpop hrestore hrest ih =>
    obtain ⟨hcrumbs, hne, -⟩ := Ledger.popAbove_eq_some hpop
    -- The newest breadcrumb is the first one of the log.
    obtain ⟨log, rfl, hl⟩ : ∃ log', log = c :: log' ∧ l.crumbs = log' ++ .marker marker :: old := by
      cases log with
      | nil =>
        rw [hlog] at hcrumbs
        exact absurd (List.cons.inj hcrumbs).1.symm hne
      | cons c' log =>
        obtain ⟨rfl, hl⟩ := List.cons.inj (hcrumbs.symm.trans hlog)
        exact ⟨log, rfl, hl⟩
    -- What its restoration records comes before the rest.
    have hb₂ := bracketing.popAbove hr hm₁ ⟨old, hmarker⟩ hb hpop hrestore
    obtain ⟨hc, hext⟩ := hb.ledger.popAbove ⟨old, hmarker⟩ hpop
    have hpre : (bracketing D).pre { m with ledger := l } := ⟨hext.tidy hm₁.1, hb.bound⟩
    obtain ⟨⟨hstep, hcalm⟩, -⟩ := bracketing.meets_restore hr hc _ _ _ hpre hrestore
    obtain ⟨added, hadded, -⟩ := hstep.ledger.crumbs
    have hlog₂ : m₂.ledger.crumbs = (added ++ log) ++ .marker marker :: old := by
      rw [hadded, hl, List.append_assoc]
    obtain ⟨hsub, hiff, hrev⟩ := ih hb₂ hend hlog₂
    have hsilent : m₂.ledger.crumbs = l.crumbs ↔ added = [] := by
      rw [hadded]
      exact List.append_left_eq_self
    refine ⟨((List.sublist_append_right added log).trans hsub).cons_cons c, ⟨fun h => ?_, ?_⟩, ?_⟩
    · -- The rest of what is restored is no longer than the rest of the log.
      obtain rfl := (List.cons.inj h).2
      have hnil : added = [] := by
        have := hsub.length_le
        rw [List.length_append] at this
        exact List.length_eq_zero_iff.1 (by omega)
      subst hnil
      exact .cons hpop hrestore (hsilent.2 rfl) (hiff.1 rfl)
    · intro h
      cases h with
      | cons hpop' hrestore' hsame hrest' =>
        obtain ⟨-, rfl⟩ := Prod.mk.inj (Option.some.inj (hpop.symm.trans hpop'))
        obtain ⟨-, rfl⟩ := Prod.mk.inj (Option.some.inj (hrestore.symm.trans hrestore'))
        rw [hiff.2 hrest', hsilent.1 hsame]
        rfl
    · intro h
      obtain ⟨h₂, hcs⟩ := hrev h
      obtain ⟨hm, hcrumbs₂⟩ := hcalm rfl h₂
      rw [hsilent.1 hcrumbs₂] at hcs
      exact ⟨hm, congrArg (c :: ·) hcs⟩

end Evaluator

variable {host : Host} {P : Value → Prop} {m : Machine}

/-- Whether the rollback of a skip that is entered in the machine, once a reversal has left
    its body, restores exactly the log it begins with. -/
def RollsBackExactly (host : Host) (m : Machine) : Prop :=
  ∀ fuel body marker l payload m₂ m₃ log cs,
    m.ledger.openSkip m.scopes.nextSerial = .ok (marker, l) →
    (evaluator host fuel).block body { m with ledger := l } =
      some (.error (.reversal payload), m₂) →
    (evaluator host fuel).rollBack marker m.current m₂ = some (.ok (), m₃) →
    m₂.ledger.crumbs = log ++ .marker marker :: m.ledger.crumbs →
    (evaluator host fuel).Restores marker m.current m₂ cs m₃ → cs = log

section

variable (hm : Reached host P m) {fuel : Nat} {body : Block} {marker : Marker} {l : Ledger}
  {payload : Value} {m₂ m₃ : Machine}
  (hl : m.ledger.openSkip m.scopes.nextSerial = .ok (marker, l))
  (hbody : (evaluator host fuel).block body { m with ledger := l } =
    some (.error (.reversal payload), m₂))
include hm hl hbody

/-- A rollback that does not fail restores the log it begins with, and in between what it
    records itself. So it restores exactly the log if nothing is recorded meanwhile, and only
    then; and this is so if a reversal is still under way when it ends. -/
theorem Reached.restores_log
    (hroll : (evaluator host fuel).rollBack marker m.current m₂ = some (.ok (), m₃)) :
    ∃ log cs, m₂.ledger.crumbs = log ++ .marker marker :: m.ledger.crumbs ∧
      (evaluator host fuel).Restores marker m.current m₂ cs m₃ ∧ log.Sublist cs ∧
      (cs = log ↔ (evaluator host fuel).RestoresSilently marker m.current m₂ cs m₃) ∧
      (m₃.reversing = true → m₂.reversing = true ∧ cs = log) := by
  obtain ⟨hpre, hb⟩ := hm.bracketed_body hl hbody
  obtain ⟨log, hlog, -⟩ := hb.ledger.split hl id
  have hr := (bracketing.lawful host.keeps_any).evaluator fuel
  obtain ⟨cs, m', hcs, -, ⟨-, rfl, hend⟩ | ⟨c, l', e, h, -⟩⟩ :=
    Evaluator.restores_of_restoreAbove _ hroll
  · exact ⟨log, cs, hlog, hcs,
      hcs.log_sublist hr hpre (Ledger.openSkip_eq_ok hl).2.1 hb hend hlog⟩
  · exact absurd h (by simp)

end

/-- A body whose first statement is undone by a skip that seizes its own reversal and then
    assigns to `x`. -/
def Rollback.overrunning : Block :=
  [⟨.expr (.literal .int "1") (some ⟨.skip
      [⟨.reverse (.literal .int "1"), .unknown⟩]
      [⟨some (.literal .int "1"), [⟨.assign (.ident "x") .set (.literal .int "5"), .unknown⟩]⟩],
      .unknown⟩), .unknown⟩,
    ⟨.reverse (.literal .int "2"), .unknown⟩]

/-- Whether a skip with that body is reversed when it is entered in `m`, with one breadcrumb
    above its marker, and is rolled back, but not by restoring one breadcrumb. -/
def Rollback.overruns (m : Machine) : Bool :=
  ((evaluator .bare 9).reversed? overrunning m).any fun p =>
    ((evaluator .bare 9).rollBack p.1 m.current p.2).any (·.1.isOk) &&
      p.2.ledger.crumbs.length == m.ledger.crumbs.length + 2 &&
      ((evaluator .bare 9).restoreAbove p.1 m.current 2 p.2).isNone

theorem Rollback.exists_of_overruns {m : Machine} (h : overruns m) :
    ∃ marker l payload m₂ m₃, m.ledger.openSkip m.scopes.nextSerial = .ok (marker, l) ∧
      (evaluator .bare 9).block overrunning { m with ledger := l } =
        some (.error (.reversal payload), m₂) ∧
      (evaluator .bare 9).rollBack marker m.current m₂ = some (.ok (), m₃) ∧
      m₂.ledger.crumbs.length = m.ledger.crumbs.length + 2 ∧
      (evaluator .bare 9).restoreAbove marker m.current 2 m₂ = none := by
  obtain ⟨⟨marker, m₂⟩, hreversed, h⟩ := (Option.any_eq_true _ _).1 h
  simp only [Bool.and_eq_true, beq_iff_eq, Option.isNone_iff_eq_none] at h
  obtain ⟨⟨hroll, hlen⟩, htwo⟩ := h
  obtain ⟨⟨x, m₃⟩, hroll, hx⟩ := (Option.any_eq_true _ _).1 hroll
  obtain ⟨m₁, payload, hopen, hbody⟩ := Evaluator.reversed?_eq_some hreversed
  obtain ⟨_, l, hl, hok, rfl⟩ | ⟨e, hok, -⟩ := Run.openSkip_eq_some hopen
  · obtain rfl := Except.ok.inj hok
    cases x with
    | error e => exact absurd hx (by simp [Except.isOk, Except.toBool])
    | ok _ => exact ⟨marker, l, payload, m₂, m₃, hl, hbody, hroll, hlen, htwo⟩
  · exact absurd hok (by simp)

/-- In a call, after a global `x` has been declared, the skip overruns. -/
theorem Rollback.exists_overrun : ∃ m, Reached .bare (fun _ => True) m ∧ overruns m := by
  have h : (Machine.bare.load .bare 9
      [.variable ⟨"x", some (.literal .int "0")⟩]).any fun loaded =>
        decide (loaded.2.callDepth < loaded.2.settings.maxCallDepth) &&
          overruns loaded.2.enterCall := by decide +kernel
  obtain ⟨⟨answer, m⟩, hload, h⟩ := (Option.any_eq_true _ _).1 h
  obtain ⟨hdepth, h⟩ := Bool.and_eq_true_iff.1 h
  have hm : Reached .bare (fun _ => True) m := .rest (.serve (.start .default .bare) (.load hload))
  exact ⟨m.enterCall, .call hm (of_decide_eq_true hdepth) (List.forall_mem_nil _) rfl, h⟩

/-- That rollback restores the only breadcrumb of its log, perhaps among others. -/
theorem Reached.restores_log_overrunning :
    ∃ (m m₂ m₃ : Machine) (marker : Marker) (log cs : List Breadcrumb),
      m₂.ledger.crumbs = log ++ .marker marker :: m.ledger.crumbs ∧ log.length = 1 ∧
      (evaluator .bare 9).Restores marker m.current m₂ cs m₃ ∧ log.Sublist cs := by
  obtain ⟨m, hm, h⟩ := Rollback.exists_overrun
  obtain ⟨marker, l, payload, m₂, m₃, hl, hbody, hroll, hlen, -⟩ := Rollback.exists_of_overruns h
  obtain ⟨log, cs, hlog, hcs, hsub, -⟩ := hm.restores_log hl hbody hroll
  refine ⟨m, m₂, m₃, marker, log, cs, hlog, ?_, hcs, hsub⟩
  rw [hlog, List.length_append, List.length_cons] at hlen
  omega

/-- A rollback need not restore exactly the log it begins with. -/
theorem Reached.not_rollsBackExactly :
    ∃ m, Reached .bare (fun _ => True) m ∧ ¬RollsBackExactly .bare m := by
  obtain ⟨m, hm, h⟩ := Rollback.exists_overrun
  obtain ⟨marker, l, payload, m₂, m₃, hl, hbody, hroll, hlen, htwo⟩ :=
    Rollback.exists_of_overruns h
  refine ⟨m, hm, fun hexact => ?_⟩
  obtain ⟨-, hb⟩ := hm.bracketed_body hl hbody
  obtain ⟨log, hlog, -⟩ := hb.ledger.split hl id
  obtain ⟨cs, m', hcs, -, ⟨-, rfl, hend⟩ | ⟨c, l', e, h, -⟩⟩ :=
    Evaluator.restores_of_restoreAbove _ hroll
  · have hcs' : cs.length < 2 := by
      rw [hexact 9 _ _ _ _ _ _ log cs hl hbody hroll hlog hcs]
      rw [hlog, List.length_append, List.length_cons] at hlen
      omega
    rw [Evaluator.restoreAbove_of_restores _ hcs hend, if_pos hcs'] at htwo
    exact absurd htwo (by simp)
  · exact absurd h (by simp)

end Retrace
