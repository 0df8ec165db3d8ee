import Retrace.Eval.Skip
import Retrace.Proofs.Ledger
import Retrace.Proofs.Run
import Retrace.Proofs.Scopes

/-!
# The ways of a skip

A skip ends in one of six ways (`Evaluator.Skipped`), which differ in what
becomes of its breadcrumbs. A rollback goes from breadcrumb to breadcrumb
(`restoreAbove_succ`). It may fail, but no reversal leaves it
(`contained_restoreAbove`): one in a statement that is replayed becomes a
failure.
-/

namespace Retrace

/-- An entry that is stored back. -/
theorem Scopes.restoreEntry_eq_ok {ss ss' : Scopes} {scope : ScopeId} {name : String}
    {path : List Value} {previous : Value}
    (h : ss.restoreEntry scope name path previous = .ok ss') :
    ∃ key value bound updated, previous = .pair key value ∧ ss.look scope name = some bound ∧
      bound.updatePath (path ++ [key]) value = .ok updated ∧
      ss.define scope name updated = .ok ss' := by
  rw [restoreEntry.eq_def] at h
  split at h
  · rename_i key value
    cases hl : ss.getLocal scope name with
    | error e => simp [hl, bind, Except.bind] at h
    | ok o =>
      obtain ⟨-, rfl⟩ := getLocal_eq_ok hl
      simp only [hl, bind, Except.bind] at h
      split at h
      · rename_i bound hlook
        cases hu : bound.updatePath (path ++ [key]) value with
        | error e => simp [hu] at h
        | ok updated =>
          rw [hu] at h
          exact ⟨key, value, bound, updated, rfl, hlook, hu, h⟩
      · exact absurd h (by simp)
  · exact absurd h (by simp)

theorem Scopes.restoreEntry_eq {ss : Scopes} {scope : ScopeId} {name : String}
    {path : List Value} {key value bound updated : Value} (hlook : ss.look scope name = some bound)
    (hu : bound.updatePath (path ++ [key]) value = .ok updated) :
    ss.restoreEntry scope name path (.pair key value) = ss.define scope name updated := by
  rw [restoreEntry, getLocal_eq (contains_of_look hlook), hlook]
  simp only [bind, Except.bind, hu]

namespace Run

variable {m : Machine} {marker : Marker} {scope : ScopeId} {x : Run Unit}

/-- What was recorded in a live scope is restored there. -/
theorem whenRestorable_live (h : m.scopes.contains scope) :
    whenRestorable marker scope x m = x m := by
  have hrestorable : m.scopes.restorable marker scope = .ok true := by
    rw [Scopes.restorable, if_pos h]
  rw [whenRestorable, bind_apply, restorable, query, hrestorable]
  rfl

/-- What was recorded in a scope that was created inside the skip is of no interest when that
    scope is gone. -/
theorem whenRestorable_gone (h : ¬m.scopes.contains scope)
    (hmarker : marker.encloses scope.serial) :
    whenRestorable marker scope x m = some (.ok (), m) := by
  have hrestorable : m.scopes.restorable marker scope = .ok false := by
    rw [Scopes.restorable, if_neg h, if_pos hmarker]
  rw [whenRestorable, bind_apply, restorable, query, hrestorable]
  rfl

/-- What is to be restored in a scope is restored there if it is live, and else nothing changes. -/
theorem whenRestorable_eq_some {m' : Machine} {r : Except Stop Unit}
    (h : whenRestorable marker scope x m = some (r, m')) :
    m.scopes.contains scope ∧ x m = some (r, m') ∨ m' = m := by
  by_cases hlive : m.scopes.contains scope
  · rw [whenRestorable_live hlive] at h
    exact .inl ⟨hlive, h⟩
  · right
    rw [whenRestorable, bind_apply, restorable, query, Scopes.restorable, if_neg hlive] at h
    by_cases hencloses : marker.encloses scope.serial
    · rw [if_pos hencloses] at h
      exact (Prod.mk.inj (Option.some.inj h)).2.symm
    · rw [if_neg hencloses] at h
      exact (Prod.mk.inj (Option.some.inj h)).2.symm

theorem exists_updateScopes (f : Scopes → Except Failure Scopes) (m : Machine) :
    ∃ r ss, updateScopes f m = some (r, { m with scopes := ss }) := by
  rw [updateScopes]
  cases f m.scopes with
  | ok ss => exact ⟨.ok (), ss, rfl⟩
  | error e => exact ⟨.error (.failure e), m.scopes, rfl⟩

theorem exists_whenRestorable (marker : Marker) (scope : ScopeId)
    (h : ∃ r ss, x m = some (r, { m with scopes := ss })) :
    ∃ r ss, whenRestorable marker scope x m = some (r, { m with scopes := ss }) := by
  rw [whenRestorable, bind_apply, restorable, query]
  cases m.scopes.restorable marker scope with
  | error e => exact ⟨.error (.failure e), m.scopes, rfl⟩
  | ok b =>
    cases b with
    | true => exact h
    | false => exact ⟨.ok (), m.scopes, rfl⟩

theorem updateScopes_eq {f : Scopes → Except Failure Scopes} {ss : Scopes}
    (h : f m.scopes = .ok ss) :
    updateScopes f m = some (.ok (), { m with scopes := ss }) := by
  rw [updateScopes, h]

end Run

namespace Machine

/-- The skip with the given marker is resolved, and its breadcrumbs are kept. -/
def closeSkip (m : Machine) (marker : Marker) : Machine :=
  { m with ledger := m.ledger.close marker }

/-- The skip with the given marker is resolved, and its breadcrumbs are dropped. -/
def discardSkip (m : Machine) (marker : Marker) : Machine :=
  { m with ledger := m.ledger.discard marker }

end Machine

/-- The marker of a skip with the given body, and the machine in which a reversal leaves the
    body, if one does. -/
def Evaluator.reversed? (r : Evaluator) (body : Block) (m : Machine) : Option (Marker × Machine) :=
  match Run.openSkip m with
  | some (.ok marker, m₁) =>
    match r.block body m₁ with
    | some (.error (.reversal _), m₂) => some (marker, m₂)
    | _ => none
  | _ => none

theorem Evaluator.reversed?_eq_some {r : Evaluator} {body : Block} {m m₂ : Machine}
    {marker : Marker} (h : r.reversed? body m = some (marker, m₂)) :
    ∃ m₁ payload, Run.openSkip m = some (.ok marker, m₁) ∧
      r.block body m₁ = some (.error (.reversal payload), m₂) := by
  rw [reversed?] at h
  split at h
  · rename_i hopen
    split at h
    · rename_i hbody
      obtain ⟨rfl, rfl⟩ := Prod.mk.inj (Option.some.inj h)
      exact ⟨_, _, hopen, hbody⟩
    · exact absurd h (by simp)
  · exact absurd h (by simp)

namespace Evaluator

variable (r : Evaluator) {marker : Marker} {enclosing : ScopeId} {m m' : Machine}

/-! ### Rollbacks -/

theorem restoreAbove_zero : r.restoreAbove marker enclosing 0 m = none := rfl

/-- A rollback takes the newest breadcrumb, restores it and goes on. -/
theorem restoreAbove_succ (n : Nat) :
    r.restoreAbove marker enclosing (n + 1) m =
      match m.ledger.popAbove marker with
      | none => some (.ok (), m)
      | some (c, l) =>
        (r.restore marker enclosing c >>= fun _ => r.restoreAbove marker enclosing n)
          { m with ledger := l } := by
  rw [restoreAbove, Run.bind_apply, Run.popAbove]
  cases m.ledger.popAbove marker with
  | none => rfl
  | some p => rfl

theorem contained_replay (scope : ScopeId) (undo : Stmt) : (r.replay scope undo).Contained := by
  refine .bind (.attempt _) fun x => ?_
  -- A reversal that leaves the statement becomes a failure here.
  split
  · exact .pure ()
  all_goals exact .fail _

theorem contained_restore (c : Breadcrumb) : (r.restore marker enclosing c).Contained := by
  have hwhen : ∀ scope {x : Run Unit}, x.Contained →
      (Run.whenRestorable marker scope x).Contained := by
    intro scope x hx
    refine .bind (.query _) fun b => ?_
    cases b with
    | true => exact hx
    | false => exact .pure ()
  cases c with
  | marker => exact .fail _
  | binding scope name previous => exact hwhen scope (.updateScopes _)
  | entry scope name path previous => exact hwhen scope (.updateScopes _)
  | replay scope undo =>
    refine .bind (.query _) fun b => ?_
    cases b with
    | true => exact r.contained_replay scope undo
    | false => exact r.contained_replay enclosing undo

/-- No reversal leaves a rollback. -/
theorem contained_restoreAbove (n : Nat) : (r.restoreAbove marker enclosing n).Contained := by
  induction n with
  | zero => exact .starved
  | succ n ih =>
    refine .bind (.popAbove marker) fun o => ?_
    cases o with
    | none => exact .pure ()
    | some c => exact .bind (r.contained_restore c) fun _ => ih

/-- Breadcrumbs are taken from above the marker and restored, one after the other. -/
inductive Restores (marker : Marker) (enclosing : ScopeId) :
    Machine → List Breadcrumb → Machine → Prop
  | nil (m : Machine) : Restores marker enclosing m [] m
  | cons {m m₁ m' : Machine} {c : Breadcrumb} {cs : List Breadcrumb} {l : Ledger} :
      m.ledger.popAbove marker = some (c, l) →
      r.restore marker enclosing c { m with ledger := l } = some (.ok (), m₁) →
      Restores marker enclosing m₁ cs m' → Restores marker enclosing m (c :: cs) m'

/-- A rollback that ends has restored some breadcrumbs, and then there was none left or
    the next one could not be restored. -/
theorem restores_of_restoreAbove {n : Nat} {x : Except Stop Unit}
    (h : r.restoreAbove marker enclosing n m = some (x, m')) :
    ∃ cs m₁, r.Restores marker enclosing m cs m₁ ∧ cs.length < n ∧
      ((x = .ok () ∧ m' = m₁ ∧ m₁.ledger.popAbove marker = none) ∨
        ∃ c l e, x = .error e ∧ m₁.ledger.popAbove marker = some (c, l) ∧
          r.restore marker enclosing c { m₁ with ledger := l } = some (.error e, m')) := by
  induction n generalizing m with
  | zero => exact absurd h (by simp [restoreAbove_zero])
  | succ n ih =>
    rw [restoreAbove_succ] at h
    split at h
    · rename_i hpop
      obtain ⟨rfl, rfl⟩ := Prod.mk.inj (Option.some.inj h)
      exact ⟨[], m, .nil m, Nat.succ_pos n, .inl ⟨rfl, rfl, hpop⟩⟩
    · rename_i c l hpop
      rcases Run.bind_eq_some h with ⟨_, m₁, hrestore, h⟩ | ⟨e, hrestore, rfl⟩
      · obtain ⟨cs, m₂, hcs, hn, hend⟩ := ih h
        exact ⟨c :: cs, m₂, .cons hpop hrestore hcs, Nat.succ_lt_succ hn, hend⟩
      · exact ⟨[], m, .nil m, Nat.succ_pos n, .inr ⟨c, l, e, rfl, hpop, hrestore⟩⟩

/-- A rollback that can go to its end does so if it may restore enough breadcrumbs. -/
theorem restoreAbove_of_restores {cs : List Breadcrumb}
    (h : r.Restores marker enclosing m cs m') (hend : m'.ledger.popAbove marker = none) (n : Nat) :
    r.restoreAbove marker enclosing n m = if cs.length < n then some (.ok (), m') else none := by
  -- One round more is needed than there are breadcrumbs, to see that none is left.
  induction h generalizing n with
  | nil m =>
    cases n with
    | zero => rfl
    | succ n =>
      rw [restoreAbove_succ, hend]
      exact (if_pos (Nat.succ_pos n)).symm
  | cons hpop hrestore _ ih =>
    cases n with
    | zero => rfl
    | succ n =>
      rw [restoreAbove_succ, hpop]
      simp only [Run.bind_apply, hrestore]
      simp only [ih hend n, List.length_cons, Nat.add_lt_add_iff_right]

omit r in
/-- A breadcrumb without a statement is dealt with in the same way by all evaluators, and that
    ends. -/
theorem exists_restore (marker : Marker) (enclosing : ScopeId) (m : Machine) {c : Breadcrumb}
    (hc : ∀ scope undo, c ≠ .replay scope undo) :
    ∃ x ss, ∀ r : Evaluator,
      r.restore marker enclosing c m = some (x, { m with scopes := ss }) := by
  cases c with
  | marker => exact ⟨_, m.scopes, fun _ => rfl⟩
  | binding scope name previous =>
    obtain ⟨x, ss, h⟩ := Run.exists_whenRestorable marker scope (Run.exists_updateScopes (fun ss => ss.define scope name previous) m)
    exact ⟨x, ss, fun _ => h⟩
  | entry scope name path previous =>
    obtain ⟨x, ss, h⟩ := Run.exists_whenRestorable marker scope (Run.exists_updateScopes (fun ss => ss.restoreEntry scope name path previous) m)
    exact ⟨x, ss, fun _ => h⟩
  | replay scope undo => exact absurd rfl (hc scope undo)

omit r in
/-- A rollback that replays no statement ends, if it may restore as many breadcrumbs as there
    are. -/
theorem exists_restoreAbove (enclosing : ScopeId) {log old : List Breadcrumb}
    (hcrumbs : m.ledger.crumbs = log ++ .marker marker :: old)
    (hlog : ∀ c ∈ log, ∀ scope undo, c ≠ .replay scope undo) :
    ∃ p, ∀ (r : Evaluator) n, log.length < n →
      r.restoreAbove marker enclosing n m = some p := by
  induction log generalizing m with
  | nil =>
    refine ⟨(.ok (), m), fun r n hn => ?_⟩
    obtain ⟨n, rfl⟩ := Nat.exists_eq_add_of_lt hn
    rw [restoreAbove_succ, Ledger.popAbove_marker hcrumbs]
  | cons c log ih =>
    obtain ⟨hc, hlog⟩ := List.forall_mem_cons.1 hlog
    cases hpop : m.ledger.popAbove marker with
    | none =>
      refine ⟨(.ok (), m), fun r n hn => ?_⟩
      obtain ⟨n, rfl⟩ := Nat.exists_eq_add_of_lt hn
      rw [restoreAbove_succ, hpop]
    | some p =>
      obtain ⟨c', l⟩ := p
      obtain ⟨rfl, hl⟩ := List.cons.inj (hcrumbs.symm.trans (Ledger.popAbove_eq_some hpop).1)
      obtain ⟨x, ss, hrestore⟩ := exists_restore marker enclosing { m with ledger := l } hc
      have hrun : ∀ (r : Evaluator) n, (c :: log).length < n → ∃ n', log.length < n' ∧
          r.restoreAbove marker enclosing n m =
            (r.restore marker enclosing c >>= fun _ => r.restoreAbove marker enclosing n')
              { m with ledger := l } := by
        intro r n hn
        obtain ⟨n, rfl⟩ := Nat.exists_eq_add_of_lt hn
        refine ⟨log.length + 1 + n, by omega, ?_⟩
        rw [List.length_cons, restoreAbove_succ, hpop]
      -- Restoring it may fail, and then the rollback is over as well.
      cases x with
      | error e =>
        refine ⟨(.error e, { m with ledger := l, scopes := ss }), fun r n hn => ?_⟩
        obtain ⟨n', -, hn⟩ := hrun r n hn
        rw [hn, Run.bind_apply, hrestore]
      | ok u =>
        obtain ⟨p, hp⟩ := ih (m := { m with ledger := l, scopes := ss }) hl.symm hlog
        refine ⟨p, fun r n hn => ?_⟩
        obtain ⟨n', hn', hn⟩ := hrun r n hn
        rw [hn, Run.bind_apply, hrestore]
        exact hp r n' hn'

/-! ### Skips -/

/-- A skip that is not entered changes nothing. -/
theorem skip_of_full (body : Block) (seizes : List Seize) {e : Failure}
    (hl : m.ledger.openSkip m.scopes.nextSerial = .error e) :
    r.skip body seizes m = some (.error (.failure e), m) := by
  rw [skip, Run.bind_apply, Run.read]
  dsimp only
  rw [Run.bind_apply, Run.openSkip, hl]
  rfl

/-- A skip that is entered is resolved in the way its body asks for. -/
theorem skip_of_openSkip (body : Block) (seizes : List Seize) {l : Ledger}
    (hl : m.ledger.openSkip m.scopes.nextSerial = .ok (marker, l)) :
    r.skip body seizes m =
      match r.block body { m with ledger := l } with
      | some (.ok (.returned v), m₂) => some (.ok (.returned v), m₂.discardSkip marker)
      | some (.ok flow, m₂) => some (.ok flow, m₂.closeSkip marker)
      | some (.error (.failure e), m₂) => some (.error (.failure e), m₂.discardSkip marker)
      | some (.error (.reversal payload), m₂) =>
        match r.rollBack marker m.current m₂ with
        | some (.ok _, m₃) => r.dispatch payload none seizes (m₃.closeSkip marker)
        | some (.error reason, m₃) => some (.error reason, m₃.discardSkip marker)
        | none => none
      | none => none := by
  rw [skip, Run.bind_apply, Run.read]
  dsimp only
  rw [Run.bind_apply, Run.openSkip, hl]
  dsimp only
  rw [Run.bind_apply, Run.attempt]
  rcases r.block body { m with ledger := l } with _ | ⟨(_ | _) | _ | _ | _, m₂⟩
  case some.error.reversal payload =>
    dsimp only
    rw [Run.bind_apply, Run.attempt]
    rcases r.rollBack marker m.current m₂ with _ | ⟨_ | _, m₃⟩ <;> rfl
  all_goals rfl

/-- How a skip that is entered in the machine `m` may end. -/
inductive Skipped (body : Block) (seizes : List Seize) (m : Machine) :
    Except Stop Flow → Machine → Prop
  /-- The skip is not entered. -/
  | full {e : Failure} : m.ledger.openSkip m.scopes.nextSerial = .error e →
      Skipped body seizes m (.error (.failure e)) m
  /-- The body returns a value. -/
  | returned {marker : Marker} {l : Ledger} {v : Value} {m₂ : Machine} :
      m.ledger.openSkip m.scopes.nextSerial = .ok (marker, l) →
      r.block body { m with ledger := l } = some (.ok (.returned v), m₂) →
      Skipped body seizes m (.ok (.returned v)) (m₂.discardSkip marker)
  /-- The body ends normally or by a jump. -/
  | closed {marker : Marker} {l : Ledger} {flow : Flow} {m₂ : Machine} :
      m.ledger.openSkip m.scopes.nextSerial = .ok (marker, l) →
      r.block body { m with ledger := l } = some (.ok flow, m₂) →
      (∀ v, flow ≠ .returned v) →
      Skipped body seizes m (.ok flow) (m₂.closeSkip marker)
  /-- The body fails. -/
  | failed {marker : Marker} {l : Ledger} {e : Failure} {m₂ : Machine} :
      m.ledger.openSkip m.scopes.nextSerial = .ok (marker, l) →
      r.block body { m with ledger := l } = some (.error (.failure e), m₂) →
      Skipped body seizes m (.error (.failure e)) (m₂.discardSkip marker)
  /-- A reversal leaves the body, and it cannot be taken back what happened. -/
  | stuck {marker : Marker} {l : Ledger} {payload : Value} {m₂ m₃ : Machine} {e : Failure} :
      m.ledger.openSkip m.scopes.nextSerial = .ok (marker, l) →
      r.block body { m with ledger := l } = some (.error (.reversal payload), m₂) →
      r.rollBack marker m.current m₂ = some (.error (.failure e), m₃) →
      Skipped body seizes m (.error (.failure e)) (m₃.discardSkip marker)
  /-- A reversal leaves the body, and it is taken back what happened. -/
  | reversed {marker : Marker} {l : Ledger} {payload : Value} {m₂ m₃ m' : Machine}
      {x : Except Stop Flow} :
      m.ledger.openSkip m.scopes.nextSerial = .ok (marker, l) →
      r.block body { m with ledger := l } = some (.error (.reversal payload), m₂) →
      r.rollBack marker m.current m₂ = some (.ok (), m₃) →
      r.dispatch payload none seizes (m₃.closeSkip marker) = some (x, m') →
      Skipped body seizes m x m'

/-- A skip ends in no other way. -/
theorem skipped {body : Block} {seizes : List Seize} {x : Except Stop Flow}
    (h : r.skip body seizes m = some (x, m')) : r.Skipped body seizes m x m' := by
  rw [skip, Run.bind_apply] at h
  simp only [Run.read] at h
  rcases Run.bind_eq_some h with ⟨marker, m₁, hopen, h⟩ | ⟨e, hopen, rfl⟩
  · obtain ⟨_, l, hl, ho, rfl⟩ | ⟨e, ho, -⟩ := Run.openSkip_eq_some hopen
    · obtain rfl := Except.ok.inj ho
      obtain ⟨y, m₂, hbody, h⟩ := Run.attempt_bind_eq_some h
      split at h
      · obtain ⟨rfl, rfl⟩ := Prod.mk.inj (Option.some.inj h)
        exact .returned hl hbody
      · rename_i flow hflow
        obtain ⟨rfl, rfl⟩ := Prod.mk.inj (Option.some.inj h)
        exact .closed hl hbody hflow
      · obtain ⟨rfl, rfl⟩ := Prod.mk.inj (Option.some.inj h)
        exact .failed hl hbody
      · obtain ⟨z, m₃, hroll, h⟩ := Run.attempt_bind_eq_some h
        split at h
        · exact .reversed hl hbody hroll h
        · rename_i reason
          obtain ⟨rfl, rfl⟩ := Prod.mk.inj (Option.some.inj h)
          -- No reversal leaves a rollback, so what stopped it is a failure.
          cases reason with
          | reversal payload => exact absurd hroll (r.contained_restoreAbove _ _ _ _)
          | failure e => exact .stuck hl hbody hroll
    · exact absurd ho (by simp)
  · obtain ⟨_, _, -, ho, -⟩ | ⟨e', ho, rfl, hfull⟩ := Run.openSkip_eq_some hopen
    · exact absurd ho (by simp)
    · obtain rfl := Except.error.inj ho
      exact .full hfull

end Evaluator

end Retrace
