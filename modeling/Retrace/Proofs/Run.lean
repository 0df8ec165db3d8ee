import Retrace.Machine

/-!
# Taking runs apart

From how a run ended it is concluded how its parts did. A run of one part after
the other (`bind_eq_some`) either went through the first part to its end, or
stopped there; the runs that put back what they changed do so in both cases
(`inScope_eq_some`, `inNewScope_eq_some`, `inCall_eq_some`).
-/

namespace Retrace.Run

variable {α β : Type} {m m' : Machine} {r : Except Stop α}

theorem bind_eq_some {x : Run α} {f : α → Run β} {r : Except Stop β}
    (h : (x >>= f) m = some (r, m')) :
    (∃ a m₁, x m = some (.ok a, m₁) ∧ f a m₁ = some (r, m')) ∨
      ∃ e, x m = some (.error e, m') ∧ r = .error e := by
  rw [bind_apply] at h
  split at h
  · exact .inl ⟨_, _, ‹_›, h⟩
  · obtain ⟨rfl, rfl⟩ := Prod.mk.inj (Option.some.inj h)
    exact .inr ⟨_, ‹_›, rfl⟩
  · exact absurd h (by simp)

/-- A run that went to its end went through all of its parts. -/
theorem bind_eq_ok {x : Run α} {f : α → Run β} {b : β} (h : (x >>= f) m = some (.ok b, m')) :
    ∃ a m₁, x m = some (.ok a, m₁) ∧ f a m₁ = some (.ok b, m') := by
  rcases bind_eq_some h with h | ⟨e, -, h⟩
  · exact h
  · exact absurd h (by simp)

theorem pure_eq_some {a : α} (h : (pure a : Run α) m = some (r, m')) : r = .ok a ∧ m' = m := by
  obtain ⟨rfl, rfl⟩ := Prod.mk.inj (Option.some.inj h)
  exact ⟨rfl, rfl⟩

theorem stop_eq_some {e : Stop} (h : (stop e : Run α) m = some (r, m')) :
    r = .error e ∧ m' = m := by
  obtain ⟨rfl, rfl⟩ := Prod.mk.inj (Option.some.inj h)
  exact ⟨rfl, rfl⟩

theorem fail_eq_some {e : Failure} (h : (fail e : Run α) m = some (r, m')) :
    r = .error (.failure e) ∧ m' = m :=
  stop_eq_some h

theorem ofExcept_eq_some {x : Except Failure α} (h : ofExcept x m = some (r, m')) :
    m' = m ∧ ((∃ a, x = .ok a ∧ r = .ok a) ∨ ∃ e, r = .error (.failure e) ∧ x = .error e) := by
  cases x with
  | ok a =>
    obtain ⟨rfl, rfl⟩ := pure_eq_some h
    exact ⟨rfl, .inl ⟨a, rfl, rfl⟩⟩
  | error e =>
    obtain ⟨rfl, rfl⟩ := fail_eq_some h
    exact ⟨rfl, .inr ⟨e, rfl, rfl⟩⟩

theorem query_eq_some {f : Machine → Except Failure α} (h : query f m = some (r, m')) :
    m' = m ∧ ((∃ a, f m = .ok a ∧ r = .ok a) ∨ ∃ e, r = .error (.failure e) ∧ f m = .error e) :=
  ofExcept_eq_some h

theorem read_eq_some {f : Machine → α} (h : read f m = some (r, m')) : r = .ok (f m) ∧ m' = m := by
  obtain ⟨rfl, rfl⟩ := Prod.mk.inj (Option.some.inj h)
  exact ⟨rfl, rfl⟩

theorem attempt_eq_some {x : Run α} {r : Except Stop (Except Stop α)}
    (h : attempt x m = some (r, m')) : ∃ r', r = .ok r' ∧ x m = some (r', m') := by
  rw [attempt] at h
  split at h
  · obtain ⟨rfl, rfl⟩ := Prod.mk.inj (Option.some.inj h)
    exact ⟨_, rfl, ‹_›⟩
  · exact absurd h (by simp)

/-- What comes after an attempt is run in any case. -/
theorem attempt_bind_eq_some {x : Run α} {f : Except Stop α → Run β} {r : Except Stop β}
    (h : (attempt x >>= f) m = some (r, m')) :
    ∃ y m₁, x m = some (y, m₁) ∧ f y m₁ = some (r, m') := by
  rw [bind_apply, attempt] at h
  cases hx : x m with
  | none => simp [hx] at h
  | some p =>
    rw [hx] at h
    exact ⟨p.1, p.2, rfl, h⟩

/-! ### Scopes -/

theorem updateScopes_eq_some {f : Scopes → Except Failure Scopes} {r : Except Stop Unit}
    (h : updateScopes f m = some (r, m')) :
    (∃ ss, f m.scopes = .ok ss ∧ r = .ok () ∧ m' = { m with scopes := ss }) ∨
      ∃ e, r = .error (.failure e) ∧ m' = m ∧ f m.scopes = .error e := by
  rw [updateScopes] at h
  split at h
  · obtain ⟨rfl, rfl⟩ := Prod.mk.inj (Option.some.inj h)
    exact .inl ⟨_, ‹_›, rfl, rfl⟩
  · obtain ⟨rfl, rfl⟩ := fail_eq_some h
    exact .inr ⟨_, rfl, rfl, ‹_›⟩

theorem inScope_apply (scope : ScopeId) (x : Run α) (m : Machine) :
    inScope scope x m =
      (x { m with current := scope }).map fun p => (p.1, { p.2 with current := m.current }) := by
  simp only [inScope]
  cases x { m with current := scope } <;> rfl

theorem inScope_eq_some {scope : ScopeId} {x : Run α} (h : inScope scope x m = some (r, m')) :
    ∃ m₁, x { m with current := scope } = some (r, m₁) ∧
      m' = { m₁ with current := m.current } := by
  rw [inScope_apply] at h
  obtain ⟨⟨r₁, m₁⟩, hx, h⟩ := Option.map_eq_some_iff.1 h
  obtain ⟨rfl, rfl⟩ := Prod.mk.inj h
  exact ⟨m₁, hx, rfl⟩

end Retrace.Run

namespace Retrace.Machine

/-- A new scope with the given parent is entered. -/
def enter (m : Machine) (parent : ScopeId) : Machine :=
  { m with scopes := (m.scopes.push parent).2, current := (m.scopes.push parent).1 }

/-- A call is entered. -/
def enterCall (m : Machine) : Machine :=
  { m with callDepth := m.callDepth + 1 }.enter Scopes.global

/-- The scope entered from the machine `m` is left. -/
def leave (m' m : Machine) : Machine :=
  { m' with scopes := m'.scopes.discard ⟨m.scopes.row.size, m.scopes.nextSerial⟩
            current := m.current }

end Retrace.Machine

namespace Retrace.Run

variable {α β : Type} {m m' : Machine} {r : Except Stop α} {x : Run α}

theorem inNewScope_apply (parent : ScopeId) (x : Run α) (m : Machine) :
    inNewScope parent x m = (x (m.enter parent)).map fun p => (p.1, p.2.leave m) := by
  have henter : { m with scopes := (m.scopes.push parent).2, current := (m.scopes.push parent).1 } =
      m.enter parent := rfl
  simp only [inNewScope, inScope, henter]
  cases x (m.enter parent) <;> rfl

theorem inNewScope_eq_some {parent : ScopeId} (h : inNewScope parent x m = some (r, m')) :
    ∃ m₁, x (m.enter parent) = some (r, m₁) ∧ m' = m₁.leave m := by
  rw [inNewScope_apply] at h
  obtain ⟨⟨r₁, m₁⟩, hx, h⟩ := Option.map_eq_some_iff.1 h
  obtain ⟨rfl, rfl⟩ := Prod.mk.inj h
  exact ⟨m₁, hx, rfl⟩

theorem inBlock_eq_some (h : inBlock x m = some (r, m')) :
    ∃ m₁, x (m.enter m.current) = some (r, m₁) ∧ m' = m₁.leave m :=
  inNewScope_eq_some h

theorem inCall_apply (x : Run α) (m : Machine) :
    inCall x m =
      if m.settings.maxCallDepth ≤ m.callDepth then
        fail (.callDepthExceeded m.settings.maxCallDepth) m
      else (x m.enterCall).map fun p =>
        (p.1, { p.2.leave m with callDepth := p.2.callDepth - 1 }) := by
  rw [inCall, inNewScope_apply]
  split
  · rfl
  · rw [← Machine.enterCall]
    cases x m.enterCall <;> rfl

theorem inCall_eq_some (h : inCall x m = some (r, m')) :
    (r = .error (.failure (.callDepthExceeded m.settings.maxCallDepth)) ∧ m' = m) ∨
      ∃ m₁, m.callDepth < m.settings.maxCallDepth ∧
        x m.enterCall = some (r, m₁) ∧
        m' = { m₁.leave m with callDepth := m₁.callDepth - 1 } := by
  rw [inCall_apply] at h
  split at h
  · exact .inl (fail_eq_some h)
  · rename_i hdepth
    obtain ⟨⟨r₁, m₁⟩, hx, h⟩ := Option.map_eq_some_iff.1 h
    obtain ⟨rfl, rfl⟩ := Prod.mk.inj h
    exact .inr ⟨m₁, Nat.lt_of_not_le hdepth, hx, rfl⟩

/-! ### The ledger -/

theorem record_eq_some {c : Breadcrumb} {r : Except Stop Unit}
    (h : record c m = some (r, m')) :
    (m.reversing = true ∧ r = .ok () ∧ m' = m) ∨
      (∃ l, m.reversing = false ∧ m.ledger.record c = .ok l ∧ r = .ok () ∧
        m' = { m with ledger := l }) ∨
      ∃ e, r = .error (.failure e) ∧ m' = m ∧ m.ledger.record c = .error e := by
  rw [record] at h
  split at h
  · obtain ⟨rfl, rfl⟩ := Prod.mk.inj (Option.some.inj h)
    exact .inl ⟨‹_›, rfl, rfl⟩
  · rename_i hr
    split at h
    · obtain ⟨rfl, rfl⟩ := Prod.mk.inj (Option.some.inj h)
      exact .inr (.inl ⟨_, Bool.eq_false_iff.2 hr, ‹_›, rfl, rfl⟩)
    · obtain ⟨rfl, rfl⟩ := fail_eq_some h
      exact .inr (.inr ⟨_, rfl, rfl, ‹_›⟩)

theorem openSkip_eq_some {r : Except Stop Marker} (h : openSkip m = some (r, m')) :
    (∃ marker l, m.ledger.openSkip m.scopes.nextSerial = .ok (marker, l) ∧ r = .ok marker ∧
      m' = { m with ledger := l }) ∨
      ∃ e, r = .error (.failure e) ∧ m' = m ∧ m.ledger.openSkip m.scopes.nextSerial = .error e := by
  rw [openSkip] at h
  split at h
  · obtain ⟨rfl, rfl⟩ := Prod.mk.inj (Option.some.inj h)
    exact .inl ⟨_, _, ‹_›, rfl, rfl⟩
  · obtain ⟨rfl, rfl⟩ := fail_eq_some h
    exact .inr ⟨_, rfl, rfl, ‹_›⟩

theorem popAbove_eq_some {marker : Marker} {r : Except Stop (Option Breadcrumb)}
    (h : popAbove marker m = some (r, m')) :
    (∃ c l, m.ledger.popAbove marker = some (c, l) ∧ r = .ok (some c) ∧
      m' = { m with ledger := l }) ∨
      (m.ledger.popAbove marker = none ∧ r = .ok none ∧ m' = m) := by
  rw [popAbove] at h
  split at h
  · obtain ⟨rfl, rfl⟩ := Prod.mk.inj (Option.some.inj h)
    exact .inl ⟨_, _, ‹_›, rfl, rfl⟩
  · obtain ⟨rfl, rfl⟩ := Prod.mk.inj (Option.some.inj h)
    exact .inr ⟨‹_›, rfl, rfl⟩

/-! ### Runs without reversals -/

/-- No reversal leaves the run. -/
def Contained (x : Run α) : Prop :=
  ∀ m payload m', x m ≠ some (.error (.reversal payload), m')

namespace Contained

theorem pure (a : α) : Contained (pure a : Run α) :=
  fun _ _ _ h => absurd (pure_eq_some h).1 (by simp)

theorem fail (e : Failure) : Contained (fail e : Run α) :=
  fun _ _ _ h => absurd (fail_eq_some h).1 (by simp)

theorem starved : Contained (starved : Run α) :=
  fun _ _ _ h => absurd h (by simp [Run.starved])

theorem bind {x : Run α} {f : α → Run β} (hx : x.Contained) (hf : ∀ a, (f a).Contained) :
    (x >>= f).Contained := by
  intro m payload m' h
  rcases bind_eq_some h with ⟨a, m₁, -, h⟩ | ⟨e, he, h⟩
  · exact hf a m₁ payload m' h
  · exact hx m payload m' (Except.error.inj h ▸ he)

theorem query (f : Machine → Except Failure α) : (query f).Contained := by
  intro m payload m' h
  obtain ⟨-, ⟨a, -, h⟩ | ⟨e, h, -⟩⟩ := query_eq_some h <;> exact absurd h (by simp)

theorem attempt (x : Run α) : (attempt x).Contained := by
  intro m payload m' h
  obtain ⟨r', h, -⟩ := attempt_eq_some h
  exact absurd h (by simp)

theorem updateScopes (f : Scopes → Except Failure Scopes) : (updateScopes f).Contained := by
  intro m payload m' h
  obtain ⟨ss, -, h, -⟩ | ⟨e, h, -⟩ := updateScopes_eq_some h <;> exact absurd h (by simp)

theorem popAbove (marker : Marker) : (popAbove marker).Contained := by
  intro m payload m' h
  obtain ⟨c, l, -, h, -⟩ | ⟨-, h, -⟩ := popAbove_eq_some h <;> exact absurd h (by simp)

end Contained

end Retrace.Run
