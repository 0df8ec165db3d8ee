import Retrace.Proofs.Choosing
import Retrace.Proofs.Landing
import Retrace.Proofs.Reached

/-!
# Switching

A switch evaluates its subject, chooses a clause and runs it. When that falls
through, the switch goes on with the next clause, and in this way it comes from
clause to clause (`Evaluator.Falls`) up to one that ends otherwise
(`Evaluator.Ends`). So what a switch does (`Evaluator.Switches`) depends on when a
clause hands control on to the next one.

It should do so at its end alone: when all of its statements but the last have ended
normally, and the last one is a `fallthrough` (`Evaluator.HandsOn`). In fact a
clause is asked for two things: that its body has ended by falling through, and that
its last statement is a `fallthrough` (`Evaluator.FallsThrough`). The former does not
say where the flow has come from, and so a clause with a `fallthrough` at its end hands
control on too if a statement before the end falls through (`Evaluator.FallsEarly`).
Where no clause does that, the two are the same (`Evaluator.switch_falls`); and none does
in a program whose jumps stand where something takes them (`Evaluator.Places.fallsOnlyAtEnd`).
-/

namespace Retrace

/-- A clause ends with a `fallthrough` if that is its last statement. -/
theorem endsWithFallthrough_concat {front : List Stmt} {s : Stmt} :
    endsWithFallthrough (front ++ [s]) ↔ s.action = .jump .fallthrough := by
  obtain ⟨action, l⟩ := s
  rw [endsWithFallthrough, List.getLast?_concat]
  constructor
  · intro h
    split at h
    · rename_i hlast
      exact (Stmt.mk.inj (Option.some.inj hlast)).1
    · exact absurd h (by simp)
  · rintro rfl
    rfl

namespace Evaluator

variable (r : Evaluator)

/-! ### Blocks -/

/-- When the block is run in `m`, those statements end normally that stand before `s`, and
    then `s` is begun in `m₁`, with `rest` still to come. -/
def Arrives (b : Block) (m : Machine) (s : Stmt) (rest : List Stmt) (m₁ : Machine) : Prop :=
  ∃ front, b = front ++ s :: rest ∧ r.execAll front (m.enter m.current) = some (.ok .normal, m₁)

variable {r} {m m₁ m' : Machine} {b : Block} {x : Except Stop Flow}

theorem execAll_append {front : List Stmt} (h : r.execAll front m = some (.ok .normal, m₁))
    (rest : List Stmt) : r.execAll (front ++ rest) m = r.execAll rest m₁ := by
  induction front generalizing m with
  | nil =>
    obtain ⟨-, rfl⟩ := Run.pure_eq_some h
    rfl
  | cons s front ih =>
    rw [execAll] at h
    obtain ⟨flow, m₂, hs, h⟩ := Run.bind_eq_ok h
    cases flow with
    | normal =>
      rw [List.cons_append, execAll, Run.bind_apply, hs]
      exact ih h
    | jump => exact absurd (Run.pure_eq_some h).1 (by simp)
    | returned => exact absurd (Run.pure_eq_some h).1 (by simp)

/-- What ends a sequence before its end comes from one of its statements. -/
theorem exists_of_execAll (h : r.execAll b m = some (x, m')) (hx : x ≠ .ok .normal) :
    ∃ front s rest m₁, b = front ++ s :: rest ∧
      r.execAll front m = some (.ok .normal, m₁) ∧ r.exec s m₁ = some (x, m') := by
  induction b generalizing m with
  | nil => exact absurd (Run.pure_eq_some h).1 hx
  | cons s b ih =>
    rw [execAll] at h
    rcases Run.bind_eq_some h with ⟨flow, m₁, hs, h⟩ | ⟨e, hs, rfl⟩
    · -- What ends normally is put in front of what the hypothesis gives, all else is the one.
      cases flow with
      | normal =>
        obtain ⟨front, s', rest, m₂, rfl, hfront, hs'⟩ := ih h
        refine ⟨s :: front, s', rest, m₂, rfl, ?_, hs'⟩
        rw [execAll, Run.bind_apply, hs]
        exact hfront
      | jump =>
        obtain ⟨rfl, rfl⟩ := Run.pure_eq_some h
        exact ⟨[], s, b, m, rfl, rfl, hs⟩
      | returned =>
        obtain ⟨rfl, rfl⟩ := Run.pure_eq_some h
        exact ⟨[], s, b, m, rfl, rfl, hs⟩
    · exact ⟨[], s, b, m, rfl, rfl, hs⟩

theorem execAll_cons_of_ne_normal {s : Stmt} (hs : r.exec s m = some (x, m'))
    (hx : x ≠ .ok .normal) (rest : List Stmt) : r.execAll (s :: rest) m = some (x, m') := by
  rw [execAll, Run.bind_apply, hs]
  rcases x with e | _ | _ | _
  · rfl
  · exact absurd rfl hx
  · rfl
  · rfl

/-- A block ends other than normally exactly if it comes to a statement that does. -/
theorem block_eq_some_iff (hx : x ≠ .ok .normal) :
    r.block b m = some (x, m') ↔ ∃ s rest m₁ m₂, r.Arrives b m s rest m₁ ∧
      r.exec s m₁ = some (x, m₂) ∧ m' = m₂.leave m := by
  constructor
  · intro h
    obtain ⟨m₂, hrun, hm'⟩ := Run.inBlock_eq_some h
    obtain ⟨front, s, rest, m₁, hb, hfront, hs⟩ := exists_of_execAll hrun hx
    exact ⟨s, rest, m₁, m₂, ⟨front, hb, hfront⟩, hs, hm'⟩
  · rintro ⟨s, rest, m₁, m₂, ⟨front, rfl, hfront⟩, hs, rfl⟩
    have hrun : r.execAll (front ++ s :: rest) (m.enter m.current) = some (x, m₂) := by
      rw [execAll_append hfront, execAll_cons_of_ne_normal hs hx]
    refine (Run.inNewScope_apply m.current _ m).trans ?_
    rw [hrun]
    rfl

/-! ### From clause to clause -/

variable (r)

/-- The body of a clause that is entered in `m` hands control on at its end, which leads to
    `m'`: all of its statements but the last end normally, and the last one is a `fallthrough`. -/
def HandsOn (b : Block) (m m' : Machine) : Prop :=
  ∃ s m₁ m₂, r.Arrives b m s [] m₁ ∧ s.action = .jump .fallthrough ∧
    r.exec s m₁ = some (.ok (.jump .fallthrough), m₂) ∧ m' = m₂.leave m

/-- A statement of the body falls through that is no `fallthrough` at its end. -/
def FallsEarly (b : Block) (m m' : Machine) : Prop :=
  ∃ s rest m₁ m₂, r.Arrives b m s rest m₁ ∧ (rest = [] → s.action ≠ .jump .fallthrough) ∧
    r.exec s m₁ = some (.ok (.jump .fallthrough), m₂) ∧ m' = m₂.leave m

/-- The body ends by falling through, and there is a `fallthrough` at its end. -/
def FallsThrough (b : Block) (m m' : Machine) : Prop :=
  r.block b m = some (.ok (.jump .fallthrough), m') ∧ endsWithFallthrough b

/-- From the clauses `cs` in `m` those `rest` are come to in `m'`, if `next` says when the body
    of one leads to the next. -/
inductive Falls (next : Block → Machine → Machine → Prop) :
    List Case → Machine → List Case → Machine → Prop
  | refl (cs : List Case) (m : Machine) : Falls next cs m cs m
  | step {c : Case} {cs rest : List Case} {m m₁ m' : Machine} : next c.body m m₁ →
      Falls next cs m₁ rest m' → Falls next (c :: cs) m rest m'

/-- How the clauses end in the first one of them, if that does not lead to the next. -/
inductive Ends (next : Block → Machine → Machine → Prop) :
    List Case → Machine → Except Stop Flow → Machine → Prop
  /-- There is no clause left. -/
  | nil (m : Machine) : Ends next [] m (.ok .normal) m
  | normal {c : Case} {cs : List Case} {m m' : Machine} :
      r.block c.body m = some (.ok .normal, m') → Ends next (c :: cs) m (.ok .normal) m'
  | left {c : Case} {cs : List Case} {m m' : Machine} :
      r.block c.body m = some (.ok (.jump .leave), m') → Ends next (c :: cs) m (.ok .normal) m'
  | returned {c : Case} {cs : List Case} {m m' : Machine} {v : Value} :
      r.block c.body m = some (.ok (.returned v), m') →
      Ends next (c :: cs) m (.ok (.returned v)) m'
  | stopped {c : Case} {cs : List Case} {m m' : Machine} {e : Stop} :
      r.block c.body m = some (.error e, m') → Ends next (c :: cs) m (.error e) m'
  /-- The clause falls through in a place where it must not. -/
  | misplaced {c : Case} {cs : List Case} {m m' : Machine} :
      r.block c.body m = some (.ok (.jump .fallthrough), m') → ¬next c.body m m' →
      Ends next (c :: cs) m (.error (.failure (.misplacedJump .fallthrough))) m'

/-- Which clauses are gone through from the first one on whose value equals the subject, or else
    from the first `default`. -/
def Selects (subject : Value) (cases : List Case) :
    Machine → Except Stop (List Case) → Machine → Prop :=
  r.Chooses subject.equals (fun c cs => pure (c :: cs)) (pure (fromBare cases)) cases

/-- The switch that is run in `m` comes to the clauses `rest` in `m'`. -/
def SwitchReaches (next : Block → Machine → Machine → Prop) (subject : Expr) (cases : List Case)
    (m : Machine) (rest : List Case) (m' : Machine) : Prop :=
  ∃ v m₁ chosen m₂, r.eval subject m = some (.ok v, m₁) ∧
    r.Selects v cases m₁ (.ok chosen) m₂ ∧ Falls next chosen m₂ rest m'

/-- How a switch may end that is run in the machine `m`. -/
inductive Switches (next : Block → Machine → Machine → Prop) (subject : Expr) (cases : List Case)
    (m : Machine) : Except Stop Flow → Machine → Prop
  /-- The subject has no value. -/
  | subject {e : Stop} {m' : Machine} : r.eval subject m = some (.error e, m') →
      Switches next subject cases m (.error e) m'
  /-- The value of a case is asked for that has none. -/
  | value {v : Value} {e : Stop} {m₁ m' : Machine} : r.eval subject m = some (.ok v, m₁) →
      r.Selects v cases m₁ (.error e) m' → Switches next subject cases m (.error e) m'
  /-- A clause ends that the switch has come to, or there is none left. -/
  | clause {rest : List Case} {m₁ m' : Machine} {x : Except Stop Flow} :
      r.SwitchReaches next subject cases m rest m₁ → r.Ends next rest m₁ x m' →
      Switches next subject cases m x m'

/-- The switch goes on from a clause to the next one only at its end. -/
def FallsOnlyAtEnd (subject : Expr) (cases : List Case) (m : Machine) : Prop :=
  ∀ x m', r.switch subject cases m = some (x, m') ↔
    r.Switches r.HandsOn subject cases m x m'

variable {r} {c : Case} {cs rest cases : List Case} {subject : Expr}
  {next next' : Block → Machine → Machine → Prop}

/-- A body that falls through does so at its end or early. -/
theorem block_fallthrough_iff :
    r.block b m = some (.ok (.jump .fallthrough), m') ↔
      r.HandsOn b m m' ∨ r.FallsEarly b m m' := by
  rw [block_eq_some_iff (by simp)]
  constructor
  · rintro ⟨s, rest, m₁, m₂, harrives, hs, hm'⟩
    by_cases hend : rest = [] → s.action ≠ .jump .fallthrough
    · exact .inr ⟨s, rest, m₁, m₂, harrives, hend, hs, hm'⟩
    · obtain ⟨rfl, haction⟩ := Classical.not_imp.1 hend
      exact .inl ⟨s, m₁, m₂, harrives, Classical.not_not.1 haction, hs, hm'⟩
  · rintro (⟨s, m₁, m₂, harrives, -, hs, hm'⟩ | ⟨s, rest, m₁, m₂, harrives, -, hs, hm'⟩)
    · exact ⟨s, [], m₁, m₂, harrives, hs, hm'⟩
    · exact ⟨s, rest, m₁, m₂, harrives, hs, hm'⟩

theorem HandsOn.fallsThrough (h : r.HandsOn b m m') : r.FallsThrough b m m' := by
  refine ⟨block_fallthrough_iff.2 (.inl h), ?_⟩
  obtain ⟨s, m₁, m₂, ⟨front, rfl, -⟩, hs, -⟩ := h
  exact endsWithFallthrough_concat.2 hs

theorem fallsThrough_iff :
    r.FallsThrough b m m' ↔ r.HandsOn b m m' ∨ r.FallsEarly b m m' ∧ endsWithFallthrough b := by
  constructor
  · rintro ⟨hb, hend⟩
    rcases block_fallthrough_iff.1 hb with h | h
    · exact .inl h
    · exact .inr ⟨h, hend⟩
  · rintro (h | ⟨h, hend⟩)
    · exact h.fallsThrough
    · exact ⟨block_fallthrough_iff.2 (.inr h), hend⟩

/-- It matters only what leads on from those clauses that are come to. -/
theorem Falls.mono (h : Falls next cs m rest m')
    (hnext : ∀ {c cs' m₁ m₂}, Falls next cs m (c :: cs') m₁ → next c.body m₁ m₂ →
      next' c.body m₁ m₂) : Falls next' cs m rest m' := by
  induction h with
  | refl cs m => exact .refl cs m
  | step hstep _ ih =>
    refine .step (hnext (.refl _ _) hstep) (ih fun hfalls h => ?_)
    exact hnext (.step hstep hfalls) h

theorem Falls.suffix (h : Falls next cs m rest m') : rest <:+ cs := by
  induction h with
  | refl => exact List.suffix_refl _
  | step _ _ ih => exact ih.trans (List.suffix_cons _ _)

theorem fallInto_of_fallsThrough (h : r.FallsThrough c.body m m₁) (cs : List Case) :
    r.fallInto (c :: cs) m = r.fallInto cs m₁ := by
  rw [fallInto, Run.bind_apply, h.1]
  simp only [h.2, if_true]

theorem exists_of_fallInto (h : r.fallInto cs m = some (x, m')) :
    ∃ rest m₁, Falls r.FallsThrough cs m rest m₁ ∧ r.Ends r.FallsThrough rest m₁ x m' := by
  induction cs generalizing m with
  | nil =>
    obtain ⟨rfl, rfl⟩ := Run.pure_eq_some h
    exact ⟨[], m', .refl _ _, .nil m'⟩
  | cons c cs ih =>
    rw [fallInto] at h
    rcases Run.bind_eq_some h with ⟨flow, m₁, hb, h⟩ | ⟨e, hb, rfl⟩
    · rcases flow with _ | (_ | _) | v
      · obtain ⟨rfl, rfl⟩ := Run.pure_eq_some h
        exact ⟨c :: cs, m, .refl _ _, .normal hb⟩
      · obtain ⟨rfl, rfl⟩ := Run.pure_eq_some h
        exact ⟨c :: cs, m, .refl _ _, .left hb⟩
      · -- Here alone may another clause follow.
        by_cases hend : endsWithFallthrough c.body
        · simp only [hend, if_true] at h
          obtain ⟨rest, m₂, hfalls, hends⟩ := ih h
          exact ⟨rest, m₂, .step ⟨hb, hend⟩ hfalls, hends⟩
        · simp only [hend, Bool.false_eq_true, if_false] at h
          obtain ⟨rfl, rfl⟩ := Run.fail_eq_some h
          exact ⟨c :: cs, m, .refl _ _, .misplaced hb fun h => hend h.2⟩
      · obtain ⟨rfl, rfl⟩ := Run.pure_eq_some h
        exact ⟨c :: cs, m, .refl _ _, .returned hb⟩
    · exact ⟨c :: cs, m, .refl _ _, .stopped hb⟩

theorem Ends.fallInto (h : r.Ends r.FallsThrough cs m x m') : r.fallInto cs m = some (x, m') := by
  cases h with
  | nil => rfl
  | normal hb => rw [Evaluator.fallInto, Run.bind_apply, hb]; rfl
  | left hb => rw [Evaluator.fallInto, Run.bind_apply, hb]; rfl
  | returned hb => rw [Evaluator.fallInto, Run.bind_apply, hb]; rfl
  | stopped hb => rw [Evaluator.fallInto, Run.bind_apply, hb]
  | misplaced hb hnext =>
    rw [Evaluator.fallInto, Run.bind_apply, hb]
    simp only [if_neg fun hend => hnext ⟨hb, hend⟩]
    rfl

/-- The clauses are gone through up to one that does not fall through to the next. -/
theorem fallInto_eq_some_iff : r.fallInto cs m = some (x, m') ↔
    ∃ rest m₁, Falls r.FallsThrough cs m rest m₁ ∧ r.Ends r.FallsThrough rest m₁ x m' := by
  refine ⟨exists_of_fallInto, ?_⟩
  rintro ⟨rest, m₁, hfalls, hends⟩
  induction hfalls with
  | refl => exact hends.fallInto
  | step hnext _ ih => rw [fallInto_of_fallsThrough hnext, ih hends]

/-! ### Switches -/

theorem select_eq_some_iff {v : Value} {chosen : Except Stop (List Case)} :
    r.select v none cases m = some (chosen, m') ↔ r.Selects v cases m chosen m' := by
  rw [select_eq_choose, choose_eq_some_iff]
  rfl

theorem switch_eq_some_iff : r.switch subject cases m = some (x, m') ↔
    r.Switches r.FallsThrough subject cases m x m' := by
  rw [switch]
  constructor
  · intro h
    rcases Run.bind_eq_some h with ⟨v, m₁, hsubject, h⟩ | ⟨e, hsubject, rfl⟩
    · rcases Run.bind_eq_some h with ⟨chosen, m₂, hselect, h⟩ | ⟨e, hselect, rfl⟩
      · obtain ⟨rest, m₃, hfalls, hends⟩ := exists_of_fallInto h
        exact .clause ⟨v, m₁, chosen, m₂, hsubject, select_eq_some_iff.1 hselect, hfalls⟩ hends
      · exact .value hsubject (select_eq_some_iff.1 hselect)
    · exact .subject hsubject
  · intro h
    cases h with
    | subject hsubject => rw [Run.bind_apply, hsubject]
    | value hsubject hselect =>
      rw [Run.bind_apply, hsubject]
      dsimp only
      rw [Run.bind_apply, select_eq_some_iff.2 hselect]
    | clause hreaches hends =>
      obtain ⟨v, m₁, chosen, m₂, hsubject, hselect, hfalls⟩ := hreaches
      rw [Run.bind_apply, hsubject]
      dsimp only
      rw [Run.bind_apply, select_eq_some_iff.2 hselect]
      exact fallInto_eq_some_iff.2 ⟨_, _, hfalls, hends⟩

theorem Selects.suffix {v : Value} {chosen : List Case}
    (h : r.Selects v cases m (.ok chosen) m') : chosen <:+ cases := by
  cases h with
  | taken hcases _ _ _ htake =>
    obtain ⟨hchosen, -⟩ := Run.pure_eq_some htake
    rw [Except.ok.inj hchosen]
    exact ⟨_, hcases.symm⟩
  | passed _ hotherwise =>
    obtain ⟨hchosen, -⟩ := Run.pure_eq_some hotherwise
    rw [Except.ok.inj hchosen]
    exact List.dropWhile_suffix _

/-- A switch comes to its clauses in the order of the text. -/
theorem SwitchReaches.suffix (h : r.SwitchReaches next subject cases m rest m') :
    rest <:+ cases := by
  obtain ⟨v, m₁, chosen, m₂, -, hselect, hfalls⟩ := h
  exact hfalls.suffix.trans hselect.suffix

theorem SwitchReaches.mono (h : r.SwitchReaches next subject cases m rest m')
    (hnext : ∀ {c cs m₁ m₂}, r.SwitchReaches next subject cases m (c :: cs) m₁ →
      next c.body m₁ m₂ → next' c.body m₁ m₂) :
    r.SwitchReaches next' subject cases m rest m' := by
  obtain ⟨v, m₁, chosen, m₂, hsubject, hselect, hfalls⟩ := h
  refine ⟨v, m₁, chosen, m₂, hsubject, hselect, hfalls.mono fun hfalls' h => ?_⟩
  exact hnext ⟨v, m₁, chosen, m₂, hsubject, hselect, hfalls'⟩ h

/-- What a switch does depends only on when those clauses hand control on that it comes to. -/
theorem Switches.mono (h : r.Switches next subject cases m x m')
    (hnext : ∀ {c rest m₁}, r.SwitchReaches next subject cases m (c :: rest) m₁ →
      ∀ m₂, next c.body m₁ m₂ ↔ next' c.body m₁ m₂) :
    r.Switches next' subject cases m x m' := by
  cases h with
  | subject hsubject => exact .subject hsubject
  | value hsubject hselect => exact .value hsubject hselect
  | clause hreaches hends =>
    rename_i rest m₁
    -- Whether a clause that falls through is misplaced depends on what leads on as well.
    have hends' : r.Ends next' rest m₁ x m' := by
      cases hends with
      | nil => exact .nil _
      | normal hb => exact .normal hb
      | left hb => exact .left hb
      | returned hb => exact .returned hb
      | stopped hb => exact .stopped hb
      | misplaced hb h => exact .misplaced hb fun h' => h ((hnext hreaches _).2 h')
    exact .clause (hreaches.mono fun hreaches' => (hnext hreaches' _).1) hends'

variable (r) in
/-- If no clause with a `fallthrough` at its end falls through early, then the switch goes on from
    a clause only at its end. -/
theorem fallsOnlyAtEnd_of_late (subject : Expr) (cases : List Case) (m : Machine)
    (hlate : ∀ c rest m₁ m₂, r.SwitchReaches r.FallsThrough subject cases m (c :: rest) m₁ →
      r.FallsEarly c.body m₁ m₂ → endsWithFallthrough c.body = false) :
    r.FallsOnlyAtEnd subject cases m := by
  intro x m'
  rw [switch_eq_some_iff]
  have hsame : ∀ {c rest m₁}, r.SwitchReaches r.FallsThrough subject cases m (c :: rest) m₁ →
      ∀ m₂, r.FallsThrough c.body m₁ m₂ ↔ r.HandsOn c.body m₁ m₂ := by
    intro c rest m₁ hreaches m₂
    refine ⟨fun h => ?_, HandsOn.fallsThrough⟩
    rcases fallsThrough_iff.1 h with h | ⟨h, hend⟩
    · exact h
    · exact absurd hend (by simp [hlate c rest m₁ m₂ hreaches h])
  constructor
  · intro h
    exact h.mono hsame
  · intro h
    refine h.mono fun {c rest m₁} hreaches m₂ => ?_
    have hreaches' : r.SwitchReaches r.FallsThrough subject cases m (c :: rest) m₁ :=
      hreaches.mono fun _ => HandsOn.fallsThrough
    exact (hsame hreaches' m₂).symm

variable (r) in
/-- A switch chooses its first clause by the value of the subject and goes on from a clause whose
    body ends by falling through and that has a `fallthrough` for its last statement. Either that
    statement is the one that falls through, after all others have ended normally, or one before it
    does; if the latter does not happen, then it goes on from a clause only at its end. -/
theorem switch_falls (subject : Expr) (cases : List Case) (m : Machine) :
    (∀ x m', r.switch subject cases m = some (x, m') ↔
      r.Switches r.FallsThrough subject cases m x m') ∧
      (∀ b m₁ m₂, r.FallsThrough b m₁ m₂ ↔
        r.HandsOn b m₁ m₂ ∨ r.FallsEarly b m₁ m₂ ∧ endsWithFallthrough b) ∧
      ((∀ c rest m₁ m₂, r.SwitchReaches r.FallsThrough subject cases m (c :: rest) m₁ →
        r.FallsEarly c.body m₁ m₂ → endsWithFallthrough c.body = false) →
        r.FallsOnlyAtEnd subject cases m) := by
  refine ⟨?_, ?_, r.fallsOnlyAtEnd_of_late subject cases m⟩
  · intro x m'
    exact switch_eq_some_iff
  · intro b m₁ m₂
    exact fallsThrough_iff

end Evaluator

/-! ### Where all jumps are placed -/

/-- What falls through early stands before the `fallthrough` at the end, if there is one. -/
theorem withoutFallthrough_of_early {front rest : List Stmt} {s : Stmt}
    (hs : rest = [] → s.action ≠ .jump .fallthrough) :
    ∃ rest', withoutFallthrough (front ++ s :: rest) = front ++ s :: rest' := by
  rw [withoutFallthrough]
  split
  · rename_i hends
    cases rest with
    | nil => exact absurd (endsWithFallthrough_concat.1 hends) (hs rfl)
    | cons s' rest =>
      refine ⟨(s' :: rest).dropLast, ?_⟩
      rw [List.dropLast_append_of_ne_nil (List.cons_ne_nil _ _), List.dropLast_cons_cons]
  · exact ⟨rest, rfl⟩

namespace Evaluator.Places

variable {r : Evaluator} (hr : r.Places) {m m' : Machine}
include hr

theorem not_fallsEarly {b : Block} (hb : ∀ s ∈ withoutFallthrough b, s.Placed true)
    (hm : m.Placed) : ¬r.FallsEarly b m m' := by
  -- No `fallthrough` comes from a statement that is placed, and those up to `s` are.
  rintro ⟨s, rest, m₁, m₂, ⟨front, rfl, hfront⟩, hearly, hs, -⟩
  obtain ⟨rest', hrest⟩ := withoutFallthrough_of_early hearly
  rw [hrest] at hb
  have hplaced : ∀ s ∈ front, s.Placed true :=
    fun s hs => hb s (List.mem_append_left _ hs)
  have hs' : s.Placed true := hb s (List.mem_append_right _ List.mem_cons_self)
  obtain ⟨hm₁, -⟩ := hr.execAll hplaced _ _ m₁ (hm.enter _) hfront
  exact (hr.exec hs' _ _ m₂ hm₁ hs).2

theorem switchReaches {subject : Expr} {cases rest : List Case}
    (hcases : ∀ c ∈ cases, ∀ s ∈ withoutFallthrough c.body, s.Placed true) (hm : m.Placed)
    (h : r.SwitchReaches r.FallsThrough subject cases m rest m') : m'.Placed := by
  obtain ⟨v, m₁, chosen, m₂, hsubject, hselect, hfalls⟩ := h
  obtain ⟨hm₁, -⟩ := hr.eval subject _ _ m₁ hm hsubject
  have hchosen : ∀ c ∈ chosen, ∀ s ∈ withoutFallthrough c.body, s.Placed true :=
    fun c hc => hcases c (hselect.suffix.subset hc)
  obtain ⟨hm₂, -⟩ := hr.select v hcases (fun _ h => absurd h List.not_mem_nil) _ _ m₂ hm₁
    (Evaluator.select_eq_some_iff.2 hselect)
  clear hselect
  induction hfalls with
  | refl => exact hm₂
  | step hnext _ ih =>
    obtain ⟨hc, hcs⟩ := List.forall_mem_cons.1 hchosen
    exact ih hcs (hr.clause hc _ _ _ hm₂ hnext.1).1

/-- In a program that is placed a switch goes on from a clause only at its end. -/
theorem fallsOnlyAtEnd (subject : Expr) {cases : List Case}
    (hcases : ∀ c ∈ cases, ∀ s ∈ withoutFallthrough c.body, s.Placed true) (hm : m.Placed) :
    r.FallsOnlyAtEnd subject cases m := by
  refine (r.fallsOnlyAtEnd_of_late subject cases m) fun c rest m₁ m₂ hreaches hearly => ?_
  have hc : ∀ s ∈ withoutFallthrough c.body, s.Placed true :=
    hcases c (hreaches.suffix.subset List.mem_cons_self)
  exact absurd hearly (hr.not_fallsEarly hc (hr.switchReaches hcases hm hreaches))

end Evaluator.Places

/-! ### Falling through at the end, and before it -/

namespace Switching

/-- The subject of a switch, and the value of its first case. -/
def subject : Expr := .literal .truth "true"

/-- A `fallthrough` that stands by itself. -/
def fall : Stmt := ⟨.jump .fallthrough, .unknown⟩

/-- A `fallthrough` inside a branch. -/
def nested : Stmt := ⟨.branch [⟨subject, [fall]⟩] none, .unknown⟩

/-- A `default` that returns. -/
def second : Case := ⟨none, [⟨.ret (some (.literal .str "second")), .unknown⟩]⟩

/-- A case that falls through at its end, and a `default`. -/
def atEnd : List Case := [⟨some subject, [⟨.expr subject none, .unknown⟩, fall]⟩, second]

/-- A case that falls through in a branch, but has a `fallthrough` at its end, and a `default`. -/
def beforeEnd : List Case := [⟨some subject, [nested, fall]⟩, second]

end Switching

open Switching in
/-- A clause that falls through at its end hands control on, and the next one returns. -/
theorem Evaluator.switch_falls_atEnd :
    (evaluator .bare 9).FallsOnlyAtEnd subject atEnd .bare ∧
      ∃ v m', v.equals (.str "second") ∧ (evaluator .bare 9).Switches
        (evaluator .bare 9).HandsOn subject atEnd .bare (.ok (.returned v)) m' := by
  have hrun : ((evaluator .bare 9).switch subject atEnd .bare).any
      fun run => Flow.isReturned (·.equals (.str "second")) run.1 := by decide +kernel
  obtain ⟨⟨x, m'⟩, hrun, hx⟩ := (Option.any_eq_true _ _).1 hrun
  obtain ⟨v, rfl, hv⟩ := Flow.exists_of_isReturned hx
  obtain ⟨-, -, hfalls⟩ := (evaluator .bare 9).switch_falls subject atEnd .bare
  have honly := hfalls fun c rest m₁ m₂ hreaches hearly => by
    have hc : c ∈ atEnd := hreaches.suffix.subset List.mem_cons_self
    rcases List.mem_cons.1 hc with rfl | hc
    · obtain ⟨s, rest, m₃, m₄, ⟨front, hbody, -⟩, hlast, hs, -⟩ := hearly
      -- Only the last of the two statements falls through.
      rcases front with _ | ⟨s', _ | ⟨s'', front⟩⟩
      · obtain ⟨rfl, -⟩ := List.cons.inj hbody
        exact absurd (Option.some.inj hs) (by simp [Prod.ext_iff])
      · obtain ⟨rfl, rfl⟩ := List.cons.inj (List.cons.inj hbody).2
        exact absurd rfl (hlast rfl)
      · exact absurd (congrArg List.length hbody) (by simp)
    · obtain rfl := List.mem_singleton.1 hc
      rfl
  exact ⟨honly, v, m', hv, (honly _ _).1 hrun⟩

open Switching in
/-- A clause that falls through before its end hands control on if there is a `fallthrough` at
    its end. -/
theorem Evaluator.not_fallsOnlyAtEnd :
    ¬(evaluator .bare 9).FallsOnlyAtEnd subject beforeEnd .bare := by
  intro honly
  have hrun : ((evaluator .bare 9).switch subject beforeEnd .bare).any
      fun run => Flow.isReturned (·.equals (.str "second")) run.1 := by decide +kernel
  obtain ⟨⟨x, m'⟩, hrun, hx⟩ := (Option.any_eq_true _ _).1 hrun
  obtain ⟨v, rfl, -⟩ := Flow.exists_of_isReturned hx
  have hnested : ∀ m, ∃ m', (evaluator .bare 9).block [nested, fall] m =
      some (.ok (.jump .fallthrough), m') := fun m => ⟨_, rfl⟩
  cases (honly _ _).1 hrun with
  | clause hreaches hends =>
    obtain ⟨v', m₁, chosen, m₂, hsubject, hselect, hfalls⟩ := hreaches
    have heval : (evaluator .bare 9).eval subject .bare =
        some (.ok (.bool true), .bare) := rfl
    obtain ⟨hv', rfl⟩ := Prod.mk.inj (Option.some.inj (heval.symm.trans hsubject))
    obtain rfl := Except.ok.inj hv'
    have hchosen : (evaluator .bare 9).select (.bool true) none beforeEnd .bare =
        some (.ok beforeEnd, .bare) := rfl
    obtain ⟨hchosen, rfl⟩ := Prod.mk.inj (Option.some.inj
      (hchosen.symm.trans (Evaluator.select_eq_some_iff.2 hselect)))
    obtain rfl := Except.ok.inj hchosen
    cases hfalls with
    | refl =>
      -- The first clause itself does not return.
      obtain ⟨m₃, hfirst⟩ := hnested .bare
      cases hends with
      | returned hb => exact absurd (hfirst.symm.trans hb) (by simp)
    | step hhands _ =>
      -- It does not hand control on either: its first statement does not end normally.
      obtain ⟨s, m₃, m₄, ⟨front, hbody, hfront⟩, -⟩ := hhands
      rcases front with _ | ⟨s', _ | ⟨s'', front⟩⟩
      · exact absurd (congrArg List.length hbody) (by simp)
      · obtain ⟨rfl, -⟩ := List.cons.inj hbody
        exact absurd (Option.some.inj hfront) (by simp [Prod.ext_iff])
      · exact absurd (congrArg List.length hbody) (by simp)

end Retrace
