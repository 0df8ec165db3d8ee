import Retrace.Eval.Statement
import Retrace.Proofs.Run

/-!
# Choosing a clause

The cases of a switch and the seizes of a skip are chosen from in the same way.
Their triggers are evaluated in the order of the text, each in the machine that
the one before it has left, until one has a value that is asked for; its clause is
*taken*. A clause without a trigger is *bare*. Where it stands among the others
does not matter: it comes to its turn only when all triggers have been *passed*
over, and then only the first one does.

`choose` is the search that both have in common. How it ends is said by `Chooses`
without following it step by step.
-/

namespace Retrace

/-- The clauses from the first bare one on. -/
def fromBare (cs : List (Clause (Option Expr) Stmt)) : List (Clause (Option Expr) Stmt) :=
  cs.dropWhile (·.trigger.isSome)

/-- The body of the first bare clause. -/
def bare? (cs : List (Clause (Option Expr) Stmt)) : Option Block :=
  (fromBare cs).head?.map (·.body)

section

variable {cs : List (Clause (Option Expr) Stmt)} {b : Block} {e : Expr}

@[simp]
theorem fromBare_nil : fromBare [] = [] := rfl

@[simp]
theorem fromBare_bare : fromBare (⟨none, b⟩ :: cs) = ⟨none, b⟩ :: cs := by
  simp [fromBare]

@[simp]
theorem fromBare_trigger : fromBare (⟨some e, b⟩ :: cs) = fromBare cs := by
  simp [fromBare]

theorem bare?_bare : bare? (⟨none, b⟩ :: cs) = some b := by
  simp [bare?]

theorem bare?_trigger : bare? (⟨some e, b⟩ :: cs) = bare? cs := by
  simp [bare?]

end

namespace Evaluator

variable {α : Type} (r : Evaluator) (p : Value → Bool)

/-! ### The search -/

/-- Takes the first clause whose trigger has a value that is asked for, if there is one. -/
def choose (take : Clause (Option Expr) Stmt → List (Clause (Option Expr) Stmt) → Run α)
    (otherwise : Run α) : List (Clause (Option Expr) Stmt) → Run α
  | [] => otherwise
  | ⟨none, _⟩ :: cs => choose take otherwise cs
  | ⟨some e, b⟩ :: cs => do
    let v ← r.eval e
    if p v then take ⟨some e, b⟩ cs else choose take otherwise cs

/-- What is done after a choice may as well be done with what has been chosen. -/
theorem choose_bind {β : Type}
    (take : Clause (Option Expr) Stmt → List (Clause (Option Expr) Stmt) → Run α)
    (otherwise : Run α) (f : α → Run β) (cs : List (Clause (Option Expr) Stmt)) :
    r.choose p take otherwise cs >>= f =
      r.choose p (fun c cs => take c cs >>= f) (otherwise >>= f) cs := by
  induction cs with
  | nil => rfl
  | cons c cs ih =>
    obtain ⟨_ | e, b⟩ := c
    · rw [choose, choose, ih]
    · rw [choose, choose, bind_assoc]
      congr 1
      funext v
      by_cases hv : p v
      · simp only [hv, if_true]
      · simp only [hv, Bool.false_eq_true, if_false, ih]

/-- A switch goes on from the first case with the value of the subject, or else from the
    clauses kept. -/
theorem select_eq_choose (subject : Value) (kept : Option (List Case)) (cases : List Case) :
    r.select subject kept cases =
      r.choose subject.equals (fun c cs => pure (c :: cs)) (pure (kept.getD (fromBare cases)))
        cases := by
  induction cases generalizing kept with
  | nil => rw [select, choose, fromBare_nil]
  | cons c cases ih =>
    obtain ⟨_ | e, b⟩ := c
    · rw [select, choose, fromBare_bare, ih]
      cases kept <;> rfl
    · rw [select, choose, fromBare_trigger]
      simp only [ih]

/-- A reversal is taken by the first seize whose pattern has the value of the payload, or else
    by the body kept. -/
theorem dispatch_eq_choose (payload : Value) (kept : Option Block) (seizes : List Seize) :
    r.dispatch payload kept seizes =
      r.choose (·.equals payload) (fun c _ => r.seize c.body)
        (match kept.or (bare? seizes) with
          | some b => r.seize b
          | none => Run.stop (.reversal payload)) seizes := by
  induction seizes generalizing kept with
  | nil => cases kept <;> rfl
  | cons c seizes ih =>
    obtain ⟨_ | e, b⟩ := c
    · rw [dispatch, choose, bare?_bare, ih]
      cases kept <;> rfl
    · rw [dispatch, choose, bare?_trigger]
      simp only [ih]

/-! ### How it ends -/

/-- The triggers of the clauses are evaluated in their order, and none has a value that is
    asked for. -/
inductive Passes : List (Clause (Option Expr) Stmt) → Machine → Machine → Prop
  | nil (m : Machine) : Passes [] m m
  | bare {b : Block} {cs : List (Clause (Option Expr) Stmt)} {m m' : Machine} :
      Passes cs m m' → Passes (⟨none, b⟩ :: cs) m m'
  | trigger {e : Expr} {b : Block} {v : Value} {cs : List (Clause (Option Expr) Stmt)}
      {m m₁ m' : Machine} : r.eval e m = some (.ok v, m₁) → p v = false → Passes cs m₁ m' →
      Passes (⟨some e, b⟩ :: cs) m m'

/-- How a choice among the clauses `cs` may end that begins in the machine `m`. -/
inductive Chooses (take : Clause (Option Expr) Stmt → List (Clause (Option Expr) Stmt) → Run α)
    (otherwise : Run α) (cs : List (Clause (Option Expr) Stmt)) (m : Machine) :
    Except Stop α → Machine → Prop
  /-- A trigger has a value that is asked for, and none before it has. -/
  | taken {before after : List (Clause (Option Expr) Stmt)} {e : Expr} {b : Block} {v : Value}
      {m₁ m₂ m' : Machine} {x : Except Stop α} : cs = before ++ ⟨some e, b⟩ :: after →
      r.Passes p before m m₁ → r.eval e m₁ = some (.ok v, m₂) → p v = true →
      take ⟨some e, b⟩ after m₂ = some (x, m') → Chooses take otherwise cs m x m'
  /-- A trigger has no value, and none before it has one that is asked for. -/
  | stopped {before after : List (Clause (Option Expr) Stmt)} {e : Expr} {b : Block}
      {reason : Stop} {m₁ m' : Machine} : cs = before ++ ⟨some e, b⟩ :: after →
      r.Passes p before m m₁ → r.eval e m₁ = some (.error reason, m') →
      Chooses take otherwise cs m (.error reason) m'
  /-- No trigger has a value that is asked for. -/
  | passed {m₁ m' : Machine} {x : Except Stop α} : r.Passes p cs m m₁ →
      otherwise m₁ = some (x, m') → Chooses take otherwise cs m x m'

variable {r p} {take : Clause (Option Expr) Stmt → List (Clause (Option Expr) Stmt) → Run α}
  {otherwise : Run α} {cs : List (Clause (Option Expr) Stmt)} {m m₁ m' : Machine}
  {x : Except Stop α} {b : Block} {e : Expr} {v : Value}

theorem Chooses.bare (h : r.Chooses p take otherwise cs m x m') :
    r.Chooses p take otherwise (⟨none, b⟩ :: cs) m x m' := by
  cases h with
  | taken hcs hpass heval hp htake =>
    exact .taken (congrArg (_ :: ·) hcs) (.bare hpass) heval hp htake
  | stopped hcs hpass heval => exact .stopped (congrArg (_ :: ·) hcs) (.bare hpass) heval
  | passed hpass hotherwise => exact .passed (.bare hpass) hotherwise

theorem Chooses.trigger (heval : r.eval e m = some (.ok v, m₁)) (hv : p v = false)
    (h : r.Chooses p take otherwise cs m₁ x m') :
    r.Chooses p take otherwise (⟨some e, b⟩ :: cs) m x m' := by
  cases h with
  | taken hcs hpass heval' hp htake =>
    exact .taken (congrArg (_ :: ·) hcs) (.trigger heval hv hpass) heval' hp htake
  | stopped hcs hpass heval' =>
    exact .stopped (congrArg (_ :: ·) hcs) (.trigger heval hv hpass) heval'
  | passed hpass hotherwise => exact .passed (.trigger heval hv hpass) hotherwise

/-- It matters only what is done in the machines that the choice comes to. -/
theorem Chooses.congr {take' : Clause (Option Expr) Stmt → List (Clause (Option Expr) Stmt) → Run α}
    {otherwise' : Run α} (h : r.Chooses p take otherwise cs m x m')
    (htake : ∀ {before e v m₁ m₂}, r.Passes p before m m₁ → r.eval e m₁ = some (.ok v, m₂) →
      ∀ c after, take c after m₂ = take' c after m₂)
    (hotherwise : ∀ {m₁}, r.Passes p cs m m₁ → otherwise m₁ = otherwise' m₁) :
    r.Chooses p take' otherwise' cs m x m' := by
  cases h with
  | taken hcs hpass heval hp h => exact .taken hcs hpass heval hp (htake hpass heval _ _ ▸ h)
  | stopped hcs hpass heval => exact .stopped hcs hpass heval
  | passed hpass h => exact .passed hpass (hotherwise hpass ▸ h)

theorem chooses_of_choose (h : r.choose p take otherwise cs m = some (x, m')) :
    r.Chooses p take otherwise cs m x m' := by
  -- The machine is generalized, as each trigger is evaluated in the one left by those before it.
  induction cs generalizing m with
  | nil => exact .passed (.nil m) h
  | cons c cs ih =>
    obtain ⟨_ | e, b⟩ := c
    · rw [choose] at h
      exact (ih h).bare
    · rw [choose] at h
      have hfirst : (⟨some e, b⟩ :: cs : List (Clause (Option Expr) Stmt)) =
        [] ++ ⟨some e, b⟩ :: cs := rfl
      rcases Run.bind_eq_some h with ⟨v, m₁, heval, h⟩ | ⟨reason, heval, rfl⟩
      · split at h
        · exact .taken hfirst (.nil m) heval ‹_› h
        · exact (ih h).trigger heval (Bool.eq_false_iff.2 ‹_›)
      · exact .stopped hfirst (.nil m) heval

/-- What has been passed over does not come into it any more. -/
theorem Passes.choose_append (h : r.Passes p cs m m₁) (rest : List (Clause (Option Expr) Stmt)) :
    r.choose p take otherwise (cs ++ rest) m = r.choose p take otherwise rest m₁ := by
  induction h with
  | nil m => rfl
  | bare _ ih => rw [List.cons_append, choose, ih]
  | trigger heval hv _ ih =>
    rw [List.cons_append, choose, Run.bind_apply, heval]
    simp only [hv, Bool.false_eq_true, if_false, ih]

/-- A choice ends in these ways, and in no other. -/
theorem choose_eq_some_iff :
    r.choose p take otherwise cs m = some (x, m') ↔ r.Chooses p take otherwise cs m x m' := by
  refine ⟨chooses_of_choose, fun h => ?_⟩
  cases h with
  | taken hcs hpass heval hp htake =>
    rw [hcs, hpass.choose_append, choose, Run.bind_apply, heval]
    simpa only [if_pos hp] using htake
  | stopped hcs hpass heval =>
    rw [hcs, hpass.choose_append, choose, Run.bind_apply, heval]
  | passed hpass hotherwise =>
    rw [← List.append_nil cs, hpass.choose_append, choose, hotherwise]

end Evaluator

end Retrace
