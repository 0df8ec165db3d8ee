import Retrace.Proofs.Choosing
import Retrace.Proofs.Reached

/-!
# Seizing

When the body of a skip reverses, what it rebound is taken back and the skip is
resolved. Only then are its seizes tried on the payload: their patterns are
evaluated in the scope around the skip, and the body of the one that takes the
reversal runs in a new scope inside that one, with no reversal under way any more.
If no seize takes it, then it goes on with the payload it had
(`Reached.skip_dispatches`).

A bare seize comes to its turn after all the patterns, wherever it stands, and a
second one never does. So it makes no difference to put the first one to the end of
the list and to leave out the others (`skip_bareLast`).
-/

namespace Retrace

/-- The clauses with a trigger in their order, and after them the first bare one. -/
def bareLast (cs : List (Clause (Option Expr) Stmt)) : List (Clause (Option Expr) Stmt) :=
  cs.filter (·.trigger.isSome) ++ (fromBare cs).head?.toList

/-- No clause from the first bare one on comes before it. -/
theorem trigger_of_head?_fromBare {cs : List (Clause (Option Expr) Stmt)}
    {c : Clause (Option Expr) Stmt} (h : (fromBare cs).head? = some c) : c.trigger = none := by
  have hc := List.head?_dropWhile_not (·.trigger.isSome) cs
  rw [← fromBare, h] at hc
  simpa using hc

theorem bare?_bareLast (cs : List (Clause (Option Expr) Stmt)) :
    bare? (bareLast cs) = bare? cs := by
  have htriggers : ∀ c ∈ cs.filter (·.trigger.isSome), c.trigger.isSome :=
    fun c hc => (List.mem_filter.1 hc).2
  have hbareLast : fromBare (bareLast cs) = fromBare (fromBare cs).head?.toList :=
    List.dropWhile_append_of_pos htriggers
  rw [bare?, bare?, hbareLast]
  cases hc : (fromBare cs).head? with
  | none => rfl
  | some c =>
    obtain ⟨trigger, b⟩ := c
    obtain rfl : trigger = none := trigger_of_head?_fromBare hc
    simp

namespace Evaluator

variable (r : Evaluator)

/-! ### Where a bare seize stands -/

section

variable {α : Type} (p : Value → Bool) (take : Clause (Option Expr) Stmt → Run α)
  (otherwise : Run α)

/-- Bare clauses are passed over without more ado. -/
theorem choose_of_bare {cs : List (Clause (Option Expr) Stmt)} (h : ∀ c ∈ cs, c.trigger = none) :
    r.choose p (fun c _ => take c) otherwise cs = otherwise := by
  induction cs with
  | nil => rfl
  | cons c cs ih =>
    obtain ⟨hc, hcs⟩ := List.forall_mem_cons.1 h
    obtain ⟨trigger, b⟩ := c
    obtain rfl : trigger = none := hc
    rw [choose, ih hcs]

/-- If what is done with a clause does not depend on those after it, then bare clauses may as
    well stand at the end. -/
theorem choose_filter_append (cs : List (Clause (Option Expr) Stmt))
    {bares : List (Clause (Option Expr) Stmt)} (h : ∀ c ∈ bares, c.trigger = none) :
    r.choose p (fun c _ => take c) otherwise (cs.filter (·.trigger.isSome) ++ bares) =
      r.choose p (fun c _ => take c) otherwise cs := by
  induction cs with
  | nil => exact r.choose_of_bare p take otherwise h
  | cons c cs ih =>
    obtain ⟨_ | e, b⟩ := c
    · rw [List.filter_cons_of_neg (by simp), choose, ih]
    · rw [List.filter_cons_of_pos (by simp), List.cons_append, choose, choose]
      simp only [ih]

end

theorem dispatch_bareLast (payload : Value) (seizes : List Seize) :
    r.dispatch payload none (bareLast seizes) = r.dispatch payload none seizes := by
  have hbares : ∀ c ∈ (fromBare seizes).head?.toList, c.trigger = none :=
    fun c hc => trigger_of_head?_fromBare (Option.mem_toList.1 hc)
  rw [dispatch_eq_choose, dispatch_eq_choose, bare?_bareLast, bareLast]
  exact r.choose_filter_append _ (fun c => r.seize c.body) _ seizes hbares

theorem skip_bareLast (body : Block) (seizes : List Seize) :
    r.skip body (bareLast seizes) = r.skip body seizes := by
  simp only [skip, dispatch_bareLast]

/-! ### What becomes of a reversal -/

/-- Takes a reversal by running the body of a seize in a new scope inside the given one. -/
def seizeIn (enclosing : ScopeId) (b : Block) : Run Flow :=
  fun m => Run.inNewScope enclosing (r.execAll b) { m with reversing := false }

/-- How it may end that the seizes are tried on the payload, from the machine `m` on. -/
def Seizes (enclosing : ScopeId) (payload : Value) (seizes : List Seize) (m : Machine) :
    Except Stop Flow → Machine → Prop :=
  r.Chooses (·.equals payload) (fun c _ => r.seizeIn enclosing c.body)
    (match bare? seizes with
      | some b => r.seizeIn enclosing b
      | none => Run.stop (.reversal payload)) seizes m

theorem seizeIn_current (b : Block) (m : Machine) : r.seizeIn m.current b m = r.seize b m := rfl

end Evaluator

/-- What is evaluated in a state of a run leads to such a state, in the same scope. -/
theorem Evaluator.Passes.reached {host : Host} {P : Value → Prop} {fuel : Nat}
    {p : Value → Bool} {cs : List (Clause (Option Expr) Stmt)} {m m' : Machine}
    (h : (evaluator host fuel).Passes p cs m m') (hm : Reached host P m) :
    Reached host P m' ∧ m'.current = m.current := by
  induction h with
  | nil m => exact ⟨hm, rfl⟩
  | bare _ ih => exact ih hm
  | trigger heval _ _ ih =>
    obtain ⟨hm', hcurrent⟩ := ih (hm.evaluated heval)
    exact ⟨hm', hcurrent.trans ((hm.framed fuel).1 _ _ _ heval).current⟩

namespace Reached

variable {host : Host} {P : Value → Prop} {fuel : Nat} {m m₂ m₃ : Machine} {marker : Marker}
  {l : Ledger} {body : Block} {payload : Value}

/-- When a skip is resolved after its rollback the breadcrumbs are those from before it. -/
theorem resolved_of_rollBack (hm : Reached host P m)
    (hl : m.ledger.openSkip m.scopes.nextSerial = .ok (marker, l))
    (hbody : (evaluator host fuel).block body { m with ledger := l } =
      some (.error (.reversal payload), m₂))
    (hroll : (evaluator host fuel).rollBack marker m.current m₂ = some (.ok (), m₃)) :
    Framed m (m₃.closeSkip marker) ∧ (m₃.closeSkip marker).ledger.crumbs = m.ledger.crumbs := by
  have hsane := hm.sane_any
  have hopen := (Ledger.openSkip_eq_ok hl).2.1
  obtain ⟨hpre, hb⟩ := hm.bracketed_body hl hbody
  have hr := (bracketing.lawful host.keeps_any).evaluator fuel
  obtain ⟨hb, hcrumbs⟩ := bracketing.restoreAbove hr hpre ⟨_, hopen⟩ hb hroll
  refine ⟨.of_bracketed hsane (bracketing.closeSkip hl hsane.pre hb), ?_⟩
  have hmarker : m₃.ledger.crumbs = [] ++ .marker marker :: m.ledger.crumbs :=
    (hcrumbs rfl).trans hopen
  refine (hb.ledger.crumbs_close hl id hmarker).trans ?_
  split
  · exact (hsane.pre.1 ‹_›).symm
  · rfl

/-- The seizes are tried in the scope they stand in. -/
theorem dispatch_eq_some_iff (hm : Reached host P m) (seizes : List Seize)
    {x : Except Stop Flow} {m' : Machine} :
    (evaluator host fuel).dispatch payload none seizes m = some (x, m') ↔
      (evaluator host fuel).Seizes m.current payload seizes m x m' := by
  have hseize : ∀ {m₁ : Machine}, m₁.current = m.current → ∀ b,
      (evaluator host fuel).seize b m₁ = (evaluator host fuel).seizeIn m.current b m₁ := by
    intro m₁ hcurrent b
    rw [← hcurrent, Evaluator.seizeIn_current]
  -- Wherever the patterns lead to, the current scope is the one it was.
  have htake : ∀ {before e v m₁ m₂}, (evaluator host fuel).Passes (·.equals payload) before m m₁ →
      (evaluator host fuel).eval e m₁ = some (.ok v, m₂) → m₂.current = m.current := by
    intro before e v m₁ m₂ hpass heval
    obtain ⟨hm₁, hcurrent⟩ := hpass.reached hm
    exact ((hm₁.framed fuel).1 _ _ _ heval).current.trans hcurrent
  have hotherwise : ∀ {m₁}, (evaluator host fuel).Passes (·.equals payload) seizes m m₁ →
      (match bare? seizes with
        | some b => (evaluator host fuel).seize b
        | none => Run.stop (.reversal payload)) m₁ =
      (match bare? seizes with
        | some b => (evaluator host fuel).seizeIn m.current b
        | none => Run.stop (.reversal payload)) m₁ := by
    intro m₁ hpass
    cases bare? seizes with
    | none => rfl
    | some b => exact hseize (hpass.reached hm).2 b
  rw [Evaluator.dispatch_eq_choose, Evaluator.choose_eq_some_iff, Option.none_or]
  constructor
  · intro h
    exact h.congr (fun hpass heval c _ => hseize (htake hpass heval) c.body) hotherwise
  · intro h
    exact h.congr (fun hpass heval c _ => (hseize (htake hpass heval) c.body).symm)
      fun hpass => (hotherwise hpass).symm

/-- A skip whose body reverses and is taken back is resolved before its seizes are tried on the
    payload, in the scope around it. It ends in the way they do, and no other; where the first
    bare one stands and whether others come after it makes no difference. -/
theorem skip_dispatches (hm : Reached host P m)
    (hl : m.ledger.openSkip m.scopes.nextSerial = .ok (marker, l))
    (hbody : (evaluator host fuel).block body { m with ledger := l } =
      some (.error (.reversal payload), m₂))
    (hroll : (evaluator host fuel).rollBack marker m.current m₂ = some (.ok (), m₃))
    (seizes : List Seize) :
    (Framed m (m₃.closeSkip marker) ∧
      (m₃.closeSkip marker).ledger.crumbs = m.ledger.crumbs) ∧
      (∀ x m', (evaluator host fuel).skip body seizes m = some (x, m') ↔
        (evaluator host fuel).Seizes m.current payload seizes (m₃.closeSkip marker) x m') ∧
      (evaluator host fuel).skip body (bareLast seizes) m =
        (evaluator host fuel).skip body seizes m := by
  have hresolved := hm.resolved_of_rollBack hl hbody hroll
  refine ⟨hresolved, fun x m' => ?_, by rw [Evaluator.skip_bareLast]⟩
  have hm' : Reached host P (m₃.closeSkip marker) := .reversed hm hl hbody hroll
  rw [Evaluator.skip_of_openSkip _ body seizes hl, hbody]
  simp only [hroll]
  -- The rollback has led back to the scope in which the skip was entered.
  rw [hm'.dispatch_eq_some_iff, hresolved.1.current]

end Reached

/-- A skip that is reversed when it is entered in `m`, and is rolled back. -/
theorem Evaluator.exists_of_reversed? {r : Evaluator} {body : Block} {m : Machine}
    (h : (r.reversed? body m).any fun p => (r.rollBack p.1 m.current p.2).any (·.1.isOk)) :
    ∃ marker l payload m₂ m₃, m.ledger.openSkip m.scopes.nextSerial = .ok (marker, l) ∧
      r.block body { m with ledger := l } = some (.error (.reversal payload), m₂) ∧
      r.rollBack marker m.current m₂ = some (.ok (), m₃) := by
  obtain ⟨⟨marker, m₂⟩, hreversed, h⟩ := (Option.any_eq_true _ _).1 h
  obtain ⟨⟨x, m₃⟩, hroll, hx⟩ := (Option.any_eq_true _ _).1 h
  obtain ⟨m₁, payload, hopen, hbody⟩ := reversed?_eq_some hreversed
  obtain ⟨_, l, hl, hok, rfl⟩ | ⟨e, hok, -⟩ := Run.openSkip_eq_some hopen
  · obtain rfl := Except.ok.inj hok
    cases x with
    | error e => exact absurd hx (by simp [Except.isOk, Except.toBool])
    | ok _ => exact ⟨marker, l, payload, m₂, m₃, hl, hbody, hroll⟩
  · exact absurd hok (by simp)

/-- A body that reverses. -/
def Seizing.body : Block :=
  [⟨.reverse (.literal .int "1"), .unknown⟩]

/-- A seize that waits for the given pattern, and returns what it waited for. -/
def Seizing.returning (pattern : Option Expr) (lexeme : String) : Seize :=
  ⟨pattern, [⟨.ret (some (.literal .str lexeme)), .unknown⟩]⟩

/-- Seizes with a bare one in front and another one behind. -/
def Seizing.seizes : List Seize :=
  [returning none "any", returning (some (.literal .int "2")) "two",
    returning (some (.literal .int "1")) "one", returning none "any other"]

/-- The third of four seizes takes the reversal, though the first one is bare. -/
theorem Reached.skip_dispatches_late :
    ∃ payload m v m', (evaluator .bare 9).Seizes Machine.bare.current payload
        Seizing.seizes m (.ok (.returned v)) m' ∧
      v.equals (.str "one") := by
  have hreversed : ((evaluator .bare 9).reversed? Seizing.body .bare).any fun p =>
      ((evaluator .bare 9).rollBack p.1 Machine.bare.current p.2).any
        (·.1.isOk) := by decide +kernel
  have hrun : ((evaluator .bare 9).skip Seizing.body Seizing.seizes .bare).any
      fun run => Flow.isReturned (·.equals (.str "one")) run.1 := by decide +kernel
  obtain ⟨marker, l, payload, m₂, m₃, hl, hbody, hroll⟩ := Evaluator.exists_of_reversed? hreversed
  obtain ⟨⟨x, m'⟩, hskip, hx⟩ := (Option.any_eq_true _ _).1 hrun
  obtain ⟨v, rfl, hv⟩ := Flow.exists_of_isReturned hx
  have hm : Reached .bare (fun _ => True) .bare := .rest (.start .default .bare)
  obtain ⟨-, hends, -⟩ := hm.skip_dispatches hl hbody hroll Seizing.seizes
  exact ⟨payload, _, v, m', (hends _ _).1 hskip, hv⟩

end Retrace
