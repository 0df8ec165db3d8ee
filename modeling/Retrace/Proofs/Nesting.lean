import Retrace.Proofs.Switching

/-!
# What becomes of a jump

When a statement ends otherwise than normally, the one that it stands in directly has
to heed that (`Evaluator.Heeds`). It ends in the same way, unless it is a loop or a
switch and the statement is a jump: a `break` ends it, a `fallthrough` at the end of
a clause goes on with the next one, and any other `fallthrough` is misplaced.

Statements stand inside others in several places (`Standing`). In which of them a
statement is begun, and in which machine, is said by `Evaluator.Nests`. There are two
exceptions to the rule (`Evaluator.jumps_heeded`): how the increment of a loop ends is
dropped (`Evaluator.Drops`), and a clause that falls through early goes on with the
next one if there is a `fallthrough` at its end (`Evaluator.FallsOn`).

Conversely no jump comes from nowhere: what ends otherwise than normally is a jump or a
`return` itself, or something inside it has ended so (`Evaluator.jump_or_endsInside`).

So a value that is returned by a statement, however deep it stands inside the body of a
function, is the value of the call, if it does not stand in an increment; and what is
returned comes from such a statement (`Evaluator.exists_comes_ret`).
-/

namespace Retrace

/-- Where a statement stands inside another one. -/
inductive Standing where
  | block
  /-- In the arm of a branch. -/
  | arm
  /-- In the body of a loop. -/
  | body
  /-- In the increment of a loop, which is run at the end of as many rounds. -/
  | increment (rounds : Nat)
  /-- In a clause of a switch that is entered in the given machine, with the statements `rest`
      of it still to come, and the clauses `next` after it. -/
  | clause (entered : Machine) (rest : List Stmt) (next : List Case)
  /-- In the body of a skip. -/
  | skip
  | seize

/-- Whether it is a loop or a switch that has the place. -/
def Standing.TakesJumps : Standing → Prop
  | .body => True
  | .increment _ => True
  | .clause _ _ _ => True
  | _ => False

/-- Whether a statement stands in the last place of a clause. -/
def Standing.AtEnd : Standing → Prop
  | .clause _ rest _ => rest = []
  | _ => False

namespace Evaluator

variable (r : Evaluator)

/-! ### Where statements are begun -/

/-- A branch runs the block `b` in `m'`. -/
inductive Picks (otherwise : Option Block) : List Arm → Machine → Block → Machine → Prop
  | arm {a : Arm} {arms : List Arm} {m m' : Machine} :
      r.condition a.trigger m = some (.ok true, m') → Picks otherwise (a :: arms) m a.body m'
  | next {a : Arm} {arms : List Arm} {b : Block} {m m₁ m' : Machine} :
      r.condition a.trigger m = some (.ok false, m₁) → Picks otherwise arms m₁ b m' →
      Picks otherwise (a :: arms) m b m'
  | otherwise {b : Block} {m : Machine} : otherwise = some b → Picks otherwise [] m b m

/-- Makes the declaration of a loop. -/
def prepare : Option VarDecl → Run Unit
  | some d => r.declareVariable d
  | none => pure ()

/-- A loop has been gone through a number of times. -/
inductive Rounds (condition : Expr) (increment : Option Stmt) (body : Block) :
    Nat → Machine → Machine → Prop
  | zero (m : Machine) : Rounds condition increment body 0 m m
  | succ {n : Nat} {m m₁ m₂ m₃ m' : Machine} : r.condition condition m = some (.ok true, m₁) →
      r.block body m₁ = some (.ok .normal, m₂) → r.increment increment m₂ = some (.ok (), m₃) →
      Rounds condition increment body n m₃ m' → Rounds condition increment body (n + 1) m m'

/-- The loop that is run in `m` enters its body in `m'`, after `n` rounds. -/
def LoopReaches (init : Option VarDecl) (condition : Expr) (increment : Option Stmt) (body : Block)
    (m : Machine) (n : Nat) (m' : Machine) : Prop :=
  ∃ m₁ m₂, r.prepare init (m.enter m.current) = some (.ok (), m₁) ∧
    r.Rounds condition increment body n m₁ m₂ ∧ n < r.rounds ∧
    r.condition condition m₂ = some (.ok true, m')

/-- Which body takes a reversal, if there is one. -/
def Seized (payload : Value) (seizes : List Seize) :
    Machine → Except Stop (Option Block) → Machine → Prop :=
  r.Chooses (·.equals payload) (fun c _ => pure (some c.body)) (pure (bare? seizes)) seizes

/-- When a statement does what the action says in the machine `m`, the statement `s` inside it is
    begun in `m'`. -/
inductive Nests (m : Machine) : Action → Standing → Stmt → Machine → Prop
  | block {b : Block} {s : Stmt} {rest : List Stmt} {m' : Machine} : r.Arrives b m s rest m' →
      Nests m (.block b) .block s m'
  | arm {arms : List Arm} {otherwise : Option Block} {b : Block} {s : Stmt} {rest : List Stmt}
      {m₁ m' : Machine} : r.Picks otherwise arms m b m₁ → r.Arrives b m₁ s rest m' →
      Nests m (.branch arms otherwise) .arm s m'
  | body {init : Option VarDecl} {condition : Expr} {increment : Option Stmt} {body : Block}
      {n : Nat} {s : Stmt} {rest : List Stmt} {m₁ m' : Machine} :
      r.LoopReaches init condition increment body m n m₁ → r.Arrives body m₁ s rest m' →
      Nests m (.loop init condition increment body) .body s m'
  | increment {init : Option VarDecl} {condition : Expr} {body : Block} {n : Nat} {s : Stmt}
      {m₁ m' : Machine} : r.LoopReaches init condition (some s) body m n m₁ →
      r.block body m₁ = some (.ok .normal, m') →
      Nests m (.loop init condition (some s) body) (.increment (n + 1)) s m'
  | clause {subject : Expr} {cases next : List Case} {c : Case} {s : Stmt} {rest : List Stmt}
      {m₁ m' : Machine} : r.SwitchReaches r.FallsThrough subject cases m (c :: next) m₁ →
      r.Arrives c.body m₁ s rest m' → Nests m (.switch subject cases) (.clause m₁ rest next) s m'
  | skip {body : Block} {seizes : List Seize} {marker : Marker} {l : Ledger} {s : Stmt}
      {rest : List Stmt} {m' : Machine} :
      m.ledger.openSkip m.scopes.nextSerial = .ok (marker, l) →
      r.Arrives body { m with ledger := l } s rest m' → Nests m (.skip body seizes) .skip s m'
  | seize {body b : Block} {seizes : List Seize} {marker : Marker} {l : Ledger} {payload : Value}
      {s : Stmt} {rest : List Stmt} {m₁ m₂ m₃ m' : Machine} :
      m.ledger.openSkip m.scopes.nextSerial = .ok (marker, l) →
      r.block body { m with ledger := l } = some (.error (.reversal payload), m₁) →
      r.rollBack marker m.current m₁ = some (.ok (), m₂) →
      r.Seized payload seizes (m₂.closeSkip marker) (.ok (some b)) m₃ →
      r.Arrives b { m₃ with reversing := false } s rest m' →
      Nests m (.skip body seizes) .seize s m'

/-! ### What it leads to -/

/-- The action `a` in `m` heeds that the statement `s` inside it has ended with the given flow
    in `m'`. -/
inductive Heeds (m : Machine) (a : Action) (s : Stmt) (m' : Machine) : Standing → Flow → Prop
  /-- It ends in the same way. -/
  | passed {place : Standing} {flow : Flow} {m₁ : Machine} :
      (place.TakesJumps → ∃ v, flow = .returned v) → r.action a m = some (.ok flow, m₁) →
      Heeds m a s m' place flow
  /-- A `break` ends a loop or a switch. -/
  | left {place : Standing} {m₁ : Machine} : place.TakesJumps →
      r.action a m = some (.ok .normal, m₁) → Heeds m a s m' place (.jump .leave)
  /-- A `fallthrough` at the end of a clause leads to the next clause. -/
  | entered {m₁ : Machine} {next : List Case} : s.action = .jump .fallthrough →
      r.action a m = r.fallInto next (m'.leave m₁) →
      Heeds m a s m' (.clause m₁ [] next) (.jump .fallthrough)
  /-- Any other `fallthrough` in a loop or a switch is misplaced. -/
  | misplaced {place : Standing} {m₁ : Machine} : place.TakesJumps →
      (place.AtEnd → s.action ≠ .jump .fallthrough) →
      r.action a m = some (.error (.failure (.misplacedJump .fallthrough)), m₁) →
      Heeds m a s m' place (.jump .fallthrough)

/-- The loop goes on after its increment, however that has ended. -/
def Drops (m : Machine) (a : Action) (m' : Machine) (place : Standing) : Prop :=
  ∃ n init condition increment body, place = .increment n ∧
    a = .loop init condition increment body ∧
    r.action a m = (r.iterate condition increment body (r.rounds - n) m').map fun p =>
      (p.1, p.2.leave m)

/-- The switch goes on with the next clause, though the statement that falls through does not
    stand at the end of its clause. -/
def FallsOn (m : Machine) (a : Action) (m' : Machine) (place : Standing) (flow : Flow) : Prop :=
  ∃ m₁ rest next, place = .clause m₁ rest next ∧ endsWithFallthrough rest ∧
    flow = .jump .fallthrough ∧ r.action a m = r.fallInto next (m'.leave m₁)

/-- Whatever is begun in the machine `m`, no jump that arises directly inside it is lost. -/
def LosesNoJump (m : Machine) : Prop :=
  ∀ a place s m₁ flow m', r.Nests m a place s m₁ → r.exec s m₁ = some (.ok flow, m') →
    flow ≠ .normal → r.Heeds m a s m' place flow

variable {r} {m m₁ m₂ m' : Machine} {b : Block} {flow : Flow}

/-! ### One statement inside another -/

theorem Arrives.block {s : Stmt} {rest : List Stmt} (h : r.Arrives b m s rest m₁)
    (hs : r.exec s m₁ = some (.ok flow, m₂)) (hflow : flow ≠ .normal) :
    r.block b m = some (.ok flow, m₂.leave m) :=
  (block_eq_some_iff (by simpa using hflow)).2 ⟨s, rest, m₁, m₂, h, hs, rfl⟩

theorem Picks.branch {otherwise : Option Block} {arms : List Arm}
    (h : r.Picks otherwise arms m b m') : r.branch otherwise arms m = r.block b m' := by
  induction h with
  | arm hcondition => rw [Evaluator.branch, Run.bind_apply, hcondition]
  | next hcondition _ ih =>
    rw [Evaluator.branch, Run.bind_apply, hcondition]
    exact ih
  | otherwise h =>
    subst h
    rfl

section Loops

variable {init : Option VarDecl} {condition : Expr} {increment : Option Stmt} {body : Block}
  {n k : Nat}

theorem loop_apply : r.loop init condition increment body m =
    ((r.prepare init >>= fun _ => r.iterate condition increment body r.rounds)
      (m.enter m.current)).map fun p => (p.1, p.2.leave m) := by
  refine Eq.trans ?_ (Run.inNewScope_apply m.current _ m)
  cases init <;> rfl

/-- A loop that has been gone through some times goes on from there. -/
theorem Rounds.iterate (h : r.Rounds condition increment body n m m') (k : Nat) :
    r.iterate condition increment body (n + k) m = r.iterate condition increment body k m' := by
  induction h with
  | zero => rw [Nat.zero_add]
  | succ hcondition hbody hincrement _ ih =>
    rw [Nat.add_right_comm, Evaluator.iterate, Run.bind_apply, hcondition]
    dsimp only
    rw [Run.bind_apply, hbody]
    dsimp only
    rw [Run.bind_apply, hincrement]
    exact ih

/-- What a loop does after its body has ended with the given flow, if it may be gone through as
    many times as `k` after that. -/
def afterBody (condition : Expr) (increment : Option Stmt) (body : Block) (k : Nat) :
    Flow → Run Flow
  | .normal => r.increment increment >>= fun _ => r.iterate condition increment body k
  | .jump .leave => pure .normal
  | .jump .fallthrough => .fail (.misplacedJump .fallthrough)
  | .returned v => pure (.returned v)

theorem LoopReaches.loop (h : r.LoopReaches init condition increment body m n m₁)
    (hbody : r.block body m₁ = some (.ok flow, m₂)) :
    r.loop init condition increment body m =
      (r.afterBody condition increment body (r.rounds - (n + 1)) flow m₂).map fun p =>
        (p.1, p.2.leave m) := by
  obtain ⟨m₃, m₄, hprepare, hrounds, hn, hcondition⟩ := h
  -- As the body has been entered, there is one round left at least.
  obtain ⟨k, hk⟩ := Nat.exists_eq_add_of_lt hn
  have hleft : r.rounds - (n + 1) = k := by omega
  have hall : r.rounds = n + (k + 1) := hk
  rw [loop_apply, Run.bind_apply, hprepare]
  dsimp only
  rw [hleft, hall, hrounds.iterate, iterate, Run.bind_apply, hcondition]
  dsimp only
  rw [Run.bind_apply, hbody]
  rcases flow with _ | (_ | _) | v <;> rfl

end Loops

section Switches

variable {subject : Expr} {cases rest : List Case}

theorem SwitchReaches.switch (h : r.SwitchReaches r.FallsThrough subject cases m rest m') :
    r.switch subject cases m = r.fallInto rest m' := by
  obtain ⟨v, m₁, chosen, m₂, hsubject, hselect, hfalls⟩ := h
  rw [Evaluator.switch, Run.bind_apply, hsubject]
  dsimp only
  rw [Run.bind_apply, select_eq_some_iff.2 hselect]
  dsimp only
  clear hselect
  induction hfalls with
  | refl => rfl
  | step hnext _ ih => rw [fallInto_of_fallsThrough hnext, ih]

/-- What a switch does after the body of a clause has ended with the given flow. -/
def afterClause (b : Block) (next : List Case) : Flow → Run Flow
  | .jump .fallthrough =>
    if endsWithFallthrough b then r.fallInto next else .fail (.misplacedJump .fallthrough)
  | .returned v => pure (.returned v)
  | _ => pure .normal

theorem fallInto_cons {c : Case} (next : List Case)
    (hbody : r.block c.body m = some (.ok flow, m')) :
    r.fallInto (c :: next) m = r.afterClause c.body next flow m' := by
  rw [fallInto, Run.bind_apply, hbody]
  rcases flow with _ | (_ | _) | v <;> rfl

omit r in
theorem endsWithFallthrough_append {front rest : List Stmt} (h : rest ≠ []) :
    endsWithFallthrough (front ++ rest) = endsWithFallthrough rest := by
  rw [endsWithFallthrough, endsWithFallthrough, List.getLast?_append_of_ne_nil _ h]

end Switches

/-- First it is found out which body takes a reversal, and then that body is run. -/
theorem dispatch_eq_bind (payload : Value) (seizes : List Seize) :
    r.dispatch payload none seizes =
      r.choose (·.equals payload) (fun c _ => pure (some c.body)) (pure (bare? seizes)) seizes >>=
        fun o => match o with
          | some b => r.seize b
          | none => .stop (.reversal payload) := by
  rw [dispatch_eq_choose, choose_bind, Option.none_or]
  rfl

theorem Seized.dispatch {payload : Value} {seizes : List Seize}
    (h : r.Seized payload seizes m (.ok (some b)) m') :
    r.dispatch payload none seizes m = r.block b { m' with reversing := false } := by
  rw [dispatch_eq_bind, Run.bind_apply, choose_eq_some_iff.2 h]
  rfl

section Heeded

variable {s : Stmt}

theorem LoopReaches.heeds {init : Option VarDecl} {condition : Expr} {increment : Option Stmt}
    {body : Block} {n : Nat} {rest : List Stmt}
    (h : r.LoopReaches init condition increment body m n m₁)
    (harrives : r.Arrives body m₁ s rest m₂) (hs : r.exec s m₂ = some (.ok flow, m'))
    (hflow : flow ≠ .normal) :
    r.Heeds m (.loop init condition increment body) s m' .body flow := by
  have hloop := h.loop (harrives.block hs hflow)
  rcases flow with _ | (_ | _) | v
  · exact absurd rfl hflow
  · exact .left trivial hloop
  · exact .misplaced trivial (fun hend => hend.elim) hloop
  · exact .passed (fun _ => ⟨v, rfl⟩) hloop

/-- How an increment ends makes no difference to the loop. -/
theorem LoopReaches.drops {init : Option VarDecl} {condition : Expr} {body : Block} {n : Nat}
    (h : r.LoopReaches init condition (some s) body m n m₁)
    (hbody : r.block body m₁ = some (.ok .normal, m₂)) (hs : r.exec s m₂ = some (.ok flow, m')) :
    r.Drops m (.loop init condition (some s) body) m' (.increment (n + 1)) := by
  refine ⟨n + 1, init, condition, some s, body, rfl, rfl, (h.loop hbody).trans ?_⟩
  have hincrement : r.increment (some s) m₂ = some (.ok (), m') := by
    rw [Evaluator.increment, Run.bind_apply, hs]
    rfl
  rw [afterBody, Run.bind_apply, hincrement]

theorem SwitchReaches.heeds {subject : Expr} {cases next : List Case} {c : Case}
    {rest : List Stmt} (h : r.SwitchReaches r.FallsThrough subject cases m (c :: next) m₁)
    (harrives : r.Arrives c.body m₁ s rest m₂) (hs : r.exec s m₂ = some (.ok flow, m'))
    (hflow : flow ≠ .normal) :
    r.Heeds m (.switch subject cases) s m' (.clause m₁ rest next) flow ∨
      r.FallsOn m (.switch subject cases) m' (.clause m₁ rest next) flow := by
  have hswitch : r.switch subject cases m = r.afterClause c.body next flow (m'.leave m₁) :=
    h.switch.trans (fallInto_cons next (harrives.block hs hflow))
  obtain ⟨front, hbody, -⟩ := harrives
  rcases flow with _ | (_ | _) | v
  · exact absurd rfl hflow
  · exact .inl (.left trivial hswitch)
  · rw [afterClause] at hswitch
    by_cases hends : endsWithFallthrough c.body
    · rw [if_pos hends] at hswitch
      rw [hbody] at hends
      -- It is the statement itself that stands at the end, or else something after it.
      rcases rest with _ | ⟨s', rest⟩
      · exact .inl (.entered (endsWithFallthrough_concat.1 hends) hswitch)
      · rw [← List.singleton_append, ← List.append_assoc,
          endsWithFallthrough_append (List.cons_ne_nil s' rest)] at hends
        exact .inr ⟨m₁, s' :: rest, next, rfl, hends, rfl, hswitch⟩
    · rw [if_neg hends] at hswitch
      refine .inl (.misplaced trivial ?_ hswitch)
      rintro rfl haction
      rw [hbody] at hends
      exact hends (endsWithFallthrough_concat.2 haction)
  · exact .inl (.passed (fun _ => ⟨v, rfl⟩) hswitch)

/-- A statement that stands directly inside another one and does not end normally is heeded, but
    for an increment, and for what falls through early in a clause with a `fallthrough` at its
    end. -/
theorem Nests.heeds {a : Action} {place : Standing} (h : r.Nests m a place s m₁)
    (hs : r.exec s m₁ = some (.ok flow, m')) (hflow : flow ≠ .normal) :
    r.Heeds m a s m' place flow ∨ r.Drops m a m' place ∨ r.FallsOn m a m' place flow := by
  -- All but loops and switches end in the way of the block that the statement stands in.
  cases h with
  | block harrives => exact .inl (.passed (fun h => h.elim) (harrives.block hs hflow))
  | arm hpicks harrives =>
    have hbranch := hpicks.branch.trans (harrives.block hs hflow)
    exact .inl (.passed (fun h => h.elim) hbranch)
  | body hreaches harrives => exact .inl (hreaches.heeds harrives hs hflow)
  | increment hreaches hbody => exact .inr (.inl (hreaches.drops hbody hs))
  | clause hreaches harrives =>
    rcases hreaches.heeds harrives hs hflow with h | h
    · exact .inl h
    · exact .inr (.inr h)
  | skip hl harrives =>
    rename_i body seizes _ _ _
    have hskip := r.skip_of_openSkip body seizes hl
    rw [harrives.block hs hflow] at hskip
    rcases flow with _ | j | v
    · exact absurd rfl hflow
    · exact .inl (.passed (fun h => h.elim) hskip)
    · exact .inl (.passed (fun h => h.elim) hskip)
  | seize hl hbody hroll hseized harrives =>
    rename_i body _ seizes _ _ _ _ _ _ _
    have hskip := r.skip_of_openSkip body seizes hl
    rw [hbody] at hskip
    simp only [hroll] at hskip
    rw [hseized.dispatch, harrives.block hs hflow] at hskip
    exact .inl (.passed (fun h => h.elim) hskip)

end Heeded

/-! ### Where jumps come from -/

theorem exists_picks {arms : List Arm} {otherwise : Option Block}
    (h : r.branch otherwise arms m = some (.ok flow, m')) (hflow : flow ≠ .normal) :
    ∃ b m₁, r.Picks otherwise arms m b m₁ ∧ r.block b m₁ = some (.ok flow, m') := by
  induction arms generalizing m with
  | nil =>
    cases otherwise with
    | none => exact absurd (Except.ok.inj (Run.pure_eq_some h).1) hflow
    | some b => exact ⟨b, m, .otherwise rfl, h⟩
  | cons a arms ih =>
    rw [branch] at h
    obtain ⟨holds, m₁, hcondition, h⟩ := Run.bind_eq_ok h
    cases holds with
    | true => exact ⟨a.body, m₁, .arm hcondition, h⟩
    | false =>
      obtain ⟨b, m₂, hpicks, hb⟩ := ih h
      exact ⟨b, m₂, .next hcondition hpicks, hb⟩

/-- Only the body of a loop makes it end otherwise than normally. -/
theorem exists_rounds {condition : Expr} {increment : Option Stmt} {body : Block} {k : Nat}
    (h : r.iterate condition increment body k m = some (.ok flow, m')) (hflow : flow ≠ .normal) :
    ∃ n m₁ m₂, n < k ∧ r.Rounds condition increment body n m m₁ ∧
      r.condition condition m₁ = some (.ok true, m₂) ∧ r.block body m₂ = some (.ok flow, m') := by
  induction k generalizing m with
  | zero => exact absurd h (by simp [iterate, Run.starved])
  | succ k ih =>
    rw [iterate] at h
    obtain ⟨holds, m₁, hcondition, h⟩ := Run.bind_eq_ok h
    cases holds with
    | false => exact absurd (Except.ok.inj (Run.pure_eq_some h).1) hflow
    | true =>
      obtain ⟨flow', m₂, hbody, h⟩ := Run.bind_eq_ok h
      -- After a round that ends normally the loop goes on with less fuel, and a `break` ends it.
      rcases flow' with _ | (_ | _) | v
      · obtain ⟨_, m₃, hincrement, h⟩ := Run.bind_eq_ok h
        obtain ⟨n, m₄, m₅, hn, hrounds, hcondition', hbody'⟩ := ih h
        exact ⟨n + 1, m₄, m₅, Nat.succ_lt_succ hn, .succ hcondition hbody hincrement hrounds,
          hcondition', hbody'⟩
      · exact absurd (Except.ok.inj (Run.pure_eq_some h).1) hflow
      · exact absurd (Run.fail_eq_some h).1 (by simp)
      · obtain ⟨hreturned, rfl⟩ := Run.pure_eq_some h
        obtain rfl := Except.ok.inj hreturned
        exact ⟨0, m, m₁, Nat.succ_pos k, .zero m, hcondition, hbody⟩

theorem exists_seized {payload : Value} {seizes : List Seize}
    (h : r.dispatch payload none seizes m = some (.ok flow, m')) :
    ∃ b m₁, r.Seized payload seizes m (.ok (some b)) m₁ ∧
      r.block b { m₁ with reversing := false } = some (.ok flow, m') := by
  rw [dispatch_eq_bind] at h
  obtain ⟨o, m₁, hchoose, h⟩ := Run.bind_eq_ok h
  cases o with
  | none => exact absurd (Run.stop_eq_some h).1 (by simp)
  | some b => exact ⟨b, m₁, choose_eq_some_iff.1 hchoose, h⟩

variable (r) in
/-- A statement directly inside the action has ended with the given flow, and it is no
    increment. -/
def EndsInside (m : Machine) (a : Action) (flow : Flow) : Prop :=
  ∃ place s m₁ m₂, r.Nests m a place s m₁ ∧ (∀ n, place ≠ .increment n) ∧
    r.exec s m₁ = some (.ok flow, m₂)

theorem exists_arrives (h : r.block b m = some (.ok flow, m')) (hflow : flow ≠ .normal) :
    ∃ s rest m₁ m₂, r.Arrives b m s rest m₁ ∧ r.exec s m₁ = some (.ok flow, m₂) := by
  obtain ⟨s, rest, m₁, m₂, harrives, hs, -⟩ := (block_eq_some_iff (by simpa using hflow)).1 h
  exact ⟨s, rest, m₁, m₂, harrives, hs⟩

theorem endsInside_loop {init : Option VarDecl} {condition : Expr} {increment : Option Stmt}
    {body : Block} (h : r.loop init condition increment body m = some (.ok flow, m'))
    (hflow : flow ≠ .normal) : r.EndsInside m (.loop init condition increment body) flow := by
  rw [loop_apply] at h
  obtain ⟨⟨_, m₁⟩, hrun, hend⟩ := Option.map_eq_some_iff.1 h
  obtain ⟨rfl, -⟩ := Prod.mk.inj hend
  obtain ⟨_, m₂, hprepare, hrun⟩ := Run.bind_eq_ok hrun
  obtain ⟨n, m₃, m₄, hn, hrounds, hcondition, hbody⟩ := exists_rounds hrun hflow
  obtain ⟨s, rest, m₅, m₆, harrives, hs⟩ := exists_arrives hbody hflow
  have hreaches : r.LoopReaches init condition increment body m n m₄ :=
    ⟨m₂, m₃, hprepare, hrounds, hn, hcondition⟩
  exact ⟨.body, s, m₅, m₆, .body hreaches harrives, by simp, hs⟩

theorem endsInside_switch {subject : Expr} {cases : List Case}
    (h : r.switch subject cases m = some (.ok flow, m')) (hflow : flow ≠ .normal) :
    r.EndsInside m (.switch subject cases) flow := by
  cases switch_eq_some_iff.1 h with
  | clause hreaches hends =>
    cases hends with
    | nil => exact absurd rfl hflow
    | normal => exact absurd rfl hflow
    | left => exact absurd rfl hflow
    | returned hbody =>
      obtain ⟨s, rest, m₁, m₂, harrives, hs⟩ := exists_arrives hbody hflow
      exact ⟨_, s, m₁, m₂, .clause hreaches harrives, by simp, hs⟩

theorem endsInside_skip {body : Block} {seizes : List Seize}
    (h : r.skip body seizes m = some (.ok flow, m')) (hflow : flow ≠ .normal) :
    r.EndsInside m (.skip body seizes) flow := by
  cases r.skipped h with
  | returned hl hbody =>
    obtain ⟨s, rest, m₁, m₂, harrives, hs⟩ := exists_arrives hbody hflow
    exact ⟨.skip, s, m₁, m₂, .skip hl harrives, by simp, hs⟩
  | closed hl hbody =>
    obtain ⟨s, rest, m₁, m₂, harrives, hs⟩ := exists_arrives hbody hflow
    exact ⟨.skip, s, m₁, m₂, .skip hl harrives, by simp, hs⟩
  | reversed hl hbody hroll hdispatch =>
    obtain ⟨b, m₁, hseized, hb⟩ := exists_seized hdispatch
    obtain ⟨s, rest, m₂, m₃, harrives, hs⟩ := exists_arrives hb hflow
    exact ⟨.seize, s, m₂, m₃, .seize hl hbody hroll hseized harrives, by simp, hs⟩

/-- What ends otherwise than normally is a jump or a `return`, or else a statement directly inside
    it has ended in the same way, and not in an increment. -/
theorem jump_or_endsInside {a : Action} (h : r.action a m = some (.ok flow, m'))
    (hflow : flow ≠ .normal) :
    (∃ j, a = .jump j) ∨ (∃ value, a = .ret value) ∨ r.EndsInside m a flow := by
  have hnormal : ∀ {x : Run Unit}, (x >>= fun _ => pure Flow.normal) m ≠ some (.ok flow, m') := by
    intro x h
    obtain ⟨_, _, -, h⟩ := Run.bind_eq_ok h
    exact hflow (Except.ok.inj (Run.pure_eq_some h).1)
  cases a with
  | jump j => exact .inl ⟨j, rfl⟩
  | ret value => exact .inr (.inl ⟨value, rfl⟩)
  | expr e undo => exact absurd h hnormal
  | declare d => exact absurd h hnormal
  | assign target op value => exact absurd h hnormal
  | step target op => exact absurd h hnormal
  | reverse payload =>
    obtain ⟨v, m₁, -, h⟩ := Run.bind_eq_ok h
    obtain ⟨_, m₂, -, h⟩ := Run.bind_eq_ok h
    exact absurd (Run.stop_eq_some h).1 (by simp)
  | block b =>
    obtain ⟨s, rest, m₁, m₂, harrives, hs⟩ := exists_arrives h hflow
    exact .inr (.inr ⟨.block, s, m₁, m₂, .block harrives, by simp, hs⟩)
  | branch arms otherwise =>
    obtain ⟨b, m₁, hpicks, hb⟩ := exists_picks h hflow
    obtain ⟨s, rest, m₂, m₃, harrives, hs⟩ := exists_arrives hb hflow
    exact .inr (.inr ⟨.arm, s, m₂, m₃, .arm hpicks harrives, by simp, hs⟩)
  | loop => exact .inr (.inr (endsInside_loop h hflow))
  | switch => exact .inr (.inr (endsInside_switch h hflow))
  | skip => exact .inr (.inr (endsInside_skip h hflow))

/-! ### Returned values -/

variable {host : Host} {fuel fuel' : Nat} {s s' : Stmt} {v : Value}

theorem Nests.returned {a : Action} {place : Standing} (h : r.Nests m a place s m₁)
    (hplace : ∀ n, place ≠ .increment n) (hs : r.exec s m₁ = some (.ok (.returned v), m')) :
    ∃ m₂, r.action a m = some (.ok (.returned v), m₂) := by
  rcases h.heeds hs (by simp) with h | ⟨n, _, _, _, _, hn, -⟩ | ⟨_, _, _, -, -, h, -⟩
  · cases h with
    | passed _ haction => exact ⟨_, haction⟩
  · exact absurd hn (hplace n)
  · exact absurd h (by simp)

/-- When the statement `s` is run in `m`, the statement `s'` inside it is begun in `m'`, however
    deep it stands; but neither it nor one around it is the increment of a loop. -/
inductive Comes (host : Host) : Nat → Stmt → Machine → Nat → Stmt → Machine → Prop
  | refl (fuel : Nat) (s : Stmt) (m : Machine) : Comes host fuel s m fuel s m
  | step {fuel fuel' : Nat} {s s₁ s' : Stmt} {m m₁ m' : Machine} {place : Standing} :
      (evaluator host fuel).Nests { m with location := s.location } s.action place s₁ m₁ →
      (∀ n, place ≠ .increment n) → Comes host fuel s₁ m₁ fuel' s' m' →
      Comes host (fuel + 1) s m fuel' s' m'

theorem Comes.returned (h : Comes host fuel s m fuel' s' m₁)
    (hs' : (evaluator host fuel').exec s' m₁ = some (.ok (.returned v), m')) :
    ∃ m₂, (evaluator host fuel).exec s m = some (.ok (.returned v), m₂) := by
  induction h with
  | refl => exact ⟨m', hs'⟩
  | step hnests hplace _ ih =>
    obtain ⟨m₂, hs₁⟩ := ih hs'
    exact hnests.returned hplace hs₁

/-- What a statement returns comes from a `return` inside it that is no part of an increment. -/
theorem exists_comes_ret (h : (evaluator host fuel).exec s m = some (.ok (.returned v), m')) :
    ∃ fuel' s' m₁ m₂, Comes host fuel s m fuel' s' m₁ ∧ (∃ value, s'.action = .ret value) ∧
      (evaluator host fuel').exec s' m₁ = some (.ok (.returned v), m₂) := by
  -- The induction is on the fuel, as a statement is run with less of it than the one around it.
  induction fuel generalizing s m m' with
  | zero => exact absurd h (by simp [evaluator, starved, Run.starved])
  | succ fuel ih =>
    have haction : (evaluator host fuel).action s.action { m with location := s.location } =
        some (.ok (.returned v), m') := h
    rcases jump_or_endsInside haction (by simp) with ⟨j, hj⟩ | hret | hinside
    · rw [hj] at haction
      exact absurd (Run.pure_eq_some haction).1 (by simp)
    · exact ⟨fuel + 1, s, m, m', .refl _ _ _, hret, h⟩
    · obtain ⟨place, s₁, m₁, m₂, hnests, hplace, hs₁⟩ := hinside
      obtain ⟨fuel', s', m₃, m₄, hcomes, hret, hs'⟩ := ih hs₁
      exact ⟨fuel', s', m₃, m₄, .step hnests hplace hcomes, hret, hs'⟩

/-- The call of the function comes to the statement `s'` inside its body, which is begun in
    `m'`. -/
def CallReaches (host : Host) (fuel : Nat) (f : Function) (args : List Value) (m : Machine)
    (fuel' : Nat) (s' : Stmt) (m' : Machine) : Prop :=
  args.length = f.params.length ∧ m.callDepth < m.settings.maxCallDepth ∧
    ∃ m₁ front s rest m₂, Run.declareAll (f.params.zip args) m.enterCall = some (.ok (), m₁) ∧
      f.body = front ++ s :: rest ∧
      (evaluator host fuel).execAll front m₁ = some (.ok .normal, m₂) ∧
      Comes host fuel s m₂ fuel' s' m'

theorem CallReaches.returned {f : Function} {args : List Value}
    (h : CallReaches host fuel f args m fuel' s' m₁)
    (hs' : (evaluator host fuel').exec s' m₁ = some (.ok (.returned v), m')) :
    ∃ m₂, (evaluator host fuel).callFunction f args m = some (.ok v, m₂) := by
  obtain ⟨hargs, hdepth, m₂, front, s, rest, m₃, hdeclare, hbody, hfront, hcomes⟩ := h
  obtain ⟨m₄, hs⟩ := hcomes.returned hs'
  have hexec : (evaluator host fuel).execAll f.body m₂ = some (.ok (.returned v), m₄) := by
    rw [hbody, execAll_append hfront, execAll_cons_of_ne_normal hs (by simp)]
  refine ⟨{ m₄.leave m with callDepth := m₄.callDepth - 1 }, ?_⟩
  rw [callFunction, if_neg (not_not_intro hargs), Run.bind_apply, Run.inCall_apply,
    if_neg (Nat.not_le_of_gt hdepth), Run.bind_apply, hdeclare]
  dsimp only
  rw [hexec]
  rfl

/-- A statement that ends otherwise than normally is heeded by the one it stands in directly, but
    for the increment of a loop, and for what falls through early in a clause with a `fallthrough`
    at its end. So, however deep a statement stands inside the body of a function, what it returns
    is the value of the call, if it does not stand in an increment. -/
theorem jumps_heeded (host : Host) (fuel : Nat) :
    (∀ m a place s m₁ flow m', (evaluator host fuel).Nests m a place s m₁ →
      (evaluator host fuel).exec s m₁ = some (.ok flow, m') → flow ≠ .normal →
      (evaluator host fuel).Heeds m a s m' place flow ∨
        (evaluator host fuel).Drops m a m' place ∨
        (evaluator host fuel).FallsOn m a m' place flow) ∧
      ∀ f args m fuel' s m₁ v m', CallReaches host fuel f args m fuel' s m₁ →
        (evaluator host fuel').exec s m₁ = some (.ok (.returned v), m') →
        ∃ m₂, (evaluator host fuel).callFunction f args m = some (.ok v, m₂) := by
  constructor
  · intro m a place s m₁ flow m' hnests hs hflow
    exact hnests.heeds hs hflow
  · intro f args m fuel' s m₁ v m' hreaches hs
    exact hreaches.returned hs

end Evaluator

/-! ### Returning from a loop -/

namespace Nesting

/-- A condition that holds. -/
def truth : Expr := .literal .truth "true"

/-- A statement that returns. -/
def deep : Stmt := ⟨.ret (some (.literal .str "deep")), .unknown⟩

/-- A branch that returns. -/
def inBranch : Stmt := ⟨.branch [⟨truth, [deep]⟩] none, .unknown⟩

/-- A loop that returns in a branch in its body. -/
def inLoop : Stmt := ⟨.loop none truth none [inBranch], .unknown⟩

/-- The declaration of a variable that holds. -/
def init : Option VarDecl := some ⟨"x", some truth⟩

/-- A body that makes the variable not hold. -/
def clearing : Block := [⟨.assign (.ident "x") .set (.literal .falsity "false"), .unknown⟩]

/-- A loop that is gone through once, and returns in its increment. -/
def dropping : Action := .loop init (.ident "x") (some deep) clearing

/-- The branch is begun in the body of the loop. -/
theorem exists_inBranch (m : Machine) : ∃ m', (evaluator .bare 8).Nests m inLoop.action .body
    inBranch m' :=
  ⟨_, .body ⟨_, _, rfl, .zero _, by decide, rfl⟩ ⟨[], rfl, rfl⟩⟩

/-- The statement inside the branch is begun when the loop is run. -/
theorem exists_comes (m : Machine) : ∃ m', Evaluator.Comes .bare 9 inLoop m 7 deep m' := by
  obtain ⟨m₁, hloop⟩ := exists_inBranch { m with location := .unknown }
  have hbranch : ∃ m', Evaluator.Comes .bare 8 inBranch m₁ 7 deep m' :=
    ⟨_, .step (.arm (.arm rfl) ⟨[], rfl, rfl⟩) (by simp) (.refl _ _ _)⟩
  obtain ⟨m', hbranch⟩ := hbranch
  exact ⟨m', .step hloop (by simp) hbranch⟩

end Nesting

open Nesting in
/-- A loop that returns in a branch in its body heeds that, and it is the value of the call. -/
theorem Evaluator.jumps_heeded_deep :
    (∃ m', (evaluator .bare 8).Heeds .bare inLoop.action inBranch m' .body
      (.returned (.str "deep"))) ∧
      ∃ m', (evaluator .bare 9).callFunction ⟨"f", [], [inLoop]⟩ [] .bare =
        some (.ok (.str "deep"), m') := by
  constructor
  · obtain ⟨m₁, hnests⟩ := exists_inBranch .bare
    have hbranch : ∃ m', (evaluator .bare 8).exec inBranch m₁ =
        some (.ok (.returned (.str "deep")), m') := ⟨_, rfl⟩
    obtain ⟨m', hbranch⟩ := hbranch
    rcases (jumps_heeded .bare 8).1 _ _ _ _ _ _ _ hnests hbranch (by simp) with h | h | h
    · exact ⟨m', h⟩
    · obtain ⟨n, _, _, _, _, hn, -⟩ := h
      exact absurd hn (by simp)
    · obtain ⟨_, _, _, hclause, -⟩ := h
      exact absurd hclause (by simp)
  · obtain ⟨m₁, hcomes⟩ := exists_comes Machine.bare.enterCall
    have hreaches : CallReaches .bare 9 ⟨"f", [], [inLoop]⟩ [] .bare 7 deep m₁ :=
      ⟨rfl, by decide, _, [], inLoop, [], _, rfl, rfl, rfl, hcomes⟩
    have hdeep : (evaluator .bare 7).exec deep m₁ =
        some (.ok (.returned (.str "deep")), { m₁ with location := .unknown }) := rfl
    exact (jumps_heeded .bare 9).2 _ _ _ _ _ _ _ _ hreaches hdeep

open Nesting in
/-- What is returned in the increment of a loop is lost. -/
theorem Evaluator.not_losesNoJump : ¬(evaluator .bare 9).LosesNoJump .bare := by
  intro hheeds
  have hbegun : ∃ m₁ m', (evaluator .bare 9).LoopReaches init (.ident "x") (some deep)
      clearing .bare 0 m₁ ∧
      (evaluator .bare 9).block clearing m₁ = some (.ok .normal, m') :=
    ⟨_, _, ⟨_, _, rfl, .zero _, by decide, rfl⟩, rfl⟩
  obtain ⟨m₁, m', hreaches, hbody⟩ := hbegun
  have hnests : (evaluator .bare 9).Nests .bare dropping (.increment 1) deep m' :=
    .increment hreaches hbody
  have hdeep : (evaluator .bare 9).exec deep m' =
      some (.ok (.returned (.str "deep")), { m' with location := .unknown }) := rfl
  have hrun : ((evaluator .bare 9).action dropping .bare).any
      fun run => !Flow.isReturned (fun _ => true) run.1 := by decide +kernel
  -- A loop takes no `return`, so it could only end in the same way.
  cases hheeds _ _ _ _ _ _ hnests hdeep (by simp) with
  | passed _ haction =>
    rw [haction] at hrun
    exact absurd hrun (by simp [Flow.isReturned])

end Retrace
