import Retrace.Proofs.Contract
import Retrace.Proofs.Reversal

/-!
# Plain programs

A program is *plain* (`Stmt.Plain`) if what happens in a skip can be taken back
from the breadcrumbs alone: there are no undo annotations, no calls in the
patterns of seizes, and no `return` in the body of a skip. Functions declared in
such a body may return, as they do so when they are called.

The last two are conditions on how the program is written. What they come to is
that evaluating a pattern leaves the machine still (`Expr.CallFree.still`), and
that the body of a skip does not end by returning (`ReturnFree.exec`).
-/

namespace Retrace

/-- Whether no call occurs in the expression. -/
inductive Expr.CallFree : Expr → Prop
  | literal (kind : LiteralKind) (lexeme : String) : CallFree (.literal kind lexeme)
  | ident (name : String) : CallFree (.ident name)
  | group {inner : Expr} : CallFree inner → CallFree (.group inner)
  | unary (op : UnaryOp) {operand : Expr} : CallFree operand → CallFree (.unary op operand)
  | binary (op : BinaryOp) {left right : Expr} :
      CallFree left → CallFree right → CallFree (.binary op left right)
  | field {object : Expr} (name : String) : CallFree object → CallFree (.field object name)
  | index {container key : Expr} :
      CallFree container → CallFree key → CallFree (.index container key)
  | list {items : List Expr} : (∀ e ∈ items, CallFree e) → CallFree (.list items)
  | map {entries : List (Expr × Expr)} : (∀ e ∈ entries, CallFree e.1) →
      (∀ e ∈ entries, CallFree e.2) → CallFree (.map entries)

/-- The parts that stand in the text of what a statement does, but for the bodies of
    functions that it declares. -/
def Action.lexicalParts : Action → List Stmt
  | .declare _ => []
  | a => a.parts

/-- Whether a statement and its parts, and the parts of these, do something that satisfies
    `p`. -/
inductive Stmt.All (parts : Action → List Stmt) (p : Action → Prop) : Stmt → Prop
  | mk {s : Stmt} : p s.action → (∀ t ∈ parts s.action, All parts p t) → All parts p s

theorem Stmt.All.action {parts : Action → List Stmt} {p : Action → Prop} {s : Stmt}
    (h : s.All parts p) : p s.action := by
  cases h with
  | mk h => exact h

theorem Stmt.All.parts {parts : Action → List Stmt} {p : Action → Prop} {s : Stmt}
    (h : s.All parts p) : ∀ t ∈ parts s.action, t.All parts p := by
  cases h with
  | mk _ h => exact h

theorem Stmt.All.leaf {parts : Action → List Stmt} {p : Action → Prop} {s : Stmt}
    (h : p s.action) (hparts : parts s.action = []) : s.All parts p :=
  .mk h fun _ ht => absurd (hparts ▸ ht) List.not_mem_nil

/-- Whether there is no `return` in the text of the statement, apart from the functions
    declared in it. -/
abbrev Stmt.ReturnFree : Stmt → Prop :=
  All Action.lexicalParts fun a => ∀ value, a ≠ .ret value

/-- Whether there is no undo annotation, no call in a pattern of a seize and no `return` in
    the body of a skip. -/
def Action.Plain : Action → Prop
  | .expr _ undo => undo = none
  | .skip body seizes => (∀ s ∈ body, s.ReturnFree) ∧
      ∀ c ∈ seizes, ∀ pattern ∈ c.trigger, pattern.CallFree
  | _ => True

/-- Whether the statement and all statements in it are plain, also those in the functions
    it declares. -/
abbrev Stmt.Plain : Stmt → Prop :=
  All Action.parts Action.Plain

/-- Values are well-formed, and all statements are plain. -/
def Discipline.plain : Discipline :=
  .sound Stmt.Plain Stmt.All.parts

/-! ### Runs that leave the machine still -/

/-- The run changes nothing, and no reversal leaves it. -/
def Run.Still {α : Type} (x : Run α) : Prop :=
  ∀ m r m', x m = some (r, m') → m' = m ∧ ∀ payload, r ≠ .error (.reversal payload)

namespace Run.Still

variable {α β : Type}

theorem pure (a : α) : Still (pure a : Run α) := by
  intro m r m' h
  obtain ⟨rfl, rfl⟩ := pure_eq_some h
  exact ⟨rfl, by simp⟩

theorem bind {x : Run α} {f : α → Run β} (hx : x.Still) (hf : ∀ a, (f a).Still) :
    (x >>= f).Still := by
  intro m r m' h
  rcases bind_eq_some h with ⟨a, m₁, ha, h'⟩ | ⟨e, he, rfl⟩
  · obtain ⟨rfl, -⟩ := hx m _ m₁ ha
    exact hf a m₁ r m' h'
  · obtain ⟨rfl, he'⟩ := hx m _ m' he
    exact ⟨rfl, fun payload h => he' payload (by rw [Except.error.inj h])⟩

theorem query (f : Machine → Except Failure α) : (query f).Still := by
  intro m r m' h
  obtain ⟨rfl, ⟨a, -, rfl⟩ | ⟨e, rfl, -⟩⟩ := query_eq_some h <;> exact ⟨rfl, by simp⟩

theorem ofExcept (x : Except Failure α) : (ofExcept x).Still :=
  query fun _ => x

theorem starved : (starved : Run α).Still :=
  fun _ _ _ h => absurd h (by simp [Run.starved])

end Run.Still

section Still

variable {r : Evaluator}

theorem Evaluator.still_evalAll {es : List Expr} (h : ∀ e ∈ es, (r.eval e).Still) :
    (r.evalAll es).Still := by
  induction es with
  | nil => exact .pure _
  | cons e es ih =>
    obtain ⟨he, hes⟩ := List.forall_mem_cons.1 h
    exact .bind he fun _ => .bind (ih hes) fun _ => .pure _

theorem Evaluator.still_evalEntries {es : List (Expr × Expr)}
    (hk : ∀ e ∈ es, (r.eval e.1).Still) (hv : ∀ e ∈ es, (r.eval e.2).Still) :
    (r.evalEntries es).Still := by
  induction es with
  | nil => exact .pure _
  | cons e es ih =>
    obtain ⟨hk, hks⟩ := List.forall_mem_cons.1 hk
    obtain ⟨hv, hvs⟩ := List.forall_mem_cons.1 hv
    exact .bind hk fun _ => .bind hv fun _ => .bind (ih hks hvs) fun _ => .pure _

end Still

/-- Without a call nothing is changed. -/
theorem Expr.CallFree.still {e : Expr} (h : e.CallFree) (host : Host) (fuel : Nat) :
    ((evaluator host fuel).eval e).Still := by
  -- The induction is on the fuel, as the parts are evaluated with less of it.
  induction fuel generalizing e with
  | zero => exact .starved
  | succ fuel ih =>
    rw [eval_evaluator_succ]
    cases h with
    | literal kind lexeme => exact .ofExcept _
    | ident name => exact .query _
    | group h => exact ih h
    | unary op h => exact .bind (ih h) fun _ => .ofExcept _
    | binary op h h' => exact .bind (ih h) fun _ => .bind (ih h') fun _ => .ofExcept _
    | field name h => exact .bind (ih h) fun _ => .ofExcept _
    | index h h' => exact .bind (ih h) fun _ => .bind (ih h') fun _ => .ofExcept _
    | list h => exact .bind (Evaluator.still_evalAll fun e he => ih (h e he)) fun _ => .pure _
    | map hk hv =>
      exact .bind (Evaluator.still_evalEntries (fun e he => ih (hk e he)) fun e he => ih (hv e he))
        fun _ => .pure _

/-! ### Runs that do not return -/

/-- The run does not end by returning from a function. -/
def Run.Returnless (x : Run Flow) : Prop :=
  ∀ m v m', x m ≠ some (.ok (.returned v), m')

namespace Run.Returnless

variable {α : Type}

theorem pure {flow : Flow} (h : ∀ v, flow ≠ .returned v) : (pure flow : Run Flow).Returnless :=
  fun _ v _ hr => h v (Except.ok.inj (pure_eq_some hr).1).symm

theorem stop (reason : Stop) : (stop reason).Returnless :=
  fun _ _ _ hr => absurd (stop_eq_some hr).1 (by simp)

theorem starved : (starved : Run Flow).Returnless :=
  fun _ _ _ h => absurd h (by simp [Run.starved])

theorem bind {x : Run α} {f : α → Run Flow}
    (h : ∀ m a m', x m = some (.ok a, m') → (f a).Returnless) : (x >>= f).Returnless := by
  intro m v m' hr
  obtain ⟨a, m₁, ha, hr⟩ := bind_eq_ok hr
  exact h m a m₁ ha m₁ v m' hr

theorem inBlock {x : Run Flow} (h : x.Returnless) : (inBlock x).Returnless := by
  intro m v m' hr
  obtain ⟨m₁, hr, -⟩ := inBlock_eq_some hr
  exact h _ v m₁ hr

end Run.Returnless

section Returnless

variable {r : Evaluator}

theorem Evaluator.returnless_execAll {b : Block} (h : ∀ s ∈ b, (r.exec s).Returnless) :
    (r.execAll b).Returnless := by
  induction b with
  | nil => exact .pure (by simp)
  | cons s b ih =>
    obtain ⟨hs, hb⟩ := List.forall_mem_cons.1 h
    refine .bind fun m flow m' hflow => ?_
    cases flow with
    | normal => exact ih hb
    | jump j => exact .pure (by simp)
    | returned v => exact absurd hflow (hs m v m')

theorem Evaluator.returnless_block {b : Block} (h : ∀ s ∈ b, (r.exec s).Returnless) :
    (r.block b).Returnless :=
  .inBlock (returnless_execAll h)

theorem Evaluator.returnless_branch {arms : List Arm} {otherwise : Option Block}
    (harms : ∀ a ∈ arms, ∀ s ∈ a.body, (r.exec s).Returnless)
    (hotherwise : ∀ s ∈ otherwise.getD [], (r.exec s).Returnless) :
    (r.branch otherwise arms).Returnless := by
  induction arms with
  | nil =>
    cases otherwise with
    | none => exact .pure (by simp)
    | some b => exact returnless_block hotherwise
  | cons a arms ih =>
    obtain ⟨ha, harms⟩ := List.forall_mem_cons.1 harms
    refine .bind fun m holds m' _ => ?_
    cases holds with
    | true => exact returnless_block ha
    | false => exact ih harms

theorem Evaluator.returnless_iterate (condition : Expr) (increment : Option Stmt) {body : Block}
    (hbody : ∀ s ∈ body, (r.exec s).Returnless) (n : Nat) :
    (r.iterate condition increment body n).Returnless := by
  induction n with
  | zero => exact .starved
  | succ n ih =>
    refine .bind fun m holds m' _ => ?_
    cases holds with
    | false => exact .pure (by simp)
    | true =>
      refine .bind fun m flow m' hflow => ?_
      match flow with
      | .normal => exact .bind fun _ _ _ _ => ih
      | .jump .leave => exact .pure (by simp)
      | .jump .fallthrough => exact .stop _
      | .returned v => exact absurd hflow (returnless_block hbody m v m')

theorem Evaluator.returnless_fallInto {cases : List Case}
    (hcases : ∀ c ∈ cases, ∀ s ∈ c.body, (r.exec s).Returnless) :
    (r.fallInto cases).Returnless := by
  induction cases with
  | nil => exact .pure (by simp)
  | cons c cases ih =>
    obtain ⟨hc, hcases⟩ := List.forall_mem_cons.1 hcases
    refine .bind fun m flow m' hflow => ?_
    split
    · split
      · exact ih hcases
      · exact .stop _
    · exact absurd hflow (returnless_block hc m _ m')
    · exact .pure (by simp)

/-- The chosen clauses are among the given ones. -/
theorem Evaluator.subset_of_select {subject : Value} {kept : Option (List Case)}
    {cases chosen : List Case} {m m' : Machine}
    (h : r.select subject kept cases m = some (.ok chosen, m')) :
    chosen ⊆ kept.getD [] ++ cases := by
  induction cases generalizing kept m with
  | nil =>
    obtain ⟨h, -⟩ := Run.pure_eq_some h
    rw [Except.ok.inj h]
    exact List.subset_append_left _ _
  | cons c cases ih =>
    obtain ⟨trigger, body⟩ := c
    cases trigger with
    | none =>
      rw [select] at h
      -- Of several default clauses the first one is kept.
      refine List.Subset.trans (ih h) ?_
      cases kept <;> simp
    | some value =>
      rw [select] at h
      obtain ⟨v, m₁, -, h⟩ := Run.bind_eq_ok h
      split at h
      · obtain ⟨h, -⟩ := Run.pure_eq_some h
        rw [Except.ok.inj h]
        exact List.subset_append_right _ _
      · refine List.Subset.trans (ih h) ?_
        simp

theorem Evaluator.returnless_dispatch (payload : Value) {kept : Option Block}
    {seizes : List Seize} (hkept : ∀ s ∈ kept.getD [], (r.exec s).Returnless)
    (hseizes : ∀ c ∈ seizes, ∀ s ∈ c.body, (r.exec s).Returnless) :
    (r.dispatch payload kept seizes).Returnless := by
  have hseize : ∀ {b : Block}, (∀ s ∈ b, (r.exec s).Returnless) → (r.seize b).Returnless :=
    fun hb => .bind fun _ _ _ _ => returnless_block hb
  induction seizes generalizing kept with
  | nil =>
    cases kept with
    | none => exact .stop _
    | some b => exact hseize hkept
  | cons c seizes ih =>
    obtain ⟨pattern, b⟩ := c
    obtain ⟨hc, hrest⟩ := List.forall_mem_cons.1 hseizes
    cases pattern with
    | none =>
      rw [dispatch]
      refine ih ?_ hrest
      cases kept with
      | none => exact hc
      | some kept => exact hkept
    | some pattern =>
      rw [dispatch]
      refine .bind fun m v m' _ => ?_
      split
      · exact hseize hc
      · exact ih hkept hrest

end Returnless

/-- Without a `return` in its text a statement does not end by returning. -/
theorem Stmt.ReturnFree.exec {s : Stmt} (h : s.ReturnFree) (host : Host) (fuel : Nat) :
    ((evaluator host fuel).exec s).Returnless := by
  induction fuel generalizing s with
  | zero => exact .starved
  | succ fuel ih =>
    rw [exec_evaluator_succ]
    refine .bind fun _ _ _ _ => ?_
    obtain ⟨action, l⟩ := s
    -- Functions that are declared may return, but they are not run here.
    have hparts : ∀ t ∈ action.lexicalParts, ((evaluator host fuel).exec t).Returnless :=
      fun t ht => ih (h.parts t ht)
    cases action with
    | block b => exact Evaluator.returnless_block hparts
    | expr e undo => exact .bind fun _ _ _ _ => .pure (by simp)
    | ret value => exact absurd rfl (h.action value)
    | declare d => exact .bind fun _ _ _ _ => .pure (by simp)
    | assign target op value => exact .bind fun _ _ _ _ => .pure (by simp)
    | step target op => exact .bind fun _ _ _ _ => .pure (by simp)
    | loop init condition increment body =>
      have hbody := (List.forall_mem_append.1 hparts).2
      have hiterate := Evaluator.returnless_iterate condition increment hbody
        (evaluator host fuel).rounds
      refine .inBlock ?_
      cases init with
      | none => exact hiterate
      | some d => exact .bind fun _ _ _ _ => hiterate
    | branch arms otherwise =>
      obtain ⟨harms, hotherwise⟩ := List.forall_mem_append.1 hparts
      exact Evaluator.returnless_branch
        (fun a ha s hs => harms s (List.mem_flatMap.2 ⟨a, ha, hs⟩)) hotherwise
    | jump j => exact .pure (by simp)
    | switch subject cases =>
      refine .bind fun _ _ _ _ => .bind fun _ chosen _ hchosen => ?_
      refine Evaluator.returnless_fallInto fun c hc s hs => hparts s ?_
      exact List.mem_flatMap.2 ⟨c, Evaluator.subset_of_select hchosen hc, hs⟩
    | skip body seizes =>
      obtain ⟨hbody, hseizes⟩ := List.forall_mem_append.1 hparts
      -- Only the body of a skip or one of its seizes could make it return.
      intro m v m' hr
      cases Evaluator.skipped _ hr with
      | returned hl h => exact Evaluator.returnless_block hbody _ _ _ h
      | closed hl h hflow => exact hflow v rfl
      | reversed hl h hroll hdispatch =>
        exact Evaluator.returnless_dispatch _ (fun _ h => absurd h List.not_mem_nil)
          (fun c hc s hs => hseizes s (List.mem_flatMap.2 ⟨c, hc, hs⟩)) _ v m' hdispatch
    | reverse payload => exact .bind fun _ _ _ _ => .bind fun _ _ _ _ => .stop _

end Retrace
