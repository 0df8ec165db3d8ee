import Retrace.Proofs.Placement
import Retrace.Proofs.Requests

/-!
# Jumps that are placed do not misfire

What is proved here of each kind of node is that it lands if its parts do
(`Evaluator.Places`), and which flows come from it: from a statement that is
placed no `fallthrough`, and a `break` only inside the body of a loop or a clause of
a switch. A loop takes whatever comes from its body, and a switch what comes from its
clauses, with the `fallthrough` at the end of one. So nothing but a value comes
from the body of a function.

By induction on the fuel every run of a program lands that is placed
(`Evaluator.places`). Hence in a session in which all that is handed over is
placed, no request is answered with a misplaced jump (`Session.jumps_land`).
-/

namespace Retrace

open Run (Lands)

/-- An evaluator whose runs of statements that are placed land. Only a `fallthrough` gives
    rise to the flow that is called so. -/
structure Evaluator.Places (r : Evaluator) : Prop where
  eval : ∀ e, Lands Value.Placed (r.eval e)
  exec : ∀ {inside : Bool} {s : Stmt}, s.Placed inside → Lands (Flow.Lands inside) (r.exec s)
  fall : ∀ {s : Stmt}, s.action = .jump .fallthrough →
    Lands (fun flow => flow = .jump .fallthrough) (r.exec s)

/-- A statement of a clause is a `fallthrough` only if it stands at its end. -/
theorem mem_withoutFallthrough {b : Block} {s : Stmt} (h : s ∈ b) :
    s ∈ withoutFallthrough b ∨ s.action = .jump .fallthrough ∧ endsWithFallthrough b := by
  rw [withoutFallthrough]
  split
  · rename_i hends
    have hlast := hends
    rw [endsWithFallthrough] at hlast
    split at hlast
    · rename_i l hl
      obtain ⟨front, rfl⟩ := List.getLast?_eq_some_iff.1 hl
      rw [List.dropLast_concat]
      rcases List.mem_append.1 h with h | h
      · exact .inl h
      · exact .inr ⟨by rw [List.mem_singleton.1 h], hends⟩
    · exact absurd hlast (by simp)
  · exact .inl h

namespace Evaluator.Places

variable {r : Evaluator} (hr : r.Places) {inside : Bool}
include hr

/-! ### Several parts one after the other -/

theorem evalAll (es : List Expr) : Lands (fun vs => ∀ v ∈ vs, v.Placed) (r.evalAll es) := by
  induction es with
  | nil => exact .pure fun _ h => absurd h List.not_mem_nil
  | cons e es ih =>
    exact .bind (hr.eval e) fun v hv => .bind ih fun vs hvs =>
      .pure (List.forall_mem_cons.2 ⟨hv, hvs⟩)

theorem evalEntries (es : List (Expr × Expr)) :
    Lands (fun fs => ∀ f ∈ fs, f.1.Placed ∧ f.2.Placed) (r.evalEntries es) := by
  induction es with
  | nil => exact .pure fun _ h => absurd h List.not_mem_nil
  | cons e es ih =>
    exact .bind (hr.eval e.1) fun k hk => .bind (hr.eval e.2) fun v hv => .bind ih fun fs hfs =>
      .pure (List.forall_mem_cons.2 ⟨⟨hk, hv⟩, hfs⟩)

theorem condition (e : Expr) : Lands (fun _ => True) (r.condition e) :=
  .bind (hr.eval e) fun _ _ => .ofExcept (fun _ _ => trivial) fun _ =>
    Value.operational_of_expectBool

omit hr in
/-- What comes from one of the statements comes from all of them. -/
theorem execAll_of {V : Flow → Prop} {b : Block} (hnormal : V .normal)
    (h : ∀ s ∈ b, Lands V (r.exec s)) : Lands V (r.execAll b) := by
  induction b with
  | nil => exact .pure hnormal
  | cons s b ih =>
    obtain ⟨hs, hb⟩ := List.forall_mem_cons.1 h
    refine .bind hs fun flow hflow => ?_
    cases flow with
    | normal => exact ih hb
    | jump | returned => exact .pure hflow

theorem execAll {b : Block} (hb : ∀ s ∈ b, s.Placed inside) :
    Lands (Flow.Lands inside) (r.execAll b) :=
  execAll_of trivial fun s hs => hr.exec (hb s hs)

theorem block {b : Block} (hb : ∀ s ∈ b, s.Placed inside) :
    Lands (Flow.Lands inside) (r.block b) :=
  .inBlock (hr.execAll hb)

/-- From a clause a `fallthrough` may come, if it stands at the end. -/
theorem clause {b : Block} (hb : ∀ s ∈ withoutFallthrough b, s.Placed true) :
    Lands (fun flow => flow.Lands true ∨ flow = .jump .fallthrough ∧ endsWithFallthrough b)
      (r.block b) := by
  refine .inBlock (execAll_of (.inl trivial) fun s hs => ?_)
  rcases mem_withoutFallthrough hs with hs | ⟨hfall, hends⟩
  · exact (hr.exec (hb s hs)).weaken fun _ => .inl
  · exact (hr.fall hfall).weaken fun _ h => .inr ⟨h, hends⟩

theorem target (e : Expr) : Lands (fun t => ∀ k ∈ t.path, k.Placed) (r.target e) := by
  fun_induction Evaluator.target r e with
  | case1 name => exact .pure fun _ h => absurd h List.not_mem_nil
  | case2 inner ih => exact ih
  | case3 container key ih =>
    exact .bind ih fun t ht => .bind (hr.eval key) fun k hk =>
      .pure (List.forall_mem_append.2 ⟨ht, List.forall_mem_singleton.2 hk⟩)
  | case4 object name ih =>
    exact .bind ih fun t ht => .pure (List.forall_mem_append.2
      ⟨ht, List.forall_mem_singleton.2 (Value.closed_placed.atom rfl)⟩)
  | case5 => exact .fail fun _ h => absurd h (by simp)

/-! ### Expressions -/

section Calls

variable {host : Host} (hkeeps : host.Keeps Value.Placed)
  (hlands : ∀ key, (host.native key).Fails (fun _ => True) Failure.Lands)

/-- From the body of a function nothing comes but a value. -/
theorem callFunction {f : Function} (hf : ∀ s ∈ f.body, s.Placed false) {args : List Value}
    (hargs : ∀ v ∈ args, v.Placed) : Lands Value.Placed (r.callFunction f args) := by
  rw [Evaluator.callFunction]
  split
  · exact .fail fun _ h => absurd h (by simp)
  · refine .bind (.inCall (.bind (.declareAll fun b hb => hargs _ (List.of_mem_zip hb).2)
      fun _ _ => hr.execAll hf)) fun flow hflow => ?_
    cases flow with
    | normal => exact .pure (Value.closed_placed.atom rfl)
    | returned v => exact .pure hflow
    | jump j =>
      cases j with
      | leave => exact absurd hflow (by simp [Flow.Lands])
      | fallthrough => exact absurd hflow id

omit hr in
include hkeeps hlands in
theorem callNative (f : NativeFunction) {args : List Value} (hargs : ∀ v ∈ args, v.Placed) :
    Lands Value.Placed (callNative host f args) := by
  rw [Evaluator.callNative]
  split
  · exact .fail fun _ h => absurd h (by simp)
  · refine .inCall (.bind (.declareAll fun b hb => ?_) fun _ _ => .native hkeeps hlands _ _)
    rw [NativeFunction.bindArgs] at hb
    split at hb <;> exact hargs _ (List.of_mem_zip hb).2

include hkeeps hlands

theorem callValue {f : Value} (hf : f.Placed) {args : List Value} (hargs : ∀ v ∈ args, v.Placed) :
    Lands Value.Placed (r.callValue host f args) := by
  cases f with
  | function f => exact hr.callFunction (hf f .self) hargs
  | native f => exact callNative hkeeps hlands f hargs
  | _ => exact .fail fun _ h => absurd h (by simp [Failure.unexpected])

theorem call (callee : Expr) (args : List Expr) : Lands Value.Placed (r.call host callee args) := by
  refine .bind (hr.eval callee) fun f hf => ?_
  split
  · exact .bind (hr.evalAll args) fun vs hvs => hr.callValue hkeeps hlands hf hvs
  · exact .fail fun _ h => absurd h (by simp [Failure.unexpected])

/-- Every kind of expression lands if its parts do. -/
theorem expression (e : Expr) : Lands Value.Placed (r.expression host e) := by
  have hclosed := Value.closed_placed
  cases e with
  | literal kind lexeme =>
    exact .ofExcept (fun v hv => hclosed.atom (Value.isAtom_of_ofLiteral hv)) fun _ =>
      Value.operational_of_ofLiteral
  | ident name => exact .lookup name
  | group inner => exact hr.eval inner
  | unary op operand =>
    exact .bind (hr.eval operand) fun v _ =>
      .ofExcept (fun w hw => hclosed.atom (Value.isAtom_of_unary hw)) fun _ =>
        Value.operational_of_unary
  | binary op left right =>
    exact .bind (hr.eval left) fun a _ => .bind (hr.eval right) fun b _ =>
      .ofExcept (fun w hw => hclosed.atom (Value.isAtom_of_binary hw)) fun _ =>
        Value.operational_of_binary
  | call callee args => exact hr.call hkeeps hlands callee args
  | field object name =>
    exact .bind (hr.eval object) fun v hv =>
      .ofExcept (fun w hw => hclosed.field hv hw) fun _ => Value.operational_of_field
  | index container key =>
    exact .bind (hr.eval container) fun v hv => .bind (hr.eval key) fun k _ =>
      .ofExcept (fun w hw => hclosed.index hv hw) fun _ => Value.operational_of_index
  | list items => exact .bind (hr.evalAll items) fun vs hvs => .pure (hclosed.ofItems hvs)
  | map entries => exact .bind (hr.evalEntries entries) fun es hes => .pure (hclosed.ofList hes)

end Calls

/-! ### Assignments and declarations -/

theorem assign (target : Expr) (op : AssignOp) (value : Expr) :
    Lands (fun _ => True) (r.assign target op value) := by
  refine .bind (hr.target target) fun t ht => .bind (hr.eval value) fun v hv => ?_
  cases op.binary? with
  | none => exact .store t ht hv
  | some op =>
    refine .bind (.readTarget t) fun old _ => .bind (V := Value.Placed) (.ofExcept
      (fun new hnew => ?_) fun _ => Value.operational_of_binary) fun new hnew => .store t ht hnew
    exact Value.closed_placed.atom (Value.isAtom_of_binary hnew)

theorem step (target : Expr) (op : StepOp) : Lands (fun _ => True) (r.step target op) := by
  refine .bind (hr.target target) fun t ht => .bind (.readTarget t) fun old _ =>
    .bind (V := Value.Placed) (.ofExcept (fun new hnew => ?_) fun _ => Value.operational_of_step)
      fun new hnew => .store t ht hnew
  exact Value.closed_placed.atom (Value.isAtom_of_step hnew)

theorem declareVariable (d : VarDecl) : Lands (fun _ => True) (r.declareVariable d) := by
  rw [Evaluator.declareVariable]
  split
  · exact .bind (hr.eval _) fun v hv => .declare d.name hv
  · exact .declare d.name (Value.closed_placed.atom rfl)

theorem declaration {d : Decl} {l : Location} (hd : Stmt.Placed inside ⟨.declare d, l⟩) :
    Lands (fun _ => True) (r.declaration d) := by
  cases hd with
  | @function _ name params body _ hbody =>
    exact .declare name (Value.holds_function.2 hbody)
  | «variable» => exact hr.declareVariable _
  | classLike => exact .pure trivial

/-! ### Branches, switches and loops -/

theorem branch {arms : List Arm} {otherwise : Option Block}
    (harms : ∀ a ∈ arms, ∀ s ∈ a.body, s.Placed inside)
    (hotherwise : ∀ s ∈ otherwise.getD [], s.Placed inside) :
    Lands (Flow.Lands inside) (r.branch otherwise arms) := by
  induction arms with
  | nil =>
    cases otherwise with
    | none => exact .pure trivial
    | some b => exact hr.block hotherwise
  | cons a arms ih =>
    obtain ⟨ha, harms⟩ := List.forall_mem_cons.1 harms
    refine .bind (hr.condition a.trigger) fun holds _ => ?_
    cases holds with
    | true => exact hr.block ha
    | false => exact ih harms

theorem select {P : Case → Prop} (subject : Value) {cases : List Case} {kept : Option (List Case)}
    (hcases : ∀ c ∈ cases, P c) (hkept : ∀ c ∈ kept.getD [], P c) :
    Lands (fun chosen => ∀ c ∈ chosen, P c) (r.select subject kept cases) := by
  induction cases generalizing kept with
  | nil => exact .pure hkept
  | cons c cases ih =>
    obtain ⟨trigger, body⟩ := c
    have htail := (List.forall_mem_cons.1 hcases).2
    cases trigger with
    | none =>
      -- The default clause is only kept for when no other one is chosen.
      refine ih htail ?_
      cases kept with
      | none => exact hcases
      | some kept => exact hkept
    | some value =>
      refine .bind (hr.eval value) fun v _ => ?_
      split
      · exact .pure hcases
      · exact ih htail hkept

/-- A switch takes every `break`, and every `fallthrough` at the end of a clause. -/
theorem fallInto {cases : List Case}
    (hcases : ∀ c ∈ cases, ∀ s ∈ withoutFallthrough c.body, s.Placed true) :
    Lands (Flow.Lands inside) (r.fallInto cases) := by
  induction cases with
  | nil => exact .pure trivial
  | cons c cases ih =>
    obtain ⟨hc, hcases⟩ := List.forall_mem_cons.1 hcases
    refine .bind (hr.clause hc) fun flow hflow => ?_
    match flow with
    | .normal | .jump .leave => exact .pure trivial
    | .returned v => exact .pure (hflow.resolve_right (by simp))
    | .jump .fallthrough =>
      simp only [(hflow.resolve_left id).2, if_true]
      exact ih hcases

theorem switch (subject : Expr) {cases : List Case}
    (hcases : ∀ c ∈ cases, ∀ s ∈ withoutFallthrough c.body, s.Placed true) :
    Lands (Flow.Lands inside) (r.switch subject cases) :=
  .bind (hr.eval subject) fun v _ =>
    .bind (hr.select v hcases fun _ h => absurd h List.not_mem_nil) fun _ hchosen =>
      hr.fallInto hchosen

theorem increment {increment : Option Stmt} (h : ∀ s ∈ increment.toList, s.Placed inside) :
    Lands (fun _ => True) (r.increment increment) := by
  cases increment with
  | none => exact .pure trivial
  | some s => exact .bind (hr.exec (h s (List.mem_singleton_self s))) fun _ _ => .pure trivial

/-- A loop takes every jump that comes from its body. -/
theorem iterate {inner : Bool} (condition : Expr) {increment : Option Stmt} {body : Block}
    (hincrement : ∀ s ∈ increment.toList, s.Placed inner) (hbody : ∀ s ∈ body, s.Placed true)
    (n : Nat) : Lands (Flow.Lands inside) (r.iterate condition increment body n) := by
  induction n with
  | zero => exact .starved
  | succ n ih =>
    refine .bind (hr.condition condition) fun holds _ => ?_
    cases holds with
    | false => exact .pure trivial
    | true =>
      refine .bind (hr.block hbody) fun flow hflow => ?_
      match flow with
      | .normal => exact .bind (hr.increment hincrement) fun _ _ => ih
      | .jump .leave => exact .pure trivial
      | .jump .fallthrough => exact absurd hflow id
      | .returned v => exact .pure hflow

theorem loop {inner : Bool} (init : Option VarDecl) (condition : Expr) {increment : Option Stmt}
    {body : Block} (hincrement : ∀ s ∈ increment.toList, s.Placed inner)
    (hbody : ∀ s ∈ body, s.Placed true) :
    Lands (Flow.Lands inside) (r.loop init condition increment body) := by
  have hiterate : Lands (Flow.Lands inside) (r.iterate condition increment body r.rounds) :=
    hr.iterate condition hincrement hbody r.rounds
  refine .inBlock ?_
  cases init with
  | none => exact hiterate
  | some d => exact .bind (hr.declareVariable d) fun _ _ => hiterate

/-! ### Skips -/

theorem effect (e : Expr) {undo : Option Stmt} (hundo : ∀ s ∈ undo.toList, s.Placed inside) :
    Lands (fun _ => True) (r.effect e undo) := by
  refine .bind (hr.eval e) fun _ _ => ?_
  cases undo with
  | none => exact .pure trivial
  | some s =>
    have hs : s.Placed inside := hundo s (List.mem_singleton_self s)
    exact .bind .current fun scope _ => .record (c := .replay scope s) ⟨inside, hs⟩

/-- However a statement ends that is replayed, what comes of it is no misplaced jump. -/
theorem replay (scope : ScopeId) {undo : Stmt} (hundo : undo.Placed inside) :
    Lands (fun _ => True) (r.replay scope undo) := by
  refine .bind (.attempt (.inScope scope (hr.exec hundo))) fun y _ => ?_
  split
  · exact .pure trivial
  all_goals exact .fail fun _ h => absurd h (by simp)

theorem restore (marker : Marker) (enclosing : ScopeId) {c : Breadcrumb} (hc : c.Placed) :
    Lands (fun _ => True) (r.restore marker enclosing c) := by
  have hrestorable : ∀ scope, Lands (fun _ => True) (Run.restorable marker scope) := by
    refine fun scope => .query (fun _ _ _ _ => trivial) fun m e he => ?_
    rw [Scopes.restorable] at he
    split at he
    · exact absurd he (by simp)
    · split at he
      · exact absurd he (by simp)
      · exact Except.error.inj he ▸ fun _ h => absurd h (by simp)
  have hwhen : ∀ scope {x : Run Unit}, Lands (fun _ => True) x →
      Lands (fun _ => True) (Run.whenRestorable marker scope x) := by
    refine fun scope x hx => .bind (hrestorable scope) fun b _ => ?_
    cases b with
    | true => exact hx
    | false => exact .pure trivial
  cases c with
  | marker => exact .fail fun _ h => absurd h (by simp)
  | binding scope name previous => exact hwhen scope (.define scope name hc)
  | entry scope name path previous =>
    refine hwhen scope (.updateScopes (fun ss ss' h hss => ?_) fun ss e he => ?_)
    · obtain ⟨key, value, bound, updated, rfl, hlook, hu, hd⟩ := Scopes.restoreEntry_eq_ok hss
      obtain ⟨hkey, hvalue⟩ := Value.closed_placed.pair.1 hc.2
      have hpath := List.forall_mem_append.2 ⟨hc.1, List.forall_mem_singleton.2 hkey⟩
      exact h.define (Value.closed_placed.updatePath (h _ _ _ hlook) hpath hvalue hu) hd
    · rw [Scopes.restoreEntry.eq_def] at he
      split at he
      · rcases Failure.of_bind he with he | ⟨o, -, he⟩
        · exact (Scopes.missing_of_getLocal he).lands
        · split at he
          · rcases Failure.of_bind he with he | ⟨w, -, he⟩
            · exact (Value.operational_of_updatePath he).lands
            · exact (Scopes.missing_of_define he).lands
          · exact Except.error.inj he ▸ fun _ h => absurd h (by simp)
      · exact Except.error.inj he ▸ fun _ h => absurd h (by simp)
  | replay scope undo =>
    obtain ⟨inside, hundo⟩ := hc
    refine .bind (hrestorable scope) fun b _ => ?_
    cases b with
    | true => exact hr.replay scope hundo
    | false => exact hr.replay enclosing hundo

theorem restoreAbove (marker : Marker) (enclosing : ScopeId) (n : Nat) :
    Lands (fun _ => True) (r.restoreAbove marker enclosing n) := by
  induction n with
  | zero => exact .starved
  | succ n ih =>
    refine .bind (.popAbove marker) fun o ho => ?_
    cases o with
    | none => exact .pure trivial
    | some c => exact .bind (hr.restore marker enclosing (ho c rfl)) fun _ _ => ih

theorem dispatch {payload : Value} (hpayload : payload.Placed) {kept : Option Block}
    {seizes : List Seize} (hkept : ∀ s ∈ kept.getD [], s.Placed inside)
    (hseizes : ∀ c ∈ seizes, ∀ s ∈ c.body, s.Placed inside) :
    Lands (Flow.Lands inside) (r.dispatch payload kept seizes) := by
  have hseize : ∀ {b : Block}, (∀ s ∈ b, s.Placed inside) →
      Lands (Flow.Lands inside) (r.seize b) :=
    fun hb => .bind (.setReversing false) fun _ _ => hr.block hb
  induction seizes generalizing kept with
  | nil =>
    cases kept with
    | none => exact .stop hpayload
    | some b => exact hseize hkept
  | cons c seizes ih =>
    obtain ⟨pattern, b⟩ := c
    obtain ⟨hc, hrest⟩ := List.forall_mem_cons.1 hseizes
    cases pattern with
    | none =>
      rw [Evaluator.dispatch]
      refine ih ?_ hrest
      cases kept with
      | none => exact hc
      | some kept => exact hkept
    | some pattern =>
      rw [Evaluator.dispatch]
      refine .bind (hr.eval pattern) fun v _ => ?_
      split
      · exact hseize hc
      · exact ih hkept hrest

/-- What comes from a skip comes from its body or from one of its seizes. -/
theorem skip {body : Block} {seizes : List Seize} (hbody : ∀ s ∈ body, s.Placed inside)
    (hseizes : ∀ c ∈ seizes, ∀ s ∈ c.body, s.Placed inside) :
    Lands (Flow.Lands inside) (r.skip body seizes) := by
  refine .bind .current fun enclosing _ => .bind .openSkip fun marker _ =>
    .bind (.attempt (hr.block hbody)) fun y hy => ?_
  split
  · exact .bind (.discardSkip marker) fun _ _ => .pure hy
  · exact .bind (.closeSkip marker) fun _ _ => .pure hy
  · exact .bind (.discardSkip marker) fun _ _ => .fail hy
  · refine .bind (.attempt (hr.restoreAbove marker enclosing r.rounds)) fun z hz => ?_
    split
    · exact .bind (.closeSkip marker) fun _ _ =>
        hr.dispatch hy (fun _ h => absurd h List.not_mem_nil) hseizes
    · exact .bind (.discardSkip marker) fun _ _ => .stop hz

/-- Every kind of statement that is placed lands if its parts do. -/
theorem statement {s : Stmt} (hs : s.Placed inside) :
    Lands (Flow.Lands inside) (r.statement s) := by
  refine .bind (.setLocation s.location) fun _ _ => ?_
  cases hs with
  | block hbody => exact hr.block hbody
  | expr hundo => exact .bind (hr.effect _ hundo) fun _ _ => .pure trivial
  | @ret _ value =>
    cases value with
    | none => exact .pure (Value.closed_placed.atom rfl)
    | some e => exact .bind (hr.eval e) fun v hv => .pure hv
  | @function _ name params body l hbody =>
    have hd : Stmt.Placed inside ⟨.declare (.function name params body), l⟩ := .function hbody
    exact .bind (hr.declaration hd) fun _ _ => .pure trivial
  | «variable» =>
    exact .bind (hr.declareVariable _) fun _ _ => .pure trivial
  | classLike => exact .bind (.pure (V := fun _ => True) trivial) fun _ _ => .pure trivial
  | assign => exact .bind (hr.assign _ _ _) fun _ _ => .pure trivial
  | step => exact .bind (hr.step _ _) fun _ _ => .pure trivial
  | loop hincrement hbody => exact hr.loop _ _ hincrement hbody
  | branch harms hotherwise => exact hr.branch harms hotherwise
  | leave => exact .pure rfl
  | switch hcases => exact hr.switch _ hcases
  | skip hbody hseizes => exact hr.skip hbody hseizes
  | reverse =>
    exact .bind (hr.eval _) fun v hv => .bind (.setReversing true) fun _ _ => .stop hv

omit hr in
theorem statement_fallthrough {s : Stmt} (h : s.action = .jump .fallthrough) :
    Lands (fun flow => flow = .jump .fallthrough) (r.statement s) := by
  refine .bind (.setLocation s.location) fun _ _ => ?_
  rw [h]
  exact .pure rfl

end Evaluator.Places

/-- Every run of a program that is placed lands, whatever its fuel. -/
theorem Evaluator.places {host : Host} (hkeeps : host.Keeps Value.Placed)
    (hlands : ∀ key, (host.native key).Fails (fun _ => True) Failure.Lands) (fuel : Nat) :
    (evaluator host fuel).Places := by
  -- The induction is on the fuel, as a node is run with one unit more than its parts.
  induction fuel with
  | zero => exact ⟨fun _ => .starved, fun _ => .starved, fun _ => .starved⟩
  | succ fuel ih => exact ⟨ih.expression hkeeps hlands, ih.statement, Places.statement_fallthrough⟩

/-! ### Sessions -/

/-- Whether all jumps in the declaration are placed. -/
def Decl.Placed (d : Decl) : Prop :=
  Stmt.Placed false ⟨.declare d, .unknown⟩

/-- Whether all jumps in what is handed over with the request are placed. -/
def Request.Placed : Request → Prop
  | .declare d => d.Placed
  | .load ds => ∀ d ∈ ds, d.Placed
  | .call _ args => ∀ v ∈ args, v.Placed
  | _ => True

namespace Machine

theorem placed_initial (settings : Settings) (files : Files) : (initial settings files).Placed :=
  ⟨obey_initial Value.closed_placed.native settings files, List.forall_mem_nil _⟩

namespace Placed

variable {α : Type} {m m' : Machine} (hm : m.Placed) {host : Host}
include hm

theorem settle {V : α → Prop} {x : Run α} (hx : Lands V x) {answer : Except Failure α}
    (hr : m.settle x = some (answer, m')) :
    m'.Placed ∧ ∀ e, answer = .error e → e.Lands := by
  obtain ⟨a, hr', rfl⟩ | ⟨reason, m₁, hr', rfl, rfl⟩ := settle_eq_some hr
  · exact ⟨(hx m _ _ hm hr').1, fun _ h => absurd h (by simp)⟩
  · obtain ⟨hm₁, hlands⟩ := hx m _ _ hm hr'
    refine ⟨⟨hm₁.bound.discardLocals, List.forall_mem_nil _⟩, fun e he => ?_⟩
    obtain rfl := Except.error.inj he
    -- A reversal that nothing took is a failure of its own.
    cases reason with
    | reversal payload => exact fun j h => absurd h (by simp [Stop.toFailure])
    | failure e => exact hlands

variable (hkeeps : host.Keeps Value.Placed)
  (hlands : ∀ key, (host.native key).Fails (fun _ => True) Failure.Lands) {fuel : Nat}
include hkeeps hlands

theorem declare {d : Decl} (hd : d.Placed) {answer : Except Failure Unit}
    (hr : m.declare host fuel d = some (answer, m')) :
    m'.Placed ∧ ∀ e, answer = .error e → e.Lands :=
  hm.settle ((Evaluator.places hkeeps hlands fuel).declaration hd) hr

theorem load {ds : List Decl} (hds : ∀ d ∈ ds, d.Placed) {answer : Except Failure Unit}
    (hr : m.load host fuel ds = some (answer, m')) :
    m'.Placed ∧ ∀ e, answer = .error e → e.Lands := by
  induction ds generalizing m with
  | nil =>
    obtain ⟨rfl, rfl⟩ := load_nil_eq_some hr
    exact ⟨hm, fun _ h => absurd h (by simp)⟩
  | cons d ds ih =>
    obtain ⟨hd, hds⟩ := List.forall_mem_cons.1 hds
    obtain ⟨m₁, hr', hr⟩ | hr := load_cons_eq_some hr
    · exact ih (hm.declare hkeeps hlands hd hr').1 hds hr
    · exact hm.declare hkeeps hlands hd hr

theorem callFound {f : Except Failure Value} (hf : ∀ v, f = .ok v → v.Placed)
    (hfail : ∀ e, f = .error e → e.Lands) {args : List Value} (hargs : ∀ v ∈ args, v.Placed)
    {answer : Except Failure Value} (hr : m.callFound host fuel f args = some (answer, m')) :
    m'.Placed ∧ ∀ e, answer = .error e → e.Lands := by
  cases f with
  | ok f =>
    exact hm.settle ((Evaluator.places hkeeps hlands fuel).callValue hkeeps hlands (hf f rfl) hargs)
      hr
  | error e =>
    obtain ⟨rfl, rfl⟩ := Prod.mk.inj (Option.some.inj hr)
    exact ⟨hm, fun e' he => hfail e' (by rw [Except.error.inj he])⟩

/-- Whatever is asked for, no jump is what makes the request fail. -/
theorem serve {q : Request} (hq : q.Placed) {answer : Answer}
    (hr : m.serve host fuel q = some (answer, m')) :
    m'.Placed ∧ ∀ e, answer = .error e → e.Lands := by
  have hanswered : ∀ {β : Type} {value : β → Option Value} {x : Except Failure β},
      answer = x.map value → (∀ e, x = .error e → e.Lands) → ∀ e, answer = .error e → e.Lands := by
    rintro β value (e' | b) rfl hx e he
    · exact hx e (by rw [Except.error.inj he])
    · exact absurd he (by simp [Except.map])
  cases q with
  | declare d =>
    obtain ⟨x, hr, hx⟩ := exists_of_answered hr
    exact (hm.declare hkeeps hlands hq hr).imp_right (hanswered hx)
  | load ds =>
    obtain ⟨x, hr, hx⟩ := exists_of_answered hr
    exact (hm.load hkeeps hlands hq hr).imp_right (hanswered hx)
  | runMain =>
    obtain ⟨x, hr, hx⟩ := exists_of_answered hr
    refine (hm.callFound hkeeps hlands (fun _ => obey_mainFunction hm.bound) (fun e he => ?_)
      (fun _ h => absurd h List.not_mem_nil) hr).imp_right (hanswered hx)
    rcases Failure.of_bind he with he | ⟨o, -, he⟩
    · exact (Scopes.missing_of_getLocal he).lands
    · split at he
      · exact absurd he (by simp)
      · exact Except.error.inj he ▸ fun _ h => absurd h (by simp)
  | call name args =>
    obtain ⟨x, hr, hx⟩ := exists_of_answered hr
    exact (hm.callFound hkeeps hlands (fun _ hv => hm.bound.get hv)
      (fun _ he => (Scopes.missing_of_get he).lands) hq hr).imp_right (hanswered hx)
  | registerNative | registerVariadic =>
    obtain ⟨rfl, rfl⟩ := Prod.mk.inj (Option.some.inj hr)
    exact ⟨⟨hm.bound.defineGlobal (Value.closed_placed.native _), hm.crumbs⟩,
      fun _ h => absurd h (by simp)⟩

theorem serveAll {qs : List (Nat × Request)} (hqs : ∀ q ∈ qs, q.2.Placed) :
    ∀ answer ∈ (m.serveAll host qs).1, ∀ e, answer = .error e → e.Lands := by
  induction qs generalizing m with
  | nil => exact List.forall_mem_nil _
  | cons q qs ih =>
    obtain ⟨fuel, q⟩ := q
    obtain ⟨hq, hqs⟩ := List.forall_mem_cons.1 hqs
    rw [Machine.serveAll]
    cases hr : m.serve host fuel q with
    | none => exact List.forall_mem_nil _
    | some p =>
      obtain ⟨hm', hanswer⟩ := hm.serve hkeeps hlands hq hr
      exact List.forall_mem_cons.2 ⟨hanswer, ih hm' hqs⟩

end Placed

end Machine

/-- If all jumps in what is handed over are placed, and native functions of the host do not fail
    as if they were jumps, then no request is answered with a misplaced jump. -/
theorem Session.jumps_land {host : Host} (hkeeps : host.Keeps Value.Placed)
    (hlands : ∀ key, (host.native key).Fails (fun _ => True) Failure.Lands) (settings : Settings)
    (files : Files) {qs : List (Nat × Request)} (hqs : ∀ q ∈ qs, q.2.Placed) :
    ∀ answer ∈ ((Machine.initial settings files).serveAll host qs).1, ∀ j,
      answer ≠ .error (.misplacedJump j) :=
  fun answer hanswer j h =>
    (Machine.placed_initial settings files).serveAll hkeeps hlands hqs answer hanswer _ h j rfl

/-- A loop that is left by a `break` in a skip. Before that it goes through a switch, whose first
    clause falls through into one that is left by a `break` in a seize. -/
def Session.jumping : Stmt :=
  ⟨.loop none (.literal .truth "true") none
    [⟨.switch (.literal .int "1")
      [⟨some (.literal .int "1"), [⟨.jump .fallthrough, .unknown⟩]⟩,
        ⟨none, [⟨.skip [⟨.reverse (.literal .int "2"), .unknown⟩]
          [⟨none, [⟨.jump .leave, .unknown⟩]⟩], .unknown⟩]⟩], .unknown⟩,
    ⟨.skip [⟨.jump .leave, .unknown⟩] [], .unknown⟩], .unknown⟩

/-- Such a loop is run in the main function, before it returns. -/
def Session.jumpingRequests : List (Nat × Request) :=
  [(9, .declare (.function "main" [] [jumping, ⟨.ret (some (.literal .int "7")), .unknown⟩])),
    (9, .runMain)]

theorem Session.placed_jumping : jumping.Placed false := by
  have hleave : ∀ s ∈ [(⟨.jump .leave, .unknown⟩ : Stmt)], s.Placed true :=
    List.forall_mem_singleton.2 .leave
  have hseize : ∀ s ∈ withoutFallthrough [⟨.skip [⟨.reverse (.literal .int "2"), .unknown⟩]
      [⟨none, [⟨.jump .leave, .unknown⟩]⟩], .unknown⟩], s.Placed true :=
    List.forall_mem_singleton.2 (.skip (List.forall_mem_singleton.2 .reverse)
      (List.forall_mem_singleton.2 hleave))
  have hswitch : ∀ c ∈ [(⟨some (.literal .int "1"), [⟨.jump .fallthrough, .unknown⟩]⟩ : Case),
      ⟨none, [⟨.skip [⟨.reverse (.literal .int "2"), .unknown⟩]
        [⟨none, [⟨.jump .leave, .unknown⟩]⟩], .unknown⟩]⟩],
      ∀ s ∈ withoutFallthrough c.body, s.Placed true :=
    List.forall_mem_cons.2 ⟨List.forall_mem_nil _, List.forall_mem_singleton.2 hseize⟩
  exact .loop (List.forall_mem_nil _)
    (List.forall_mem_cons.2 ⟨.switch hswitch, List.forall_mem_singleton.2
      (.skip hleave (List.forall_mem_nil _))⟩)

/-- Whether a value was asked for, and there is one that satisfies `p`. -/
def Answer.holds (p : Value → Bool) : Answer → Bool
  | .ok (some v) => p v
  | _ => false

theorem Session.jumps_land_jumping :
    ∃ answers m, Machine.bare.serveAll .bare jumpingRequests = (answers, some m) ∧
      answers.any (Answer.holds (·.equals (.int 7))) ∧
      ∀ answer ∈ answers, ∀ j, answer ≠ .error (.misplacedJump j) := by
  have h : (Machine.bare.serveAll .bare jumpingRequests).1.any
      (Answer.holds (·.equals (.int 7))) &&
      (Machine.bare.serveAll .bare jumpingRequests).2.isSome := by decide +kernel
  obtain ⟨hanswers, hlast⟩ := Bool.and_eq_true_iff.1 h
  have hmain : Decl.Placed
      (.function "main" [] [jumping, ⟨.ret (some (.literal .int "7")), .unknown⟩]) :=
    .function (List.forall_mem_cons.2 ⟨placed_jumping, List.forall_mem_singleton.2 .ret⟩)
  have hqs : ∀ q ∈ jumpingRequests, q.2.Placed :=
    List.forall_mem_cons.2 ⟨hmain, List.forall_mem_singleton.2 trivial⟩
  have hlands := jumps_land (Host.bare_keeps _)
    (fun _ => .fail fun _ h => absurd h (by simp)) .default .bare hqs
  clear h
  generalize Machine.bare.serveAll .bare jumpingRequests = ran at *
  obtain ⟨answers, last⟩ := ran
  obtain ⟨m, rfl⟩ := Option.isSome_iff_exists.1 hlast
  exact ⟨answers, m, rfl, hanswers, hlands⟩

end Retrace
