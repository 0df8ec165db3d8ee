import Retrace.Proofs.Mirroring
import Retrace.Proofs.Requests

/-!
# Skips are transparent

Without reversals a program does the same as when it is written without skips. At
each node of a program the run mirrors that of the same node without skips if the
runs of its parts do (`Evaluator.Transparent`); a skip is mirrored by the block with
its body, as nothing is restored when it is left. So evaluation is transparent,
whatever the fuel, by induction on it (`Evaluator.transparent`).
-/

namespace Retrace

open Run (Mirrors)

/-- An evaluator whose runs of statements that do not reverse are mirrored by those of the
    statements without skips. -/
structure Evaluator.Transparent (r : Evaluator) : Prop where
  eval : ∀ e, Mirrors Value.skipless Value.ReverseFree (r.eval e) (r.eval e)
  exec : ∀ {s : Stmt}, s.ReverseFree →
    Mirrors Flow.skipless (Flow.Obey Value.ReverseFree) (r.exec s) (r.exec s.skipless)

namespace Evaluator.Transparent

variable {r : Evaluator} (hr : r.Transparent)
include hr

/-! ### Several parts one after the other -/

theorem evalAll (es : List Expr) :
    Mirrors (List.map Value.skipless) (fun vs => ∀ v ∈ vs, v.ReverseFree) (r.evalAll es)
      (r.evalAll es) := by
  induction es with
  | nil => exact .pure [] fun _ h => absurd h List.not_mem_nil
  | cons e es ih =>
    exact .bind (hr.eval e) fun v hv => .bind ih fun vs hvs =>
      .pure (v :: vs) (List.forall_mem_cons.2 ⟨hv, hvs⟩)

theorem evalEntries (es : List (Expr × Expr)) :
    Mirrors (Entries.mapBodies Stmt.skiplessAll)
      (fun fs => ∀ f ∈ fs, f.1.ReverseFree ∧ f.2.ReverseFree) (r.evalEntries es)
      (r.evalEntries es) := by
  induction es with
  | nil => exact .pure [] fun _ h => absurd h List.not_mem_nil
  | cons e es ih =>
    exact .bind (hr.eval e.1) fun k hk => .bind (hr.eval e.2) fun v hv => .bind ih fun fs hfs =>
      .pure ((k, v) :: fs) (List.forall_mem_cons.2 ⟨⟨hk, hv⟩, hfs⟩)

theorem condition (e : Expr) :
    Mirrors (fun b => b) (fun _ => True) (r.condition e) (r.condition e) :=
  .bind (hr.eval e) fun v _ => .ofExcept (v.expectBool_mapBodies _) fun _ _ => trivial

theorem execAll {b : Block} (hb : ∀ s ∈ b, s.ReverseFree) :
    Mirrors Flow.skipless (Flow.Obey Value.ReverseFree) (r.execAll b)
      (r.execAll (Stmt.skiplessAll b)) := by
  induction b with
  | nil => exact .pure Flow.normal trivial
  | cons s b ih =>
    obtain ⟨hs, hb⟩ := List.forall_mem_cons.1 hb
    rw [Stmt.skiplessAll]
    refine .bind (hr.exec hs) fun flow hflow => ?_
    cases flow with
    | normal => exact ih hb
    | jump j => exact .pure (Flow.jump j) trivial
    | returned v => exact .pure (Flow.returned v) hflow

theorem block {b : Block} (hb : ∀ s ∈ b, s.ReverseFree) :
    Mirrors Flow.skipless (Flow.Obey Value.ReverseFree) (r.block b)
      (r.block (Stmt.skiplessAll b)) :=
  .inBlock (hr.execAll hb)

theorem target (e : Expr) :
    Mirrors (Target.mapBodies Stmt.skiplessAll) (fun t => ∀ k ∈ t.path, k.ReverseFree)
      (r.target e) (r.target e) := by
  fun_induction Evaluator.target r e with
  | case1 name => exact .pure (Target.mk name []) fun _ h => absurd h List.not_mem_nil
  | case2 inner ih => exact ih
  | case3 container key ih =>
    refine .bind ih fun t ht => .bind (hr.eval key) fun k hk => ?_
    rw [← Target.mapBodies_push]
    exact .pure (t.push k) (List.forall_mem_append.2 ⟨ht, List.forall_mem_singleton.2 hk⟩)
  | case4 object name ih =>
    refine .bind ih fun t ht => ?_
    have hname : (Value.str name).skipless = .str name := Value.mapBodies_of_isAtom _ rfl
    rw [← hname, ← Target.mapBodies_push]
    exact .pure (t.push (.str name)) (List.forall_mem_append.2 ⟨ht, List.forall_mem_singleton.2
      (Value.closed_reverseFree.atom rfl)⟩)
  | case5 => exact .fail trivial

/-! ### Expressions -/

variable {host : Host} (hkeeps : host.Keeps Value.ReverseFree)
  (hblind : host.Blind Stmt.skiplessAll)

theorem callFunction {f : Function} (hf : ∀ s ∈ f.body, s.ReverseFree) {args : List Value}
    (hargs : ∀ v ∈ args, v.ReverseFree) :
    Mirrors Value.skipless Value.ReverseFree (r.callFunction f args)
      (r.callFunction { f with body := Stmt.skiplessAll f.body } (args.map Value.skipless)) := by
  rw [Evaluator.callFunction, Evaluator.callFunction, List.length_map]
  split
  · exact .fail trivial
  · have hbody : Mirrors Flow.skipless (Flow.Obey Value.ReverseFree)
        (Run.declareAll (f.params.zip args) >>= fun _ => r.execAll f.body)
        (Run.declareAll (f.params.zip (args.map Value.skipless)) >>= fun _ =>
          r.execAll (Stmt.skiplessAll f.body)) := by
      rw [List.zip_map_right]
      exact .bind (.declareAll fun b hb => hargs _ (List.of_mem_zip hb).2) fun _ _ => hr.execAll hf
    refine .bind (.inCall hbody) fun flow hflow => ?_
    -- A body that does not return gives void, and a jump out of it fails.
    cases flow with
    | normal => exact .pure Value.void (Value.closed_reverseFree.atom rfl)
    | jump j => exact .fail trivial
    | returned v => exact .pure v hflow

omit hr in
include hkeeps hblind in
theorem callNative (f : NativeFunction) {args : List Value} (hargs : ∀ v ∈ args, v.ReverseFree) :
    Mirrors Value.skipless Value.ReverseFree (callNative host f args)
      (callNative host f (args.map Value.skipless)) := by
  rw [Evaluator.callNative, Evaluator.callNative, List.length_map]
  split
  · exact .fail trivial
  · have hbinds : ∀ b ∈ f.bindArgs args, b.2.ReverseFree := by
      intro b hb
      rw [NativeFunction.bindArgs] at hb
      split at hb <;> exact hargs _ (List.of_mem_zip hb).2
    rw [f.bindArgs_map]
    exact .inCall (.bind (.declareAll hbinds) fun _ _ => .native hkeeps hblind f.code args.length)

include hkeeps hblind

theorem callValue {f : Value} (hf : f.ReverseFree) {args : List Value}
    (hargs : ∀ v ∈ args, v.ReverseFree) :
    Mirrors Value.skipless Value.ReverseFree (r.callValue host f args)
      (r.callValue host f.skipless (args.map Value.skipless)) := by
  cases f with
  | function f => exact hr.callFunction (hf f .self) hargs
  | native f => exact callNative hkeeps hblind f hargs
  | _ =>
    rw [Value.skipless, Value.mapBodies]
    exact .fail trivial

theorem call (callee : Expr) (args : List Expr) :
    Mirrors Value.skipless Value.ReverseFree (r.call host callee args)
      (r.call host callee args) := by
  refine .bind (hr.eval callee) fun f hf => ?_
  rw [Value.isCallable_mapBodies, Failure.unexpected_mapBodies]
  split
  · exact .bind (hr.evalAll args) fun vs hvs => hr.callValue hkeeps hblind hf hvs
  · exact .fail trivial

/-- Every kind of expression is mirrored by itself. -/
theorem expression (e : Expr) :
    Mirrors Value.skipless Value.ReverseFree (r.expression host e) (r.expression host e) := by
  have hD : Discipline.reverseFree.value = Value.ReverseFree := rfl
  cases e with
  | literal kind lexeme =>
    exact .ofExcept (Value.ofLiteral_mapBodies ..) fun v hv =>
      Value.closed_reverseFree.atom (Value.isAtom_of_ofLiteral hv)
  | ident name => exact .lookup name
  | group inner => exact hr.eval inner
  | unary op operand =>
    exact .bind (hr.eval operand) fun v _ => .ofExcept (Value.unary_mapBodies ..) fun w hw =>
      Value.closed_reverseFree.atom (Value.isAtom_of_unary hw)
  | binary op left right =>
    exact .bind (hr.eval left) fun a _ => .bind (hr.eval right) fun b _ =>
      .ofExcept (Value.binary_mapBodies ..) fun w hw =>
        Value.closed_reverseFree.atom (Value.isAtom_of_binary hw)
  | call callee args => exact hr.call hkeeps hblind callee args
  | field object name =>
    exact .bind (hr.eval object) fun v hv => .ofExcept (Value.field_mapBodies ..) fun w hw =>
      Value.closed_reverseFree.field hv hw
  | index container key =>
    exact .bind (hr.eval container) fun v hv => .bind (hr.eval key) fun k _ =>
      .ofExcept (Value.index_mapBodies ..) fun w hw =>
        Value.closed_reverseFree.index hv hw
  | list items =>
    refine .bind (hr.evalAll items) fun vs hvs => ?_
    rw [Entries.ofItems_mapBodies, ← Value.mapBodies]
    exact .pure (Value.map (Entries.ofItems vs)) (Value.closed_reverseFree.ofItems hvs)
  | map entries =>
    refine .bind (hr.evalEntries entries) fun es hes => ?_
    rw [Entries.ofList_mapBodies, ← Value.mapBodies]
    exact .pure (Value.map (Entries.ofList es)) (Value.closed_reverseFree.ofList hes)

omit hkeeps hblind

/-! ### Statements -/

theorem assign (target : Expr) (op : AssignOp) (value : Expr) :
    Mirrors (fun u => u) (fun _ => True) (r.assign target op value) (r.assign target op value) := by
  refine .bind (hr.target target) fun t ht => .bind (hr.eval value) fun v hv => ?_
  cases op.binary? with
  | none => exact .store ht hv
  | some op =>
    refine .bind (.readTarget t) fun old _ => .bind (.ofExcept (Value.binary_mapBodies ..)
      fun new hnew => ?_) fun new hnew => .store ht hnew
    exact Value.closed_reverseFree.atom (Value.isAtom_of_binary hnew)

theorem step (target : Expr) (op : StepOp) :
    Mirrors (fun u => u) (fun _ => True) (r.step target op) (r.step target op) := by
  refine .bind (hr.target target) fun t ht => .bind (.readTarget t) fun old _ =>
    .bind (.ofExcept (Value.step_mapBodies ..) fun new hnew => ?_) fun new hnew => .store ht hnew
  exact Value.closed_reverseFree.atom (Value.isAtom_of_step hnew)

theorem declareVariable (d : VarDecl) :
    Mirrors (fun u => u) (fun _ => True) (r.declareVariable d) (r.declareVariable d) := by
  rw [Evaluator.declareVariable]
  split
  · exact .bind (hr.eval _) fun v hv => .declare d.name hv
  · exact .declare d.name (v := .void) (Value.closed_reverseFree.atom rfl)

theorem declaration {d : Decl} (hd : ∀ s ∈ (Action.declare d).parts, s.ReverseFree) :
    Mirrors (fun u => u) (fun _ => True) (r.declaration d) (r.declaration d.skipless) := by
  cases d with
  | function name params body =>
    rw [Decl.skipless]
    exact .declare name (v := .function ⟨name, params, body⟩)
      (Discipline.reverseFree.function.2 hd)
  | «variable» d => exact hr.declareVariable d
  | classLike name members => exact .pure () trivial

theorem branch {arms : List Arm} {otherwise : Option Block}
    (harms : ∀ a ∈ arms, ∀ s ∈ a.body, s.ReverseFree)
    (hotherwise : ∀ s ∈ otherwise.getD [], s.ReverseFree) :
    Mirrors Flow.skipless (Flow.Obey Value.ReverseFree) (r.branch otherwise arms)
      (r.branch (Stmt.skiplessElse otherwise) (Stmt.skiplessArms arms)) := by
  induction arms with
  | nil =>
    cases otherwise with
    | none => exact .pure Flow.normal trivial
    | some b => exact hr.block hotherwise
  | cons a arms ih =>
    obtain ⟨ha, harms⟩ := List.forall_mem_cons.1 harms
    refine .bind (hr.condition a.trigger) fun holds _ => ?_
    cases holds with
    | true => exact hr.block ha
    | false => exact ih harms

theorem select {P : Case → Prop} (subject : Value) (kept : Option (List Case)) {cases : List Case}
    (hcases : ∀ c ∈ cases, P c) (hkept : ∀ c ∈ kept.getD [], P c) :
    Mirrors Stmt.skiplessCases (fun chosen => ∀ c ∈ chosen, P c) (r.select subject kept cases)
      (r.select subject.skipless (kept.map Stmt.skiplessCases) (Stmt.skiplessCases cases)) := by
  induction cases generalizing kept with
  | nil =>
    cases kept with
    | none => exact .pure [] hkept
    | some kept => exact .pure kept hkept
  | cons c cases ih =>
    obtain ⟨trigger, body⟩ := c
    have htail := (List.forall_mem_cons.1 hcases).2
    cases trigger with
    | none =>
      -- The default clause is only kept for when no other one is chosen.
      cases kept with
      | none => exact ih (some (⟨none, body⟩ :: cases)) htail hcases
      | some kept => exact ih (some kept) htail hkept
    | some value =>
      refine .bind (hr.eval value) fun v _ => ?_
      rw [Value.equals_mapBodies]
      split
      · exact .pure (V := fun chosen => ∀ c ∈ chosen, P c) (⟨some value, body⟩ :: cases) hcases
      · exact ih kept htail hkept

theorem fallInto {cases : List Case} (hcases : ∀ c ∈ cases, ∀ s ∈ c.body, s.ReverseFree) :
    Mirrors Flow.skipless (Flow.Obey Value.ReverseFree) (r.fallInto cases)
      (r.fallInto (Stmt.skiplessCases cases)) := by
  induction cases with
  | nil => exact .pure Flow.normal trivial
  | cons c cases ih =>
    obtain ⟨hc, hcases⟩ := List.forall_mem_cons.1 hcases
    refine .bind (hr.block hc) fun flow hflow => ?_
    match flow with
    | .normal => exact .pure Flow.normal trivial
    | .jump .leave => exact .pure Flow.normal trivial
    | .jump .fallthrough =>
      -- Whether it is the last statement of the clause is seen in both clauses alike.
      simp only [Flow.skipless, Flow.mapBodies, endsWithFallthrough_skiplessAll]
      split
      · exact ih hcases
      · exact .fail trivial
    | .returned v => exact .pure (Flow.returned v) hflow

theorem switch (subject : Expr) {cases : List Case}
    (hcases : ∀ c ∈ cases, ∀ s ∈ c.body, s.ReverseFree) :
    Mirrors Flow.skipless (Flow.Obey Value.ReverseFree) (r.switch subject cases)
      (r.switch subject (Stmt.skiplessCases cases)) :=
  .bind (hr.eval subject) fun v _ =>
    .bind (hr.select v none hcases fun _ h => absurd h List.not_mem_nil)
      fun _ hchosen => hr.fallInto hchosen

theorem increment {increment : Option Stmt} (h : ∀ s ∈ increment.toList, s.ReverseFree) :
    Mirrors (fun u => u) (fun _ => True) (r.increment increment)
      (r.increment (Stmt.skiplessIncrement increment)) := by
  cases increment with
  | none => exact .pure () trivial
  | some s =>
    exact .bind (hr.exec (h s (List.mem_singleton_self s))) fun _ _ => .pure () trivial

theorem iterate (condition : Expr) {increment : Option Stmt} {body : Block}
    (hincrement : ∀ s ∈ increment.toList, s.ReverseFree) (hbody : ∀ s ∈ body, s.ReverseFree)
    (n : Nat) :
    Mirrors Flow.skipless (Flow.Obey Value.ReverseFree) (r.iterate condition increment body n)
      (r.iterate condition (Stmt.skiplessIncrement increment) (Stmt.skiplessAll body) n) := by
  induction n with
  | zero => exact .starved
  | succ n ih =>
    refine .bind (hr.condition condition) fun holds _ => ?_
    cases holds with
    | false => exact .pure Flow.normal trivial
    | true =>
      refine .bind (hr.block hbody) fun flow hflow => ?_
      match flow with
      | .normal => exact .bind (hr.increment hincrement) fun _ _ => ih
      | .jump .leave => exact .pure Flow.normal trivial
      | .jump .fallthrough => exact .fail trivial
      | .returned v => exact .pure (Flow.returned v) hflow

theorem loop (init : Option VarDecl) (condition : Expr) {increment : Option Stmt} {body : Block}
    (hincrement : ∀ s ∈ increment.toList, s.ReverseFree) (hbody : ∀ s ∈ body, s.ReverseFree) :
    Mirrors Flow.skipless (Flow.Obey Value.ReverseFree) (r.loop init condition increment body)
      (r.loop init condition (Stmt.skiplessIncrement increment) (Stmt.skiplessAll body)) := by
  have hiterate := hr.iterate condition hincrement hbody r.rounds
  refine .inBlock ?_
  cases init with
  | none => exact hiterate
  | some d => exact .bind (hr.declareVariable d) fun _ _ => hiterate

/-- What undoes an expression is recorded, and that is all that becomes of it. -/
theorem effect (e : Expr) (undo : Option Stmt) :
    Mirrors (fun u => u) (fun _ => True) (r.effect e undo) (r.effect e none) := by
  refine .bind (hr.eval e) fun _ _ => ?_
  cases undo with
  | none => exact .pure () trivial
  | some s =>
    intro m hm
    exact Mirrors.record_pure (.replay m.current s) m hm

/-- A skip does the same as the block with its body. -/
theorem skip {body : Block} (hbody : ∀ s ∈ body, s.ReverseFree) (seizes : List Seize) :
    Mirrors Flow.skipless (Flow.Obey Value.ReverseFree) (r.skip body seizes)
      (r.block (Stmt.skiplessAll body)) := by
  intro m hm
  rw [Evaluator.skip, Run.bind_apply, Run.read]
  dsimp only
  rw [Run.bind_apply, Run.openSkip]
  cases hopen : m.ledger.openSkip m.scopes.nextSerial with
  | error e =>
    rw [Ledger.openSkip_eq_error hopen]
    exact .exceeded
  | ok p =>
    obtain ⟨marker, l⟩ := p
    have hblock : Run.Mirrored Flow.skipless (Flow.Obey Value.ReverseFree)
        (r.block body { m with ledger := l }) (r.block (Stmt.skiplessAll body) m.skipless) :=
      hr.block hbody { m with ledger := l } ⟨hm.reversing, hm.bound⟩
    dsimp only
    rw [Run.bind_apply, Run.attempt]
    generalize r.block body { m with ledger := l } = o,
      r.block (Stmt.skiplessAll body) m.skipless = o' at hblock ⊢
    -- Only the ledger tells in which way the skip is resolved.
    cases hblock with
    | @value flow m₁ hflow hm₁ =>
      cases flow with
      | normal | jump j => exact .value (m := m₁.closeSkip marker) hflow ⟨hm₁.reversing, hm₁.bound⟩
      | returned v => exact .value (m := m₁.discardSkip marker) hflow ⟨hm₁.reversing, hm₁.bound⟩
    | @failure e m₁ hm₁ =>
      exact .failure (m := m₁.discardSkip marker) ⟨hm₁.reversing, hm₁.bound⟩
    | exceeded => exact .exceeded
    | starved => exact .starved

/-- Every kind of statement is mirrored by the same one without skips. -/
theorem statement {s : Stmt} (hs : s.ReverseFree) :
    Mirrors Flow.skipless (Flow.Obey Value.ReverseFree) (r.statement s)
      (r.statement s.skipless) := by
  obtain ⟨action, l⟩ := s
  refine .bind (.setLocation l) fun _ _ => ?_
  have hparts := hs.parts
  cases action with
  | block b => exact hr.block hparts
  | expr e undo => exact .bind (hr.effect e undo) fun _ _ => .pure Flow.normal trivial
  | ret value =>
    cases value with
    | none => exact .pure (Flow.returned .void) (Value.closed_reverseFree.atom rfl)
    | some e => exact .bind (hr.eval e) fun v hv => .pure (Flow.returned v) hv
  | declare d => exact .bind (hr.declaration hparts) fun _ _ => .pure Flow.normal trivial
  | assign target op value =>
    exact .bind (hr.assign target op value) fun _ _ => .pure Flow.normal trivial
  | step target op => exact .bind (hr.step target op) fun _ _ => .pure Flow.normal trivial
  | loop init condition increment body =>
    obtain ⟨hincrement, hbody⟩ := List.forall_mem_append.1 hparts
    exact hr.loop init condition hincrement hbody
  | branch arms otherwise =>
    obtain ⟨harms, hotherwise⟩ := List.forall_mem_append.1 hparts
    exact hr.branch (fun a ha s hs => harms s (List.mem_flatMap.2 ⟨a, ha, hs⟩)) hotherwise
  | jump j => exact .pure (Flow.jump j) trivial
  | switch subject cases =>
    exact hr.switch subject fun c hc s hs => hparts s (List.mem_flatMap.2 ⟨c, hc, hs⟩)
  | skip body seizes => exact hr.skip (List.forall_mem_append.1 hparts).1 seizes
  | reverse payload => exact absurd rfl (hs.action payload)

end Evaluator.Transparent

/-- Evaluation is transparent, whatever the fuel. -/
theorem Evaluator.transparent {host : Host} (hkeeps : host.Keeps Value.ReverseFree)
    (hblind : host.Blind Stmt.skiplessAll) (fuel : Nat) : (evaluator host fuel).Transparent := by
  -- The induction is on the fuel, as a node is run with one unit more than its parts.
  induction fuel with
  | zero => exact ⟨fun _ => .starved, fun _ => .starved⟩
  | succ fuel ih => exact ⟨ih.expression hkeeps hblind, ih.statement⟩

end Retrace
