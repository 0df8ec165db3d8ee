import Retrace.Proofs.Halting
import Retrace.Proofs.Undoless
import Retrace.Proofs.Storing

/-!
# Compound assignments

A compound assignment reads what is stored at its target along the keys it has
evaluated; the assignment it stands for evaluates the target as an expression,
and so the keys once more. As long as no call is made, evaluating changes
nothing, and gives the same every time: the runs *yield* a value or a failure
(`Yields`), whatever the fuel, if it is enough for them to end. So the keys are
the same both times. Where both ways of reading succeed they read the same
(`Expr.Assignable.yields`), although a string may be indexed with a key along the
way but has no fields.

What is stored then is the same too, at the same target and in the same machine,
and if anything fails, nothing has been stored. So a compound assignment and the
assignment it stands for agree (`Expr.Assignable.agrees`), and in this way
counting agrees with adding or subtracting one.
-/

namespace Retrace

/-- Whether it is a name, perhaps followed by indices and fields, and no call occurs in the
    indices. -/
inductive Expr.Assignable : Expr → Prop
  | ident (name : String) : Assignable (.ident name)
  | group {inner : Expr} : Assignable inner → Assignable (.group inner)
  | index {container key : Expr} :
      Assignable container → key.CallFree → Assignable (.index container key)
  | field {object : Expr} (name : String) : Assignable object → Assignable (.field object name)

/-- The compound assignment, of one, that counts in the same way. -/
def StepOp.compound : StepOp → AssignOp
  | .increment => .add
  | .decrement => .sub

/-- To count is to combine with one. -/
theorem StepOp.exists_operator (op : StepOp) :
    ∃ operator, op.compound.binary? = some operator ∧
      ∀ v : Value, v.step op = v.binary operator (.int 1) := by
  cases op
  · exact ⟨.add, rfl, fun _ => rfl⟩
  · exact ⟨.sub, rfl, fun _ => rfl⟩

/-! ### Runs with enough fuel -/

section Outcomes

variable {α β : Type} {x : Nat → Run α} {m m' : Machine} {a : Except Failure α}

/-- From `m` on the runs end in the given way, except that they may lack the fuel to. -/
structure Outcome (x : Nat → Run α) (m : Machine) (out : Except Stop α × Machine) : Prop where
  ends : ∃ enough, ∀ fuel, enough ≤ fuel → x fuel m = some out
  only : ∀ fuel p, x fuel m = some p → p = out

/-- From `m` on the runs give a value or fail, and change nothing. -/
def Yields (x : Nat → Run α) (m : Machine) (a : Except Failure α) : Prop :=
  Outcome x m (a.mapError .failure, m)

namespace Outcome

variable {out : Except Stop β × Machine}

theorem of_eq {x : Run β} (h : x m = some out) : Outcome (fun _ => x) m out where
  ends := ⟨0, fun _ _ => h⟩
  only _ _ hp := Option.some.inj (hp.symm.trans h)

/-- Runs that need one unit of fuel more. -/
theorem of_succ {x : Nat → Run β} (hzero : x 0 m = none)
    (h : Outcome (fun fuel => x (fuel + 1)) m out) : Outcome x m out where
  ends := by
    obtain ⟨enough, hends⟩ := h.ends
    refine ⟨enough + 1, fun fuel hfuel => ?_⟩
    obtain ⟨fuel, rfl⟩ := Nat.exists_eq_add_of_le' (Nat.le_trans (Nat.le_add_left 1 _) hfuel)
    exact hends fuel (Nat.le_of_succ_le_succ hfuel)
  only fuel p hp := by
    cases fuel with
    | zero => exact absurd (hzero.symm.trans hp) (by simp)
    | succ fuel => exact h.only fuel p hp

theorem bind {f : Nat → α → Run β} {v : α} (hx : Outcome x m (.ok v, m'))
    (hf : Outcome (fun fuel => f fuel v) m' out) :
    Outcome (fun fuel => x fuel >>= f fuel) m out where
  ends := by
    obtain ⟨enough, hends⟩ := hx.ends
    obtain ⟨enough', hends'⟩ := hf.ends
    refine ⟨max enough enough', fun fuel hfuel => ?_⟩
    rw [Run.bind_apply, hends fuel (Nat.le_trans (Nat.le_max_left _ _) hfuel)]
    exact hends' fuel (Nat.le_trans (Nat.le_max_right _ _) hfuel)
  only fuel p hp := by
    obtain ⟨r, m₂⟩ := p
    rcases Run.bind_eq_some hp with ⟨w, m₁, hw, hp⟩ | ⟨e, he, rfl⟩
    · obtain ⟨hv, rfl⟩ := Prod.mk.inj (hx.only fuel _ hw)
      obtain rfl := Except.ok.inj hv
      exact hf.only fuel _ hp
    · exact absurd (hx.only fuel _ he) (by simp)

theorem stop {f : Nat → α → Run β} {e : Stop} (hx : Outcome x m (.error e, m')) :
    Outcome (fun fuel => x fuel >>= f fuel) m (.error e, m') where
  ends := by
    obtain ⟨enough, hends⟩ := hx.ends
    exact ⟨enough, fun fuel hfuel => by rw [Run.bind_apply, hends fuel hfuel]⟩
  only fuel p hp := by
    obtain ⟨r, m₂⟩ := p
    rcases Run.bind_eq_some hp with ⟨w, m₁, hw, -⟩ | ⟨e', he, rfl⟩
    · exact absurd (hx.only fuel _ hw) (by simp)
    · obtain ⟨hstop, rfl⟩ := Prod.mk.inj (hx.only fuel _ he)
      rw [Except.error.inj hstop]

end Outcome

namespace Yields

theorem query (f : Machine → Except Failure α) (m : Machine) :
    Yields (fun _ => Run.query f) m (f m) := by
  refine .of_eq ?_
  rw [Run.query]
  cases f m <;> rfl

theorem ofExcept (a : Except Failure α) (m : Machine) : Yields (fun _ => Run.ofExcept a) m a :=
  query (fun _ => a) m

theorem pure (v : α) (m : Machine) : Yields (fun _ => pure v) m (.ok v) :=
  ofExcept (.ok v) m

theorem bind {f : Nat → α → Run β} {g : α → Except Failure β} (hx : Yields x m a)
    (hf : ∀ v, a = .ok v → Yields (fun fuel => f fuel v) m (g v)) :
    Yields (fun fuel => x fuel >>= f fuel) m (a >>= g) := by
  cases a with
  | ok v => exact Outcome.bind hx (hf v rfl)
  | error e => exact Outcome.stop hx

end Yields

end Outcomes

/-! ### Expressions -/

section Expressions

variable {host : Host} {m : Machine}

/-- With one unit of fuel more an expression is evaluated by the meaning of its kind. -/
theorem Yields.eval {e : Expr} {a : Except Failure Value}
    (h : Yields (fun fuel => (evaluator host fuel).expression host e) m a) :
    Yields (fun fuel => (evaluator host fuel).eval e) m a :=
  .of_succ rfl h

theorem yields_evalAll {es : List Expr}
    (h : ∀ e ∈ es, ∃ a, Yields (fun fuel => (evaluator host fuel).eval e) m a) :
    ∃ a, Yields (fun fuel => (evaluator host fuel).evalAll es) m a := by
  induction es with
  | nil => exact ⟨_, .pure [] m⟩
  | cons e es ih =>
    obtain ⟨⟨a, ha⟩, hes⟩ := List.forall_mem_cons.1 h
    obtain ⟨as, has⟩ := ih hes
    exact ⟨_, ha.bind fun v _ => has.bind fun vs _ => .pure (v :: vs) m⟩

theorem yields_evalEntries {es : List (Expr × Expr)}
    (hkey : ∀ e ∈ es, ∃ a, Yields (fun fuel => (evaluator host fuel).eval e.1) m a)
    (hvalue : ∀ e ∈ es, ∃ a, Yields (fun fuel => (evaluator host fuel).eval e.2) m a) :
    ∃ a, Yields (fun fuel => (evaluator host fuel).evalEntries es) m a := by
  induction es with
  | nil => exact ⟨_, .pure [] m⟩
  | cons e es ih =>
    obtain ⟨⟨k, hk⟩, hkeys⟩ := List.forall_mem_cons.1 hkey
    obtain ⟨⟨v, hv⟩, hvalues⟩ := List.forall_mem_cons.1 hvalue
    obtain ⟨as, has⟩ := ih hkeys hvalues
    exact ⟨_, hk.bind fun k _ => hv.bind fun v _ => has.bind fun rest _ => .pure ((k, v) :: rest) m⟩

/-- Without a call an expression yields a value or a failure. -/
theorem Expr.CallFree.yields {e : Expr} (h : e.CallFree) (host : Host) (m : Machine) :
    ∃ a, Yields (fun fuel => (evaluator host fuel).eval e) m a := by
  induction h with
  | literal kind lexeme => exact ⟨_, .eval (.ofExcept _ m)⟩
  | ident name => exact ⟨_, .eval (.query _ m)⟩
  | group _ ih =>
    obtain ⟨a, ha⟩ := ih
    exact ⟨a, .eval ha⟩
  | unary op _ ih =>
    obtain ⟨a, ha⟩ := ih
    exact ⟨_, .eval (ha.bind fun v _ => .ofExcept (v.unary op) m)⟩
  | binary op _ _ ih ih' =>
    obtain ⟨a, ha⟩ := ih
    obtain ⟨b, hb⟩ := ih'
    exact ⟨_, .eval (ha.bind fun v _ => hb.bind fun w _ => .ofExcept (v.binary op w) m)⟩
  | field name _ ih =>
    obtain ⟨a, ha⟩ := ih
    exact ⟨_, .eval (ha.bind fun v _ => .ofExcept (v.field name) m)⟩
  | index _ _ ih ih' =>
    obtain ⟨a, ha⟩ := ih
    obtain ⟨b, hb⟩ := ih'
    exact ⟨_, .eval (ha.bind fun v _ => hb.bind fun k _ => .ofExcept (v.index k) m)⟩
  | list _ ih =>
    obtain ⟨a, ha⟩ := yields_evalAll ih
    exact ⟨_, .eval (ha.bind fun vs _ => .pure (Value.map (Entries.ofItems vs)) m)⟩
  | map _ _ ih ih' =>
    obtain ⟨a, ha⟩ := yields_evalEntries ih ih'
    exact ⟨_, .eval (ha.bind fun es _ => .pure (Value.map (Entries.ofList es)) m)⟩

end Expressions

/-! ### Reading at a target -/

/-- The last key leads on from what the others lead to. -/
theorem Value.readPath_concat (root : Value) (path : List Value) (key : Value) :
    root.readPath (path ++ [key]) = root.readPath path >>= fun v => v.index key := by
  induction path generalizing root with
  | nil =>
    rw [List.nil_append, readPath_cons]
    change _ = root.index key
    cases root.index key with
    | ok v => rfl
    | error e => rfl
  | cons k path ih =>
    rw [List.cons_append, readPath_cons, readPath_cons]
    cases root.index k with
    | ok v => exact ih v
    | error e => rfl

theorem Target.read_push (t : Target) (key : Value) (ss : Scopes) (id : ScopeId) :
    (t.push key).read ss id = t.read ss id >>= fun v => v.index key := by
  rw [read, read, push]
  cases ss.get id t.name with
  | ok root => exact root.readPath_concat t.path key
  | error e => rfl

/-- A field is an entry whose key is its name, and nothing but a map has any. -/
theorem Value.field_eq_ok_iff {v w : Value} {name : String} :
    v.field name = .ok w ↔ v.index (.str name) = .ok w := by
  cases v <;> simp [field, index]

/-- What is read at a target is what the target gives as an expression, if either can be read. -/
theorem Expr.Assignable.yields {e : Expr} (h : e.Assignable) (host : Host) (m : Machine) :
    ∃ target value, Yields (fun fuel => (evaluator host fuel).target e) m target ∧
      Yields (fun fuel => (evaluator host fuel).eval e) m value ∧
      ∀ v, value = .ok v ↔ ∃ t, target = .ok t ∧ t.read m.scopes m.current = .ok v := by
  induction h with
  | ident name =>
    refine ⟨.ok ⟨name, []⟩, _, .pure _ m, .eval (.query _ m), fun v => ?_⟩
    constructor
    · intro hv
      exact ⟨_, rfl, by rw [Target.read, hv]; rfl⟩
    · rintro ⟨t, ht, hv⟩
      obtain rfl := Except.ok.inj ht
      obtain ⟨bound, hbound, hv⟩ := Failure.exists_of_bind hv
      exact hbound.trans hv
  | group _ ih =>
    obtain ⟨target, value, htarget, hvalue, hread⟩ := ih
    exact ⟨target, value, htarget, .eval hvalue, hread⟩
  | @index container key _ hkey ih =>
    obtain ⟨target, value, htarget, hvalue, hread⟩ := ih
    obtain ⟨k, hk⟩ := hkey.yields host m
    refine ⟨_, _, htarget.bind fun t _ => hk.bind fun k _ => .pure (t.push k) m,
      .eval (hvalue.bind fun v _ => hk.bind fun k _ => .ofExcept (v.index k) m), fun v => ?_⟩
    simp only [Failure.bind_eq_ok_iff, hread]
    constructor
    · rintro ⟨w, ⟨t, ht, hw⟩, key, hkey, hv⟩
      refine ⟨t.push key, ⟨t, ht, key, hkey, rfl⟩, ?_⟩
      rw [Target.read_push, hw]
      exact hv
    · rintro ⟨t', ⟨t, ht, key, hkey, ht'⟩, hv⟩
      obtain rfl := Except.ok.inj ht'
      rw [Target.read_push] at hv
      obtain ⟨w, hw, hv⟩ := Failure.exists_of_bind hv
      exact ⟨w, ⟨t, ht, hw⟩, key, hkey, hv⟩
  | @field object name _ ih =>
    obtain ⟨target, value, htarget, hvalue, hread⟩ := ih
    refine ⟨_, _, htarget.bind fun t _ => .pure (t.push (.str name)) m,
      .eval (hvalue.bind fun v _ => .ofExcept (v.field name) m), fun v => ?_⟩
    simp only [Failure.bind_eq_ok_iff, hread, Value.field_eq_ok_iff]
    constructor
    · rintro ⟨w, ⟨t, ht, hw⟩, hv⟩
      refine ⟨t.push (.str name), ⟨t, ht, rfl⟩, ?_⟩
      rw [Target.read_push, hw]
      exact hv
    · rintro ⟨t', ⟨t, ht, ht'⟩, hv⟩
      obtain rfl := Except.ok.inj ht'
      rw [Target.read_push] at hv
      obtain ⟨w, hw, hv⟩ := Failure.exists_of_bind hv
      exact ⟨w, ⟨t, ht, hw⟩, hv⟩

/-! ### Storing -/

section Storing

variable {α : Type} {x y : Nat → Run Unit} {m : Machine} {a b : Except Failure (Target × Value)}

/-- From `m` on the runs come down to storing a value at a target, or fail before. -/
def Stores (x : Nat → Run Unit) (m : Machine) (a : Except Failure (Target × Value)) : Prop :=
  ∃ out, (Run.ofExcept a >>= fun p => Run.store p.1 p.2) m = some out ∧ Outcome x m out

namespace Stores

theorem store (t : Target) (v : Value) (m : Machine) :
    Stores (fun _ => Run.store t v) m (.ok (t, v)) := by
  obtain ⟨out, hout⟩ := Run.Total.store t v m
  exact ⟨out, hout, .of_eq hout⟩

theorem bind {x : Nat → Run α} {c : Except Failure α} {f : Nat → α → Run Unit}
    {g : α → Except Failure (Target × Value)} (hx : Yields x m c)
    (hf : ∀ v, c = .ok v → Stores (fun fuel => f fuel v) m (g v)) :
    Stores (fun fuel => x fuel >>= f fuel) m (c >>= g) := by
  cases c with
  | ok v =>
    obtain ⟨out, hout, hends⟩ := hf v rfl
    exact ⟨out, hout, Outcome.bind hx hends⟩
  | error e => exact ⟨_, rfl, Outcome.stop hx⟩

theorem bind_ok {x : Nat → Run α} {v : α} {f : Nat → α → Run Unit} (hx : Yields x m (.ok v))
    (hf : Stores (fun fuel => f fuel v) m a) : Stores (fun fuel => x fuel >>= f fuel) m a := by
  obtain ⟨out, hout, hends⟩ := hf
  exact ⟨out, hout, Outcome.bind hx hends⟩

/-- What stores the same agrees: all is changed in the same way, or nothing is. -/
theorem agree (hx : Stores x m a) (hy : Stores y m b) (hab : ∀ p, a = .ok p ↔ b = .ok p) :
    (∃ m' c, Outcome x m (.ok (), m') ∧ Outcome y m (.ok (), m') ∧
      m'.ledger.crumbs = if 0 < m.ledger.openSkips ∧ m.reversing = false then
        c :: m.ledger.crumbs else m.ledger.crumbs) ∨
      ∃ e e', Outcome x m (.error (.failure e), m) ∧ Outcome y m (.error (.failure e'), m) := by
  obtain ⟨⟨r, m'⟩, hout, hx⟩ := hx
  obtain ⟨out, hout', hy⟩ := hy
  cases a with
  | ok p =>
    obtain rfl := (hab p).1 rfl
    obtain rfl : (r, m') = out := Option.some.inj (hout.symm.trans hout')
    have hstore : Run.store p.1 p.2 m = some (r, m') := hout
    rcases Run.store_eq_some hstore with ⟨c, m₁, ss, -, hrecord, -, rfl, rfl⟩ | ⟨e, rfl, rfl, -⟩
    · refine .inl ⟨_, c.crumb, hx, hy, ?_⟩
      rcases Run.exists_record c.crumb m with hfull | ⟨l, hl, hcrumbs, -⟩
      · exact absurd (hfull.symm.trans hrecord) (by simp)
      · obtain ⟨-, rfl⟩ := Prod.mk.inj (Option.some.inj (hl.symm.trans hrecord))
        exact hcrumbs
    · exact .inr ⟨e, e, hx, hy⟩
  | error e =>
    cases b with
    | ok p => exact absurd ((hab p).2 rfl) (by simp)
    | error e' =>
      obtain ⟨rfl, rfl⟩ := Prod.mk.inj (Option.some.inj hout)
      obtain rfl := Option.some.inj hout'
      exact .inr ⟨e, e', hx, hy⟩

end Stores

end Storing

/-- Run in `m`, two statements both end normally, in the same machine and with the same breadcrumb
    recorded, if any is; or both fail, and only their location remains of them. -/
def Stmt.Agree (host : Host) (m : Machine) (s s' : Stmt) : Prop :=
  (∃ m' c, Outcome (fun fuel => (evaluator host fuel).exec s) m (.ok .normal, m') ∧
    Outcome (fun fuel => (evaluator host fuel).exec s') m (.ok .normal, m') ∧
    m'.ledger.crumbs = if 0 < m.ledger.openSkips ∧ m.reversing = false then
      c :: m.ledger.crumbs else m.ledger.crumbs) ∨
  ∃ e e', Outcome (fun fuel => (evaluator host fuel).exec s) m
      (.error (.failure e), { m with location := s.location }) ∧
    Outcome (fun fuel => (evaluator host fuel).exec s') m
      (.error (.failure e'), { m with location := s'.location })

section Agree

variable {host : Host} {m m' : Machine} {l : Location} {action action' : Action}
  {x y : Nat → Run Unit} {a b : Except Failure (Target × Value)}

/-- A statement that is begun does what it does. -/
theorem Outcome.exec {out : Except Stop Flow × Machine}
    (h : Outcome (fun fuel => (evaluator host fuel).action action) { m with location := l } out) :
    Outcome (fun fuel => (evaluator host fuel).exec ⟨action, l⟩) m out :=
  .of_succ rfl ⟨h.ends, h.only⟩

theorem Stores.stmt_agree (hx : Stores x { m with location := l } a)
    (hy : Stores y { m with location := l } b) (hab : ∀ p, a = .ok p ↔ b = .ok p)
    (haction : ∀ fuel, (evaluator host fuel).action action = x fuel >>= fun _ => pure .normal)
    (haction' : ∀ fuel, (evaluator host fuel).action action' = y fuel >>= fun _ => pure .normal) :
    Stmt.Agree host m ⟨action, l⟩ ⟨action', l⟩ := by
  rcases hx.agree hy hab with ⟨m', c, hx, hy, hc⟩ | ⟨e, e', hx, hy⟩
  · refine .inl ⟨m', c, .exec ?_, .exec ?_, hc⟩
    · simpa only [haction] using hx.bind (.of_eq rfl)
    · simpa only [haction'] using hy.bind (.of_eq rfl)
  · refine .inr ⟨e, e', .exec ?_, .exec ?_⟩
    · simpa only [haction] using hx.stop
    · simpa only [haction'] using hy.stop

end Agree

/-- What is read at the target and combined with the value is what the operator gives for the target
    and the value as expressions. -/
theorem Expr.Assignable.yields_binary {target value : Expr} (h : target.Assignable)
    (hvalue : value.CallFree) (host : Host) (m : Machine) (operator : BinaryOp) :
    ∃ target? value? new?, Yields (fun fuel => (evaluator host fuel).target target) m target? ∧
      Yields (fun fuel => (evaluator host fuel).eval value) m value? ∧
      Yields (fun fuel => (evaluator host fuel).eval (.binary operator target value)) m new? ∧
      ∀ t new, target? = .ok t → (new? = .ok new ↔ ∃ v old, value? = .ok v ∧
        t.read m.scopes m.current = .ok old ∧ old.binary operator v = .ok new) := by
  obtain ⟨target?, read?, htarget, hread, hsame⟩ := h.yields host m
  obtain ⟨value?, hvalue⟩ := hvalue.yields host m
  refine ⟨target?, value?, _, htarget, hvalue, .eval (hread.bind fun old _ =>
    hvalue.bind fun v _ => .ofExcept (old.binary operator v) m), ?_⟩
  rintro t new rfl
  simp only [Failure.bind_eq_ok_iff, hsame]
  constructor
  · rintro ⟨old, ⟨t', ht', hold⟩, v, hv, hnew⟩
    obtain rfl := Except.ok.inj ht'
    exact ⟨v, old, hv, hold, hnew⟩
  · rintro ⟨v, old, hv, hold, hnew⟩
    exact ⟨old, ⟨t, rfl, hold⟩, v, hv, hnew⟩

/-- A compound assignment agrees with the assignment of what the operator gives for the target and
    the value, and counting with the compound assignment of one, if no call is made for the
    target and the value. -/
theorem Expr.Assignable.agrees {target : Expr} (h : target.Assignable) (host : Host) (m : Machine)
    (l : Location) :
    (∀ op operator value, op.binary? = some operator → value.CallFree →
      Stmt.Agree host m ⟨.assign target op value, l⟩
        ⟨.assign target .set (.binary operator target value), l⟩) ∧
      ∀ op, Stmt.Agree host m ⟨.step target op, l⟩
        ⟨.assign target op.compound (.literal .int "1"), l⟩ := by
  refine ⟨fun op operator value hop hvalue => ?_, fun op => ?_⟩
  · obtain ⟨target?, value?, new?, htarget, hvalue, hnew, hsame⟩ :=
      h.yields_binary hvalue host { m with location := l } operator
    have hcompound : Stores (fun fuel => (evaluator host fuel).assign target op value)
        { m with location := l } (do
          let t ← target?
          let v ← value?
          let old ← t.read m.scopes m.current
          let new ← old.binary operator v
          .ok (t, new)) := by
      simp only [Evaluator.assign, hop]
      exact .bind htarget fun t _ => .bind hvalue fun v _ => .bind (.query _ _) fun old _ =>
        .bind (.ofExcept _ _) fun new _ => .store t new _
    have hplain : Stores
        (fun fuel => (evaluator host fuel).assign target .set (.binary operator target value))
        { m with location := l } (do
          let t ← target?
          let new ← new?
          .ok (t, new)) :=
      .bind htarget fun t _ => .bind hnew fun new _ => .store t new _
    refine hcompound.stmt_agree hplain (fun p => ?_) (fun _ => rfl) fun _ => rfl
    simp only [Failure.bind_eq_ok_iff]
    constructor
    · rintro ⟨t, ht, v, hv, old, hold, new, hnew, hp⟩
      exact ⟨t, ht, new, (hsame t new ht).2 ⟨v, old, hv, hold, hnew⟩, hp⟩
    · rintro ⟨t, ht, new, hnew, hp⟩
      obtain ⟨v, old, hv, hold, hnew⟩ := (hsame t new ht).1 hnew
      exact ⟨t, ht, v, hv, old, hold, new, hnew, hp⟩
  · obtain ⟨target?, -, htarget, -, -⟩ := h.yields host { m with location := l }
    obtain ⟨operator, hoperator, hcount⟩ := op.exists_operator
    have hone : Yields (fun fuel => (evaluator host fuel).eval (.literal .int "1"))
        { m with location := l } (.ok (.int 1)) := .eval (.ofExcept (Value.ofLiteral .int "1") _)
    have hstep : Stores (fun fuel => (evaluator host fuel).step target op)
        { m with location := l } (do
          let t ← target?
          let old ← t.read m.scopes m.current
          let new ← old.step op
          .ok (t, new)) :=
      .bind htarget fun t _ => .bind (.query _ _) fun old _ => .bind (.ofExcept _ _) fun new _ =>
        .store t new _
    have hcompound : Stores
        (fun fuel => (evaluator host fuel).assign target op.compound (.literal .int "1"))
        { m with location := l } (do
          let t ← target?
          let old ← t.read m.scopes m.current
          let new ← old.binary operator (.int 1)
          .ok (t, new)) := by
      simp only [Evaluator.assign, hoperator]
      exact .bind htarget fun t _ => .bind_ok hone <| .bind (.query _ _) fun old _ =>
        .bind (.ofExcept _ _) fun new _ => .store t new _
    refine hstep.stmt_agree hcompound (fun p => ?_) (fun _ => rfl) fun _ => rfl
    simp only [hcount]

/-- An entry of a map of strings. -/
def Compounding.entry : Expr :=
  .index (.ident "x") (.literal .str "a")

/-- Joined to what is stored there, a string is stored in the same way by both assignments. -/
theorem Expr.Assignable.agrees_entry :
    ∃ m m' flow, Reached .bare Value.WellFormed m ∧ Compounding.entry.Assignable ∧
      (evaluator .bare 9).exec ⟨.assign Compounding.entry .add (.literal .str "b"), .unknown⟩ m =
        some (.ok flow, m') ∧
      Outcome (fun fuel => (evaluator .bare fuel).exec ⟨.assign Compounding.entry .set
        (.binary .add Compounding.entry (.literal .str "b")), .unknown⟩) m (.ok flow, m') := by
  have h : ((evaluator .bare 9).exec Undoless.map .bare).any fun first =>
      first.1.isOk && ((evaluator .bare 9).exec
        ⟨.assign Compounding.entry .add (.literal .str "b"), .unknown⟩ first.2).any (·.1.isOk) := by
    decide +kernel
  obtain ⟨⟨x, m⟩, hfirst, h⟩ := (Option.any_eq_true _ _).1 h
  obtain ⟨hx, h⟩ := Bool.and_eq_true_iff.1 h
  obtain ⟨⟨y, m'⟩, hrun, hy⟩ := (Option.any_eq_true _ _).1 h
  match x, y, hx, hy with
  | .ok _, .ok flow, _, _ =>
    have hentry : Compounding.entry.Assignable := .index (.ident "x") (.literal .str "a")
    refine ⟨m, m', flow, .executed (.rest (.start .default .bare)) hfirst, hentry, hrun, ?_⟩
    rcases (Expr.Assignable.agrees hentry .bare m .unknown).1 .add .add (.literal .str "b") rfl
      (.literal .str "b") with ⟨m₁, _, hcompound, hplain, -⟩ | ⟨e, _, hcompound, -⟩
    · obtain ⟨hflow, rfl⟩ := Prod.mk.inj (hcompound.only 9 _ hrun)
      rwa [hflow]
    · exact absurd (hcompound.only 9 _ hrun) (by simp)

end Retrace
