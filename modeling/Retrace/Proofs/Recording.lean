import Retrace.Proofs.Reached

/-!
# What is recorded

An assignment evaluates its operands first (`Evaluator.operands?`), in which
functions may be called that assign and record themselves. Then it binds a name
anew (`Rebound`), and while a skip is open one breadcrumb goes with that, the
one that takes the rebinding back; but none does if a reversal is under way.

Which of the two it is depends on where the program is (`Unreplayed`):

* Where no statement is being replayed and no seizes are being tried no reversal
  is under way. There every rebinding is recorded (`Unreplayed.records`).
* A reversal is under way until a seize takes it, so the patterns of the seizes
  are evaluated in its course. What is assigned by the functions they call is
  not recorded, although nothing is being replayed
  (`Unreplayed.not_recordsEach`).
-/

namespace Retrace

namespace Evaluator

variable {r : Evaluator} {a : Action} {x : Run (Target × Value)}

variable (r) in
/-- What an action assigns to and what it stores there, if it is an assignment. -/
def operands? : Action → Option (Run (Target × Value))
  | .assign target op value => some do
    let t ← r.target target
    let v ← r.eval value
    match op.binary? with
    | none => pure (t, v)
    | some op => do
      let old ← Run.readTarget t
      let new ← Run.ofExcept (old.binary op v)
      pure (t, new)
  | .step target op => some do
    let t ← r.target target
    let old ← Run.readTarget t
    let new ← Run.ofExcept (old.step op)
    pure (t, new)
  | _ => none

/-- When its operands are known, all an assignment does is to store. -/
theorem action_of_operands? (h : r.operands? a = some x) :
    r.action a = x >>= fun p => Run.store p.1 p.2 >>= fun _ => pure .normal := by
  cases a with
  | assign target op value =>
    obtain rfl := Option.some.inj h
    simp only [action, assign, bind_assoc]
    cases op.binary? <;> simp
  | step target op =>
    obtain rfl := Option.some.inj h
    simp [action, step]
  | _ => exact absurd h (by simp [operands?])

/-- Evaluating the operands keeps every contract that the parts keep. -/
theorem Satisfies.operands {Q : Contract} (hr : r.Satisfies Q)
    (h : r.operands? a = some x) : Q.Meets (fun _ => True) x := by
  cases a with
  | assign target op value =>
    obtain rfl := Option.some.inj h
    refine .bind (hr.target target) fun t _ => .bind (hr.eval value) fun v _ => ?_
    cases op.binary? with
    | none => exact .pure trivial
    | some op =>
      exact .bind (.readTarget t) fun old _ => .bind (V := fun _ => True)
        (.ofExcept (fun _ _ => trivial) fun _ => Value.operational_of_binary) fun new _ =>
          .pure trivial
  | step target op =>
    obtain rfl := Option.some.inj h
    exact .bind (hr.target target) fun t _ => .bind (.readTarget t) fun old _ =>
      .bind (V := fun _ => True) (.ofExcept (fun _ _ => trivial) fun _ => Value.operational_of_step)
        fun new _ => .pure trivial
  | _ => exact absurd h (by simp [operands?])

end Evaluator

/-- From `m` the operands of an assignment lead to `m₁`, and from there a name is bound anew,
    which leads to `m'`. -/
structure Rebound (operands : Run (Target × Value)) (m m₁ : Machine) (b : Rebinding)
    (m' : Machine) : Prop where
  rebinding : ∃ t v, operands m = some (.ok (t, v), m₁) ∧
    t.rebinding m₁.scopes m₁.current v = .ok b
  /-- The breadcrumb keeps what is needed to take the rebinding back. -/
  stores : ∃ bound v path, m₁.scopes.look b.owner b.name = some bound ∧ b.Stores bound v path
  look : m'.scopes.look b.owner b.name = some b.value

/-- While a skip is open the breadcrumb of a rebinding is recorded, unless a reversal is
    under way. -/
theorem Run.store_eq_ok {t : Target} {v : Value} {m m' : Machine}
    (h : store t v m = some (.ok (), m')) :
    ∃ b, t.rebinding m.scopes m.current v = .ok b ∧
      m'.scopes.look b.owner b.name = some b.value ∧
      (0 < m.ledger.openSkips → m'.ledger.crumbs =
        if m.reversing then m.ledger.crumbs else b.crumb :: m.ledger.crumbs) := by
  obtain ⟨b, m₁, ss, hb, hrecord, hd, -, rfl⟩ | ⟨e, he, -⟩ := store_eq_some h
  · refine ⟨b, hb, ?_, fun hopen => ?_⟩
    · rw [Scopes.look_define hd, if_pos ⟨rfl, rfl⟩]
    · obtain ⟨hrev, -, rfl⟩ | ⟨l, hrev, hl, -, rfl⟩ | ⟨e, he, -⟩ := record_eq_some hrecord
      · rw [if_pos hrev]
      · rw [hrev]
        exact Ledger.crumbs_of_record hopen hl
      · exact absurd he (by simp)
  · exact absurd he (by simp)

/-- An assignment that goes to its end records one breadcrumb for its rebinding, unless a
    reversal is under way when its operands are known. -/
theorem Sane.rebound {D : Discipline} {host : Host} {m m' : Machine} (hm : Sane D m)
    (hhost : host.Keeps D.value) (hopen : 0 < m.ledger.openSkips) {fuel : Nat} {a : Action}
    {operands : Run (Target × Value)} {flow : Flow}
    (ha : (evaluator host fuel).operands? a = some operands)
    (h : (evaluator host fuel).action a m = some (.ok flow, m')) :
    ∃ m₁ b, Rebound operands m m₁ b m' ∧ Calm m m₁ ∧ m'.ledger.crumbs =
      if m₁.reversing then m₁.ledger.crumbs else b.crumb :: m₁.ledger.crumbs := by
  rw [Evaluator.action_of_operands? ha] at h
  obtain ⟨⟨t, v⟩, m₁, hoperands, h⟩ := Run.bind_eq_ok h
  obtain ⟨_, m₂, hstore, h⟩ := Run.bind_eq_ok h
  obtain ⟨-, rfl⟩ := Run.pure_eq_some h
  obtain ⟨b, hb, hlook, hcrumbs⟩ := Run.store_eq_ok hstore
  obtain ⟨bound, hbound, hstores⟩ := Target.rebinding_eq_ok hb
  -- As many skips are open when the operands are known as before.
  obtain ⟨⟨hbracketed, hcalm⟩, -⟩ :=
    ((bracketing.lawful hhost).evaluator fuel).operands ha m _ m₁ hm.pre hoperands
  exact ⟨m₁, b, ⟨⟨t, v, hoperands, hb⟩, ⟨bound, v, t.path, hbound, hstores⟩, hlook⟩, hcalm rfl,
    hcrumbs (hbracketed.ledger.openSkips ▸ hopen)⟩

/-! ### Outside of rollbacks -/

open Evaluator in
/-- The machines in which a part of a program may come to be run, but for the statements that
    are replayed in rollbacks. `trying` says whether the part belongs to the pattern of a
    seize. -/
inductive Unreplayed (host : Host) (P : Value → Prop) : (trying : Bool) → Machine → Prop
  /-- Between requests. -/
  | rest {m : Machine} : Session host P m → Unreplayed host P false m
  /-- A statement is begun. -/
  | located {trying : Bool} {m : Machine} (l : Location) : Unreplayed host P trying m →
      Unreplayed host P trying { m with location := l }
  /-- An expression has been evaluated. -/
  | evaluated {trying : Bool} {m m' : Machine} {fuel : Nat} {e : Expr} {v : Value} :
      Unreplayed host P trying m → (evaluator host fuel).eval e m = some (.ok v, m') →
      Unreplayed host P trying m'
  /-- A statement has been run. -/
  | executed {trying : Bool} {m m' : Machine} {fuel : Nat} {s : Stmt} {flow : Flow} :
      Unreplayed host P trying m → (evaluator host fuel).exec s m = some (.ok flow, m') →
      Unreplayed host P trying m'
  /-- A block is entered. -/
  | block {trying : Bool} {m : Machine} : Unreplayed host P trying m →
      Unreplayed host P trying (m.enter m.current)
  /-- A call is entered, and the arguments have been bound. -/
  | call {trying : Bool} {m m' : Machine} {binds : List (String × Value)} :
      Unreplayed host P trying m → m.callDepth < m.settings.maxCallDepth →
      (∀ b ∈ binds, P b.2) → Run.declareAll binds m.enterCall = some (.ok (), m') →
      Unreplayed host P trying m'
  /-- A skip is entered. -/
  | skip {trying : Bool} {m : Machine} {marker : Marker} {l : Ledger} :
      Unreplayed host P trying m → m.ledger.openSkip m.scopes.nextSerial = .ok (marker, l) →
      Unreplayed host P trying { m with ledger := l }
  /-- A skip has been rolled back and resolved, and its seizes are tried. -/
  | reversed {trying : Bool} {m m₂ m₃ : Machine} {marker : Marker} {l : Ledger} {fuel : Nat}
      {body : Block} {payload : Value} : Unreplayed host P trying m →
      m.ledger.openSkip m.scopes.nextSerial = .ok (marker, l) →
      (evaluator host fuel).block body { m with ledger := l } =
        some (.error (.reversal payload), m₂) →
      (evaluator host fuel).rollBack marker m.current m₂ = some (.ok (), m₃) →
      Unreplayed host P true (m₃.closeSkip marker)
  /-- A seize takes the reversal. -/
  | seize {m : Machine} : Unreplayed host P true m →
      Unreplayed host P false { m with reversing := false }

namespace Unreplayed

variable {host : Host} {P : Value → Prop} {trying : Bool} {m m' : Machine}

theorem reached (h : Unreplayed host P trying m) : Reached host P m := by
  induction h with
  | rest h => exact .rest h
  | located l _ ih => exact .located l ih
  | evaluated _ hr ih => exact .evaluated ih hr
  | executed _ hr ih => exact .executed ih hr
  | block _ ih => exact .block ih
  | call _ hdepth hbinds hr ih => exact .call ih hdepth hbinds hr
  | skip _ hl ih => exact .skip ih hl
  | reversed _ hl hbody hroll ih => exact .reversed ih hl hbody hroll
  | seize _ ih => exact .seize ih

theorem sane (h : Unreplayed host P trying m) : Sane .any m :=
  h.reached.sane_any

/-- Unless the seizes of a skip are being tried no reversal is under way. -/
theorem reversing_eq_false (h : Unreplayed host P trying m) (htrying : trying = false) :
    m.reversing = false := by
  have hlawful := bracketing.lawful (D := .any) host.keeps_any
  -- A part that went to its end is calm, so it has not left a reversal behind.
  have hcalm : ∀ {m m' : Machine}, Calm m m' → m.reversing = false → m'.reversing = false :=
    fun hcalm hm => Bool.eq_false_iff.2 fun hrev => absurd (hm.symm.trans (hcalm hrev).1) (by simp)
  induction h with
  | rest h =>
    have hm : Machine.Resting .any _ :=
      .of_session host.keeps_any (fun _ => trivial) (fun _ _ => trivial) h
    exact hm.reversing
  | located l _ ih => exact ih htrying
  | evaluated hm hr ih =>
    obtain ⟨⟨-, hc⟩, -⟩ := (hlawful.evaluator _).eval _ _ _ _ hm.sane.pre hr
    exact hcalm (hc rfl) (ih htrying)
  | executed hm hr ih =>
    obtain ⟨⟨-, hc⟩, -⟩ := (hlawful.evaluator _).exec _ trivial _ _ _ hm.sane.pre hr
    exact hcalm (hc rfl) (ih htrying)
  | block _ ih => exact ih htrying
  | call hm _ _ hr ih =>
    obtain ⟨⟨-, hc⟩, -⟩ :=
      hlawful.declareAll (fun _ _ => trivial) _ _ _ (bracketing.pre_enterCall hm.sane.pre) hr
    exact hcalm (hc rfl) (ih htrying)
  | skip _ _ ih => exact ih htrying
  | reversed => exact absurd htrying (by simp)
  | seize => rfl

end Unreplayed

/-- Whether each assignment that is run to its end in the machine records the breadcrumb of
    its rebinding, and no other one for it. -/
def RecordsEach (host : Host) (m : Machine) : Prop :=
  ∀ fuel a operands flow m', (evaluator host fuel).operands? a = some operands →
    (evaluator host fuel).action a m = some (.ok flow, m') →
    ∃ m₁ b, Rebound operands m m₁ b m' ∧ m'.ledger.crumbs = b.crumb :: m₁.ledger.crumbs

/-- Where nothing is being replayed an assignment that goes to its end while a skip is open
    records one breadcrumb for its rebinding, unless a reversal is under way when its operands
    are known; and so recording is complete where no seizes are being tried. -/
theorem Unreplayed.records {host : Host} {P : Value → Prop} {trying : Bool} {m : Machine}
    (hm : Unreplayed host P trying m) (hopen : 0 < m.ledger.openSkips) :
    (∀ fuel a operands flow m', (evaluator host fuel).operands? a = some operands →
      (evaluator host fuel).action a m = some (.ok flow, m') →
      ∃ m₁ b, Rebound operands m m₁ b m' ∧ m'.ledger.crumbs =
        if m₁.reversing then m₁.ledger.crumbs else b.crumb :: m₁.ledger.crumbs) ∧
      (trying = false → RecordsEach host m) := by
  refine ⟨fun fuel a operands flow m' ha h => ?_, fun htrying fuel a operands flow m' ha h => ?_⟩
  · obtain ⟨m₁, b, hb, -, hcrumbs⟩ := hm.sane.rebound host.keeps_any hopen ha h
    exact ⟨m₁, b, hb, hcrumbs⟩
  · obtain ⟨m₁, b, hb, hcalm, hcrumbs⟩ := hm.sane.rebound host.keeps_any hopen ha h
    have hrev : m₁.reversing = false := Bool.eq_false_iff.2 fun hrev =>
      absurd ((hm.reversing_eq_false htrying).symm.trans (hcalm hrev).1) (by simp)
    rw [hrev] at hcrumbs
    exact ⟨m₁, b, hb, hcrumbs⟩

/-- An assignment to a variable. -/
def Recording.assignment : Action :=
  .assign (.ident "x") .set (.literal .int "5")

/-- How many breadcrumbs that assignment records in a machine in which a skip is open. -/
def Recording.recorded? (m : Machine) : Option Nat :=
  match (evaluator .bare 9).action assignment m with
  | some (.ok _, m') =>
    if 0 < m.ledger.openSkips then some (m'.ledger.crumbs.length - m.ledger.crumbs.length) else none
  | _ => none

theorem Recording.recorded?_eq_some {m : Machine} {n : Nat} (h : recorded? m = some n) :
    0 < m.ledger.openSkips ∧ ∃ flow m',
      (evaluator .bare 9).action assignment m = some (.ok flow, m') ∧
      m'.ledger.crumbs.length - m.ledger.crumbs.length = n := by
  rw [recorded?] at h
  split at h
  · split at h
    · exact ⟨‹_›, _, _, ‹_›, Option.some.inj h⟩
    · exact absurd h (by simp)
  · exact absurd h (by simp)

/-- Evaluating the operands of the assignment changes nothing. -/
theorem Recording.operands_assignment {fuel : Nat} {x : Run (Target × Value)}
    (hx : (evaluator .bare (fuel + 1)).operands? assignment = some x) {m m' : Machine}
    {p : Target × Value} (h : x m = some (.ok p, m')) : m' = m := by
  obtain rfl := Option.some.inj hx
  obtain ⟨t, m₁, ht, hrest⟩ := Run.bind_eq_ok h
  obtain ⟨v, m₂, hv, hend⟩ := Run.bind_eq_ok hrest
  have hv : Run.ofExcept (Value.ofLiteral .int "5") m₁ = some (.ok v, m₂) := hv
  rw [(Run.pure_eq_some hend).2, (Run.ofExcept_eq_some hv).1, (Run.pure_eq_some ht).2]

/-- In a call, after a global `x` has been declared, a skip is opened. -/
def Recording.opened? : Option Machine :=
  (Machine.bare.load .bare 9 [.variable ⟨"x", some (.literal .int "0")⟩]).bind
    fun loaded =>
      if loaded.2.callDepth < loaded.2.settings.maxCallDepth then
        match Run.openSkip loaded.2.enterCall with
        | some (.ok _, m) => some m
        | _ => none
      else none

theorem Recording.unreplayed_of_opened? {m : Machine} (h : opened? = some m) :
    Unreplayed .bare (fun _ => True) false m := by
  obtain ⟨⟨answer, m₀⟩, hload, h⟩ := Option.bind_eq_some_iff.1 h
  split at h
  · rename_i hdepth
    split at h
    · rename_i hopen
      obtain rfl := Option.some.inj h
      have hm₀ : Unreplayed .bare (fun _ => True) false m₀ :=
        .rest (.serve (.start .default .bare) (.load hload))
      have hcall : Unreplayed .bare (fun _ => True) false m₀.enterCall :=
        .call hm₀ hdepth (List.forall_mem_nil _) rfl
      obtain ⟨_, l, hl, -, rfl⟩ | ⟨e, hok, -⟩ := Run.openSkip_eq_some hopen
      · exact .skip hcall hl
      · exact absurd hok (by simp)
    · exact absurd h (by simp)
  · exact absurd h (by simp)

/-- There the assignment records one breadcrumb. -/
theorem Unreplayed.records_assignment :
    ∃ m m₁ m' x b, Unreplayed .bare (fun _ => True) false m ∧ 0 < m.ledger.openSkips ∧
      Rebound x m m₁ b m' ∧ m'.ledger.crumbs = b.crumb :: m₁.ledger.crumbs := by
  have h : Recording.opened?.any fun m => Recording.recorded? m == some 1 := by decide +kernel
  obtain ⟨m, hopened, h⟩ := (Option.any_eq_true _ _).1 h
  obtain ⟨hopen, flow, m', haction, -⟩ := Recording.recorded?_eq_some (beq_iff_eq.1 h)
  have hm := Recording.unreplayed_of_opened? hopened
  obtain ⟨m₁, b, hb, hcrumbs⟩ :=
    (hm.records hopen).2 rfl 9 Recording.assignment _ flow m' rfl haction
  exact ⟨m, m₁, m', _, b, hm, hopen, hb, hcrumbs⟩

/-- A function is called while the seizes are tried of a skip that reverses at once. -/
def Recording.called? (m : Machine) : Option Machine :=
  ((evaluator .bare 9).reversed? [⟨.reverse (.literal .int "1"), .unknown⟩] m).bind fun p =>
    match (evaluator .bare 9).rollBack p.1 m.current p.2 with
    | some (.ok _, m') =>
      if m'.callDepth < m'.settings.maxCallDepth then some (m'.closeSkip p.1).enterCall else none
    | _ => none

theorem Recording.unreplayed_of_called? {m m' : Machine} {P : Value → Prop} {trying : Bool}
    (hm : Unreplayed .bare P trying m) (h : called? m = some m') : Unreplayed .bare P true m' := by
  obtain ⟨⟨marker, m₂⟩, hreversed, h⟩ := Option.bind_eq_some_iff.1 h
  obtain ⟨m₁, payload, hopen, hbody⟩ := Evaluator.reversed?_eq_some hreversed
  split at h
  · rename_i hroll
    split at h
    · rename_i hdepth
      obtain rfl := Option.some.inj h
      obtain ⟨_, l, hl, hok, rfl⟩ | ⟨e, hok, -⟩ := Run.openSkip_eq_some hopen
      · obtain rfl := Except.ok.inj hok
        exact .call (.reversed hm hl hbody hroll) hdepth (List.forall_mem_nil _) rfl
      · exact absurd hok (by simp)
    · exact absurd h (by simp)
  · exact absurd h (by simp)

/-- In a function that is called from the pattern of a seize an assignment need not be
    recorded, although no statement is being replayed and a skip is open. -/
theorem Unreplayed.not_recordsEach :
    ∃ m, Unreplayed .bare (fun _ => True) true m ∧ 0 < m.ledger.openSkips ∧
      ¬RecordsEach .bare m := by
  have h : (Recording.opened?.bind Recording.called?).any fun m =>
      Recording.recorded? m == some 0 := by decide +kernel
  obtain ⟨m, hcalled, h⟩ := (Option.any_eq_true _ _).1 h
  obtain ⟨m₀, hopened, hcalled⟩ := Option.bind_eq_some_iff.1 hcalled
  obtain ⟨hopen, flow, m', haction, hnone⟩ := Recording.recorded?_eq_some (beq_iff_eq.1 h)
  have hm := Recording.unreplayed_of_called? (Recording.unreplayed_of_opened? hopened) hcalled
  refine ⟨m, hm, hopen, fun hrecords => ?_⟩
  obtain ⟨m₁, b, ⟨⟨t, v, hx, -⟩, -, -⟩, hcrumbs⟩ :=
    hrecords 9 Recording.assignment _ flow m' rfl haction
  obtain rfl := Recording.operands_assignment rfl hx
  rw [hcrumbs, List.length_cons] at hnone
  omega

end Retrace
