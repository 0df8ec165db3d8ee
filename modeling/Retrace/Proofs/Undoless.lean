import Retrace.Proofs.Anchoring
import Retrace.Proofs.Restored
import Retrace.Proofs.Resuming

/-!
# Rollbacks without undo statements

In a program without undo annotations (`Stmt.Undoless`) a rollback replays no
statements. So it ends as soon as it has gone through its log, and there is one
way only in which it can fail: an entry is to be stored back in a map, and there
is no map any more (`Reached.rollBack_ends`).

If the program is plain this does not happen, as each rebinding has been recorded
since recording began. But a skip whose body returns drops its breadcrumbs, and then those of the
skip around it may find something else than they left
(`Reached.not_rollsBack`).
-/

namespace Retrace

/-- Whether there is no undo annotation. -/
def Action.Undoless : Action → Prop
  | .expr _ undo => undo = none
  | _ => True

/-- Whether there is no undo annotation in the statement and in all statements in it, also
    those in the functions it declares. -/
abbrev Stmt.Undoless : Stmt → Prop :=
  All Action.parts Action.Undoless

/-- Values are well-formed, and there are no undo annotations. -/
def Discipline.undoless : Discipline :=
  .sound Stmt.Undoless Stmt.All.parts

/-- All statements that a statement may come to run in the machine satisfy `p`, also those in
    the functions that are bound and those that the host may give back. -/
structure Machine.Confines (host : Host) (p : Stmt → Prop) (m : Machine) (s : Stmt) : Prop where
  stmt : p s
  functions : ∀ id name v f, m.scopes.look id name = some v → v.Holds f → ∀ t ∈ f.body, p t
  host : host.Keeps (Value.Sound p)

theorem Machine.Confines.obey {host : Host} {p : Stmt → Prop} {m : Machine} {s : Stmt}
    (h : m.Confines host p s) (hwf : m.scopes.Obey Value.WellFormed) :
    m.scopes.Obey (Value.Sound p) := by
  intro id name v hv
  have hv' : v.WellFormed := hwf id name v hv
  exact hv'.sound fun f hf => h.functions id name v f hv hf

/-- Whether what it takes back is that an entry was stored. -/
def Breadcrumb.isEntry : Breadcrumb → Bool
  | .entry .. => true
  | _ => false

/-- A rollback without undo statements goes through its log, unless something that is no map is
    in the way of an entry. -/
theorem Evaluator.restoreAbove_anchored (r : Evaluator) (enclosing : ScopeId) {marker : Marker}
    {ss : Scopes} {m : Machine} {log old : List Breadcrumb}
    (hcrumbs : m.ledger.crumbs = log ++ .marker marker :: old)
    (hlog : ∀ c ∈ log, c.Anchored False ss m.scopes)
    (hforesees : ∀ id, ss.Foresees id → m.scopes.contains id ∨ marker.encloses id.serial)
    (n : Nat) :
    (log.length < n → (r.restoreAbove marker enclosing n m).isSome) ∧
      ∀ x m', r.restoreAbove marker enclosing n m = some (x, m') → x = .ok () ∨
        ∃ c ∈ log, c.isEntry ∧ ∃ w : Value, w.kind ≠ .map ∧
          x = .error (.failure (.unexpected .map w)) := by
  induction n generalizing log m with
  | zero =>
    exact ⟨fun h => absurd h (Nat.not_lt_zero _),
      fun x m' h => absurd h (by simp [restoreAbove_zero])⟩
  | succ n ih =>
    rw [restoreAbove_succ]
    cases log with
    | nil =>
      rw [Ledger.popAbove_marker hcrumbs]
      refine ⟨fun _ => rfl, fun x m' h => .inl ?_⟩
      exact (Prod.mk.inj (Option.some.inj h)).1.symm
    | cons c log =>
      obtain ⟨hc, hlog⟩ := List.forall_mem_cons.1 hlog
      have hmarker : c ≠ .marker marker := by
        rintro rfl
        exact hc
      obtain ⟨l, hpop, hl⟩ := Ledger.popAbove_cons hcrumbs hmarker
      rw [hpop]
      have hreplay : ∀ scope undo, c ≠ .replay scope undo := by
        rintro scope undo rfl
        exact hc.1
      rcases r.restore_anchored (m := { m with ledger := l }) enclosing hc hforesees
        hreplay with ⟨tt, htt, hskeleton, hbound⟩ |
          ⟨w, hw, ⟨scope, name, path, previous, rfl⟩, hfail⟩
      · -- The breadcrumb is restored, and what is left can be gone through as before.
        have hlive : ∀ id, tt.contains id = m.scopes.contains id := Scopes.contains_congr hskeleton
        have hlog' : ∀ c ∈ log, c.Anchored False ss tt := fun c' hmem =>
          (hlog c' hmem).imp (fun _ h => h) fun id name h hid => hbound id name (h (hlive id ▸ hid))
        have hforesees' : ∀ id, ss.Foresees id → tt.contains id ∨ marker.encloses id.serial :=
          fun id hid => hlive id ▸ hforesees id hid
        obtain ⟨hsome, hends⟩ := ih (m := { m with ledger := l, scopes := tt }) hl hlog' hforesees'
        simp only [Run.bind_apply, htt]
        refine ⟨fun h => hsome (Nat.lt_of_succ_lt_succ h), fun x m' h => ?_⟩
        rcases hends x m' h with hok | ⟨c', hmem, hfailed⟩
        · exact .inl hok
        · exact .inr ⟨c', List.mem_cons_of_mem _ hmem, hfailed⟩
      · simp only [Run.bind_apply, hfail]
        refine ⟨fun _ => rfl, fun x m' h => .inr ⟨_, List.mem_cons_self, rfl, w, hw, ?_⟩⟩
        exact (Prod.mk.inj (Option.some.inj h)).1.symm

namespace Reached

variable {host : Host} {P : Value → Prop} {m : Machine}

section

variable {m₁ m₂ : Machine} {marker : Marker} {body : Block} {seizes : List Seize} {l₀ : Location}
  {fuel : Nat} {payload : Value}

/-- In a plain program the rollback goes through its log to the end. -/
theorem rollBack_plain (hm : Reached host Value.WellFormed m)
    (hhost : host.Keeps Value.WellFormed)
    (hplain : m.Confines host Stmt.Plain ⟨.skip body seizes, l₀⟩)
    (hopen : Run.openSkip m = some (.ok marker, m₁))
    (hbody : (evaluator host fuel).block body m₁ = some (.error (.reversal payload), m₂))
    {n : Nat} {x : Except Stop Unit} {m₃ : Machine}
    (hroll : (evaluator host n).rollBack marker m.current m₂ = some (x, m₃)) : x = .ok () := by
  obtain ⟨_, l, hl, hok, rfl⟩ | ⟨e, hok, -⟩ := Run.openSkip_eq_some hopen
  · obtain rfl := Except.ok.inj hok
    have hpre : (bracketing .plain).pre m :=
      ⟨hm.sane_any.pre.1, hplain.obey (hm.wellFormed hhost)⟩
    obtain ⟨-, log, hlog⟩ := resuming.body hl ((resuming.lawful hplain.host).evaluator fuel) hpre
      (List.forall_mem_append.1 hplain.stmt.parts).1 hbody (by simp [Ending.of])
    obtain ⟨hmarker, hcrumbs, -⟩ := Ledger.openSkip_eq_ok hl
    obtain ⟨m₄, hcs, hend, -⟩ := hlog.exists_restores (evaluator host n) m.current
      (by exact ⟨_, hcrumbs⟩) (by exact congrArg Marker.horizon hmarker)
    rw [Evaluator.rollBack, Evaluator.restoreAbove_of_restores _ hcs hend] at hroll
    split at hroll
    · exact (Prod.mk.inj (Option.some.inj hroll)).1.symm
    · exact absurd hroll (by simp)
  · exact absurd hok (by simp)

/-- Whenever a reversal leaves the body of a skip of a program without undo annotations, the
    rollback ends if it may restore enough breadcrumbs. It then has gone to its end, or has
    failed at an entry since something that is no map was in the way; and if the program is
    plain it does not fail. -/
theorem rollBack_ends (hm : Reached host Value.WellFormed m) (hhost : host.Keeps Value.WellFormed)
    (hundoless : m.Confines host Stmt.Undoless ⟨.skip body seizes, l₀⟩)
    (hopen : Run.openSkip m = some (.ok marker, m₁))
    (hbody : (evaluator host fuel).block body m₁ = some (.error (.reversal payload), m₂)) :
    ∃ log, m₂.ledger.crumbs = log ++ .marker marker :: m.ledger.crumbs ∧ ∀ n,
      (log.length < n → ((evaluator host n).rollBack marker m.current m₂).isSome) ∧
      ∀ x m₃, (evaluator host n).rollBack marker m.current m₂ = some (x, m₃) →
        (x = .ok () ∨ ∃ c ∈ log, c.isEntry ∧ ∃ w : Value, w.kind ≠ .map ∧
          x = .error (.failure (.unexpected .map w))) ∧
        (m.Confines host Stmt.Plain ⟨.skip body seizes, l₀⟩ → x = .ok ()) := by
  obtain ⟨_, l, hl, hok, rfl⟩ | ⟨e, hok, -⟩ := Run.openSkip_eq_some hopen
  · obtain rfl := Except.ok.inj hok
    have hF : Failure.Admits fun _ => True := ⟨fun _ => trivial, fun _ => trivial, fun _ => trivial,
      fun _ => trivial, fun _ => trivial⟩
    have hpre : (anchoring .undoless False hF).pre m :=
      ⟨⟨hm.sane_any.pre.1, hundoless.obey (hm.wellFormed hhost)⟩, hm.anchored⟩
    have hlawful : (anchoring .undoless False hF).Lawful host :=
      anchoring.lawful hundoless.host (fun _ _ _ _ _ _ _ _ => trivial) fun h =>
        absurd h.action (by simp [Action.Undoless])
    have hblock := hlawful.block (hlawful.evaluator fuel)
      (List.forall_mem_append.1 hundoless.stmt.parts).1
    obtain ⟨⟨⟨hb, -⟩, hanchors⟩, -⟩ := hblock _ _ _ (anchoring.pre_open hl hpre) hbody
    obtain ⟨hmarker, hcrumbs, -⟩ := Ledger.openSkip_eq_ok hl
    obtain ⟨-, log, hlog, hanchored⟩ := hanchors (by simp [Ending.of])
    rw [hcrumbs] at hlog
    have hforesees : ∀ id, m.scopes.Foresees id →
        m₂.scopes.contains id ∨ marker.encloses id.serial := by
      intro id hid
      rw [Scopes.contains_congr hb.skeleton, Marker.encloses, congrArg Marker.horizon hmarker,
        decide_eq_true_eq]
      exact hid
    refine ⟨log, hlog, fun n => ?_⟩
    obtain ⟨hsome, hends⟩ := (evaluator host n).restoreAbove_anchored m.current hlog
      hanchored hforesees (evaluator host n).rounds
    refine ⟨fun hn => hsome ((rounds_evaluator host n).symm ▸ hn), fun x m₃ hroll => ?_⟩
    exact ⟨hends x m₃ hroll, fun hplain => hm.rollBack_plain hhost hplain hopen hbody hroll⟩
  · exact absurd hok (by simp)

end

end Reached

/-- Whether the rollback of a skip without undo annotations that is entered in the machine does
    not fail, once a reversal has left its body. -/
def RollsBack (host : Host) (m : Machine) : Prop :=
  ∀ fuel body seizes l₀ marker m₁ payload m₂ n x m₃,
    m.Confines host Stmt.Undoless ⟨.skip body seizes, l₀⟩ →
    Run.openSkip m = some (.ok marker, m₁) →
    (evaluator host fuel).block body m₁ = some (.error (.reversal payload), m₂) →
    (evaluator host n).rollBack marker m.current m₂ = some (x, m₃) → x = .ok ()

namespace Undoless

/-- A declaration of `x`, bound to a map with one entry. -/
def map : Stmt :=
  ⟨.declare (.variable ⟨"x", some (.map [(.literal .str "a", .literal .str "before")])⟩), .unknown⟩

/-- A function that binds `x` to something else, in a skip that it returns from. -/
def function : Stmt :=
  ⟨.declare (.function "f" [] [⟨.skip
    [⟨.assign (.ident "x") .set (.literal .str "gone"), .unknown⟩, ⟨.ret none, .unknown⟩] [],
    .unknown⟩]), .unknown⟩

/-- A body that stores into the map, calls that function, and is then reversed. -/
def body : Block :=
  [⟨.assign (.index (.ident "x") (.literal .str "a")) .set (.literal .str "after"), .unknown⟩,
    ⟨.expr (.call (.ident "f") []) none, .unknown⟩,
    ⟨.reverse (.literal .truth "true"), .unknown⟩]

theorem undoless_function : function.Undoless := by
  refine .mk trivial (List.forall_mem_singleton.2 (.mk trivial ?_))
  exact List.forall_mem_cons.2 ⟨.leaf trivial rfl, List.forall_mem_singleton.2 (.leaf trivial rfl)⟩

theorem undoless_body : Stmt.Undoless ⟨.skip body [], .unknown⟩ :=
  .mk trivial (List.forall_mem_cons.2 ⟨.leaf trivial rfl, List.forall_mem_cons.2
    ⟨.leaf rfl rfl, List.forall_mem_singleton.2 (.leaf trivial rfl)⟩⟩)

/-- In a call, after these have been declared, a skip with that body is reversed, and its
    rollback fails. -/
theorem exists_failing : ∃ m m₁ marker payload m₂ e m₃, Reached .bare Value.WellFormed m ∧
    m.Confines .bare Stmt.Undoless ⟨.skip body [], .unknown⟩ ∧
    Run.openSkip m = some (.ok marker, m₁) ∧
    (evaluator .bare 9).block body m₁ = some (.error (.reversal payload), m₂) ∧
    (evaluator .bare 9).rollBack marker m.current m₂ = some (.error e, m₃) := by
  have h : ((evaluator .bare 9).exec map .bare).any fun first => first.1.isOk &&
      ((evaluator .bare 9).exec function first.2).any fun second => (second.1.isOk &&
        decide (second.2.callDepth < second.2.settings.maxCallDepth)) &&
        ((evaluator .bare 9).reversed? body second.2.enterCall).any fun p =>
          ((evaluator .bare 9).rollBack p.1 second.2.enterCall.current p.2).any (!·.1.isOk) := by
    decide +kernel
  obtain ⟨⟨x, m₁⟩, hfirst, h⟩ := (Option.any_eq_true _ _).1 h
  obtain ⟨hx, h⟩ := Bool.and_eq_true_iff.1 h
  obtain ⟨⟨y, m₂⟩, hsecond, h⟩ := (Option.any_eq_true _ _).1 h
  simp only [Bool.and_eq_true, decide_eq_true_eq] at h
  obtain ⟨⟨hy, hdepth⟩, h⟩ := h
  obtain ⟨⟨marker, m₃⟩, hreversed, hroll⟩ := (Option.any_eq_true _ _).1 h
  obtain ⟨m₀, payload, hopen, hbody⟩ := Evaluator.reversed?_eq_some hreversed
  obtain ⟨⟨z, m₄⟩, hroll, hz⟩ := (Option.any_eq_true _ _).1 hroll
  match x, y, z, hx, hy, hz with
  | .ok flow, .ok flow', .error e, _, _, _ =>
    have hm : Reached .bare Value.WellFormed m₂ :=
      .executed (.executed (.rest (.start .default .bare)) hfirst) hsecond
    have hmap : map.Undoless := .leaf trivial rfl
    have hinitial : Machine.Resting .undoless .bare := .initial .default .bare
    have hlawful := bracketing.lawful (Host.bare_keeps Discipline.undoless.value)
    -- The functions that are bound are builtins and the one that has been declared.
    obtain ⟨⟨hb₁, -⟩, -⟩ := (hlawful.evaluator 9).exec _ hmap _ _ _ hinitial.pre hfirst
    obtain ⟨⟨hb₂, -⟩, -⟩ := (hlawful.evaluator 9).exec _ undoless_function _ _ _
      ⟨hb₁.ledger.tidy hinitial.pre.1, hb₁.bound⟩ hsecond
    have hobey : m₂.enterCall.scopes.Obey Discipline.undoless.value := hb₂.bound.push _
    refine ⟨m₂.enterCall, m₀, marker, payload, m₃, e, m₄,
      .call hm hdepth (List.forall_mem_nil _) rfl, ?_, hopen, hbody, hroll⟩
    exact ⟨undoless_body, fun id name v f hv hf => (hobey id name v hv).of_holds hf,
      Host.bare_keeps _⟩

end Undoless

/-- The rollback there fails at an entry. -/
theorem Reached.rollBack_ends_failing :
    ∃ m m₂ m₃ marker e log, Reached .bare Value.WellFormed m ∧
      m₂.ledger.crumbs = log ++ .marker marker :: m.ledger.crumbs ∧
      (evaluator .bare 9).rollBack marker m.current m₂ = some (.error e, m₃) ∧
      ∃ c ∈ log, c.isEntry ∧ ∃ w : Value, w.kind ≠ .map ∧ e = .failure (.unexpected .map w) := by
  obtain ⟨m, m₁, marker, payload, m₂, e, m₃, hm, hundoless, hopen, hbody, hroll⟩ :=
    Undoless.exists_failing
  obtain ⟨log, hlog, hends⟩ := hm.rollBack_ends (Host.bare_keeps _) hundoless hopen hbody
  obtain ⟨h, -⟩ := (hends 9).2 _ _ hroll
  refine ⟨m, m₂, m₃, marker, e, log, hm, hlog, hroll, ?_⟩
  obtain ⟨c, hc, hentry, w, hw, he⟩ := h.resolve_left (by simp)
  exact ⟨c, hc, hentry, w, hw, Except.error.inj he⟩

/-- The rollback of a skip may fail although there are no undo annotations. -/
theorem Reached.not_rollsBack : ∃ m, Reached .bare Value.WellFormed m ∧ ¬RollsBack .bare m := by
  obtain ⟨m, m₁, marker, payload, m₂, e, m₃, hm, hundoless, hopen, hbody, hroll⟩ :=
    Undoless.exists_failing
  refine ⟨m, hm, fun h => ?_⟩
  exact absurd (h 9 _ _ _ _ _ _ _ 9 _ _ hundoless hopen hbody hroll) (by simp)

end Retrace
