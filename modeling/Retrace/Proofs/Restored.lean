import Retrace.Proofs.Reached
import Retrace.Proofs.Retracing

/-!
# Rollbacks restore what was bound

If a program is plain, then a reversal that leaves the body of a skip is taken
back altogether (`Reached.rollBack_restores`): the rollback does not fail, and
every scope that was live when the skip was entered then binds the names that it
bound, to the values they had (`Restored`). An entry that is stored back may
come to stand at another place in its map, and under a key that is equal to the
one it had; apart from this the values are the same.

What is asked of the functions that can be called is asked of those that values
hold (`Value.Holds`) which are bound at the beginning.
-/

namespace Retrace

/-- The scopes that were live are, and each binds the names that it bound to the values
    they had, but for the order of entries in maps and the choice among equal keys. -/
structure Restored (ss ss' : Scopes) : Prop where
  skeleton : ss'.skeleton = ss.skeleton
  unbound : ∀ id name, ss.contains id → ss.look id name = none → ss'.look id name = none
  bound : ∀ id name v, ss.look id name = some v →
    ∃ v', ss'.look id name = some v' ∧ v'.Alike v ∧ v'.equals v ∧ (v.kind ≠ .map → v' = v)

theorem Restored.of_retraces {m m' : Machine} (hm : m.scopes.Obey Discipline.plain.value)
    (hb : Bracketed .plain m m') (h : Retraces (fun _ => True) m m' []) :
    Restored m.scopes m'.scopes where
  skeleton := hb.skeleton
  unbound id name hid hnone := (h.unbound id name trivial hid hnone).1
  bound id name v hv := by
    obtain ⟨v', w, hv', hw, hwv⟩ := h.bound id name v trivial hv
    cases hw with
    | nil =>
      have hwf : v.WellFormed := (hm id name v hv).wellFormed
      have hwf' : v'.WellFormed := (hb.bound id name v' hv').wellFormed
      exact ⟨v', hv', hwv, hwv.equals hwf' hwf, fun hkind => (hwv.symm.eq_of_not_map hkind).symm⟩

/-- Whenever a reversal leaves the body of a skip of a plain program, the rollback goes to
    its end if it may restore enough breadcrumbs, and it ends in no other way than by having
    restored what was bound when the skip was entered. -/
theorem Reached.rollBack_restores {host : Host} {m m₁ m₂ : Machine} {marker : Marker}
    {body : Block} {seizes : List Seize} {l₀ : Location} {fuel : Nat} {payload : Value}
    (hm : Reached host Value.WellFormed m) (hrev : m.reversing = false)
    (hskip : Stmt.Plain ⟨.skip body seizes, l₀⟩)
    (hfunctions : ∀ id name v f, m.scopes.look id name = some v → v.Holds f →
      ∀ s ∈ f.body, s.Plain)
    (hhost : host.Keeps Value.WellFormed) (hhost' : host.Keeps (Value.Sound Stmt.Plain))
    (hopen : Run.openSkip m = some (.ok marker, m₁))
    (hbody : (evaluator host fuel).block body m₁ = some (.error (.reversal payload), m₂)) :
    ∃ log, m₂.ledger.crumbs = log ++ .marker marker :: m.ledger.crumbs ∧ ∀ n,
      (log.length < n →
        ∃ m₃, (evaluator host n).rollBack marker m.current m₂ = some (.ok (), m₃)) ∧
      ∀ x m₃, (evaluator host n).rollBack marker m.current m₂ = some (x, m₃) →
        x = .ok () ∧ Restored m.scopes m₃.scopes := by
  obtain ⟨_, l, hl, hok, rfl⟩ | ⟨e, hok, -⟩ := Run.openSkip_eq_some hopen
  · obtain rfl := Except.ok.inj hok
    have hsane : Sane (.sound (fun _ => True) fun _ _ _ => trivial) m :=
      hm.sane hhost (fun _ => trivial) fun _ hv => hv
    -- That values are well-formed holds in every state of a run. That the functions in them are
    -- plain is what is asked for.
    have hpre : (bracketing .plain).pre m := by
      refine ⟨hsane.pre.1, fun id name v hv => ?_⟩
      have hwf : v.WellFormed := hsane.pre.2 id name v hv
      exact hwf.sound fun f hf => hfunctions id name v f hv hf
    have hpre₁ : (bracketing .plain).pre { m with ledger := l } := bracketing.pre_open hl hpre
    have hstmts := (List.forall_mem_append.1 hskip.parts).1
    obtain ⟨hb, log, hback⟩ := retracing.body hl ((retracing.lawful hhost').evaluator fuel) hpre
      hrev hstmts hbody (by simp [Ending.of])
    obtain ⟨hmarker, hcrumbs, -⟩ := Ledger.openSkip_eq_ok hl
    refine ⟨log, hback.crumbs.trans (by rw [hcrumbs]), fun n => ?_⟩
    obtain ⟨m₃, hcs, hend, hback₃⟩ := hback.restores hb ⟨_, hcrumbs⟩
      (congrArg Marker.horizon hmarker) (evaluator host n) m.current
    -- The number of breadcrumbs alone decides whether the rollback gets to its end.
    have hroll : (evaluator host n).rollBack marker m.current m₂ =
        if log.length < n then some (.ok (), m₃) else none := by
      rw [Evaluator.rollBack, rounds_evaluator, Evaluator.restoreAbove_of_restores _ hcs hend]
    refine ⟨fun hn => ⟨m₃, hroll.trans (if_pos hn)⟩, fun x m₄ hx => ?_⟩
    rw [hroll] at hx
    split at hx
    · obtain ⟨rfl, rfl⟩ := Prod.mk.inj (Option.some.inj hx)
      have hr := (bracketing.lawful (D := .plain) hhost').evaluator n
      have hb₃ := bracketing.restores hr hpre₁ ⟨_, hcrumbs⟩ hb hcs
      have hrestored := Restored.of_retraces hpre₁.2 hb₃ hback₃
      exact ⟨rfl, hrestored⟩
    · exact absurd hx (by simp)
  · exact absurd hok (by simp)

/-- A declaration of `x`, bound to a map with one entry. -/
def Restored.declaration : Stmt :=
  ⟨.declare (.variable ⟨"x", some (.map [(.literal .str "a", .literal .str "before")])⟩), .unknown⟩

/-- A body that stores into the map, lets a skip of its own bind something else, and is
    then reversed. -/
def Restored.body : Block :=
  [⟨.assign (.index (.ident "x") (.literal .str "a")) .set (.literal .str "after"), .unknown⟩,
    ⟨.skip [⟨.assign (.ident "x") .set (.literal .str "gone"), .unknown⟩] [], .unknown⟩,
    ⟨.reverse (.literal .truth "true"), .unknown⟩]

theorem Restored.plain_body : Stmt.Plain ⟨.skip body [], .unknown⟩ := by
  have hgone : ∀ {parts : Action → List Stmt} {p : Action → Prop} {s : Stmt},
      p s.action → parts s.action = [] → ∀ t ∈ [s], t.All parts p := fun h hparts =>
    List.forall_mem_singleton.2 (.leaf h hparts)
  have hreturnfree : ∀ s ∈ body, s.ReturnFree :=
    List.forall_mem_cons.2 ⟨.leaf (by simp) rfl, List.forall_mem_cons.2
      ⟨.mk (by simp) (hgone (by simp) rfl), hgone (by simp) rfl⟩⟩
  have hplain : ∀ s ∈ body, s.Plain :=
    List.forall_mem_cons.2 ⟨.leaf trivial rfl, List.forall_mem_cons.2
      ⟨.mk ⟨hgone (by simp) rfl, List.forall_mem_nil _⟩ (hgone trivial rfl), hgone trivial rfl⟩⟩
  refine .mk ⟨hreturnfree, List.forall_mem_nil _⟩ fun s hs => hplain s ?_
  exact (List.mem_append.1 hs).resolve_right List.not_mem_nil

theorem Reached.rollBack_restores_body :
    ∃ m m₁ m₂ m₃ marker payload, Reached .bare Value.WellFormed m ∧
      Run.openSkip m = some (.ok marker, m₁) ∧
      (evaluator .bare 9).block Restored.body m₁ = some (.error (.reversal payload), m₂) ∧
      (evaluator .bare 9).rollBack marker m.current m₂ = some (.ok (), m₃) ∧
      Restored m.scopes m₃.scopes := by
  have h : ((evaluator .bare 4).exec Restored.declaration .bare).any
      fun run => (run.1.isOk && !run.2.reversing) &&
        ((evaluator .bare 9).reversed? Restored.body run.2).any
          fun p => ((evaluator .bare 9).rollBack p.1 run.2.current p.2).isSome := by decide +kernel
  obtain ⟨⟨x, m⟩, hrun, h⟩ := (Option.any_eq_true _ _).1 h
  simp only [Bool.and_eq_true, Bool.not_eq_true'] at h
  obtain ⟨⟨hx, hrev⟩, h⟩ := h
  obtain ⟨⟨marker, m₂⟩, hreversed, hroll⟩ := (Option.any_eq_true _ _).1 h
  obtain ⟨m₁, payload, hopen, hbody⟩ := Evaluator.reversed?_eq_some hreversed
  obtain ⟨⟨y, m₃⟩, hroll⟩ := Option.isSome_iff_exists.1 hroll
  cases x with
  | error e => exact absurd hx (by simp [Except.isOk, Except.toBool])
  | ok flow =>
    have hinitial : Machine.Resting .plain .bare := .initial .default .bare
    have hplain : Restored.declaration.Plain := .leaf trivial rfl
    have hlawful := bracketing.lawful (Host.bare_keeps Discipline.plain.value)
    obtain ⟨⟨hb, -⟩, -⟩ := (hlawful.evaluator 4).exec _ hplain _ _ _ hinitial.pre hrun
    have hm : Reached .bare Value.WellFormed m := .executed (.rest (.start .default .bare)) hrun
    obtain ⟨log, -, hrolls⟩ := hm.rollBack_restores hrev Restored.plain_body
      (fun id name v f hv hf => (hb.bound id name v hv).of_holds hf)
      (Host.bare_keeps _) (Host.bare_keeps _) hopen hbody
    obtain ⟨rfl, hrestored⟩ := (hrolls 9).2 y m₃ hroll
    exact ⟨m, m₁, m₂, m₃, marker, payload, hm, hopen, hbody, hroll, hrestored⟩

end Retrace
