import Retrace.Proofs.Halting
import Retrace.Proofs.Requests

/-!
# Requests that are answered

A host that hands over straight statements only, in declarations and as the
functions among the arguments of calls, gets an answer to each of its requests
(`Session.straight_answered`). The fuel that this takes depends on what was asked
for before. But with enough fuel the answers are always the same, and so is the
machine in the end.
-/

namespace Retrace

/-- Whether all statements are straight that are handed over. -/
def Request.Straight : Request → Prop
  | .declare d => Stmt.Straight ⟨.declare d, .unknown⟩
  | .load ds => ∀ d ∈ ds, Stmt.Straight ⟨.declare d, .unknown⟩
  | .call _ args => ∀ v ∈ args, v.Straight
  | .runMain | .registerNative _ _ _ | .registerVariadic _ _ => True

namespace Machine.Resting

variable {host : Host} {m : Machine} (hm : m.Resting .straight)
include hm

theorem settle_ends {α : Type} {V : α → Prop} {x : Nat → Run α} (hx : ∀ k, Halts k V x) :
    ∃ enough p, ∀ fuel, enough ≤ fuel → m.settle (x fuel) = some p := by
  have hpre : Contract.straight.pre m := ⟨hm.pre, .of_settled hm.toSettled⟩
  -- All the calls that may be nested are left.
  obtain ⟨enough, ⟨r, m'⟩, hr⟩ := (hx m.settings.maxCallDepth).ends m hpre (Nat.le_add_left ..)
  cases r with
  | ok a => exact ⟨enough, (.ok a, m'), fun fuel hfuel => by rw [Machine.settle, hr fuel hfuel]⟩
  | error e =>
    exact ⟨enough, (.error e.toFailure, m'.reset), fun fuel hfuel => by rw [Machine.settle, hr fuel hfuel]⟩

variable (hhost : host.Keeps Value.Straight)
include hhost

theorem declare_ends {d : Decl} (hd : Stmt.Straight ⟨.declare d, .unknown⟩) :
    ∃ enough p, ∀ fuel, enough ≤ fuel → m.declare host fuel d = some p :=
  hm.settle_ends fun k => Evaluator.halts_declaration hhost (Evaluator.halts_expr hhost k) hd

theorem load_ends {ds : List Decl} (hds : ∀ d ∈ ds, Stmt.Straight ⟨.declare d, .unknown⟩) :
    ∃ enough p, ∀ fuel, enough ≤ fuel → m.load host fuel ds = some p := by
  induction ds generalizing m with
  | nil => exact ⟨0, (.ok (), m), fun _ _ => rfl⟩
  | cons d ds ih =>
    obtain ⟨hd, hds⟩ := List.forall_mem_cons.1 hds
    obtain ⟨enough, ⟨r, m'⟩, hr⟩ := hm.declare_ends hhost hd
    cases r with
    | error e =>
      refine ⟨enough, (.error e, m'), fun fuel hfuel => ?_⟩
      rw [Machine.load, hr fuel hfuel]
    | ok u =>
      obtain ⟨enough', p, hp⟩ := ih (hm.declare hhost hd (hr enough (Nat.le_refl _))) hds
      refine ⟨max enough enough', p, fun fuel hfuel => ?_⟩
      rw [Machine.load, hr fuel (Nat.le_trans (Nat.le_max_left _ _) hfuel)]
      exact hp fuel (Nat.le_trans (Nat.le_max_right _ _) hfuel)

theorem callFound_ends {f : Except Failure Value} (hf : ∀ v, f = .ok v → v.Straight)
    {args : List Value} (hargs : ∀ v ∈ args, v.Straight) :
    ∃ enough p, ∀ fuel, enough ≤ fuel → m.callFound host fuel f args = some p := by
  cases f with
  | error e => exact ⟨0, (.error e, m), fun _ _ => rfl⟩
  | ok f => exact hm.settle_ends fun k => Evaluator.halts_call hhost k (hf f rfl) hargs

/-- A request is answered, and the machine rests again. -/
theorem serve_ends {q : Request} (hq : q.Straight) :
    ∃ enough answer m', m'.Resting .straight ∧
      ∀ fuel, enough ≤ fuel → m.serve host fuel q = some (answer, m') := by
  have hanswered : ∀ {α : Type} {value : α → Option Value}
      {run : Nat → Option (Except Failure α × Machine)},
      (∀ fuel x m', run fuel = some (x, m') → m'.Resting .straight) →
      (∃ enough p, ∀ fuel, enough ≤ fuel → run fuel = some p) →
      ∃ enough answer m', m'.Resting .straight ∧
        ∀ fuel, enough ≤ fuel → answered value (run fuel) = some (answer, m') := by
    rintro α value run hresting ⟨enough, ⟨x, m'⟩, hrun⟩
    refine ⟨enough, x.map value, m', hresting enough x m' (hrun enough (Nat.le_refl _)),
      fun fuel hfuel => ?_⟩
    rw [answered, hrun fuel hfuel]
    rfl
  cases q with
  | declare d => exact hanswered (fun _ _ _ => hm.declare hhost hq) (hm.declare_ends hhost hq)
  | load ds => exact hanswered (fun _ _ _ => hm.load hhost hq) (hm.load_ends hhost hq)
  | runMain =>
    have hf : ∀ v, m.mainFunction = .ok v → v.Straight := fun _ => obey_mainFunction hm.bound
    exact hanswered (fun _ _ _ => hm.callFound hhost hf (List.forall_mem_nil _))
      (hm.callFound_ends hhost hf (List.forall_mem_nil _))
  | call name args =>
    have hf : ∀ v, m.scopes.get Scopes.global name = .ok v → v.Straight := fun _ hv =>
      hm.bound.get hv
    exact hanswered (fun _ _ _ => hm.callFound hhost hf hq) (hm.callFound_ends hhost hf hq)
  | registerNative | registerVariadic => exact ⟨0, .ok none, _, hm.addNative _, fun _ _ => rfl⟩

theorem serveAll_ends {qs : List Request} (hqs : ∀ q ∈ qs, q.Straight) :
    ∃ enough answers m', ∀ fuel, enough ≤ fuel →
      m.serveAll host (qs.map (fuel, ·)) = (answers, some m') := by
  induction qs generalizing m with
  | nil => exact ⟨0, [], m, fun _ _ => rfl⟩
  | cons q qs ih =>
    obtain ⟨hq, hqs⟩ := List.forall_mem_cons.1 hqs
    obtain ⟨enough, answer, m₁, hm₁, hserve⟩ := hm.serve_ends hhost hq
    obtain ⟨enough', answers, m', hrest⟩ := ih hm₁ hqs
    refine ⟨max enough enough', answer :: answers, m', fun fuel hfuel => ?_⟩
    rw [List.map_cons, serveAll, hserve fuel (Nat.le_trans (Nat.le_max_left _ _) hfuel)]
    dsimp only
    rw [hrest fuel (Nat.le_trans (Nat.le_max_right _ _) hfuel)]

end Machine.Resting

/-- If all statements that are handed over are straight, each request is answered if there is
    enough fuel, whatever the settings. -/
theorem Session.straight_answered {host : Host} (hhost : host.Keeps Value.Straight)
    (settings : Settings) (files : Files) {qs : List Request} (hqs : ∀ q ∈ qs, q.Straight) :
    ∃ enough answers m, ∀ fuel, enough ≤ fuel →
      (Machine.initial settings files).serveAll host (qs.map (fuel, ·)) = (answers, some m) :=
  (Machine.Resting.initial settings files).serveAll_ends hhost hqs

/-- A main function that calls itself from a skip, and once more from the pattern of the seize
    if a reversal leaves the body. -/
def Session.recurring : Decl :=
  .function "main" [] [⟨.skip
    [⟨.expr (.call (.ident "main") []) none, .unknown⟩,
      ⟨.reverse (.literal .int "1"), .unknown⟩]
    [⟨some (.call (.ident "main") []), []⟩], .unknown⟩]

theorem Session.straight_recurring : Stmt.Straight ⟨.declare recurring, .unknown⟩ :=
  .mk trivial (List.forall_mem_singleton.2 (.mk trivial
    (List.forall_mem_cons.2 ⟨.leaf rfl rfl, List.forall_mem_singleton.2 (.leaf trivial rfl)⟩)))

theorem Session.straight_answered_recurring :
    ∃ enough answers m, ∀ fuel, enough ≤ fuel →
      Machine.bare.serveAll .bare
        ([.declare recurring, .runMain].map (fuel, ·)) = (answers, some m) :=
  straight_answered (Host.bare_keeps _) .default .bare
    (List.forall_mem_cons.2 ⟨straight_recurring, List.forall_mem_singleton.2 trivial⟩)

end Retrace
