import Retrace.Proofs.Anchoring
import Retrace.Proofs.Requests

/-!
# Which failures there are

Some failures would tell of a mistake in the machine itself: a handle to a scope
that is gone, the marker of an open skip in the midst of a rollback, an entry
that is kept without its key or whose name is not bound any more, a scope that is
gone although it is older than the skip. No request is answered with one of
these (`Session.answers_properly`). That a breadcrumb could not be restored is
answered only if a statement that was replayed did not end normally, and if it
failed, its failure is none of these either (`Failure.Proper`).
-/

namespace Retrace

mutual

/-- Whether it is not due to a mistake in the machine. -/
def Failure.Proper : Failure → Prop
  | .staleScope _ => False
  | .restoreFailed why => why.Proper
  | _ => True

/-- Whether it is due to a statement that was replayed and did not end normally. -/
def RestoreFailure.Proper : RestoreFailure → Prop
  | .undoEnded _ => True
  | .undoReversed _ => True
  | .undoFailed e => e.Proper
  | _ => False

end

theorem Failure.admits_proper : Failure.Admits Failure.Proper where
  ordinary {e} h := by
    cases e with
    | staleScope | restoreFailed => exact absurd h id
    | _ => simp [Failure.Proper]
  unhandled payload := by simp [Failure.Proper]
  undoEnded flow := by simp [Failure.Proper, RestoreFailure.Proper]
  undoReversed payload := by simp [Failure.Proper, RestoreFailure.Proper]
  undoFailed h := by simpa [Failure.Proper, RestoreFailure.Proper] using h

namespace Machine.Settled

variable {F : Failure → Prop} (hF : Failure.Admits F) {m m' : Machine} {e : Failure}
include hF

theorem of_get_eq_error (h : m.Settled) {name : String}
    (he : m.scopes.get Scopes.global name = .error e) : F e := by
  have hrooted := (Anchored.of_settled h).rooted
  rw [hrooted.get_eq_error hrooted.global he]
  exact hF.ordinary trivial

theorem of_mainFunction_eq_error (h : m.Settled) (he : m.mainFunction = .error e) : F e := by
  have hrooted := (Anchored.of_settled h).rooted
  rw [mainFunction, Scopes.getLocal_eq hrooted.global] at he
  simp only [bind, Except.bind] at he
  split at he
  · exact absurd he (by simp)
  · exact Except.error.inj he ▸ hF.ordinary trivial

end Machine.Settled

namespace Machine.Resting

variable {F : Failure → Prop} (hF : Failure.Admits F) {host : Host} {m m' : Machine} {fuel : Nat}
  {e : Failure}

/-- A run that is carried out for the host ends with a failure there may be, or with a reversal
    that nothing took. -/
theorem settle_fails (h : m.Resting .any) {α : Type} {V : α → Prop} {x : Run α}
    (hx : (anchoring .any True hF).Meets V x) (hr : m.settle x = some (.error e, m')) : F e := by
  have hpre : (anchoring .any True hF).pre m := ⟨h.pre, .of_settled h.toSettled⟩
  obtain ⟨a, -, ha⟩ | ⟨reason, m₁, hr', he, -⟩ := settle_eq_some hr
  · exact absurd ha (by simp)
  · obtain rfl := Except.error.inj he
    cases reason with
    | reversal payload => exact hF.unhandled payload
    | failure e => exact (anchoring.anchored hx hpre hr').2 e rfl

variable (hhost : host.FailsBy F)
include hF hhost

theorem declare_fails (h : m.Resting .any) {d : Decl}
    (hr : m.declare host fuel d = some (.error e, m')) : F e := by
  have hlawful : (anchoring .any True hF).Lawful host :=
    anchoring.lawful host.keeps_any hhost fun _ => trivial
  have hd : Discipline.any.stmt ⟨.declare d, .unknown⟩ := trivial
  exact h.settle_fails hF (hlawful.declaration (hlawful.evaluator fuel) hd) hr

theorem load_fails (h : m.Resting .any) {ds : List Decl}
    (hr : m.load host fuel ds = some (.error e, m')) : F e := by
  induction ds generalizing m with
  | nil => exact absurd (load_nil_eq_some hr).1 (by simp)
  | cons d ds ih =>
    obtain ⟨m₁, hd, hr⟩ | hr := load_cons_eq_some hr
    · exact ih (h.declare host.keeps_any trivial hd) hr
    · exact h.declare_fails hF hhost hr

theorem callFound_fails (h : m.Resting .any) {f : Except Failure Value}
    (hf : ∀ e, f = .error e → F e) {args : List Value}
    (hr : m.callFound host fuel f args = some (.error e, m')) : F e := by
  have hlawful : (anchoring .any True hF).Lawful host :=
    anchoring.lawful host.keeps_any hhost fun _ => trivial
  cases f with
  | ok f =>
    have hargs : ∀ v ∈ args, Discipline.any.value v := fun _ _ => trivial
    exact h.settle_fails hF (hlawful.callValue (hlawful.evaluator fuel) (f := f) trivial hargs) hr
  | error e' =>
    obtain ⟨he, -⟩ := Prod.mk.inj (Option.some.inj hr)
    exact hf e (by rw [Except.error.inj he])

/-- Whatever is asked for, the answer is no failure but one there may be. -/
theorem serve_fails (h : m.Resting .any) {q : Request}
    (hr : m.serve host fuel q = some (.error e, m')) : F e := by
  rcases Machine.failed_of_serve hr with ⟨d, hr⟩ | ⟨ds, hr⟩ | hr | ⟨name, args, hr⟩
  · exact h.declare_fails hF hhost hr
  · exact h.load_fails hF hhost hr
  · exact h.callFound_fails hF hhost (fun _ => h.toSettled.of_mainFunction_eq_error hF) hr
  · exact h.callFound_fails hF hhost (fun _ => h.toSettled.of_get_eq_error hF) hr

end Machine.Resting

/-- If native functions of the host fail properly, then so does every request, whatever was
    asked for before. -/
theorem Session.answers_properly {host : Host} (hhost : host.FailsBy Failure.Proper)
    {P : Value → Prop} {m m' : Machine} (hm : Session host P m) {fuel : Nat} {q : Request}
    {e : Failure} (h : m.serve host fuel q = some (.error e, m')) : e.Proper := by
  have hresting : m.Resting .any :=
    .of_session host.keeps_any (fun _ => trivial) (fun _ _ => trivial) hm
  exact hresting.serve_fails Failure.admits_proper hhost h

theorem Host.bare_failsBy {F : Failure → Prop} (hF : Failure.Admits F) : bare.FailsBy F :=
  fun _ => .fail (hF.ordinary trivial)

/-- Whether a breadcrumb could not be restored. -/
def Failure.isRestoreFailed : Failure → Bool
  | .restoreFailed _ => true
  | _ => false

/-- A program that replays a statement in which a name is not bound. -/
def Session.misreplaying : List Decl :=
  [.function "main" [] [⟨.skip
    [⟨.expr (.literal .int "1") (some ⟨.expr (.ident "x") none, .unknown⟩), .unknown⟩,
      ⟨.reverse (.literal .int "2"), .unknown⟩] [], .unknown⟩]]

theorem Session.answers_properly_misreplaying :
    ∃ m e m', Session .bare (fun _ => True) m ∧
      m.serve .bare 9 .runMain = some (.error e, m') ∧ e.isRestoreFailed ∧ e.Proper := by
  have h : (Machine.bare.load .bare 5 misreplaying).any fun loaded =>
      (loaded.2.serve .bare 9 .runMain).any fun served =>
        match served.1 with
        | .ok _ => false
        | .error e => e.isRestoreFailed := by decide +kernel
  obtain ⟨⟨answer, m⟩, hload, h⟩ := (Option.any_eq_true _ _).1 h
  obtain ⟨⟨x, m'⟩, hserve, h⟩ := (Option.any_eq_true _ _).1 h
  have hm : Session .bare (fun _ => True) m := .serve (.start .default .bare) (.load hload)
  cases x with
  | ok v => exact absurd h (by simp)
  | error e =>
    exact ⟨m, e, m', hm, hserve, h,
      hm.answers_properly (Host.bare_failsBy Failure.admits_proper) hserve⟩

end Retrace
