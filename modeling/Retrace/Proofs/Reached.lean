import Retrace.Proofs.Sessions

/-!
# The states of runs

The machines in which a part of a program comes to be run (`Reached`): first
those between requests, then whatever is reached from them when parts are run to
their end, when blocks and calls and skips are entered, when a statement is
about to be replayed in the midst of a rollback, and when a reversal has been
taken back and the seizes are tried.

In each of them, whatever is run leaves the machine *framed* (`Framed`), however
it ends (`Reached.framed`). This is what bracketing comes to once it is known
that without an open skip the ledger is empty, which holds in each of them as
well (`Reached.sane`).
-/

namespace Retrace

open Evaluator in
/-- The machines in which an expression, a statement, a block, a call or a skip may come
    to be run. -/
inductive Reached (host : Host) (P : Value → Prop) : Machine → Prop
  /-- Between requests. -/
  | rest {m : Machine} : Session host P m → Reached host P m
  /-- A statement is begun. -/
  | located {m : Machine} (l : Location) : Reached host P m →
      Reached host P { m with location := l }
  /-- An expression has been evaluated. -/
  | evaluated {m m' : Machine} {fuel : Nat} {e : Expr} {v : Value} : Reached host P m →
      (evaluator host fuel).eval e m = some (.ok v, m') → Reached host P m'
  /-- A statement has been run. -/
  | executed {m m' : Machine} {fuel : Nat} {s : Stmt} {flow : Flow} : Reached host P m →
      (evaluator host fuel).exec s m = some (.ok flow, m') → Reached host P m'
  /-- A block is entered. -/
  | block {m : Machine} : Reached host P m → Reached host P (m.enter m.current)
  /-- A call is entered, and the arguments have been bound. -/
  | call {m m' : Machine} {binds : List (String × Value)} : Reached host P m →
      m.callDepth < m.settings.maxCallDepth → (∀ b ∈ binds, P b.2) →
      Run.declareAll binds m.enterCall = some (.ok (), m') → Reached host P m'
  /-- A skip is entered. -/
  | skip {m : Machine} {marker : Marker} {l : Ledger} : Reached host P m →
      m.ledger.openSkip m.scopes.nextSerial = .ok (marker, l) →
      Reached host P { m with ledger := l }
  /-- In a rollback some breadcrumbs have been restored, and the next one is to run a
      statement. -/
  | replay {m m₂ m₃ : Machine} {marker : Marker} {l l₃ : Ledger} {fuel : Nat} {body : Block}
      {payload : Value} {cs : List Breadcrumb} {scope : ScopeId} {undo : Stmt} :
      Reached host P m → m.ledger.openSkip m.scopes.nextSerial = .ok (marker, l) →
      (evaluator host fuel).block body { m with ledger := l } =
        some (.error (.reversal payload), m₂) →
      (evaluator host fuel).Restores marker m.current m₂ cs m₃ →
      m₃.ledger.popAbove marker = some (.replay scope undo, l₃) →
      Reached host P { m₃ with
        ledger := l₃
        current := if m₃.scopes.contains scope then scope else m.current }
  /-- A skip has been rolled back and resolved. -/
  | reversed {m m₂ m₃ : Machine} {marker : Marker} {l : Ledger} {fuel : Nat} {body : Block}
      {payload : Value} : Reached host P m →
      m.ledger.openSkip m.scopes.nextSerial = .ok (marker, l) →
      (evaluator host fuel).block body { m with ledger := l } =
        some (.error (.reversal payload), m₂) →
      (evaluator host fuel).rollBack marker m.current m₂ = some (.ok (), m₃) →
      Reached host P (m₃.closeSkip marker)
  /-- A seize takes a reversal. -/
  | seize {m : Machine} : Reached host P m → Reached host P { m with reversing := false }

/-- Calls are not nested too deeply, the ledger is empty unless a skip is open, and what is
    bound obeys a discipline. -/
structure Sane (D : Discipline) (m : Machine) : Prop where
  pre : (bracketing D).pre m
  callDepth : m.callDepth ≤ m.settings.maxCallDepth

variable {D : Discipline} {host : Host} {P : Value → Prop} {m m' : Machine}

theorem Sane.of_bracketed (h : Sane D m) (hb : Bracketed D m m') : Sane D m' where
  pre := ⟨hb.ledger.tidy h.pre.1, hb.bound⟩
  callDepth := by
    rw [hb.callDepth, hb.settings]
    exact h.callDepth

section

variable (hhost : host.Keeps D.value) (hstmt : ∀ s, D.stmt s) (hP : ∀ v, P v → D.value v)
include hhost hstmt hP

theorem Reached.sane (h : Reached host P m) : Sane D m := by
  have hlawful := bracketing.lawful hhost
  induction h with
  | rest h =>
    have hm : Machine.Resting D _ := .of_session hhost hstmt hP h
    exact ⟨hm.pre, hm.callDepth ▸ Nat.zero_le _⟩
  | located l _ ih => exact ⟨ih.pre, ih.callDepth⟩
  | evaluated _ hr ih =>
    obtain ⟨⟨hb, -⟩, -⟩ := (hlawful.evaluator _).eval _ _ _ _ ih.pre hr
    exact ih.of_bracketed hb
  | executed _ hr ih =>
    obtain ⟨⟨hb, -⟩, -⟩ := (hlawful.evaluator _).exec _ (hstmt _) _ _ _ ih.pre hr
    exact ih.of_bracketed hb
  | block _ ih => exact ⟨bracketing.pre_enter ih.pre _, ih.callDepth⟩
  | call _ hdepth hbinds hr ih =>
    -- The depth was below its limit before the call was entered.
    have henter : Sane D _ := ⟨bracketing.pre_enterCall ih.pre, hdepth⟩
    obtain ⟨⟨hb, -⟩, -⟩ := hlawful.declareAll (fun b hb => hP _ (hbinds b hb)) _ _ _ henter.pre hr
    exact henter.of_bracketed hb
  | skip _ hl ih => exact ⟨bracketing.pre_open hl ih.pre, ih.callDepth⟩
  | replay _ hl hbody hcs hpop ih =>
    have hpre := bracketing.pre_open hl ih.pre
    have hmarker : ∃ cs, Ledger.crumbs _ = _ :: cs := ⟨_, (Ledger.openSkip_eq_ok hl).2.1⟩
    obtain ⟨⟨hb, -⟩, -⟩ := hlawful.block (hlawful.evaluator _) (fun s _ => hstmt s) _ _ _ hpre hbody
    have hb := bracketing.restores (hlawful.evaluator _) hpre hmarker hb hcs
    -- The breadcrumb is taken from the ledger before its statement is run.
    have hb := hb.withLedger (hb.ledger.popAbove hmarker hpop).2
    have hsane : Sane D _ := Sane.of_bracketed ⟨hpre, ih.callDepth⟩ hb
    exact ⟨hsane.pre, hsane.callDepth⟩
  | reversed _ hl hbody hroll ih =>
    have hpre := bracketing.pre_open hl ih.pre
    obtain ⟨⟨hb, -⟩, -⟩ := hlawful.block (hlawful.evaluator _) (fun s _ => hstmt s) _ _ _ hpre hbody
    obtain ⟨hb, -⟩ := bracketing.restoreAbove (hlawful.evaluator _) hpre
      ⟨_, (Ledger.openSkip_eq_ok hl).2.1⟩ hb hroll
    exact ih.of_bracketed (bracketing.closeSkip hl ih.pre hb)
  | seize _ ih => exact ⟨ih.pre, ih.callDepth⟩

end

theorem Reached.sane_any (h : Reached host P m) : Sane .any m :=
  h.sane host.keeps_any (fun _ => trivial) fun _ _ => trivial

/-- If the host keeps values well-formed, then all that is bound is so. -/
theorem Reached.wellFormed (h : Reached host Value.WellFormed m)
    (hhost : host.Keeps Value.WellFormed) : m.scopes.Obey Value.WellFormed :=
  (h.sane (D := .sound (fun _ => True) fun _ _ _ => trivial) hhost (fun _ => trivial)
    fun _ hv => hv).pre.2

/-- What the body of a skip leaves as it was. -/
theorem Reached.bracketed_body {m₂ : Machine} {marker : Marker} {l : Ledger} {fuel : Nat}
    {body : Block} {y : Except Stop Flow} (hm : Reached host P m)
    (hl : m.ledger.openSkip m.scopes.nextSerial = .ok (marker, l))
    (hbody : (evaluator host fuel).block body { m with ledger := l } = some (y, m₂)) :
    (bracketing .any).pre { m with ledger := l } ∧ Bracketed .any { m with ledger := l } m₂ := by
  have hlawful := bracketing.lawful host.keeps_any
  have hpre := bracketing.pre_open hl hm.sane_any.pre
  obtain ⟨⟨hb, -⟩, -⟩ :=
    hlawful.block (hlawful.evaluator fuel) (fun _ _ => trivial) _ _ _ hpre hbody
  exact ⟨hpre, hb⟩

/-- What a run leaves as it was, however it ends. -/
structure Framed (m m' : Machine) : Prop where
  /-- The same scopes are live, with the same parents and in the same order. -/
  scopes : m'.scopes.skeleton = m.scopes.skeleton
  current : m'.current = m.current
  callDepth : m'.callDepth = m.callDepth
  /-- Calls are not nested more deeply than they may be. -/
  le_maxCallDepth : m'.callDepth ≤ m'.settings.maxCallDepth
  openSkips : m'.ledger.openSkips = m.ledger.openSkips
  /-- The breadcrumbs there were stand below what has been recorded, which has no markers. -/
  crumbs : ∃ added, m'.ledger.crumbs = added ++ m.ledger.crumbs ∧
    ∀ c ∈ added, c.isMarker = false

theorem Framed.of_bracketed (hm : Sane D m) (hb : Bracketed D m m') : Framed m m' where
  scopes := hb.skeleton
  current := hb.current
  callDepth := hb.callDepth
  le_maxCallDepth := (hm.of_bracketed hb).callDepth
  openSkips := hb.ledger.openSkips
  crumbs := by
    obtain ⟨added, hc, hadded, -⟩ := hb.ledger.crumbs
    refine ⟨added, hc, fun c hmem => ?_⟩
    cases c with
    | marker marker => exact absurd (hadded _ hmem) id
    | _ => rfl

/-- A skip whose body returns or fails leaves the ledger as it was. Only the number of the
    next skip moves on. -/
theorem Sane.ledger_skip (hhost : host.Keeps D.value) (hstmt : ∀ s, D.stmt s) (hm : Sane D m)
    {fuel : Nat} {body : Block} {seizes : List Seize} {marker : Marker} {l : Ledger}
    {y x : Except Stop Flow} {m₂ : Machine}
    (hl : m.ledger.openSkip m.scopes.nextSerial = .ok (marker, l))
    (hbody : (evaluator host fuel).block body { m with ledger := l } = some (y, m₂))
    (hy : (∃ v, y = .ok (.returned v)) ∨ ∃ e, y = .error (.failure e))
    (hx : (evaluator host fuel).skip body seizes m = some (x, m')) :
    ∃ n, m'.ledger = { m.ledger with nextMarker := n } := by
  have hlawful := bracketing.lawful hhost
  have hblock := hlawful.block (hlawful.evaluator fuel) (b := body) fun s _ => hstmt s
  cases (evaluator host fuel).skipped hx with
  | full => exact ⟨m.ledger.nextMarker, rfl⟩
  | returned hl' hbody' =>
    obtain ⟨⟨hb, -⟩, -⟩ := hblock _ _ _ (bracketing.pre_open hl' hm.pre) hbody'
    exact ⟨_, bracketing.ledger_discardSkip hl' hm.pre hb⟩
  | failed hl' hbody' =>
    obtain ⟨⟨hb, -⟩, -⟩ := hblock _ _ _ (bracketing.pre_open hl' hm.pre) hbody'
    exact ⟨_, bracketing.ledger_discardSkip hl' hm.pre hb⟩
  | closed hl' hbody' hflow =>
    obtain ⟨rfl, rfl⟩ := Prod.mk.inj (Except.ok.inj (hl.symm.trans hl'))
    -- The body has only one way to end, and here it is not the one that was assumed.
    obtain ⟨rfl, -⟩ := Prod.mk.inj (Option.some.inj (hbody.symm.trans hbody'))
    obtain ⟨v, hv⟩ | ⟨e, he⟩ := hy
    · exact absurd (Except.ok.inj hv) (hflow v)
    · exact absurd he (by simp)
  | stuck hl' hbody' | reversed hl' hbody' =>
    obtain ⟨rfl, rfl⟩ := Prod.mk.inj (Except.ok.inj (hl.symm.trans hl'))
    obtain ⟨rfl, -⟩ := Prod.mk.inj (Option.some.inj (hbody.symm.trans hbody'))
    obtain ⟨v, hv⟩ | ⟨e, he⟩ := hy
    · exact absurd hv (by simp)
    · exact absurd he (by simp)

/-- Whatever is run in a state of a run leaves the machine framed, however it ends; and a
    skip whose body returns or fails leaves the ledger as it was. -/
theorem Reached.framed (hm : Reached host P m) (fuel : Nat) :
    (∀ e x m', (evaluator host fuel).eval e m = some (x, m') → Framed m m') ∧
      (∀ s x m', (evaluator host fuel).exec s m = some (x, m') → Framed m m') ∧
      (∀ b x m', (evaluator host fuel).block b m = some (x, m') → Framed m m') ∧
      (∀ f args x m', (evaluator host fuel).callValue host f args m = some (x, m') →
        Framed m m') ∧
      ∀ body seizes x m', (evaluator host fuel).skip body seizes m = some (x, m') →
        Framed m m' ∧
          ∀ marker m₁ y m₂, Run.openSkip m = some (.ok marker, m₁) →
            (evaluator host fuel).block body m₁ = some (y, m₂) →
            ((∃ v, y = .ok (.returned v)) ∨ ∃ e, y = .error (.failure e)) →
            ∃ n, m'.ledger = { m.ledger with nextMarker := n } := by
  have hsane : Sane .any m := hm.sane host.keeps_any (fun _ => trivial) fun _ _ => trivial
  have hlawful := bracketing.lawful host.keeps_any
  have hr := hlawful.evaluator fuel
  have hframed : ∀ {α : Type} {V : α → Prop} {x : Run α}, (bracketing .any).Meets V x →
      ∀ y m', x m = some (y, m') → Framed m m' := by
    intro α V x hx y m' hy
    obtain ⟨⟨hb, -⟩, -⟩ := hx m y m' hsane.pre hy
    exact .of_bracketed hsane hb
  refine ⟨fun e => hframed (hr.eval e), fun s => hframed (hr.exec s trivial),
    fun b => hframed (hlawful.block hr fun _ _ => trivial),
    fun f args => hframed (hlawful.callValue hr trivial fun _ _ => trivial),
    fun body seizes x m' hx => ⟨?_, ?_⟩⟩
  · have hstmt : Discipline.any.stmt ⟨.skip body seizes, .unknown⟩ := trivial
    exact hframed (hlawful.skip fuel hr hstmt) x m' hx
  · intro marker m₁ y m₂ hopen hbody hy
    obtain ⟨_, l, hl, h, rfl⟩ | ⟨e, h, -⟩ := Run.openSkip_eq_some hopen
    · obtain rfl := Except.ok.inj h
      exact hsane.ledger_skip host.keeps_any (fun _ => trivial) hl hbody hy hx
    · exact absurd h (by simp)

/-- Whether a run ended by returning a value that satisfies `p`. -/
def Flow.isReturned (p : Value → Bool) : Except Stop Flow → Bool
  | .ok (.returned v) => p v
  | _ => false

theorem Flow.exists_of_isReturned {p : Value → Bool} {x : Except Stop Flow}
    (h : isReturned p x) : ∃ v, x = .ok (.returned v) ∧ p v := by
  rw [isReturned.eq_def] at h
  split at h
  · exact ⟨_, rfl, h⟩
  · exact absurd h (by simp)

/-- A block that assigns to a variable of its own in a skip, takes that back and returns the
    variable. -/
def Framed.retracing : Stmt :=
  ⟨.block [
    ⟨.declare (.variable ⟨"x", some (.literal .str "before")⟩), .unknown⟩,
    ⟨.skip
      [⟨.assign (.ident "x") .set (.literal .str "after"), .unknown⟩,
        ⟨.reverse (.literal .truth "true"), .unknown⟩]
      [⟨none, [⟨.ret (some (.ident "x")), .unknown⟩]⟩], .unknown⟩], .unknown⟩

theorem Reached.framed_retracing :
    ∃ v m', (evaluator .bare 9).exec Framed.retracing .bare =
        some (.ok (.returned v), m') ∧
      v.equals (.str "before") ∧ Framed .bare m' := by
  have h : ((evaluator .bare 9).exec Framed.retracing .bare).any
      fun run => Flow.isReturned (·.equals (.str "before")) run.1 := by decide +kernel
  obtain ⟨⟨x, m'⟩, hrun, hx⟩ := (Option.any_eq_true _ _).1 h
  obtain ⟨v, rfl, hv⟩ := Flow.exists_of_isReturned hx
  have hm : Reached .bare (fun _ => True) .bare := .rest (.start .default .bare)
  exact ⟨v, m', hrun, hv, (hm.framed 9).2.1 _ _ _ hrun⟩

end Retrace
