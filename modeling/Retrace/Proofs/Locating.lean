import Retrace.Proofs.Begun
import Retrace.Proofs.Requests

/-!
# Where a failure is reported

When a request fails, the machine is left with the location of the statement that was
begun last. This is to tell which statement failed: not one that has begun another one
which failed, but the one that failed by its own work (`Begun.FailsItself`), and in which
the failure of the others was raised (`Begun.Raises`).

Whatever fails inside a request makes the request fail, and nothing is begun after
that. So the location is the one that is left by the statement the failure was raised
in. It is the location of this statement if it had not begun any other one. If it had,
the location is the one left by one of those, even though that one had gone to its end
(`Machine.failures_located`): the statement that divides what a function returns by zero
is reported at the location of the `return` in the function
(`Machine.not_locatesFailures`).
-/

namespace Retrace

namespace Begun

variable {host : Host} {b c : Begun} {m : Machine}

/-- When it is run the statement begins another one. -/
inductive Begins (host : Host) : Begun → Begun → Prop
  | mk {fuel : Nat} {s : Stmt} {m : Machine} {c : Begun} :
      Retrace.Begins host (fun exec => (executing host exec fuel).statement s) m c →
      Begins host ⟨fuel + 1, s, m⟩ c

/-- The statement fails, and leaves the machine `m`. -/
def FailsIn (host : Host) (b : Begun) (m : Machine) : Prop :=
  ∃ e, b.run host.executor = some (.error (.failure e), m)

/-- The statement fails by its own work: it fails, but no statement that it has begun does. -/
structure FailsItself (host : Host) (b : Begun) : Prop where
  fails : ∃ m, b.FailsIn host m
  inside : ∀ c m, b.Begins host c → ¬c.FailsIn host m

/-- What fails in the first statement is the work of the second one. -/
inductive Raises (host : Host) : Begun → Begun → Prop
  | itself {b : Begun} : b.FailsItself host → Raises host b b
  | inside {b c d : Begun} : b.Begins host c → Raises host c d → Raises host b d

/-- When a statement has come to its end, its location is what the last one of those it has begun
    has left; and if one of them has failed, so has it. -/
theorem exists_course {out : Except Stop Flow × Machine} (h : b.run host.executor = some out) :
    ∃ bs, (∀ c, b.Begins host c ↔ c ∈ bs) ∧ Leaves host b.stmt.location bs out.2.location ∧
      ∀ c ∈ bs, ∀ w, c.FailsIn host w → b.FailsIn host out.2 ∧ out.2.location = w.location := by
  obtain ⟨fuel, s, m⟩ := b
  cases fuel with
  | zero => exact absurd h (by simp [run, Host.executor, evaluator, Evaluator.starved, Run.starved])
  | succ fuel =>
    obtain ⟨bs, hbs⟩ := exists_course_statement h
    refine ⟨bs, fun c => ⟨?_, fun hc => .mk (hbs.begins_iff.2 hc)⟩, hbs.leaves, ?_⟩
    · rintro ⟨hc⟩
      exact hbs.begins_iff.1 hc
    · rintro c hc w ⟨e, hw⟩
      obtain ⟨⟨e', he'⟩, hlocation⟩ := hbs.fails c hc e w hw
      exact ⟨⟨e', h.trans (congrArg some (Prod.ext he' rfl))⟩, hlocation⟩

theorem Begins.exists_run (h : b.Begins host c) : ∃ out, b.run host.executor = some out := by
  obtain ⟨h⟩ := h
  obtain ⟨out, hout⟩ := h.ends
  rw [executing_executor] at hout
  exact ⟨out, hout⟩

/-- Less fuel is left for the statements that are begun. -/
theorem Begins.fuel_lt (h : b.Begins host c) : c.fuel < b.fuel := by
  obtain ⟨h⟩ := h
  rename_i fuel s m
  refine Classical.byContradiction fun hlt => ?_
  -- Without the statement all that has less fuel would be run as ever.
  obtain ⟨exec, hothers, hnone⟩ := c.exists_without host
  have hexec : ∀ n, n ≤ fuel → exec n = host.executor n := fun n hn => by
    funext s' m'
    refine hothers ⟨n, s', m'⟩ fun heq => hlt ?_
    rw [← heq]
    exact Nat.lt_succ_of_le hn
  obtain ⟨out, hout⟩ := h.ends
  have hneeds := h.needs exec hothers hnone
  rw [executing_congr hexec] at hneeds
  exact absurd (hout.symm.trans hneeds) (by simp)

/-- A failure that is raised in a statement is passed on, and its location with it. -/
theorem Raises.fails (h : b.Raises host c) :
    ∃ m w, b.FailsIn host m ∧ c.FailsIn host w ∧ m.location = w.location := by
  induction h with
  | itself h =>
    obtain ⟨m, hm⟩ := h.fails
    exact ⟨m, m, hm, hm, rfl⟩
  | inside hbegins _ ih =>
    obtain ⟨m, w, hm, hw, hlocation⟩ := ih
    obtain ⟨out, hout⟩ := hbegins.exists_run
    obtain ⟨bs, hbs, -, hfails⟩ := exists_course hout
    obtain ⟨hfails, hleft⟩ := hfails _ ((hbs _).1 hbegins) m hm
    exact ⟨out.2, w, hfails, hw, hleft.trans hlocation⟩

/-- Every failure is raised in some statement. -/
theorem exists_raises (h : b.FailsIn host m) : ∃ c, b.Raises host c := by
  -- The induction is on the fuel.
  obtain ⟨n, hn⟩ : ∃ n, n = b.fuel := ⟨_, rfl⟩
  induction n using Nat.strongRecOn generalizing b m with
  | ind n ih =>
    by_cases hinside : ∃ c w, b.Begins host c ∧ c.FailsIn host w
    · obtain ⟨c, w, hc, hw⟩ := hinside
      obtain ⟨d, hd⟩ := ih c.fuel (hn ▸ hc.fuel_lt) hw rfl
      exact ⟨d, .inside hc hd⟩
    · exact ⟨b, .itself ⟨⟨m, h⟩, fun c w hc hw => hinside ⟨c, w, hc, hw⟩⟩⟩

theorem Raises.failsItself (h : b.Raises host c) : c.FailsItself host := by
  induction h with
  | itself h => exact h
  | inside _ _ ih => exact ih

/-- A statement that fails by its own work leaves its own location, or one that is left by a
    statement that it has begun and that has not failed. -/
theorem FailsItself.location (h : b.FailsItself host) (hm : b.FailsIn host m) :
    (∀ c, ¬b.Begins host c) ∧ m.location = b.stmt.location ∨
      ∃ c r w, b.Begins host c ∧ c.run host.executor = some (r, w) ∧
        (∀ e, r ≠ .error (.failure e)) ∧ m.location = w.location := by
  obtain ⟨e, hm⟩ := hm
  obtain ⟨bs, hbs, hleaves, -⟩ := exists_course hm
  dsimp only at hleaves
  generalize m.location = l at hleaves ⊢
  cases hleaves with
  | nil => exact .inl ⟨fun c hc => absurd ((hbs c).1 hc) List.not_mem_nil, rfl⟩
  | @last c out bs hrun =>
    have hc := (hbs c).2 (List.mem_append_right _ (List.mem_singleton_self c))
    refine .inr ⟨c, out.1, out.2, hc, hrun, fun e he => h.inside c out.2 hc ⟨e, ?_⟩, rfl⟩
    exact hrun.trans (congrArg some (Prod.ext he rfl))

end Begun

/-! ### Requests -/

/-- The statement is begun while the request is carried out in `m`. -/
inductive Request.Begins (host : Host) (fuel : Nat) (m : Machine) : Request → Begun → Prop
  | declare {d : Decl} {b : Begun} :
      Retrace.Begins host (fun exec => (executing host exec fuel).declaration d) m b →
      Begins host fuel m (.declare d) b
  | load {front rest : List Decl} {d : Decl} {m₁ : Machine} {b : Begun} :
      m.load host fuel front = some (.ok (), m₁) →
      Retrace.Begins host (fun exec => (executing host exec fuel).declaration d) m₁ b →
      Begins host fuel m (.load (front ++ d :: rest)) b
  | runMain {f : Value} {b : Begun} : m.mainFunction = .ok f →
      Retrace.Begins host (fun exec => (executing host exec fuel).callValue host f []) m b →
      Begins host fuel m .runMain b
  | call {name : String} {args : List Value} {f : Value} {b : Begun} :
      m.scopes.get Scopes.global name = .ok f →
      Retrace.Begins host (fun exec => (executing host exec fuel).callValue host f args) m b →
      Begins host fuel m (.call name args) b

namespace Machine

variable {host : Host} {fuel : Nat} {m m₁ m' : Machine} {b c : Begun}

/-- If what fails in a run for the host was raised in some statement, the run fails, and the
    location is the one that is left by this statement. -/
theorem settle_of_raises {α : Type} {x : Executor → Run α} (hx : Traceable host x)
    (hb : Begins host x m b) (hc : b.Raises host c) {answer : Except Failure α}
    (h : m.settle (x host.executor) = some (answer, m')) :
    (∃ e, answer = .error e) ∧ ∃ w, c.FailsIn host w ∧ m'.location = w.location := by
  obtain ⟨w₁, w, ⟨e, hw₁⟩, hw, hlocation⟩ := hc.fails
  have hout : ∀ {out}, x host.executor m = some out →
      (∃ e, out.1 = .error (.failure e)) ∧ out.2.location = w.location := by
    intro out hout
    obtain ⟨bs, hbs⟩ := hx m out hout
    obtain ⟨he, hleft⟩ := hbs.fails b (hbs.begins_iff.1 hb) e w₁ hw₁
    exact ⟨he, hleft.trans hlocation⟩
  obtain ⟨a, hrun, -⟩ | ⟨reason, m₁, hrun, rfl, rfl⟩ := settle_eq_some h
  · obtain ⟨⟨e', he'⟩, -⟩ := hout hrun
    exact absurd he' (by simp)
  · exact ⟨⟨_, rfl⟩, w, hw, (hout hrun).2⟩

theorem load_append {front rest : List Decl} (h : m.load host fuel front = some (.ok (), m₁)) :
    m.load host fuel (front ++ rest) = m₁.load host fuel rest := by
  induction front generalizing m with
  | nil =>
    obtain ⟨-, rfl⟩ := load_nil_eq_some h
    rfl
  | cons d front ih =>
    rw [load] at h
    rw [List.cons_append, load]
    split at h
    · exact ih h
    · rename_i hd
      exact absurd h (hd () m₁)

/-- So it is with requests. -/
theorem serve_of_raises {q : Request} {answer : Answer} (hb : q.Begins host fuel m b)
    (hc : b.Raises host c) (h : m.serve host fuel q = some (answer, m')) :
    (∃ e, answer = .error e) ∧ ∃ w, c.FailsIn host w ∧ m'.location = w.location := by
  have hdeclaration : ∀ {m₁ m₂ d x}, Begins host (fun exec =>
        (executing host exec fuel).declaration d) m₁ b → m₁.declare host fuel d = some (x, m₂) →
      (∃ e, x = .error e) ∧ ∃ w, c.FailsIn host w ∧ m₂.location = w.location := by
    intro m₁ m₂ d x hb hx
    rw [declare, ← executing_executor] at hx
    exact settle_of_raises (.declaration host fuel d) hb hc hx
  have hcall : ∀ {f args x}, Begins host (fun exec =>
        (executing host exec fuel).callValue host f args) m b →
      m.callFound host fuel (.ok f) args = some (x, m') →
      (∃ e, x = .error e) ∧ ∃ w, c.FailsIn host w ∧ m'.location = w.location := by
    intro f args x hb hx
    rw [callFound, ← executing_executor] at hx
    exact settle_of_raises (.callValue host fuel f args) hb hc hx
  have hanswer : ∀ {α : Type} {value : α → Option Value} {x : Except Failure α},
      (∃ e, x = .error e) → ∃ e, x.map value = .error e := by
    rintro α value _ ⟨e, rfl⟩
    exact ⟨e, rfl⟩
  cases hb with
  | declare hb =>
    obtain ⟨x, hx, rfl⟩ := exists_of_answered h
    exact (hdeclaration hb hx).imp_left hanswer
  | load hfront hb =>
    obtain ⟨x, hx, rfl⟩ := exists_of_answered h
    rw [load_append hfront] at hx
    -- The declaration fails, so the ones after it are not made.
    obtain ⟨m₂, hd, -⟩ | hd := load_cons_eq_some hx
    · obtain ⟨⟨e, he⟩, -⟩ := hdeclaration hb hd
      exact absurd he (by simp)
    · exact (hdeclaration hb hd).imp_left hanswer
  | runMain hf hb =>
    obtain ⟨x, hx, rfl⟩ := exists_of_answered h
    rw [runMain, hf] at hx
    exact (hcall hb hx).imp_left hanswer
  | call hf hb =>
    obtain ⟨x, hx, rfl⟩ := exists_of_answered h
    rw [call, hf] at hx
    exact (hcall hb hx).imp_left hanswer

/-- When a request is carried out, every failure of a statement is raised in some statement by its
    own work. Then the request fails, and the location is the one of this statement if it has not
    begun any other one, or else the one that is left by a statement that it has begun and that
    has not failed. -/
theorem failures_located {q : Request} {answer : Answer}
    (h : m.serve host fuel q = some (answer, m')) :
    (∀ b w, q.Begins host fuel m b → b.FailsIn host w → ∃ c, b.Raises host c) ∧
      ∀ b c, q.Begins host fuel m b → b.Raises host c → (∃ e, answer = .error e) ∧
        ((∀ d, ¬c.Begins host d) ∧ m'.location = c.stmt.location ∨
          ∃ d r w, c.Begins host d ∧ d.run host.executor = some (r, w) ∧
            (∀ e, r ≠ .error (.failure e)) ∧ m'.location = w.location) := by
  refine ⟨fun b w _ hw => Begun.exists_raises hw, fun b c hb hc => ?_⟩
  obtain ⟨hanswer, w, hw, hlocation⟩ := serve_of_raises hb hc h
  rw [hlocation]
  exact ⟨hanswer, hc.failsItself.location hw⟩

/-- Whenever a failure is raised in a statement while a request is carried out, the location is the
    one of this statement. -/
def LocatesFailures (m : Machine) (host : Host) : Prop :=
  ∀ fuel q b c answer m', q.Begins host fuel m b → b.Raises host c →
    m.serve host fuel q = some (answer, m') → m'.location = c.stmt.location

end Machine

/-! ### Dividing by zero -/

namespace Locating

variable {host : Host} {own : Executor}

/-- Whether a statement has ended with a failure. -/
def failed : Except Stop Flow × Machine → Bool
  | (.error (.failure _), _) => true
  | _ => false

/-- Whether the statement fails if those it begins are run by `own`. -/
def failing (host : Host) (own : Executor) : Nat → Stmt → Machine → Bool
  | 0, _, _ => false
  | fuel + 1, s, m => ((executing host own fuel).statement s m).any failed

/-- A statement that fails in this way, and ends, fails, and begins nothing that `own` does not
    run. -/
theorem fails_of_failing {b : Begun} (hown : own.Within host)
    (h : failing host own b.fuel b.stmt b.machine) {out : Except Stop Flow × Machine}
    (hout : b.run host.executor = some out) :
    b.FailsIn host out.2 ∧ ∀ c, b.Begins host c → c.run own ≠ none := by
  obtain ⟨fuel, s, m⟩ := b
  cases fuel with
  | zero => exact absurd h (by simp [failing])
  | succ fuel =>
    obtain ⟨bs, hbs⟩ := exists_course_statement hout
    obtain ⟨p, hp, hfails⟩ := (Option.any_eq_true _ _).1 h
    constructor
    · obtain rfl := Option.some.inj (hp.symm.trans
        ((hbs.within hown).resolve_left fun hnone => by simp [hnone] at hp))
      obtain ⟨r, m'⟩ := p
      match r, hfails with
      | .error (.failure e), _ => exact ⟨e, hout⟩
    · rintro c ⟨hc⟩ hnone
      exact absurd (hp.symm.trans (hbs.needs own hown c (hbs.begins_iff.1 hc) hnone)) (by simp)

/-- All statements are run but those at the location that fail if what they begin is run by
    `own`. -/
def probe (host : Host) (own : Executor) (l : Location) : Executor :=
  fun fuel s m => if s.location = l ∧ failing host own fuel s m then none else
    host.executor fuel s m

/-- If the run does not end without such a statement, it begins one. -/
theorem exists_begins {α : Type} {x : Executor → Run α} (hx : Traceable host x) {m : Machine}
    {l : Location} (hends : (x host.executor m).isSome)
    (hprobe : (x (probe host own l) m).isNone) :
    ∃ b out, Begins host x m b ∧ b.stmt.location = l ∧
      failing host own b.fuel b.stmt b.machine ∧ b.run host.executor = some out := by
  obtain ⟨out, hout⟩ := Option.isSome_iff_exists.1 hends
  obtain ⟨bs, hbs⟩ := hx m out hout
  -- Otherwise the probe would run all that is begun.
  refine Classical.byContradiction fun hb => ?_
  have hruns := hbs.runs (probe host own l) fun b hmem => by
    by_cases hfailing : b.stmt.location = l ∧ failing host own b.fuel b.stmt b.machine
    · rcases hrun : b.run host.executor with _ | out
      · exact if_pos hfailing
      · exact absurd ⟨b, out, hbs.begins_iff.2 hmem, hfailing.1, hfailing.2, hrun⟩ hb
    · exact if_neg hfailing
  simp [hruns] at hprobe

/-- A main function that calls another one, and then divides by zero. -/
def program (dividend : Expr) : List Decl :=
  [.function "f" [] [⟨.ret (some (.literal .int "1")), ⟨2, 5⟩⟩],
    .function "main" []
      [⟨.expr (.call (.ident "f") []) none, ⟨6, 5⟩⟩,
        ⟨.expr (.binary .div dividend (.literal .int "0")) none, ⟨7, 5⟩⟩]]

/-- Whether the program, when it is run, comes to a statement at `l` that fails if what it begins is
    run by `own`, and is then left with the location `l'`. -/
def divides (dividend : Expr) (own : Executor) (l l' : Location) : Bool :=
  (Machine.bare.load .bare 9 (program dividend)).any fun loaded =>
    (loaded.2.serve .bare 9 .runMain).any (·.2.location == l') &&
      match loaded.2.mainFunction with
      | .ok f =>
        ((executing .bare Host.bare.executor 9).callValue .bare f [] loaded.2).isSome &&
          ((executing .bare (probe .bare own l) 9).callValue .bare f [] loaded.2).isNone
      | .error _ => false

theorem exists_of_divides {dividend : Expr} {l l' : Location} (hown : own.Within .bare)
    (h : divides dividend own l l') :
    ∃ m b answer m', Session .bare (fun _ => True) m ∧
      m.serve .bare 9 .runMain = some (answer, m') ∧ m'.location = l' ∧
      Request.Begins .bare 9 m .runMain b ∧ b.stmt.location = l ∧
      (∃ w, b.FailsIn .bare w) ∧ ∀ c, b.Begins .bare c → c.run own ≠ none := by
  obtain ⟨⟨_, m⟩, hload, h⟩ := (Option.any_eq_true _ _).1 h
  obtain ⟨hserve, h⟩ := Bool.and_eq_true_iff.1 h
  obtain ⟨⟨answer, m'⟩, hserve, hlocation⟩ := (Option.any_eq_true _ _).1 hserve
  dsimp only at h
  split at h
  · rename_i f hf
    obtain ⟨hends, hprobe⟩ := Bool.and_eq_true_iff.1 h
    obtain ⟨b, out, hb, hl, hfailing, hout⟩ :=
      exists_begins (.callValue .bare 9 f []) hends hprobe
    obtain ⟨hfails, hinside⟩ := fails_of_failing hown hfailing hout
    exact ⟨m, b, answer, m', .serve (.start .default .bare) (.load hload), hserve,
      of_decide_eq_true hlocation, .runMain hf hb, hl, ⟨_, hfails⟩, hinside⟩
  · exact absurd h (by simp)

/-- Statements are run, but if one fails, nothing is said of that. -/
def sparing (host : Host) : Executor :=
  fun fuel s m => (host.executor fuel s m).filter (!failed ·)

theorem run_sparing (host : Host) (b : Begun) :
    b.run (sparing host) = (b.run host.executor).filter (!failed ·) :=
  rfl

theorem sparing_within (host : Host) : (sparing host).Within host := by
  intro b
  rw [run_sparing]
  cases b.run host.executor with
  | none => exact .inl rfl
  | some p =>
    cases hp : failed p with
    | true => exact .inl (by simp [hp])
    | false => exact .inr (by simp [hp])

end Locating

open Locating in
/-- A statement that divides one by zero begins nothing, and is the one that is reported. -/
theorem Machine.failures_located_dividing :
    ∃ m b answer m', Session .bare (fun _ => True) m ∧
      m.serve .bare 9 .runMain = some (answer, m') ∧ Request.Begins .bare 9 m .runMain b ∧
      b.Raises .bare b ∧ (∃ e, answer = .error e) ∧ b.stmt.location = ⟨7, 5⟩ ∧
      m'.location = b.stmt.location := by
  have h : divides (.literal .int "1") (fun _ _ => .starved) ⟨7, 5⟩ ⟨7, 5⟩ := by decide +kernel
  obtain ⟨m, b, answer, m', hm, hserve, -, hb, hl, hfails, hinside⟩ :=
    exists_of_divides (fun _ => .inl rfl) h
  have hnone : ∀ c, ¬b.Begins .bare c := fun c hc => hinside c hc rfl
  have hraises : b.Raises .bare b := .itself ⟨hfails, fun c _ hc => absurd hc (hnone c)⟩
  obtain ⟨hanswer, hlocation⟩ := (failures_located hserve).2 b b hb hraises
  refine ⟨m, b, answer, m', hm, hserve, hb, hraises, hanswer, hl, ?_⟩
  rcases hlocation with ⟨-, hlocation⟩ | ⟨d, _, _, hd, -⟩
  · exact hlocation
  · exact absurd hd (hnone d)

open Locating in
/-- If it is what a function returns that is divided by zero, then this is reported at the `return`
    of that function. -/
theorem Machine.not_locatesFailures :
    ∃ m, Session .bare (fun _ => True) m ∧ ¬m.LocatesFailures .bare := by
  have h : divides (.call (.ident "f") []) (sparing .bare) ⟨7, 5⟩ ⟨2, 5⟩ := by decide +kernel
  obtain ⟨m, b, answer, m', hm, hserve, hlocation, hb, hl, hfails, hinside⟩ :=
    exists_of_divides (sparing_within .bare) h
  refine ⟨m, hm, fun hlocates => ?_⟩
  have hraises : b.Raises .bare b := .itself ⟨hfails, fun c w hc hw => hinside c hc ?_⟩
  · have hown := hlocates 9 .runMain b b answer m' hb hraises hserve
    rw [hlocation, hl] at hown
    exact absurd hown (by decide)
  · obtain ⟨e, hw⟩ := hw
    rw [run_sparing, hw]
    rfl

end Retrace
