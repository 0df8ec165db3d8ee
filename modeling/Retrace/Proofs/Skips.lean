import Retrace.Proofs.Transparency

/-!
# Sessions without skips

What a host asks for can be written without skips too (`Request.skipless`). If it
hands over nothing that reverses, it sees no difference as long as it is not told
that the ledger is full (`Session.skips_transparent`): each request is answered in
the same way, and what it finds printed and bound afterwards is the same but for
the bodies of functions (`Machine.Resembles`).
-/

namespace Retrace

open Run (Mirrors)

/-- Whether there is no `reverse` in the function that is declared. -/
def Decl.ReverseFree (d : Decl) : Prop :=
  ∀ s ∈ (Action.declare d).parts, s.ReverseFree

/-- Whether there is no `reverse` in what is handed over with the request. -/
def Request.ReverseFree : Request → Prop
  | .declare d => d.ReverseFree
  | .load ds => ∀ d ∈ ds, d.ReverseFree
  | .call _ args => ∀ v ∈ args, v.ReverseFree
  | _ => True

/-- The request with all that is handed over written without skips. -/
def Request.skipless : Request → Request
  | .declare d => .declare d.skipless
  | .load ds => .load (ds.map Decl.skipless)
  | .call name args => .call name (args.map Value.skipless)
  | q => q

/-- The answer with the bodies of functions written without skips. -/
def Answer.skipless : Answer → Answer :=
  Result.mapBodies Stmt.skiplessAll (Option.map Value.skipless)

/-- Whether a host sees the same of two machines, but for skips in the bodies of functions in the
    second one. -/
structure Machine.Resembles (m' m : Machine) : Prop where
  surroundings : m'.surroundings = m.surroundings
  location : m'.location = m.location
  global : ∀ name, m'.global? name = (m.global? name).map Value.skipless

namespace Machine

variable {α β γ δ : Type} {φ : α → β} {ψ : γ → δ}

/-- How a request is answered, and how it then has to be answered in a program without skips:
    with what `φ` makes of the value. -/
inductive Echoed (φ : α → β) :
    Option (Except Failure α × Machine) → Option (Except Failure β × Machine) → Prop
  | answered {x : Except Failure α} {m : Machine} : m.Unreversed →
      Echoed φ (some (x, m)) (some (Result.mapBodies Stmt.skiplessAll φ x, m.skipless))
  /-- There was no room in the ledger. -/
  | exceeded {limit : Nat} {m : Machine} {o : Option (Except Failure β × Machine)} :
      Echoed φ (some (.error (.ledgerLimitExceeded limit), m)) o
  | starved : Echoed φ none none

theorem Echoed.answer {o : Option (Except Failure α × Machine)}
    {o' : Option (Except Failure β × Machine)} (h : Echoed φ o o') {value : α → γ} {value' : β → δ}
    (hvalue : ∀ a, value' (φ a) = ψ (value a)) :
    Echoed ψ (o.map fun p => (p.1.map value, p.2)) (o'.map fun p => (p.1.map value', p.2)) := by
  cases h with
  | @answered x m hm =>
    have hx : (Result.mapBodies Stmt.skiplessAll φ x).map value' =
        Result.mapBodies Stmt.skiplessAll ψ (x.map value) := by
      cases x with
      | ok a => exact congrArg Except.ok (hvalue a)
      | error e => rfl
    rw [Option.map_some, Option.map_some, hx]
    exact .answered hm
  | exceeded => exact .exceeded
  | starved => exact .starved

theorem skipless_reset (m : Machine) : m.skipless.reset = m.reset.skipless := by
  rw [reset, scopes_skipless, Scopes.discardLocals_mapBodies]
  rfl

variable {m : Machine} (hm : m.Unreversed)
include hm

/-- A run that is carried out for the host is answered in the same way as the one that mirrors
    it. -/
theorem Unreversed.settle {V : α → Prop} {x : Run α} {y : Run β} (h : Mirrors φ V x y) :
    Echoed φ (m.settle x) (m.skipless.settle y) := by
  have hxy := h m hm
  rw [Machine.settle, Machine.settle]
  generalize x m = o, y m.skipless = o' at hxy ⊢
  cases hxy with
  | value ha hm' => exact .answered hm'
  | @failure e m' hm' =>
    dsimp only
    rw [skipless_reset]
    exact .answered (x := .error e) ⟨rfl, hm'.bound.discardLocals⟩
  | exceeded => exact .exceeded
  | starved => exact .starved

variable {host : Host} (hkeeps : host.Keeps Value.ReverseFree)
  (hblind : host.Blind Stmt.skiplessAll)
include hkeeps hblind

theorem Unreversed.declare (fuel : Nat) {d : Decl} (hd : d.ReverseFree) :
    Echoed (fun u => u) (m.declare host fuel d) (m.skipless.declare host fuel d.skipless) :=
  hm.settle ((Evaluator.transparent hkeeps hblind fuel).declaration hd)

theorem Unreversed.load (fuel : Nat) {ds : List Decl} (hds : ∀ d ∈ ds, d.ReverseFree) :
    Echoed (fun u => u) (m.load host fuel ds)
      (m.skipless.load host fuel (ds.map Decl.skipless)) := by
  induction ds generalizing m with
  | nil => exact .answered (x := .ok ()) hm
  | cons d ds ih =>
    obtain ⟨hd, hds⟩ := List.forall_mem_cons.1 hds
    have h := hm.declare hkeeps hblind fuel hd
    rw [Machine.load, List.map_cons, Machine.load]
    generalize m.declare host fuel d = o, m.skipless.declare host fuel d.skipless = o' at h ⊢
    cases h with
    | @answered x m' hm' =>
      cases x with
      | ok u => exact ih hm' hds
      | error e => exact .answered (x := .error e) hm'
    | exceeded => exact .exceeded
    | starved => exact .starved

theorem Unreversed.callFound (fuel : Nat) {f f' : Except Failure Value}
    (hf' : f' = Result.mapBodies Stmt.skiplessAll Value.skipless f)
    (hf : ∀ v, f = .ok v → v.ReverseFree) {args : List Value} (hargs : ∀ v ∈ args, v.ReverseFree) :
    Echoed Value.skipless (m.callFound host fuel f args)
      (m.skipless.callFound host fuel f' (args.map Value.skipless)) := by
  subst hf'
  cases f with
  | ok f =>
    exact hm.settle ((Evaluator.transparent hkeeps hblind fuel).callValue hkeeps hblind (hf f rfl)
      hargs)
  | error e => exact .answered (x := .error e) hm

omit hkeeps hblind in
theorem Unreversed.addNative (f : NativeFunction) :
    Echoed (Option.map Value.skipless) (some (.ok none, m.addNative f))
      (some (.ok none, m.skipless.addNative f)) := by
  have hskipless : m.skipless.addNative f = (m.addNative f).skipless := by
    rw [Machine.addNative, m.scopes_skipless, Scopes.defineGlobal_native_mapBodies]
    rfl
  rw [hskipless]
  exact .answered (x := .ok none)
    ⟨hm.reversing, hm.bound.defineGlobal (Discipline.reverseFree.native f)⟩

/-- Every request is answered in the same way if it is written without skips. -/
theorem Unreversed.serve (fuel : Nat) {q : Request} (hq : q.ReverseFree) :
    Echoed (Option.map Value.skipless) (m.serve host fuel q)
      (m.skipless.serve host fuel q.skipless) := by
  cases q with
  | declare d => exact (hm.declare hkeeps hblind fuel hq).answer fun _ => rfl
  | load ds => exact (hm.load hkeeps hblind fuel hq).answer fun _ => rfl
  | runMain =>
    have hmain : m.skipless.mainFunction =
        Result.mapBodies Stmt.skiplessAll Value.skipless m.mainFunction :=
      Result.mapBodies_bind _ (m.scopes.getLocal_mapBodies _ Scopes.global "main") fun f => by
        cases f <;> rfl
    exact (hm.callFound hkeeps hblind fuel hmain (fun _ => Machine.obey_mainFunction hm.bound)
      fun _ h => absurd h List.not_mem_nil).answer fun _ => rfl
  | call name args =>
    have hget := m.scopes.get_mapBodies Stmt.skiplessAll Scopes.global name
    exact (hm.callFound hkeeps hblind fuel hget (fun _ hv => hm.bound.get hv) hq).answer
      fun _ => rfl
  | registerNative name params key => exact hm.addNative _
  | registerVariadic name key => exact hm.addNative _

/-- If it is not answered that the ledger is full, then requests without skips are answered in the
    same way, one after the other. -/
theorem Unreversed.serveAll {qs : List (Nat × Request)} (hqs : ∀ q ∈ qs, q.2.ReverseFree)
    (hroom : ∀ answer ∈ (m.serveAll host qs).1, ∀ limit,
      answer ≠ .error (.ledgerLimitExceeded limit)) :
    m.skipless.serveAll host (qs.map fun q => (q.1, q.2.skipless)) =
      ((m.serveAll host qs).1.map Answer.skipless,
        (m.serveAll host qs).2.map Machine.skipless) := by
  induction qs generalizing m with
  | nil => rfl
  | cons q qs ih =>
    obtain ⟨fuel, q⟩ := q
    obtain ⟨hq, hqs⟩ := List.forall_mem_cons.1 hqs
    have h := hm.serve hkeeps hblind fuel hq
    rw [Machine.serveAll] at hroom ⊢
    rw [List.map_cons, Machine.serveAll]
    generalize m.serve host fuel q = o, m.skipless.serve host fuel q.skipless = o' at h hroom ⊢
    cases h with
    | answered hm' =>
      dsimp only
      rw [ih hm' hqs (List.forall_mem_cons.1 hroom).2]
      rfl
    | exceeded => exact absurd rfl ((List.forall_mem_cons.1 hroom).1 _)
    | starved => rfl

end Machine

/-- The builtins are no functions with bodies. -/
theorem Machine.skipless_initial (settings : Settings) (files : Files) :
    (initial settings files).skipless = initial settings files := by
  have hbuiltins : ∀ (bs : List Builtin) (ss : Scopes),
      (bs.foldl (fun ss b => ss.defineGlobal b.name (.native b.function)) ss).mapBodies
          Stmt.skiplessAll =
        bs.foldl (fun ss b => ss.defineGlobal b.name (.native b.function))
          (ss.mapBodies Stmt.skiplessAll) := by
    intro bs
    induction bs with
    | nil => exact fun _ => rfl
    | cons b bs ih =>
      intro ss
      rw [List.foldl_cons, List.foldl_cons, ih, Scopes.defineGlobal_native_mapBodies]
  have hglobal : Scopes.initial.mapBodies Stmt.skiplessAll = .initial := by
    simp [Scopes.mapBodies, Scopes.initial, Scope.mapBodies, Bindings.mapBodies]
  rw [skipless, initial, hbuiltins, hglobal]

theorem Machine.resembles_skipless (m : Machine) : m.skipless.Resembles m where
  surroundings := rfl
  location := rfl
  global name := by
    have h := m.scopes.getLocal_mapBodies Stmt.skiplessAll Scopes.global name
    rw [global?, global?, m.scopes_skipless, h]
    cases m.scopes.getLocal Scopes.global name <;> rfl

/-- Without reversals, and unless the ledger is too small, all that a host sees is as if there were
    no skips. -/
theorem Session.skips_transparent {host : Host} (hkeeps : host.Keeps Value.ReverseFree)
    (hblind : host.Blind Stmt.skiplessAll) (settings : Settings) (files : Files)
    {qs : List (Nat × Request)}
    (hqs : ∀ q ∈ qs, q.2.ReverseFree)
    (hroom : ∀ answer ∈ ((Machine.initial settings files).serveAll host qs).1, ∀ limit,
      answer ≠ .error (.ledgerLimitExceeded limit)) :
    ((Machine.initial settings files).serveAll host (qs.map fun q => (q.1, q.2.skipless))).1 =
        ((Machine.initial settings files).serveAll host qs).1.map Answer.skipless ∧
      Option.Rel (fun m' m => m'.Resembles m)
        ((Machine.initial settings files).serveAll host (qs.map fun q => (q.1, q.2.skipless))).2
        ((Machine.initial settings files).serveAll host qs).2 := by
  have hinitial : (Machine.initial settings files).Unreversed :=
    ⟨rfl, (Machine.Resting.initial (D := .reverseFree) settings files).bound⟩
  have h := hinitial.serveAll hkeeps hblind hqs hroom
  rw [Machine.skipless_initial] at h
  rw [h]
  refine ⟨rfl, ?_⟩
  cases ((Machine.initial settings files).serveAll host qs).2 with
  | none => exact .none
  | some m => exact .some m.resembles_skipless

/-- A host all of whose native functions give back what is bound to `x`. -/
def Host.echo : Host :=
  { Host.bare with native := fun _ => .arg "x" }

theorem Host.echo_keeps (P : Value → Prop) : echo.Keeps P := by
  intro key call s v s' hobey h
  simp only [echo, NativeM.arg, NativeM.bind_apply, NativeM.call, NativeM.ofExcept] at h
  cases hl : call.scopes.getLocal call.scope "x" with
  | error e => simp [hl] at h
  | ok o =>
    cases o with
    | none => simp [hl, NativeM.fail] at h
    | some w =>
      simp only [hl] at h
      obtain rfl : w = v := Except.ok.inj (congrArg Prod.fst h)
      exact hobey _ _ _ (Scopes.getLocal_eq_ok hl).2

theorem Host.echo_blind (g : Block → Block) : echo.Blind g :=
  fun _ => .arg "x"

/-- A skip that assigns to `x`, then has an effect that can be undone, and returns. -/
def Session.skipping : Stmt :=
  ⟨.skip
    [⟨.assign (.ident "x") .set (.literal .int "2"), .unknown⟩,
      ⟨.expr (.ident "x") (some ⟨.expr (.ident "y") none, .unknown⟩), .unknown⟩,
      ⟨.ret (some (.ident "x")), .unknown⟩]
    [⟨none, []⟩], .unknown⟩

/-- Such a skip is run as the main function, and is handed over in a function. -/
def Session.skippingRequests : List (Nat × Request) :=
  [(0, .registerNative "echo" ["x"] "echo"),
    (9, .load [.variable ⟨"x", some (.literal .int "1")⟩, .function "main" [] [skipping]]),
    (9, .runMain),
    (9, .call "echo" [.function ⟨"held", [], [skipping]⟩])]

theorem Session.reverseFree_skipping : ∀ s ∈ [skipping], s.ReverseFree := by
  have hleaf : ∀ {s : Stmt}, (∀ payload, s.action ≠ .reverse payload) → s.action.parts = [] →
      s.ReverseFree := fun h hparts => .leaf h hparts
  have heffect : Stmt.ReverseFree ⟨.expr (.ident "x") (some ⟨.expr (.ident "y") none, .unknown⟩),
      .unknown⟩ :=
    .mk (by simp) (List.forall_mem_singleton.2 (hleaf (by simp) rfl))
  refine List.forall_mem_singleton.2 (.mk (by simp [skipping]) ?_)
  exact List.forall_mem_cons.2 ⟨hleaf (by simp) rfl, List.forall_mem_cons.2
    ⟨heffect, List.forall_mem_singleton.2 (hleaf (by simp) rfl)⟩⟩

/-- Whether it is answered that the ledger is full. -/
def Answer.isFull : Answer → Bool
  | .error (.ledgerLimitExceeded _) => true
  | _ => false

theorem Session.skips_transparent_skipping :
    ∃ answers m m', Machine.bare.serveAll .echo skippingRequests = (answers, some m) ∧
      Machine.bare.serveAll .echo
          (skippingRequests.map fun q => (q.1, q.2.skipless)) =
        (answers.map Answer.skipless, some m') ∧ m'.Resembles m := by
  have h : (Machine.bare.serveAll .echo skippingRequests).1.all (!·.isFull) &&
      (Machine.bare.serveAll .echo skippingRequests).2.isSome := by decide +kernel
  obtain ⟨hfull, hlast⟩ := Bool.and_eq_true_iff.1 h
  have hheld : ∀ v ∈ [Value.function ⟨"held", [], [skipping]⟩], v.ReverseFree :=
    List.forall_mem_singleton.2 (Discipline.reverseFree.function.2 reverseFree_skipping)
  have hloaded : ∀ d ∈ [Decl.variable ⟨"x", some (.literal .int "1")⟩,
      .function "main" [] [skipping]], d.ReverseFree :=
    List.forall_mem_cons.2 ⟨fun _ h => absurd h List.not_mem_nil,
      List.forall_mem_singleton.2 reverseFree_skipping⟩
  have hqs : ∀ q ∈ skippingRequests, q.2.ReverseFree :=
    List.forall_mem_cons.2 ⟨trivial, List.forall_mem_cons.2 ⟨hloaded, List.forall_mem_cons.2
      ⟨trivial, List.forall_mem_singleton.2 hheld⟩⟩⟩
  have hroom : ∀ answer ∈ (Machine.bare.serveAll .echo skippingRequests).1, ∀ limit,
      answer ≠ .error (.ledgerLimitExceeded limit) := by
    rintro answer hanswer limit rfl
    simpa [Answer.isFull] using List.all_eq_true.1 hfull _ hanswer
  obtain ⟨hanswers, hrel⟩ :=
    skips_transparent (Host.echo_keeps _) (Host.echo_blind _) .default .bare hqs hroom
  clear h hfull hroom
  generalize Machine.bare.serveAll .echo skippingRequests = ran at *
  generalize Machine.bare.serveAll .echo
    (skippingRequests.map fun q => (q.1, q.2.skipless)) = ran' at *
  obtain ⟨answers, last⟩ := ran
  obtain ⟨answers', last'⟩ := ran'
  obtain ⟨m, rfl⟩ := Option.isSome_iff_exists.1 hlast
  obtain rfl : answers' = answers.map Answer.skipless := hanswers
  cases hrel with
  | @some m' _ hresembles => exact ⟨answers, m, m', rfl, rfl, hresembles⟩

end Retrace
