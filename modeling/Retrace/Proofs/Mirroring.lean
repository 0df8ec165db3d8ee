import Retrace.Proofs.Skipless

/-!
# Runs that mirror others

Two runs are compared, one of a program that does not reverse, and one of the same
program written without skips. The second one *mirrors* the first
(`Run.Mirrors`) if it ends in the same way, in a machine that is the same but for
the ledger and the bodies of functions. It does not have to do so if the first
run fails because the ledger is full, as nothing is recorded in the second one.

The relation is kept by whatever puts runs together. Where a program opens a
skip, only the first run opens one; what is recorded and dropped then is not seen
in the second machine.
-/

namespace Retrace

/-- No reversal is under way, and nothing that is bound will begin one. -/
structure Machine.Unreversed (m : Machine) : Prop where
  reversing : m.reversing = false
  bound : m.scopes.Obey Value.ReverseFree

namespace Machine

variable {m m' : Machine}

theorem Unreversed.enter (h : m.Unreversed) (parent : ScopeId) : (m.enter parent).Unreversed :=
  ⟨h.reversing, h.bound.push parent⟩

theorem Unreversed.enterCall (h : m.Unreversed) : m.enterCall.Unreversed :=
  ⟨h.reversing, h.bound.push _⟩

theorem Unreversed.leave (h : m'.Unreversed) (m : Machine) : (m'.leave m).Unreversed :=
  ⟨h.reversing, h.bound.discard _⟩

variable (m)

theorem skipless_enter (parent : ScopeId) :
    m.skipless.enter parent = (m.enter parent).skipless := by
  rw [enter, skipless, skipless, Scopes.push_mapBodies]
  rfl

theorem skipless_enterCall : m.skipless.enterCall = m.enterCall.skipless :=
  skipless_enter { m with callDepth := m.callDepth + 1 } Scopes.global

theorem skipless_leave (m' : Machine) : m'.skipless.leave m.skipless = (m'.leave m).skipless := by
  -- The handle to the scope that is left is the same one.
  have hid : (⟨m.skipless.scopes.row.size, m.skipless.scopes.nextSerial⟩ : ScopeId) =
      ⟨m.scopes.row.size, m.scopes.nextSerial⟩ :=
    congrArg (ScopeId.mk · m.scopes.nextSerial) Array.size_map
  rw [leave, hid, scopes_skipless, Scopes.discard_mapBodies]
  rfl

end Machine

namespace Run

variable {α β γ δ : Type}

/-- How a run of a program that does not reverse may end, and how the run that mirrors it then
    has to end: with what `φ` makes of the value, which satisfies `V`. -/
inductive Mirrored (φ : α → β) (V : α → Prop) :
    Option (Except Stop α × Machine) → Option (Except Stop β × Machine) → Prop
  | value {a : α} {m : Machine} : V a → m.Unreversed →
      Mirrored φ V (some (.ok a, m)) (some (.ok (φ a), m.skipless))
  | failure {e : Failure} {m : Machine} : m.Unreversed →
      Mirrored φ V (some (.error (.failure e), m)) (some (.error (.failure e.skipless), m.skipless))
  /-- There was no room in the ledger. -/
  | exceeded {limit : Nat} {m : Machine} {o : Option (Except Stop β × Machine)} :
      Mirrored φ V (some (.error (.failure (.ledgerLimitExceeded limit)), m)) o
  | starved : Mirrored φ V none none

/-- Whether from any machine the run `y` ends as `x` does in the same machine, if the program
    was written without skips. -/
def Mirrors (φ : α → β) (V : α → Prop) (x : Run α) (y : Run β) : Prop :=
  ∀ m : Machine, m.Unreversed → Mirrored φ V (x m) (y m.skipless)

variable {φ : α → β} {V : α → Prop} {ψ : γ → δ} {W : γ → Prop}

/-- Both machines are changed in the same way afterwards. -/
theorem Mirrored.map {o : Option (Except Stop α × Machine)} {o' : Option (Except Stop β × Machine)}
    (h : Mirrored φ V o o') (f f' : Machine → Machine) (hf : ∀ m, m.Unreversed → (f m).Unreversed)
    (hf' : ∀ m, f' m.skipless = (f m).skipless) :
    Mirrored φ V (o.map fun p => (p.1, f p.2)) (o'.map fun p => (p.1, f' p.2)) := by
  cases h with
  | value ha hm => simpa only [Option.map_some, hf'] using .value ha (hf _ hm)
  | failure hm => simpa only [Option.map_some, hf'] using .failure (hf _ hm)
  | exceeded => exact .exceeded
  | starved => exact .starved

namespace Mirrors

theorem bind {x : Run α} {y : Run β} {f : α → Run γ} {f' : β → Run δ} (hx : Mirrors φ V x y)
    (hf : ∀ a, V a → Mirrors ψ W (f a) (f' (φ a))) : Mirrors ψ W (x >>= f) (y >>= f') := by
  intro m hm
  have h := hx m hm
  rw [bind_apply, bind_apply]
  generalize x m = o, y m.skipless = o' at h ⊢
  cases h with
  | value ha hm' => exact hf _ ha _ hm'
  | failure hm' => exact .failure hm'
  | exceeded => exact .exceeded
  | starved => exact .starved

theorem pure (a : α) (h : V a) : Mirrors φ V (pure a) (pure (φ a)) :=
  fun _ hm => .value h hm

theorem starved : Mirrors φ V starved starved :=
  fun _ _ => .starved

theorem fail {e : Failure} (h : e.Ordinary) : Mirrors φ V (Run.fail e) (Run.fail e) := by
  intro m hm
  have hfail := Mirrored.failure (φ := φ) (V := V) (e := e) hm
  rwa [Failure.skipless, h.mapBodies_eq] at hfail

theorem query {f : Machine → Except Failure α} {f' : Machine → Except Failure β}
    (hf : ∀ m, f' m.skipless = Result.mapBodies Stmt.skiplessAll φ (f m))
    (hV : ∀ m a, m.Unreversed → f m = .ok a → V a) :
    Mirrors φ V (Run.query f) (Run.query f') := by
  intro m hm
  rw [Run.query, Run.query, hf]
  cases ha : f m with
  | ok a => exact .value (hV m a hm ha) hm
  | error e => exact .failure hm

theorem ofExcept {x : Except Failure α} {y : Except Failure β}
    (h : y = Result.mapBodies Stmt.skiplessAll φ x) (hV : ∀ a, x = .ok a → V a) :
    Mirrors φ V (Run.ofExcept x) (Run.ofExcept y) :=
  query (fun _ => h) fun _ a _ => hV a

theorem current : Mirrors (fun id => id) (fun _ => True) (read (·.current)) (read (·.current)) :=
  fun _ hm => .value trivial hm

theorem setLocation (l : Location) :
    Mirrors (fun u => u) (fun _ => True) (setLocation l) (setLocation l) :=
  fun _ hm => .value trivial ⟨hm.reversing, hm.bound⟩

/-! ### Scopes -/

theorem lookup (name : String) :
    Mirrors Value.skipless Value.ReverseFree (lookup name) (lookup name) :=
  query (fun m => Scopes.get_mapBodies _ m.scopes m.current name) fun _ _ hm hv => hm.bound.get hv

theorem readTarget (t : Target) :
    Mirrors Value.skipless Value.ReverseFree (readTarget t)
      (readTarget (t.mapBodies Stmt.skiplessAll)) := by
  refine query (fun m => t.read_mapBodies _ m.scopes m.current) fun m v hm hv => ?_
  exact Value.closed_reverseFree.read hm.bound hv

theorem define (scope : ScopeId) (name : String) {v : Value} (hv : v.ReverseFree) :
    Mirrors (fun u => u) (fun _ => True) (define scope name v) (define scope name v.skipless) := by
  intro m hm
  have h := Scopes.define_mapBodies Stmt.skiplessAll m.scopes scope name v
  rw [Run.define, Run.define, updateScopes, updateScopes, m.scopes_skipless, h]
  cases hd : m.scopes.define scope name v with
  | ok ss => exact .value trivial ⟨hm.reversing, hm.bound.define hv hd⟩
  | error e => exact .failure hm

theorem declare (name : String) {v : Value} (hv : v.ReverseFree) :
    Mirrors (fun u => u) (fun _ => True) (declare name v) (declare name v.skipless) :=
  bind current fun scope _ => define scope name hv

theorem declareAll {binds : List (String × Value)} (h : ∀ b ∈ binds, b.2.ReverseFree) :
    Mirrors (fun u => u) (fun _ => True) (declareAll binds)
      (declareAll (binds.map fun b => (b.1, b.2.skipless))) := by
  induction binds with
  | nil => exact pure () trivial
  | cons b binds ih =>
    obtain ⟨hb, h⟩ := List.forall_mem_cons.1 h
    exact bind (declare b.1 hb) fun _ _ => ih h

theorem record_pure (c : Breadcrumb) :
    Mirrors (fun u => u) (fun _ => True) (record c) (Pure.pure ()) := by
  intro m hm
  rw [Run.record, if_neg (by simp [hm.reversing])]
  cases hl : m.ledger.record c with
  | ok l => exact .value (m := { m with ledger := l }) trivial ⟨hm.reversing, hm.bound⟩
  | error e =>
    rw [Ledger.record_eq_error hl]
    exact .exceeded

/-- In the second machine nothing is recorded, as no skip is open. -/
theorem record (c c' : Breadcrumb) :
    Mirrors (fun u => u) (fun _ => True) (record c) (record c') := by
  intro m hm
  have hmirror : Run.record c' m.skipless = some (.ok (), m.skipless) := by
    rw [Run.record, if_neg (by simp [m.reversing_skipless, hm.reversing])]
    rfl
  rw [hmirror]
  exact record_pure c m hm

theorem store {t : Target} (ht : ∀ k ∈ t.path, k.ReverseFree) {v : Value} (hv : v.ReverseFree) :
    Mirrors (fun u => u) (fun _ => True) (store t v)
      (store (t.mapBodies Stmt.skiplessAll) v.skipless) := by
  refine bind (V := fun b => b.value.ReverseFree) (φ := Rebinding.mapBodies Stmt.skiplessAll) ?_
    fun b hb => bind (record _ _) fun _ _ => define b.owner b.name hb
  refine query (fun m => t.rebinding_mapBodies _ m.scopes m.current v) fun m b hm hb => ?_
  obtain ⟨bound, hlook, hstores⟩ := Target.rebinding_eq_ok hb
  exact (hstores.obey (D := .reverseFree) (hm.bound _ _ _ hlook) ht hv).2

/-! ### Blocks and calls -/

theorem inNewScope (parent : ScopeId) {x : Run α} {y : Run β} (h : Mirrors φ V x y) :
    Mirrors φ V (inNewScope parent x) (inNewScope parent y) := by
  intro m hm
  rw [inNewScope_apply, inNewScope_apply, Machine.skipless_enter]
  exact (h _ (hm.enter parent)).map (·.leave m) (·.leave m.skipless) (fun _ hm' => hm'.leave m)
    m.skipless_leave

theorem inBlock {x : Run α} {y : Run β} (h : Mirrors φ V x y) :
    Mirrors φ V (inBlock x) (inBlock y) :=
  bind current fun scope _ => inNewScope scope h

theorem inCall {x : Run α} {y : Run β} (h : Mirrors φ V x y) :
    Mirrors φ V (inCall x) (inCall y) := by
  intro m hm
  rw [inCall_apply, inCall_apply, m.settings_skipless, m.callDepth_skipless]
  by_cases hdepth : m.settings.maxCallDepth ≤ m.callDepth
  · rw [if_pos hdepth, if_pos hdepth]
    exact fail (e := .callDepthExceeded m.settings.maxCallDepth) trivial m hm
  · rw [if_neg hdepth, if_neg hdepth, Machine.skipless_enterCall]
    refine (h _ hm.enterCall).map
      (fun m' => { m'.leave m with callDepth := m'.callDepth - 1 })
      (fun m' => { m'.leave m.skipless with callDepth := m'.callDepth - 1 })
      (fun _ hm' => ⟨hm'.reversing, (hm'.leave m).bound⟩) fun m' => ?_
    rw [m.skipless_leave]
    rfl

theorem native {host : Host} (hkeeps : host.Keeps Value.ReverseFree)
    (hblind : host.Blind Stmt.skiplessAll) (code : NativeCode) (argc : Nat) :
    Mirrors Value.skipless Value.ReverseFree (native (code.run host) argc)
      (native (code.run host) argc) := by
  intro m hm
  have hmirrors := hblind.run code ⟨m.scopes, m.current, argc, m.settings⟩ m.surroundings
  have hcall : (⟨m.skipless.scopes, m.skipless.current, argc, m.skipless.settings⟩ : NativeCall) =
      NativeCall.mapBodies Stmt.skiplessAll ⟨m.scopes, m.current, argc, m.settings⟩ := rfl
  rw [Run.native, Run.native, hcall, m.surroundings_skipless, hmirrors]
  rcases hx : code.run host ⟨m.scopes, m.current, argc, m.settings⟩ m.surroundings with ⟨_ | v, s⟩
  · exact .failure (m := { m with surroundings := s }) ⟨hm.reversing, hm.bound⟩
  · have hv : v.ReverseFree := by
      refine Value.closed_reverseFree.run hkeeps ?_ hx
      exact hm.bound
    exact .value (m := { m with surroundings := s }) hv ⟨hm.reversing, hm.bound⟩

end Mirrors

end Run

end Retrace
