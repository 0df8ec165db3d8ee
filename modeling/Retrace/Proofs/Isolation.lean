import Retrace.Proofs.Natives
import Retrace.Proofs.Pervasive
import Retrace.Proofs.Recast
import Retrace.Proofs.Reversal

/-!
# Runs behind a wall

In a machine some scopes may be out of reach of what is run (`Machine.Walled`): the
scope it is run in is beyond them, and the scopes that are beyond them have no
parents among them. A run leaves them out of reach, as all that it records belongs
to scopes beyond the wall (`Machine.Confined`). So in a rollback nothing is restored
in a scope that is out of reach, except from breadcrumbs that are older than the
skip, which no rollback takes.

A run is *isolated* (`Run.Isolated`) if moreover it does the same, and does it in the
same way, whatever is bound in the scopes that are out of reach: from a machine in
which they are recast it leads to the machine it would lead to, recast in the
same way. This is a pervasive property (`Run.Isolated.pervasive`).
-/

namespace Retrace

/-- Whether it is no marker, and belongs to a scope that is beyond the slots before `n`. -/
def Breadcrumb.Beyond (n : Nat) : Breadcrumb → Prop
  | .marker _ => False
  | .binding scope _ _ => scope.Beyond n
  | .entry scope _ _ _ => scope.Beyond n
  | .replay scope _ => scope.Beyond n

theorem Rebinding.Stores.beyond {n : Nat} {bound v : Value} {path : List Value} {b : Rebinding}
    (h : b.Stores bound v path) (howner : b.owner.Beyond n) : b.crumb.Beyond n := by
  cases h with
  | name => exact howner
  | entry => exact howner

namespace Machine

/-- The scopes after the global one and before the slot `n` are out of reach. -/
structure Walled (n : Nat) (m : Machine) : Prop where
  tidy : m.ledger.Tidy
  scopes : m.scopes.Walled n
  current : m.current.Beyond n

/-- How a run leaves a machine in which some scopes are out of reach. -/
structure Confined (n : Nat) (m m' : Machine) : Prop where
  skeleton : m'.scopes.skeleton = m.scopes.skeleton
  current : m'.current = m.current
  ledger : m.ledger.Extends (Breadcrumb.Beyond n) m'.ledger

/-- The machine with other bindings in the scopes after the global one and before the slot
    `n`. -/
def recast (n : Nat) (g : Nat → Bindings) (m : Machine) : Machine :=
  { m with scopes := m.scopes.recast n g }

variable {n : Nat} {g : Nat → Bindings} {m m' m'' : Machine} {parent : ScopeId}

namespace Confined

theorem refl (m : Machine) : m.Confined n m :=
  ⟨rfl, rfl, .refl _⟩

theorem trans (h : m.Confined n m') (h' : m'.Confined n m'') : m.Confined n m'' :=
  ⟨h'.skeleton.trans h.skeleton, h'.current.trans h.current, h.ledger.trans h'.ledger⟩

theorem withLedger {l : Ledger} (h : m.Confined n m')
    (hl : m.ledger.Extends (Breadcrumb.Beyond n) l) : m.Confined n { m' with ledger := l } :=
  ⟨h.skeleton, h.current, hl⟩

/-- What is run in a new scope. -/
theorem leave (h : (m.enter parent).Confined n m') : m.Confined n (m'.leave m) :=
  ⟨Scopes.skeleton_discard_push h.skeleton, rfl, h.ledger⟩

/-- What is run as a call. -/
theorem leaveCall (h : m.enterCall.Confined n m') :
    m.Confined n { m'.leave m with callDepth := m'.callDepth - 1 } :=
  have hleave : { m with callDepth := m.callDepth + 1 }.Confined n (m'.leave m) := h.leave
  ⟨hleave.skeleton, hleave.current, hleave.ledger⟩

section Open

variable {marker : Marker} {l : Ledger}
  (hl : m.ledger.openSkip m.scopes.nextSerial = .ok (marker, l)) (hm : m.ledger.Tidy)
  (h : { m with ledger := l }.Confined n m')
include hl hm h

theorem closeSkip : m.Confined n (m'.closeSkip marker) :=
  ⟨h.skeleton, h.current, h.ledger.close hl id hm⟩

theorem discardSkip : m.Confined n (m'.discardSkip marker) := by
  have hledger : (m'.discardSkip marker).ledger =
      { m.ledger with nextMarker := m'.ledger.nextMarker } := h.ledger.discard hl id hm
  refine ⟨h.skeleton, h.current, ?_⟩
  rw [hledger]
  exact ⟨rfl, rfl, [], rfl, List.forall_mem_nil _, fun _ => rfl⟩

end Open

end Confined

namespace Walled

theorem of_confined (hm : m.Walled n) (h : m.Confined n m') : m'.Walled n :=
  ⟨h.ledger.tidy hm.tidy, hm.scopes.congr h.skeleton, h.current ▸ hm.current⟩

/-- A new scope is beyond the wall. -/
theorem of_enter (hl : m.ledger.Tidy) (hs : m.scopes.Walled n) (hparent : parent.Beyond n) :
    (m.enter parent).Walled n :=
  ⟨hl, hs.push hparent, .inr hs.size⟩

theorem of_enterCall (hl : m.ledger.Tidy) (hs : m.scopes.Walled n) : m.enterCall.Walled n :=
  of_enter (m := { m with callDepth := m.callDepth + 1 }) hl hs (.inl rfl)

theorem of_openSkip (hm : m.Walled n) {marker : Marker} {l : Ledger}
    (hl : m.ledger.openSkip m.scopes.nextSerial = .ok (marker, l)) :
    { m with ledger := l }.Walled n :=
  ⟨Ledger.tidy_of_openSkip hl, hm.scopes, hm.current⟩

end Walled

/-! ### Recasting -/

theorem enter_recast (hn : n ≤ m.scopes.row.size) (g : Nat → Bindings) (parent : ScopeId) :
    (m.recast n g).enter parent = (m.enter parent).recast n g := by
  rw [enter, recast, Scopes.push_recast hn]
  rfl

theorem enterCall_recast (hn : n ≤ m.scopes.row.size) (g : Nat → Bindings) :
    (m.recast n g).enterCall = m.enterCall.recast n g :=
  enter_recast (m := { m with callDepth := m.callDepth + 1 }) hn g Scopes.global

theorem leave_recast (n : Nat) (g : Nat → Bindings) (m m' : Machine) :
    (m'.recast n g).leave (m.recast n g) = (m'.leave m).recast n g := by
  have hsize : (m.recast n g).scopes.row.size = m.scopes.row.size := m.scopes.size_recast n g
  have hdiscard := m'.scopes.discard_recast n g ⟨m.scopes.row.size, m.scopes.nextSerial⟩
  rw [leave, hsize]
  exact congrArg (fun ss => ({ m' with scopes := ss, current := m.current } : Machine)) hdiscard

end Machine

namespace Run

variable {α β : Type} {n : Nat} {g : Nat → Bindings} {m m' : Machine}

/-- How two runs end from `m` and from that machine recast, if both do the same. -/
inductive Paired (n : Nat) (g : Nat → Bindings) (m : Machine) :
    Option (Except Stop α × Machine) → Option (Except Stop α × Machine) → Prop
  | ended {r : Except Stop α} {m' : Machine} : m.Confined n m' →
      Paired n g m (some (r, m')) (some (r, m'.recast n g))
  | starved : Paired n g m none none

namespace Paired

variable {o o' : Option (Except Stop α × Machine)}

theorem eq_some {r : Except Stop α} (h : Paired n g m (some (r, m')) o') :
    m.Confined n m' ∧ o' = some (r, m'.recast n g) := by
  cases h with
  | ended h => exact ⟨h, rfl⟩

theorem eq_none (h : Paired n g m none o') : o' = none := by
  cases h with
  | starved => rfl

theorem trans (h : m.Confined n m') (ho : Paired n g m' o o') : Paired n g m o o' := by
  cases ho with
  | ended h' => exact .ended (h.trans h')
  | starved => exact .starved

theorem bind {x : Run α} {f : α → Run β} (hx : Paired n g m (x m) (x (m.recast n g)))
    (hf : ∀ a m', m.Confined n m' → Paired n g m' (f a m') (f a (m'.recast n g))) :
    Paired n g m ((x >>= f) m) ((x >>= f) (m.recast n g)) := by
  rw [bind_apply, bind_apply]
  generalize x m = o, x (m.recast n g) = o' at hx ⊢
  cases hx with
  | starved => exact .starved
  | @ended r m' h =>
    cases r with
    | ok a => exact (hf a m' h).trans h
    | error e => exact .ended h

/-- Both machines are changed in the same way afterwards. -/
theorem map {m₁ : Machine} (h : Paired n g m₁ o o') (f f' : Machine → Machine)
    (hf : ∀ m', m₁.Confined n m' → m.Confined n (f m'))
    (hf' : ∀ m', f' (m'.recast n g) = (f m').recast n g) :
    Paired n g m (o.map fun p => (p.1, f p.2)) (o'.map fun p => (p.1, f' p.2)) := by
  cases h with
  | starved => exact .starved
  | ended h => simpa only [Option.map_some, hf'] using .ended (hf _ h)

end Paired

/-- Whatever is bound in the scopes that are out of reach, the run does the same. -/
def Isolated (n : Nat) (g : Nat → Bindings) (x : Run α) : Prop :=
  ∀ m, m.Walled n → Paired n g m (x m) (x (m.recast n g))

namespace Isolated

theorem bind {x : Run α} {f : α → Run β} (hx : Isolated n g x) (hf : ∀ a, Isolated n g (f a)) :
    Isolated n g (x >>= f) :=
  fun m hm => (hx m hm).bind fun a m' h => hf a m' (hm.of_confined h)

theorem pure (a : α) : Isolated n g (pure a : Run α) :=
  fun m _ => .ended (.refl m)

theorem stop (reason : Stop) : Isolated n g (stop reason : Run α) :=
  fun m _ => .ended (.refl m)

theorem fail (e : Failure) : Isolated n g (fail e : Run α) :=
  stop _

theorem starved : Isolated n g (starved : Run α) :=
  fun _ _ => .starved

theorem attempt {x : Run α} (hx : Isolated n g x) : Isolated n g (attempt x) := by
  intro m hm
  have h := hx m hm
  rw [Run.attempt, Run.attempt]
  generalize x m = o, x (m.recast n g) = o' at h ⊢
  cases h with
  | ended h => exact .ended h
  | starved => exact .starved

theorem query {f : Machine → Except Failure α} (hf : ∀ m, m.Walled n → f (m.recast n g) = f m) :
    Isolated n g (query f) := by
  intro m hm
  rw [Run.query, Run.query, hf m hm]
  cases f m with
  | ok a => exact .ended (.refl m)
  | error e => exact .ended (.refl m)

/-- A change that has nothing to do with the scopes. -/
theorem update {f : Machine → Machine} (hf : ∀ m : Machine, m.Confined n (f m))
    (hrecast : ∀ m : Machine, f (m.recast n g) = (f m).recast n g) : Isolated n g (update f) := by
  intro m _
  rw [Run.update, Run.update, hrecast]
  exact .ended (hf m)

/-! ### Scopes -/

theorem lookup (name : String) : Isolated n g (lookup name) :=
  query fun _ hm => hm.scopes.get_recast hm.current g name

theorem readTarget (t : Target) : Isolated n g (readTarget t) :=
  query fun _ hm => hm.scopes.read_recast hm.current g t

theorem updateScopes {f : Scopes → Except Failure Scopes}
    (hf : ∀ ss, f (ss.recast n g) = (f ss).map (Scopes.recast n g))
    (hskeleton : ∀ ss ss', f ss = .ok ss' → ss'.skeleton = ss.skeleton) :
    Isolated n g (updateScopes f) := by
  intro m _
  have hrecast : f (m.recast n g).scopes = (f m.scopes).map (Scopes.recast n g) := hf m.scopes
  rw [Run.updateScopes, Run.updateScopes, hrecast]
  cases hss : f m.scopes with
  | ok ss =>
    have hconfined : m.Confined n { m with scopes := ss } := ⟨hskeleton _ _ hss, rfl, .refl _⟩
    exact .ended hconfined
  | error e => exact .ended (.refl m)

theorem define {scope : ScopeId} (hscope : scope.Beyond n) (name : String) (v : Value) :
    Isolated n g (define scope name v) :=
  updateScopes (fun ss => ss.define_recast hscope g name v) fun _ _ => Scopes.skeleton_define

theorem declare (name : String) (v : Value) : Isolated n g (declare name v) :=
  fun m hm => define hm.current name v m hm

/-- What is recorded belongs to a scope beyond the wall. -/
theorem record {c : Breadcrumb} (hc : c.Beyond n) : Isolated n g (record c) := by
  intro m _
  have hreversing : (m.recast n g).reversing = m.reversing := rfl
  have hledger : (m.recast n g).ledger = m.ledger := rfl
  rw [Run.record, Run.record, hreversing, hledger]
  split
  · exact .ended (.refl m)
  · cases hl : m.ledger.record c with
    | ok l => exact .ended ((Machine.Confined.refl m).withLedger (.record hc hl))
    | error e => exact .ended (.refl m)

theorem recordUndo (undo : Stmt) : Isolated n g (do
    let scope ← Run.read (·.current)
    Run.record (.replay scope undo)) :=
  fun m hm => record (c := .replay m.current undo) hm.current m hm

theorem store (t : Target) (v : Value) : Isolated n g (store t v) := by
  intro m hm
  have hrun : ∀ m', Run.store t v m' = match t.rebinding m'.scopes m'.current v with
      | .ok b => (Run.record b.crumb >>= fun _ => Run.define b.owner b.name b.value) m'
      | .error e => Run.fail e m' := by
    intro m'
    rw [Run.store, bind_apply, Run.query]
    cases t.rebinding m'.scopes m'.current v <;> rfl
  have hrecast : t.rebinding (m.recast n g).scopes (m.recast n g).current v =
    t.rebinding m.scopes m.current v := hm.scopes.rebinding_recast hm.current g t v
  rw [hrun, hrun, hrecast]
  cases hb : t.rebinding m.scopes m.current v with
  | error e => exact fail e m hm
  | ok b =>
    -- What is found by name is beyond the wall.
    have howner := hm.scopes.beyond_of_owner hm.current (Target.owner_of_rebinding hb)
    obtain ⟨bound, -, hstores⟩ := Target.rebinding_eq_ok hb
    exact bind (record (hstores.beyond howner)) (fun _ => define howner b.name b.value) m hm

theorem setLocation (l : Location) : Isolated n g (setLocation l) :=
  update (fun _ => ⟨rfl, rfl, .refl _⟩) fun _ => rfl

theorem setReversing (b : Bool) : Isolated n g (setReversing b) :=
  update (fun _ => ⟨rfl, rfl, .refl _⟩) fun _ => rfl

/-- The arguments of a native function are bound beyond the wall. -/
theorem native {host : Host} (hhost : host.Secluded) (code : NativeCode) (argc : Nat) :
    Isolated n g (native (code.run host) argc) := by
  intro m hm
  have halike : NativeCall.Alike ⟨m.scopes, m.current, argc, m.settings⟩
      ⟨m.scopes.recast n g, m.current, argc, m.settings⟩ :=
    ⟨Scopes.getLocal_recast hm.current g m.scopes, rfl, rfl⟩
  have hrun : code.run host ⟨(m.recast n g).scopes, (m.recast n g).current, argc,
      (m.recast n g).settings⟩ (m.recast n g).surroundings =
        code.run host ⟨m.scopes, m.current, argc, m.settings⟩ m.surroundings :=
    hhost.run code _ _ m.surroundings halike
  rw [Run.native, Run.native, hrun]
  have hconfined : ∀ s, m.Confined n { m with surroundings := s } := fun _ => ⟨rfl, rfl, .refl _⟩
  rcases code.run host ⟨m.scopes, m.current, argc, m.settings⟩ m.surroundings with ⟨e | v, s⟩
  · exact .ended (hconfined s)
  · exact .ended (hconfined s)

/-! ### Blocks and calls -/

theorem inScope {scope : ScopeId} (hscope : scope.Beyond n) {x : Run α} (hx : Isolated n g x) :
    Isolated n g (inScope scope x) := by
  intro m hm
  rw [inScope_apply, inScope_apply]
  exact (hx { m with current := scope } ⟨hm.tidy, hm.scopes, hscope⟩).map
    (fun m' => { m' with current := m.current }) (fun m' => { m' with current := m.current })
    (fun _ h => ⟨h.skeleton, rfl, h.ledger⟩) fun _ => rfl

theorem inBlock {x : Run α} (hx : Isolated n g x) : Isolated n g (inBlock x) := by
  intro m hm
  have hrun : ∀ m' : Machine, Run.inBlock x m' = Run.inNewScope m'.current x m' := fun _ => rfl
  have hcurrent : (m.recast n g).current = m.current := rfl
  rw [hrun, hrun, hcurrent, inNewScope_apply, inNewScope_apply,
    Machine.enter_recast hm.scopes.size]
  exact (hx _ (.of_enter hm.tidy hm.scopes hm.current)).map (·.leave m) (·.leave (m.recast n g))
    (fun _ => .leave) fun m' => m.leave_recast n g m'

end Isolated

/-- What is run as a call, in a machine in which the scope that is being run in may be out of
    reach itself. -/
theorem paired_inCall (hl : m.ledger.Tidy) (hs : m.scopes.Walled n) {x : Run α}
    (hx : Isolated n g x) : Paired n g m (inCall x m) (inCall x (m.recast n g)) := by
  have hsettings : (m.recast n g).settings = m.settings := rfl
  have hdepth : (m.recast n g).callDepth = m.callDepth := rfl
  rw [inCall_apply, inCall_apply, hsettings, hdepth]
  split
  · exact .ended (.refl m)
  · rw [Machine.enterCall_recast hs.size]
    refine (hx _ (.of_enterCall hl hs)).map
      (fun m' => { m'.leave m with callDepth := m'.callDepth - 1 })
      (fun m' => { m'.leave (m.recast n g) with callDepth := m'.callDepth - 1 })
      (fun _ => .leaveCall) fun m' => ?_
    rw [m.leave_recast n g]
    rfl

theorem Isolated.inCall {x : Run α} (hx : Isolated n g x) : Isolated n g (inCall x) :=
  fun _ hm => paired_inCall hm.tidy hm.scopes hx

namespace Isolated

theorem compositional {host : Host} (hhost : host.Secluded) :
    Compositional host fun x : Unit → Run _ => Isolated n g (x ()) where
  starved := starved
  pure := pure
  bind := bind
  stop := stop
  lookup := lookup
  readTarget := readTarget
  declare := declare
  store := store
  record := recordUndo
  setReversing := setReversing
  native := native hhost
  inBlock := inBlock
  inCall := inCall

/-! ### Rollbacks -/

section Rollback

variable {r : Evaluator} (hexec : ∀ s, Isolated n g (r.exec s)) (marker : Marker)
  {enclosing : ScopeId} (henclosing : enclosing.Beyond n)

theorem restorable (scope : ScopeId) : Isolated n g (restorable marker scope) := by
  refine query fun m _ => ?_
  have hcontains : (m.recast n g).scopes.contains scope = m.scopes.contains scope :=
    m.scopes.contains_recast n g scope
  rw [Scopes.restorable, Scopes.restorable, hcontains]

theorem whenRestorable {scope : ScopeId} {x : Run Unit} (hx : Isolated n g x) :
    Isolated n g (whenRestorable marker scope x) := by
  refine bind (restorable marker scope) fun b => ?_
  cases b with
  | true => exact hx
  | false => exact pure ()

include hexec

theorem replay {scope : ScopeId} (hscope : scope.Beyond n) (undo : Stmt) :
    Isolated n g (r.replay scope undo) := by
  refine bind (attempt (inScope hscope (hexec undo))) fun x => ?_
  split
  · exact pure ()
  all_goals exact fail _

include henclosing

/-- What a breadcrumb restores is beyond the wall. -/
theorem restore {c : Breadcrumb} (hc : c.Beyond n) :
    Isolated n g (r.restore marker enclosing c) := by
  cases c with
  | marker => exact absurd hc id
  | binding scope name previous => exact whenRestorable marker (define hc name previous)
  | entry scope name path previous =>
    refine whenRestorable marker (updateScopes (fun ss =>
      Scopes.restoreEntry_recast hc g ss name path previous) fun ss ss' h => ?_)
    obtain ⟨_, _, _, _, -, -, -, hd⟩ := Scopes.restoreEntry_eq_ok h
    exact Scopes.skeleton_define hd
  | replay scope undo =>
    refine bind (restorable marker scope) fun b => ?_
    cases b with
    | true => exact replay hexec hc undo
    | false => exact replay hexec henclosing undo

/-- In the rollback of a skip that was entered in `m₁`, nothing is restored from breadcrumbs that
    are older. -/
theorem restoreAbove {m₁ : Machine} (hm₁ : m₁.Walled n)
    (hmarker : ∃ old, m₁.ledger.crumbs = .marker marker :: old) (h : m₁.Confined n m) (k : Nat) :
    Paired n g m₁ (r.restoreAbove marker enclosing k m)
      (r.restoreAbove marker enclosing k (m.recast n g)) := by
  induction k generalizing m with
  | zero => exact .starved
  | succ k ih =>
    have hledger : (m.recast n g).ledger = m.ledger := rfl
    rw [Evaluator.restoreAbove_succ, Evaluator.restoreAbove_succ, hledger]
    cases hpop : m.ledger.popAbove marker with
    | none => exact .ended h
    | some p =>
      obtain ⟨c, l⟩ := p
      obtain ⟨hc, hl⟩ := h.ledger.popAbove hmarker hpop
      have hconfined : m₁.Confined n { m with ledger := l } := h.withLedger hl
      have hrestore := restore hexec marker henclosing hc _
        (hm₁.of_confined hconfined)
      have hrecast : ({ m with ledger := l } : Machine).recast n g =
          { m.recast n g with ledger := l } := rfl
      rw [hrecast] at hrestore
      dsimp only
      rw [bind_apply, bind_apply]
      generalize r.restore marker enclosing c { m with ledger := l } = o,
        r.restore marker enclosing c { m.recast n g with ledger := l } = o' at hrestore ⊢
      cases hrestore with
      | starved => exact .starved
      | @ended x m' h' =>
        cases x with
        | ok u => exact ih (hconfined.trans h')
        | error e => exact .ended (hconfined.trans h')

end Rollback

/-! ### Skips -/

theorem skip {host : Host} (hhost : host.Secluded) {r : Evaluator}
    (heval : ∀ e, Isolated n g (r.eval e)) (hexec : ∀ s, Isolated n g (r.exec s)) (body : Block)
    (seizes : List Seize) : Isolated n g (r.skip body seizes) := by
  have hcompositional := compositional (n := n) (g := g) hhost
  intro m hm
  cases hl : m.ledger.openSkip m.scopes.nextSerial with
  | error e =>
    rw [r.skip_of_full body seizes hl, r.skip_of_full (m := m.recast n g) body seizes hl]
    exact .ended (.refl m)
  | ok opened =>
    obtain ⟨marker, l⟩ := opened
    have hm₁ := hm.of_openSkip hl
    have hblock : Isolated n g (r.block body) :=
      hcompositional.block (r := fun _ => r) hexec body
    have hblock := hblock { m with ledger := l } hm₁
    have hrecast : ({ m with ledger := l } : Machine).recast n g =
        { m.recast n g with ledger := l } := rfl
    rw [hrecast] at hblock
    rw [r.skip_of_openSkip body seizes hl, r.skip_of_openSkip (m := m.recast n g) body seizes hl]
    generalize r.block body { m with ledger := l } = o,
      r.block body { m.recast n g with ledger := l } = o' at hblock ⊢
    cases hblock with
    | starved => exact .starved
    | @ended x m₂ h =>
      cases x with
      | ok flow =>
        cases flow with
        | returned v => exact .ended (h.discardSkip hl hm.tidy)
        | normal => exact .ended (h.closeSkip hl hm.tidy)
        | jump j => exact .ended (h.closeSkip hl hm.tidy)
      | error reason =>
        cases reason with
        | failure e => exact .ended (h.discardSkip hl hm.tidy)
        | reversal payload =>
          have hroll := restoreAbove hexec marker hm.current hm₁
            ⟨_, (Ledger.openSkip_eq_ok hl).2.1⟩ h r.rounds
          have hcurrent : (m.recast n g).current = m.current := rfl
          dsimp only
          rw [hcurrent, Evaluator.rollBack]
          generalize r.restoreAbove marker m.current r.rounds m₂ = o,
            r.restoreAbove marker m.current r.rounds (m₂.recast n g) = o' at hroll ⊢
          cases hroll with
          | starved => exact .starved
          | @ended y m₃ h' =>
            cases y with
            | error reason => exact .ended (h'.discardSkip hl hm.tidy)
            | ok u =>
              have hclosed := h'.closeSkip hl hm.tidy
              have hdispatch : Isolated n g (r.dispatch payload none seizes) :=
                hcompositional.dispatch (r := fun _ => r) heval hexec payload none seizes
              exact (hdispatch _ (hm.of_confined hclosed)).trans hclosed

/-- Whatever is run behind a wall is isolated. -/
theorem pervasive {host : Host} (hhost : host.Secluded) :
    Pervasive host fun x : Unit → Run _ => Isolated n g (x ()) :=
  { compositional hhost with
    setLocation := setLocation
    skip _ := skip hhost }

end Isolated

end Run

end Retrace
