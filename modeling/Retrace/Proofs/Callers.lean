import Retrace.Proofs.Isolation
import Retrace.Proofs.Rooted

/-!
# Calls and the scopes of their callers

When a call is entered the only scope that is in reach is the global one, and all
others are walled off (`Scopes.Walled.of_rooted`). So what is called does the same
whatever is bound in them, and changes none of that, however the call ends
(`Reached.call_isolated`). For both it is enough to compare the call with the one in
the machine recast: with what is bound in another machine for the first, and with
what is bound already for the second.
-/

namespace Retrace

namespace Machine

/-- Whether the machines are the same but for what is bound in live scopes other than the
    global one. -/
structure DiffersLocally (m m' : Machine) : Prop where
  rest : m' = { m with scopes := m'.scopes }
  skeleton : m'.scopes.skeleton = m.scopes.skeleton
  nextSerial : m'.scopes.nextSerial = m.scopes.nextSerial
  global : m'.scopes.scope? Scopes.global = m.scopes.scope? Scopes.global

/-- Whether every scope that was live is as it was, other than the global one. -/
def KeepsLocals (m m' : Machine) : Prop :=
  ∀ id, id ≠ Scopes.global → m.scopes.contains id → m'.scopes.scope? id = m.scopes.scope? id

variable {m m' : Machine} {n : Nat} {g : Nat → Bindings}

theorem DiffersLocally.recast (n : Nat) (g : Nat → Bindings) (m : Machine) :
    m.DiffersLocally (m.recast n g) where
  rest := rfl
  skeleton := m.scopes.skeleton_recast n g
  nextSerial := rfl
  global := Scopes.scope?_recast (.inl rfl) g m.scopes

/-- A name is bound in a scope other than the global one. -/
theorem DiffersLocally.define {ss : Scopes} {id : ScopeId} {name : String} {v : Value}
    (hd : m.scopes.define id name v = .ok ss) (hid : id.slot ≠ 0) :
    m.DiffersLocally { m with scopes := ss } where
  rest := rfl
  skeleton := Scopes.skeleton_define hd
  nextSerial := Scopes.nextSerial_define hd
  global := by
    obtain ⟨-, rfl⟩ := Scopes.define_eq_ok hd
    exact (Scopes.scope?_modify ..).trans (if_neg hid.symm)

/-- Machines that differ locally are recast into one another. -/
theorem DiffersLocally.recast_eq (h : m.DiffersLocally m') (hm : m.scopes.Rooted) :
    m.recast m.scopes.row.size m'.scopes.bindingsAt = m' := by
  have hscopes : m.scopes.recast m.scopes.row.size m'.scopes.bindingsAt = m'.scopes := by
    refine Scopes.recast_bindingsAt h.skeleton h.nextSerial fun slot hslot => ?_
    rcases hslot with rfl | hslot
    · obtain ⟨s, hs⟩ := Option.isSome_iff_exists.1 hm.global
      have hfirst := (Scopes.scope?_eq_some_iff.1 hs).1
      have hfirst' := (Scopes.scope?_eq_some_iff.1 (h.global.trans hs)).1
      exact (Scopes.bindingsAt_eq hfirst').trans (Scopes.bindingsAt_eq hfirst).symm
    · -- There are no such slots.
      have hnone : m.scopes.row[slot]? = none := Array.getElem?_eq_none hslot
      rw [Scopes.bindingsAt, Scopes.bindingsAt, hnone,
        Scopes.getElem?_eq_none_congr h.skeleton hnone]
  rw [Machine.recast, hscopes]
  exact h.rest.symm

/-- What is recast as it was in a machine with the same scopes is as it was. -/
theorem keepsLocals_recast (hm : m.scopes.Rooted) (h : m'.scopes.skeleton = m.scopes.skeleton) :
    m.KeepsLocals (m'.recast m.scopes.row.size m.scopes.bindingsAt) := by
  intro id hid hlive
  have hskeleton : (m'.recast m.scopes.row.size m.scopes.bindingsAt).scopes.skeleton =
    m.scopes.skeleton := (Scopes.skeleton_recast _ _ m'.scopes).trans h
  -- In the first slot there is no scope but the global one.
  have hslot : 0 < id.slot :=
    Nat.pos_of_ne_zero fun h0 => hid (Scopes.eq_of_slot_eq hlive hm.global h0)
  obtain ⟨s, hs⟩ : ∃ s, m'.scopes.row[id.slot]? = some s := by
    have hlt := Scopes.slot_lt hlive
    rw [← Scopes.length_skeleton, ← h, Scopes.length_skeleton] at hlt
    exact ⟨_, Array.getElem?_eq_getElem hlt⟩
  have hrow := Scopes.getElem?_congr hskeleton ((Scopes.bindingsAt_recast hs).trans
    (if_pos ⟨hslot, Scopes.slot_lt hlive⟩))
  rw [Scopes.scope?, Scopes.scope?, hrow]

/-- A call does the same whatever is bound in the scopes of its callers. -/
theorem paired_callValue {host : Host} (hhost : host.Secluded) (hl : m.ledger.Tidy)
    (hm : m.scopes.Rooted) (g : Nat → Bindings) (fuel : Nat) (f : Value) (args : List Value) :
    Run.Paired m.scopes.row.size g m ((evaluator host fuel).callValue host f args m)
      ((evaluator host fuel).callValue host f args (m.recast m.scopes.row.size g)) := by
  have hpervasive := Run.Isolated.pervasive (n := m.scopes.row.size) (g := g) hhost
  have hs := Scopes.Walled.of_rooted hm
  have hbody : ∀ b, Run.Isolated m.scopes.row.size g ((evaluator host fuel).execAll b) :=
    hpervasive.execAll (r := fun _ => evaluator host fuel) (hpervasive.evaluator fuel).2
  have hfail : ∀ e : Failure, Run.Paired m.scopes.row.size g m ((Run.fail e : Run Value) m)
      ((Run.fail e : Run Value) (m.recast m.scopes.row.size g)) := fun _ => .ended (.refl m)
  cases f with
  | function f =>
    rw [Evaluator.callValue, Evaluator.callFunction]
    split
    · exact hfail _
    · refine .bind (Run.paired_inCall hl hs (.bind (hpervasive.declareAll _) fun _ =>
        hbody f.body)) fun flow m' _ => ?_
      cases flow with
      | normal | returned | jump => exact .ended (.refl m')
  | native f =>
    rw [Evaluator.callValue, Evaluator.callNative]
    split
    · exact hfail _
    · exact Run.paired_inCall hl hs (.bind (hpervasive.declareAll _) fun _ =>
        hpervasive.native f.code args.length)
  | _ => exact hfail _

end Machine

/-- In two machines that differ only in what is bound in live scopes other than the global one,
    a call ends in the same way, and the machines after it again differ only so. In both, every
    scope that was live is as it was, other than the global one. -/
theorem Reached.call_isolated {host : Host} {P : Value → Prop} {m m₁ : Machine}
    (hm : Reached host P m) (hhost : host.Secluded) (hdiffers : m.DiffersLocally m₁) (fuel : Nat)
    (f : Value) (args : List Value) :
    ((evaluator host fuel).callValue host f args m = none ∧
      (evaluator host fuel).callValue host f args m₁ = none) ∨
    ∃ r m' m₁', (evaluator host fuel).callValue host f args m = some (r, m') ∧
      (evaluator host fuel).callValue host f args m₁ = some (r, m₁') ∧
      m'.DiffersLocally m₁' ∧ m.KeepsLocals m' ∧ m₁.KeepsLocals m₁' := by
  have hrooted := hm.anchored.rooted
  have hpaired := fun g => Machine.paired_callValue hhost hm.sane_any.pre.1 hrooted g fuel f args
  have hother := hpaired m₁.scopes.bindingsAt
  have hself := hpaired m.scopes.bindingsAt
  have hsame : m.recast m.scopes.row.size m.scopes.bindingsAt = m :=
    congrArg (fun ss => { m with scopes := ss }) (Scopes.recast_self _ _)
  rw [hdiffers.recast_eq hrooted] at hother
  rw [hsame] at hself
  have hrooted₁ := hrooted.congr hdiffers.skeleton
  have hsize : m₁.scopes.row.size = m.scopes.row.size := by
    rw [← Scopes.length_skeleton, hdiffers.skeleton, Scopes.length_skeleton]
  cases hcall : (evaluator host fuel).callValue host f args m with
  | none =>
    rw [hcall] at hother
    exact .inl ⟨rfl, hother.eq_none⟩
  | some p =>
    obtain ⟨r, m'⟩ := p
    rw [hcall] at hother hself
    obtain ⟨hconfined, hcall₁⟩ := hother.eq_some
    obtain ⟨-, hkept⟩ := hself.eq_some
    have hkept : m' = m'.recast m.scopes.row.size m.scopes.bindingsAt :=
      congrArg Prod.snd (Option.some.inj hkept)
    refine .inr ⟨r, m', _, rfl, hcall₁, .recast _ _ m', ?_, ?_⟩
    · rw [hkept]
      exact m.keepsLocals_recast hrooted hconfined.skeleton
    · rw [← hsize]
      exact m₁.keepsLocals_recast hrooted₁ (hconfined.skeleton.trans hdiffers.skeleton.symm)

theorem Host.bare_secluded : bare.Secluded :=
  fun _ => (NativeM.Modest.fail _).secluded

/-- A function with a variable of its own, which it assigns to in a skip. It takes that back
    and returns the variable. -/
def Function.shadowing : Function where
  name := "f"
  params := []
  body := [⟨.declare (.variable ⟨"x", some (.literal .str "own")⟩), .unknown⟩,
    ⟨.skip [⟨.assign (.ident "x") .set (.literal .str "other"), .unknown⟩,
      ⟨.reverse (.literal .truth "true"), .unknown⟩]
      [⟨none, [⟨.ret (some (.ident "x")), .unknown⟩]⟩], .unknown⟩]

/-- It may be called from a block in which a variable of the same name is bound. -/
theorem Reached.call_isolated_shadowing :
    ∃ m m₁ r m' m₁', Reached .bare (fun _ => True) m ∧ m.DiffersLocally m₁ ∧
      (m.scopes.look m.current "x").isNone ∧ (m₁.scopes.look m₁.current "x").isSome ∧
      (evaluator .bare 9).callValue .bare (.function .shadowing) [] m = some (r, m') ∧
      (evaluator .bare 9).callValue .bare (.function .shadowing) [] m₁ = some (r, m₁') ∧
      m'.DiffersLocally m₁' ∧ m.KeepsLocals m' ∧ m₁.KeepsLocals m₁' := by
  have hm : Reached .bare (fun _ => True) (Machine.bare.enter Scopes.global) :=
    .block (.rest (.start .default .bare))
  have hruns : ((evaluator .bare 9).callValue .bare (.function .shadowing) []
      (Machine.bare.enter Scopes.global)).isSome := by decide +kernel
  have hslot : (Machine.bare.enter Scopes.global).current.slot ≠ 0 := by
    decide +kernel
  have hnone : ((Machine.bare.enter Scopes.global).scopes.look
      (Machine.bare.enter Scopes.global).current "x").isNone := by decide +kernel
  generalize Machine.bare.enter Scopes.global = m at *
  have hd := Scopes.define_eq hm.anchored.live "x" .void
  have hdiffers := Machine.DiffersLocally.define hd hslot
  obtain ⟨h, -⟩ | ⟨r, m', m₁', hcall, hcall₁, h⟩ :=
    hm.call_isolated Host.bare_secluded hdiffers 9 (.function .shadowing) []
  · rw [h] at hruns
    exact absurd hruns (by simp)
  · refine ⟨m, _, r, m', m₁', hm, hdiffers, hnone, ?_, hcall, hcall₁, h⟩
    exact (congrArg Option.isSome (Scopes.look_define hd m.current "x")).trans
      (congrArg Option.isSome (if_pos ⟨rfl, rfl⟩))

end Retrace
