import Retrace.Eval.Assignment
import Retrace.Eval.Rollback
import Retrace.Proofs.Rooted

/-!
# Scopes that are out of reach

When a call is entered, some scopes are live already. Of these the body of the
function can reach the global one only; the scopes it can reach stand in the first
slot or *beyond* those there were (`ScopeId.Beyond`), and their parents do so too
(`Scopes.Walled`).

To see that the others do not matter, they are *recast* (`Scopes.recast`): all that is
bound in them is replaced by something else. What is done through a handle that
is beyond them comes to the same before and after, as the handle is to the same
scope, and the search for a name goes on to no other ones.
-/

namespace Retrace

/-- Whether it refers to the global scope or one from the slot `n` on, if it is not stale. -/
def ScopeId.Beyond (n : Nat) (id : ScopeId) : Prop :=
  id.slot = 0 ∨ n ≤ id.slot

namespace Scopes

variable {n : Nat} {g : Nat → Bindings} {ss tt : Scopes} {id : ScopeId} {name : String}

/-- The scopes with other bindings in the slots after the global scope and before `n`. -/
def recast (n : Nat) (g : Nat → Bindings) (ss : Scopes) : Scopes :=
  { ss with row := ss.row.mapIdx fun slot s =>
      if 0 < slot ∧ slot < n then { s with bindings := g slot } else s }

theorem getElem?_recast (n : Nat) (g : Nat → Bindings) (ss : Scopes) (slot : Nat) :
    (ss.recast n g).row[slot]? = ss.row[slot]?.map fun s =>
      if 0 < slot ∧ slot < n then { s with bindings := g slot } else s :=
  Array.getElem?_mapIdx

theorem size_recast (n : Nat) (g : Nat → Bindings) (ss : Scopes) :
    (ss.recast n g).row.size = ss.row.size :=
  Array.size_mapIdx

/-- Two rows are the same if the scopes in them are. -/
theorem ext_row (hrow : ∀ slot : Nat, tt.row[slot]? = ss.row[slot]?)
    (hserial : tt.nextSerial = ss.nextSerial) : tt = ss := by
  obtain ⟨row, nextSerial⟩ := ss
  obtain ⟨row', nextSerial'⟩ := tt
  obtain rfl : row' = row := Array.ext_getElem? hrow
  obtain rfl : nextSerial' = nextSerial := hserial
  rfl

theorem skeleton_recast (n : Nat) (g : Nat → Bindings) (ss : Scopes) :
    (ss.recast n g).skeleton = ss.skeleton := by
  apply List.ext_getElem?
  intro slot
  rw [skeleton, skeleton, List.getElem?_map, List.getElem?_map, Array.getElem?_toList,
    Array.getElem?_toList, getElem?_recast, Option.map_map]
  congr 1
  funext s
  dsimp only [Function.comp]
  split <;> rfl

theorem contains_recast (n : Nat) (g : Nat → Bindings) (ss : Scopes) (id : ScopeId) :
    (ss.recast n g).contains id = ss.contains id :=
  contains_congr (skeleton_recast n g ss) id

/-! ### Coming and going -/

theorem push_recast (hn : n ≤ ss.row.size) (parent : ScopeId) :
    (ss.recast n g).push parent = ((ss.push parent).1, (ss.push parent).2.recast n g) := by
  have hsize := ss.size_recast n g
  refine Prod.ext ?_ (ext_row (fun slot => ?_) rfl)
  · exact congrArg (ScopeId.mk · ss.nextSerial) hsize
  · rw [getElem?_recast, push, push, Array.getElem?_push, Array.getElem?_push, hsize,
      getElem?_recast]
    by_cases hslot : slot = ss.row.size
    · rw [if_pos hslot, if_pos hslot, Option.map_some, if_neg (by omega)]
      rfl
    · rw [if_neg hslot, if_neg hslot]

theorem discard_recast (n : Nat) (g : Nat → Bindings) (ss : Scopes) (id : ScopeId) :
    (ss.recast n g).discard id = (ss.discard id).recast n g := by
  refine ext_row (fun slot => ?_) rfl
  rw [getElem?_recast, discard, discard, Array.take_eq_extract, Array.take_eq_extract,
    Array.getElem?_extract, Array.getElem?_extract, size_recast, Nat.zero_add, getElem?_recast]
  split <;> rfl

/-! ### What is done through a handle -/

section Beyond

variable (hid : id.Beyond n)
include hid

theorem scope?_recast (g : Nat → Bindings) (ss : Scopes) :
    (ss.recast n g).scope? id = ss.scope? id := by
  rw [scope?, scope?, getElem?_recast]
  -- The scope that the handle may refer to is not recast.
  have hslot : ¬(0 < id.slot ∧ id.slot < n) := fun h => by
    rcases hid with h0 | hn <;> omega
  simp only [if_neg hslot, Option.map_id']

theorem scope_recast (g : Nat → Bindings) (ss : Scopes) :
    (ss.recast n g).scope id = ss.scope id := by
  rw [scope, scope, scope?_recast hid]

theorem getLocal_recast (g : Nat → Bindings) (ss : Scopes) (name : String) :
    (ss.recast n g).getLocal id name = ss.getLocal id name := by
  rw [getLocal, getLocal, scope_recast hid]

theorem define_recast (g : Nat → Bindings) (ss : Scopes) (name : String) (v : Value) :
    (ss.recast n g).define id name v = (ss.define id name v).map (recast n g) := by
  rw [define, define, scope_recast hid]
  cases ss.scope id with
  | error e => rfl
  | ok s =>
    refine congrArg Except.ok (ext_row (fun slot => ?_) rfl)
    rw [getElem?_recast, Array.getElem?_modify, Array.getElem?_modify, getElem?_recast]
    by_cases hslot : id.slot = slot
    · have hne : ¬(0 < slot ∧ slot < n) := fun h => by
        rcases hid with h0 | hn <;> omega
      simp only [if_pos hslot, if_neg hne, Option.map_id']
    · rw [if_neg hslot, if_neg hslot]

theorem restoreEntry_recast (g : Nat → Bindings) (ss : Scopes) (name : String)
    (path : List Value) (previous : Value) :
    (ss.recast n g).restoreEntry id name path previous =
      (ss.restoreEntry id name path previous).map (recast n g) := by
  rw [restoreEntry.eq_def, restoreEntry.eq_def]
  split
  · rw [getLocal_recast hid]
    rcases ss.getLocal id name with e | _ | bound
    · rfl
    · rfl
    · simp only [bind, Except.bind]
      split
      · rfl
      · exact define_recast hid g ss name _
  · rfl

end Beyond

/-! ### Names -/

/-- The scopes in the first slot and from the slot `n` on have no parents but such scopes, and
    all before `n` are live. -/
structure Walled (n : Nat) (ss : Scopes) : Prop where
  size : n ≤ ss.row.size
  parents : ∀ slot serial parent, slot = 0 ∨ n ≤ slot →
    ss.skeleton[slot]? = some (serial, some parent) → parent.Beyond n

namespace Walled

theorem congr (h : ss.Walled n) (hskeleton : tt.skeleton = ss.skeleton) : tt.Walled n where
  size := by
    rw [← length_skeleton, hskeleton, length_skeleton]
    exact h.size
  parents slot serial parent hslot := by
    rw [hskeleton]
    exact h.parents slot serial parent hslot

theorem push (h : ss.Walled n) {parent : ScopeId} (hparent : parent.Beyond n) :
    (ss.push parent).2.Walled n where
  size := by
    rw [Scopes.push, Array.size_push]
    exact Nat.le_succ_of_le h.size
  parents slot serial p hslot hp := by
    rw [skeleton_push] at hp
    by_cases hlt : slot < ss.skeleton.length
    · rw [List.getElem?_append_left hlt] at hp
      exact h.parents slot serial p hslot hp
    · rw [List.getElem?_append_right (Nat.le_of_not_lt hlt), List.getElem?_singleton] at hp
      split at hp
      · obtain ⟨-, hp⟩ := Prod.mk.inj (Option.some.inj hp)
        exact Option.some.inj hp ▸ hparent
      · exact absurd hp (by simp)

/-- In rooted scopes those there are can all be walled off. -/
theorem of_rooted (h : ss.Rooted) : ss.Walled ss.row.size where
  size := Nat.le_refl _
  parents slot serial parent hslot hp := by
    rcases hslot with rfl | hslot
    · -- The parent of a scope stands in front of it.
      exact absurd (h.parents 0 serial parent hp).1 (Nat.not_lt_zero _)
    · rw [← length_skeleton] at hslot
      rw [List.getElem?_eq_none hslot] at hp
      exact absurd hp (by simp)

section

variable (h : ss.Walled n) (hid : id.Beyond n)
include h hid

theorem parent {s : Scope} {p : ScopeId} (hs : ss.scope id = .ok s) (hp : s.parent = some p) :
    p.Beyond n :=
  h.parents id.slot id.serial p hid (hp ▸ skeleton_of_scope hs)

theorem ownerAmong_recast (g : Nat → Bindings) (name : String) (links : Nat) :
    (ss.recast n g).ownerAmong name links id = ss.ownerAmong name links id := by
  induction links generalizing id with
  | zero => rfl
  | succ links ih =>
    rw [ownerAmong, ownerAmong, scope_recast hid]
    cases hs : ss.scope id with
    | error e => rfl
    | ok s =>
      simp only [bind, Except.bind]
      split
      · rfl
      · cases hp : s.parent with
        | none => rfl
        | some p => exact ih (h.parent hid hs hp)

/-- The search for a name goes through none of the scopes that are walled off. -/
theorem beyond_of_ownerAmong {links : Nat} {owner : ScopeId}
    (ho : ss.ownerAmong name links id = .ok (some owner)) : owner.Beyond n := by
  induction links generalizing id with
  | zero => exact absurd ho (by simp [ownerAmong])
  | succ links ih =>
    obtain ⟨s, hs, ho⟩ := Failure.exists_of_bind ho
    split at ho
    · exact Option.some.inj (Except.ok.inj ho) ▸ hid
    · split at ho
      · rename_i p hp
        exact ih (h.parent hid hs hp) ho
      · exact absurd ho (by simp)

theorem owner_recast (g : Nat → Bindings) (name : String) :
    (ss.recast n g).owner id name = ss.owner id name := by
  rw [owner, owner, owner?, owner?, h.ownerAmong_recast hid]

theorem beyond_of_owner {owner : ScopeId} (ho : ss.owner id name = .ok owner) :
    owner.Beyond n := by
  obtain ⟨o, ha, ho⟩ := Failure.exists_of_bind ho
  split at ho
  · exact Except.ok.inj ho ▸ h.beyond_of_ownerAmong hid ha
  · exact absurd ho (by simp)

theorem get_recast (g : Nat → Bindings) (name : String) :
    (ss.recast n g).get id name = ss.get id name := by
  rw [get, get, h.owner_recast hid]
  cases ho : ss.owner id name with
  | error e => rfl
  | ok owner =>
    simp only [bind, Except.bind]
    rw [getLocal_recast (h.beyond_of_owner hid ho)]

theorem read_recast (g : Nat → Bindings) (t : Target) : t.read (ss.recast n g) id = t.read ss id := by
  rw [Target.read, Target.read, h.get_recast hid]

theorem rebinding_recast (g : Nat → Bindings) (t : Target) (v : Value) :
    t.rebinding (ss.recast n g) id v = t.rebinding ss id v := by
  rw [Target.rebinding, Target.rebinding, h.owner_recast hid]
  cases ho : ss.owner id t.name with
  | error e => rfl
  | ok owner =>
    simp only [bind, Except.bind]
    rw [h.get_recast (h.beyond_of_owner hid ho)]

end

end Walled

/-! ### What is recast -/

/-- What is bound in the scope in a slot. -/
def bindingsAt (ss : Scopes) (slot : Nat) : Bindings :=
  (ss.row[slot]?.map (·.bindings)).getD []

theorem bindingsAt_eq {slot : Nat} {s : Scope} (h : ss.row[slot]? = some s) :
    ss.bindingsAt slot = s.bindings := by
  rw [bindingsAt, h]
  rfl

theorem bindingsAt_recast {slot : Nat} {s : Scope} (h : ss.row[slot]? = some s) :
    (ss.recast n g).bindingsAt slot = if 0 < slot ∧ slot < n then g slot else s.bindings := by
  rw [bindingsAt, getElem?_recast, h]
  dsimp only [Option.map_some, Option.getD_some]
  split <;> rfl

theorem getElem?_eq_none_congr (hskeleton : tt.skeleton = ss.skeleton) {slot : Nat}
    (h : ss.row[slot]? = none) : tt.row[slot]? = none := by
  rw [Array.getElem?_eq_none_iff, ← length_skeleton] at h ⊢
  rwa [hskeleton]

/-- A scope is given by the skeleton and what is bound in it. -/
theorem getElem?_congr (hskeleton : tt.skeleton = ss.skeleton) {slot : Nat}
    (hbindings : tt.bindingsAt slot = ss.bindingsAt slot) : tt.row[slot]? = ss.row[slot]? := by
  have hslot : tt.row[slot]?.map (fun s => (s.serial, s.parent)) =
      ss.row[slot]?.map fun s => (s.serial, s.parent) := by
    have h := congrArg (·[slot]?) hskeleton
    simpa only [skeleton, List.getElem?_map, Array.getElem?_toList] using h
  cases hs : ss.row[slot]? with
  | none => exact getElem?_eq_none_congr hskeleton hs
  | some s =>
    rw [hs] at hslot
    obtain ⟨t, ht, heq⟩ := Option.map_eq_some_iff.1 hslot
    obtain ⟨hserial, hparent⟩ := Prod.mk.inj heq
    rw [bindingsAt_eq ht, bindingsAt_eq hs] at hbindings
    obtain ⟨serial, parent, bindings⟩ := s
    obtain rfl : t.serial = serial := hserial
    obtain rfl : t.parent = parent := hparent
    obtain rfl : t.bindings = bindings := hbindings
    exact ht

/-- Scopes that differ only in what is bound in slots that are recast. -/
theorem recast_bindingsAt (hskeleton : tt.skeleton = ss.skeleton)
    (hserial : tt.nextSerial = ss.nextSerial)
    (hbindings : ∀ slot, slot = 0 ∨ n ≤ slot → tt.bindingsAt slot = ss.bindingsAt slot) :
    ss.recast n tt.bindingsAt = tt := by
  refine ext_row (fun slot => getElem?_congr ?_ ?_) hserial.symm
  · rw [skeleton_recast, hskeleton]
  · cases hs : ss.row[slot]? with
    | none =>
      rw [bindingsAt, getElem?_recast, hs, bindingsAt, getElem?_eq_none_congr hskeleton hs]
      rfl
    | some s =>
      rw [bindingsAt_recast hs]
      split
      · rfl
      · rw [← bindingsAt_eq hs, hbindings slot (by omega)]

/-- What is bound stays bound if it is recast as it is. -/
theorem recast_self (n : Nat) (ss : Scopes) : ss.recast n ss.bindingsAt = ss :=
  recast_bindingsAt rfl rfl fun _ _ => rfl

end Scopes

end Retrace
