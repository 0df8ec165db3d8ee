import Retrace.Scope

/-!
# What is seen of scopes

Two things are to be known of scopes. One is how they stand: the *skeleton*
(`Scopes.skeleton`), the row of the serial numbers with the parents. Binding a
name leaves it as it is, and a new scope that is discarded again leaves no trace
in it. The skeleton alone decides which handles are stale.

The other is what the names are bound to in each live scope (`Scopes.look`).
Binding a name changes that in one scope for one name (`look_define`), and a new
scope changes nothing for the scopes there were (`look_push`).
-/

namespace Retrace

/-- What is done in two parts fails in one of them. -/
theorem Failure.of_bind {α β : Type} {x : Except Failure α} {f : α → Except Failure β}
    {e : Failure} (h : (x >>= f) = .error e) : x = .error e ∨ ∃ a, x = .ok a ∧ f a = .error e := by
  cases x with
  | error e' => exact .inl (congrArg Except.error (Except.error.inj h))
  | ok a => exact .inr ⟨a, rfl, h⟩

/-- What is done in two parts is done in both of them. -/
theorem Failure.exists_of_bind {α β : Type} {x : Except Failure α} {f : α → Except Failure β}
    {b : β} (h : (x >>= f) = .ok b) : ∃ a, x = .ok a ∧ f a = .ok b := by
  cases x with
  | error e => exact absurd h (by simp [bind, Except.bind])
  | ok a => exact ⟨a, rfl, h⟩

/-- What is done in two parts is done if both of them are. -/
theorem Failure.bind_eq_ok_iff {α β : Type} {x : Except Failure α} {f : α → Except Failure β}
    {b : β} : (x >>= f) = .ok b ↔ ∃ a, x = .ok a ∧ f a = .ok b := by
  refine ⟨exists_of_bind, ?_⟩
  rintro ⟨a, rfl, hf⟩
  exact hf

namespace Scopes

/-- The serial numbers and the parents of the live scopes. -/
def skeleton (ss : Scopes) : List (Nat × Option ScopeId) :=
  ss.row.toList.map fun s => (s.serial, s.parent)

/-- What the scope `id` binds `name` to, if it is live. -/
def look (ss : Scopes) (id : ScopeId) (name : String) : Option Value :=
  (ss.scope? id).bind fun s => s.bindings.get? name

/-- All values bound in live scopes satisfy `P`. -/
def Obey (P : Value → Prop) (ss : Scopes) : Prop :=
  ∀ id name v, ss.look id name = some v → P v

variable {ss ss' : Scopes} {id id' parent : ScopeId} {name name' : String} {v : Value}

theorem length_skeleton (ss : Scopes) : ss.skeleton.length = ss.row.size := by
  rw [skeleton, List.length_map, Array.length_toList]

/-! ### Handles -/

theorem scope?_eq_some_iff {s : Scope} :
    ss.scope? id = some s ↔ ss.row[id.slot]? = some s ∧ s.serial = id.serial := by
  rw [scope?, Option.filter_eq_some_iff, beq_iff_eq]

/-- The skeleton decides which handles are stale. -/
theorem contains_iff :
    ss.contains id ↔ ∃ p, ss.skeleton[id.slot]? = some (id.serial, p) := by
  rw [contains, Option.isSome_iff_exists, skeleton, List.getElem?_map, Array.getElem?_toList]
  constructor
  · rintro ⟨s, hs⟩
    obtain ⟨hs, hserial⟩ := scope?_eq_some_iff.1 hs
    exact ⟨s.parent, by rw [hs, ← hserial]; rfl⟩
  · rintro ⟨p, hp⟩
    obtain ⟨s, hs, hsp⟩ := Option.map_eq_some_iff.1 hp
    exact ⟨s, scope?_eq_some_iff.2 ⟨hs, congrArg Prod.fst hsp⟩⟩

theorem contains_congr (h : ss'.skeleton = ss.skeleton) (id : ScopeId) :
    ss'.contains id = ss.contains id := by
  rw [Bool.eq_iff_iff, contains_iff, contains_iff, h]

/-- A live scope stands in the row. -/
theorem slot_lt (h : ss.contains id) : id.slot < ss.row.size := by
  obtain ⟨p, hp⟩ := contains_iff.1 h
  rw [← length_skeleton]
  exact (List.getElem?_eq_some_iff.1 hp).1

/-- In each slot there is one scope at most. -/
theorem eq_of_slot_eq (h : ss.contains id) (h' : ss.contains id') (hslot : id.slot = id'.slot) :
    id = id' := by
  obtain ⟨p, hp⟩ := contains_iff.1 h
  obtain ⟨p', hp'⟩ := contains_iff.1 h'
  rw [hslot, hp'] at hp
  obtain ⟨slot, serial⟩ := id
  obtain rfl : slot = id'.slot := hslot
  obtain rfl : id'.serial = serial := congrArg Prod.fst (Option.some.inj hp)
  rfl

theorem contains_of_look (h : ss.look id name = some v) : ss.contains id := by
  obtain ⟨s, hs, -⟩ := Option.bind_eq_some_iff.1 h
  rw [contains, hs]
  rfl

theorem scope_eq_ok_iff {s : Scope} : ss.scope id = .ok s ↔ ss.scope? id = some s := by
  rw [scope]
  cases ss.scope? id <;> simp

theorem contains_of_scope {s : Scope} (h : ss.scope id = .ok s) : ss.contains id := by
  rw [contains, scope_eq_ok_iff.1 h]
  rfl

theorem exists_scope (h : ss.contains id) : ∃ s, ss.scope id = .ok s := by
  obtain ⟨s, hs⟩ := Option.isSome_iff_exists.1 h
  exact ⟨s, scope_eq_ok_iff.2 hs⟩

theorem look_of_scope {s : Scope} (h : ss.scope id = .ok s) :
    ss.look id name = s.bindings.get? name := by
  rw [look, scope_eq_ok_iff.1 h]
  rfl

theorem getLocal_eq (h : ss.contains id) (name : String) :
    ss.getLocal id name = .ok (ss.look id name) := by
  obtain ⟨s, hs⟩ := exists_scope h
  rw [getLocal, hs, look_of_scope hs]
  rfl

theorem getLocal_eq_ok {o : Option Value} (h : ss.getLocal id name = .ok o) :
    ss.contains id ∧ ss.look id name = o := by
  have hid : ss.contains id := by
    cases hs : ss.scope id with
    | error e => simp [getLocal, hs, bind, Except.bind] at h
    | ok s => exact contains_of_scope hs
  rw [getLocal_eq hid] at h
  exact ⟨hid, Except.ok.inj h⟩

/-! ### Binding a name -/

section Bind

variable (ss : Scopes) (slot : Nat) (name : String) (v : Value)

theorem scope?_modify (id : ScopeId) :
    ({ ss with row := ss.row.modify slot (·.bind name v) } : Scopes).scope? id =
      if id.slot = slot then (ss.scope? id).map (·.bind name v) else ss.scope? id := by
  rw [scope?, scope?, Array.getElem?_modify]
  by_cases h : id.slot = slot
  · rw [if_pos h.symm, if_pos h]
    cases hs : ss.row[id.slot]? with
    | none => rfl
    | some s =>
      by_cases hserial : s.serial = id.serial <;> simp [Option.filter, Scope.bind, hserial]
  · rw [if_neg (Ne.symm h), if_neg h]

theorem skeleton_modify :
    ({ ss with row := ss.row.modify slot (·.bind name v) } : Scopes).skeleton = ss.skeleton := by
  rw [skeleton, skeleton, Array.toList_modify]
  -- The scopes are compared slot by slot, and only the bindings of one have changed.
  apply List.ext_getElem?
  intro i
  rw [List.getElem?_map, List.getElem?_map, List.getElem?_modify]
  cases ss.row.toList[i]? with
  | none => rfl
  | some s => by_cases h : slot = i <;> simp [Scope.bind, h]

end Bind

theorem define_eq (h : ss.contains id) (name : String) (v : Value) :
    ss.define id name v = .ok { ss with row := ss.row.modify id.slot (·.bind name v) } := by
  obtain ⟨s, hs⟩ := exists_scope h
  rw [define, hs]
  rfl

theorem define_eq_ok (h : ss.define id name v = .ok ss') :
    ss.contains id ∧ ss' = { ss with row := ss.row.modify id.slot (·.bind name v) } := by
  have hid : ss.contains id := by
    cases hs : ss.scope id with
    | error e => simp [define, hs, bind, Except.bind] at h
    | ok s => exact contains_of_scope hs
  rw [define_eq hid] at h
  exact ⟨hid, (Except.ok.inj h).symm⟩

theorem skeleton_define (h : ss.define id name v = .ok ss') : ss'.skeleton = ss.skeleton := by
  obtain ⟨-, rfl⟩ := define_eq_ok h
  exact skeleton_modify ..

theorem nextSerial_define (h : ss.define id name v = .ok ss') :
    ss'.nextSerial = ss.nextSerial := by
  obtain ⟨-, rfl⟩ := define_eq_ok h
  rfl

/-- Binding a name changes what it means in one scope, and no other. -/
theorem look_define (h : ss.define id name v = .ok ss') (id' : ScopeId) (name' : String) :
    ss'.look id' name' = if id = id' ∧ name = name' then some v else ss.look id' name' := by
  obtain ⟨hid, rfl⟩ := define_eq_ok h
  rw [look, look, scope?_modify]
  by_cases hslot : id'.slot = id.slot
  · rw [if_pos hslot]
    cases hs : ss.scope? id' with
    | none =>
      -- A stale handle to the slot is no handle to the scope there.
      rw [if_neg fun hi => ?_]
      · rfl
      · rw [contains, hi.1, hs] at hid
        exact absurd hid Bool.false_ne_true
    | some s =>
      have hid' : ss.contains id' := by
        rw [contains, hs]
        rfl
      have hi := eq_of_slot_eq hid hid' hslot.symm
      simp [Scope.bind, Bindings.get?_bind, hi]
  · rw [if_neg hslot, if_neg fun hi => hslot (by rw [hi.1])]

/-- Names stay bound. -/
theorem isSome_look_define (h : ss.define id name v = .ok ss') (id' : ScopeId) (name' : String)
    (hbound : (ss.look id' name').isSome) : (ss'.look id' name').isSome := by
  rw [look_define h]
  split
  · rfl
  · exact hbound

/-- If the name was bound already, then the same names are bound as before. -/
theorem isSome_look_rebind (h : ss.define id name v = .ok ss') (hbound : (ss.look id name).isSome)
    (id' : ScopeId) (name' : String) : (ss'.look id' name').isSome = (ss.look id' name').isSome := by
  rw [look_define h]
  split
  · rename_i hsame
    rw [← hsame.1, ← hsame.2, hbound]
    rfl
  · rfl

theorem Obey.define {P : Value → Prop} (h : ss.Obey P) (hv : P v)
    (hd : ss.define id name v = .ok ss') : ss'.Obey P := by
  intro id' name' w hw
  rw [look_define hd] at hw
  split at hw
  · exact Option.some.inj hw ▸ hv
  · exact h id' name' w hw

theorem Obey.defineGlobal {P : Value → Prop} (h : ss.Obey P) (hv : P v) :
    (ss.defineGlobal name v).Obey P := by
  intro id name' w hw
  rw [look, Scopes.defineGlobal, scope?_modify] at hw
  split at hw
  · cases hs : ss.scope? id with
    | none => simp [hs] at hw
    | some s =>
      have hlook : ss.look id name' = s.bindings.get? name' := by rw [look, hs]; rfl
      simp only [hs, Option.map_some, Option.bind_some, Scope.bind, Bindings.get?_bind] at hw
      split at hw
      · exact Option.some.inj hw ▸ hv
      · exact h id name' w (hlook.trans hw)
  · exact h id name' w hw

/-! ### Coming and going -/

theorem skeleton_push (ss : Scopes) (parent : ScopeId) :
    (ss.push parent).2.skeleton = ss.skeleton ++ [(ss.nextSerial, some parent)] := by
  rw [skeleton, push, Array.toList_push, List.map_append]
  rfl

theorem contains_push (h : ss.contains id) (parent : ScopeId) :
    (ss.push parent).2.contains id := by
  obtain ⟨p, hp⟩ := contains_iff.1 h
  refine contains_iff.2 ⟨p, ?_⟩
  rw [skeleton_push, List.getElem?_append_left (List.getElem?_eq_some_iff.1 hp).1]
  exact hp

/-- The new scope is not one of those there were. -/
theorem ne_push (h : ss.contains id) (parent : ScopeId) : id ≠ (ss.push parent).1 := by
  rintro rfl
  exact Nat.lt_irrefl _ (slot_lt h)

/-- Of the handles only the one to the new scope is no longer stale. -/
theorem contains_of_push (h : (ss.push parent).2.contains id) :
    ss.contains id ∨ id = (ss.push parent).1 := by
  obtain ⟨p, hp⟩ := contains_iff.1 h
  rw [skeleton_push] at hp
  -- The slots there were are as before, and there is only one more.
  by_cases hslot : id.slot < ss.skeleton.length
  · rw [List.getElem?_append_left hslot] at hp
    exact .inl (contains_iff.2 ⟨p, hp⟩)
  · rw [List.getElem?_append_right (Nat.not_lt.1 hslot), List.getElem?_singleton] at hp
    split at hp
    · rename_i h0
      have hslot : id.slot = ss.row.size := by
        rw [← length_skeleton]
        omega
      have hserial : ss.nextSerial = id.serial := congrArg Prod.fst (Option.some.inj hp)
      exact .inr (by cases id; simp_all [push])
    · exact absurd hp (by simp)

/-- A new scope binds nothing, and changes nothing for the others. -/
theorem look_push (ss : Scopes) (parent id : ScopeId) (name : String) :
    (ss.push parent).2.look id name = ss.look id name := by
  rw [look, look, scope?, scope?, push, Array.getElem?_push]
  -- Whatever the handle to the new slot, nothing was found there and nothing is bound there.
  by_cases h : id.slot = ss.row.size
  · rw [if_pos h, h, Array.getElem?_size]
    by_cases hserial : ss.nextSerial = id.serial <;> simp [Option.filter, hserial]
  · rw [if_neg h]

theorem scope?_take (ss : Scopes) (n : Nat) (id : ScopeId) :
    ({ ss with row := ss.row.take n } : Scopes).scope? id =
      if id.slot < n then ss.scope? id else none := by
  rw [scope?, scope?, Array.take_eq_extract, Array.getElem?_extract]
  by_cases h : id.slot < n
  · rw [if_pos h]
    by_cases h' : id.slot < ss.row.size
    · rw [if_pos (by omega), Nat.zero_add]
    · rw [if_neg (by omega), Array.getElem?_eq_none (Nat.not_lt.1 h')]
  · rw [if_neg h, if_neg (by omega)]
    rfl

theorem skeleton_take (ss : Scopes) (n : Nat) :
    ({ ss with row := ss.row.take n } : Scopes).skeleton = ss.skeleton.take n := by
  rw [skeleton, skeleton, Array.take_eq_extract, Array.toList_extract,
    List.extract_eq_take_drop, List.drop_zero, List.map_take, Nat.sub_zero]

theorem look_discard (ss : Scopes) (id id' : ScopeId) (name : String) :
    (ss.discard id).look id' name = if id'.slot < id.slot then ss.look id' name else none := by
  rw [look, discard, scope?_take]
  split <;> rfl

theorem look_discardLocals (ss : Scopes) (id : ScopeId) (name : String) :
    ss.discardLocals.look id name = if id.slot < 1 then ss.look id name else none := by
  rw [look, discardLocals, scope?_take]
  split <;> rfl

theorem Obey.push {P : Value → Prop} (h : ss.Obey P) (parent : ScopeId) :
    (ss.push parent).2.Obey P := by
  intro id name v hv
  rw [look_push] at hv
  exact h id name v hv

theorem Obey.discard {P : Value → Prop} (h : ss.Obey P) (id : ScopeId) :
    (ss.discard id).Obey P := by
  intro id' name v hv
  rw [look_discard] at hv
  split at hv
  · exact h id' name v hv
  · exact absurd hv (by simp)

theorem Obey.discardLocals {P : Value → Prop} (h : ss.Obey P) : ss.discardLocals.Obey P := by
  intro id name v hv
  rw [look_discardLocals] at hv
  split at hv
  · exact h id name v hv
  · exact absurd hv (by simp)

/-- A scope that is discarded as the last one is as if it had never been there. -/
theorem skeleton_discard_push (h : ss'.skeleton = (ss.push parent).2.skeleton) :
    (ss'.discard (ss.push parent).1).skeleton = ss.skeleton := by
  rw [discard, skeleton_take, h, skeleton_push]
  exact List.take_left' (length_skeleton ss)

/-! ### Owners -/

theorem ownerAmong_eq_some {links : Nat} {owner : ScopeId}
    (h : ss.ownerAmong name links id = .ok (some owner)) :
    ∃ s, ss.scope owner = .ok s ∧ s.bindings.binds name := by
  -- The search goes from a scope to its parent, one link at a time.
  induction links generalizing id with
  | zero => simp [ownerAmong] at h
  | succ links ih =>
    rw [ownerAmong] at h
    cases hs : ss.scope id with
    | error e => simp [hs, bind, Except.bind] at h
    | ok s =>
      simp only [hs, bind, Except.bind] at h
      split at h
      · rename_i hb
        obtain rfl := Option.some.inj (Except.ok.inj h)
        exact ⟨s, hs, hb⟩
      · split at h
        · exact ih h
        · exact absurd (Except.ok.inj h) (by simp)

/-- What a name means is bound to it in the owner. -/
theorem exists_look_of_owner {owner : ScopeId} (h : ss.owner id name = .ok owner) :
    ∃ v, ss.look owner name = some v := by
  cases ho : ss.owner? id name with
  | error e => simp [Scopes.owner, ho, bind, Except.bind] at h
  | ok o =>
    cases o with
    | none => simp [Scopes.owner, ho, bind, Except.bind] at h
    | some o =>
      simp only [Scopes.owner, ho, bind, Except.bind, Except.ok.injEq] at h
      subst h
      obtain ⟨s, hs, hb⟩ := ownerAmong_eq_some ho
      rw [look_of_scope hs]
      exact Option.isSome_iff_exists.1 (Bindings.binds_eq_isSome_get? .. ▸ hb)

/-- The innermost scope that binds a name, seen from one that does, is this one. -/
theorem owner_of_look (h : ss.look id name = some v) : ss.owner id name = .ok id := by
  obtain ⟨s, hs⟩ := exists_scope (contains_of_look h)
  rw [look_of_scope hs] at h
  have hb : s.bindings.binds name := by
    rw [Bindings.binds_eq_isSome_get?, h]
    rfl
  simp [Scopes.owner, owner?, ownerAmong, hs, hb, bind, Except.bind]

theorem get_eq_ok (h : ss.get id name = .ok v) :
    ∃ owner, ss.owner id name = .ok owner ∧ ss.look owner name = some v := by
  cases ho : ss.owner id name with
  | error e => simp [Scopes.get, ho, bind, Except.bind] at h
  | ok owner =>
    obtain ⟨w, hw⟩ := exists_look_of_owner ho
    rw [Scopes.get, ho] at h
    simp only [bind, Except.bind, getLocal_eq (contains_of_look hw), hw, Except.ok.injEq] at h
    exact ⟨owner, rfl, h ▸ hw⟩

/-- What a name means in a scope that binds it. -/
theorem look_of_get {owner : ScopeId} (ho : ss.owner id name = .ok owner)
    (h : ss.get owner name = .ok v) : ss.look owner name = some v := by
  obtain ⟨w, hw⟩ := exists_look_of_owner ho
  obtain ⟨owner', ho', hv⟩ := get_eq_ok h
  rw [owner_of_look hw] at ho'
  obtain rfl := Except.ok.inj ho'
  exact hv

theorem Obey.get {P : Value → Prop} (h : ss.Obey P) (hv : ss.get id name = .ok v) : P v := by
  obtain ⟨owner, -, hv⟩ := get_eq_ok hv
  exact h owner name v hv

end Scopes

end Retrace
