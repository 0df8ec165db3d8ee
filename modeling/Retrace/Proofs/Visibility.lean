import Retrace.Proofs.Storing

/-!
# What a binding changes

What a name means in a scope is what the first scope on its lineage that binds it
binds it to: the scope itself, its parent, the parent of this one and so on up to
one that has no parent (`Scopes.Lineage.get`). Every live scope has a lineage if
the parent of each live scope is live and older (`Scopes.Grounded`). Scopes that
have come about by pushing and discarding always have the older parents, so for
them this says no more than that every live scope has a lineage
(`Scopes.History.grounded_iff`).

A name that is bound in a scope is *exposed* to the scopes whose lineage comes by
there without having come by another one that binds the name
(`Scopes.Exposed`). Binding it changes what the name means in these scopes, and
nothing else (`Scopes.Grounded.writes`): in the others it is shadowed, or their
lineage does not come by at all, as that of the body of a function does not come
by the scopes of the caller.
-/

namespace Retrace

namespace Scopes

/-- The parent of every live scope is live and older than the scope. -/
structure Grounded (ss : Scopes) : Prop where
  older : ss.Older
  live : ∀ (slot serial : Nat) (parent : ScopeId), ss.skeleton[slot]? = some (serial, some parent) →
    ss.contains parent

/-- The lineage of `id` comes by `owner`, and no scope on the way there binds `name`. -/
def Exposed (ss : Scopes) (name : String) (id owner : ScopeId) : Prop :=
  ∃ way rest, ss.Lineage id (way ++ owner :: rest) ∧ ∀ i ∈ way, ss.look i name = none

/-- The innermost scope that binds `name`, seen from the scope `id`, is `owner`. -/
def Innermost (ss : Scopes) (name : String) (id owner : ScopeId) : Prop :=
  ss.Exposed name id owner ∧ (ss.look owner name).isSome

/-- From `ss` to `ss'` it has changed that `name` means `v` in the live scopes that are `seen`, and
    nothing else. -/
structure Alters (name : String) (v : Value) (seen : ScopeId → Prop) (ss ss' : Scopes) : Prop where
  live : ∀ id, ss'.contains id ↔ ss.contains id
  here : ∀ id, ss.contains id → seen id → ss'.get id name = .ok v
  others : ∀ id name', ss.contains id → ¬(name' = name ∧ seen id) →
    ss'.get id name' = ss.get id name'

variable {ss ss' : Scopes} {id owner owner' start : ScopeId} {ids ids' : List ScopeId}
  {name name' : String} {v : Value}

/-! ### Lineages -/

namespace Lineage

/-- A scope has one lineage. -/
theorem unique (h : ss.Lineage id ids) (h' : ss.Lineage id ids') : ids = ids' := by
  induction h generalizing ids' with
  | root hid =>
    cases h' with
    | root => rfl
    | child hid' => exact absurd (hid.symm.trans hid') (by simp)
  | child hid _ ih =>
    cases h' with
    | root hid' => exact absurd (hid.symm.trans hid') (by simp)
    | child hid' h' =>
      have hparent := (Prod.mk.inj (Option.some.inj (hid.symm.trans hid'))).2
      obtain rfl := Option.some.inj hparent
      rw [ih h']

theorem congr (h : ss.Lineage id ids) (hskeleton : ss'.skeleton = ss.skeleton) :
    ss'.Lineage id ids := by
  induction h with
  | root hid => exact .root (hskeleton ▸ hid)
  | child hid _ ih => exact .child (hskeleton ▸ hid) ih

/-- The innermost scope that binds a name is the first one on the lineage that binds it. -/
theorem owner_eq (h : ss.Lineage id ids) (hold : ss.Older) (name : String) :
    ss.owner id name = (ids.find? fun i => (ss.look i name).isSome).elim
      (.error (.undefinedName name)) .ok := by
  rw [owner, hold.search_iff.1 (h.search name)]
  cases ids.find? fun i => (ss.look i name).isSome <;> rfl

/-- What a name means is what the first scope on the lineage that binds it binds it to. -/
theorem get (h : ss.Lineage id ids) (hold : ss.Older) (name : String) :
    ss.get id name = (ids.findSome? fun i => ss.look i name).elim
      (.error (.undefinedName name)) .ok := by
  have howner := h.owner_eq hold name
  cases hfind : ids.find? fun i => (ss.look i name).isSome with
  | none =>
    have hnone : ids.findSome? (fun i => ss.look i name) = none := by
      rw [List.findSome?_eq_none_iff]
      intro i hi
      simpa using List.find?_eq_none.1 hfind i hi
    rw [hfind] at howner
    rw [hnone, Scopes.get, howner]
    rfl
  | some o =>
    obtain ⟨hbound, way, rest, rfl, hway⟩ := List.find?_eq_some_iff_append.1 hfind
    obtain ⟨v, hv⟩ := Option.isSome_iff_exists.1 hbound
    have hskip : way.findSome? (fun i => ss.look i name) = none := by
      rw [List.findSome?_eq_none_iff]
      intro i hi
      simpa using hway i hi
    rw [hfind] at howner
    rw [List.findSome?_append, hskip, Option.none_or, List.findSome?_cons, hv]
    exact get_of_look howner hv

/-- A search from a scope ends in the innermost one that binds the name. -/
theorem owner_eq_ok_iff (h : ss.Lineage id ids) (hold : ss.Older) :
    ss.owner id name = .ok owner ↔ ss.Innermost name id owner := by
  rw [h.owner_eq hold]
  constructor
  · intro howner
    cases hfind : ids.find? fun i => (ss.look i name).isSome with
    | none => simp [hfind] at howner
    | some o =>
      rw [hfind] at howner
      obtain rfl : o = owner := Except.ok.inj howner
      obtain ⟨hbound, way, rest, rfl, hway⟩ := List.find?_eq_some_iff_append.1 hfind
      exact ⟨⟨way, rest, h, fun i hi => by simpa using hway i hi⟩, hbound⟩
  · rintro ⟨⟨way, rest, hids, hway⟩, hbound⟩
    obtain rfl := h.unique hids
    have hfind : (way ++ owner :: rest).find? (fun i => (ss.look i name).isSome) = some owner :=
      List.find?_eq_some_iff_append.2 ⟨hbound, way, rest, rfl, fun i hi => by simp [hway i hi]⟩
    rw [hfind]
    rfl

end Lineage

namespace Grounded

theorem congr (h : ss.Grounded) (hskeleton : ss'.skeleton = ss.skeleton) : ss'.Grounded where
  older := h.older.congr hskeleton
  live slot serial parent hslot := by
    rw [contains_congr hskeleton]
    exact h.live slot serial parent (hskeleton ▸ hslot)

/-- Going from parent to parent comes to an end. -/
theorem exists_lineage (h : ss.Grounded) (hid : ss.contains id) : ∃ ids, ss.Lineage id ids := by
  -- The serial numbers fall on the way.
  induction hserial : id.serial using Nat.strongRecOn generalizing id with
  | ind serial ih =>
    obtain ⟨parent, hskeleton⟩ := contains_iff.1 hid
    cases parent with
    | none => exact ⟨_, .root hskeleton⟩
    | some parent =>
      have holder := h.older _ _ parent hskeleton
      obtain ⟨ids, hids⟩ := ih parent.serial (hserial ▸ holder) (h.live _ _ parent hskeleton) rfl
      exact ⟨_, .child hskeleton hids⟩

theorem of_lineages (hold : ss.Older)
    (hlineages : ∀ id, ss.contains id → ∃ ids, ss.Lineage id ids) : ss.Grounded where
  older := hold
  live slot serial parent hslot := by
    obtain ⟨ids, hids⟩ := hlineages ⟨slot, serial⟩ (contains_iff.2 ⟨_, hslot⟩)
    cases hids with
    | root hid => exact absurd (hid.symm.trans hslot) (by simp)
    | child hid hids =>
      have hparent := (Prod.mk.inj (Option.some.inj (hid.symm.trans hslot))).2
      exact Option.some.inj hparent ▸ hids.contains

end Grounded

/-- For scopes that can have come about it is enough that every live one has a lineage. -/
theorem History.grounded_iff {events : List Event} (h : History events ss) :
    ss.Grounded ↔ ∀ id, ss.contains id → ∃ ids, ss.Lineage id ids :=
  ⟨fun hss _ hid => hss.exists_lineage hid, .of_lineages h.held.older⟩

/-! ### Binding a name -/

/-- What is exposed to the parent is exposed to a scope that does not bind the name. -/
theorem Exposed.child {parent : ScopeId} (h : ss.Exposed name parent owner)
    (hid : ss.skeleton[id.slot]? = some (id.serial, some parent)) (hlook : ss.look id name = none) :
    ss.Exposed name id owner := by
  obtain ⟨way, rest, hids, hway⟩ := h
  exact ⟨id :: way, rest, .child hid hids, List.forall_mem_cons.2 ⟨hlook, hway⟩⟩

namespace Lineage

/-- What a name is bound to is found where it is exposed. -/
theorem findSome?_of_exposed (h : ss.Lineage id ids) (hd : ss.define owner name v = .ok ss')
    (hexposed : ss.Exposed name id owner) :
    ids.findSome? (fun i => ss'.look i name) = some v := by
  obtain ⟨way, rest, hids, hway⟩ := hexposed
  obtain rfl := h.unique hids
  clear h hids
  induction way with
  | nil => rw [List.nil_append, List.findSome?_cons, look_define hd, if_pos ⟨rfl, rfl⟩]
  | cons i way ih =>
    obtain ⟨hi, hway⟩ := List.forall_mem_cons.1 hway
    rw [List.cons_append, List.findSome?_cons, look_define hd, hi, ih hway]
    split <;> simp_all

/-- Where it is not exposed a search does not come by. -/
theorem findSome?_of_not_exposed (h : ss.Lineage id ids) (hd : ss.define owner name v = .ok ss')
    (hexposed : ¬ss.Exposed name id owner) :
    ids.findSome? (fun i => ss'.look i name) = ids.findSome? fun i => ss.look i name := by
  induction h with
  | @root id hid =>
    have hne : owner ≠ id := by
      rintro rfl
      exact hexposed ⟨[], [], .root hid, List.forall_mem_nil _⟩
    simp [look_define hd, hne]
  | @child id parent ids hid hids ih =>
    have hne : owner ≠ id := by
      rintro rfl
      exact hexposed ⟨[], ids, .child hid hids, List.forall_mem_nil _⟩
    rw [List.findSome?_cons, List.findSome?_cons, look_define hd, if_neg fun hi => hne hi.1]
    cases hlook : ss.look id name with
    | some w => rfl
    | none => exact ih fun hparent => hexposed (hparent.child hid hlook)

end Lineage

namespace Grounded

/-- Binding a name changes what it means where it is exposed, and nothing else. -/
theorem alters_define (h : ss.Grounded) (hd : ss.define owner name v = .ok ss') :
    Alters name v (ss.Exposed name · owner) ss ss' := by
  have hskeleton := skeleton_define hd
  have hget {id : ScopeId} {ids : List ScopeId} (hids : ss.Lineage id ids) (name' : String) :=
    (hids.congr hskeleton).get (h.older.congr hskeleton) name'
  refine ⟨fun id => by rw [contains_congr hskeleton], fun id hid hseen => ?_,
    fun id name' hid hne => ?_⟩
  · obtain ⟨ids, hids⟩ := h.exists_lineage hid
    rw [hget hids, hids.findSome?_of_exposed hd hseen]
    rfl
  · obtain ⟨ids, hids⟩ := h.exists_lineage hid
    rw [hget hids, hids.get h.older]
    by_cases hname : name' = name
    · subst hname
      rw [hids.findSome?_of_not_exposed hd fun hseen => hne ⟨rfl, hseen⟩]
    · have hother (i : ScopeId) : ss'.look i name' = ss.look i name' := by
        rw [look_define hd, if_neg fun hi => hname hi.2.symm]
      simp only [hother]

/-- Setting a name changes what it means where the same scope is the innermost one that binds it,
    and nothing else. -/
theorem alters_set (h : ss.Grounded) (hstart : ss.contains start)
    (hset : ss.set start name v = .ok ss') :
    ∃ owner, (∀ o, ss.Innermost name start o ↔ o = owner) ∧
      Alters name v (ss.Innermost name · owner) ss ss' := by
  obtain ⟨owner, howner, hd⟩ := Failure.exists_of_bind hset
  obtain ⟨ids, hids⟩ := h.exists_lineage hstart
  have hinner := (hids.owner_eq_ok_iff h.older).1 howner
  have halters := h.alters_define hd
  refine ⟨owner, fun o => ⟨fun ho => ?_, fun ho => ho ▸ hinner⟩, halters.live,
    fun id hid hseen => halters.here id hid hseen.1, fun id name' hid hne => ?_⟩
  · have ho := (hids.owner_eq_ok_iff h.older).2 ho
    exact Except.ok.inj (ho.symm.trans howner)
  · exact halters.others id name' hid fun hseen => hne ⟨hseen.1, hseen.2, hinner.2⟩

/-- What a name means in a live scope is a value, or it is not bound. -/
theorem get_eq (h : ss.Grounded) (hid : ss.contains id) (name : String) :
    (∃ v, ss.get id name = .ok v) ∨ ss.get id name = .error (.undefinedName name) := by
  obtain ⟨ids, hids⟩ := h.exists_lineage hid
  rw [hids.get h.older]
  cases ids.findSome? fun i => ss.look i name with
  | none => exact .inr rfl
  | some v => exact .inl ⟨v, rfl⟩

end Grounded

/-- To set a name succeeds if a scope on the lineage binds it, and otherwise fails. -/
theorem Lineage.set_eq (h : ss.Lineage id ids) (hold : ss.Older) (name : String) (v : Value) :
    (∃ i ∈ ids, (ss.look i name).isSome) ∧ (∃ ss', ss.set id name v = .ok ss') ∨
      (∀ i ∈ ids, ss.look i name = none) ∧ ss.set id name v = .error (.undefinedName name) := by
  have howner := h.owner_eq hold name
  cases hfind : ids.find? fun i => (ss.look i name).isSome with
  | none =>
    rw [hfind] at howner
    refine .inr ⟨fun i hi => by simpa using List.find?_eq_none.1 hfind i hi, ?_⟩
    simp only [set, howner, bind, Except.bind, Option.elim_none]
  | some o =>
    rw [hfind] at howner
    obtain ⟨w, hw⟩ := exists_look_of_owner howner
    have ho : (ss.look o name).isSome :=
      List.find?_some (p := fun i => (ss.look i name).isSome) hfind
    refine .inl ⟨⟨o, List.mem_of_find?_eq_some hfind, ho⟩, ?_⟩
    simp only [set, howner, bind, Except.bind, Option.elim_some]
    exact ⟨_, define_eq (contains_of_look hw) name v⟩

/-- Each live scope has one lineage, and there a name means a value or is not bound. To set a name
    fails exactly if no scope on the lineage binds it, and then nothing is changed; and if one binds
    it, it succeeds. Then the name means the new value in the live scopes that see the same
    innermost scope that binds it, and nothing else changes. To define a name in a live scope
    succeeds. Then the name means the new value in the live scopes whose lineage comes by there
    before any other scope that binds the name, and again nothing else changes. -/
theorem Grounded.writes (h : ss.Grounded) (hstart : ss.contains start) (name : String) (v : Value) :
    (∃ ids, (∀ ids', ss.Lineage start ids' ↔ ids' = ids) ∧
      (ss.perform (.set start name v) = (.refused (.undefinedName name), ss) ↔
        ∀ i ∈ ids, ss.look i name = none) ∧
      ((∃ ss', ss.set start name v = .ok ss') ↔ ∃ i ∈ ids, (ss.look i name).isSome)) ∧
    (∀ ss', ss.set start name v = .ok ss' →
      ∃ owner, (∀ o, ss.Innermost name start o ↔ o = owner) ∧
        Alters name v (ss.Innermost name · owner) ss ss') ∧
    (∃ ss', ss.define start name v = .ok ss' ∧ Alters name v (ss.Exposed name · start) ss ss') ∧
    ∀ id name', ss.contains id →
      (∃ w, ss.get id name' = .ok w) ∨ ss.get id name' = .error (.undefinedName name') := by
  obtain ⟨ids, hids⟩ := h.exists_lineage hstart
  have hd := define_eq hstart name v
  refine ⟨⟨ids, fun ids' => ⟨fun hids' => hids'.unique hids, fun he => he ▸ hids⟩, ?_⟩,
    fun ss' hset => h.alters_set hstart hset, ⟨_, hd, h.alters_define hd⟩,
    fun id name' hid => h.get_eq hid name'⟩
  rcases hids.set_eq h.older name v with ⟨⟨i, hi, hbound⟩, ss', hset⟩ | ⟨hnone, hset⟩
  · simp only [perform, hset]
    refine ⟨⟨fun he => absurd (congrArg Prod.fst he) (by simp), fun hnone => ?_⟩,
      fun _ => ⟨i, hi, hbound⟩, fun _ => ⟨ss', rfl⟩⟩
    exact absurd (hnone i hi) (Option.isSome_iff_ne_none.1 hbound)
  · simp only [perform, hset]
    refine ⟨⟨fun _ => hnone, fun _ => trivial⟩, ?_, ?_⟩
    · rintro ⟨_, he⟩
      exact absurd he (by simp)
    · rintro ⟨i, hi, hbound⟩
      exact absurd (hnone i hi) (Option.isSome_iff_ne_none.1 hbound)

/-- A name is bound globally and again in a block, in which a function is being called from a
    block that is further in. -/
def shadowed : Scopes where
  row := #[⟨0, none, [("x", .void)]⟩, ⟨1, some global, [("x", .void)]⟩, ⟨2, some ⟨1, 1⟩, []⟩,
    ⟨3, some global, []⟩]
  nextSerial := 4

theorem grounded_shadowed : shadowed.Grounded := by
  constructor
  all_goals
    intro slot serial parent hslot
    match slot, hslot with
    | 1, rfl | 2, rfl | 3, rfl => decide

/-- What is set or defined in the blocks is seen further in, but not by the function, and a name
    that is bound nowhere is not set. -/
theorem writes_shadowed :
    shadowed.Grounded ∧ shadowed.contains ⟨2, 2⟩ ∧
      (∃ ss, shadowed.set ⟨2, 2⟩ "x" (.bool true) = .ok ss ∧
        ss.get ⟨1, 1⟩ "x" = .ok (.bool true) ∧ ss.get ⟨3, 3⟩ "x" = .ok .void) ∧
      (∃ ss, shadowed.define ⟨1, 1⟩ "x" .void = .ok ss ∧ ss.get ⟨2, 2⟩ "x" = .ok .void) ∧
      shadowed.perform (.set ⟨2, 2⟩ "y" .void) = (.refused (.undefinedName "y"), shadowed) := by
  have hinner : shadowed.Lineage ⟨1, 1⟩ [⟨1, 1⟩, global] := .child rfl (.root rfl)
  have hblock : shadowed.Lineage ⟨2, 2⟩ [⟨2, 2⟩, ⟨1, 1⟩, global] := .child rfl hinner
  have hcall : shadowed.Lineage ⟨3, 3⟩ [⟨3, 3⟩, global] := .child rfl (.root rfl)
  have houter : shadowed.contains ⟨1, 1⟩ := rfl
  have hlive : shadowed.contains ⟨2, 2⟩ := rfl
  refine ⟨grounded_shadowed, hlive, ?_, ?_, ?_⟩
  · obtain ⟨⟨ids, hids, -, hset⟩, hsets, -⟩ :=
      grounded_shadowed.writes hlive "x" (.bool true)
    obtain rfl := (hids _).1 hblock
    obtain ⟨ss, hss⟩ := hset.2 ⟨⟨1, 1⟩, by decide, rfl⟩
    obtain ⟨owner, howner, halters⟩ := hsets ss hss
    obtain rfl := (howner ⟨1, 1⟩).1 ⟨⟨[⟨2, 2⟩], [global], hblock, by simp; rfl⟩, rfl⟩
    refine ⟨ss, hss, halters.here ⟨1, 1⟩ rfl ⟨⟨[], [global], hinner, by simp⟩, rfl⟩, ?_⟩
    refine (halters.others ⟨3, 3⟩ "x" rfl ?_).trans rfl
    rintro ⟨-, ⟨way, rest, hway, -⟩, -⟩
    have hmem : (⟨1, 1⟩ : ScopeId) ∈ [⟨3, 3⟩, global] := by
      rw [hcall.unique hway]
      exact List.mem_append_right _ List.mem_cons_self
    exact absurd hmem (by decide)
  · obtain ⟨-, -, ⟨ss, hss, halters⟩, -⟩ :=
      grounded_shadowed.writes houter "x" .void
    exact ⟨ss, hss, halters.here ⟨2, 2⟩ rfl ⟨[⟨2, 2⟩], [global], hblock, by simp; rfl⟩⟩
  · obtain ⟨⟨ids, hids, hrefused, -⟩, -⟩ :=
      grounded_shadowed.writes hlive "y" .void
    obtain rfl := (hids _).1 hblock
    exact hrefused.2 (by decide)

end Scopes

end Retrace
