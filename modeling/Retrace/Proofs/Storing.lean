import Retrace.Proofs.Handles
import Retrace.Proofs.Reinstating

/-!
# Storing

To store at a target is to bind one name anew, in the innermost scope that binds
it, and to record what takes that back. Both may be refused: there may be no such
name or no such entry, and the ledger may be full. All of this is found out before
anything is changed, so a machine in which storing fails is left as it was
(`Reached.store_atomic`).

If storing succeeds, then what is stored can be read back at the same target, no
other name means anything else in any scope, and the ledger has one more
breadcrumb if a skip is open and no reversal is under way, and else none
(`Run.Stored`).
-/

namespace Retrace

namespace Scopes

variable {ss ss' : Scopes} {id owner : ScopeId} {name : String} {v : Value}

/-! ### Searching for what has been bound -/

/-- What is found in a bounded search is found in one without a bound. -/
theorem search_of_ownerAmong {links : Nat}
    (h : ss.ownerAmong name links id = .ok (some owner)) :
    ss.Search name id (.ok (some owner)) := by
  induction links generalizing id with
  | zero => simp [ownerAmong] at h
  | succ links ih =>
    rw [ownerAmong_succ] at h
    cases hvisit : ss.visit name id with
    | inl answer =>
      rw [hvisit] at h
      obtain rfl : answer = .ok (some owner) := h
      exact .done hvisit
    | inr parent =>
      rw [hvisit] at h
      exact .up hvisit (ih h)

theorem search_of_owner (h : ss.owner id name = .ok owner) :
    ss.Search name id (.ok (some owner)) := by
  obtain ⟨found, hfound, h⟩ := Failure.exists_of_bind h
  cases found with
  | none => simp at h
  | some owner' =>
    obtain rfl := Except.ok.inj h
    exact search_of_ownerAmong hfound

/-- Where a search leads depends on the skeleton and on which names are bound, not on what they
    are bound to. -/
theorem visit_congr (hskeleton : ss'.skeleton = ss.skeleton)
    (hbound : (ss'.look id name).isSome = (ss.look id name).isSome) :
    ss'.visit name id = ss.visit name id := by
  by_cases hid : ss.contains id
  · obtain ⟨s, hs⟩ := exists_scope hid
    obtain ⟨s', hs'⟩ := exists_scope (contains_congr hskeleton id ▸ hid)
    have hparent : s'.parent = s.parent := by
      have h := skeleton_of_scope hs'
      rw [hskeleton, skeleton_of_scope hs] at h
      exact (Prod.mk.inj (Option.some.inj h)).2.symm
    rw [visit_of_scope hs, visit_of_scope hs', hbound, hparent]
  · have hid' : ¬ss'.contains id := by rwa [contains_congr hskeleton]
    simp only [visit, scope_stale hid, scope_stale hid']

theorem ownerAmong_congr (hskeleton : ss'.skeleton = ss.skeleton)
    (hbound : ∀ id, (ss'.look id name).isSome = (ss.look id name).isSome) (links : Nat)
    (id : ScopeId) : ss'.ownerAmong name links id = ss.ownerAmong name links id := by
  induction links generalizing id with
  | zero => rfl
  | succ links ih =>
    rw [ownerAmong_succ, ownerAmong_succ, visit_congr hskeleton (hbound id)]
    congr 1
    funext parent
    exact ih parent

theorem owner_congr (hskeleton : ss'.skeleton = ss.skeleton)
    (hbound : ∀ id, (ss'.look id name).isSome = (ss.look id name).isSome) :
    ss'.owner id name = ss.owner id name := by
  rw [owner, owner, owner?, owner?, ownerAmong_congr hskeleton hbound]

/-- What a name means is what its owner binds it to. -/
theorem get_of_look (howner : ss.owner id name = .ok owner) (hlook : ss.look owner name = some v) :
    ss.get id name = .ok v := by
  simp only [get, howner, getLocal_eq (contains_of_look hlook), hlook, bind, Except.bind]

/-- A name that is bound anew in its owner means what it is bound to there. -/
theorem get_define (howner : ss.owner id name = .ok owner)
    (hd : ss.define owner name v = .ok ss') : ss'.get id name = .ok v := by
  obtain ⟨w, hw⟩ := exists_look_of_owner howner
  have hbound (id : ScopeId) : (ss'.look id name).isSome = (ss.look id name).isSome :=
    isSome_look_rebind hd (Option.isSome_of_eq_some hw) id name
  have howner' : ss'.owner id name = .ok owner := by
    rw [owner_congr (skeleton_define hd) hbound, howner]
  refine get_of_look howner' ?_
  rw [look_define hd, if_pos ⟨rfl, rfl⟩]

end Scopes

/-! ### What may be refused -/

/-- A rebinding fails if the name is bound nowhere, or if something in its value that is to be
    stored into is no map. -/
theorem Target.refused_of_rebinding {t : Target} {ss : Scopes} {id : ScopeId} {v : Value}
    {e : Failure} (hrooted : ss.Rooted) (hid : ss.contains id)
    (he : t.rebinding ss id v = .error e) :
    e = .undefinedName t.name ∨ ∃ w : Value, w.kind ≠ .map ∧ e = .unexpected .map w := by
  rw [rebinding] at he
  rcases Failure.of_bind he with he | ⟨owner, howner, he⟩
  · exact .inl (hrooted.owner_eq_error hid he)
  obtain ⟨bound, hbound⟩ := Scopes.exists_look_of_owner howner
  rcases Failure.of_bind he with he | ⟨bound', -, he⟩
  · exact .inl (hrooted.get_eq_error (Scopes.contains_of_look hbound) he)
  right
  split at he
  · exact absurd he (by simp)
  rename_i key hpath
  obtain ⟨parents, hparents⟩ := List.getLast?_eq_some_iff.1 hpath
  rw [hparents, List.dropLast_concat] at he
  rcases Failure.of_bind he with he | ⟨updated, hupdated, he⟩
  · exact Value.updatePath_eq_error he
  -- Where something could be stored the container is a map, and so the entry can be read.
  obtain ⟨es, hes⟩ := Value.updatePath_isOk_iff.1 ⟨updated, hupdated⟩ parents key [] rfl
  rw [hes] at he
  rcases Failure.of_bind he with he | ⟨container, hcontainer, he⟩
  · exact absurd he (by simp)
  obtain rfl := Except.ok.inj hcontainer
  rcases Failure.of_bind he with he | ⟨previous, -, he⟩
  · exact absurd he (by simp [Value.index])
  · exact absurd he (by simp)

/-- Recording adds a breadcrumb if a skip is open and no reversal is under way, and fails only if
    the ledger is full. -/
theorem Run.exists_record (c : Breadcrumb) (m : Machine) :
    (record c m = some (.error (.failure (.ledgerLimitExceeded m.ledger.limit)), m)) ∨
      ∃ l, record c m = some (.ok (), { m with ledger := l }) ∧
        l.crumbs = (if 0 < m.ledger.openSkips ∧ m.reversing = false then
          c :: m.ledger.crumbs else m.ledger.crumbs) ∧
        l.openSkips = m.ledger.openSkips ∧ l.nextMarker = m.ledger.nextMarker ∧
        l.limit = m.ledger.limit := by
  by_cases hrev : m.reversing
  · right
    refine ⟨m.ledger, ?_, ?_, rfl, rfl, rfl⟩
    · rw [record, if_pos hrev]
    · rw [if_neg (by simp [hrev])]
  have hcalm : m.reversing = false := Bool.eq_false_iff.2 hrev
  cases hl : m.ledger.record c with
  | error e =>
    left
    rw [record, if_neg hrev, hl, Ledger.record_eq_error hl]
    rfl
  | ok l =>
    right
    refine ⟨l, by rw [record, if_neg hrev, hl], ?_⟩
    rw [Ledger.record] at hl
    split at hl
    · rename_i hrecording
      obtain ⟨hcrumbs, hskips, hlimit, hnext⟩ := Ledger.append_eq_ok hl
      have hopen : 0 < m.ledger.openSkips := of_decide_eq_true hrecording
      exact ⟨by rw [if_pos ⟨hopen, hcalm⟩, hcrumbs], hskips, hnext, hlimit⟩
    · rename_i hrecording
      obtain rfl := Except.ok.inj hl
      have hopen : ¬0 < m.ledger.openSkips := fun h => hrecording (decide_eq_true h)
      exact ⟨by rw [if_neg fun h => hopen h.1], rfl, rfl, rfl⟩

/-! ### What is stored -/

/-- From `m` it leads to `m'` that `v` is stored at the target `t`. -/
structure Run.Stored (t : Target) (v : Value) (m m' : Machine) : Prop where
  /-- One name is bound anew, that of the target in the innermost scope that binds it. The
      breadcrumb that takes this back is recorded if a skip is open and no reversal is under
      way. -/
  rebound : ∃ (b : Rebinding) (bound : Value),
    m.scopes.Search t.name m.current (.ok (some b.owner)) ∧
    m.scopes.look b.owner t.name = some bound ∧ b.Stores bound v t.path ∧
    (∀ id name, m'.scopes.look id name =
      if b.owner = id ∧ t.name = name then some b.value else m.scopes.look id name) ∧
    m'.ledger.crumbs = if 0 < m.ledger.openSkips ∧ m.reversing = false then
      b.crumb :: m.ledger.crumbs else m.ledger.crumbs
  /-- The value is read at the target. -/
  read : t.read m'.scopes m'.current = .ok v
  /-- The same scopes are live, in the same order and with the same parents. -/
  skeleton : m'.scopes.skeleton = m.scopes.skeleton
  nextSerial : m'.scopes.nextSerial = m.scopes.nextSerial
  openSkips : m'.ledger.openSkips = m.ledger.openSkips
  nextMarker : m'.ledger.nextMarker = m.ledger.nextMarker
  limit : m'.ledger.limit = m.ledger.limit
  /-- Nothing else of the machine changes. -/
  others : m' = { m with scopes := m'.scopes, ledger := m'.ledger }

/-- The value at the end of the path is what has been stored there. -/
theorem Rebinding.Stores.readPath {b : Rebinding} {bound v : Value} {path : List Value}
    (h : b.Stores bound v path) (hbound : bound.WellFormed) (hpath : ∀ k ∈ path, k.WellFormed) :
    b.value.readPath path = .ok v := by
  cases h with
  | name => rfl
  | entry owner name _ _ hupdated => exact Value.readPath_updatePath hbound hpath hupdated

/-- Storing either fails and leaves the machine as it was, or it stores. It fails only if the name
    is bound nowhere, if something in its value that is to be stored into is no map, or if the
    ledger is full. -/
theorem Reached.store_atomic {host : Host} {m : Machine} (hm : Reached host Value.WellFormed m)
    (hhost : host.Keeps Value.WellFormed) (t : Target) (hpath : ∀ k ∈ t.path, k.WellFormed)
    (v : Value) :
    (∃ e, Run.store t v m = some (.error (.failure e), m) ∧
      (e = .undefinedName t.name ∨ (∃ w : Value, w.kind ≠ .map ∧ e = .unexpected .map w) ∨
        e = .ledgerLimitExceeded m.ledger.limit)) ∨
      ∃ m', Run.store t v m = some (.ok (), m') ∧ Run.Stored t v m m' := by
  have hanchored := hm.anchored
  rw [Run.store, Run.bind_apply, Run.query]
  cases hb : t.rebinding m.scopes m.current v with
  | error e =>
    left
    refine ⟨e, rfl, ?_⟩
    rcases Target.refused_of_rebinding hanchored.rooted hanchored.live hb with he | he
    · exact .inl he
    · exact .inr (.inl he)
  | ok b =>
    obtain ⟨bound, hlook, hstores⟩ := Target.rebinding_eq_ok hb
    have hname := Target.name_of_rebinding hb
    have howner := Target.owner_of_rebinding hb
    rw [Run.ofExcept, Run.pure_apply]
    dsimp only
    rcases Run.exists_record b.crumb m with hrecord | ⟨l, hrecord, hcrumbs, hskips, hnext, hlimit⟩
    · left
      refine ⟨_, ?_, .inr (.inr rfl)⟩
      rw [Run.bind_apply, hrecord]
    · -- The breadcrumb has been recorded, and the owner is live: nothing can fail any more.
      right
      obtain ⟨ss, hdefine⟩ : ∃ ss, m.scopes.define b.owner b.name b.value = .ok ss :=
        ⟨_, Scopes.define_eq (Scopes.contains_of_look hlook) b.name b.value⟩
      refine ⟨{ m with scopes := ss, ledger := l }, ?_, ?_⟩
      · rw [Run.bind_apply, hrecord]
        exact Run.updateScopes_eq hdefine
      · rw [hname] at hlook hdefine
        have hbound : bound.WellFormed := hm.wellFormed hhost _ _ _ hlook
        refine ⟨⟨b, bound, Scopes.search_of_owner howner, hlook, hstores, ?_, hcrumbs⟩, ?_,
          Scopes.skeleton_define hdefine, Scopes.nextSerial_define hdefine, hskips, hnext, hlimit,
          rfl⟩
        · exact Scopes.look_define hdefine
        · rw [Target.read, Scopes.get_define howner hdefine]
          exact hstores.readPath hbound hpath

/-- An entry is taken out of a map while a skip is open: then it is void, and there is one
    breadcrumb more. -/
theorem Reached.store_atomic_void :
    ∃ m m', Reached .bare Value.WellFormed m ∧
      Run.store Reinstating.target .void m = some (.ok (), m') ∧
      Run.Stored Reinstating.target .void m m' ∧
      m'.ledger.crumbs.length = m.ledger.crumbs.length + 1 := by
  obtain ⟨m, m', m₂, c, owner, bound, restored, hm, h⟩ := Reinstating.exists_reorders
  have hstore := hm.store_atomic (Host.bare_keeps _) Reinstating.target
    Reinstating.wellFormed_target .void
  rcases hstore with ⟨e, hstore, -⟩ | ⟨m₁, hstore, hstored⟩
  · exact absurd (hstore.symm.trans h.store) (by simp)
  · obtain rfl : m₁ = m' := (Prod.mk.inj (Option.some.inj (hstore.symm.trans h.store))).2
    refine ⟨m, m₁, hm, hstore, hstored, ?_⟩
    obtain ⟨b, bound, -, -, -, -, hcrumbs⟩ := hstored.rebound
    rw [hcrumbs, if_pos ⟨h.opened, h.calm⟩, List.length_cons]

end Retrace
