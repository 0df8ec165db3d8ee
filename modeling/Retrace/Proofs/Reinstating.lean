import Retrace.Proofs.Recording
import Retrace.Proofs.Value.Paths

/-!
# Taking back an assignment to an entry

An assignment to an entry records what its container held at the key before, void if it
held nothing, but not where the entry stood. The breadcrumb stores this back in the way
any assignment stores. So if the entry has been changed, or was not there at all, the name
is bound to the very value again that it was bound to. An entry that has been taken out
comes back as the last one of its container, under the key that was assigned to
(`Run.store_reinstated`): the value holds the same at every key, but it is printed in
another order (`Reached.not_reinstatesExactly`).
-/

namespace Retrace

/-- What is bound anew is the name of the target. -/
theorem Target.name_of_rebinding {t : Target} {ss : Scopes} {id : ScopeId} {v : Value}
    {b : Rebinding} (h : t.rebinding ss id v = .ok b) : b.name = t.name := by
  rw [rebinding] at h
  obtain ⟨owner, -, h⟩ := Failure.exists_of_bind h
  obtain ⟨bound, -, h⟩ := Failure.exists_of_bind h
  split at h
  · rw [← Except.ok.inj h]
  · obtain ⟨updated, -, h⟩ := Failure.exists_of_bind h
    obtain ⟨container, -, h⟩ := Failure.exists_of_bind h
    obtain ⟨previous, -, h⟩ := Failure.exists_of_bind h
    rw [← Except.ok.inj h]

variable {t : Target} {v bound : Value} {owner : ScopeId} {m m' : Machine}

/-- Restoring the breadcrumb of an entry binds the name to what it is bound to with the entry
    stored back, and leaves all other names alone. -/
theorem Evaluator.restore_entry (r : Evaluator) (marker : Marker) (enclosing : ScopeId)
    {name : String} {path : List Value} {key previous w restored : Value}
    (hlook : m.scopes.look owner name = some w)
    (hu : w.updatePath (path ++ [key]) previous = .ok restored) :
    ∃ m', r.restore marker enclosing (.entry owner name path (.pair key previous)) m =
        some (.ok (), m') ∧
      ∀ id name', m'.scopes.look id name' =
        if owner = id ∧ name = name' then some restored else m.scopes.look id name' := by
  have hlive := Scopes.contains_of_look hlook
  have hrestore := Scopes.restoreEntry_eq hlook hu
  have hdefine := Scopes.define_eq hlive name restored
  refine ⟨{ m with scopes := { m.scopes with
    row := m.scopes.row.modify owner.slot (·.bind name restored) } }, ?_,
    fun id name' => Scopes.look_define hdefine id name'⟩
  rw [restore, Run.whenRestorable_live hlive, Run.updateScopes_eq (hrestore.trans hdefine)]

/-- Something is stored in an entry of a container and recorded. When the breadcrumb comes to
    be restored, and the name is bound to what the assignment had bound it to, then it is bound
    to the old value once more, but for an entry that the assignment had taken out: this stands
    now at the end of the container, under the key that was assigned to. So the value is the
    very same as before unless void was stored at a key of the container whose entry was not
    the last, or stood there under another key, equal to this one; and in this case it still is
    alike. -/
theorem Run.store_reinstated (howner : m.scopes.owner m.current t.name = .ok owner)
    (hlook : m.scopes.look owner t.name = some bound) (hbound : bound.WellFormed)
    (hpath : ∀ k ∈ t.path, k.WellFormed) (hne : t.path ≠ []) (hopen : 0 < m.ledger.openSkips)
    (hcalm : m.reversing = false)
    (hstore : Run.store t v m = some (.ok (), m')) :
    ∃ parents key es restored, t.path = parents ++ [key] ∧
      bound.readPath parents = .ok (.map es) ∧
      m'.ledger.crumbs =
        .entry owner t.name parents (.pair key (Entries.get es key)) :: m.ledger.crumbs ∧
      bound.updatePath parents (.map (if v.isVoid then Entries.toEnd es key else es)) =
        .ok restored ∧
      (∀ (r : Evaluator) marker enclosing m₁,
        m₁.scopes.look owner t.name = m'.scopes.look owner t.name →
        ∃ m₂, r.restore marker enclosing
            (.entry owner t.name parents (.pair key (Entries.get es key))) m₁ =
              some (.ok (), m₂) ∧
          ∀ id name, m₂.scopes.look id name =
            if owner = id ∧ t.name = name then some restored else m₁.scopes.look id name) ∧
      restored.Alike bound ∧
      (restored = bound ↔
        v ≠ .void ∨ Entries.get? es key = none ∨ ∃ l old, es = l ++ [(key, old)]) := by
  obtain ⟨b, hb, hnow, hcrumbs⟩ := Run.store_eq_ok hstore
  have hname := Target.name_of_rebinding hb
  obtain rfl : b.owner = owner := Except.ok.inj ((Target.owner_of_rebinding hb).symm.trans howner)
  obtain ⟨bound', hlook', hstores⟩ := Target.rebinding_eq_ok hb
  obtain ⟨name, path⟩ := t
  obtain rfl : b.name = name := hname
  obtain rfl : bound = bound' := Option.some.inj (hlook.symm.trans hlook')
  have hcrumbs := hcrumbs hopen
  rw [hcalm, if_neg Bool.false_ne_true] at hcrumbs
  cases hstores with
  | name => exact absurd rfl hne
  | @entry owner name parents key container previous updated hread hprevious hupdated =>
    have hparents : ∀ k ∈ parents, k.WellFormed := fun k hk =>
      hpath k (List.mem_append_left _ hk)
    have hkey : key.WellFormed := hpath key (List.mem_append_right _ List.mem_cons_self)
    obtain ⟨es, restored, hes, hback, hstored, halike, hsame⟩ :=
      Value.exists_updatePath_back hbound hparents hkey hupdated
    obtain rfl : container = .map es := Except.ok.inj (hread.symm.trans hes)
    obtain rfl : previous = Entries.get es key := (Except.ok.inj hprevious).symm
    refine ⟨parents, key, es, restored, rfl, hes, hcrumbs, hstored, ?_, halike, hsame⟩
    exact fun r marker enclosing m₁ hm₁ =>
      r.restore_entry marker enclosing (hm₁.trans hnow) hback

/-- Whether an assignment to an entry is always taken back exactly: when its breadcrumb has
    been restored, the name is bound to the very value that it was bound to before. -/
def Machine.ReinstatesExactly (m : Machine) : Prop :=
  ∀ (t : Target) (v : Value) (owner : ScopeId) (bound : Value) (m' : Machine) (c : Breadcrumb),
    t.path ≠ [] → m.scopes.owner m.current t.name = .ok owner →
    m.scopes.look owner t.name = some bound → bound.WellFormed →
    (∀ k ∈ t.path, k.WellFormed) → v.WellFormed →
    Run.store t v m = some (.ok (), m') → m'.ledger.crumbs = c :: m.ledger.crumbs →
    ∀ (r : Evaluator) marker enclosing, ∃ m₂,
      r.restore marker enclosing c m' = some (.ok (), m₂) ∧
        m₂.scopes.look owner t.name = some bound

/-! ### An entry that changes its place -/

namespace Reinstating

/-- An entry of a map. -/
def target : Target := ⟨"m", [.str "a"]⟩

theorem wellFormed_target : ∀ k ∈ target.path, k.WellFormed :=
  List.forall_mem_singleton.2 (.str "a")

/-- In an open skip the entry is taken out, which leads to `m'`, and this is taken back, which
    leads to `m₂`. But now the map has another text. -/
structure Reorders (m m' m₂ : Machine) (c : Breadcrumb) (owner : ScopeId)
    (bound restored : Value) : Prop where
  owner_eq : m.scopes.owner m.current "m" = .ok owner
  look_before : m.scopes.look owner "m" = some bound
  opened : 0 < m.ledger.openSkips
  calm : m.reversing = false
  store : Run.store target .void m = some (.ok (), m')
  crumbs : m'.ledger.crumbs = c :: m.ledger.crumbs
  restore : (evaluator .bare 9).restore ⟨0, 0⟩ m.current c m' = some (.ok (), m₂)
  look_after : m₂.scopes.look owner "m" = some restored
  text_ne : restored.text ≠ bound.text

/-- The text of the map before the entry is taken out, and the one after this has been taken
    back. -/
def texts? (m : Machine) : Option (String × String) :=
  match m.scopes.owner m.current "m", Run.store target .void m with
  | .ok owner, some (.ok _, m') =>
    match m'.ledger.crumbs with
    | c :: _ =>
      match (evaluator .bare 9).restore ⟨0, 0⟩ m.current c m' with
      | some (.ok _, m₂) =>
        match m.scopes.look owner "m", m₂.scopes.look owner "m" with
        | some bound, some restored => some (bound.text, restored.text)
        | _, _ => none
      | _ => none
    | [] => none
  | _, _ => none

theorem reorders_of_texts? {before after : String} (hopen : 0 < m.ledger.openSkips)
    (hcalm : m.reversing = false) (h : texts? m = some (before, after)) (hne : after ≠ before) :
    ∃ m' m₂ c owner bound restored, Reorders m m' m₂ c owner bound restored := by
  rw [texts?] at h
  split at h
  · rename_i howner hstore
    split at h
    · rename_i hcrumbs
      split at h
      · split at h
        · obtain ⟨rfl, rfl⟩ := Prod.mk.inj (Option.some.inj h)
          obtain ⟨b, -, -, hrecorded⟩ := Run.store_eq_ok hstore
          have hrecorded := hrecorded hopen
          rw [hcalm, if_neg Bool.false_ne_true] at hrecorded
          obtain ⟨rfl, rfl⟩ := List.cons.inj (hcrumbs.symm.trans hrecorded)
          exact ⟨_, _, _, _, _, _,
            howner, ‹_›, hopen, hcalm, hstore, hcrumbs, ‹_›, ‹_›, hne⟩
        · exact absurd h (by simp)
      · exact absurd h (by simp)
    · exact absurd h (by simp)
  · exact absurd h (by simp)

/-- In a call, after a global `m` with two entries has been declared, a skip is opened. -/
theorem exists_reorders :
    ∃ m m' m₂ c owner bound restored, Reached .bare Value.WellFormed m ∧
      Reorders m m' m₂ c owner bound restored := by
  have h : (Machine.bare.load .bare 9 [.variable ⟨"m", some (.map
      [(.literal .str "a", .literal .int "1"), (.literal .str "b", .literal .int "2")])⟩]).any
        fun loaded =>
          decide (loaded.2.callDepth < loaded.2.settings.maxCallDepth) && !loaded.2.reversing &&
            (Run.openSkip loaded.2.enterCall).any fun opened =>
              opened.1.isOk && texts? opened.2 == some ("a: 1, b: 2", "b: 2, a: 1") := by
    decide +kernel
  obtain ⟨⟨answer, m⟩, hload, h⟩ := (Option.any_eq_true _ _).1 h
  simp only [Bool.and_eq_true, decide_eq_true_eq, Bool.not_eq_true'] at h
  obtain ⟨⟨hdepth, hcalm⟩, h⟩ := h
  obtain ⟨⟨x, opened⟩, hskip, h⟩ := (Option.any_eq_true _ _).1 h
  obtain ⟨hx, htexts⟩ := Bool.and_eq_true_iff.1 h
  obtain ⟨marker, l, hl, -, rfl⟩ | ⟨e, rfl, -⟩ := Run.openSkip_eq_some hskip
  · have hm : Reached .bare Value.WellFormed m :=
      .rest (.serve (.start .default .bare) (.load hload))
    have hm := Reached.skip (.call hm hdepth (List.forall_mem_nil _) rfl) hl
    have hopen : 0 < l.openSkips := by
      rw [(Ledger.openSkip_eq_ok hl).2.2.1]
      exact Nat.succ_pos _
    obtain ⟨m', m₂, c, owner, bound, restored, h⟩ :=
      reorders_of_texts? (m := { m.enterCall with ledger := l }) hopen hcalm
        (beq_iff_eq.1 htexts) (by decide)
    exact ⟨_, m', m₂, c, owner, bound, restored, hm, h⟩
  · exact absurd hx (by simp [Except.isOk, Except.toBool])

end Reinstating

/-- There the map is alike when the assignment has been taken back, but it has another text. -/
theorem Run.store_reinstated_reordered :
    ∃ m m' m₂ c owner bound restored, Reinstating.Reorders m m' m₂ c owner bound restored ∧
      bound.WellFormed ∧ restored.Alike bound := by
  obtain ⟨m, m', m₂, c, owner, bound, restored, hm, h⟩ := Reinstating.exists_reorders
  have hbound : bound.WellFormed := hm.wellFormed (Host.bare_keeps _) _ _ _ h.look_before
  obtain ⟨parents, key, es, restored', -, -, hcrumbs, -, hback, halike, -⟩ :=
    Run.store_reinstated (t := Reinstating.target) h.owner_eq h.look_before hbound
      Reinstating.wellFormed_target (List.cons_ne_nil _ _) h.opened h.calm h.store
  obtain ⟨rfl, -⟩ := List.cons.inj (h.crumbs.symm.trans hcrumbs)
  obtain ⟨m₂', hrestore, hlook⟩ := hback (evaluator .bare 9) ⟨0, 0⟩ m.current m' rfl
  obtain ⟨-, rfl⟩ := Prod.mk.inj (Option.some.inj (hrestore.symm.trans h.restore))
  have hsame := hlook owner "m"
  rw [if_pos ⟨rfl, rfl⟩, h.look_after] at hsame
  obtain rfl := Option.some.inj hsame
  exact ⟨m, m', m₂', _, owner, bound, restored, h, hbound, halike⟩

/-- An entry that has been taken out need not come back in its place. -/
theorem Reached.not_reinstatesExactly :
    ∃ m, Reached .bare Value.WellFormed m ∧ ¬m.ReinstatesExactly := by
  obtain ⟨m, m', m₂, c, owner, bound, restored, hm, h⟩ := Reinstating.exists_reorders
  refine ⟨m, hm, fun hexact => ?_⟩
  have hbound : bound.WellFormed := hm.wellFormed (Host.bare_keeps _) _ _ _ h.look_before
  obtain ⟨m₂', hrestore, hlook⟩ := hexact Reinstating.target .void owner bound m' c
    (List.cons_ne_nil _ _) h.owner_eq h.look_before hbound Reinstating.wellFormed_target .void
    h.store h.crumbs (evaluator .bare 9) ⟨0, 0⟩ m.current
  obtain ⟨-, rfl⟩ := Prod.mk.inj (Option.some.inj (hrestore.symm.trans h.restore))
  obtain rfl : restored = bound := Option.some.inj (h.look_after.symm.trans hlook)
  exact h.text_ne rfl

end Retrace
