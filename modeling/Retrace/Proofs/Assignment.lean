import Retrace.Eval.Assignment
import Retrace.Proofs.Run
import Retrace.Proofs.Scopes
import Retrace.Proofs.Value.Closed
import Retrace.Proofs.Value.Failing

/-!
# Rebindings

What an assignment binds anew and what it records (`Rebinding.Stores`): the name
in its owner and what it was bound to there, or, if an entry is assigned to, the
container of the entry and what was stored in it before. The breadcrumb is
recorded before the name is bound anew (`Run.store_eq_some`).

So of a closed property of values, a breadcrumb has it if what was bound had it
(`Rebinding.Stores.carries`).
-/

namespace Retrace

/-- What is stored at a target is in what its name is bound to. -/
theorem Value.Closed.read {P : Value → Prop} (hP : Closed P) {t : Target} {ss : Scopes}
    {id : ScopeId} {v : Value} (h : ss.Obey P) (hv : t.read ss id = .ok v) : P v := by
  rw [Target.read] at hv
  cases hb : ss.get id t.name with
  | error e => simp [hb, bind, Except.bind] at hv
  | ok bound =>
    rw [hb] at hv
    exact hP.readPath (h.get hb) hv

/-- The rebinding, in which `bound` makes way for a value that holds `value` at the end of
    `path`, keeps what is needed to take it back. -/
inductive Rebinding.Stores (bound value : Value) : (path : List Value) → Rebinding → Prop
  /-- What a name is bound to. -/
  | name (owner : ScopeId) (name : String) :
      Stores bound value [] ⟨owner, name, value, .binding owner name bound⟩
  /-- An entry of the container that is reached along `parents`. -/
  | entry (owner : ScopeId) (name : String) {parents : List Value}
      {key container previous updated : Value} :
      bound.readPath parents = .ok container → container.index key = .ok previous →
      bound.updatePath (parents ++ [key]) value = .ok updated →
      Stores bound value (parents ++ [key])
        ⟨owner, name, updated, .entry owner name parents (.pair key previous)⟩

theorem Target.rebinding_eq_ok {t : Target} {ss : Scopes} {id : ScopeId} {v : Value}
    {b : Rebinding} (h : t.rebinding ss id v = .ok b) :
    ∃ bound, ss.look b.owner b.name = some bound ∧ b.Stores bound v t.path := by
  obtain ⟨name, path⟩ := t
  rw [rebinding] at h
  obtain ⟨owner, ho, h⟩ := Failure.exists_of_bind h
  obtain ⟨bound, hb, h⟩ := Failure.exists_of_bind h
  have hlook := Scopes.look_of_get ho hb
  split at h
  · rename_i hpath
    rw [List.getLast?_eq_none_iff.1 hpath, ← Except.ok.inj h]
    exact ⟨bound, hlook, .name owner name⟩
  · rename_i key hpath
    -- What is assigned to is an entry: the last key is looked up in what the others lead to.
    obtain ⟨parents, rfl⟩ := List.getLast?_eq_some_iff.1 hpath
    rw [List.dropLast_concat] at h
    obtain ⟨updated, hu, h⟩ := Failure.exists_of_bind h
    obtain ⟨container, hc, h⟩ := Failure.exists_of_bind h
    obtain ⟨previous, hp, h⟩ := Failure.exists_of_bind h
    rw [← Except.ok.inj h]
    exact ⟨bound, hlook, .entry owner name hc hp hu⟩

/-- What is bound anew is the name in its owner. -/
theorem Target.owner_of_rebinding {t : Target} {ss : Scopes} {id : ScopeId} {v : Value}
    {b : Rebinding} (h : t.rebinding ss id v = .ok b) : ss.owner id t.name = .ok b.owner := by
  rw [rebinding] at h
  obtain ⟨owner, ho, h⟩ := Failure.exists_of_bind h
  obtain ⟨bound, -, h⟩ := Failure.exists_of_bind h
  split at h
  · rw [ho, ← Except.ok.inj h]
  · obtain ⟨updated, -, h⟩ := Failure.exists_of_bind h
    obtain ⟨container, -, h⟩ := Failure.exists_of_bind h
    obtain ⟨previous, -, h⟩ := Failure.exists_of_bind h
    rw [ho, ← Except.ok.inj h]

/-- A rebinding fails if the name is not found, or if its value is none that could be stored
    into. -/
theorem Target.rebinding_eq_error {t : Target} {ss : Scopes} {id : ScopeId} {v : Value}
    {e : Failure} (h : t.rebinding ss id v = .error e) :
    ss.owner id t.name = .error e ∨
      (∃ owner, ss.owner id t.name = .ok owner ∧ ss.get owner t.name = .error e) ∨
      e.Operational := by
  rw [rebinding] at h
  rcases Failure.of_bind h with h | ⟨owner, ho, h⟩
  · exact .inl h
  rcases Failure.of_bind h with h | ⟨bound, -, h⟩
  · exact .inr (.inl ⟨owner, ho, h⟩)
  refine .inr (.inr ?_)
  split at h
  · exact absurd h (by simp)
  -- All that is left are operations on values.
  rcases Failure.of_bind h with h | ⟨updated, -, h⟩
  · exact Value.operational_of_updatePath h
  rcases Failure.of_bind h with h | ⟨container, -, h⟩
  · exact Value.operational_of_readPath h
  rcases Failure.of_bind h with h | ⟨previous, -, h⟩
  · exact Value.operational_of_index h
  · exact absurd h (by simp)

/-- Whether the values that a breadcrumb keeps satisfy `V`, and the statement it keeps
    satisfies `S`. -/
def Breadcrumb.Carries (V : Value → Prop) (S : Stmt → Prop) : Breadcrumb → Prop
  | .marker _ => True
  | .binding _ _ previous => V previous
  | .entry _ _ path previous => (∀ k ∈ path, V k) ∧ V previous
  | .replay _ undo => S undo

/-- What is recorded is what was bound to the name, or is read from it. -/
theorem Rebinding.Stores.carries {P : Value → Prop} {S : Stmt → Prop} (hP : Value.Closed P)
    {b : Rebinding} {bound v : Value} {path : List Value} (h : b.Stores bound v path)
    (hbound : P bound) (hpath : ∀ k ∈ path, P k) (hv : P v) :
    b.crumb.Carries P S ∧ P b.value := by
  cases h with
  | name => exact ⟨hbound, hv⟩
  | @entry _ _ parents key container previous _ hc hp hu =>
    obtain ⟨hparents, hkey⟩ := List.forall_mem_append.1 hpath
    have hprevious := hP.index (hP.readPath hbound hc) hp
    exact ⟨⟨hparents, hP.pair.2 ⟨List.forall_mem_singleton.1 hkey, hprevious⟩⟩,
      hP.updatePath hbound hpath hv hu⟩

/-- Storing either does all there is to do for some rebinding, or fails because that cannot be
    done, and then nothing has changed. -/
theorem Run.store_eq_some {t : Target} {v : Value} {m m' : Machine} {r : Except Stop Unit}
    (h : store t v m = some (r, m')) :
    (∃ b m₁ ss, t.rebinding m.scopes m.current v = .ok b ∧
      record b.crumb m = some (.ok (), m₁) ∧
      m₁.scopes.define b.owner b.name b.value = .ok ss ∧ r = .ok () ∧
      m' = { m₁ with scopes := ss }) ∨
      ∃ e, r = .error (.failure e) ∧ m' = m ∧ (t.rebinding m.scopes m.current v = .error e ∨
        ∃ b, t.rebinding m.scopes m.current v = .ok b ∧ m.ledger.record b.crumb = .error e) := by
  rcases bind_eq_some h with ⟨b, m₁, hb, hrest⟩ | ⟨e, hb, rfl⟩
  · obtain ⟨rfl, ⟨_, hb, hok⟩ | ⟨e, hok, -⟩⟩ := query_eq_some hb
    · obtain rfl := Except.ok.inj hok
      rcases bind_eq_some hrest with ⟨_, m₂, hrecord, hdefine⟩ | ⟨e, hrecord, rfl⟩
      · obtain ⟨ss, hd, rfl, rfl⟩ | ⟨e, -, -, he⟩ := updateScopes_eq_some hdefine
        · exact .inl ⟨b, m₂, ss, hb, hrecord, hd, rfl, rfl⟩
        · -- What is to be bound anew is bound, so its scope is live, also after recording.
          obtain ⟨bound, hlook, -⟩ := Target.rebinding_eq_ok hb
          have hd := Scopes.define_eq (Scopes.contains_of_look hlook) b.name b.value
          obtain ⟨-, -, rfl⟩ | ⟨l, -, -, -, rfl⟩ | ⟨e', hok, -⟩ := record_eq_some hrecord
          · exact absurd (hd.symm.trans he) (by simp)
          · exact absurd (hd.symm.trans he) (by simp)
          · exact absurd hok (by simp)
      · obtain ⟨-, hok, -⟩ | ⟨l, -, -, hok, -⟩ | ⟨e', hok, rfl, he⟩ := record_eq_some hrecord
        · exact absurd hok (by simp)
        · exact absurd hok (by simp)
        · exact .inr ⟨e', hok, rfl, .inr ⟨b, hb, he⟩⟩
    · exact absurd hok (by simp)
  · obtain ⟨rfl, ⟨_, -, he⟩ | ⟨e', he, herror⟩⟩ := query_eq_some hb
    · exact absurd he (by simp)
    · exact .inr ⟨e', by rw [Except.error.inj he], rfl, .inl herror⟩

end Retrace
