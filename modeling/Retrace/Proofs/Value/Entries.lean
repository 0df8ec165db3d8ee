import Retrace.Proofs.Value.WellFormed
import Retrace.Value.Access

/-!
# The laws of maps

A map is told apart by what it holds at each key (`Entries.get`), void standing
for nothing. Storing changes this at the keys equal to the one stored at, and at
no other (`get_store`); this holds of void too, which takes the key out.

Storing keeps a map well-formed, so every map that is built from the empty one
is well-formed, and so is what is read from or stored along a path.
-/

namespace Retrace

namespace Entries

variable {es : Entries} {k k' v : Value}

theorem get?_cons (e : Value × Value) (es : Entries) (k : Value) :
    get? (e :: es) k = if e.1.equals k then some e.2 else get? es k := by
  by_cases h : e.1.equals k <;> simp [get?, h]

theorem mem_of_get? (h : get? es k = some v) : ∃ k', (k', v) ∈ es ∧ k'.equals k := by
  obtain ⟨e, he, rfl⟩ := Option.map_eq_some_iff.1 h
  have hk := List.find?_some he
  exact ⟨e.1, List.mem_of_find?_eq_some he, hk⟩

theorem get?_eq_none_iff : get? es k = none ↔ ∀ e ∈ es, ¬e.1.equals k := by
  simp [get?]

section Laws

variable (hes : ∀ e ∈ es, e.1.WellFormed) (hk : k.WellFormed) (hk' : k'.WellFormed)
include hes hk hk'

/-- Equal keys are the same to every third. -/
theorem equals_congr_left (h : k.equals k') {e : Value × Value} (he : e ∈ es) :
    e.1.equals k = e.1.equals k' := by
  have hS := Value.equivOn_wellFormed
  rw [Bool.eq_iff_iff]
  exact ⟨fun h' => hS.trans (hes e he) hk hk' h' h,
    fun h' => hS.trans (hes e he) hk' hk h' (hS.symm hk hk' h)⟩

/-- What is stored does not depend on which of equal keys it is looked up by. -/
theorem get?_congr (h : k.equals k') : get? es k = get? es k' := by
  induction es with
  | nil => rfl
  | cons e es ih =>
    rw [get?_cons, get?_cons, equals_congr_left hes hk hk' h List.mem_cons_self,
      ih fun e' he' => hes e' (List.mem_cons_of_mem _ he')]

theorem get_congr (h : k.equals k') : get es k = get es k' := by
  rw [get, get, get?_congr hes hk hk' h]

theorem get?_insert :
    get? (insert es k v) k' = if k.equals k' then some v else get? es k' := by
  induction es with
  | nil => simp [insert, get?_cons]
  | cons e es ih =>
    have hS := Value.equivOn_wellFormed
    have he := hes e List.mem_cons_self
    rw [insert]
    by_cases hek : e.1.equals k
    · rw [if_pos hek, get?_cons, get?_cons]
      by_cases hkk' : k.equals k'
      · rw [if_pos hkk', if_pos (hS.trans he hk hk' hek hkk')]
      · have : ¬e.1.equals k' := fun h => hkk' (hS.trans hk he hk' (hS.symm he hk hek) h)
        rw [if_neg hkk', if_neg this, if_neg this]
    · rw [if_neg hek, get?_cons, get?_cons, ih fun e' he' => hes e' (List.mem_cons_of_mem _ he')]
      by_cases hkk' : k.equals k'
      · have : ¬e.1.equals k' := fun h => hek (hS.trans he hk' hk h (hS.symm hk hk' hkk'))
        rw [if_neg this, if_pos hkk', if_pos hkk']
      · rw [if_neg hkk', if_neg hkk']

theorem get?_erase (hd : es.Distinct) :
    get? (erase es k) k' = if k.equals k' then none else get? es k' := by
  induction es with
  | nil => simp [erase, get?]
  | cons e es ih =>
    have hS := Value.equivOn_wellFormed
    have he := hes e List.mem_cons_self
    have hes' : ∀ e' ∈ es, e'.1.WellFormed := fun e' he' => hes e' (List.mem_cons_of_mem _ he')
    rw [Distinct, List.pairwise_cons] at hd
    rw [erase, List.eraseP_cons]
    by_cases hek : e.1.equals k
    · simp only [hek, cond_true]
      rw [get?_cons]
      by_cases hkk' : k.equals k'
      · -- The key taken out stood for its equals nowhere else.
        rw [if_pos hkk', get?_eq_none_iff]
        intro e' he' h
        refine hd.1 e' he' (hS.trans he hk' (hes' e' he') ?_ (hS.symm (hes' e' he') hk' h))
        exact hS.trans he hk hk' hek hkk'
      · have : ¬e.1.equals k' := fun h => hkk' (hS.trans hk he hk' (hS.symm he hk hek) h)
        rw [if_neg hkk', if_neg this]
    · simp only [hek, cond_false]
      rw [get?_cons, get?_cons]
      have ih := ih hes' hd.2
      rw [erase] at ih
      rw [ih]
      by_cases hkk' : k.equals k'
      · have : ¬e.1.equals k' := fun h => hek (hS.trans he hk' hk h (hS.symm hk hk' hkk'))
        rw [if_neg this, if_pos hkk', if_pos hkk']
      · rw [if_neg hkk', if_neg hkk']

/-- Storing at a key changes what is held at the keys equal to it, and at no other. -/
theorem get_store (hd : es.Distinct) :
    get (store es k v) k' = if k.equals k' then v else get es k' := by
  rw [get, get, store]
  by_cases hv : v.isVoid
  · rw [if_pos hv, get?_erase hes hk hk' hd]
    rw [Value.isVoid_eq_true_iff] at hv
    by_cases hkk' : k.equals k' <;> simp [hkk', hv]
  · rw [if_neg hv, get?_insert hes hk hk']
    by_cases hkk' : k.equals k' <;> simp [hkk']

end Laws

/-- An entry is found by its key. -/
theorem get?_of_mem (hes : ∀ e ∈ es, e.1.WellFormed) (hd : es.Distinct) {e : Value × Value}
    (he : e ∈ es) : get? es e.1 = some e.2 := by
  have hS := Value.equivOn_wellFormed
  induction es with
  | nil => exact absurd he List.not_mem_nil
  | cons f es ih =>
    rw [Distinct, List.pairwise_cons] at hd
    rw [get?_cons]
    rcases List.mem_cons.1 he with rfl | he'
    · rw [if_pos (hS.refl (hes e List.mem_cons_self))]
    · rw [if_neg (hd.1 e he')]
      exact ih (fun e' he' => hes e' (List.mem_cons_of_mem _ he')) hd.2 he'

/-- What is held at a key is void if it is not the value of an entry. -/
theorem exists_of_get_ne_void (h : get es k ≠ .void) :
    ∃ e ∈ es, e.1.equals k ∧ e.2 = get es k := by
  cases h' : get? es k with
  | none => exact absurd (by simp [get, h']) h
  | some v =>
    obtain ⟨k', hmem, hk'⟩ := mem_of_get? h'
    exact ⟨(k', v), hmem, hk', by simp [get, h']⟩

/-- A map has at most as many entries as one in which they are all found. -/
theorem length_le {fs : Entries} (hes : (Value.map es).WellFormed) (hfs : (Value.map fs).WellFormed)
    (h : ∀ e ∈ es, ∃ f ∈ fs, Match e f) : es.length ≤ fs.length := by
  obtain ⟨cs, hcs, hR⟩ := exists_forall₂_subperm h
    (pairwise_not_match Value.equivOn_wellFormed hes.distinct (fun _ => hes.key) fun _ => hfs.key)
  exact hR.length_eq ▸ hcs.length_le

/-! ### Storing keeps maps well-formed -/

theorem mem_insert {e : Value × Value} (h : e ∈ insert es k v) :
    e ∈ es ∨ (e.2 = v ∧ (e.1 = k ∨ ∃ f ∈ es, e.1 = f.1)) := by
  induction es with
  | nil =>
    rw [insert, List.mem_singleton] at h
    exact .inr ⟨by rw [h], .inl (by rw [h])⟩
  | cons f es ih =>
    rw [insert] at h
    split at h
    · rcases List.mem_cons.1 h with rfl | h
      · exact .inr ⟨rfl, .inr ⟨f, List.mem_cons_self, rfl⟩⟩
      · exact .inl (List.mem_cons_of_mem _ h)
    · rcases List.mem_cons.1 h with rfl | h
      · exact .inl List.mem_cons_self
      · rcases ih h with h | ⟨hv, hk⟩
        · exact .inl (List.mem_cons_of_mem _ h)
        · refine .inr ⟨hv, hk.imp_right fun ⟨g, hg, h⟩ => ⟨g, List.mem_cons_of_mem _ hg, h⟩⟩

theorem Distinct.insert (hd : es.Distinct) : (insert es k v).Distinct := by
  induction es with
  | nil => exact List.pairwise_singleton _ _
  | cons f es ih =>
    rw [Distinct, List.pairwise_cons] at hd
    rw [Entries.insert]
    split
    · exact List.pairwise_cons.2 hd
    · rename_i hfk
      -- No key comes in that is equal to this one.
      refine List.pairwise_cons.2 ⟨fun e he => ?_, ih hd.2⟩
      rcases mem_insert he with he | ⟨-, hk | ⟨g, hg, hk⟩⟩
      · exact hd.1 e he
      · rwa [hk]
      · rw [hk]
        exact hd.1 g hg

theorem mem_of_mem_erase {e : Value × Value} (h : e ∈ erase es k) : e ∈ es :=
  List.mem_of_mem_eraseP h

theorem Distinct.erase (hd : es.Distinct) : (erase es k).Distinct :=
  List.Pairwise.sublist List.eraseP_sublist hd

end Entries

namespace Value

variable {p : Stmt → Prop} {es : Entries} {k v w root : Value} {path : List Value}

theorem Sound.nil : Sound p (.map []) :=
  .map .nil (fun _ h => absurd h List.not_mem_nil) (fun _ h => absurd h List.not_mem_nil)
    fun _ h => absurd h List.not_mem_nil

theorem Sound.store (h : Sound p (.map es)) (hk : Sound p k) (hv : Sound p v) :
    Sound p (.map (Entries.store es k v)) := by
  rw [Entries.store]
  split
  · exact .map h.distinct.erase (fun e he => h.filled e (Entries.mem_of_mem_erase he))
      (fun e he => h.key (Entries.mem_of_mem_erase he))
      fun e he => h.value (Entries.mem_of_mem_erase he)
  · rename_i hvoid
    refine .map h.distinct.insert (fun e he => ?_) (fun e he => ?_) fun e he => ?_
    · rcases Entries.mem_insert he with he | ⟨hv, -⟩
      · exact h.filled e he
      · rwa [hv, ne_eq, ← isVoid_eq_true_iff]
    · rcases Entries.mem_insert he with he | ⟨-, hk' | ⟨f, hf, hk'⟩⟩
      · exact h.key he
      · rwa [hk']
      · rw [hk']
        exact h.key hf
    · rcases Entries.mem_insert he with he | ⟨hv', -⟩
      · exact h.value he
      · rwa [hv']

theorem Sound.get (h : Sound p (.map es)) (k : Value) : Sound p (Entries.get es k) := by
  by_cases hv : Entries.get es k = .void
  · rw [hv]
    exact .void
  · obtain ⟨e, he, -, hv⟩ := Entries.exists_of_get_ne_void hv
    exact hv ▸ h.value he

end Value

end Retrace
