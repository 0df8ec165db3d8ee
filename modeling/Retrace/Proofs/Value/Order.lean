import Retrace.Proofs.Value.Entries

/-!
# The order of entries

The entries of a map stand in the order of insertion. What storing does to it depends on
whether the key is there (`get?`): then its entry stays in its place, under the key that
it has been stored under first, and void takes out this entry alone
(`store_of_get?_eq_some`); otherwise an entry is put behind the others, or there is nothing
to take out (`store_of_get?_eq_none`). So the entries at other keys never change places
(`filter_store`), and storing what is there already changes nothing (`store_get`). But an
entry that has been taken out and is stored back is the last one then (`toEnd`).

A list of entries makes a map by storing them one after the other. What the map holds at a
key is what the list gives it last (`lastGiven`), unless this is void (`get?_ofList`).
-/

namespace Retrace.Entries

variable {es fs l r : Entries} {k k' key old v : Value}

/-! ### Where storing takes effect -/

/-- An entry that is found stands behind entries at other keys. -/
theorem exists_split_of_get? (h : get? es k = some old) :
    ∃ l key r, es = l ++ (key, old) :: r ∧ key.equals k ∧ ∀ e ∈ l, ¬e.1.equals k := by
  obtain ⟨⟨key, _⟩, hfind, rfl⟩ := Option.map_eq_some_iff.1 h
  obtain ⟨hk, l, r, rfl, hl⟩ := List.find?_eq_some_iff_append.1 hfind
  exact ⟨l, key, r, rfl, hk, by simpa using hl⟩

theorem insert_append_cons (hl : ∀ e ∈ l, ¬e.1.equals k) (hk : key.equals k) :
    insert (l ++ (key, old) :: r) k v = l ++ (key, v) :: r := by
  induction l with
  | nil => rw [List.nil_append, insert, if_pos hk, List.nil_append]
  | cons e l ih =>
    rw [List.cons_append, insert, if_neg (hl e List.mem_cons_self),
      ih fun e' he' => hl e' (List.mem_cons_of_mem _ he'), List.cons_append]

theorem erase_append_cons (hl : ∀ e ∈ l, ¬e.1.equals k) (hk : key.equals k) :
    erase (l ++ (key, old) :: r) k = l ++ r := by
  rw [erase, List.eraseP_append_right _ hl, List.eraseP_cons, hk, cond_true]

theorem store_append_cons (hl : ∀ e ∈ l, ¬e.1.equals k) (hk : key.equals k) (v : Value) :
    store (l ++ (key, old) :: r) k v = if v.isVoid then l ++ r else l ++ (key, v) :: r := by
  rw [store, erase_append_cons hl hk, insert_append_cons hl hk]

/-- Storing at a key that is there changes its entry alone, which stays in its place. -/
theorem store_of_get?_eq_some (h : get? es k = some old) :
    ∃ l key r, es = l ++ (key, old) :: r ∧ key.equals k ∧
      ∀ v, store es k v = if v.isVoid then l ++ r else l ++ (key, v) :: r := by
  obtain ⟨l, key, r, rfl, hk, hl⟩ := exists_split_of_get? h
  exact ⟨l, key, r, rfl, hk, store_append_cons hl hk⟩

theorem insert_of_get?_eq_none (h : get? es k = none) : insert es k v = es ++ [(k, v)] := by
  rw [get?_eq_none_iff] at h
  induction es with
  | nil => rfl
  | cons e es ih =>
    rw [insert, if_neg (h e List.mem_cons_self),
      ih fun e' he' => h e' (List.mem_cons_of_mem _ he'), List.cons_append]

/-- What is stored at a key that is not there comes last. -/
theorem store_of_get?_eq_none (h : get? es k = none) (v : Value) :
    store es k v = if v.isVoid then es else es ++ [(k, v)] := by
  rw [store, insert_of_get?_eq_none h, erase, List.eraseP_of_forall_not (get?_eq_none_iff.1 h)]

/-- The entries at other keys stay, in their order. -/
theorem filter_store (hk : k.WellFormed) :
    (store es k v).filter (fun e => !e.1.equals k) = es.filter (fun e => !e.1.equals k) := by
  cases h : get? es k with
  | none =>
    rw [store_of_get?_eq_none h]
    split
    · rfl
    · simp [Value.equivOn_wellFormed.refl hk]
  | some old =>
    obtain ⟨l, key, r, rfl, hkey, hstore⟩ := store_of_get?_eq_some h
    rw [hstore]
    split <;> simp [hkey]

/-- Storing changes what is found at the keys equal to the one stored at, and at no other. -/
theorem get?_store (hes : ∀ e ∈ es, e.1.WellFormed) (hk : k.WellFormed) (hk' : k'.WellFormed)
    (hd : es.Distinct) :
    get? (store es k v) k' =
      if k.equals k' then (if v.isVoid then none else some v) else get? es k' := by
  rw [store]
  by_cases hv : v.isVoid
  · rw [if_pos hv, if_pos hv, get?_erase hes hk hk' hd]
  · rw [if_neg hv, if_neg hv, get?_insert hes hk hk']

/-! ### Storing what is there -/

theorem get_of_get?_eq_some (h : get? es k = some old) : get es k = old := by
  rw [get, h, Option.getD_some]

theorem Filled.not_isVoid (hf : es.Filled) (h : get? es k = some old) : ¬old.isVoid := by
  rw [Value.isVoid_eq_true_iff]
  rintro rfl
  obtain ⟨k', hmem, -⟩ := mem_of_get? h
  exact hf _ hmem rfl

theorem store_get (hf : es.Filled) : store es k (get es k) = es := by
  cases h : get? es k with
  | none =>
    have hvoid : (get es k).isVoid := by simp [get, h, Value.isVoid]
    rw [store_of_get?_eq_none h, if_pos hvoid]
  | some old =>
    obtain ⟨l, key, r, rfl, -, hstore⟩ := store_of_get?_eq_some h
    rw [get_of_get?_eq_some h, hstore, if_neg (hf.not_isVoid h)]

/-! ### Storing again -/

/-- What is stored makes way for what is stored at the same key next. -/
theorem store_store (hk : k.WellFormed) (hv : v ≠ .void) (w : Value) :
    store (store es k v) k w = store es k w := by
  have hne : ¬v.isVoid := by rwa [Value.isVoid_eq_true_iff]
  cases h : get? es k with
  | none =>
    rw [store_of_get?_eq_none h, store_of_get?_eq_none h, if_neg hne,
      store_append_cons (get?_eq_none_iff.1 h) (Value.equivOn_wellFormed.refl hk), List.append_nil]
  | some old =>
    obtain ⟨l, key, r, rfl, hkey, hl⟩ := exists_split_of_get? h
    rw [store_append_cons hl hkey, if_neg hne, store_append_cons hl hkey, store_append_cons hl hkey]

/-- The entry at a key, if there is one, put behind the others. -/
def toEnd (es : Entries) (k : Value) : Entries :=
  match get? es k with
  | some v => erase es k ++ [(k, v)]
  | none => es

/-- What was held at a key is stored back after something else has been stored there. If the
    key had been taken out, its entry is now the last. -/
theorem store_store_get (hes : (Value.map es).WellFormed) (hk : k.WellFormed) :
    store (store es k v) k (get es k) = if v.isVoid then toEnd es k else es := by
  by_cases hv : v.isVoid
  · rw [if_pos hv, toEnd]
    cases h : get? es k with
    | none =>
      have hvoid : (get es k).isVoid := by simp [get, h, Value.isVoid]
      rw [store_of_get?_eq_none h, if_pos hv, store_of_get?_eq_none h, if_pos hvoid]
    | some old =>
      have hgone : get? (erase es k) k = none := by
        rw [get?_erase (fun _ => hes.key) hk hk hes.distinct,
          if_pos (Value.equivOn_wellFormed.refl hk)]
      rw [get_of_get?_eq_some h, store, if_neg (hes.filled.not_isVoid h), store, if_pos hv,
        insert_of_get?_eq_none hgone]
  · rw [if_neg hv, store_store hk (fun h => hv (Value.isVoid_eq_true_iff.2 h)),
      store_get hes.filled]

/-- Nothing changes by that if the key is not there, or if its entry is the last one already and
    the key is the very same. -/
theorem toEnd_eq_self_iff (hes : (Value.map es).WellFormed) :
    toEnd es k = es ↔ get? es k = none ∨ ∃ l v, es = l ++ [(k, v)] := by
  rw [toEnd]
  cases h : get? es k with
  | none => exact iff_of_true rfl (.inl rfl)
  | some old =>
    obtain ⟨l, key, r, rfl, hkey, hl⟩ := exists_split_of_get? h
    have hd : ∀ e ∈ r, ¬key.equals e.1 := by
      have hd := (List.pairwise_append.1 hes.distinct).2.1
      exact fun e he => (List.pairwise_cons.1 hd).1 e he
    simp only [erase_append_cons hl hkey, List.append_assoc, List.append_cancel_left_eq]
    constructor
    · intro hend
      cases r with
      | nil =>
        obtain ⟨rfl, -⟩ := Prod.mk.inj (List.cons.inj hend).1
        exact .inr ⟨l, old, rfl⟩
      | cons e r =>
        -- Then the entry would stand there twice.
        obtain rfl := (List.cons.inj hend).1
        have hwf : key.WellFormed := hes.key (List.mem_append_right l List.mem_cons_self)
        exact absurd (Value.equivOn_wellFormed.refl hwf) (hd _ List.mem_cons_self)
    · rintro (hnone | ⟨l', v, hlast⟩)
      · exact absurd hnone (by simp)
      · rcases List.eq_nil_or_concat' r with rfl | ⟨r, e, rfl⟩
        · obtain ⟨-, hlast⟩ := List.append_inj' hlast rfl
          obtain ⟨rfl, -⟩ := Prod.mk.inj (List.cons.inj hlast).1
          rfl
        · -- Then there would be an equal key behind it.
          rw [← List.cons_append, ← List.append_assoc] at hlast
          obtain ⟨-, hlast⟩ := List.append_inj' hlast rfl
          obtain rfl := (List.cons.inj hlast).1
          exact absurd hkey (hd _ (List.mem_append_right r List.mem_cons_self))

/-! ### Maps made of lists -/

/-- What a list gives a key last, be it void. -/
def lastGiven (fs : List (Value × Value)) (k : Value) : Option Value :=
  ((fs.filter fun e => e.1.equals k).getLast?).map (·.2)

theorem lastGiven_cons (e : Value × Value) (fs : List (Value × Value)) (k : Value) :
    lastGiven (e :: fs) k = (lastGiven fs k).or (if e.1.equals k then some e.2 else none) := by
  rw [lastGiven, lastGiven, List.filter_cons]
  by_cases h : e.1.equals k
  · rw [if_pos h, if_pos h, List.getLast?_cons]
    cases (fs.filter fun e => e.1.equals k).getLast? <;> rfl
  · rw [if_neg h, if_neg h, Option.or_none]

/-- Storing the entries of a list one after the other leaves at a key what the list gives it
    last, if it does so at all. -/
theorem get?_foldl_store (hes : (Value.map es).WellFormed)
    (hfs : ∀ e ∈ fs, e.1.WellFormed ∧ e.2.WellFormed) (hk : k.WellFormed) :
    get? (fs.foldl (fun m e => store m e.1 e.2) es) k =
      match lastGiven fs k with
      | some v => if v.isVoid then none else some v
      | none => get? es k := by
  induction fs generalizing es with
  | nil => rfl
  | cons e fs ih =>
    obtain ⟨hk', hv⟩ := hfs e List.mem_cons_self
    rw [List.foldl_cons, ih (hes.store hk' hv) fun f hf => hfs f (List.mem_cons_of_mem _ hf),
      lastGiven_cons, get?_store (fun _ => hes.key) hk' hk hes.distinct]
    cases lastGiven fs k with
    | some v => rfl
    | none => by_cases h : e.1.equals k <;> simp [h]

/-- At each key stands what the list gives it last, unless this is void. -/
theorem get?_ofList (hfs : ∀ e ∈ fs, e.1.WellFormed ∧ e.2.WellFormed) (hk : k.WellFormed) :
    get? (ofList fs) k = (lastGiven fs k).filter (!·.isVoid) := by
  rw [ofList, get?_foldl_store .nil hfs hk]
  cases lastGiven fs k with
  | none => rfl
  | some v => by_cases h : v.isVoid <;> simp [Option.filter, h]

/-- A list whose keys are distinct, and which does not give void, is the map made of it. -/
theorem ofList_eq_self (hd : es.Distinct) (hf : es.Filled) : ofList es = es := by
  -- The entries gathered so far are followed by those to come.
  have h : ∀ fs gs : Entries, Distinct (gs ++ fs) → Filled fs →
      fs.foldl (fun m e => store m e.1 e.2) gs = gs ++ fs := by
    intro fs
    induction fs with
    | nil => exact fun gs _ _ => (List.append_nil gs).symm
    | cons e fs ih =>
      intro gs hd hf
      have hnone : get? gs e.1 = none := by
        rw [get?_eq_none_iff]
        exact fun f hf => (List.pairwise_append.1 hd).2.2 f hf e List.mem_cons_self
      have hne : ¬e.2.isVoid := by
        rw [Value.isVoid_eq_true_iff]
        exact hf e List.mem_cons_self
      rw [List.append_cons] at hd ⊢
      rw [List.foldl_cons, store_of_get?_eq_none hnone, if_neg hne,
        ih _ hd fun f hf' => hf f (List.mem_cons_of_mem _ hf')]
  exact h es [] hd hf

end Retrace.Entries
