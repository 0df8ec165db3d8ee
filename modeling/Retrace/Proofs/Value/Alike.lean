import Retrace.Proofs.Value.Entries

/-!
# Values that are alike

Two values are *alike* (`Value.Alike`) when they are the same, or are maps that
hold alike values at every key. So they are told apart only by the order of the
entries in their maps, and by which of equal keys stands for an entry; in
particular they are equal (`Alike.equals`), and a value that is no map is alike
to itself only (`Alike.eq_of_not_map`).

An assignment along a path is taken back by storing what there was before: the
value is then alike to the one before the assignment (`updatePath_restore`). It
need not be the same, as an entry that was taken out comes back as the last.
Alike values stay alike under storing (`Alike.updatePath`).
-/

namespace Retrace.Value

/-- The values are the same, or maps that hold alike values at every key. -/
inductive Alike : Value → Value → Prop
  | refl (v : Value) : Alike v v
  | map {es fs : List (Value × Value)} :
      (∀ k, WellFormed k → Alike (Entries.get es k) (Entries.get fs k)) → Alike (map es) (map fs)

variable {p : Stmt → Prop} {es fs : Entries} {u v w k prev root : Value} {path : List Value}

namespace Alike

theorem symm (h : Alike v w) : Alike w v := by
  induction h with
  | refl v => exact .refl v
  | map _ ih => exact .map ih

theorem trans (h : Alike u v) (h' : Alike v w) : Alike u w := by
  induction h generalizing w with
  | refl v => exact h'
  | map h ih =>
    cases h' with
    | refl => exact .map h
    | map h' => exact .map fun k hk => ih k hk (h' k hk)

theorem eq_of_not_map (h : Alike v w) (hv : v.kind ≠ .map) : v = w := by
  cases h with
  | refl => rfl
  | map => exact absurd rfl hv

theorem get (h : Alike (.map es) (.map fs)) (hk : k.WellFormed) :
    Alike (Entries.get es k) (Entries.get fs k) := by
  cases h with
  | refl => exact .refl _
  | map h => exact h k hk

theorem exists_map (h : Alike (.map es) v) : ∃ fs, v = .map fs := by
  cases h with
  | refl => exact ⟨es, rfl⟩
  | map => exact ⟨_, rfl⟩

/-- Alike maps stay alike when alike values are stored at the same key. -/
theorem store (hes : WellFormed (.map es)) (hfs : WellFormed (.map fs)) (hk : k.WellFormed)
    (h : Alike (.map es) (.map fs)) (hv : Alike v w) :
    Alike (.map (Entries.store es k v)) (.map (Entries.store fs k w)) := by
  refine .map fun k' hk' => ?_
  rw [Entries.get_store (fun _ => hes.key) hk hk' hes.distinct,
    Entries.get_store (fun _ => hfs.key) hk hk' hfs.distinct]
  split
  · exact hv
  · exact h.get hk'

end Alike

/-! ### Paths -/

theorem updatePath_nil (root v : Value) : root.updatePath [] v = .ok v := by
  rw [updatePath]

theorem updatePath_map_cons (es : Entries) (k : Value) (path : List Value) (v : Value) :
    (map es).updatePath (k :: path) v =
      (updatePath (Entries.get es k) path v).map fun child => map (Entries.store es k child) := by
  rw [updatePath]
  cases updatePath (Entries.get es k) path v <;> rfl

/-- Only in a map can something be stored at a key. -/
theorem exists_of_updatePath_cons (h : root.updatePath (k :: path) v = .ok w) :
    ∃ es child, root = map es ∧ updatePath (Entries.get es k) path v = .ok child ∧
      w = map (Entries.store es k child) := by
  cases root with
  | map es =>
    rw [updatePath_map_cons] at h
    cases hc : updatePath (Entries.get es k) path v with
    | error e => simp [hc, Except.map] at h
    | ok child =>
      rw [hc] at h
      exact ⟨es, child, rfl, hc, (Except.ok.inj h).symm⟩
  | _ => simp [updatePath] at h

theorem Sound.updatePath (hroot : Sound p root) (hpath : ∀ k ∈ path, Sound p k) (hv : Sound p v)
    (h : root.updatePath path v = .ok w) : Sound p w := by
  induction path generalizing root w with
  | nil =>
    rw [updatePath_nil] at h
    exact Except.ok.inj h ▸ hv
  | cons k path ih =>
    obtain ⟨es, child, rfl, hc, rfl⟩ := exists_of_updatePath_cons h
    have hchild := ih (hroot.get k) (fun k' hk' => hpath k' (List.mem_cons_of_mem _ hk')) hc
    exact hroot.store (hpath k List.mem_cons_self) hchild

/-- Alike values stay alike when the same is stored along the same path. -/
theorem Alike.updatePath (h : Alike root u) (hroot : root.WellFormed) (hu : u.WellFormed)
    (hpath : ∀ k ∈ path, k.WellFormed)
    (hw : root.updatePath path v = .ok w) : ∃ w', u.updatePath path v = .ok w' ∧ Alike w w' := by
  induction path generalizing root u w with
  | nil =>
    rw [updatePath_nil] at hw
    exact ⟨v, updatePath_nil u v, Except.ok.inj hw ▸ .refl v⟩
  | cons k path ih =>
    obtain ⟨es, child, rfl, hc, rfl⟩ := exists_of_updatePath_cons hw
    obtain ⟨fs, rfl⟩ := h.exists_map
    have hk := hpath k List.mem_cons_self
    have hpath' := fun k' hk' => hpath k' (List.mem_cons_of_mem k hk')
    obtain ⟨child', hc', hcc'⟩ := ih (h.get hk) (hroot.get k) (hu.get k) hpath' hc
    refine ⟨.map (Entries.store fs k child'), ?_, h.store hroot hu hk hcc'⟩
    rw [updatePath_map_cons, hc']
    rfl

/-- What is stored at a key and then replaced there leaves no trace. -/
theorem Alike.store_store (hes : WellFormed (.map es)) (hk : k.WellFormed) (hv : v.WellFormed)
    (h : Alike w (Entries.get es k)) :
    Alike (.map (Entries.store (Entries.store es k v) k w)) (.map es) := by
  have hes' : WellFormed (.map (Entries.store es k v)) := hes.store hk hv
  refine .map fun k' hk' => ?_
  rw [Entries.get_store (fun _ => hes'.key) hk hk' hes'.distinct]
  by_cases hkk' : k.equals k'
  · rw [if_pos hkk', ← Entries.get_congr (fun _ => hes.key) hk hk' hkk']
    exact h
  · rw [if_neg hkk', Entries.get_store (fun _ => hes.key) hk hk' hes.distinct, if_neg hkk']
    exact .refl _

theorem readPath_cons (root k : Value) (path : List Value) :
    root.readPath (k :: path) = (root.index k).bind fun child => child.readPath path := by
  rw [readPath]
  rfl

/-- An assignment along a path is taken back by storing what there was before. -/
theorem updatePath_restore (hroot : root.WellFormed) (hpath : ∀ k ∈ path, k.WellFormed)
    (hk : k.WellFormed) (hv : v.WellFormed) (h : root.updatePath (path ++ [k]) v = .ok w)
    {parent : Value} (hparent : root.readPath path = .ok parent)
    (hprev : parent.index k = .ok prev) :
    ∃ u, w.updatePath (path ++ [k]) prev = .ok u ∧ Alike u root := by
  induction path generalizing root w with
  | nil =>
    rw [readPath] at hparent
    obtain rfl := Except.ok.inj hparent
    obtain ⟨es, child, rfl, hc, rfl⟩ := exists_of_updatePath_cons h
    rw [updatePath_nil] at hc
    obtain rfl := Except.ok.inj hc
    obtain rfl := Except.ok.inj hprev
    refine ⟨_, ?_, Alike.store_store hroot hk hv (.refl _)⟩
    rw [List.nil_append, updatePath_map_cons, updatePath_nil]
    rfl
  | cons l path ih =>
    have hl := hpath l List.mem_cons_self
    have hpath' := fun k' hk' => hpath k' (List.mem_cons_of_mem l hk')
    obtain ⟨es, child, rfl, hc, rfl⟩ := exists_of_updatePath_cons h
    rw [readPath_cons] at hparent
    obtain ⟨u, hu, hul⟩ := ih (hroot.get l) hpath' hc hparent
    have hchild : child.WellFormed := by
      refine (hroot.get l).updatePath (fun k' hk' => ?_) hv hc
      rcases List.mem_append.1 hk' with hk' | hk'
      · exact hpath' k' hk'
      · exact List.mem_singleton.1 hk' ▸ hk
    refine ⟨_, ?_, Alike.store_store hroot hl hchild hul⟩
    -- What is found at `l` after the assignment is the child that was stored there.
    have hget : Entries.get (Entries.store es l child) l = child := by
      rw [Entries.get_store (fun _ => hroot.key) hl hl hroot.distinct,
        if_pos (equivOn_wellFormed.refl hl)]
    rw [List.cons_append, updatePath_map_cons, hget, hu]
    rfl

/-! ### Alike values are equal -/

/-- The entries of a map are found in one that holds alike values. -/
theorem Alike.exists_match (hes : WellFormed (.map es)) (hfs : WellFormed (.map fs))
    (h : ∀ k, WellFormed k → Alike (Entries.get es k) (Entries.get fs k))
    (ih : ∀ k, WellFormed k → WellFormed (Entries.get es k) → WellFormed (Entries.get fs k) →
      equals (Entries.get es k) (Entries.get fs k)) :
    ∀ e ∈ es, ∃ f ∈ fs, Entries.Match e f := by
  intro e he
  have hk : WellFormed e.1 := hes.key he
  have hget : Entries.get es e.1 = e.2 := by
    rw [Entries.get, Entries.get?_of_mem (fun _ => hes.key) hes.distinct he]
    rfl
  have hv := ih e.1 hk (hes.get _) (hfs.get _)
  -- Void is no map, so nothing else is alike to it.
  have hne : Entries.get fs e.1 ≠ .void := by
    intro hvoid
    have ha := h e.1 hk
    rw [hget, hvoid] at ha
    exact hes.filled e he (ha.symm.eq_of_not_map (by simp [kind])).symm
  obtain ⟨f, hf, hfk, hfv⟩ := Entries.exists_of_get_ne_void hne
  refine ⟨f, hf, equivOn_wellFormed.symm (hfs.key hf) hk hfk, ?_⟩
  rwa [hget, ← hfv] at hv

theorem Alike.equals (h : Alike v w) (hv : v.WellFormed) (hw : w.WellFormed) :
    v.equals w := by
  induction h with
  | refl v => exact equivOn_wellFormed.refl hv
  | @map es fs h ih =>
    -- Each map is found in the other, so there are as many entries in both.
    have hmatch := exists_match hv hw h ih
    have hmatch' := exists_match hw hv (fun k hk => (h k hk).symm) fun k hk hfs hes =>
      equivOn_wellFormed.symm hes hfs (ih k hk hes hfs)
    rw [equals_map_iff equivOn_wellFormed hw.distinct (fun _ => hv.key) fun _ => hw.key]
    exact ⟨Nat.le_antisymm (Entries.length_le hv hw hmatch) (Entries.length_le hw hv hmatch'),
      hmatch⟩

end Retrace.Value
