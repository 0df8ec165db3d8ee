import Retrace.Proofs.Value.Built

/-!
# Reading and updating along paths

Something can be stored along a path exactly if there is a map to store into at each step
of it (`Value.MapsAlong`), whatever is stored (`updatePath_isOk_iff`). What has been stored
is read along the same path (`readPath_updatePath`), and nothing else has changed for the
paths that part from it (`readPath_updatePath_of_parts`). To store what is there already
changes nothing at all, not even the order of entries (`updatePath_readPath`).

The two do not quite match: reading goes into strings as well, and what is read there cannot
be stored back (`Value.StrAlong`).

What is stored along a path makes way for what is stored along it afterwards
(`updatePath_updatePath`), unless it is void: an entry that was taken out comes back as the
last one (`exists_updatePath_back`).
-/

namespace Retrace.Value

variable {es : Entries} {root u v v' w k k' c : Value} {path p q : List Value}

/-- A map is reached along each proper prefix of the path. -/
def MapsAlong (root : Value) (path : List Value) : Prop :=
  ∀ p k q, path = p ++ k :: q → ∃ es, root.readPath p = .ok (.map es)

/-- A string is reached along some proper prefix of the path. -/
def StrAlong (root : Value) (path : List Value) : Prop :=
  ∃ p k q s, path = p ++ k :: q ∧ root.readPath p = .ok (.str s)

/-- The paths part at keys that are not equal. -/
def Parts (p q : List Value) : Prop :=
  ∃ (i : Nat) (k k' : Value), p[i]? = some k ∧ q[i]? = some k' ∧ ¬k.equals k'

theorem readPath_map_cons (es : Entries) (k : Value) (path : List Value) :
    (map es).readPath (k :: path) = (Entries.get es k).readPath path := by
  rw [readPath_cons]
  rfl

theorem mapsAlong_nil : MapsAlong root [] := by
  intro p k q h
  exact absurd h (by simp)

theorem mapsAlong_cons :
    MapsAlong root (k :: path) ↔ ∃ es, root = .map es ∧ MapsAlong (Entries.get es k) path := by
  constructor
  · intro h
    obtain ⟨es, hes⟩ := h [] k path rfl
    rw [readPath] at hes
    obtain rfl := Except.ok.inj hes
    refine ⟨es, rfl, fun p k' q hpath => ?_⟩
    have hp := h (k :: p) k' q (by rw [hpath, List.cons_append])
    rwa [readPath_map_cons] at hp
  · rintro ⟨es, rfl, h⟩ p k' q hpath
    cases p with
    | nil => exact ⟨es, by rw [readPath]⟩
    | cons l p =>
      obtain ⟨rfl, hrest⟩ := List.cons.inj hpath
      rw [readPath_map_cons]
      exact h p k' q hrest

theorem parts_cons_left :
    Parts (k :: p) q ↔ ∃ k' q', q = k' :: q' ∧ (¬k.equals k' ∨ Parts p q') := by
  constructor
  · rintro ⟨i, l, l', hl, hl', hne⟩
    cases q with
    | nil => simp at hl'
    | cons k' q =>
      refine ⟨k', q, rfl, ?_⟩
      cases i with
      | zero =>
        obtain rfl := Option.some.inj hl
        obtain rfl := Option.some.inj hl'
        exact .inl hne
      | succ i => exact .inr ⟨i, l, l', hl, hl', hne⟩
  · rintro ⟨k', q', rfl, hne | ⟨i, l, l', hl, hl', hne⟩⟩
    · exact ⟨0, k, k', rfl, rfl, hne⟩
    · exact ⟨i + 1, l, l', hl, hl', hne⟩

/-! ### Where something can be stored -/

theorem updatePath_isOk_iff : (∃ r, root.updatePath path v = .ok r) ↔ MapsAlong root path := by
  induction path generalizing root with
  | nil => exact iff_of_true ⟨v, updatePath_nil root v⟩ mapsAlong_nil
  | cons k path ih =>
    rw [mapsAlong_cons]
    constructor
    · rintro ⟨r, h⟩
      obtain ⟨es, child, rfl, hc, -⟩ := exists_of_updatePath_cons h
      exact ⟨es, rfl, ih.1 ⟨child, hc⟩⟩
    · rintro ⟨es, rfl, h⟩
      obtain ⟨child, hc⟩ := ih.2 h
      rw [updatePath_map_cons, hc]
      exact ⟨_, rfl⟩

/-- Reading goes into maps and into strings, and into nothing else. -/
theorem mapsAlong_or_strAlong (h : root.readPath path = .ok u) :
    MapsAlong root path ∨ StrAlong root path := by
  induction path generalizing root with
  | nil => exact .inl mapsAlong_nil
  | cons k path ih =>
    cases root with
    | map es =>
      rw [readPath_map_cons] at h
      rcases ih h with h | ⟨p, k', q, s, rfl, hs⟩
      · exact .inl (mapsAlong_cons.2 ⟨es, rfl, h⟩)
      · exact .inr ⟨k :: p, k', q, s, rfl, by rw [readPath_map_cons, hs]⟩
    | str s => exact .inr ⟨[], k, path, s, rfl, by rw [readPath]⟩
    | _ =>
      rw [readPath_cons] at h
      exact absurd h (by simp [index, Except.bind])

theorem MapsAlong.not_strAlong (h : MapsAlong root path) : ¬StrAlong root path := by
  rintro ⟨p, k, q, s, hpath, hs⟩
  obtain ⟨es, hes⟩ := h p k q hpath
  rw [hes] at hs
  cases hs

/-- Nothing can be stored into a string. -/
theorem updatePath_str_cons (s : String) (k : Value) (path : List Value) (v : Value) :
    (str s).updatePath (k :: path) v = .error (.typeMismatch .map (.value .str)) := by
  simp [updatePath, Failure.unexpected, kind]

theorem updatePath_of_strAlong (h : StrAlong root path) (v : Value) :
    root.updatePath path v = .error (.typeMismatch .map (.value .str)) := by
  obtain ⟨p, k, q, s, rfl, h⟩ := h
  induction p generalizing root with
  | nil =>
    rw [readPath] at h
    obtain rfl := Except.ok.inj h
    exact updatePath_str_cons s k q v
  | cons l p ih =>
    cases root with
    | map es =>
      rw [readPath_map_cons] at h
      rw [List.cons_append, updatePath_map_cons, ih h]
      rfl
    | str t => exact updatePath_str_cons t l (p ++ k :: q) v
    | _ =>
      rw [readPath_cons] at h
      exact absurd h (by simp [index, Except.bind])

/-! ### What has been stored -/

/-- What is held at a key after storing there. -/
theorem get_store_self (hes : WellFormed (.map es)) (hk : k.WellFormed) (v : Value) :
    Entries.get (Entries.store es k v) k = v := by
  rw [Entries.get_store (fun _ => hes.key) hk hk hes.distinct, if_pos (equivOn_wellFormed.refl hk)]

theorem readPath_updatePath (hroot : root.WellFormed) (hpath : ∀ k ∈ path, k.WellFormed)
    (h : root.updatePath path v = .ok w) : w.readPath path = .ok v := by
  induction path generalizing root w with
  | nil =>
    rw [updatePath_nil] at h
    rw [readPath, Except.ok.inj h]
  | cons k path ih =>
    obtain ⟨hk, hpath⟩ := List.forall_mem_cons.1 hpath
    obtain ⟨es, child, rfl, hc, rfl⟩ := exists_of_updatePath_cons h
    rw [readPath_map_cons, get_store_self hroot hk]
    exact ih (hroot.get k) hpath hc

/-- What is read along a path that parts from the one stored along is as before. -/
theorem readPath_updatePath_of_parts (hroot : root.WellFormed)
    (hpath : ∀ k ∈ path, k.WellFormed) (hq : ∀ k ∈ q, k.WellFormed)
    (h : root.updatePath path v = .ok w) (hparts : Parts path q) :
    w.readPath q = root.readPath q := by
  induction path generalizing root q w with
  | nil =>
    obtain ⟨i, k, k', hi, -⟩ := hparts
    simp at hi
  | cons k path ih =>
    obtain ⟨k', q', rfl, hlater⟩ := parts_cons_left.1 hparts
    obtain ⟨hk, hpath⟩ := List.forall_mem_cons.1 hpath
    obtain ⟨hk', hq'⟩ := List.forall_mem_cons.1 hq
    obtain ⟨es, child, rfl, hc, rfl⟩ := exists_of_updatePath_cons h
    rw [readPath_map_cons, readPath_map_cons,
      Entries.get_store (fun _ => hroot.key) hk hk' hroot.distinct]
    by_cases hkk' : k.equals k'
    · -- Both paths lead on into the child that has been stored, and part later.
      rw [if_pos hkk', ← Entries.get_congr (fun _ => hroot.key) hk hk' hkk']
      exact ih (hroot.get k) hpath hq' hc (hlater.resolve_left fun hne => hne hkk')
    · rw [if_neg hkk']

/-- To store what is there changes nothing. -/
theorem updatePath_readPath (hroot : root.WellFormed) (hmaps : MapsAlong root path)
    (h : root.readPath path = .ok u) : root.updatePath path u = .ok root := by
  induction path generalizing root with
  | nil =>
    rw [readPath] at h
    rw [updatePath_nil, Except.ok.inj h]
  | cons k path ih =>
    obtain ⟨es, rfl, hchild⟩ := mapsAlong_cons.1 hmaps
    rw [readPath_map_cons] at h
    rw [updatePath_map_cons, ih (hroot.get k) hchild h]
    exact congrArg (fun es => Except.ok (map es)) (Entries.store_get hroot.filled)

/-- The laws of reading and updating along a path: updating succeeds exactly if maps are
    reached along all proper prefixes of the path; then what has been stored is read, and
    along the paths that part from this one it is read what was read before; and what is read
    without going into a string can be stored back and changes nothing. -/
theorem path_laws (hroot : root.WellFormed) (hpath : ∀ k ∈ path, k.WellFormed) :
    (∀ v, (∃ r, root.updatePath path v = .ok r) ↔ MapsAlong root path) ∧
      (∀ v r, root.updatePath path v = .ok r → r.readPath path = .ok v ∧
        ∀ q, (∀ k ∈ q, k.WellFormed) → Parts path q → r.readPath q = root.readPath q) ∧
      ∀ u, root.readPath path = .ok u →
        (¬StrAlong root path → root.updatePath path u = .ok root) ∧
        (StrAlong root path →
          root.updatePath path u = .error (.typeMismatch .map (.value .str))) := by
  refine ⟨fun v => updatePath_isOk_iff, fun v r h => ⟨?_, fun q hq => ?_⟩, fun u h => ⟨?_, ?_⟩⟩
  · exact readPath_updatePath hroot hpath h
  · exact readPath_updatePath_of_parts hroot hpath hq h
  · exact fun hstr => updatePath_readPath hroot ((mapsAlong_or_strAlong h).resolve_right hstr) h
  · exact fun hstr => updatePath_of_strAlong hstr u

/-- Taking out the only entry of a map in a map, beside a string. -/
theorem path_laws_nested :
    let root := map (Entries.ofList [(.str "a", .map (Entries.ofList [(.int 1, .str "x")])),
      (.str "s", .str "abc")])
    root.WellFormed ∧ ∃ r, root.updatePath [.str "a", .int 1] .void = .ok r ∧
      r.readPath [.str "a", .int 1] = .ok .void ∧
      r.readPath [.str "s", .int 0] = root.readPath [.str "s", .int 0] ∧
      root.updatePath [.str "a", .int 1] (.str "x") = .ok root := by
  intro root
  have hroot : root.WellFormed :=
    .store (.store .nil (.str "a") (.store .nil (.int 1) (.str "x"))) (.str "s") (.str "abc")
  have hpath : ∀ k ∈ [str "a", int 1], k.WellFormed := by
    simp only [List.forall_mem_cons]
    exact ⟨.str "a", .int 1, List.forall_mem_nil _⟩
  have hq : ∀ k ∈ [str "s", int 0], k.WellFormed := by
    simp only [List.forall_mem_cons]
    exact ⟨.str "s", .int 0, List.forall_mem_nil _⟩
  have hread : root.readPath [.str "a", .int 1] = .ok (.str "x") := by rfl
  obtain ⟨hok, hupdated, hback⟩ := path_laws hroot hpath
  have hmaps : root.MapsAlong [.str "a", .int 1] := (hok .void).1 ⟨_, rfl⟩
  obtain ⟨r, hr⟩ := (hok .void).2 hmaps
  obtain ⟨hvoid, hother⟩ := hupdated .void r hr
  have hother := hother [.str "s", .int 0] hq ⟨0, .str "a", .str "s", rfl, rfl, by decide⟩
  exact ⟨hroot, r, hr, hvoid, hother, (hback (.str "x") hread).1 hmaps.not_strAlong⟩

/-- A character is read in a string, but it cannot be stored back. -/
theorem not_updatePath_of_readPath :
    ¬∀ (root : Value) (path : List Value) (u : Value), root.WellFormed →
      (∀ k ∈ path, k.WellFormed) → root.readPath path = .ok u →
        root.updatePath path u = .ok root := by
  intro h
  have hread : (str "abc").readPath [.int 0] = .ok (.str "a") := by rfl
  have hpath : ∀ k ∈ [int 0], k.WellFormed := List.forall_mem_singleton.2 (.int 0)
  have hupdate := h _ _ _ (.str "abc") hpath hread
  rw [updatePath_str_cons] at hupdate
  cases hupdate

/-! ### Storing again -/

/-- To store along a longer path is to store in what is reached along a shorter one. -/
theorem updatePath_append (hmaps : MapsAlong root p) (h : root.readPath p = .ok c) :
    root.updatePath (p ++ q) v = (c.updatePath q v).bind fun c' => root.updatePath p c' := by
  induction p generalizing root with
  | nil =>
    rw [readPath] at h
    obtain rfl := Except.ok.inj h
    rw [List.nil_append]
    cases hc : root.updatePath q v with
    | error e => rfl
    | ok c' => exact (updatePath_nil root c').symm
  | cons k p ih =>
    obtain ⟨es, rfl, hchild⟩ := mapsAlong_cons.1 hmaps
    rw [readPath_map_cons] at h
    rw [List.cons_append, updatePath_map_cons, ih hchild h]
    cases c.updatePath q v with
    | error e => rfl
    | ok c' => exact (updatePath_map_cons es k p c').symm

theorem ne_void_of_updatePath (hv : v ≠ .void) (h : root.updatePath path v = .ok w) :
    w ≠ .void := by
  cases path with
  | nil =>
    rw [updatePath_nil] at h
    exact Except.ok.inj h ▸ hv
  | cons k path =>
    obtain ⟨es, child, -, -, rfl⟩ := exists_of_updatePath_cons h
    exact fun hvoid => by cases hvoid

/-- What is stored along a path makes way for what is stored there next. -/
theorem updatePath_updatePath (hroot : root.WellFormed) (hpath : ∀ k ∈ path, k.WellFormed)
    (hv : v ≠ .void) (h : root.updatePath path v = .ok w) :
    w.updatePath path v' = root.updatePath path v' := by
  induction path generalizing root w with
  | nil => rw [updatePath_nil, updatePath_nil]
  | cons k path ih =>
    obtain ⟨hk, hpath⟩ := List.forall_mem_cons.1 hpath
    obtain ⟨es, child, rfl, hc, rfl⟩ := exists_of_updatePath_cons h
    rw [updatePath_map_cons, updatePath_map_cons, get_store_self hroot hk,
      ih (hroot.get k) hpath hc]
    refine congrArg (Except.map · _) (funext fun child' => ?_)
    rw [Entries.store_store hk (ne_void_of_updatePath hv hc)]

/-- What was held at the end of a path is stored back after something else has been stored
    there. Then the container is as before, or if the entry had been taken out, this is now its
    last. -/
theorem updatePath_back (hroot : root.WellFormed) (hpath : ∀ k ∈ path, k.WellFormed)
    (hk : k.WellFormed) (h : root.updatePath (path ++ [k]) v = .ok w) :
    ∃ es, root.readPath path = .ok (.map es) ∧ MapsAlong root path ∧
      w.updatePath (path ++ [k]) (Entries.get es k) =
        root.updatePath path (.map (if v.isVoid then Entries.toEnd es k else es)) := by
  have hmaps : MapsAlong root (path ++ [k]) := updatePath_isOk_iff.1 ⟨w, h⟩
  obtain ⟨es, hread⟩ := hmaps path k [] rfl
  have hmaps : MapsAlong root path := fun p k' q hp =>
    hmaps p k' (q ++ [k]) (by rw [hp, List.append_assoc, List.cons_append])
  have hes : WellFormed (.map es) := closed_wellFormed.readPath hroot hread
  have hone : ∀ (fs : Entries) u, (map fs).updatePath [k] u = .ok (map (Entries.store fs k u)) :=
    fun fs u => by rw [updatePath_map_cons, updatePath_nil]; rfl
  rw [updatePath_append hmaps hread, hone] at h
  have hcontainer : w.readPath path = .ok (.map (Entries.store es k v)) :=
    readPath_updatePath hroot hpath h
  -- The container is a map in any case, so what is stored in its place next is all that counts.
  have hagain : ∀ u, w.updatePath path u = root.updatePath path u := fun u =>
    updatePath_updatePath hroot hpath (fun hvoid => by cases hvoid) h
  have hmaps' : MapsAlong w path := by
    rw [← updatePath_isOk_iff (v := .void), hagain, updatePath_isOk_iff]
    exact hmaps
  refine ⟨es, hread, hmaps, ?_⟩
  rw [updatePath_append hmaps' hcontainer, hone, ← Entries.store_store_get hes hk]
  exact hagain _

/-- To store another map in the place of one changes the value. -/
theorem updatePath_eq_self_iff (hroot : root.WellFormed) (hpath : ∀ k ∈ path, k.WellFormed)
    (hmaps : MapsAlong root path) (h : root.readPath path = .ok (.map es)) (fs : Entries) :
    root.updatePath path (.map fs) = .ok root ↔ fs = es := by
  constructor
  · intro hsame
    have hfs := readPath_updatePath hroot hpath hsame
    rw [h] at hfs
    exact (Value.map.inj (Except.ok.inj hfs)).symm
  · rintro rfl
    exact updatePath_readPath hroot hmaps h

/-- What was held at the end of a path can be stored back after something else has been stored
    there. This gives the value that was there before, unless void was stored at a key whose
    entry was not the last of its container or stood there under another key, equal to this
    one; and it gives one that is alike in any case. -/
theorem exists_updatePath_back (hroot : root.WellFormed) (hpath : ∀ k ∈ path, k.WellFormed)
    (hk : k.WellFormed) (h : root.updatePath (path ++ [k]) v = .ok w) :
    ∃ es restored, root.readPath path = .ok (.map es) ∧
      w.updatePath (path ++ [k]) (Entries.get es k) = .ok restored ∧
      root.updatePath path (.map (if v.isVoid then Entries.toEnd es k else es)) = .ok restored ∧
      restored.Alike root ∧
      (restored = root ↔
        v ≠ .void ∨ Entries.get? es k = none ∨ ∃ l old, es = l ++ [(k, old)]) := by
  obtain ⟨es, hread, hmaps, hback⟩ := updatePath_back hroot hpath hk h
  obtain ⟨restored, hstored⟩ : ∃ r, root.updatePath path
      (.map (if v.isVoid then Entries.toEnd es k else es)) = .ok r := updatePath_isOk_iff.2 hmaps
  refine ⟨es, restored, hread, hback.trans hstored, hstored, ?_⟩
  -- The value is the same if the container holds the same entries.
  have hsame := updatePath_eq_self_iff hroot hpath hmaps hread
    (if v.isVoid then Entries.toEnd es k else es)
  rw [hstored, Except.ok.injEq] at hsame
  by_cases hvoid : v = .void
  · obtain ⟨u, hu, halike⟩ := updatePath_restore hroot hpath hk (hvoid ▸ .void) h hread rfl
    obtain rfl : u = restored := Except.ok.inj (hu.symm.trans (hback.trans hstored))
    have hes : WellFormed (.map es) := closed_wellFormed.readPath hroot hread
    rw [if_pos (isVoid_eq_true_iff.2 hvoid), Entries.toEnd_eq_self_iff hes] at hsame
    exact ⟨halike, hsame.trans ⟨.inr, fun h => h.resolve_left fun hne => hne hvoid⟩⟩
  · rw [if_neg fun h => hvoid (isVoid_eq_true_iff.1 h)] at hsame
    obtain rfl := hsame.2 rfl
    exact ⟨.refl _, iff_of_true rfl (.inl hvoid)⟩

end Retrace.Value
