import Retrace.Proofs.Value.Alike
import Retrace.Proofs.Value.Atoms

/-!
# What values pass on

A property of values is *closed* (`Value.Closed`) if it holds of values without
parts, and what is made of values that have it has it too, and so do their parts.
Then it is kept by whatever evaluation does to values: building maps, reading and
storing along paths.

For any property of functions, to hold no other ones is closed
(`Value.closed_holds`), where a value *holds* the functions that it is made of
(`Value.Holds`).
-/

namespace Retrace.Value

/-- Whether values of values have the property if these do, and the other way around. -/
structure Closed (P : Value → Prop) : Prop where
  atom : ∀ {v : Value}, v.isAtom → P v
  native : ∀ f, P (.native f)
  pair : ∀ {i v : Value}, P (.pair i v) ↔ P i ∧ P v
  nil : P (.map [])
  store : ∀ {es : Entries} {k v : Value}, P (.map es) → P k → P v →
    P (.map (Entries.store es k v))
  get : ∀ {es : Entries} (k : Value), P (.map es) → P (Entries.get es k)

namespace Closed

variable {P : Value → Prop} (hP : Closed P) {a k v w root : Value} {path : List Value}
include hP

theorem ofList {es : List (Value × Value)} (h : ∀ e ∈ es, P e.1 ∧ P e.2) :
    P (.map (Entries.ofList es)) := by
  rw [Entries.ofList]
  have hnil := hP.nil
  -- The fold begins with the empty map, but the induction needs any map.
  generalize ([] : Entries) = fs at hnil
  induction es generalizing fs with
  | nil => exact hnil
  | cons e es ih =>
    obtain ⟨hk, hv⟩ := h e List.mem_cons_self
    exact ih (fun e he => h e (List.mem_cons_of_mem _ he)) _ (hP.store hnil hk hv)

theorem ofItems {vs : List Value} (h : ∀ v ∈ vs, P v) : P (.map (Entries.ofItems vs)) := by
  refine hP.ofList fun e he => ?_
  obtain ⟨p, hp, rfl⟩ := List.mem_map.1 he
  exact ⟨hP.atom rfl, h p.1 (List.fst_mem_of_mem_zipIdx hp)⟩

theorem index (ha : P a) (h : a.index k = .ok v) : P v := by
  rw [Value.index.eq_def] at h
  split at h
  · exact Except.ok.inj h ▸ hP.get k ha
  · split at h
    · exact Except.ok.inj h ▸ hP.atom (isAtom_charAt _ _)
    · exact absurd h (by simp)
  · exact absurd h (by simp)

theorem field {name : String} (ha : P a) (h : a.field name = .ok v) : P v := by
  rw [Value.field.eq_def] at h
  split at h
  · exact Except.ok.inj h ▸ hP.get _ ha
  · exact absurd h (by simp)

theorem readPath (hroot : P root) (h : root.readPath path = .ok v) : P v := by
  induction path generalizing root with
  | nil =>
    rw [Value.readPath] at h
    exact Except.ok.inj h ▸ hroot
  | cons k path ih =>
    rw [readPath_cons] at h
    cases hk : root.index k with
    | error e => simp [hk, Except.bind] at h
    | ok child =>
      rw [hk] at h
      exact ih (hP.index hroot hk) h

theorem updatePath (hroot : P root) (hpath : ∀ k ∈ path, P k) (hv : P v)
    (h : root.updatePath path v = .ok w) : P w := by
  induction path generalizing root w with
  | nil =>
    rw [updatePath_nil] at h
    exact Except.ok.inj h ▸ hv
  | cons k path ih =>
    obtain ⟨es, child, rfl, hc, rfl⟩ := exists_of_updatePath_cons h
    have hchild := ih (hP.get k hroot) (fun k' hk' => hpath k' (List.mem_cons_of_mem _ hk')) hc
    exact hP.store hroot (hpath k List.mem_cons_self) hchild

end Closed

/-! ### The functions in values -/

/-- Whether the function is the value or is in it, at any depth. -/
inductive Holds (f : Function) : Value → Prop
  | self : Holds f (.function f)
  | key {es : List (Value × Value)} {e : Value × Value} : e ∈ es → Holds f e.1 → Holds f (.map es)
  | value {es : List (Value × Value)} {e : Value × Value} : e ∈ es → Holds f e.2 → Holds f (.map es)
  | index {i v : Value} : Holds f i → Holds f (.pair i v)
  | stored {i v : Value} : Holds f v → Holds f (.pair i v)

namespace Holds

variable {f : Function} {es : Entries} {k v : Value}

theorem of_store (h : Holds f (.map (Entries.store es k v))) :
    Holds f (.map es) ∨ Holds f k ∨ Holds f v := by
  -- An entry that is found after storing was there before, or it has the value stored.
  have hkey : ∀ e ∈ Entries.store es k v, Holds f e.1 → Holds f (.map es) ∨ Holds f k := by
    intro e he hf
    rw [Entries.store] at he
    split at he
    · exact .inl (.key (Entries.mem_of_mem_erase he) hf)
    · rcases Entries.mem_insert he with he | ⟨-, hk | ⟨e', he', hk⟩⟩
      · exact .inl (.key he hf)
      · exact .inr (hk ▸ hf)
      · exact .inl (.key he' (hk ▸ hf))
  have hvalue : ∀ e ∈ Entries.store es k v, Holds f e.2 → Holds f (.map es) ∨ Holds f v := by
    intro e he hf
    rw [Entries.store] at he
    split at he
    · exact .inl (.value (Entries.mem_of_mem_erase he) hf)
    · rcases Entries.mem_insert he with he | ⟨hv, -⟩
      · exact .inl (.value he hf)
      · exact .inr (hv ▸ hf)
  cases h with
  | key he hf => exact (hkey _ he hf).imp_right .inl
  | value he hf => exact (hvalue _ he hf).imp_right .inr

theorem of_get (h : Holds f (Entries.get es k)) : Holds f (.map es) := by
  have hne : Entries.get es k ≠ .void := by
    intro hvoid
    rw [hvoid] at h
    cases h
  obtain ⟨e, he, -, hv⟩ := Entries.exists_of_get_ne_void hne
  exact .value he (hv ▸ h)

end Holds

theorem closed_holds (p : Function → Prop) : Closed fun v => ∀ f, v.Holds f → p f where
  atom {v} hv f hf := by cases hf <;> simp [isAtom] at hv
  native f g hg := by cases hg
  pair := ⟨fun h => ⟨fun f hf => h f (.index hf), fun f hf => h f (.stored hf)⟩,
    fun h f hf => by
      cases hf with
      | index hf => exact h.1 f hf
      | stored hf => exact h.2 f hf⟩
  nil f hf := by cases hf <;> contradiction
  store hes hk hv f hf := by
    rcases hf.of_store with hf | hf | hf
    · exact hes f hf
    · exact hk f hf
    · exact hv f hf
  get k hes f hf := hes f hf.of_get

/-- A function holds itself and no other one. -/
theorem holds_function {p : Function → Prop} {f : Function} :
    (∀ g, Holds g (.function f) → p g) ↔ p f :=
  ⟨fun h => h f .self, fun h g hg => by cases hg; exact h⟩

variable {p : Stmt → Prop} {v : Value}

theorem WellFormed.sound (h : v.WellFormed) (hp : ∀ f, Holds f v → ∀ s ∈ f.body, p s) :
    v.Sound p := by
  induction h with
  | void => exact .void
  | bool b => exact .bool b
  | str s => exact .str s
  | int n => exact .int n
  | rational x => exact .rational x
  | map hd hf _ _ hk hv =>
    refine .map hd hf (fun e he => hk e he fun f h => hp f (.key he h)) fun e he => ?_
    exact hv e he fun f h => hp f (.value he h)
  | function => exact .function (hp _ .self)
  | native f => exact .native f
  | pair _ _ hi hv => exact .pair (hi fun f h => hp f (.index h)) (hv fun f h => hp f (.stored h))

theorem Sound.of_holds {f : Function} (h : Holds f v) (hv : v.Sound p) : ∀ s ∈ f.body, p s := by
  induction h with
  | self =>
    cases hv with
    | function hp => exact hp
  | key he _ ih => exact ih (hv.key he)
  | value he _ ih => exact ih (hv.value he)
  | index _ ih =>
    cases hv with
    | pair hi _ => exact ih hi
  | stored _ ih =>
    cases hv with
    | pair _ hv => exact ih hv

end Retrace.Value
