import Retrace.Proofs.Value.Rational
import Mathlib.Data.List.Perm.Subperm

/-!
# Well-formed values

The operations on entries never build a map in which two keys are equal, or in
which void is stored at a key. A value in which every map is of this kind, at
any depth and in keys too, is *well-formed* (`Value.WellFormed`).

`Value.Sound p` says more: that also every function in the value has a body all
of whose statements satisfy `p`.

On well-formed values equality is an equivalence relation. It is not obvious
for maps, as there it is only checked that each entry of the one is found in the
other: that they have as many entries then does the rest, keys being found at
most once (`exists_forall₂_subperm`).
-/

namespace Retrace

/-- No two entries have equal keys. -/
def Entries.Distinct (es : Entries) : Prop :=
  es.Pairwise fun e f => ¬e.1.equals f.1

/-- No entry holds void. -/
def Entries.Filled (es : Entries) : Prop :=
  ∀ e ∈ es, e.2 ≠ .void

/-- In every map of the value the keys are distinct and nothing stored is void, and the
    statements in the body of every function satisfy `p`. -/
inductive Value.Sound (p : Stmt → Prop) : Value → Prop
  | void : Sound p .void
  | bool (b : Bool) : Sound p (.bool b)
  | str (s : String) : Sound p (.str s)
  | int (n : Int64) : Sound p (.int n)
  | rational (x : Float) : Sound p (.rational x)
  | map {es : List (Value × Value)} : Entries.Distinct es → Entries.Filled es →
      (∀ e ∈ es, Sound p e.1) → (∀ e ∈ es, Sound p e.2) → Sound p (.map es)
  | function {f : Function} : (∀ s ∈ f.body, p s) → Sound p (.function f)
  | native (f : NativeFunction) : Sound p (.native f)
  | pair {i v : Value} : Sound p i → Sound p v → Sound p (.pair i v)

/-- In every map of the value the keys are distinct and nothing stored is void. -/
abbrev Value.WellFormed : Value → Prop :=
  Value.Sound fun _ => True

theorem Value.Sound.wellFormed {p : Stmt → Prop} {v : Value} (h : v.Sound p) : v.WellFormed := by
  induction h with
  | void => exact .void
  | bool b => exact .bool b
  | str s => exact .str s
  | int n => exact .int n
  | rational x => exact .rational x
  | map hd hf _ _ hk hv => exact .map hd hf hk hv
  | function => exact .function fun _ _ => trivial
  | native f => exact .native f
  | pair _ _ hi hv => exact .pair hi hv

/-- If every element of `as` has a partner in `bs`, and different ones never the same,
    then the partners can be picked out of `bs`. -/
theorem exists_forall₂_subperm {α β : Type} {R : α → β → Prop} {as : List α} {bs : List β}
    (hex : ∀ a ∈ as, ∃ b ∈ bs, R a b)
    (hne : as.Pairwise fun a a' => ∀ b ∈ bs, R a b → ¬R a' b) :
    ∃ cs, cs.Subperm bs ∧ List.Forall₂ R as cs := by
  induction as generalizing bs with
  | nil => exact ⟨[], List.nil_subperm, .nil⟩
  | cons a as ih =>
    obtain ⟨b, hb, hab⟩ := hex a List.mem_cons_self
    obtain ⟨l, l', rfl⟩ := List.append_of_mem hb
    rw [List.pairwise_cons] at hne
    -- The others find their partners beside `b`, which is taken.
    have hex' : ∀ a' ∈ as, ∃ b' ∈ l ++ l', R a' b' := by
      intro a' ha'
      obtain ⟨b', hb', hab'⟩ := hex a' (List.mem_cons_of_mem _ ha')
      rcases List.mem_append.1 hb' with h | h
      · exact ⟨b', List.mem_append_left _ h, hab'⟩
      · rcases List.mem_cons.1 h with rfl | h
        · exact absurd hab' (hne.1 a' ha' _ hb hab)
        · exact ⟨b', List.mem_append_right _ h, hab'⟩
    have hne' : as.Pairwise fun a a' => ∀ b ∈ l ++ l', R a b → ¬R a' b := by
      refine hne.2.imp fun h b' hb' => h b' ?_
      rcases List.mem_append.1 hb' with h' | h'
      · exact List.mem_append_left _ h'
      · exact List.mem_append_right _ (List.mem_cons_of_mem _ h')
    obtain ⟨cs, hcs, hR⟩ := ih hex' hne'
    refine ⟨b :: cs, ?_, .cons hab hR⟩
    exact ((List.subperm_cons b).2 hcs).trans List.perm_middle.symm.subperm

theorem exists_mem_of_forall₂ {α β : Type} {R : α → β → Prop} {as : List α} {bs : List β}
    (h : List.Forall₂ R as bs) {b : β} (hb : b ∈ bs) : ∃ a ∈ as, R a b := by
  induction h with
  | nil => exact absurd hb List.not_mem_nil
  | cons hab _ ih =>
    rcases List.mem_cons.1 hb with rfl | hb
    · exact ⟨_, List.mem_cons_self, hab⟩
    · obtain ⟨a, ha, hR⟩ := ih hb
      exact ⟨a, List.mem_cons_of_mem _ ha, hR⟩

/-- Equality is an equivalence relation on the values of `S`. -/
structure Value.EquivOn (S : Value → Prop) : Prop where
  refl : ∀ {v}, S v → v.equals v
  symm : ∀ {v w}, S v → S w → v.equals w → w.equals v
  trans : ∀ {u v w}, S u → S v → S w → u.equals v → v.equals w → u.equals w

namespace Entries

/-- Whether the entries have equal keys and equal values. -/
def Match (e f : Value × Value) : Prop :=
  e.1.equals f.1 ∧ e.2.equals f.2

variable {S : Value → Prop} {as bs : Entries}

/-- The entry with an equal key is the one that is found. -/
theorem find?_eq_some (hS : Value.EquivOn S) (hd : Distinct bs) (hbs : ∀ e ∈ bs, S e.1)
    {k : Value} (hk : S k) {f : Value × Value} (hf : f ∈ bs) (h : k.equals f.1) :
    bs.find? (fun e => k.equals e.1) = some f := by
  induction bs with
  | nil => exact absurd hf List.not_mem_nil
  | cons e bs ih =>
    rw [Distinct, List.pairwise_cons] at hd
    by_cases he : k.equals e.1
    · rw [List.find?_cons, he]
      rcases List.mem_cons.1 hf with rfl | hf'
      · rfl
      · have hek := hS.symm hk (hbs e List.mem_cons_self) he
        exact absurd (hS.trans (hbs e List.mem_cons_self) hk (hbs f hf) hek h) (hd.1 f hf')
    · rw [List.find?_cons, Bool.eq_false_iff.2 he]
      rcases List.mem_cons.1 hf with rfl | hf'
      · exact absurd h he
      · exact ih hd.2 (fun e' he' => hbs e' (List.mem_cons_of_mem _ he')) hf'

theorem within_iff_forall_find? :
    within as bs ↔ ∀ e ∈ as, ∃ f, bs.find? (fun f => e.1.equals f.1) = some f ∧
      e.2.equals f.2 := by
  induction as with
  | nil => simp [within]
  | cons e as ih =>
    rw [within, Bool.and_eq_true, ih, List.forall_mem_cons]
    cases bs.find? (fun f => e.1.equals f.1) <;> simp

/-- The entries of the first map are found in the second. -/
theorem within_iff (hS : Value.EquivOn S) (hd : Distinct bs) (has : ∀ e ∈ as, S e.1)
    (hbs : ∀ e ∈ bs, S e.1) : within as bs ↔ ∀ e ∈ as, ∃ f ∈ bs, Match e f := by
  rw [within_iff_forall_find?]
  refine forall₂_congr fun e he => ⟨fun ⟨f, hf, hv⟩ => ?_, fun ⟨f, hf, hk, hv⟩ => ?_⟩
  · have hk := List.find?_some hf
    exact ⟨f, List.mem_of_find?_eq_some hf, hk, hv⟩
  · exact ⟨f, find?_eq_some hS hd hbs (has e he) hf hk, hv⟩

/-- Different entries of `as` match different entries. -/
theorem pairwise_not_match (hS : Value.EquivOn S) (hd : Distinct as) (has : ∀ e ∈ as, S e.1)
    (hbs : ∀ e ∈ bs, S e.1) :
    as.Pairwise fun e e' => ∀ f ∈ bs, Match e f → ¬Match e' f := by
  refine List.Pairwise.imp_of_mem (fun {e e'} he he' hne f hf h h' => hne ?_) hd
  exact hS.trans (has e he) (hbs f hf) (has e' he') h.1
    (hS.symm (has e' he') (hbs f hf) h'.1)

/-- If there are as many entries in both maps, and those of the first are found in the
    second, then those of the second are found in the first. -/
theorem exists_match_of_length_eq (hS : Value.EquivOn S) (hd : Distinct as)
    (has : ∀ e ∈ as, S e.1) (hbs : ∀ e ∈ bs, S e.1) (hlen : as.length = bs.length)
    (h : ∀ e ∈ as, ∃ f ∈ bs, Match e f) : ∀ f ∈ bs, ∃ e ∈ as, Match e f := by
  obtain ⟨cs, hcs, hR⟩ := exists_forall₂_subperm h (pairwise_not_match hS hd has hbs)
  have hperm : cs.Perm bs := hcs.perm_of_length_le (Nat.le_of_eq (hlen.symm.trans hR.length_eq))
  exact fun f hf => exists_mem_of_forall₂ hR (hperm.mem_iff.2 hf)

end Entries

namespace Value

variable {p : Stmt → Prop} {u v w : Value} {as bs : Entries}

theorem Sound.distinct (h : Sound p (.map as)) : as.Distinct := by
  cases h with
  | map hd => exact hd

theorem Sound.filled (h : Sound p (.map as)) : as.Filled := by
  cases h with
  | map _ hf => exact hf

theorem Sound.key (h : Sound p (.map as)) {e : Value × Value} (he : e ∈ as) : Sound p e.1 := by
  cases h with
  | map _ _ hk _ => exact hk e he

theorem Sound.value (h : Sound p (.map as)) {e : Value × Value} (he : e ∈ as) : Sound p e.2 := by
  cases h with
  | map _ _ _ hv => exact hv e he

theorem sizeOf_key_lt {e : Value × Value} (he : e ∈ as) : sizeOf e.1 < sizeOf (map as) := by
  have h := List.sizeOf_lt_of_mem he
  have hk : sizeOf e.1 < sizeOf e := by cases e; simp +arith
  simp only [map.sizeOf_spec]
  omega

theorem sizeOf_value_lt {e : Value × Value} (he : e ∈ as) : sizeOf e.2 < sizeOf (map as) := by
  have h := List.sizeOf_lt_of_mem he
  have hv : sizeOf e.2 < sizeOf e := by cases e; simp +arith
  simp only [map.sizeOf_spec]
  omega

/-- The well-formed values below some size. -/
def Below (n : Nat) (v : Value) : Prop :=
  v.WellFormed ∧ sizeOf v < n

theorem Below.key {n : Nat} (h : Below (n + 1) (map as)) {e : Value × Value} (he : e ∈ as) :
    Below n e.1 :=
  ⟨h.1.key he, by have := h.2; have := sizeOf_key_lt he; omega⟩

theorem Below.value {n : Nat} (h : Below (n + 1) (map as)) {e : Value × Value} (he : e ∈ as) :
    Below n e.2 :=
  ⟨h.1.value he, by have := h.2; have := sizeOf_value_lt he; omega⟩

theorem Below.pair {n : Nat} {i : Value} (h : Below (n + 1) (pair i v)) :
    Below n i ∧ Below n v := by
  obtain ⟨h, hn⟩ := h
  simp only [pair.sizeOf_spec] at hn
  cases h with
  | pair hi hv => exact ⟨⟨hi, by omega⟩, ⟨hv, by omega⟩⟩

/-- Maps are equal if they have as many entries and those of the one match those of the
    other. -/
theorem equals_map_iff {S : Value → Prop} (hS : EquivOn S) (hd : bs.Distinct)
    (has : ∀ e ∈ as, S e.1) (hbs : ∀ e ∈ bs, S e.1) :
    (map as).equals (map bs) ↔ as.length = bs.length ∧ ∀ e ∈ as, ∃ f ∈ bs, Entries.Match e f := by
  rw [equals, Bool.and_eq_true, beq_iff_eq, Entries.within_iff hS hd has hbs]

variable {n : Nat}

theorem equals_refl_below (ih : EquivOn (Below n)) (hv : Below (n + 1) v) : v.equals v := by
  cases v with
  | rational x => exact Rational.equals_refl x
  | map as =>
    rw [equals_map_iff ih hv.1.distinct (fun _ => hv.key) (fun _ => hv.key)]
    exact ⟨rfl, fun e he => ⟨e, he, ih.refl (hv.key he), ih.refl (hv.value he)⟩⟩
  | pair i v =>
    obtain ⟨hi, hv⟩ := hv.pair
    rw [equals, ih.refl hi, ih.refl hv]
    rfl
  | _ => simp [equals]

theorem equals_symm_below (ih : EquivOn (Below n)) (hv : Below (n + 1) v)
    (hw : Below (n + 1) w) (h : v.equals w) : w.equals v := by
  fun_cases equals v w with
  | case5 x y => exact Rational.equals_symm h
  | case6 as bs =>
    rw [equals_map_iff ih hw.1.distinct (fun _ => hv.key) (fun _ => hw.key)] at h
    rw [equals_map_iff ih hv.1.distinct (fun _ => hw.key) (fun _ => hv.key)]
    refine ⟨h.1.symm, fun f hf => ?_⟩
    -- That the entries are found the other way round too takes the number of them.
    obtain ⟨e, he, hk, hv'⟩ := Entries.exists_match_of_length_eq ih hv.1.distinct
      (fun _ => hv.key) (fun _ => hw.key) h.1 h.2 f hf
    exact ⟨e, he, ih.symm (hv.key he) (hw.key hf) hk, ih.symm (hv.value he) (hw.value hf) hv'⟩
  | case9 i v j w =>
    rw [equals, Bool.and_eq_true] at h ⊢
    exact ⟨ih.symm hv.pair.1 hw.pair.1 h.1, ih.symm hv.pair.2 hw.pair.2 h.2⟩
  | _ => simp_all [equals]

theorem equals_trans_below (ih : EquivOn (Below n)) (hu : Below (n + 1) u)
    (hv : Below (n + 1) v) (hw : Below (n + 1) w) (h : u.equals v) (h' : v.equals w) :
    u.equals w := by
  fun_cases equals u v with
  | case5 x y =>
    cases w with
    | rational z => exact Rational.equals_trans h h'
    | _ => simp [equals] at h'
  | case6 as bs =>
    cases w with
    | map cs =>
      rw [equals_map_iff ih hv.1.distinct (fun _ => hu.key) (fun _ => hv.key)] at h
      rw [equals_map_iff ih hw.1.distinct (fun _ => hv.key) (fun _ => hw.key)] at h'
      rw [equals_map_iff ih hw.1.distinct (fun _ => hu.key) (fun _ => hw.key)]
      refine ⟨h.1.trans h'.1, fun e he => ?_⟩
      obtain ⟨f, hf, hk, hv'⟩ := h.2 e he
      obtain ⟨g, hg, hk', hw'⟩ := h'.2 f hf
      exact ⟨g, hg, ih.trans (hu.key he) (hv.key hf) (hw.key hg) hk hk',
        ih.trans (hu.value he) (hv.value hf) (hw.value hg) hv' hw'⟩
    | _ => simp [equals] at h'
  | case9 i u j v =>
    cases w with
    | pair k w =>
      rw [equals, Bool.and_eq_true] at h h' ⊢
      exact ⟨ih.trans hu.pair.1 hv.pair.1 hw.pair.1 h.1 h'.1,
        ih.trans hu.pair.2 hv.pair.2 hw.pair.2 h.2 h'.2⟩
    | _ => simp [equals] at h'
  | _ => cases w <;> simp_all [equals]

theorem equivOn_below (n : Nat) : EquivOn (Below n) := by
  -- Keys and values are smaller than their map, so the induction is on the size.
  induction n with
  | zero => exact ⟨fun h => absurd h.2 (Nat.not_lt_zero _),
      fun h => absurd h.2 (Nat.not_lt_zero _), fun h => absurd h.2 (Nat.not_lt_zero _)⟩
  | succ n ih => exact ⟨equals_refl_below ih, equals_symm_below ih, equals_trans_below ih⟩

/-- Equality is an equivalence relation on the well-formed values. -/
theorem equivOn_wellFormed : EquivOn WellFormed where
  refl {v} hv := (equivOn_below (sizeOf v + 1)).refl ⟨hv, Nat.lt_succ_self _⟩
  symm {v w} hv hw :=
    (equivOn_below (sizeOf v + sizeOf w + 1)).symm ⟨hv, by omega⟩ ⟨hw, by omega⟩
  trans {u v w} hu hv hw :=
    (equivOn_below (sizeOf u + sizeOf v + sizeOf w + 1)).trans ⟨hu, by omega⟩ ⟨hv, by omega⟩
      ⟨hw, by omega⟩

end Value

end Retrace
