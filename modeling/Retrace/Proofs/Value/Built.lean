import Retrace.Proofs.Discipline
import Retrace.Proofs.Value.Order
import Mathlib.Data.List.Find

/-!
# Values that are built

A map comes into being in two ways: it is made of a list of entries (`Entries.ofList`), or
by storing in a map that is there (`Entries.store`). A value is *built* if every map in it,
in keys as well as in values and at any depth, came into being so (`Value.Built`). The
values that are built are the well-formed ones, and no others
(`Value.built_iff_wellFormed`).

Among them equality is an equivalence relation that keeps the kinds apart
(`Value.Built.equals_equivalence`), and maps are finite maps up to equality of keys, with
their entries in the order of insertion (`Value.Built.orderedMap`).
-/

namespace Retrace

/-- Every map in the value, at any depth, came into being by the operations on maps. -/
inductive Value.Built : Value → Prop
  | void : Built .void
  | bool (b : Bool) : Built (.bool b)
  | str (s : String) : Built (.str s)
  | int (n : Int64) : Built (.int n)
  | rational (x : Float) : Built (.rational x)
  /-- A map that is made of a list of entries. -/
  | ofList {es : List (Value × Value)} : (∀ e ∈ es, Built e.1) → (∀ e ∈ es, Built e.2) →
      Built (.map (Entries.ofList es))
  /-- A map in which something has been stored. -/
  | store {es : List (Value × Value)} {k v : Value} : Built (.map es) → Built k → Built v →
      Built (.map (Entries.store es k v))
  | function (f : Function) : Built (.function f)
  | native (f : NativeFunction) : Built (.native f)
  | pair {i v : Value} : Built i → Built v → Built (.pair i v)

namespace Value

/-- What is made of well-formed values is well-formed. -/
theorem closed_wellFormed : Closed WellFormed :=
  (Discipline.sound (fun _ => True) fun _ _ _ => trivial).closed

theorem Built.wellFormed {v : Value} (h : v.Built) : v.WellFormed := by
  induction h with
  | void => exact .void
  | bool b => exact .bool b
  | str s => exact .str s
  | int n => exact .int n
  | rational x => exact .rational x
  | ofList _ _ hk hv => exact closed_wellFormed.ofList fun e he => ⟨hk e he, hv e he⟩
  | store _ _ _ hes hk hv => exact hes.store hk hv
  | function f => exact .function fun _ _ => trivial
  | native f => exact .native f
  | pair _ _ hi hv => exact .pair hi hv

theorem Built.nil : Built (.map []) :=
  .ofList (List.forall_mem_nil _) (List.forall_mem_nil _)

/-- The values that are built are the well-formed ones. -/
theorem built_iff_wellFormed {v : Value} : v.Built ↔ v.WellFormed := by
  refine ⟨Built.wellFormed, fun h => ?_⟩
  induction h with
  | void => exact .void
  | bool b => exact .bool b
  | str s => exact .str s
  | int n => exact .int n
  | rational x => exact .rational x
  | map hd hf _ _ hk hv =>
    -- A well-formed map is made of the list of its own entries.
    rw [← Entries.ofList_eq_self hd hf]
    exact .ofList hk hv
  | @function f _ => exact .function f
  | native f => exact .native f
  | pair _ _ hi hv => exact .pair hi hv

/-! ### Equality -/

/-- Values that are equal are of one kind. -/
theorem kind_eq_of_equals {v w : Value} (h : v.equals w) : v.kind = w.kind := by
  fun_cases equals v w with
  | case10 => simp [equals] at h
  | _ => rfl

theorem equals_comm {v w : Value} (hv : v.WellFormed) (hw : w.WellFormed) :
    v.equals w = w.equals v :=
  Bool.eq_iff_iff.2 ⟨equivOn_wellFormed.symm hv hw, equivOn_wellFormed.symm hw hv⟩

/-- Maps are equal if they have as many entries, and an equal value is found in the second
    map at each key of the first. -/
theorem equals_map_eq_all {as bs : Entries} (has : WellFormed (.map as))
    (hbs : WellFormed (.map bs)) :
    (map as).equals (map bs) =
      (as.length == bs.length && as.all fun e => (Entries.get? bs e.1).any (e.2.equals ·)) := by
  have hwithin : Entries.within as bs =
      as.all fun e => (Entries.get? bs e.1).any (e.2.equals ·) := by
    rw [Bool.eq_iff_iff, Entries.within_iff_forall_find?, List.all_eq_true]
    refine forall₂_congr fun e he => ?_
    -- It is the same which of the two keys is compared with the other.
    have hfind : bs.find? (fun f => e.1.equals f.1) = bs.find? (fun f => f.1.equals e.1) :=
      List.find?_congr fun f hf => equals_comm (has.key he) (hbs.key hf)
    rw [hfind, Entries.get?]
    cases bs.find? (fun f => f.1.equals e.1) <;> simp
  rw [equals, hwithin]

/-- On the values that are built equality is an equivalence relation, and values of different
    kinds are never equal. -/
theorem Built.equals_equivalence :
    Equivalence (fun v w : { v : Value // v.Built } => v.1.equals w.1 = true) ∧
      ∀ v w : Value, v.kind ≠ w.kind → v.equals w = false := by
  refine ⟨⟨fun v => ?_, fun {v w} h => ?_, fun {u v w} h h' => ?_⟩, fun v w hkind => ?_⟩
  · exact equivOn_wellFormed.refl v.2.wellFormed
  · exact equivOn_wellFormed.symm v.2.wellFormed w.2.wellFormed h
  · exact equivOn_wellFormed.trans u.2.wellFormed v.2.wellFormed w.2.wellFormed h h'
  · exact Bool.eq_false_iff.2 fun h => hkind (kind_eq_of_equals h)

/-- The order of entries makes no difference, be it in a key; nor does the sign of a zero. -/
theorem Built.equals_equivalence_nested :
    let key := map (Entries.ofList [(.int 1, .rational 0.0), (.int 2, .bool true)])
    let key' := map (Entries.ofList [(.int 2, .bool true), (.int 1, .rational (-0.0))])
    let v := map (Entries.ofList [(.rational (0.0 / 0.0), .str "undefined"), (key, .int 1)])
    let w := map (Entries.ofList [(key', .int 1), (.rational (0.0 / 0.0), .str "undefined")])
    v.equals v ∧ v.equals w ∧ w.equals v ∧ v.kind ≠ .rational ∧
      v.equals (.rational 1.0) = false := by
  intro key key' v w
  have hkey : key.Built := .store (.store .nil (.int 1) (.rational _)) (.int 2) (.bool true)
  have hkey' : key'.Built := .store (.store .nil (.int 2) (.bool true)) (.int 1) (.rational _)
  have hv : v.Built := .store (.store .nil (.rational _) (.str _)) hkey (.int 1)
  have hw : w.Built := .store (.store .nil hkey' (.int 1)) (.rational _) (.str _)
  have h : v.equals w := by decide +kernel
  have hkind : v.kind ≠ .rational := by decide
  exact ⟨equals_equivalence.1.refl ⟨v, hv⟩, h,
    equals_equivalence.1.symm (x := ⟨v, hv⟩) (y := ⟨w, hw⟩) h, hkind,
    equals_equivalence.2 v (.rational 1.0) hkind⟩

end Value

/-! ### Maps -/

namespace Entries

/-- The laws of a finite map with its entries in the order of insertion, where equal keys are
    the same. -/
structure OrderedMap (es : Entries) : Prop where
  /-- No two keys are equal. -/
  distinct : es.Pairwise fun e f => ¬e.1.equals f.1 ∧ ¬f.1.equals e.1
  /-- Nothing that is stored is void. -/
  filled : ∀ e ∈ es, e.2 ≠ .void
  /-- The same is found at equal keys. -/
  congr : ∀ k k', k.Built → k'.Built → k.equals k' → get? es k = get? es k'
  /-- Storing changes what is found at the keys equal to the one stored at, and at no other;
      at these there is nothing any more if void is stored. -/
  found : ∀ k v k', k.Built → k'.Built → get? (store es k v) k' =
    if k'.equals k then (if v.isVoid then none else some v) else get? es k'
  /-- The entry of a key that is there stays in its place, under the key it has. Void takes it
      out, and no other one. -/
  present : ∀ k old, get? es k = some old → ∃ l key r, es = l ++ (key, old) :: r ∧
    key.equals k ∧ ∀ v, store es k v = if v.isVoid then l ++ r else l ++ (key, v) :: r
  /-- A key that is not there comes last. There is nothing to take out for void. -/
  absent : ∀ k, get? es k = none → ∀ v, store es k v = if v.isVoid then es else es ++ [(k, v)]
  /-- The entries at other keys stay, in their order. -/
  others : ∀ k v, k.Built →
    (store es k v).filter (fun e => !e.1.equals k) = es.filter (fun e => !e.1.equals k)

end Entries

/-- A map that is built is an ordered map, and one that is made of a list holds at each key
    what the list gives it last, unless this is void. -/
theorem Value.Built.orderedMap {es : Entries} (h : (Value.map es).Built) :
    es.OrderedMap ∧ ∀ fs : List (Value × Value), (∀ e ∈ fs, e.1.Built ∧ e.2.Built) →
      ∀ k, k.Built →
        Entries.get? (Entries.ofList fs) k = (Entries.lastGiven fs k).filter (!·.isVoid) := by
  have hes := h.wellFormed
  have hkeys : ∀ e ∈ es, e.1.WellFormed := fun e he => hes.key he
  refine ⟨⟨?_, hes.filled, fun k k' hk hk' => ?_, fun k v k' hk hk' => ?_,
    fun k old => Entries.store_of_get?_eq_some, fun k => Entries.store_of_get?_eq_none,
    fun k v hk => Entries.filter_store hk.wellFormed⟩, fun fs hfs k hk => ?_⟩
  · refine List.Pairwise.imp_of_mem (fun {e f} he hf hne => ⟨hne, ?_⟩) hes.distinct
    rwa [equals_comm (hkeys f hf) (hkeys e he)]
  · exact Entries.get?_congr hkeys hk.wellFormed hk'.wellFormed
  · rw [Entries.get?_store hkeys hk.wellFormed hk'.wellFormed hes.distinct,
      equals_comm hk.wellFormed hk'.wellFormed]
  · exact Entries.get?_ofList (fun e he => (hfs e he).imp Built.wellFormed Built.wellFormed)
      hk.wellFormed

/-- The two zeros are one key: what is stored at the one is found at the other, and taken out
    there. -/
theorem Value.Built.orderedMap_zeros :
    let fs : List (Value × Value) := [(.rational 0.0, .int 1), (.str "x", .int 2),
      (.rational (-0.0), .int 3)]
    Entries.get? (Entries.ofList fs) (.rational (-0.0)) =
        Entries.get? (Entries.ofList fs) (.rational 0.0) ∧
      Entries.get? (Entries.ofList fs) (.rational 0.0) = some (.int 3) ∧
      Entries.get? (Entries.store (Entries.ofList fs) (.rational (-0.0)) .void)
        (.rational 0.0) = none := by
  intro fs
  have hfs : ∀ e ∈ fs, e.1.Built ∧ e.2.Built := by
    simp only [fs, List.forall_mem_cons]
    exact ⟨⟨.rational _, .int 1⟩, ⟨.str "x", .int 2⟩, ⟨.rational _, .int 3⟩,
      List.forall_mem_nil _⟩
  have hes : (Value.map (Entries.ofList fs)).Built :=
    .ofList (fun e he => (hfs e he).1) fun e he => (hfs e he).2
  have hzero : (Value.rational 0.0).equals (.rational (-0.0)) := by decide +kernel
  have hlast : Entries.lastGiven fs (.rational 0.0) = some (.int 3) := by rfl
  obtain ⟨hmap, hlist⟩ := hes.orderedMap
  refine ⟨hmap.congr _ _ (.rational _) (.rational _) (by decide +kernel), ?_, ?_⟩
  · rw [hlist fs hfs _ (.rational _), hlast]
    rfl
  · rw [hmap.found _ _ _ (.rational _) (.rational _), if_pos hzero]
    rfl

end Retrace
