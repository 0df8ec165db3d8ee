import Retrace.Proofs.Compounding
import Retrace.Proofs.Value.Built
import Retrace.Proofs.Value.Integers
import Mathlib.Algebra.Group.Nat.Defs
import Mathlib.Data.List.Induction

/-!
# Quotations

Truth values, strings and integers have literals, and maps made of them have map literals: such
a value is a *datum* (`Value.Datum`), and the expression that writes it down is its *quotation*
(`Value.quote`). Evaluating the quotation gives the datum back, with the entries of all maps in
the same order, and changes nothing (`Value.quote_yields`).

Two things go into this. An integer is written with its decimal digits, and these are read as
the integer again, whatever its sign (`Numeral.integer?_toString`). And a map literal stores
the entries one after the other, which could drop some of them; but of the entries that a map
has no two have equal keys and none holds void, so they are all kept (`Entries.ofList_eq_self`).
-/

namespace Retrace

/-! ### The numerals of integers -/

namespace Decimal.Numeral

theorem natural?_toDigits (n : Nat) : natural? (Nat.toDigits 10 n) = some n := by
  have hdigits : (Nat.toDigits 10 n).all Char.isDigit :=
    List.all_eq_true.2 fun _ => Nat.isDigit_of_mem_toDigits (by decide) (by decide)
  have hne : (Nat.toDigits 10 n).isEmpty = false :=
    Bool.eq_false_iff.2 fun h => Nat.toDigits_ne_nil (List.isEmpty_iff.1 h)
  rw [natural?, hdigits, hne, ofDigits, ← Nat.ofDigitChars_eq_foldl, Nat.ofDigitChars_ten_toDigits]
  rfl

/-- Digits begin with no sign. -/
theorem signed_toDigits (n : Nat) :
    signed (Nat.toDigits 10 n) = (false, Nat.toDigits 10 n) := by
  have hdigits : ∀ c ∈ Nat.toDigits 10 n, c.isDigit := fun _ =>
    Nat.isDigit_of_mem_toDigits (by decide) (by decide)
  rw [signed.eq_def]
  split
  · rename_i h
    exact absurd (hdigits '-' (h ▸ List.mem_cons_self)) (by decide)
  · rename_i h
    exact absurd (hdigits '+' (h ▸ List.mem_cons_self)) (by decide)
  · rfl

/-- The decimal digits of an integer are read as that integer. -/
theorem integer?_toString (n : Int) : integer? (toString n).toList = some n := by
  cases n with
  | ofNat n =>
    have htext : (toString (Int.ofNat n)).toList = Nat.toDigits 10 n := by
      change n.repr.toList = _
      rw [Nat.repr_eq_ofList_toDigits, String.toList_ofList]
    rw [htext, integer?, signed_toDigits]
    simp [natural?_toDigits]
  | negSucc n =>
    have htext : (toString (Int.negSucc n)).toList = '-' :: Nat.toDigits 10 (n + 1) := by
      change ("-" ++ (n + 1).repr).toList = _
      rw [Nat.repr_eq_ofList_toDigits, String.toList_append, String.toList_ofList]
      simp
    rw [htext, integer?, signed]
    simp [natural?_toDigits, Int.negSucc_eq]

end Decimal.Numeral

/-- The literal for an integer denotes it. -/
theorem Value.ofLiteral_int (n : Int64) : ofLiteral .int (toString n.toInt) = .ok (.int n) := by
  simp only [ofLiteral, Decimal.Numeral.integer?_toString, Option.bind_some, word?_toInt]

/-! ### Lists of items -/

theorem Value.equals_int (a b : Int64) : (int a).equals (int b) ↔ a = b := by
  rw [equals, beq_iff_eq]

/-- Positions are different words. -/
theorem Int64.eq_of_ofNat_eq {i j : Nat} (hi : i < 2 ^ 64) (hj : j < 2 ^ 64)
    (h : Int64.ofNat i = Int64.ofNat j) : i = j := by
  have hbits : i % 2 ^ 64 = j % 2 ^ 64 := congrArg (fun w : Int64 => w.toBitVec.toNat) h
  rwa [Nat.mod_eq_of_lt hi, Nat.mod_eq_of_lt hj] at hbits

namespace Entries

variable {es : List (Value × Value)} {e : Value × Value} {k v : Value} {vs : List Value}

/-- Storing brings in no key and no value but those that are stored. -/
theorem exists_of_mem_store (h : e ∈ store es k v) :
    (e.1 = k ∨ ∃ f ∈ es, f.1 = e.1) ∧ (e.2 = v ∨ ∃ f ∈ es, f.2 = e.2) := by
  rw [store] at h
  split at h
  · have hmem := mem_of_mem_erase h
    exact ⟨.inr ⟨e, hmem, rfl⟩, .inr ⟨e, hmem, rfl⟩⟩
  · rcases mem_insert h with hmem | ⟨hv, hk | ⟨f, hf, hk⟩⟩
    · exact ⟨.inr ⟨e, hmem, rfl⟩, .inr ⟨e, hmem, rfl⟩⟩
    · exact ⟨.inl hk, .inl hv⟩
    · exact ⟨.inr ⟨f, hf, hk.symm⟩, .inl hv⟩

/-- The keys and the values of a map that is made of a list are keys and values there, though
    perhaps not of one entry. -/
theorem exists_of_mem_ofList (h : e ∈ ofList es) :
    (∃ f ∈ es, f.1 = e.1) ∧ ∃ f ∈ es, f.2 = e.2 := by
  induction es using List.reverseRecOn generalizing e with
  | nil => exact absurd h List.not_mem_nil
  | append_singleton es f ih =>
    have hstore : ofList (es ++ [f]) = store (ofList es) f.1 f.2 := by
      rw [ofList, List.foldl_concat, ofList]
    have hlast : f ∈ es ++ [f] := List.mem_append_right _ (List.mem_singleton_self f)
    obtain ⟨hk, hv⟩ := exists_of_mem_store (hstore ▸ h)
    constructor
    · rcases hk with hk | ⟨g, hg, hk⟩
      · exact ⟨f, hlast, hk.symm⟩
      · obtain ⟨⟨g', hg', hk'⟩, -⟩ := ih hg
        exact ⟨g', List.mem_append_left _ hg', hk'.trans hk⟩
    · rcases hv with hv | ⟨g, hg, hv⟩
      · exact ⟨f, hlast, hv.symm⟩
      · obtain ⟨-, g', hg', hv'⟩ := ih hg
        exact ⟨g', List.mem_append_left _ hg', hv'.trans hv⟩

/-- The items with their positions for keys, in their order. -/
def numbered (vs : List Value) : Entries :=
  vs.zipIdx.map fun p => (.int (Int64.ofNat p.2), p.1)

theorem distinct_numbered (hlen : vs.length ≤ 2 ^ 64) : (numbered vs).Distinct := by
  rw [Distinct, numbered, List.pairwise_map, List.pairwise_iff_getElem]
  intro i j hi hj hlt
  rw [List.length_zipIdx] at hi hj
  rw [List.getElem_zipIdx, List.getElem_zipIdx, Value.equals_int]
  intro h
  have := Int64.eq_of_ofNat_eq (by omega) (by omega) h
  omega

/-- A list of items holds them all, unless one is void. -/
theorem ofItems_eq (hlen : vs.length ≤ 2 ^ 64) (hvs : ∀ v ∈ vs, v ≠ .void) :
    ofItems vs = numbered vs := by
  refine ofList_eq_self (distinct_numbered hlen) fun e he => ?_
  obtain ⟨p, hp, rfl⟩ := List.mem_map.1 he
  exact hvs _ (List.fst_mem_of_mem_zipIdx hp)

/-- At each position stands its item. -/
theorem get?_numbered (hlen : vs.length ≤ 2 ^ 64) {i : Nat} {n : Int64} (hn : n.toInt = i)
    (hv : vs[i]? = some v) : get? (numbered vs) (.int n) = some v := by
  have hi : n = Int64.ofNat i := by
    rw [← Int64.ofInt_toInt n, hn]
    rfl
  have hkeys : ∀ e ∈ numbered vs, e.1.WellFormed := by
    intro e he
    obtain ⟨p, -, rfl⟩ := List.mem_map.1 he
    exact .int _
  refine get?_of_mem (e := (.int n, v)) hkeys (distinct_numbered hlen) ?_
  exact List.mem_map.2 ⟨(v, i), List.mem_zipIdx_iff_getElem?.2 hv, by rw [hi]⟩

end Entries

/-! ### Data -/

namespace Value

/-- The values made of truth values, strings and integers by making maps of lists of entries. -/
inductive Datum : Value → Prop
  | bool (b : Bool) : Datum (.bool b)
  | str (s : String) : Datum (.str s)
  | int (n : Int64) : Datum (.int n)
  | map {es : List (Value × Value)} : (∀ e ∈ es, Datum e.1) → (∀ e ∈ es, Datum e.2) →
      Datum (.map (Entries.ofList es))

theorem Datum.built {v : Value} (h : v.Datum) : v.Built := by
  induction h with
  | bool b => exact .bool b
  | str s => exact .str s
  | int n => exact .int n
  | map _ _ hk hv => exact .ofList hk hv

theorem Datum.ne_void {v : Value} (h : v.Datum) : v ≠ .void := by
  rintro rfl
  cases h

end Value

mutual

/-- The expression that writes a datum down. The other values have none, and get a list without
    items. -/
def Value.quote : Value → Expr
  | .bool b => .ofBool b
  | .str s => .ofString s
  | .int n => .ofInt n
  | .map es => .map (Entries.quotes es)
  | _ => .list []

/-- The expressions that write the entries of a map down, in their order. -/
def Entries.quotes : List (Value × Value) → List (Expr × Expr)
  | [] => []
  | (k, v) :: es => (k.quote, v.quote) :: Entries.quotes es

end

section Evaluation

variable {host : Host} {m : Machine}

theorem Value.yields_quotes {vs : List Value}
    (h : ∀ v ∈ vs, Yields (fun fuel => (evaluator host fuel).eval v.quote) m (.ok v)) :
    Yields (fun fuel => (evaluator host fuel).evalAll (vs.map quote)) m (.ok vs) := by
  induction vs with
  | nil => exact .pure [] m
  | cons v vs ih =>
    obtain ⟨hv, hvs⟩ := List.forall_mem_cons.1 h
    exact hv.bind fun w _ => (ih hvs).bind fun ws _ => .pure (w :: ws) m

theorem Entries.yields_quotes {es : Entries}
    (hkey : ∀ e ∈ es, Yields (fun fuel => (evaluator host fuel).eval e.1.quote) m (.ok e.1))
    (hvalue : ∀ e ∈ es, Yields (fun fuel => (evaluator host fuel).eval e.2.quote) m (.ok e.2)) :
    Yields (fun fuel => (evaluator host fuel).evalEntries (quotes es)) m (.ok es) := by
  induction es with
  | nil => exact .pure [] m
  | cons e es ih =>
    obtain ⟨hk, hkeys⟩ := List.forall_mem_cons.1 hkey
    obtain ⟨hv, hvalues⟩ := List.forall_mem_cons.1 hvalue
    exact hk.bind fun k _ => hv.bind fun v _ => (ih hkeys hvalues).bind fun rest _ =>
      .pure ((k, v) :: rest) m

/-- The quotation of a datum yields it. -/
theorem Value.Datum.yields {v : Value} (h : v.Datum) (host : Host) (m : Machine) :
    Yields (fun fuel => (evaluator host fuel).eval v.quote) m (.ok v) := by
  induction h with
  | bool b =>
    rw [quote]
    cases b with
    | true => exact .eval (.ofExcept (ofLiteral .truth "true") m)
    | false => exact .eval (.ofExcept (ofLiteral .falsity "false") m)
  | str s =>
    rw [quote]
    exact .eval (.ofExcept (ofLiteral .str s) m)
  | int n =>
    rw [quote, ← ofLiteral_int]
    exact .eval (.ofExcept (ofLiteral .int (toString n.toInt)) m)
  | @map es hkey hvalue hk hv =>
    have hmap : (Value.map (Entries.ofList es)).WellFormed :=
      (Datum.map hkey hvalue).built.wellFormed
    have hentries : Yields
        (fun fuel => (evaluator host fuel).evalEntries (Entries.quotes (Entries.ofList es))) m
        (.ok (Entries.ofList es)) := by
      refine Entries.yields_quotes (fun e he => ?_) fun e he => ?_
      · obtain ⟨⟨f, hf, hfe⟩, -⟩ := Entries.exists_of_mem_ofList he
        exact hfe ▸ hk f hf
      · obtain ⟨-, f, hf, hfe⟩ := Entries.exists_of_mem_ofList he
        exact hfe ▸ hv f hf
    -- The entries are stored once more, which drops none of them.
    have hyields := hentries.bind fun fs _ => .pure (Value.map (Entries.ofList fs)) m
    have hself := Entries.ofList_eq_self hmap.distinct hmap.filled
    change Yields _ m (.ok (Value.map (Entries.ofList (Entries.ofList es)))) at hyields
    rw [hself] at hyields
    rw [quote]
    exact .eval hyields

end Evaluation

/-- Quoted data evaluates to itself, in every machine, which stays as it is. A list of quoted data
    evaluates to the map that holds them all in their order, each at its position; it is no longer
    than there are words to count the positions with. -/
theorem Value.quote_yields (host : Host) (m : Machine) :
    (∀ v : Value, v.Datum → Yields (fun fuel => (evaluator host fuel).eval v.quote) m (.ok v)) ∧
      ∀ vs : List Value, (∀ v ∈ vs, v.Datum) → vs.length ≤ 2 ^ 64 →
        Yields (fun fuel => (evaluator host fuel).eval (.list (vs.map quote))) m
            (.ok (.map (Entries.numbered vs))) ∧
          ∀ (i : Nat) (n : Int64) (v : Value), n.toInt = i → vs[i]? = some v →
            Entries.get? (Entries.numbered vs) (.int n) = some v := by
  refine ⟨fun v hv => hv.yields host m, fun vs hvs hlen => ⟨?_, fun i n v hn hv => ?_⟩⟩
  · rw [← Entries.ofItems_eq hlen fun v hv => (hvs v hv).ne_void]
    have hitems := yields_quotes fun v hv => (hvs v hv).yields host m
    exact .eval (hitems.bind fun ws _ => .pure (Value.map (Entries.ofItems ws)) m)
  · exact Entries.get?_numbered hlen hn hv

/-- A datum with a map for a key, and the least integer in it. -/
def Value.nested : Value :=
  .map (Entries.ofList [(.map (Entries.ofList [(.int Int64.minValue, .str "least")]), .bool true),
    (.str "", .int (-1))])

theorem Value.datum_nested : nested.Datum := by
  have hkey : Datum (.map (Entries.ofList [(.int Int64.minValue, .str "least")])) :=
    .map (List.forall_mem_singleton.2 (.int _)) (List.forall_mem_singleton.2 (.str _))
  refine .map ?_ ?_
  · exact List.forall_mem_cons.2 ⟨hkey, List.forall_mem_singleton.2 (.str _)⟩
  · exact List.forall_mem_cons.2 ⟨.bool _, List.forall_mem_singleton.2 (.int _)⟩

theorem Value.quote_yields_nested :
    nested.Datum ∧
      Yields (fun fuel => (evaluator .bare fuel).eval nested.quote) .bare
        (.ok nested) ∧
      Yields (fun fuel => (evaluator .bare fuel).eval (.list [nested.quote, nested.quote]))
        .bare (.ok (.map (Entries.numbered [nested, nested]))) ∧
      Entries.get? (Entries.numbered [nested, nested]) (.int 1) = some nested := by
  have hitems : ∀ v ∈ [nested, nested], v.Datum :=
    List.forall_mem_cons.2 ⟨datum_nested, List.forall_mem_singleton.2 datum_nested⟩
  obtain ⟨hdata, hlists⟩ := quote_yields .bare .bare
  obtain ⟨hlist, hget⟩ := hlists _ hitems (by decide)
  exact ⟨datum_nested, hdata _ datum_nested, hlist, hget 1 1 nested (by decide) rfl⟩

end Retrace
