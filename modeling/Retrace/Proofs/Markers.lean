import Retrace.Proofs.Frames
import Retrace.Proofs.Scopes

/-!
# A ledger in any order

A ledger may be used in a way that is not nested: skips are resolved out of turn or
twice, with markers that come from elsewhere, breadcrumbs are taken from above a
marker that is not the newest one, and markers are recorded as if they were
breadcrumbs. Then the number of open skips need not be that of the markers any
more. Still some things hold however it is used (`Ledger.Bounded`): a ledger that
holds anything counts a skip as open, so there is one to be counted off whenever a
skip is resolved, and the limit is kept.

If no markers are recorded, those in the ledger are told apart by their numbers,
which only fall from the newest to the oldest one (`Ledger.Numbered`). An operation
adds no marker but that of a skip it opens, and it has a number that there has not
been before (`Ledger.markers_perform`). So a marker that is gone stays away.
-/

namespace Retrace

/-- Which marker it is, if it is one. -/
def Breadcrumb.marker? : Breadcrumb → Option Marker
  | marker m => some m
  | _ => none

theorem Breadcrumb.marker?_eq_some_iff {c : Breadcrumb} {m : Marker} :
    c.marker? = some m ↔ c = .marker m := by
  cases c with
  | marker n => rw [marker?, Option.some.injEq, marker.injEq]
  | _ => simp [marker?]

namespace Ledger

/-- Whether what is recorded is no marker. -/
def Operation.Unmarked : Operation → Prop
  | .record c => c.isMarker = false
  | _ => True

/-- The marker of the skip that was opened, if one was. -/
def Reply.opened? : Reply Marker → Option Marker
  | opened m => some m
  | _ => none

/-- The ledger after operations on an empty one. -/
def after (limit : Nat) (ops : List Operation) : Ledger :=
  ((empty limit).performAll ops).2

/-- The markers of the skips that are opened by operations on an empty ledger. -/
def openedBy (limit : Nat) (ops : List Operation) : List Marker :=
  ((empty limit).performAll ops).1.filterMap Reply.opened?

/-- The markers in the ledger, the newest first. -/
def markers (l : Ledger) : List Marker :=
  l.crumbs.filterMap Breadcrumb.marker?

variable {l l' : Ledger} {m : Marker} {c : Breadcrumb} {op : Operation} {ops : List Operation}
  {limit : Nat} {e : Failure}

theorem mem_markers_iff : m ∈ l.markers ↔ .marker m ∈ l.crumbs := by
  simp only [markers, List.mem_filterMap, Breadcrumb.marker?_eq_some_iff, exists_eq_right]

theorem holds_iff : l.holds m ↔ m ∈ l.markers := by
  simp only [holds, List.any_eq_true, Breadcrumb.marks_iff, exists_eq_right, mem_markers_iff]

/-- The newest place where a marker stands. -/
theorem exists_split (h : l.holds m) :
    ∃ added rest, l.crumbs = added ++ .marker m :: rest ∧ ∀ c ∈ added, c.marks m = false := by
  obtain ⟨added, rest, hc, hadded⟩ := List.eq_append_cons_of_mem (mem_markers_iff.1 (holds_iff.1 h))
  refine ⟨added, rest, hc, fun c hmem => Bool.eq_false_iff.2 fun hm => hadded ?_⟩
  exact Breadcrumb.marks_iff.1 hm ▸ hmem

theorem performAll_append (l : Ledger) (ops more : List Operation) :
    (l.performAll (ops ++ more)).2 = ((l.performAll ops).2.performAll more).2 := by
  induction ops generalizing l with
  | nil => rfl
  | cons op ops ih => exact ih _

/-- Resolving a skip whose marker is not there changes nothing. -/
theorem resolve_of_not_holds (h : ¬l.holds m) : l.close m = l ∧ l.discard m = l :=
  ⟨dif_neg h, dif_neg h⟩

/-- An operation is refused only for want of room, and then it changes nothing. -/
theorem perform_refused (h : (l.perform op).1 = .refused e) :
    e = .ledgerLimitExceeded l.limit ∧ (l.perform op).2 = l := by
  cases op with
  | openSkip horizon =>
    rw [perform] at h ⊢
    cases hl : l.openSkip horizon with
    | ok p => simp [hl] at h
    | error e' =>
      simp only [hl, Reply.refused.injEq] at h
      exact ⟨h ▸ openSkip_eq_error hl, rfl⟩
  | record c =>
    rw [perform] at h ⊢
    cases hl : l.record c with
    | ok l' => simp [hl] at h
    | error e' =>
      simp only [hl, Reply.refused.injEq] at h
      exact ⟨h ▸ record_eq_error hl, rfl⟩
  | popAbove m => cases hpop : l.popAbove m <;> simp [perform, hpop] at h
  | close | discard | clear => exact absurd h (by simp [perform])

/-! ### One operation -/

/-- What an operation may do, given the reply. -/
inductive Step (l : Ledger) : Operation → Reply Marker → Ledger → Prop
  /-- A skip is opened, and its marker added. -/
  | opened {horizon : Nat} {l' : Ledger} : l.crumbs.length < l.limit →
      l'.crumbs = .marker ⟨l.nextMarker, horizon⟩ :: l.crumbs → 0 < l'.openSkips →
      l'.limit = l.limit → l'.nextMarker = l.nextMarker + 1 →
      Step l (.openSkip horizon) (.opened ⟨l.nextMarker, horizon⟩) l'
  /-- What is recorded is added. -/
  | recorded {c : Breadcrumb} {l' : Ledger} : l.crumbs.length < l.limit →
      l'.crumbs = c :: l.crumbs → 0 < l'.openSkips → l'.limit = l.limit →
      l'.nextMarker = l.nextMarker → Step l (.record c) .done l'
  /-- Nothing is added. -/
  | reduced {op : Operation} {reply : Reply Marker} {l' : Ledger} : reply.opened? = none →
      l'.crumbs.Sublist l.crumbs → (l.Tidy → l'.Tidy) → l'.limit = l.limit →
      l'.nextMarker = l.nextMarker → Step l op reply l'

theorem Step.unchanged {reply : Reply Marker} (h : reply.opened? = none) : l.Step op reply l :=
  .reduced h (.refl _) id rfl rfl

/-- A skip is resolved, and some breadcrumbs go with it, or all of them. -/
theorem Step.resolved {cs : List Breadcrumb} (hcs : cs.Sublist l.crumbs)
    (h : l'.crumbs = (if l.openSkips ≤ 1 then [] else cs) ∧ l'.openSkips = l.openSkips - 1 ∧
      l'.limit = l.limit ∧ l'.nextMarker = l.nextMarker) : l.Step op .done l' := by
  obtain ⟨hcrumbs, hopen, hlimit, hnext⟩ := h
  refine .reduced rfl ?_ (fun _ h0 => ?_) hlimit hnext
  · rw [hcrumbs]
    split
    · exact List.nil_sublist _
    · exact hcs
  · rw [hcrumbs, if_pos (by omega)]

theorem length_lt_of_append (h : l.append c = .ok l') : l.crumbs.length < l.limit := by
  rw [append] at h
  split at h
  · exact absurd h (by simp)
  · rename_i hroom
    exact l.size_eq ▸ Nat.lt_of_not_le hroom

theorem step (l : Ledger) (op : Operation) : l.Step op (l.perform op).1 (l.perform op).2 := by
  cases op with
  | openSkip horizon =>
    rw [perform]
    cases hl : l.openSkip horizon with
    | error e => exact .unchanged rfl
    | ok opened =>
      obtain ⟨m, l'⟩ := opened
      obtain ⟨l₁, hl₁, hopened⟩ := Failure.exists_of_bind hl
      obtain ⟨hcrumbs, -, hlimit, hnext⟩ := append_eq_ok hl₁
      obtain ⟨rfl, rfl⟩ := Prod.mk.inj (Except.ok.inj hopened)
      exact .opened (length_lt_of_append hl₁) hcrumbs (Nat.succ_pos _) hlimit
        (congrArg Nat.succ hnext)
  | record c =>
    rw [perform]
    cases hl : l.record c with
    | error e => exact .unchanged rfl
    | ok l' =>
      rw [record] at hl
      split at hl
      · rename_i hrecording
        obtain ⟨hcrumbs, hopen, hlimit, hnext⟩ := append_eq_ok hl
        exact .recorded (length_lt_of_append hl) hcrumbs
          (hopen.symm ▸ of_decide_eq_true hrecording) hlimit hnext
      · obtain rfl := Except.ok.inj hl
        exact .unchanged rfl
  | popAbove m =>
    rw [perform]
    cases hpop : l.popAbove m with
    | none => exact .unchanged rfl
    | some popped =>
      obtain ⟨c, l'⟩ := popped
      obtain ⟨hcrumbs, -, hopen, hlimit, hnext⟩ := popAbove_eq_some hpop
      refine .reduced rfl ?_ (fun htidy h0 => ?_) hlimit hnext
      · rw [hcrumbs]
        exact List.sublist_cons_self c l'.crumbs
      · -- Without an open skip there was nothing to be taken.
        exact absurd (hcrumbs.symm.trans (htidy (hopen.symm.trans h0))) (by simp)
  | close m =>
    rw [perform]
    by_cases hm : l.holds m
    · obtain ⟨added, rest, hcrumbs, hadded⟩ := exists_split hm
      refine .resolved ?_ (close_eq hcrumbs hadded)
      rw [hcrumbs]
      exact (List.Sublist.refl added).append (List.sublist_cons_self _ rest)
    · rw [(resolve_of_not_holds hm).1]
      exact .unchanged rfl
  | discard m =>
    rw [perform]
    by_cases hm : l.holds m
    · obtain ⟨added, rest, hcrumbs, hadded⟩ := exists_split hm
      refine .resolved ?_ (discard_eq hcrumbs hadded)
      rw [hcrumbs]
      exact (List.sublist_cons_self _ rest).trans (List.sublist_append_right _ _)
    · rw [(resolve_of_not_holds hm).2]
      exact .unchanged rfl
  | clear => exact .reduced rfl (List.nil_sublist _) (fun _ _ => rfl) rfl rfl

/-! ### Whatever is recorded -/

/-- What a ledger keeps to however it is used. -/
structure Bounded (limit : Nat) (l : Ledger) : Prop where
  tidy : l.Tidy
  limit_eq : l.limit = limit
  size : l.crumbs.length ≤ limit

namespace Bounded

theorem empty (limit : Nat) : (empty limit).Bounded limit :=
  ⟨fun _ => rfl, rfl, Nat.zero_le _⟩

theorem openSkips_pos (h : l.Bounded limit) (hcrumbs : l.crumbs ≠ []) : 0 < l.openSkips :=
  Nat.pos_of_ne_zero fun h0 => hcrumbs (h.tidy h0)

/-- One more is added where there is room and a skip is open. -/
theorem grow (h : l.Bounded limit) (hroom : l.crumbs.length < l.limit)
    (hcrumbs : l'.crumbs = c :: l.crumbs) (hopen : 0 < l'.openSkips) (hlimit : l'.limit = l.limit) :
    l'.Bounded limit where
  tidy h0 := absurd h0 (Nat.ne_of_gt hopen)
  limit_eq := hlimit.trans h.limit_eq
  size := by
    rw [hcrumbs, ← h.limit_eq]
    exact hroom

/-- Every operation keeps to it. -/
theorem step {reply : Reply Marker} (h : l.Bounded limit) (hstep : l.Step op reply l') :
    l'.Bounded limit := by
  cases hstep with
  | opened hroom hcrumbs hopen hlimit => exact h.grow hroom hcrumbs hopen hlimit
  | recorded hroom hcrumbs hopen hlimit => exact h.grow hroom hcrumbs hopen hlimit
  | reduced _ hcrumbs htidy hlimit =>
    exact ⟨htidy h.tidy, hlimit.trans h.limit_eq, Nat.le_trans hcrumbs.length_le h.size⟩

theorem performAll (h : l.Bounded limit) (ops : List Operation) :
    (l.performAll ops).2.Bounded limit := by
  induction ops generalizing l with
  | nil => exact h
  | cons op ops ih => exact ih (h.step (l.step op))

/-- When a skip is resolved, one skip fewer is open. -/
theorem openSkips_resolve (h : l.Bounded limit) (hm : l.holds m) :
    (l.close m).openSkips + 1 = l.openSkips ∧ (l.discard m).openSkips + 1 = l.openSkips := by
  obtain ⟨added, rest, hc, hadded⟩ := exists_split hm
  have hpos := h.openSkips_pos (List.ne_nil_of_mem (mem_markers_iff.1 (holds_iff.1 hm)))
  rw [(close_eq hc hadded).2.1, (discard_eq hc hadded).2.1]
  omega

end Bounded

/-! ### If no markers are recorded -/

/-- The numbers of the markers fall from the newest to the oldest one, and that of the next one
    is larger than all of them. -/
def Numbered (l : Ledger) : Prop :=
  (l.nextMarker :: l.markers.map Marker.number).Pairwise (· > ·)

/-- The only marker an operation adds is that of the skip it opens, and its number is the next
    one. -/
theorem markers_perform (hop : op.Unmarked) :
    (∃ horizon, (l.perform op).1.opened? = some ⟨l.nextMarker, horizon⟩ ∧
      (l.perform op).2.markers = ⟨l.nextMarker, horizon⟩ :: l.markers ∧
      (l.perform op).2.nextMarker = l.nextMarker + 1) ∨
    ((l.perform op).1.opened? = none ∧ (l.perform op).2.markers.Sublist l.markers ∧
      (l.perform op).2.nextMarker = l.nextMarker) := by
  have hstep := l.step op
  generalize (l.perform op).1 = reply, (l.perform op).2 = l' at hstep ⊢
  cases hstep with
  | @opened horizon _ _ hcrumbs _ _ hnext =>
    refine .inl ⟨horizon, rfl, ?_, hnext⟩
    rw [markers, hcrumbs]
    rfl
  | @recorded c _ _ hcrumbs _ _ hnext =>
    have hnone : c.marker? = none := by
      cases c with
      | marker => exact absurd hop (by simp [Operation.Unmarked, Breadcrumb.isMarker])
      | _ => rfl
    refine .inr ⟨rfl, ?_, hnext⟩
    rw [markers, hcrumbs, List.filterMap_cons_none hnone]
    exact .refl _
  | reduced hreply hcrumbs _ _ hnext => exact .inr ⟨hreply, hcrumbs.filterMap _, hnext⟩

namespace Numbered

theorem empty (limit : Nat) : (empty limit).Numbered :=
  List.pairwise_singleton _ _

theorem nodup (h : l.Numbered) : l.markers.Nodup :=
  (List.pairwise_map.1 (List.pairwise_cons.1 h).2).imp fun hlt heq =>
    absurd (congrArg Marker.number heq) (Nat.ne_of_gt hlt)

theorem perform (h : l.Numbered) (hop : op.Unmarked) : (l.perform op).2.Numbered := by
  rw [Numbered]
  rcases markers_perform (l := l) hop with ⟨horizon, -, hmarkers, hnext⟩ | ⟨-, hmarkers, hnext⟩
  · rw [hmarkers, hnext]
    refine List.pairwise_cons.2 ⟨fun n hn => ?_, h⟩
    rcases List.mem_cons.1 hn with rfl | hn
    · exact Nat.lt_succ_self _
    · exact Nat.lt_succ_of_lt ((List.pairwise_cons.1 h).1 n hn)
  · rw [hnext]
    exact h.sublist ((hmarkers.map _).cons_cons _)

theorem performAll (h : l.Numbered) (hops : ∀ op ∈ ops, op.Unmarked) :
    (l.performAll ops).2.Numbered := by
  induction ops generalizing l with
  | nil => exact h
  | cons op ops ih =>
    obtain ⟨hop, hops⟩ := List.forall_mem_cons.1 hops
    exact ih (h.perform hop) hops

/-- The marker of a skip that is resolved is gone. -/
theorem not_holds_resolve (h : l.Numbered) (m : Marker) :
    ¬(l.close m).holds m ∧ ¬(l.discard m).holds m := by
  by_cases hm : l.holds m
  · obtain ⟨added, rest, hc, hadded⟩ := exists_split hm
    -- There is no second marker like it, neither above nor below.
    have hnodup := h.nodup
    rw [markers, hc, List.filterMap_append, List.filterMap_cons] at hnodup
    obtain ⟨-, hrest, hne⟩ := List.nodup_append.1 hnodup
    have hbelow : m ∉ rest.filterMap Breadcrumb.marker? := (List.nodup_cons.1 hrest).1
    have habove : m ∉ added.filterMap Breadcrumb.marker? := fun hmem =>
      hne m hmem m List.mem_cons_self rfl
    rw [holds_iff, holds_iff, markers, markers, (close_eq hc hadded).1, (discard_eq hc hadded).1]
    split
    · exact ⟨List.not_mem_nil, List.not_mem_nil⟩
    · rw [List.filterMap_append, List.mem_append]
      exact ⟨fun hmem => hmem.elim habove hbelow, hbelow⟩
  · rw [(resolve_of_not_holds hm).1, (resolve_of_not_holds hm).2]
    exact ⟨hm, hm⟩

end Numbered

/-- No skip is opened with a marker whose number has been given already, and no marker with such
    a number comes back. -/
theorem performAll_unmarked (hops : ∀ op ∈ ops, op.Unmarked) :
    (∀ n ∈ (l.performAll ops).1.filterMap Reply.opened?,
      l.nextMarker ≤ n.number ∧ n.number < (l.performAll ops).2.nextMarker) ∧
    ((l.performAll ops).1.filterMap Reply.opened?).Nodup ∧
    l.nextMarker ≤ (l.performAll ops).2.nextMarker ∧
    ∀ n ∈ (l.performAll ops).2.markers, n.number < l.nextMarker → n ∈ l.markers := by
  induction ops generalizing l with
  | nil => exact ⟨List.forall_mem_nil _, List.nodup_nil, Nat.le_refl _, fun _ hn _ => hn⟩
  | cons op ops ih =>
    obtain ⟨hop, hops⟩ := List.forall_mem_cons.1 hops
    obtain ⟨hopened, hnodup, hnext, hmarkers⟩ := ih (l := (l.perform op).2) hops
    rw [performAll]
    rcases markers_perform (l := l) hop with ⟨horizon, hreply, hm, hn⟩ | ⟨hreply, hm, hn⟩
    · rw [hn] at hopened hnext hmarkers
      rw [List.filterMap_cons_some hreply]
      refine ⟨List.forall_mem_cons.2 ⟨⟨Nat.le_refl _, hnext⟩, fun n hmem => ?_⟩,
        List.nodup_cons.2 ⟨fun hmem => ?_, hnodup⟩, Nat.le_of_succ_le hnext, fun n hmem hlt => ?_⟩
      · exact ⟨Nat.le_of_succ_le (hopened n hmem).1, (hopened n hmem).2⟩
      · exact absurd (hopened _ hmem).1 (Nat.not_succ_le_self _)
      · have hback := hmarkers n hmem (Nat.lt_succ_of_lt hlt)
        rw [hm] at hback
        rcases List.mem_cons.1 hback with rfl | hback
        · exact absurd hlt (Nat.lt_irrefl _)
        · exact hback
    · rw [hn] at hopened hnext hmarkers
      rw [List.filterMap_cons_none hreply]
      exact ⟨hopened, hnodup, hnext, fun n hmem hlt => hm.subset (hmarkers n hmem hlt)⟩

/-- However a ledger is used: if it holds anything a skip is counted as open, so that resolving
    one never counts below zero; the limit is kept; and what is refused for want of room changes
    nothing. If no markers are recorded, moreover, every skip gets a marker that there has not
    been before, one that is resolved is gone, and resolving one that is gone changes nothing,
    however the ledger is used in between. -/
theorem safe_in_any_order (limit : Nat) (ops : List Operation) :
    ((after limit ops).crumbs ≠ [] → 0 < (after limit ops).openSkips) ∧
      (∀ m, (after limit ops).holds m →
        ((after limit ops).close m).openSkips + 1 = (after limit ops).openSkips ∧
          ((after limit ops).discard m).openSkips + 1 = (after limit ops).openSkips) ∧
      (after limit ops).crumbs.length ≤ limit ∧
      (∀ op e, ((after limit ops).perform op).1 = .refused e →
        e = .ledgerLimitExceeded limit ∧ ((after limit ops).perform op).2 = after limit ops) ∧
      ((∀ op ∈ ops, op.Unmarked) →
        (openedBy limit ops).Nodup ∧
          (∀ m, ¬((after limit ops).close m).holds m ∧ ¬((after limit ops).discard m).holds m) ∧
          ∀ m ∈ openedBy limit ops, ¬(after limit ops).holds m →
            ∀ more, (∀ op ∈ more, op.Unmarked) →
              (after limit (ops ++ more)).close m = after limit (ops ++ more) ∧
                (after limit (ops ++ more)).discard m = after limit (ops ++ more)) := by
  have hbounded : (after limit ops).Bounded limit := (Bounded.empty limit).performAll ops
  refine ⟨hbounded.openSkips_pos, fun m => hbounded.openSkips_resolve, hbounded.size,
    fun op e h => ?_, fun hops => ?_⟩
  · obtain ⟨he, hsame⟩ := perform_refused h
    exact ⟨he.trans (congrArg Failure.ledgerLimitExceeded hbounded.limit_eq), hsame⟩
  · have hnumbered : (after limit ops).Numbered := (Numbered.empty limit).performAll hops
    obtain ⟨hopened, hnodup, -, -⟩ := performAll_unmarked (l := empty limit) hops
    refine ⟨hnodup, hnumbered.not_holds_resolve, fun m hm hgone more hmore => ?_⟩
    obtain ⟨-, -, -, hmarkers⟩ := performAll_unmarked (l := after limit ops) hmore
    have hafter : after limit (ops ++ more) = ((after limit ops).performAll more).2 :=
      performAll_append _ ops more
    rw [hafter]
    exact resolve_of_not_holds fun hback =>
      hgone (holds_iff.2 (hmarkers m (holds_iff.1 hback) (hopened m hm).2))

/-- Three skips, each inside the one before. The middle one is discarded first, which takes the
    innermost marker away as well, so that now two skips are counted as open but one is there.
    The innermost is closed nevertheless. A fourth is opened once all is cleared. -/
def disorder : List Operation :=
  [.openSkip 1, .openSkip 2, .record (.binding Scopes.global "x" .void), .openSkip 3,
    .discard ⟨1, 2⟩, .close ⟨2, 3⟩, .popAbove ⟨7, 7⟩, .clear, .openSkip 4]

theorem safe_in_any_order_disorder :
    (∀ op ∈ disorder, op.Unmarked) ∧ ⟨1, 2⟩ ∈ openedBy 4 disorder ∧
      ¬(after 4 disorder).holds ⟨1, 2⟩ ∧ (openedBy 4 disorder).Nodup ∧
      ∀ more, (∀ op ∈ more, op.Unmarked) →
        (after 4 (disorder ++ more)).close ⟨1, 2⟩ = after 4 (disorder ++ more) ∧
          (after 4 (disorder ++ more)).discard ⟨1, 2⟩ = after 4 (disorder ++ more) := by
  have hops : ∀ op ∈ disorder, op.Unmarked := by
    simp [disorder, Operation.Unmarked, Breadcrumb.isMarker]
  have hopened : ⟨1, 2⟩ ∈ openedBy 4 disorder := by decide
  have hgone : ¬(after 4 disorder).holds ⟨1, 2⟩ := by decide
  obtain ⟨-, -, -, -, h⟩ := safe_in_any_order 4 disorder
  obtain ⟨hnodup, -, hstays⟩ := h hops
  exact ⟨hops, hopened, hgone, hnodup, hstays _ hopened hgone⟩

end Ledger

end Retrace
