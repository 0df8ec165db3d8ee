import Retrace.Ledger

/-!
# What happens to the ledger

While a skip is open the ledger only grows above its marker: it *extends*
(`Ledger.Extends`) the ledger there was when the skip was entered. What is taken
back in a rollback is what was added since, so the marker is found again when
the skip is resolved, and

* closing the skip leaves what was added on top of the ledger there was before
  (`Extends.close`);
* discarding it leaves just the ledger there was before (`Extends.discard`).

Both need the ledger to be *tidy*: without an open skip there are no
breadcrumbs.
-/

namespace Retrace

theorem Breadcrumb.marks_iff {c : Breadcrumb} {m : Marker} : c.marks m ↔ c = .marker m := by
  cases c with
  | marker n => rw [marks, beq_iff_eq, marker.injEq]
  | _ => simp [marks]

/-- Whether it is a marker. -/
def Breadcrumb.isMarker : Breadcrumb → Bool
  | marker _ => true
  | _ => false

namespace Ledger

/-- Without an open skip there are no breadcrumbs. -/
def Tidy (l : Ledger) : Prop :=
  l.openSkips = 0 → l.crumbs = []

/-- The second ledger is the first one with breadcrumbs added that satisfy `P`, if any
    skip is open. -/
structure Extends (P : Breadcrumb → Prop) (l l' : Ledger) : Prop where
  openSkips : l'.openSkips = l.openSkips
  limit : l'.limit = l.limit
  crumbs : ∃ added, l'.crumbs = added ++ l.crumbs ∧ (∀ c ∈ added, P c) ∧
    (l.openSkips = 0 → added = [])

variable {P : Breadcrumb → Prop} {l l' l'' : Ledger} {m : Marker} {c : Breadcrumb} {horizon : Nat}
  {e : Failure}

theorem eq_of_crumbs (hc : l'.crumbs = l.crumbs) (ho : l'.openSkips = l.openSkips)
    (hn : l'.nextMarker = l.nextMarker) (hl : l'.limit = l.limit) : l' = l := by
  obtain ⟨crumbs, size, openSkips, nextMarker, limit, hs⟩ := l
  obtain ⟨crumbs', size', openSkips', nextMarker', limit', hs'⟩ := l'
  simp_all

namespace Extends

theorem refl (l : Ledger) : l.Extends P l :=
  ⟨rfl, rfl, [], rfl, fun _ h => absurd h List.not_mem_nil, fun _ => rfl⟩

theorem trans (h : l.Extends P l') (h' : l'.Extends P l'') : l.Extends P l'' := by
  obtain ⟨added, hc, hP, h0⟩ := h.crumbs
  obtain ⟨added', hc', hP', h0'⟩ := h'.crumbs
  refine ⟨h'.openSkips.trans h.openSkips, h'.limit.trans h.limit, added' ++ added, ?_, ?_, ?_⟩
  · rw [hc', hc, List.append_assoc]
  · intro c hmem
    rcases List.mem_append.1 hmem with hmem | hmem
    · exact hP' c hmem
    · exact hP c hmem
  · intro ho
    rw [h0 ho, h0' (h.openSkips.trans ho)]
    rfl

theorem tidy (h : l.Extends P l') (hl : l.Tidy) : l'.Tidy := by
  intro ho
  obtain ⟨added, hc, -, h0⟩ := h.crumbs
  rw [h.openSkips] at ho
  rw [hc, h0 ho, hl ho]
  rfl

end Extends

/-! ### Recording -/

theorem append_eq_ok (h : l.append c = .ok l') :
    l'.crumbs = c :: l.crumbs ∧ l'.openSkips = l.openSkips ∧ l'.limit = l.limit ∧
      l'.nextMarker = l.nextMarker := by
  rw [append] at h
  split at h
  · exact absurd h (by simp)
  · rw [← Except.ok.inj h]
    exact ⟨rfl, rfl, rfl, rfl⟩

theorem append_eq_error (h : l.append c = .error e) : e = .ledgerLimitExceeded l.limit := by
  rw [append] at h
  split at h
  · exact (Except.error.inj h).symm
  · exact absurd h (by simp)

/-- Recording fails only if there is no room. -/
theorem record_eq_error (h : l.record c = .error e) : e = .ledgerLimitExceeded l.limit := by
  rw [record] at h
  split at h
  · exact append_eq_error h
  · exact absurd h (by simp)

theorem Extends.record (hc : P c) (h : l.record c = .ok l') : l.Extends P l' := by
  rw [Ledger.record] at h
  split at h
  · rename_i ho
    obtain ⟨hcs, hos, hl, -⟩ := append_eq_ok h
    refine ⟨hos, hl, [c], hcs, fun c' hc' => ?_, fun ho' => ?_⟩
    · rwa [List.mem_singleton.1 hc']
    · simp [isRecording, ho'] at ho
  · rw [← Except.ok.inj h]
    exact .refl l

/-- While a skip is open what is recorded is added. -/
theorem crumbs_of_record (ho : 0 < l.openSkips) (h : l.record c = .ok l') :
    l'.crumbs = c :: l.crumbs := by
  rw [Ledger.record, isRecording, if_pos (decide_eq_true ho)] at h
  exact (append_eq_ok h).1

/-- Nothing but what is recorded is added. -/
theorem crumbs_record_subset (h : l.record c = .ok l') : l'.crumbs ⊆ c :: l.crumbs := by
  rw [Ledger.record] at h
  split at h
  · rw [(append_eq_ok h).1]
    exact List.Subset.refl _
  · rw [← Except.ok.inj h]
    exact List.subset_cons_self _ _

/-! ### Skips -/

theorem openSkip_eq_ok (h : l.openSkip horizon = .ok (m, l')) :
    m = ⟨l.nextMarker, horizon⟩ ∧ l'.crumbs = .marker m :: l.crumbs ∧
      l'.openSkips = l.openSkips + 1 ∧ l'.limit = l.limit := by
  rw [openSkip] at h
  cases ha : l.append (.marker ⟨l.nextMarker, horizon⟩) with
  | error e => simp [ha, bind, Except.bind] at h
  | ok l₁ =>
    simp only [ha, bind, Except.bind, Except.ok.injEq, Prod.mk.injEq] at h
    obtain ⟨rfl, rfl⟩ := h
    obtain ⟨hc, ho, hl, -⟩ := append_eq_ok ha
    exact ⟨rfl, hc, by simp [ho], hl⟩

/-- A skip cannot be opened only if there is no room for its marker. -/
theorem openSkip_eq_error (h : l.openSkip horizon = .error e) :
    e = .ledgerLimitExceeded l.limit := by
  rw [openSkip] at h
  cases ha : l.append (.marker ⟨l.nextMarker, horizon⟩) with
  | error e' =>
    simp only [ha, bind, Except.bind, Except.error.injEq] at h
    exact h ▸ append_eq_error ha
  | ok l₁ => simp [ha, bind, Except.bind] at h

theorem popAbove_eq_some (h : l.popAbove m = some (c, l')) :
    l.crumbs = c :: l'.crumbs ∧ c ≠ .marker m ∧ l'.openSkips = l.openSkips ∧
      l'.limit = l.limit ∧ l'.nextMarker = l.nextMarker := by
  rw [popAbove] at h
  split at h
  · exact absurd h (by simp)
  · rename_i c' cs hcs
    split at h
    · exact absurd h (by simp)
    · rename_i hm
      obtain ⟨rfl, rfl⟩ := Prod.mk.inj (Option.some.inj h)
      exact ⟨hcs, fun hc => hm (Breadcrumb.marks_iff.2 hc), rfl, rfl, rfl⟩

theorem popAbove_eq_none (h : l.popAbove m = none) :
    l.crumbs = [] ∨ ∃ cs, l.crumbs = .marker m :: cs := by
  rw [popAbove] at h
  split at h
  · exact .inl ‹_›
  · rename_i c cs hcs
    split at h
    · rename_i hm
      exact .inr ⟨cs, Breadcrumb.marks_iff.1 hm ▸ hcs⟩
    · exact absurd h (by simp)

theorem popAbove_cons {cs : List Breadcrumb} (h : l.crumbs = c :: cs) (hc : c ≠ .marker m) :
    ∃ l', l.popAbove m = some (c, l') ∧ l'.crumbs = cs := by
  cases hp : l.popAbove m with
  | none =>
    rcases popAbove_eq_none hp with h' | ⟨cs', h'⟩
    · exact absurd (h.symm.trans h') (by simp)
    · rw [h] at h'
      exact absurd (List.cons.inj h').1 hc
  | some p =>
    obtain ⟨c', l'⟩ := p
    obtain ⟨h', -⟩ := popAbove_eq_some hp
    rw [h] at h'
    obtain ⟨rfl, rfl⟩ := List.cons.inj h'
    exact ⟨l', rfl, rfl⟩

theorem popAbove_marker {cs : List Breadcrumb} (h : l.crumbs = .marker m :: cs) :
    l.popAbove m = none := by
  cases hp : l.popAbove m with
  | none => rfl
  | some p =>
    obtain ⟨c, l'⟩ := p
    obtain ⟨h', hne, -⟩ := popAbove_eq_some hp
    rw [h] at h'
    exact absurd (List.cons.inj h').1.symm hne

/-- Taking the newest breadcrumb above the marker takes back what was added last. -/
theorem Extends.popAbove (h : l.Extends P l') (hm : ∃ cs, l.crumbs = .marker m :: cs)
    (hp : l'.popAbove m = some (c, l'')) : P c ∧ l.Extends P l'' := by
  obtain ⟨cs, hcs⟩ := hm
  obtain ⟨hpc, hne, ho, hl, -⟩ := popAbove_eq_some hp
  obtain ⟨added, hc, hP, h0⟩ := h.crumbs
  cases added with
  | nil =>
    -- Then the marker itself is on top.
    rw [hc, List.nil_append, hcs] at hpc
    exact absurd (List.cons.inj hpc).1.symm hne
  | cons c' added =>
    rw [hc, List.cons_append] at hpc
    obtain ⟨rfl, hc'⟩ := List.cons.inj hpc
    refine ⟨hP c' List.mem_cons_self, ho.trans h.openSkips, hl.trans h.limit, added, hc'.symm,
      fun c hmem => hP c (List.mem_cons_of_mem c' hmem), fun ho' => ?_⟩
    exact absurd (h0 ho') (List.cons_ne_nil c' added)

/-- When there is nothing left above the marker, all that was added is taken back. -/
theorem Extends.eq_of_popAbove (h : l.Extends P l') (hm : ∃ cs, l.crumbs = .marker m :: cs)
    (hP : ¬P (.marker m)) (hp : l'.popAbove m = none) : l'.crumbs = l.crumbs := by
  obtain ⟨cs, hcs⟩ := hm
  obtain ⟨added, hc, hP', -⟩ := h.crumbs
  cases added with
  | nil => exact hc
  | cons c added =>
    obtain ⟨l'', hp', -⟩ := popAbove_cons (l := l') (m := m) hc
      fun hc' => hP (hc' ▸ hP' c List.mem_cons_self)
    exact absurd (hp.symm.trans hp') (by simp)

/-! ### Resolving -/

/-- With the last open skip all breadcrumbs go. -/
theorem resolved_eq (l : Ledger) :
    l.resolved.crumbs = (if l.openSkips ≤ 1 then [] else l.crumbs) ∧
      l.resolved.openSkips = l.openSkips - 1 ∧ l.resolved.limit = l.limit ∧
      l.resolved.nextMarker = l.nextMarker := by
  rw [resolved]
  split
  · exact ⟨rfl, by simp only; omega, rfl, rfl⟩
  · exact ⟨rfl, rfl, rfl, rfl⟩

theorem crumbs_resolved_subset (l : Ledger) : l.resolved.crumbs ⊆ l.crumbs := by
  rw [(resolved_eq l).1]
  split
  · exact List.nil_subset _
  · exact List.Subset.refl _

theorem crumbs_close_subset (l : Ledger) (m : Marker) : (l.close m).crumbs ⊆ l.crumbs := by
  rw [close]
  split
  · exact List.Subset.trans (crumbs_resolved_subset _) List.eraseP_subset
  · exact List.Subset.refl _

theorem crumbs_discard_subset (l : Ledger) (m : Marker) : (l.discard m).crumbs ⊆ l.crumbs := by
  rw [discard]
  split
  · exact List.Subset.trans (crumbs_resolved_subset _)
      (List.Subset.trans (List.drop_subset _ _) (List.dropWhile_sublist _).subset)
  · exact List.Subset.refl _

section Marker

variable {added rest : List Breadcrumb} (hc : l.crumbs = added ++ .marker m :: rest)
  (hm : ∀ c ∈ added, c.marks m = false)
include hc

theorem holds_of_crumbs : l.holds m := by
  rw [holds, hc, List.any_append, List.any_cons, Breadcrumb.marks_iff.2 rfl]
  simp

include hm

/-- Closing a skip takes out its marker alone, unless no other skip is open. -/
theorem close_eq :
    (l.close m).crumbs = (if l.openSkips ≤ 1 then [] else added ++ rest) ∧
      (l.close m).openSkips = l.openSkips - 1 ∧ (l.close m).limit = l.limit ∧
      (l.close m).nextMarker = l.nextMarker := by
  have herase : l.crumbs.eraseP (·.marks m) = added ++ rest := by
    rw [hc, List.eraseP_append_right _ fun c hmem => by simp [hm c hmem], List.eraseP_cons,
      Breadcrumb.marks_iff.2 rfl]
    rfl
  rw [close, dif_pos (holds_of_crumbs hc), ← herase]
  exact resolved_eq _

/-- Discarding a skip takes out its marker and what was added since, and everything if no other
    skip is open. -/
theorem discard_eq :
    (l.discard m).crumbs = (if l.openSkips ≤ 1 then [] else rest) ∧
      (l.discard m).openSkips = l.openSkips - 1 ∧ (l.discard m).limit = l.limit ∧
      (l.discard m).nextMarker = l.nextMarker := by
  have hdrop : (l.crumbs.dropWhile (!·.marks m)).drop 1 = rest := by
    rw [hc, List.dropWhile_append_of_pos fun c hmem => by simp [hm c hmem],
      List.dropWhile_cons_of_neg (by simp [Breadcrumb.marks_iff.2 rfl]), List.drop_one]
    rfl
  rw [discard, dif_pos (holds_of_crumbs hc), ← hdrop]
  exact resolved_eq _

end Marker

section Resolve

variable {l₁ : Ledger} (ho : l.openSkip horizon = .ok (m, l₁)) (h : l₁.Extends P l')
  (hP : ¬P (.marker m))
include ho h hP

/-- The marker stands below what was added since. -/
theorem Extends.split :
    ∃ added, l'.crumbs = added ++ .marker m :: l.crumbs ∧ (∀ c ∈ added, P c) ∧
      ∀ c ∈ added, c.marks m = false := by
  obtain ⟨added, hc, hadded, -⟩ := h.crumbs
  rw [(openSkip_eq_ok ho).2.1] at hc
  refine ⟨added, hc, hadded, fun c hmem => Bool.eq_false_iff.2 fun hm => hP ?_⟩
  exact Breadcrumb.marks_iff.1 hm ▸ hadded c hmem

omit hP in
theorem Extends.openSkips_succ : l'.openSkips = l.openSkips + 1 :=
  h.openSkips.trans (openSkip_eq_ok ho).2.2.1

/-- Closing the skip takes out its marker alone, unless no other skip is open. -/
theorem Extends.crumbs_close {added : List Breadcrumb}
    (hc : l'.crumbs = added ++ .marker m :: l.crumbs) :
    (l'.close m).crumbs = if l.openSkips = 0 then [] else added ++ l.crumbs := by
  obtain ⟨added', hc', -, hm⟩ := h.split ho hP
  obtain rfl : added' = added := List.append_cancel_right (hc'.symm.trans hc)
  rw [(close_eq hc hm).1, h.openSkips_succ ho]
  by_cases h0 : l.openSkips = 0 <;> simp [h0]

/-- What was added stays when the skip is closed. -/
theorem Extends.close (hl : l.Tidy) : l.Extends P (l'.close m) := by
  obtain ⟨added, hc, hadded, hm⟩ := h.split ho hP
  obtain ⟨-, hopen, hlimit, -⟩ := close_eq hc hm
  have hcrumbs := h.crumbs_close ho hP hc
  rw [h.openSkips_succ ho] at hopen
  have hlimit' : (l'.close m).limit = l.limit :=
    hlimit.trans (h.limit.trans (openSkip_eq_ok ho).2.2.2)
  by_cases h0 : l.openSkips = 0
  · rw [if_pos h0] at hcrumbs
    exact ⟨hopen, hlimit', [], by rw [hcrumbs, hl h0]; rfl,
      fun _ h => absurd h List.not_mem_nil, fun _ => rfl⟩
  · rw [if_neg h0] at hcrumbs
    exact ⟨hopen, hlimit', added, hcrumbs, hadded, fun h => absurd h h0⟩

/-- What was added goes when the skip is discarded, and the ledger is as it was before. -/
theorem Extends.discard (hl : l.Tidy) :
    l'.discard m = { l with nextMarker := l'.nextMarker } := by
  obtain ⟨added, hc, -, hm⟩ := h.split ho hP
  obtain ⟨hcrumbs, hopen, hlimit, hnext⟩ := discard_eq hc hm
  rw [h.openSkips_succ ho] at hcrumbs hopen
  refine eq_of_crumbs ?_ hopen hnext (hlimit.trans (h.limit.trans (openSkip_eq_ok ho).2.2.2))
  rw [hcrumbs]
  split
  · exact (hl (by omega)).symm
  · rfl

end Resolve

theorem tidy_of_openSkip (h : l.openSkip horizon = .ok (m, l')) : l'.Tidy := by
  intro h0
  rw [(openSkip_eq_ok h).2.2.1] at h0
  exact absurd h0 (Nat.succ_ne_zero _)

end Ledger

end Retrace
