import Retrace.Proofs.Anchoring
import Retrace.Proofs.Handles

/-!
# Machines that are ahead

Of two sessions that have come to the same point, one may be *ahead* of the other
(`Lead`): it has created more scopes and opened more skips on its way, so that its
next scope has a larger serial number and its next marker a larger number; and it may
be allowed more breadcrumbs and more nested calls. The global scope has the serial
number zero in both, so the numbers are not simply shifted.

What there is in the one machine, a handle, a marker, a breadcrumb or a whole ledger,
corresponds to something in the other. Scopes correspond (`Scopes.Ahead`) if they
stand in the same way and the names are bound to the same values. Then a handle that
is live leads to the same bindings in both, since the numbers are compared with one
another only (`Lead.serial_lt_iff`).
-/

namespace Retrace

/-- How far one machine is ahead of another one. -/
structure Lead where
  /-- How many more scopes there have been. -/
  serials : Nat
  /-- How many more skips there have been. -/
  markers : Nat
  /-- How many more breadcrumbs there may be. -/
  breadcrumbs : Nat
  /-- How many more calls may be nested. -/
  calls : Nat

namespace Lead

variable (k : Lead)

/-- Whether there is more room in the machine that is ahead. -/
def Roomier : Prop :=
  0 < k.breadcrumbs + k.calls

/-- The serial number of the corresponding scope. -/
def serial (n : Nat) : Nat :=
  if n = 0 then 0 else n + k.serials

/-- The handle to the corresponding scope. -/
def handle (id : ScopeId) : ScopeId :=
  ⟨id.slot, k.serial id.serial⟩

/-- The marker of the corresponding skip. -/
def marker (m : Marker) : Marker :=
  ⟨m.number + k.markers, k.serial m.horizon⟩

/-- The corresponding breadcrumb. -/
def crumb : Breadcrumb → Breadcrumb
  | .marker m => .marker (k.marker m)
  | .binding scope name previous => .binding (k.handle scope) name previous
  | .entry scope name path previous => .entry (k.handle scope) name path previous
  | .replay scope undo => .replay (k.handle scope) undo

/-- The corresponding ledger. -/
def ledger (l : Ledger) : Ledger where
  crumbs := l.crumbs.map k.crumb
  size := l.size
  openSkips := l.openSkips
  nextMarker := l.nextMarker + k.markers
  limit := l.limit + k.breadcrumbs
  size_eq := by rw [List.length_map, l.size_eq]

/-- The settings with the room there is. -/
def settings (s : Settings) : Settings :=
  { s with
    maxBreadcrumbs := s.maxBreadcrumbs + k.breadcrumbs
    maxCallDepth := s.maxCallDepth + k.calls }

/-- The corresponding rebinding. -/
def rebinding (b : Rebinding) : Rebinding :=
  { b with owner := k.handle b.owner, crumb := k.crumb b.crumb }

/-! ### Numbers -/

section Numbers

variable {k} {a b n : Nat} {id id' : ScopeId} {m m' : Marker} {c : Breadcrumb}

theorem serial_lt_iff : k.serial a < k.serial b ↔ a < b := by
  rw [serial, serial]
  split <;> split <;> omega

theorem serial_le_iff : k.serial a ≤ k.serial b ↔ a ≤ b := by
  rw [← Nat.not_lt, serial_lt_iff, Nat.not_lt]

theorem serial_inj : k.serial a = k.serial b ↔ a = b := by
  rw [Nat.eq_iff_le_and_ge, serial_le_iff, serial_le_iff, ← Nat.eq_iff_le_and_ge]

theorem serial_succ (h : 0 < n) : k.serial (n + 1) = k.serial n + 1 := by
  rw [serial, serial, if_neg (by omega), if_neg (by omega)]
  omega

theorem handle_global : k.handle Scopes.global = Scopes.global := rfl

theorem handle_inj : k.handle id = k.handle id' ↔ id = id' := by
  obtain ⟨slot, serial⟩ := id
  obtain ⟨slot', serial'⟩ := id'
  rw [handle, handle, ScopeId.mk.injEq, ScopeId.mk.injEq, serial_inj]

theorem marker_inj : k.marker m = k.marker m' ↔ m = m' := by
  obtain ⟨number, horizon⟩ := m
  obtain ⟨number', horizon'⟩ := m'
  rw [marker, marker, Marker.mk.injEq, Marker.mk.injEq, serial_inj, Nat.add_right_cancel_iff]

theorem encloses_marker : (k.marker m).encloses (k.serial n) = m.encloses n :=
  decide_eq_decide.2 serial_le_iff

theorem marks_crumb : (k.crumb c).marks (k.marker m) = c.marks m := by
  cases c with
  | marker n =>
    rw [Bool.eq_iff_iff, crumb, Breadcrumb.marks, Breadcrumb.marks, beq_iff_eq, beq_iff_eq,
      marker_inj]
  | _ => rfl

end Numbers

/-! ### Ledgers -/

section Ledgers

variable {k} {l l' : Ledger} {c : Breadcrumb} {m : Marker} {horizon : Nat} {e : Failure}

theorem marks_comp_crumb : (fun c => Breadcrumb.marks (k.marker m) c) ∘ k.crumb =
    Breadcrumb.marks m :=
  funext fun _ => marks_crumb

theorem popAbove_ledger (l : Ledger) (m : Marker) :
    (k.ledger l).popAbove (k.marker m) =
      (l.popAbove m).map fun p => (k.crumb p.1, k.ledger p.2) := by
  cases hpop : l.popAbove m with
  | none =>
    cases hpop' : (k.ledger l).popAbove (k.marker m) with
    | none => rfl
    | some p =>
      -- What could be taken would not be the marker.
      obtain ⟨c, l'⟩ := p
      obtain ⟨hc, hne, -⟩ := Ledger.popAbove_eq_some hpop'
      rcases Ledger.popAbove_eq_none hpop with h | ⟨cs, h⟩
      · simp [ledger, h] at hc
      · simp only [ledger, h, List.map_cons, List.cons.injEq] at hc
        exact absurd hc.1.symm hne
  | some p =>
    obtain ⟨c, l'⟩ := p
    obtain ⟨hc, hne, hopen, hlimit, hnext⟩ := Ledger.popAbove_eq_some hpop
    have hc' : (k.ledger l).crumbs = k.crumb c :: (k.ledger l').crumbs := by
      simp only [ledger, hc, List.map_cons]
    have hne' : k.crumb c ≠ .marker (k.marker m) := fun h =>
      hne (Breadcrumb.marks_iff.1 (marks_crumb ▸ Breadcrumb.marks_iff.2 h))
    obtain ⟨l₁, hpop', hcrumbs⟩ := Ledger.popAbove_cons hc' hne'
    obtain ⟨-, -, hopen', hlimit', hnext'⟩ := Ledger.popAbove_eq_some hpop'
    have hl : l₁ = k.ledger l' := by
      refine Ledger.eq_of_crumbs hcrumbs ?_ ?_ ?_
      · exact hopen'.trans hopen.symm
      · exact hnext'.trans (congrArg (· + k.markers) hnext.symm)
      · exact hlimit'.trans (congrArg (· + k.breadcrumbs) hlimit.symm)
    rw [hpop', hl]
    rfl

theorem holds_ledger (l : Ledger) (m : Marker) : (k.ledger l).holds (k.marker m) = l.holds m := by
  rw [Ledger.holds, Ledger.holds, ledger, List.any_map]
  congr 1
  exact marks_comp_crumb

theorem resolved_ledger (l : Ledger) : (k.ledger l).resolved = k.ledger l.resolved := by
  have hopen : (k.ledger l).openSkips = l.openSkips := rfl
  rw [Ledger.resolved, Ledger.resolved, hopen]
  split <;> rfl

theorem close_ledger (l : Ledger) (m : Marker) :
    (k.ledger l).close (k.marker m) = k.ledger (l.close m) := by
  by_cases h : l.holds m
  · rw [Ledger.close, Ledger.close, dif_pos h, dif_pos ((holds_ledger l m).trans h),
      ← resolved_ledger]
    congr 1
    refine Ledger.eq_of_crumbs ?_ rfl rfl rfl
    simp only [ledger, List.eraseP_map, marks_comp_crumb]
  · rw [Ledger.close, Ledger.close, dif_neg h, dif_neg (by rwa [holds_ledger])]

theorem discard_ledger (l : Ledger) (m : Marker) :
    (k.ledger l).discard (k.marker m) = k.ledger (l.discard m) := by
  by_cases h : l.holds m
  · rw [Ledger.discard, Ledger.discard, dif_pos h, dif_pos ((holds_ledger l m).trans h),
      ← resolved_ledger]
    congr 1
    refine Ledger.eq_of_crumbs ?_ rfl rfl rfl
    have hmarks : (fun c => !Breadcrumb.marks (k.marker m) c) ∘ k.crumb =
        fun c => !Breadcrumb.marks m c := funext fun _ => congrArg (! ·) marks_crumb
    simp only [ledger, List.dropWhile_map, List.map_drop, hmarks]
  · rw [Ledger.discard, Ledger.discard, dif_neg h, dif_neg (by rwa [holds_ledger])]

theorem append_ledger (h : l.append c = .ok l') :
    (k.ledger l).append (k.crumb c) = .ok (k.ledger l') := by
  rw [Ledger.append] at h ⊢
  split at h
  · exact absurd h (by simp)
  · rename_i hroom
    have hroom' : ¬(k.ledger l).limit ≤ (k.ledger l).size := by
      simp only [ledger]
      omega
    rw [if_neg hroom', ← Except.ok.inj h]
    rfl

theorem record_ledger (h : l.record c = .ok l') :
    (k.ledger l).record (k.crumb c) = .ok (k.ledger l') := by
  have hrecording : (k.ledger l).isRecording = l.isRecording := rfl
  rw [Ledger.record] at h ⊢
  rw [hrecording]
  split at h
  · exact (if_pos ‹_›).trans (append_ledger h)
  · rw [if_neg ‹_›, ← Except.ok.inj h]

theorem openSkip_ledger (h : l.openSkip horizon = .ok (m, l')) :
    (k.ledger l).openSkip (k.serial horizon) = .ok (k.marker m, k.ledger l') := by
  obtain ⟨l₁, happend, h⟩ := Failure.exists_of_bind h
  obtain ⟨rfl, rfl⟩ := Prod.mk.inj (Except.ok.inj h)
  have happend' := append_ledger (k := k) happend
  have hmarker : k.crumb (.marker ⟨l.nextMarker, horizon⟩) =
      .marker ⟨(k.ledger l).nextMarker, k.serial horizon⟩ := rfl
  rw [hmarker] at happend'
  rw [Ledger.openSkip, happend']
  simp only [bind, Except.bind, ledger]
  refine congrArg Except.ok (Prod.ext rfl (Ledger.eq_of_crumbs rfl rfl ?_ rfl))
  exact (Nat.succ_add _ _).symm

section Full

variable (hk : ¬k.Roomier)
include hk

/-- Without more room there is none left in both. -/
theorem append_ledger_error (h : l.append c = .error e) :
    (k.ledger l).append (k.crumb c) = .error e := by
  have hlimit : (k.ledger l).limit = l.limit := by
    simp only [Roomier, ledger] at hk ⊢
    omega
  rw [Ledger.append] at h ⊢
  split at h
  · rename_i hfull
    rw [hlimit, ← h]
    exact if_pos hfull
  · exact absurd h (by simp)

theorem record_ledger_error (h : l.record c = .error e) :
    (k.ledger l).record (k.crumb c) = .error e := by
  have hrecording : (k.ledger l).isRecording = l.isRecording := rfl
  rw [Ledger.record] at h ⊢
  rw [hrecording]
  split at h
  · exact (if_pos ‹_›).trans (append_ledger_error hk h)
  · exact absurd h (by simp)

theorem openSkip_ledger_error (h : l.openSkip horizon = .error e) :
    (k.ledger l).openSkip (k.serial horizon) = .error e := by
  rcases Failure.of_bind h with h | ⟨l₁, -, h⟩
  · have happend := append_ledger_error hk h
    have hmarker : k.crumb (.marker ⟨l.nextMarker, horizon⟩) =
        .marker ⟨(k.ledger l).nextMarker, k.serial horizon⟩ := rfl
    rw [hmarker] at happend
    rw [Ledger.openSkip, happend]
    rfl
  · exact absurd h (by simp)

theorem settings_eq (s : Settings) : k.settings s = s := by
  obtain ⟨hb, hc⟩ : k.breadcrumbs = 0 ∧ k.calls = 0 := by
    rw [Roomier] at hk
    omega
  rw [settings, hb, hc]
  rfl

end Full

end Ledgers

end Lead

/-! ### Scopes -/

namespace Scopes

/-- The scopes are rooted, a scope is younger than its parent, and none is younger than the one
    that is to be created next. -/
structure Orderly (ss : Scopes) : Prop where
  rooted : ss.Rooted
  older : ss.Older
  fresh : ∀ id, ss.contains id → id.serial < ss.nextSerial

/-- Scopes that stand in the same way, with the same bindings, where there have been more. -/
structure Ahead (k : Lead) (ss ss' : Scopes) : Prop where
  skeleton : ss'.skeleton = ss.skeleton.map fun s => (k.serial s.1, s.2.map k.handle)
  nextSerial : ss'.nextSerial = k.serial ss.nextSerial
  look : ∀ id name, ss'.look (k.handle id) name = ss.look id name

variable {k : Lead} {ss ss' tt : Scopes} {id parent : ScopeId} {name : String} {v : Value}

namespace Orderly

theorem nextSerial_pos (h : ss.Orderly) : 0 < ss.nextSerial :=
  h.fresh _ h.rooted.global

theorem congr (h : ss.Orderly) (hskeleton : tt.skeleton = ss.skeleton)
    (hserial : ss.nextSerial ≤ tt.nextSerial) : tt.Orderly where
  rooted := h.rooted.congr hskeleton
  older := h.older.congr hskeleton
  fresh id hid := Nat.lt_of_lt_of_le (h.fresh id (contains_congr hskeleton id ▸ hid)) hserial

theorem push (h : ss.Orderly) (hparent : ss.contains parent) : (ss.push parent).2.Orderly where
  rooted := h.rooted.push hparent
  older := h.older.push (h.fresh parent hparent)
  fresh id hid := by
    rcases contains_of_push hid with hid | rfl
    · exact Nat.lt_succ_of_lt (h.fresh id hid)
    · exact Nat.lt_succ_self _

theorem discardLocals (h : ss.Orderly) : ss.discardLocals.Orderly where
  rooted := h.rooted.take Nat.one_pos
  older := h.older.take 1
  fresh id hid := h.fresh id ((contains_take ss 1 id).1 hid).2

end Orderly

namespace Ahead

theorem size (h : Ahead k ss ss') : ss'.row.size = ss.row.size := by
  rw [← length_skeleton, h.skeleton, List.length_map, length_skeleton]

theorem getElem?_skeleton (h : Ahead k ss ss') (slot : Nat) :
    ss'.skeleton[slot]? = ss.skeleton[slot]?.map fun s => (k.serial s.1, s.2.map k.handle) := by
  rw [h.skeleton, List.getElem?_map]

/-- The corresponding handle is live or stale as this one is. -/
theorem contains (h : Ahead k ss ss') (id : ScopeId) :
    ss'.contains (k.handle id) = ss.contains id := by
  have hslot : ss'.skeleton[(k.handle id).slot]? = _ := h.getElem?_skeleton id.slot
  rw [Bool.eq_iff_iff, contains_iff, contains_iff, hslot]
  constructor
  · rintro ⟨p, hp⟩
    obtain ⟨⟨serial, parent⟩, hs, he⟩ := Option.map_eq_some_iff.1 hp
    obtain rfl : serial = id.serial := Lead.serial_inj.1 (congrArg Prod.fst he)
    exact ⟨parent, hs⟩
  · rintro ⟨p, hp⟩
    exact ⟨p.map k.handle, by rw [hp]; rfl⟩

theorem getLocal (h : Ahead k ss ss') (hid : ss.contains id) (name : String) :
    ss'.getLocal (k.handle id) name = ss.getLocal id name := by
  rw [getLocal_eq hid, getLocal_eq ((h.contains id).trans hid), h.look]

theorem older (h : Ahead k ss ss') (holder : ss.Older) : ss'.Older := by
  intro slot serial parent hslot
  rw [h.getElem?_skeleton] at hslot
  obtain ⟨⟨serial₁, parent₁⟩, hs, he⟩ := Option.map_eq_some_iff.1 hslot
  obtain ⟨rfl, hparent⟩ := Prod.mk.inj he
  obtain ⟨p, rfl, rfl⟩ := Option.map_eq_some_iff.1 hparent
  exact Lead.serial_lt_iff.2 (holder slot serial₁ p hs)

/-! #### Searching -/

theorem visit (h : Ahead k ss ss') (hid : ss.contains id) (name : String) :
    ss'.visit name (k.handle id) =
      (ss.visit name id).map (Except.map (Option.map k.handle)) k.handle := by
  obtain ⟨s, hs⟩ := exists_scope hid
  obtain ⟨s', hs'⟩ := exists_scope ((h.contains id).trans hid)
  have hparent : s'.parent = s.parent.map k.handle := by
    have hslot := skeleton_of_scope hs'
    rw [h.getElem?_skeleton, show (k.handle id).slot = id.slot from rfl,
      skeleton_of_scope hs] at hslot
    exact (congrArg Prod.snd (Option.some.inj hslot)).symm
  rw [visit_of_scope hs, visit_of_scope hs', h.look, hparent]
  split
  · rfl
  · cases s.parent <;> rfl

theorem search (h : Ahead k ss ss') (hrooted : ss.Rooted) (hid : ss.contains id)
    {answer : Except Failure (Option ScopeId)} (hsearch : Search ss name id answer) :
    Search ss' name (k.handle id) (answer.map (Option.map k.handle)) := by
  -- From a live scope the search goes to live ones only.
  induction hsearch with
  | done hvisit =>
    refine .done ?_
    rw [h.visit hid, hvisit]
    rfl
  | @up id parent answer hvisit _ ih =>
    refine .up ?_ (ih (hrooted.parents _ _ parent (visit_eq_inr hvisit)).2)
    rw [h.visit hid, hvisit]
    rfl

section Found

variable (h : Ahead k ss ss') (hss : ss.Orderly) (hid : ss.contains id)
include h hss hid

theorem owner (name : String) : ss'.owner (k.handle id) name = (ss.owner id name).map k.handle := by
  have hsearch : Search ss name id (ss.owner? id name) := hss.older.search_iff.2 rfl
  have howner := (h.older hss.older).search_iff.1 (h.search hss.rooted hid hsearch)
  rw [Scopes.owner, Scopes.owner, howner]
  rcases ss.owner? id name with e | _ | o <;> rfl

theorem get (name : String) : ss'.get (k.handle id) name = ss.get id name := by
  rw [Scopes.get, Scopes.get, h.owner hss hid]
  cases ho : ss.owner id name with
  | error e => rfl
  | ok owner =>
    obtain ⟨v, hv⟩ := exists_look_of_owner ho
    simp only [Except.map, bind, Except.bind, h.getLocal (contains_of_look hv)]

theorem read (t : Target) : t.read ss' (k.handle id) = t.read ss id := by
  rw [Target.read, Target.read, h.get hss hid]

/-- The same value is stored in the corresponding scope. -/
theorem rebinding (t : Target) (v : Value) :
    t.rebinding ss' (k.handle id) v = (t.rebinding ss id v).map k.rebinding := by
  rw [Target.rebinding, Target.rebinding, h.owner hss hid]
  cases ho : ss.owner id t.name with
  | error e => rfl
  | ok owner =>
    obtain ⟨w, hw⟩ := exists_look_of_owner ho
    simp only [Except.map, bind, Except.bind, h.get hss (contains_of_look hw)]
    cases ss.get owner t.name with
    | error e => rfl
    | ok bound =>
      simp only
      cases t.path.getLast? with
      | none => rfl
      | some key =>
        simp only
        cases bound.updatePath t.path v with
        | error e => rfl
        | ok updated =>
          simp only
          cases bound.readPath t.path.dropLast with
          | error e => rfl
          | ok container =>
            simp only
            cases container.index key <;> rfl

end Found

/-! #### Changes -/

theorem define (h : Ahead k ss ss') (hd : ss.define id name v = .ok tt) :
    ∃ tt', ss'.define (k.handle id) name v = .ok tt' ∧ Ahead k tt tt' := by
  obtain ⟨hid, -⟩ := define_eq_ok hd
  have hd' := define_eq ((h.contains id).trans hid) name v
  refine ⟨_, hd', ?_, ?_, fun id' name' => ?_⟩
  · rw [skeleton_define hd', skeleton_define hd, h.skeleton]
  · rw [nextSerial_define hd', nextSerial_define hd, h.nextSerial]
  · simp only [look_define hd', look_define hd, h.look, Lead.handle_inj]

theorem push (h : Ahead k ss ss') (hserial : 0 < ss.nextSerial) (parent : ScopeId) :
    (ss'.push (k.handle parent)).1 = k.handle (ss.push parent).1 ∧
      Ahead k (ss.push parent).2 (ss'.push (k.handle parent)).2 := by
  refine ⟨ScopeId.mk.injEq .. ▸ ⟨h.size, h.nextSerial⟩, ?_, ?_, fun id name => ?_⟩
  · rw [skeleton_push, skeleton_push, h.skeleton, h.nextSerial, List.map_append]
    rfl
  · exact (congrArg Nat.succ h.nextSerial).trans (Lead.serial_succ hserial).symm
  · rw [look_push, look_push, h.look]

theorem discard (h : Ahead k ss ss') (id id' : ScopeId) (hslot : id'.slot = id.slot) :
    Ahead k (ss.discard id) (ss'.discard id') where
  skeleton := by
    rw [Scopes.discard, Scopes.discard, skeleton_take, skeleton_take, h.skeleton, List.map_take,
      hslot]
  nextSerial := h.nextSerial
  look id₁ name := by
    have hslot₁ : (k.handle id₁).slot = id₁.slot := rfl
    rw [look_discard, look_discard, hslot, hslot₁, h.look]

theorem discardLocals (h : Ahead k ss ss') : Ahead k ss.discardLocals ss'.discardLocals :=
  h.discard ⟨1, 0⟩ ⟨1, 0⟩ rfl

/-- An entry is stored back in both, or in neither for the same reason. -/
theorem restoreEntry (h : Ahead k ss ss') {path : List Value} {previous : Value}
    (hr : ss.restoreEntry id name path previous = .ok tt) :
    ∃ tt', ss'.restoreEntry (k.handle id) name path previous = .ok tt' ∧ Ahead k tt tt' := by
  obtain ⟨key, value, bound, updated, rfl, hlook, hu, hd⟩ := restoreEntry_eq_ok hr
  obtain ⟨tt', hd', ht⟩ := h.define hd
  exact ⟨tt', (restoreEntry_eq ((h.look id name).trans hlook) hu).trans hd', ht⟩

theorem restoreEntry_error (h : Ahead k ss ss') (hid : ss.contains id) {path : List Value}
    {previous : Value} {e : Failure} (he : ss.restoreEntry id name path previous = .error e) :
    ss'.restoreEntry (k.handle id) name path previous = .error e := by
  rw [restoreEntry.eq_def] at he ⊢
  split at he
  · rw [h.getLocal hid]
    rcases Failure.of_bind he with he | ⟨o, ho, he⟩
    · rw [he]
      rfl
    · rw [ho]
      cases o with
      | none => exact he
      | some bound =>
        rcases Failure.of_bind he with he | ⟨updated, -, he⟩
        · simp only [bind, Except.bind, he]
        · rw [define_eq hid] at he
          exact absurd he (by simp)
  · exact he

end Ahead

end Scopes

end Retrace
