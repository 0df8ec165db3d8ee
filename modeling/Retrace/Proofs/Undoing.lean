import Retrace.Proofs.Bracketing
import Retrace.Proofs.Plain

/-!
# What breadcrumbs take back

For one name in one scope, breadcrumbs say how to get from the value it is bound
to now to an earlier one (`Undone`): a rebinding of the name itself gives the
earlier value outright, an entry is stored back, and what concerns other names
is passed over. From alike values this leads to alike values (`Undone.congr`).

A machine *retraces* to an earlier one (`Retraces`) if the breadcrumbs added
since lead from what names are bound to back to what they were bound to then,
but for the order of entries in maps and the choice among equal keys. Going
further, and coming back from there, is to retrace all the way
(`Retraces.trans`).

If it does, the rollback goes to its end, and does just this
(`Retraces.restores`).
-/

namespace Retrace

namespace Breadcrumb

/-- Whether what it takes back is a rebinding of `name` in the scope `id`. -/
def Concerns (id : ScopeId) (name : String) : Breadcrumb → Prop
  | .binding scope n _ => scope = id ∧ n = name
  | .entry scope n _ _ => scope = id ∧ n = name
  | _ => False

/-- Whether it takes back a rebinding in a scope that is live or is yet to come, and keeps
    what is needed for that. -/
def Fits (ss : Scopes) : Breadcrumb → Prop
  | .binding scope _ _ => ss.contains scope ∨ ss.nextSerial ≤ scope.serial
  | .entry scope _ _ previous => (ss.contains scope ∨ ss.nextSerial ≤ scope.serial) ∧
      ∃ key value, previous = .pair key value
  | _ => False

theorem Fits.imp {ss ss' : Scopes} {c : Breadcrumb} (h : c.Fits ss)
    (hss : ∀ id, ss.contains id ∨ ss.nextSerial ≤ id.serial →
      ss'.contains id ∨ ss'.nextSerial ≤ id.serial) : c.Fits ss' := by
  cases c with
  | binding scope name previous => exact hss scope h
  | entry scope name path previous => exact ⟨hss scope h.1, h.2⟩
  | _ => exact h

end Breadcrumb

/-- From what `name` is bound to in the scope `id`, breadcrumbs lead back to a value. -/
inductive Undone (id : ScopeId) (name : String) : List Breadcrumb → Value → Value → Prop
  | nil (v : Value) : Undone id name [] v v
  | pass {c : Breadcrumb} {cs : List Breadcrumb} {v w : Value} : ¬c.Concerns id name →
      Undone id name cs v w → Undone id name (c :: cs) v w
  | binding {previous v w : Value} {cs : List Breadcrumb} : Undone id name cs previous w →
      Undone id name (.binding id name previous :: cs) v w
  | entry {path : List Value} {key previous u v w : Value} {cs : List Breadcrumb} :
      v.updatePath (path ++ [key]) previous = .ok u → Undone id name cs u w →
      Undone id name (.entry id name path (.pair key previous) :: cs) v w

variable {id : ScopeId} {name : String} {cs ds : List Breadcrumb} {u v w : Value}

namespace Undone

theorem append (h : Undone id name cs u v) (h' : Undone id name ds v w) :
    Undone id name (cs ++ ds) u w := by
  induction h with
  | nil => exact h'
  | pass hc _ ih => exact .pass hc (ih h')
  | binding _ ih => exact .binding (ih h')
  | entry hu _ ih => exact .entry hu (ih h')

theorem sound (hcs : ∀ c ∈ cs, c.Obey .plain) (hv : v.Sound Stmt.Plain)
    (h : Undone id name cs v w) : w.Sound Stmt.Plain := by
  induction h with
  | nil v => exact hv
  | pass _ _ ih => exact ih (List.forall_mem_cons.1 hcs).2 hv
  | binding _ ih =>
    obtain ⟨hprevious, hcs⟩ := List.forall_mem_cons.1 hcs
    exact ih hcs hprevious
  | entry hu _ ih =>
    obtain ⟨⟨hpath, hpair⟩, hcs⟩ := List.forall_mem_cons.1 hcs
    obtain ⟨hkey, hprevious⟩ := Discipline.plain.pair.1 hpair
    have hpath' := List.forall_mem_append.2 ⟨hpath, List.forall_mem_singleton.2 hkey⟩
    exact ih hcs (Discipline.plain.closed.updatePath hv hpath' hprevious hu)

theorem of_pass {c : Breadcrumb} (hc : ¬c.Concerns id name) (h : Undone id name (c :: cs) v w) :
    Undone id name cs v w := by
  cases h with
  | pass _ h => exact h
  | binding => exact absurd ⟨rfl, rfl⟩ hc
  | entry => exact absurd ⟨rfl, rfl⟩ hc

/-- From alike values breadcrumbs lead back to alike values. -/
theorem congr (hcs : ∀ c ∈ cs, c.Obey .plain) (hv : v.Sound Stmt.Plain)
    (hu : u.Sound Stmt.Plain) (h : Undone id name cs v w) (hvu : v.Alike u) :
    ∃ w', Undone id name cs u w' ∧ w.Alike w' := by
  induction h generalizing u with
  | nil v => exact ⟨u, .nil u, hvu⟩
  | pass hc _ ih =>
    obtain ⟨w', hw', h⟩ := ih (List.forall_mem_cons.1 hcs).2 hv hu hvu
    exact ⟨w', .pass hc hw', h⟩
  | binding _ ih =>
    -- The value it starts from is of no account.
    obtain ⟨hprevious, hcs⟩ := List.forall_mem_cons.1 hcs
    obtain ⟨w', hw', h⟩ := ih hcs hprevious hprevious (.refl _)
    exact ⟨w', .binding hw', h⟩
  | @entry path key previous v₁ v w cs hv₁ _ ih =>
    obtain ⟨⟨hpath, hpair⟩, hcs⟩ := List.forall_mem_cons.1 hcs
    obtain ⟨hkey, hprevious⟩ := Discipline.plain.pair.1 hpair
    have hpath' : ∀ k ∈ path ++ [key], k.Sound Stmt.Plain :=
      List.forall_mem_append.2 ⟨hpath, List.forall_mem_singleton.2 hkey⟩
    obtain ⟨u₁, hu₁, hvu₁⟩ := hvu.updatePath hv.wellFormed hu.wellFormed
      (fun k hk => (hpath' k hk).wellFormed) hv₁
    obtain ⟨w', hw', h⟩ := ih hcs (hv.updatePath hpath' hprevious hv₁)
      (hu.updatePath hpath' hprevious hu₁) hvu₁
    exact ⟨w', .entry hu₁ hw', h⟩

end Undone

/-- Breadcrumbs lead back from the machine `m'` to the machine `m`, for the names in the
    scopes that were live there and satisfy `S`. -/
structure Retraces (S : ScopeId → Prop) (m m' : Machine) (added : List Breadcrumb) : Prop where
  crumbs : m'.ledger.crumbs = added ++ m.ledger.crumbs
  fits : ∀ c ∈ added, c.Fits m.scopes
  unbound : ∀ id name, S id → m.scopes.contains id → m.scopes.look id name = none →
    m'.scopes.look id name = none ∧ ∀ c ∈ added, ¬c.Concerns id name
  bound : ∀ id name v, S id → m.scopes.look id name = some v →
    ∃ v' w, m'.scopes.look id name = some v' ∧ Undone id name added v' w ∧ w.Alike v

variable {S T : ScopeId → Prop} {m m' m'' : Machine} {added added' : List Breadcrumb}

theorem Bracketed.obey_of_crumbs {D : Discipline} (h : Bracketed D m m')
    (hc : m'.ledger.crumbs = added ++ m.ledger.crumbs) : ∀ c ∈ added, c.Obey D := by
  obtain ⟨added', hc', hadded, -⟩ := h.ledger.crumbs
  obtain rfl : added' = added := List.append_cancel_right (hc'.symm.trans hc)
  exact hadded

namespace Retraces

theorem mono (h : Retraces S m m' added) (hTS : ∀ id, T id → S id) : Retraces T m m' added :=
  ⟨h.crumbs, h.fits, fun id name hid => h.unbound id name (hTS id hid),
    fun id name v hid => h.bound id name v (hTS id hid)⟩

/-- Nothing has happened to the names that are asked about. -/
theorem of_look (hc : m'.ledger.crumbs = m.ledger.crumbs)
    (h : ∀ id name, S id → m'.scopes.look id name = m.scopes.look id name) :
    Retraces S m m' [] where
  crumbs := hc
  fits _ h := absurd h List.not_mem_nil
  unbound id name hid _ hnone := ⟨(h id name hid).trans hnone, fun _ h => absurd h List.not_mem_nil⟩
  bound id name v hid hv := ⟨v, v, (h id name hid).trans hv, .nil v, .refl v⟩

theorem refl (S : ScopeId → Prop) (m : Machine) : Retraces S m m [] :=
  of_look rfl fun _ _ _ => rfl

theorem withReversing (h : Retraces S m m' added) (b : Bool) :
    Retraces S m { m' with reversing := b } added :=
  ⟨h.crumbs, h.fits, h.unbound, h.bound⟩

theorem trans (h : Retraces S m m' added) (h' : Retraces S m' m'' added')
    (hb : Bracketed .plain m m') (hb' : Bracketed .plain m' m'') :
    Retraces S m m'' (added' ++ added) := by
  have hcontains : ∀ id, m'.scopes.contains id = m.scopes.contains id :=
    Scopes.contains_congr hb.skeleton
  refine ⟨?_, fun c hc => ?_, fun id name hid hlive hnone => ?_, fun id name v hid hv => ?_⟩
  · rw [h'.crumbs, h.crumbs, List.append_assoc]
  · rcases List.mem_append.1 hc with hc | hc
    · refine (h'.fits c hc).imp fun id hid => hid.imp (fun hlive => ?_) (Nat.le_trans hb.nextSerial)
      -- The same scopes are live in the middle.
      rwa [← hcontains]
    · exact h.fits c hc
  · obtain ⟨hnone', hcs⟩ := h.unbound id name hid hlive hnone
    obtain ⟨hnone'', hcs'⟩ := h'.unbound id name hid (hcontains id ▸ hlive) hnone'
    exact ⟨hnone'', List.forall_mem_append.2 ⟨hcs', hcs⟩⟩
  · obtain ⟨v₁, w, hv₁, hw, hwv⟩ := h.bound id name v hid hv
    obtain ⟨v₂, w₁, hv₂, hw₁, hwv₁⟩ := h'.bound id name v₁ hid hv₁
    -- The way back to the middle ends beside what was bound there, and goes on from there.
    have hsound := hw₁.sound (hb'.obey_of_crumbs h'.crumbs) (hb'.bound id name v₂ hv₂)
    obtain ⟨w₂, hw₂, hww₂⟩ := hw.congr (hb.obey_of_crumbs h.crumbs) (hb.bound id name v₁ hv₁) hsound
      hwv₁.symm
    exact ⟨v₂, w₂, hv₂, hw₁.append hw₂, hww₂.symm.trans hwv⟩

end Retraces

/-! ### Rolling back -/

/-- The breadcrumbs added since the machine `m₁` can be restored one after the other in scopes
    that satisfy `S`, as for every name they lead back to some value. -/
structure Restorable (S : ScopeId → Prop) (m₁ : Machine) (cs : List Breadcrumb) (m : Machine) :
    Prop where
  crumbs : m.ledger.crumbs = cs ++ m₁.ledger.crumbs
  skeleton : m.scopes.skeleton = m₁.scopes.skeleton
  fits : ∀ c ∈ cs, c.Fits m₁.scopes
  names : ∀ id name, S id → m₁.scopes.contains id →
    (m.scopes.look id name = none ∧ ∀ c ∈ cs, ¬c.Concerns id name) ∨
      ∃ v w, m.scopes.look id name = some v ∧ Undone id name cs v w

/-- What the names in the scopes that are live have become is what breadcrumbs led back to. -/
def LedBack (m : Machine) (cs : List Breadcrumb) (m' : Machine) (ds : List Breadcrumb) : Prop :=
  ∀ id name, m.scopes.contains id →
    (m.scopes.look id name = none → (∀ c ∈ cs, ¬c.Concerns id name) →
      m'.scopes.look id name = none ∧ ∀ c ∈ ds, ¬c.Concerns id name) ∧
    ∀ v w, m.scopes.look id name = some v → Undone id name cs v w →
      ∃ u, m'.scopes.look id name = some u ∧ Undone id name ds u w

namespace Restorable

variable {m₁ : Machine} {marker : Marker} {c : Breadcrumb} {r : Evaluator} {enclosing : ScopeId}

/-- A breadcrumb that concerns no live scope is passed over. -/
theorem ledBack_pass (hlook : ∀ id name, m'.scopes.look id name = m.scopes.look id name)
    (hc : ∀ id name, m.scopes.contains id → ¬c.Concerns id name) :
    LedBack m (c :: cs) m' cs := by
  refine fun id name hid => ⟨fun hnone hcs => ⟨(hlook id name).trans hnone, ?_⟩, ?_⟩
  · exact (List.forall_mem_cons.1 hcs).2
  · exact fun v w hv hw => ⟨v, (hlook id name).trans hv, hw.of_pass (hc id name hid)⟩

/-- A breadcrumb is restored by binding the name it concerns to what it leads back to. -/
theorem ledBack_define {scope : ScopeId} {n : String} {ss : Scopes}
    (hd : m.scopes.define scope n u = .ok ss) (hss : m'.scopes = ss)
    (hc : ∀ id name, c.Concerns id name ↔ scope = id ∧ n = name)
    (hu : ∀ v w, m.scopes.look scope n = some v → Undone scope n (c :: cs) v w →
      Undone scope n cs u w) : LedBack m (c :: cs) m' cs := by
  have hlook := Scopes.look_define hd
  intro id name hid
  refine ⟨fun hnone hcs => ?_, fun v w hv hw => ?_⟩
  · obtain ⟨hc', hcs⟩ := List.forall_mem_cons.1 hcs
    rw [hc] at hc'
    exact ⟨by rw [hss, hlook, if_neg hc', hnone], hcs⟩
  · rw [hss, hlook]
    by_cases h : scope = id ∧ n = name
    · obtain ⟨rfl, rfl⟩ := h
      exact ⟨u, if_pos ⟨rfl, rfl⟩, hu v w hv hw⟩
    · exact ⟨v, by rw [if_neg h, hv], hw.of_pass (mt (hc id name).1 h)⟩

theorem next (h : Restorable S m₁ (c :: cs) m)
    (hcrumbs : m'.ledger.crumbs = cs ++ m₁.ledger.crumbs)
    (hskeleton : m'.scopes.skeleton = m.scopes.skeleton) (hled : LedBack m (c :: cs) m' cs) :
    Restorable S m₁ cs m' where
  crumbs := hcrumbs
  skeleton := hskeleton.trans h.skeleton
  fits := (List.forall_mem_cons.1 h.fits).2
  names id name hS hid := by
    have hlive : m.scopes.contains id := by rwa [Scopes.contains_congr h.skeleton]
    obtain ⟨hnone, hsome⟩ := hled id name hlive
    rcases h.names id name hS hid with ⟨hlook, hcs⟩ | ⟨v, w, hv, hw⟩
    · exact .inl (hnone hlook hcs)
    · obtain ⟨u, hu, huw⟩ := hsome v w hv hw
      exact .inr ⟨u, w, hu, huw⟩

section

variable (hmarker : ∃ old, m₁.ledger.crumbs = .marker marker :: old)
  (hhorizon : marker.horizon = m₁.scopes.nextSerial)
include hhorizon

/-- What was recorded in a scope that is gone need not be restored. -/
theorem encloses_of_gone (h : Restorable S m₁ cs m) {scope : ScopeId}
    (hfits : m₁.scopes.contains scope ∨ m₁.scopes.nextSerial ≤ scope.serial)
    (hgone : ¬m.scopes.contains scope) : marker.encloses scope.serial := by
  rw [Scopes.contains_congr h.skeleton] at hgone
  rw [Marker.encloses, hhorizon, decide_eq_true_eq]
  exact hfits.resolve_left hgone

/-- The newest breadcrumb is restored, and so can be the others. -/
theorem restore (h : Restorable (fun _ => True) m₁ (c :: cs) m) {l : Ledger}
    (hl : l.crumbs = cs ++ m₁.ledger.crumbs) :
    ∃ m', r.restore marker enclosing c { m with ledger := l } = some (.ok (), m') ∧
      Restorable (fun _ => True) m₁ cs m' ∧ LedBack m (c :: cs) m' cs := by
  have hfits := h.fits c List.mem_cons_self
  have hgone : ∀ {scope}, (∀ id name, c.Concerns id name → scope = id) →
      ¬m.scopes.contains scope → LedBack m (c :: cs) { m with ledger := l } cs :=
    fun hc hgone => ledBack_pass (fun _ _ => rfl) fun id name hid h => hgone (hc id name h ▸ hid)
  cases c with
  | marker => exact absurd hfits id
  | replay => exact absurd hfits id
  | binding scope n previous =>
    by_cases hlive : m.scopes.contains scope
    · obtain ⟨ss, hd⟩ : ∃ ss, m.scopes.define scope n previous = .ok ss :=
        ⟨_, Scopes.define_eq hlive n previous⟩
      have hled : LedBack m (.binding scope n previous :: cs)
          { m with ledger := l, scopes := ss } cs := by
        refine ledBack_define hd rfl (fun _ _ => Iff.rfl) fun v w _ hw => ?_
        cases hw with
        | pass hc => exact absurd ⟨rfl, rfl⟩ hc
        | binding hw => exact hw
      refine ⟨{ m with ledger := l, scopes := ss }, ?_, h.next hl (Scopes.skeleton_define hd) hled,
        hled⟩
      have hupd := Run.updateScopes_eq (m := { m with ledger := l })
        (f := fun ss => ss.define scope n previous) hd
      exact (Run.whenRestorable_live (m := { m with ledger := l }) hlive).trans hupd
    · have hled := hgone (fun _ _ hc => hc.1) hlive
      refine ⟨{ m with ledger := l }, ?_, h.next hl rfl hled, hled⟩
      exact Run.whenRestorable_gone (m := { m with ledger := l }) hlive
        (h.encloses_of_gone hhorizon hfits hlive)
  | entry scope n path previous =>
    obtain ⟨hscope, key, value, rfl⟩ := hfits
    by_cases hlive : m.scopes.contains scope
    · -- The name is bound, to something the entry can be stored back in.
      obtain ⟨bound, updated, hbound, hu⟩ : ∃ bound updated,
          m.scopes.look scope n = some bound ∧
            bound.updatePath (path ++ [key]) value = .ok updated := by
        rw [Scopes.contains_congr h.skeleton] at hlive
        rcases h.names scope n trivial hlive with ⟨-, hcs⟩ | ⟨v, w, hv, hw⟩
        · exact absurd ⟨rfl, rfl⟩ (List.forall_mem_cons.1 hcs).1
        · cases hw with
          | pass hc => exact absurd ⟨rfl, rfl⟩ hc
          | entry hu => exact ⟨v, _, hv, hu⟩
      obtain ⟨ss, hd⟩ : ∃ ss, m.scopes.define scope n updated = .ok ss :=
        ⟨_, Scopes.define_eq hlive n updated⟩
      have hled : LedBack m (.entry scope n path (.pair key value) :: cs)
          { m with ledger := l, scopes := ss } cs := by
        refine ledBack_define hd rfl (fun _ _ => Iff.rfl) fun v w hv hw => ?_
        obtain rfl := Option.some.inj (hbound.symm.trans hv)
        cases hw with
        | pass hc => exact absurd ⟨rfl, rfl⟩ hc
        | entry hu' hw =>
          obtain rfl := Except.ok.inj (hu.symm.trans hu')
          exact hw
      refine ⟨{ m with ledger := l, scopes := ss }, ?_, h.next hl (Scopes.skeleton_define hd) hled,
        hled⟩
      have hupd := Run.updateScopes_eq (m := { m with ledger := l })
        (f := fun ss => ss.restoreEntry scope n path (.pair key value))
        ((Scopes.restoreEntry_eq hbound hu).trans hd)
      exact (Run.whenRestorable_live (m := { m with ledger := l }) hlive).trans hupd
    · have hled := hgone (fun _ _ hc => hc.1) hlive
      refine ⟨{ m with ledger := l }, ?_, h.next hl rfl hled, hled⟩
      exact Run.whenRestorable_gone (m := { m with ledger := l }) hlive
        (h.encloses_of_gone hhorizon hscope hlive)

include hmarker

variable (r enclosing) in
/-- All breadcrumbs are restored, and each name is bound to what they lead back to. -/
theorem exists_restores (h : Restorable (fun _ => True) m₁ cs m) :
    ∃ m', r.Restores marker enclosing m cs m' ∧ m'.ledger.popAbove marker = none ∧
      Restorable (fun _ => True) m₁ [] m' ∧ LedBack m cs m' [] := by
  obtain ⟨old, hold⟩ := hmarker
  induction cs generalizing m with
  | nil =>
    refine ⟨m, .nil m, Ledger.popAbove_marker (h.crumbs.trans hold), h, fun id name _ => ?_⟩
    exact ⟨fun hnone hcs => ⟨hnone, hcs⟩, fun v w hv hw => ⟨v, hv, hw⟩⟩
  | cons c cs ih =>
    have hc : c ≠ .marker marker := by
      rintro rfl
      exact h.fits _ List.mem_cons_self
    obtain ⟨l, hpop, hl⟩ := Ledger.popAbove_cons h.crumbs hc
    obtain ⟨m₂, hrestore, h₂, hled⟩ := h.restore hhorizon hl
    obtain ⟨m', hrest, hend, h', hled'⟩ := ih h₂
    refine ⟨m', .cons hpop hrestore hrest, hend, h', fun id name hid => ?_⟩
    have hid₂ : m₂.scopes.contains id := by
      rwa [Scopes.contains_congr h₂.skeleton, ← Scopes.contains_congr h.skeleton]
    -- What the first breadcrumb leads back to is where the others go on from.
    obtain ⟨hnone, hsome⟩ := hled id name hid
    obtain ⟨hnone', hsome'⟩ := hled' id name hid₂
    refine ⟨fun hlook hcs => ?_, fun v w hv hw => ?_⟩
    · obtain ⟨hlook₂, hcs₂⟩ := hnone hlook hcs
      exact hnone' hlook₂ hcs₂
    · obtain ⟨u, hu, huw⟩ := hsome v w hv hw
      exact hsome' u w hu huw

end

end Restorable

namespace Retraces

variable {m₁ m₂ : Machine}

theorem restorable (h : Retraces S m₁ m₂ added) (hb : Bracketed .plain m₁ m₂) :
    Restorable S m₁ added m₂ where
  crumbs := h.crumbs
  skeleton := hb.skeleton
  fits := h.fits
  names id name hS hid := by
    -- Where the breadcrumbs lead to does not matter, as long as they lead somewhere.
    cases hv : m₁.scopes.look id name with
    | none => exact .inl (h.unbound id name hS hid hv)
    | some v =>
      obtain ⟨v', w, hv', hw, -⟩ := h.bound id name v hS hv
      exact .inr ⟨v', w, hv', hw⟩

/-- The rollback goes to its end, and nothing is left to take back. -/
theorem restores (h : Retraces (fun _ => True) m₁ m₂ added) (hb : Bracketed .plain m₁ m₂)
    {marker : Marker} (hmarker : ∃ old, m₁.ledger.crumbs = .marker marker :: old)
    (hhorizon : marker.horizon = m₁.scopes.nextSerial) (r : Evaluator) (enclosing : ScopeId) :
    ∃ m₃, r.Restores marker enclosing m₂ added m₃ ∧ m₃.ledger.popAbove marker = none ∧
      Retraces (fun _ => True) m₁ m₃ [] := by
  obtain ⟨m₃, hcs, hend, h₃, hled⟩ := (h.restorable hb).exists_restores r enclosing hmarker hhorizon
  have hlive : ∀ id, m₂.scopes.contains id = m₁.scopes.contains id :=
    Scopes.contains_congr hb.skeleton
  refine ⟨m₃, hcs, hend, h₃.crumbs, h₃.fits, fun id name _ hid hnone => ?_,
    fun id name v _ hv => ?_⟩
  · obtain ⟨hnone₂, hcs⟩ := h.unbound id name trivial hid hnone
    exact (hled id name ((hlive id).trans hid)).1 hnone₂ hcs
  · obtain ⟨v₂, w, hv₂, hw, hwv⟩ := h.bound id name v trivial hv
    have hid : m₂.scopes.contains id := Scopes.contains_of_look hv₂
    obtain ⟨u, hu, huw⟩ := (hled id name hid).2 v₂ w hv₂ hw
    exact ⟨u, w, hu, huw, hwv⟩

end Retraces

end Retrace
