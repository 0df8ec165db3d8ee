import Retrace.Proofs.Assignment
import Retrace.Proofs.Reached
import Retrace.Proofs.Value.Failing

/-!
# Handles that are not stale

Scopes are *rooted* (`Scopes.Rooted`) if the global one is live and the parent of
each live one is live too and stands in front of it. This depends on the
skeleton alone, and a new scope with a live parent keeps it. In rooted scopes a
search that starts from a live scope goes on to live ones only, so what can fail
is only that a name is not bound (`Rooted.get_eq_error`).

A machine is *anchored* (`Machine.Anchored`) if its scopes are rooted and the one
that is being run in is live. Native functions that are called in such a machine
find the scope of their arguments live; so the builtins fail ordinarily
(`Builtin.fails_ordinarily`), and of those of a host it can be asked
(`Host.FailsBy`).
-/

namespace Retrace

namespace Scopes

variable {ss ss' : Scopes} {id parent : ScopeId} {name : String} {e : Failure}

/-- The global scope is live, and so is the parent of every live scope, which stands in front
    of it. -/
structure Rooted (ss : Scopes) : Prop where
  global : ss.contains Scopes.global
  parents : ∀ slot serial parent, ss.skeleton[slot]? = some (serial, some parent) →
    parent.slot < slot ∧ ss.contains parent

theorem skeleton_of_scope {s : Scope} (h : ss.scope id = .ok s) :
    ss.skeleton[id.slot]? = some (id.serial, s.parent) := by
  obtain ⟨hs, hserial⟩ := scope?_eq_some_iff.1 (scope_eq_ok_iff.1 h)
  rw [skeleton, List.getElem?_map, Array.getElem?_toList, hs, ← hserial]
  rfl

theorem contains_push_self (ss : Scopes) (parent : ScopeId) :
    (ss.push parent).2.contains (ss.push parent).1 := by
  refine contains_iff.2 ⟨some parent, ?_⟩
  have hslot : (ss.push parent).1.slot = ss.skeleton.length := (length_skeleton ss).symm
  rw [skeleton_push, hslot, List.getElem?_concat_length]
  rfl

namespace Rooted

theorem congr (h : ss.Rooted) (hskeleton : ss'.skeleton = ss.skeleton) : ss'.Rooted where
  global := contains_congr hskeleton _ ▸ h.global
  parents slot serial parent hslot := by
    rw [contains_congr hskeleton]
    exact h.parents slot serial parent (hskeleton ▸ hslot)

theorem of_skeleton (h : ss.skeleton = [(0, none)]) : ss.Rooted where
  global := contains_iff.2 ⟨none, by rw [h]; rfl⟩
  parents slot serial parent hslot := by
    -- The only scope has no parent.
    rw [h, List.getElem?_singleton] at hslot
    split at hslot <;> exact absurd hslot (by simp)

theorem push (h : ss.Rooted) (hparent : ss.contains parent) : (ss.push parent).2.Rooted where
  global := contains_push h.global parent
  parents slot serial p hslot := by
    rw [skeleton_push] at hslot
    by_cases hlt : slot < ss.skeleton.length
    · rw [List.getElem?_append_left hlt] at hslot
      obtain ⟨hp, hlive⟩ := h.parents slot serial p hslot
      exact ⟨hp, contains_push hlive parent⟩
    · -- Only the new scope stands behind the others, and its parent is live.
      rw [List.getElem?_append_right (Nat.le_of_not_lt hlt), List.getElem?_singleton] at hslot
      split at hslot
      · obtain ⟨-, hp⟩ := Prod.mk.inj (Option.some.inj hslot)
        obtain rfl := Option.some.inj hp
        rw [length_skeleton] at hlt
        exact ⟨Nat.lt_of_lt_of_le (slot_lt hparent) (Nat.le_of_not_lt hlt),
          contains_push hparent _⟩
      · exact absurd hslot (by simp)

/-- The search for the owner of a name goes through live scopes. -/
theorem exists_ownerAmong (h : ss.Rooted) (hid : ss.contains id) (name : String) (links : Nat) :
    ∃ o, ss.ownerAmong name links id = .ok o := by
  induction links generalizing id with
  | zero => exact ⟨none, rfl⟩
  | succ links ih =>
    obtain ⟨s, hs⟩ := exists_scope hid
    simp only [ownerAmong, hs, bind, Except.bind]
    split
    · exact ⟨some id, rfl⟩
    · split
      · rename_i parent hparent
        exact ih (h.parents _ _ parent (hparent ▸ skeleton_of_scope hs)).2
      · exact ⟨none, rfl⟩

theorem owner_eq_error (h : ss.Rooted) (hid : ss.contains id) (he : ss.owner id name = .error e) :
    e = .undefinedName name := by
  obtain ⟨o, ho⟩ := h.exists_ownerAmong hid name (id.serial + 1)
  simp only [Scopes.owner, owner?, ho, bind, Except.bind] at he
  split at he
  · exact absurd he (by simp)
  · exact (Except.error.inj he).symm

theorem get_eq_error (h : ss.Rooted) (hid : ss.contains id) (he : ss.get id name = .error e) :
    e = .undefinedName name := by
  cases ho : ss.owner id name with
  | error e' =>
    simp only [Scopes.get, ho, bind, Except.bind, Except.error.injEq] at he
    exact he ▸ h.owner_eq_error hid ho
  | ok owner =>
    -- What owns a name binds it to something.
    obtain ⟨v, hv⟩ := exists_look_of_owner ho
    rw [Scopes.get, ho] at he
    simp only [bind, Except.bind, getLocal_eq (contains_of_look hv), hv] at he
    exact absurd he (by simp)

end Rooted

end Scopes

theorem Target.ordinary_of_rebinding {t : Target} {ss : Scopes} {id : ScopeId} {v : Value}
    {e : Failure} (h : ss.Rooted) (hid : ss.contains id) (he : t.rebinding ss id v = .error e) :
    e.Ordinary := by
  rcases rebinding_eq_error he with he | ⟨owner, ho, he⟩ | he
  · rw [h.owner_eq_error hid he]
    trivial
  · -- What owns a name is live.
    obtain ⟨bound, hbound⟩ := Scopes.exists_look_of_owner ho
    rw [h.get_eq_error (Scopes.contains_of_look hbound) he]
    trivial
  · exact he.ordinary

/-! ### Native functions -/

namespace NativeM

variable {α : Type} {F : Failure → Prop}

/-- Called where the scope of the arguments is live, and the scopes are rooted, it fails in no
    other way than `F` says. -/
def FailsBy (F : Failure → Prop) (x : NativeM α) : Prop :=
  ∀ call s e s', call.scopes.Rooted → call.scopes.contains call.scope →
    x call s = (.error e, s') → F e

theorem FailsBy.fail {e : Failure} (h : F e) : (fail e : NativeM α).FailsBy F := by
  intro call s e' s' _ _ he
  exact Except.error.inj (congrArg Prod.fst he) ▸ h

end NativeM

/-- The builtins fail ordinarily. -/
theorem Builtin.fails_ordinarily (b : Builtin) (shell : Shell) :
    (b.run shell).FailsBy Failure.Ordinary := by
  intro call s e s' _ hlive h
  -- The arguments are looked up in a live scope, so that only a name can be missing.
  have hfails := b.fails shell (C := fun call => call.scopes.contains call.scope)
    (F := Failure.Ordinary) (fun _ => trivial)
    (fun hlive he => absurd (Scopes.getLocal_eq hlive _ ▸ he) (by simp))
    (fun _ _ => trivial) fun _ _ _ => trivial
  exact hfails call s e s' hlive h

/-- Native functions of the host fail in no other way than `F` says, where the scope of their
    arguments is live. -/
def Host.FailsBy (F : Failure → Prop) (host : Host) : Prop :=
  ∀ key, (host.native key).FailsBy F

/-! ### Machines -/

namespace Machine

variable {m m' : Machine} {D : Discipline}

/-- The scopes are rooted, and the one that is being run in is live. -/
structure Anchored (m : Machine) : Prop where
  rooted : m.scopes.Rooted
  live : m.scopes.contains m.current

namespace Anchored

theorem of_bracketed (h : m.Anchored) (hb : Bracketed D m m') : m'.Anchored where
  rooted := h.rooted.congr hb.skeleton
  live := by
    rw [Scopes.contains_congr hb.skeleton, hb.current]
    exact h.live

theorem of_settled (h : m.Settled) : m.Anchored := by
  have hrooted := Scopes.Rooted.of_skeleton h.scopes
  exact ⟨hrooted, h.current ▸ hrooted.global⟩

theorem enter (h : m.Anchored) {parent : ScopeId} (hparent : m.scopes.contains parent) :
    (m.enter parent).Anchored :=
  ⟨h.rooted.push hparent, Scopes.contains_push_self m.scopes parent⟩

theorem enterCall (h : m.Anchored) : m.enterCall.Anchored :=
  have h' : { m with callDepth := m.callDepth + 1 }.Anchored := ⟨h.rooted, h.live⟩
  h'.enter h.rooted.global

end Anchored

end Machine

/-- The scopes are rooted, and what is run is run in a live one. -/
theorem Reached.anchored {host : Host} {P : Value → Prop} {m : Machine} (h : Reached host P m) :
    m.Anchored := by
  have hlawful := bracketing.lawful (D := .any) host.keeps_any
  induction h with
  | rest h =>
    have hm : Machine.Resting .any _ :=
      .of_session host.keeps_any (fun _ => trivial) (fun _ _ => trivial) h
    exact .of_settled hm.toSettled
  | located l _ ih => exact ⟨ih.rooted, ih.live⟩
  | evaluated hm hr ih =>
    obtain ⟨⟨hb, -⟩, -⟩ := (hlawful.evaluator _).eval _ _ _ _ hm.sane_any.pre hr
    exact ih.of_bracketed hb
  | executed hm hr ih =>
    obtain ⟨⟨hb, -⟩, -⟩ := (hlawful.evaluator _).exec _ trivial _ _ _ hm.sane_any.pre hr
    exact ih.of_bracketed hb
  | block _ ih => exact ih.enter ih.live
  | call hm hdepth hbinds hr ih =>
    obtain ⟨⟨hb, -⟩, -⟩ :=
      hlawful.declareAll (fun _ _ => trivial) _ _ _ (bracketing.pre_enterCall hm.sane_any.pre) hr
    exact ih.enterCall.of_bracketed hb
  | skip _ _ ih => exact ⟨ih.rooted, ih.live⟩
  | @replay m m₂ m₃ marker l l₃ fuel body payload cs scope undo hm hl hbody hcs hpop ih =>
    obtain ⟨hopened, hb₂⟩ := hm.bracketed_body hl hbody
    have hb := bracketing.restores (hlawful.evaluator fuel) hopened
      ⟨_, (Ledger.openSkip_eq_ok hl).2.1⟩ hb₂ hcs
    have hlive : m₃.scopes.contains m.current := by
      rw [Scopes.contains_congr hb.skeleton]
      exact ih.live
    refine ⟨ih.rooted.congr hb.skeleton, ?_⟩
    -- The statement is run where the breadcrumb says, or else around the skip.
    simp only
    split
    · assumption
    · exact hlive
  | reversed hm hl hbody hroll ih =>
    obtain ⟨hopened, hb₂⟩ := hm.bracketed_body hl hbody
    obtain ⟨hb, -⟩ := bracketing.restoreAbove (hlawful.evaluator _) hopened
      ⟨_, (Ledger.openSkip_eq_ok hl).2.1⟩ hb₂ hroll
    exact ih.of_bracketed (bracketing.closeSkip hl hm.sane_any.pre hb)
  | seize _ ih => exact ⟨ih.rooted, ih.live⟩

end Retrace
