import Retrace.Proofs.Rooted

/-!
# Handles in any order

Scopes may be pushed below any handle there has been, be it stale or not. What is
asked of them and answered is a history (`Scopes.History`), and it alone decides
which handles are accepted: those whose scope was pushed and has not been
discarded since (`Scopes.Live`), also when another scope stands in the slot now.
For no handle is given twice.

A search for a name goes from a handle to that of the parent (`Scopes.Search`).
It ends wherever it starts, since a parent has a smaller serial number than its
child. If all scopes were pushed below live ones, the scopes are rooted
(`Scopes.Rooted`), and a search that starts from a live handle goes along the
handles the history gives (`Scopes.Chain`), to the nearest one where the name is
bound.
-/

namespace Retrace

namespace Scopes

/-- What can be asked of scopes. -/
inductive Operation where
  | push (parent : ScopeId)
  | pop (id : ScopeId)
  | discardLocals
  | define (id : ScopeId) (name : String) (value : Value)
  | set (id : ScopeId) (name : String) (value : Value)
  | defineGlobal (name : String) (value : Value)
  | get (id : ScopeId) (name : String)

/-- What is answered to an operation. -/
inductive Reply where
  | pushed (id : ScopeId)
  | got (value : Value)
  | done
  | refused (failure : Failure)

/-- Carries out an operation. One that is refused leaves the scopes as they are. -/
def perform (ss : Scopes) : Operation → Reply × Scopes
  | .push parent => (.pushed (ss.push parent).1, (ss.push parent).2)
  | .pop id => (.done, ss.discard id)
  | .discardLocals => (.done, ss.discardLocals)
  | .define id name v =>
    match ss.define id name v with
    | .ok ss' => (.done, ss')
    | .error e => (.refused e, ss)
  | .set id name v =>
    match ss.set id name v with
    | .ok ss' => (.done, ss')
    | .error e => (.refused e, ss)
  | .defineGlobal name v => (.done, ss.defineGlobal name v)
  | .get id name =>
    match ss.get id name with
    | .ok v => (.got v, ss)
    | .error e => (.refused e, ss)

/-- An operation with what was answered to it. -/
abbrev Event := Operation × Reply

/-- The handle that was given, if one was. -/
def Reply.pushed? : Reply → Option ScopeId
  | pushed id => some id
  | _ => none

/-- The handles given in a history, with the newest event first, and the global one. -/
def handles (events : List Event) : List ScopeId :=
  events.filterMap (fun e => e.2.pushed?) ++ [global]

/-- Whether a scope was pushed and has been neither popped nor discarded since. The global one
    always stays. -/
def Live (events : List Event) (id : ScopeId) : Prop :=
  id = global ∨ ∃ later parent earlier,
    events = later ++ (.push parent, .pushed id) :: earlier ∧
      ∀ e ∈ later, e.1 ≠ .pop id ∧ e.1 ≠ .discardLocals

/-- Whether a parent is a handle that has been given, and what is popped is the last of the
    scopes and not the global one. -/
def Operation.Fits (events : List Event) (ss : Scopes) : Operation → Prop
  | .push parent => parent ∈ handles events
  | .pop id => id ≠ global ∧ ss.contains id ∧ id.slot + 1 = ss.row.size
  | _ => True

/-- What can have been asked and answered, and what scopes there are then. -/
inductive History : List Event → Scopes → Prop
  | start : History [] initial
  | step {events : List Event} {ss ss' : Scopes} {op : Operation} {reply : Reply} :
      History events ss → op.Fits events ss → ss.perform op = (reply, ss') →
      History ((op, reply) :: events) ss'

/-- Every scope was pushed below one that was live then. -/
def ParentsLive (events : List Event) : Prop :=
  ∀ later parent id earlier, events = later ++ (.push parent, .pushed id) :: earlier →
    Live earlier parent

/-- The handles from `id` to the global one, going from each to the one it was pushed below. -/
inductive Chain (events : List Event) : ScopeId → List ScopeId → Prop
  | global : Chain events global [global]
  | pushed {parent id : ScopeId} {ids : List ScopeId} : (.push parent, .pushed id) ∈ events →
      Chain events parent ids → Chain events id (id :: ids)

/-- What comes of looking for `name` in the scope `id` alone: an answer, or the scope in which to
    go on. -/
def visit (ss : Scopes) (name : String) (id : ScopeId) :
    Except Failure (Option ScopeId) ⊕ ScopeId :=
  match ss.scope id with
  | .error e => .inl (.error e)
  | .ok s =>
    if s.bindings.binds name then .inl (.ok (some id))
    else match s.parent with
      | some parent => .inr parent
      | none => .inl (.ok none)

/-- The search for the innermost scope that binds `name`, seen from the scope `id`, comes to an
    end with an answer. -/
inductive Search (ss : Scopes) (name : String) : ScopeId → Except Failure (Option ScopeId) → Prop
  | done {id : ScopeId} {answer : Except Failure (Option ScopeId)} :
      ss.visit name id = .inl answer → Search ss name id answer
  | up {id parent : ScopeId} {answer : Except Failure (Option ScopeId)} :
      ss.visit name id = .inr parent → Search ss name parent answer → Search ss name id answer

/-- The live scopes from `id` to one that has no parent, going from each to its parent. -/
inductive Lineage (ss : Scopes) : ScopeId → List ScopeId → Prop
  | root {id : ScopeId} : ss.skeleton[id.slot]? = some (id.serial, none) → Lineage ss id [id]
  | child {id parent : ScopeId} {ids : List ScopeId} :
      ss.skeleton[id.slot]? = some (id.serial, some parent) → Lineage ss parent ids →
      Lineage ss id (id :: ids)

variable {ss ss' : Scopes} {events : List Event} {e : Event} {id parent : ScopeId}
  {name : String} {v : Value} {n : Nat}

/-! ### Stale handles -/

theorem scope_stale (h : ¬ss.contains id) : ss.scope id = .error (.staleScope id.serial) := by
  rw [scope]
  cases hs : ss.scope? id with
  | none => rfl
  | some s => exact absurd (by rw [contains, hs]; rfl) h

theorem owner?_stale (h : ¬ss.contains id) (name : String) :
    ss.owner? id name = .error (.staleScope id.serial) := by
  rw [owner?, ownerAmong, scope_stale h]
  rfl

/-- Nothing is bound or read through a handle to a scope that is gone. -/
theorem perform_stale (h : ¬ss.contains id) (name : String) (v : Value) :
    ss.perform (.define id name v) = (.refused (.staleScope id.serial), ss) ∧
      ss.perform (.set id name v) = (.refused (.staleScope id.serial), ss) ∧
      ss.perform (.get id name) = (.refused (.staleScope id.serial), ss) := by
  simp only [perform, define, set, get, owner, scope_stale h, owner?_stale h, bind, Except.bind,
    and_self]

/-- A handle is accepted if it refers to a live scope. -/
theorem accepted_iff (ss : Scopes) (id : ScopeId) (name : String) (v : Value) :
    ((∃ s, ss.scope id = .ok s) ↔ ss.contains id) ∧
      ((∃ o, ss.getLocal id name = .ok o) ↔ ss.contains id) ∧
      ((∃ ss', ss.define id name v = .ok ss') ↔ ss.contains id) :=
  ⟨⟨fun ⟨_, h⟩ => contains_of_scope h, exists_scope⟩,
    ⟨fun ⟨_, h⟩ => (getLocal_eq_ok h).1, fun h => ⟨_, getLocal_eq h name⟩⟩,
    ⟨fun ⟨_, h⟩ => (define_eq_ok h).1, fun h => ⟨_, define_eq h name v⟩⟩⟩

/-- Whether an operation neither pushes nor discards a scope. -/
def Operation.Rebinds : Operation → Prop
  | .push _ => False
  | .pop _ => False
  | .discardLocals => False
  | _ => True

theorem perform_rebinds (ss : Scopes) {op : Operation} (h : op.Rebinds) :
    (ss.perform op).2.skeleton = ss.skeleton ∧ (ss.perform op).2.nextSerial = ss.nextSerial ∧
      (ss.perform op).1.pushed? = none := by
  cases op with
  | push | pop | discardLocals => exact absurd h id
  | defineGlobal name v => exact ⟨skeleton_modify .., rfl, rfl⟩
  | define id name v =>
    simp only [perform]
    cases hd : ss.define id name v with
    | ok ss' => exact ⟨skeleton_define hd, nextSerial_define hd, rfl⟩
    | error e => exact ⟨rfl, rfl, rfl⟩
  | set id name v =>
    simp only [perform]
    cases hs : ss.set id name v with
    | ok ss' =>
      obtain ⟨owner, -, hd⟩ := Failure.exists_of_bind hs
      exact ⟨skeleton_define hd, nextSerial_define hd, rfl⟩
    | error e => exact ⟨rfl, rfl, rfl⟩
  | get id name =>
    simp only [perform]
    cases ss.get id name <;> exact ⟨rfl, rfl, rfl⟩

/-! ### What is live -/

/-- A scope is live if it is the newest one, or it was live and is not discarded. -/
theorem live_cons_iff :
    Live (e :: events) id ↔ id = global ∨ (∃ parent, e = (.push parent, .pushed id)) ∨
      Live events id ∧ e.1 ≠ .pop id ∧ e.1 ≠ .discardLocals := by
  constructor
  · rintro (h | ⟨later, parent, earlier, hevents, hlater⟩)
    · exact .inl h
    · cases later with
      | nil => exact .inr (.inl ⟨parent, (List.cons.inj hevents).1⟩)
      | cons first later =>
        obtain ⟨rfl, rfl⟩ := List.cons.inj hevents
        obtain ⟨hfirst, hlater⟩ := List.forall_mem_cons.1 hlater
        exact .inr (.inr ⟨.inr ⟨later, parent, earlier, rfl, hlater⟩, hfirst⟩)
  · rintro (h | ⟨parent, rfl⟩ | ⟨h | ⟨later, parent, earlier, rfl, hlater⟩, hfirst⟩)
    · exact .inl h
    · exact .inr ⟨[], parent, events, rfl, List.forall_mem_nil _⟩
    · exact .inl h
    · exact .inr ⟨e :: later, parent, earlier, rfl, List.forall_mem_cons.2 ⟨hfirst, hlater⟩⟩

theorem mem_handles_of_mem (h : (.push parent, .pushed id) ∈ events) : id ∈ handles events :=
  List.mem_append_left _ (List.mem_filterMap.2 ⟨_, h, rfl⟩)

theorem handles_cons_of_none (h : e.2.pushed? = none) : handles (e :: events) = handles events := by
  rw [handles, handles, List.filterMap_cons_none (by exact h)]

theorem contains_take (ss : Scopes) (n : Nat) (id : ScopeId) :
    ({ ss with row := ss.row.take n } : Scopes).contains id ↔ id.slot < n ∧ ss.contains id := by
  rw [contains, contains, scope?_take]
  by_cases h : id.slot < n <;> simp [h]

theorem skeleton_of_take {i : Nat} {x : Nat × Option ScopeId}
    (h : ({ ss with row := ss.row.take n } : Scopes).skeleton[i]? = some x) :
    i < n ∧ ss.skeleton[i]? = some x := by
  rw [skeleton_take, List.getElem?_take] at h
  split at h
  · exact ⟨‹_›, h⟩
  · exact absurd h (by simp)

/-- Every scope is younger than its parent. -/
def Older (ss : Scopes) : Prop :=
  ∀ (slot serial : Nat) (parent : ScopeId), ss.skeleton[slot]? = some (serial, some parent) →
    parent.serial < serial

namespace Older

theorem congr (h : ss.Older) (hskeleton : ss'.skeleton = ss.skeleton) : ss'.Older := by
  rw [Older, hskeleton]
  exact h

theorem take (h : ss.Older) (n : Nat) : ({ ss with row := ss.row.take n } : Scopes).Older :=
  fun slot serial parent hslot => h slot serial parent (skeleton_of_take hslot).2

theorem push (h : ss.Older) (hparent : parent.serial < ss.nextSerial) :
    (ss.push parent).2.Older := by
  intro slot serial p hslot
  rw [skeleton_push] at hslot
  by_cases hlt : slot < ss.skeleton.length
  · rw [List.getElem?_append_left hlt] at hslot
    exact h slot serial p hslot
  · rw [List.getElem?_append_right (Nat.le_of_not_lt hlt), List.getElem?_singleton] at hslot
    split at hslot
    · obtain ⟨rfl, hp⟩ := Prod.mk.inj (Option.some.inj hslot)
      obtain rfl := Option.some.inj hp
      exact hparent
    · exact absurd hslot (by simp)

end Older

/-- How the scopes stand after a history. -/
structure Held (events : List Event) (ss : Scopes) : Prop where
  live : ∀ id, ss.contains id ↔ Live events id
  /-- The serial numbers that are still to come have not been given yet. -/
  fresh : ∀ id ∈ handles events, id.serial < ss.nextSerial
  nodup : (handles events).Nodup
  first : ss.skeleton[0]? = some (0, none)
  older : ss.Older
  pushed : ∀ parent id, (.push parent, .pushed id) ∈ events → ss.contains id →
    ss.skeleton[id.slot]? = some (id.serial, some parent)

namespace Held

theorem start : Held [] initial where
  live id := by
    constructor
    · intro h
      have hslot : id.slot = 0 := Nat.lt_one_iff.1 (slot_lt h)
      exact .inl (eq_of_slot_eq h (show initial.contains global from rfl) hslot)
    · rintro (rfl | ⟨later, parent, earlier, hevents, -⟩)
      · rfl
      · exact absurd hevents (by simp)
  fresh id h := by
    obtain rfl := List.mem_singleton.1 h
    exact Nat.one_pos
  nodup := List.pairwise_singleton _ _
  first := rfl
  older slot serial parent h := by
    cases slot <;> exact absurd h (by simp [skeleton, initial])
  pushed parent id h := absurd h List.not_mem_nil

theorem global (h : Held events ss) : ss.contains global :=
  (h.live _).2 (.inl rfl)

/-- What neither pushes nor discards changes nothing in this. -/
theorem rebound {op : Operation} (h : Held events ss) (hop : op.Rebinds) :
    Held ((op, (ss.perform op).1) :: events) (ss.perform op).2 := by
  obtain ⟨hskeleton, hnext, hreply⟩ := perform_rebinds ss hop
  generalize (ss.perform op).1 = reply, (ss.perform op).2 = ss' at hskeleton hnext hreply
  have hhandles : handles ((op, reply) :: events) = handles events := handles_cons_of_none hreply
  have hpushed {parent id : ScopeId} : ((op, reply) : Event) ≠ (.push parent, .pushed id) := by
    intro he
    obtain ⟨rfl, -⟩ := Prod.mk.inj he
    exact hop
  exact {
    live := fun id => by
      rw [contains_congr hskeleton, h.live, live_cons_iff]
      constructor
      · refine fun hlive => .inr (.inr ⟨hlive, ?_⟩)
        constructor <;> (rintro rfl; exact hop)
      · rintro (rfl | ⟨parent, he⟩ | ⟨hlive, -⟩)
        · exact .inl rfl
        · exact absurd he hpushed
        · exact hlive
    fresh := by rw [hhandles, hnext]; exact h.fresh
    nodup := hhandles ▸ h.nodup
    first := hskeleton ▸ h.first
    older := h.older.congr hskeleton
    pushed := fun parent id hid hlive => by
      rw [contains_congr hskeleton] at hlive
      rcases List.mem_cons.1 hid with he | hid
      · exact absurd he.symm hpushed
      · exact hskeleton ▸ h.pushed parent id hid hlive }

/-- What is discarded is at the end of the row, and the global scope stays. -/
theorem take (h : Held events ss) (hreply : e.2.pushed? = none) (hn : 0 < n)
    (hlive : ∀ id, id.slot < n ∧ ss.contains id ↔
      id = Scopes.global ∨ Live events id ∧ e.1 ≠ .pop id ∧ e.1 ≠ .discardLocals) :
    Held (e :: events) { ss with row := ss.row.take n } where
  live id := by
    rw [contains_take, hlive, live_cons_iff]
    refine or_congr_right ⟨.inr, ?_⟩
    rintro (⟨parent, rfl⟩ | hlive)
    · exact absurd hreply (by simp [Reply.pushed?])
    · exact hlive
  fresh id hid := by
    rw [handles_cons_of_none hreply] at hid
    exact h.fresh id hid
  nodup := by
    rw [handles_cons_of_none hreply]
    exact h.nodup
  first := by rw [skeleton_take, List.getElem?_take_of_lt hn, h.first]
  older := h.older.take n
  pushed parent id hid hlive := by
    obtain ⟨hslot, hlive⟩ := (contains_take ss n id).1 hlive
    rcases List.mem_cons.1 hid with rfl | hid
    · exact absurd hreply (by simp [Reply.pushed?])
    · rw [skeleton_take, List.getElem?_take_of_lt hslot, h.pushed parent id hid hlive]

theorem push (h : Held events ss) (hparent : parent ∈ handles events) :
    Held ((.push parent, .pushed (ss.push parent).1) :: events) (ss.push parent).2 where
  live id := by
    rw [live_cons_iff]
    constructor
    · intro hid
      rcases contains_of_push hid with hid | rfl
      · exact .inr (.inr ⟨(h.live id).1 hid, by simp, by simp⟩)
      · exact .inr (.inl ⟨parent, rfl⟩)
    · rintro (rfl | ⟨parent', he⟩ | ⟨hid, -⟩)
      · exact contains_push h.global parent
      · obtain rfl := Reply.pushed.inj (Prod.mk.inj he).2
        exact contains_push_self ss parent
      · exact contains_push ((h.live id).2 hid) parent
  fresh id hid := by
    rcases List.mem_cons.1 hid with rfl | hid
    · exact Nat.lt_succ_self _
    · exact Nat.lt_succ_of_lt (h.fresh id hid)
  nodup := List.nodup_cons.2 ⟨fun hid => Nat.lt_irrefl _ (h.fresh _ hid), h.nodup⟩
  first := by
    rw [skeleton_push, List.getElem?_append_left (List.getElem?_eq_some_iff.1 h.first).1]
    exact h.first
  older := h.older.push (h.fresh _ hparent)
  pushed p id hid hlive := by
    rw [skeleton_push]
    rcases List.mem_cons.1 hid with he | hid
    · obtain ⟨hop, hreply⟩ := Prod.mk.inj he
      obtain rfl := Operation.push.inj hop
      obtain rfl := Reply.pushed.inj hreply
      have hslot : (ss.push p).1.slot = ss.skeleton.length := (length_skeleton ss).symm
      rw [hslot, List.getElem?_concat_length]
      rfl
    · -- The new scope has not been pushed before.
      rcases contains_of_push hlive with hlive | rfl
      · rw [List.getElem?_append_left (length_skeleton ss ▸ slot_lt hlive)]
        exact h.pushed p id hid hlive
      · exact absurd (h.fresh _ (mem_handles_of_mem hid)) (Nat.lt_irrefl _)

theorem slot_pos (h : Held events ss) (hid : ss.contains id) (hglobal : id ≠ Scopes.global) :
    0 < id.slot :=
  Nat.pos_of_ne_zero fun h0 => hglobal (eq_of_slot_eq hid h.global h0)

theorem perform {op : Operation} (h : Held events ss) (hfits : op.Fits events ss) :
    Held ((op, (ss.perform op).1) :: events) (ss.perform op).2 := by
  cases op with
  | push parent => exact h.push hfits
  | pop id =>
    obtain ⟨hglobal, hid, hlast⟩ := hfits
    refine h.take rfl (h.slot_pos hid hglobal) fun id' => ?_
    constructor
    · rintro ⟨hslot, hid'⟩
      refine .inr ⟨(h.live id').1 hid', ?_, by simp⟩
      intro he
      obtain rfl := Operation.pop.inj he
      exact Nat.lt_irrefl _ hslot
    · rintro (rfl | ⟨hid', hpop, -⟩)
      · exact ⟨h.slot_pos hid hglobal, h.global⟩
      · -- Only the last scope is gone.
        have hid' := (h.live id').2 hid'
        have hne : id'.slot ≠ id.slot := fun hslot =>
          hpop (congrArg Operation.pop (eq_of_slot_eq hid' hid hslot).symm)
        have hlt := slot_lt hid'
        exact ⟨by omega, hid'⟩
  | discardLocals =>
    refine h.take rfl Nat.one_pos fun id => ?_
    constructor
    · rintro ⟨hslot, hid⟩
      exact .inl (eq_of_slot_eq hid h.global (Nat.lt_one_iff.1 hslot))
    · rintro (rfl | ⟨-, -, hne⟩)
      · exact ⟨Nat.one_pos, h.global⟩
      · exact absurd rfl hne
  | _ => exact h.rebound (by trivial)

end Held

theorem History.held (h : History events ss) : Held events ss := by
  induction h with
  | start => exact .start
  | step _ hfits he ih =>
    have hheld := ih.perform hfits
    rw [he] at hheld
    exact hheld

/-! ### Searching -/

/-- A search goes on to the parent, or it ends. -/
theorem ownerAmong_succ (ss : Scopes) (name : String) (links : Nat) (id : ScopeId) :
    ss.ownerAmong name (links + 1) id =
      (ss.visit name id).elim (fun answer => answer) (ss.ownerAmong name links) := by
  rw [ownerAmong, visit]
  cases hs : ss.scope id with
  | error e => rfl
  | ok s =>
    simp only [bind, Except.bind]
    split
    · rfl
    · cases s.parent <;> rfl

theorem visit_of_scope {s : Scope} (h : ss.scope id = .ok s) (name : String) :
    ss.visit name id =
      if (ss.look id name).isSome then .inl (.ok (some id))
      else s.parent.elim (.inl (.ok none)) .inr := by
  simp only [visit, h, look_of_scope h, Bindings.binds_eq_isSome_get?]
  cases s.parent <;> rfl

theorem visit_eq_inr (h : ss.visit name id = .inr parent) :
    ss.skeleton[id.slot]? = some (id.serial, some parent) := by
  cases hs : ss.scope id with
  | error e => simp [visit, hs] at h
  | ok s =>
    rw [visit_of_scope hs] at h
    cases hparent : s.parent with
    | none => split at h <;> simp [hparent] at h
    | some p =>
      rw [hparent] at h
      split at h
      · exact absurd h (by simp)
      · obtain rfl : p = parent := Sum.inr.inj h
        exact hparent ▸ skeleton_of_scope hs

/-- As many links as the serial number says are enough for a search to come to its end. -/
theorem Older.search {links : Nat} (h : ss.Older) (hlinks : id.serial < links) (name : String) :
    Search ss name id (ss.ownerAmong name links id) := by
  induction links generalizing id with
  | zero => exact absurd hlinks (Nat.not_lt_zero _)
  | succ links ih =>
    rw [ownerAmong_succ]
    cases hvisit : ss.visit name id with
    | inl answer => exact .done hvisit
    | inr parent =>
      have hlt := h _ _ parent (visit_eq_inr hvisit)
      exact .up hvisit (ih (by omega))

/-- A search has one answer. -/
theorem Search.unique {answer answer' : Except Failure (Option ScopeId)}
    (h : Search ss name id answer) (h' : Search ss name id answer') : answer = answer' := by
  induction h with
  | done hvisit =>
    cases h' with
    | done hvisit' => exact Sum.inl.inj (hvisit.symm.trans hvisit')
    | up hvisit' => exact absurd (hvisit.symm.trans hvisit') (by simp)
  | up hvisit _ ih =>
    cases h' with
    | done hvisit' => exact absurd (hvisit.symm.trans hvisit') (by simp)
    | up hvisit' h' =>
      obtain rfl := Sum.inr.inj (hvisit.symm.trans hvisit')
      exact ih h'

/-- What is found is what a search without end would find. -/
theorem Older.search_iff {answer : Except Failure (Option ScopeId)} (h : ss.Older) :
    Search ss name id answer ↔ ss.owner? id name = answer :=
  have hsearch := h.search (Nat.lt_succ_self id.serial) name
  ⟨hsearch.unique, fun he => he ▸ hsearch⟩

namespace Lineage

variable {ids : List ScopeId}

theorem contains (h : ss.Lineage id ids) : ss.contains id := by
  cases h with
  | root hid => exact contains_iff.2 ⟨_, hid⟩
  | child hid => exact contains_iff.2 ⟨_, hid⟩

/-- A search finds the nearest scope that binds the name. -/
theorem search (h : ss.Lineage id ids) (name : String) :
    Search ss name id (.ok (ids.find? fun i => (ss.look i name).isSome)) := by
  induction h with
  | @root id hid =>
    obtain ⟨s, hs⟩ := exists_scope (contains_iff.2 ⟨_, hid⟩)
    have hparent : s.parent = none :=
      (Prod.mk.inj (Option.some.inj ((skeleton_of_scope hs).symm.trans hid))).2
    refine .done ?_
    rw [visit_of_scope hs, hparent]
    cases hlook : ss.look id name <;> simp [hlook]
  | @child id parent ids hid _ ih =>
    obtain ⟨s, hs⟩ := exists_scope (contains_iff.2 ⟨_, hid⟩)
    have hparent : s.parent = some parent :=
      (Prod.mk.inj (Option.some.inj ((skeleton_of_scope hs).symm.trans hid))).2
    have hvisit := visit_of_scope hs name
    rw [hparent] at hvisit
    by_cases hlook : (ss.look id name).isSome
    · rw [if_pos hlook] at hvisit
      rw [List.find?_cons_of_pos (by exact hlook)]
      exact .done hvisit
    · rw [if_neg hlook] at hvisit
      rw [List.find?_cons_of_neg (by exact hlook)]
      exact .up hvisit ih

end Lineage

/-! ### If parents are live -/

theorem Rooted.take (h : ss.Rooted) (hn : 0 < n) :
    ({ ss with row := ss.row.take n } : Scopes).Rooted where
  global := (contains_take ss n _).2 ⟨hn, h.global⟩
  parents slot serial parent hslot := by
    obtain ⟨hslot, hskeleton⟩ := skeleton_of_take hslot
    obtain ⟨hlt, hparent⟩ := h.parents slot serial parent hskeleton
    exact ⟨hlt, (contains_take ss n _).2 ⟨Nat.lt_trans hlt hslot, hparent⟩⟩

theorem parentsLive_cons_iff :
    ParentsLive (e :: events) ↔
      (∀ parent id, e = (.push parent, .pushed id) → Live events parent) ∧ ParentsLive events := by
  constructor
  · exact fun h => ⟨fun parent id he => h [] parent id events (congrArg (· :: events) he),
      fun later parent id earlier he => h (e :: later) parent id earlier (congrArg (e :: ·) he)⟩
  · rintro ⟨hfirst, hrest⟩ later parent id earlier hevents
    cases later with
    | nil =>
      obtain ⟨he, rfl⟩ := List.cons.inj hevents
      exact hfirst parent id he
    | cons _ later => exact hrest later parent id earlier (List.cons.inj hevents).2

theorem History.rooted (h : History events ss) (hparents : ParentsLive events) : ss.Rooted := by
  induction h with
  | start => exact .of_skeleton rfl
  | @step events ss ss' op reply h hfits he ih =>
    obtain ⟨hfirst, hrest⟩ := parentsLive_cons_iff.1 hparents
    have hrooted := ih hrest
    obtain rfl : (ss.perform op).1 = reply := congrArg Prod.fst he
    obtain rfl : (ss.perform op).2 = ss' := congrArg Prod.snd he
    cases op with
    | push parent => exact hrooted.push ((h.held.live _).2 (hfirst parent _ rfl))
    | pop id => exact hrooted.take (h.held.slot_pos hfits.2.1 hfits.1)
    | discardLocals => exact hrooted.take Nat.one_pos
    | _ => exact hrooted.congr (perform_rebinds _ (by trivial)).1

/-- Each handle is followed by that of the parent, up to the global one. -/
theorem Held.exists_chain (h : Held events ss) (hrooted : ss.Rooted) (hid : ss.contains id) :
    ∃ ids, Chain events id ids := by
  -- The serial numbers fall on the way.
  induction hserial : id.serial using Nat.strongRecOn generalizing id with
  | ind serial ih =>
    rcases (h.live id).1 hid with rfl | ⟨later, parent, earlier, hevents, -⟩
    · exact ⟨_, .global⟩
    · have hmem : (.push parent, .pushed id) ∈ events := by
        rw [hevents]
        exact List.mem_append_right _ List.mem_cons_self
      have hskeleton := h.pushed parent id hmem hid
      have holder := h.older _ _ parent hskeleton
      obtain ⟨ids, hids⟩ :=
        ih parent.serial (hserial ▸ holder) (hrooted.parents _ _ parent hskeleton).2 rfl
      exact ⟨_, .pushed hmem hids⟩

/-- The handles the history gives are those of the parents. -/
theorem Chain.lineage {ids : List ScopeId} (hids : Chain events id ids) (h : Held events ss)
    (hrooted : ss.Rooted) (hid : ss.contains id) : ss.Lineage id ids := by
  induction hids with
  | global => exact .root h.first
  | pushed hmem hids ih =>
    have hskeleton := h.pushed _ _ hmem hid
    exact .child hskeleton (ih (hrooted.parents _ _ _ hskeleton).2)

/-- A handle is accepted exactly if its scope was pushed and has been neither popped nor discarded
    since, whatever stands in its slot, and nothing is read, bound or changed through another one.
    No handle is given twice. A search for a name comes to an end wherever it starts; and if every
    scope was pushed below a live one, a search from a live handle finds the nearest scope where
    the name is bound, on the way from each scope to the one it was pushed below. -/
theorem History.never_alias (h : History events ss) :
    (handles events).Nodup ∧
      (∀ id name v, (ss.contains id ↔ Live events id) ∧
        ((∃ s, ss.scope id = .ok s) ↔ Live events id) ∧
        ((∃ o, ss.getLocal id name = .ok o) ↔ Live events id) ∧
        ((∃ ss', ss.define id name v = .ok ss') ↔ Live events id)) ∧
      (∀ id name v, ¬Live events id →
        ss.perform (.define id name v) = (.refused (.staleScope id.serial), ss) ∧
          ss.perform (.set id name v) = (.refused (.staleScope id.serial), ss) ∧
          ss.perform (.get id name) = (.refused (.staleScope id.serial), ss)) ∧
      (∀ id name answer, Search ss name id answer ↔ ss.owner? id name = answer) ∧
      (ParentsLive events → ∀ id, Live events id → (∃ ids, Chain events id ids) ∧
        ∀ ids, Chain events id ids → ∀ name,
          ss.owner? id name = .ok (ids.find? fun i => (ss.look i name).isSome)) := by
  have hheld := h.held
  refine ⟨hheld.nodup, fun id name v => ?_, fun id name v hid => ?_,
    fun _ _ _ => hheld.older.search_iff, fun hparents id hid => ?_⟩
  · simp only [← hheld.live, true_and]
    exact accepted_iff ss id name v
  · exact perform_stale (fun hlive => hid ((hheld.live id).1 hlive)) name v
  · have hrooted := h.rooted hparents
    have hlive := (hheld.live id).2 hid
    exact ⟨hheld.exists_chain hrooted hlive, fun ids hids name =>
      hheld.older.search_iff.1 ((hids.lineage hheld hrooted hlive).search name)⟩

/-- A scope is pushed and popped, and another one takes its slot. A name is bound there, and a
    third scope is pushed below it. The newest event comes first. -/
def reused : List Event :=
  [(.push ⟨1, 2⟩, .pushed ⟨2, 3⟩), (.define ⟨1, 2⟩ "x" .void, .done),
    (.push global, .pushed ⟨1, 2⟩), (.pop ⟨1, 1⟩, .done), (.push global, .pushed ⟨1, 1⟩)]

/-- What is there then. -/
def reusedScopes : Scopes where
  row := #[⟨0, none, []⟩, ⟨2, some global, [("x", .void)]⟩, ⟨3, some ⟨1, 2⟩, []⟩]
  nextSerial := 4

theorem never_alias_reused :
    History reused reusedScopes ∧ ParentsLive reused ∧ Live reused ⟨2, 3⟩ ∧
      Chain reused ⟨2, 3⟩ [⟨2, 3⟩, ⟨1, 2⟩, global] ∧ ¬Live reused ⟨1, 1⟩ ∧
      reusedScopes.perform (.define ⟨1, 1⟩ "x" .void) = (.refused (.staleScope 1), reusedScopes) ∧
      reusedScopes.owner? ⟨2, 3⟩ "x" = .ok (some ⟨1, 2⟩) := by
  have hfirst : History (reused.drop 4) (initial.push global).2 :=
    .step .start (List.mem_singleton_self _) rfl
  have hpopped : History (reused.drop 3) { row := initial.row, nextSerial := 2 } :=
    .step hfirst ⟨by decide, rfl, rfl⟩ rfl
  have hsecond : History (reused.drop 2) (Scopes.push ⟨initial.row, 2⟩ global).2 :=
    .step hpopped (show _ ∈ handles (reused.drop 3) by decide) rfl
  have hbound : History (reused.drop 1) { row := reusedScopes.row.take 2, nextSerial := 3 } :=
    .step hsecond trivial rfl
  have h : History reused reusedScopes :=
    .step hbound (show _ ∈ handles (reused.drop 1) by decide) rfl
  have hparents : ParentsLive reused := by
    simp only [reused, parentsLive_cons_iff, Prod.mk.injEq, Operation.push.injEq, and_imp,
      reduceCtorEq, false_imp_iff, implies_true, true_and]
    refine ⟨?_, ?_, ?_, ?_⟩
    · rintro _ _ rfl -
      exact .inr ⟨[(.define ⟨1, 2⟩ "x" .void, .done)], _, _, rfl, by simp⟩
    · rintro _ _ rfl -
      exact .inl rfl
    · rintro _ _ rfl -
      exact .inl rfl
    · intro later parent id earlier h
      exact absurd h (by simp)
  have hlive : Live reused ⟨2, 3⟩ := .inr ⟨[], _, _, rfl, List.forall_mem_nil _⟩
  have hchain : Chain reused ⟨2, 3⟩ [⟨2, 3⟩, ⟨1, 2⟩, global] :=
    .pushed (by simp [reused]) (.pushed (by simp [reused]) .global)
  obtain ⟨-, haccepted, hstale, -, hsearch⟩ := h.never_alias
  have hgone : ¬Live reused ⟨1, 1⟩ := fun hlive =>
    absurd ((haccepted ⟨1, 1⟩ "x" .void).1.2 hlive) (by decide)
  refine ⟨h, hparents, hlive, hchain, hgone, (hstale ⟨1, 1⟩ "x" .void hgone).1, ?_⟩
  rw [(hsearch hparents _ hlive).2 _ hchain]
  rfl

end Scopes

end Retrace
