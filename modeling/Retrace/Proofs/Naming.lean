import Retrace.Proofs.Undoless

/-!
# Which names there are

A name comes into a scope by a declaration that is run there, or as a parameter
or the variable of a loop in a scope that is new. All else that binds a name
binds one anew that is bound already: an assignment does, and so does the
restoring of a breadcrumb, as the name it takes back was bound when it was
recorded and no name is ever taken out of a scope (`Breadcrumb.Named`).

There is one way round this, and that is a declaration as an undo annotation: it
is replayed in a scope there has been before the skip. In programs without such
annotations (`Stmt.Discreet`) only declarations name something, and only in the
scope they are run in (`Names`). This is no lawful contract, since a block meets
it with declarations inside; but blocks and calls are run in scopes of their own,
and so expressions, and statements that declare nothing, leave every scope with
the names it has (`Reached.sameNames`).
-/

namespace Retrace

/-- Whether it is a declaration. -/
def Stmt.Declares (s : Stmt) : Prop :=
  ∃ d, s.action = .declare d

/-- Whether the name it binds, if it is restored in `ss`, is bound there already. -/
def Breadcrumb.Named (ss : Scopes) : Breadcrumb → Prop
  | .binding scope name _ => ss.contains scope → (ss.look scope name).isSome
  | .replay _ undo => ¬undo.Declares
  | _ => True

/-- The same names are bound in the scopes, except for the one that is being run in if
    `declares` holds, where there may be more. What has been recorded names nothing. -/
structure Names (declares : Prop) (m m' : Machine) : Prop where
  same : ∀ id, (declares → id ≠ m.current) → ∀ name,
    (m'.scopes.look id name).isSome = (m.scopes.look id name).isSome
  kept : ∀ id name, (m.scopes.look id name).isSome → (m'.scopes.look id name).isSome
  crumbs : ∃ added, m'.ledger.crumbs = added ++ m.ledger.crumbs ∧
    ∀ c ∈ added, c.Named m'.scopes

variable {D : Discipline} {declares p q : Prop} {m m' m'' : Machine} {ss : Scopes}

namespace Names

theorem mono (h : Names p m m') (hpq : p → q) : Names q m m' :=
  ⟨fun id hid => h.same id fun hp => hid (hpq hp), h.kept, h.crumbs⟩

/-- Nothing is recorded, and all scopes have the names they had. -/
theorem of_look (hc : m'.ledger.crumbs = m.ledger.crumbs)
    (h : ∀ id name, (m'.scopes.look id name).isSome = (m.scopes.look id name).isSome) :
    Names p m m' :=
  ⟨fun id _ name => h id name, fun id name hbound => (h id name).trans hbound, [], hc,
    List.forall_mem_nil _⟩

theorem refl (m : Machine) : Names p m m :=
  of_look rfl fun _ _ => rfl

theorem trans (h : Names p m m') (h' : Names p m' m'') (hb : Bracketed D m m')
    (hb' : Bracketed D m' m'') : Names p m m'' := by
  obtain ⟨added, hc, hadded⟩ := h.crumbs
  obtain ⟨added', hc', hadded'⟩ := h'.crumbs
  refine ⟨fun id hid name => ?_, fun id name hbound => h'.kept id name (h.kept id name hbound),
    added' ++ added, by rw [hc', hc, List.append_assoc], ?_⟩
  · rw [h'.same id (fun hp => hb.current ▸ hid hp) name, h.same id hid name]
  · refine List.forall_mem_append.2 ⟨hadded', fun c hmem => ?_⟩
    have hnamed := hadded c hmem
    cases c with
    | binding scope name previous =>
      exact fun hlive =>
        h'.kept scope name (hnamed (Scopes.contains_congr hb'.skeleton scope ▸ hlive))
    | replay scope undo => exact hnamed
    | _ => trivial

/-- A name is bound in the scope that is being run in, where that is allowed. -/
theorem declare {name : String} {v : Value} (hp : p)
    (hd : m.scopes.define m.current name v = .ok ss) : Names p m { m with scopes := ss } := by
  refine ⟨fun id hid name' => ?_, Scopes.isSome_look_define hd, [], rfl, List.forall_mem_nil _⟩
  rw [Scopes.look_define hd, if_neg fun h => hid hp h.1.symm]

/-- A breadcrumb is recorded, if any skip is open, and no name comes into being. -/
theorem record {c : Breadcrumb} {l : Ledger} (hl : m.ledger.record c = .ok l) (hc : c.Named ss)
    (h : ∀ id name, (ss.look id name).isSome = (m.scopes.look id name).isSome) :
    Names p m { m with ledger := l, scopes := ss } := by
  obtain ⟨added, hcrumbs, hadded, -⟩ :=
    (Ledger.Extends.record (P := fun c' => c' = c) rfl hl).crumbs
  exact ⟨fun id _ name => h id name, fun id name hbound => (h id name).trans hbound, added,
    hcrumbs, fun c' hmem => hadded c' hmem ▸ hc⟩

/-- What is run in a new scope names nothing outside of it. -/
theorem leave {parent : ScopeId} (h : Names q (m.enter parent) m')
    (hb : Bracketed D (m.enter parent) m') : Names p m (m'.leave m) := by
  have hnew (id : ScopeId) (hslot : id.slot < m.scopes.row.size) :
      id ≠ (m.enter parent).current := by
    rintro rfl
    exact Nat.lt_irrefl _ hslot
  have hlook (id : ScopeId) (name : String) : (m'.leave m).scopes.look id name =
      if id.slot < m.scopes.row.size then m'.scopes.look id name else none :=
    Scopes.look_discard ..
  have hsame (id : ScopeId) (name : String) : ((m'.leave m).scopes.look id name).isSome =
      (m.scopes.look id name).isSome := by
    rw [hlook]
    split
    · rename_i hslot
      rw [h.same id (fun _ => hnew id hslot) name, Machine.enter, Scopes.look_push]
    · rename_i hslot
      cases hv : m.scopes.look id name with
      | none => rfl
      | some v => exact absurd (Scopes.slot_lt (Scopes.contains_of_look hv)) hslot
  obtain ⟨added, hc, hadded⟩ := h.crumbs
  refine ⟨fun id _ name => hsame id name, fun id name hbound => (hsame id name).trans hbound,
    added, hc, fun c hmem => ?_⟩
  have hnamed := hadded c hmem
  cases c with
  | binding scope name previous =>
    intro hlive
    have hlive' : m.scopes.contains scope := by rwa [← Scopes.contains_congr hb.leave.skeleton]
    rw [hlook, if_pos (Scopes.slot_lt hlive')]
    refine hnamed ?_
    rw [Scopes.contains_congr hb.skeleton]
    exact Scopes.contains_push hlive' parent
  | replay scope undo => exact hnamed
  | _ => trivial

/-- What is run as a call names nothing outside of it. -/
theorem leaveCall (h : Names q m.enterCall m') (hb : Bracketed D m.enterCall m') :
    Names p m { m'.leave m with callDepth := m'.callDepth - 1 } := by
  have hleave : Names p { m with callDepth := m.callDepth + 1 } (m'.leave m) := h.leave hb
  exact ⟨hleave.same, hleave.kept, hleave.crumbs⟩

/-- The newest breadcrumb above the marker names nothing, and neither do the others. -/
theorem popAbove {marker : Marker} (h : Names p m m')
    (hmarker : ∃ old, m.ledger.crumbs = .marker marker :: old) {c : Breadcrumb} {l : Ledger}
    (hpop : m'.ledger.popAbove marker = some (c, l)) :
    c.Named m'.scopes ∧ Names p m { m' with ledger := l } := by
  obtain ⟨old, hold⟩ := hmarker
  obtain ⟨added, hc, hadded⟩ := h.crumbs
  obtain ⟨hcrumbs, hne, -⟩ := Ledger.popAbove_eq_some hpop
  cases added with
  | nil =>
    -- Then the marker itself would be on top.
    rw [hc, List.nil_append, hold] at hcrumbs
    exact absurd (List.cons.inj hcrumbs).1.symm hne
  | cons c' added =>
    obtain ⟨rfl, hl⟩ := List.cons.inj (hcrumbs.symm.trans hc)
    obtain ⟨hnamed, hadded⟩ := List.forall_mem_cons.1 hadded
    exact ⟨hnamed, h.same, h.kept, added, hl, hadded⟩

section Open

variable {marker : Marker} {l : Ledger}
  (hl : m.ledger.openSkip m.scopes.nextSerial = .ok (marker, l))
  (hm : (bracketing D).pre m) (hb : Bracketed D { m with ledger := l } m')
  (h : Names p { m with ledger := l } m')
include hl hm hb h

theorem closeSkip : Names p m (m'.closeSkip marker) := by
  obtain ⟨added, hc, hadded⟩ := h.crumbs
  have hcrumbs : m'.ledger.crumbs = added ++ .marker marker :: m.ledger.crumbs :=
    hc.trans (by rw [(Ledger.openSkip_eq_ok hl).2.1])
  have hclose := hb.ledger.crumbs_close hl id hcrumbs
  by_cases hopen : m.ledger.openSkips = 0
  · refine ⟨h.same, h.kept, [], ?_, List.forall_mem_nil _⟩
    exact (hclose.trans (if_pos hopen)).trans (hm.1 hopen).symm
  · exact ⟨h.same, h.kept, added, hclose.trans (if_neg hopen), hadded⟩

theorem discardSkip : Names p m (m'.discardSkip marker) :=
  ⟨h.same, h.kept, [], by rw [bracketing.ledger_discardSkip hl hm hb]; rfl, List.forall_mem_nil _⟩

end Open

end Names

/-! ### The contract -/

variable (D) in
/-- The contract that nothing is named, except in the scope that is being run in if `declares`
    holds. -/
def naming (declares : Prop) : Contract where
  discipline := D
  pre := (bracketing D).pre
  post m e m' := (bracketing D).post m e m' ∧ Names declares m m'
  bound h := h.2
  refl h := ⟨(bracketing D).refl h, .refl _⟩
  fail h := ⟨(bracketing D).fail h, .refl _⟩
  next h h' := (bracketing D).next h h'.1
  trans h h' h'' := ⟨(bracketing D).trans h h'.1 h''.1, h'.2.trans h''.2 h'.1.1 h''.1.1⟩

namespace naming

variable {α : Type} {V : α → Prop} {x : Run α}

/-- It remains to be shown what a run names that brackets what it does. -/
theorem meets (hx : (bracketing D).Meets V x)
    (h : ∀ m r m', (bracketing D).pre m → x m = some (r, m') → Names p m m') :
    (naming D p).Meets V x := by
  intro m r m' hm hr
  obtain ⟨hpost, hV⟩ := hx m r m' hm hr
  exact ⟨⟨hpost, h m r m' hm hr⟩, hV⟩

theorem mono (hx : (naming D p).Meets V x) (hpq : p → q) : (naming D q).Meets V x := by
  intro m r m' hm hr
  obtain ⟨⟨hpost, hnames⟩, hV⟩ := hx m r m' hm hr
  exact ⟨⟨hpost, hnames.mono hpq⟩, hV⟩

theorem meets_inBlock (hx : (naming D q).Meets V x) : (naming D p).Meets V (Run.inBlock x) := by
  intro m r m' hm hr
  obtain ⟨m₁, hr₁, rfl⟩ := Run.inBlock_eq_some hr
  obtain ⟨⟨⟨hb, hcalm⟩, hnames⟩, hV⟩ := hx _ r m₁ (bracketing.pre_enter hm _) hr₁
  exact ⟨⟨⟨hb.leave, hcalm⟩, hnames.leave hb⟩, hV⟩

theorem meets_inCall (hx : (naming D q).Meets V x) : (naming D p).Meets V (Run.inCall x) := by
  intro m r m' hm hr
  obtain ⟨rfl, rfl⟩ | ⟨m₁, -, hr₁, rfl⟩ := Run.inCall_eq_some hr
  · exact ⟨(naming D p).fail hm, trivial⟩
  · obtain ⟨⟨⟨hb, hcalm⟩, hnames⟩, hV⟩ := hx _ r m₁ (bracketing.pre_enterCall hm) hr₁
    exact ⟨⟨⟨hb.leaveCall, hcalm⟩, hnames.leaveCall hb⟩, hV⟩

theorem meets_declare (hp : p) (name : String) {v : Value} (hv : D.value v) :
    (naming D p).Meets (fun _ => True) (Run.declare name v) := by
  refine meets (.bind (V := fun _ => True) (.read fun _ => trivial) fun scope _ =>
    bracketing.meets_define scope name hv) fun m r m' hm hr => ?_
  have hdefine : Run.define m.current name v m = some (r, m') := hr
  obtain ⟨ss, hd, rfl, rfl⟩ | ⟨e, -, rfl, -⟩ := Run.updateScopes_eq_some hdefine
  · exact .declare hp hd
  · exact .refl _

/-- The breadcrumb of an assignment takes back what a name was bound to. -/
theorem named_of_stores {b : Rebinding} {bound v : Value} {path : List Value}
    (h : b.Stores bound v path) (hbound : (ss.look b.owner b.name).isSome) : b.crumb.Named ss := by
  cases h with
  | name => exact fun _ => hbound
  | entry => trivial

theorem meets_store (t : Target) {v : Value} (hpath : ∀ k ∈ t.path, D.value k) (hv : D.value v) :
    (naming D p).Meets (fun _ => True) (Run.store t v) := by
  refine meets (bracketing.meets_store t hpath hv) fun m r m' hm hr => ?_
  obtain ⟨b, m₁, ss, hb, hrecord, hd, rfl, rfl⟩ | ⟨e, rfl, rfl, -⟩ := Run.store_eq_some hr
  · obtain ⟨bound, hlook, hstores⟩ := Target.rebinding_eq_ok hb
    have hbound : (m.scopes.look b.owner b.name).isSome := Option.isSome_of_eq_some hlook
    obtain ⟨-, -, rfl⟩ | ⟨l, -, hl, -, rfl⟩ | ⟨e, he, -⟩ := Run.record_eq_some hrecord
    · exact .of_look rfl (Scopes.isSome_look_rebind hd hbound)
    · have hbound' := Scopes.isSome_look_define hd b.owner b.name hbound
      exact .record hl (named_of_stores hstores hbound') (Scopes.isSome_look_rebind hd hbound)
    · exact absurd he (by simp)
  · exact .refl _

theorem meets_record {undo : Stmt} (hundo : D.stmt undo) (hnamed : ¬undo.Declares) :
    (naming D p).Meets (fun _ => True) (do
      let scope ← Run.read (·.current)
      Run.record (.replay scope undo)) := by
  refine meets (.bind (V := fun _ => True) (.read fun _ => trivial) fun scope _ =>
    bracketing.meets_record hundo) fun m r m' hm hr => ?_
  have hrecord : Run.record (.replay m.current undo) m = some (r, m') := hr
  obtain ⟨-, -, rfl⟩ | ⟨l, -, hl, -, rfl⟩ | ⟨e, -, rfl, -⟩ := Run.record_eq_some hrecord
  · exact .refl _
  · exact .record hl hnamed fun _ _ => rfl
  · exact .refl _

/-- If no undo annotation is a declaration, what native functions do, and what statements do
    themselves that declare nothing, names nothing. -/
theorem basic {host : Host} (hhost : host.Keeps D.value)
    (hundo : ∀ {e undo l}, D.stmt ⟨.expr e (some undo), l⟩ → ¬undo.Declares) :
    (naming D p).Basic host where
  keeps := hhost
  store := meets_store
  record h := meets_record (D.parts h _ (List.mem_singleton_self _)) (hundo h)
  locate l := by
    refine meets ((bracketing.lawful hhost).locate l) fun m r m' hm hr => ?_
    obtain ⟨rfl, rfl⟩ := Prod.mk.inj (Option.some.inj hr)
    exact .of_look rfl fun _ _ => rfl
  surround s hm he :=
    ⟨(bracketing.lawful hhost).surround s hm he, .of_look rfl fun _ _ => rfl⟩
  reverse hm := ⟨(bracketing.lawful hhost).reverse hm, .of_look rfl fun _ _ => rfl⟩

end naming

/-- An evaluator in which only declarations name something. -/
structure Evaluator.Unnaming (r : Evaluator) (D : Discipline) : Prop where
  eval : ∀ e, (naming D False).Meets D.value (r.eval e)
  exec : ∀ s, D.stmt s → (naming D s.Declares).Meets (Flow.Obey D.value) (r.exec s)

namespace Evaluator.Unnaming

variable {r : Evaluator} (hr : r.Unnaming D)
include hr

theorem evaluates (p : Prop) : r.Evaluates (naming D p) :=
  ⟨fun e => naming.mono (hr.eval e) False.elim⟩

theorem satisfies : r.Satisfies (naming D True) :=
  ⟨hr.evaluates True, fun s hs => naming.mono (hr.exec s hs) fun _ => trivial⟩

theorem bracketed : r.Satisfies (bracketing D) where
  eval e m x m' hm hx := (hr.eval e m x m' hm hx).imp And.left id
  exec s hs m x m' hm hx := (hr.exec s hs m x m' hm hx).imp And.left id

theorem block {b : Block} (hb : ∀ s ∈ b, D.stmt s) :
    (naming D p).Meets (Flow.Obey D.value) (r.block b) :=
  naming.meets_inBlock (hr.satisfies.execAll hb)

theorem declareVariable (d : VarDecl) :
    (naming D True).Meets (fun _ => True) (r.declareVariable d) :=
  (hr.evaluates True).declareVariable (naming.meets_declare trivial) d

theorem loop (init : Option VarDecl) (condition : Expr) {increment : Option Stmt} {body : Block}
    (hincrement : ∀ s ∈ increment.toList, D.stmt s) (hbody : ∀ s ∈ body, D.stmt s) :
    (naming D p).Meets (Flow.Obey D.value) (r.loop init condition increment body) := by
  have hiterate := hr.satisfies.iterate condition hincrement (hr.block hbody) r.rounds
  refine naming.meets_inBlock (q := True) ?_
  cases init with
  | none => exact hiterate
  | some d => exact .bind (hr.declareVariable d) fun _ _ => hiterate

theorem callValue {host : Host} (hhost : host.Keeps D.value)
    (hundo : ∀ {e undo l}, D.stmt ⟨.expr e (some undo), l⟩ → ¬undo.Declares) {f : Value}
    (hf : D.value f) {args : List Value} (hargs : ∀ v ∈ args, D.value v) :
    (naming D p).Meets D.value (r.callValue host f args) := by
  have hbind {binds : List (String × Value)} (h : ∀ b ∈ binds, D.value b.2) :
      (naming D True).Meets (fun _ => True) (Run.declareAll binds) :=
    .declareAll (naming.meets_declare trivial) h
  cases f with
  | function f =>
    refine .callFunction (naming.meets_inCall (q := True) ?_)
    exact .bind (hbind (D.value_of_mem_zip hargs)) fun _ _ =>
      hr.satisfies.execAll (D.function.1 hf)
  | native f =>
    refine .callNative (naming.meets_inCall (q := True) ?_)
    exact .bind (hbind (D.value_of_mem_bindArgs hargs)) fun _ _ =>
      (naming.basic hhost hundo).native _ _
  | _ => exact .fail trivial

/-! ### Rollbacks -/

/-- A statement is replayed that is no declaration. -/
theorem replay (hm : (bracketing D).pre m) (scope : ScopeId) {undo : Stmt} (hundo : D.stmt undo)
    (hnamed : ¬undo.Declares) {x : Except Stop Unit} (hx : r.replay scope undo m = some (x, m')) :
    Names p m m' := by
  obtain ⟨y, m₁, hy, hx⟩ := Run.attempt_bind_eq_some hx
  obtain ⟨m₂, hexec, rfl⟩ := Run.inScope_eq_some hy
  obtain ⟨⟨-, hnames⟩, -⟩ := hr.exec undo hundo { m with current := scope } _ m₂ hm hexec
  have hnames : Names p m { m₂ with current := m.current } :=
    ⟨fun id _ name => hnames.same id (fun h => absurd h hnamed) name, hnames.kept, hnames.crumbs⟩
  split at hx
  · obtain ⟨rfl, rfl⟩ := Run.pure_eq_some hx
    exact hnames
  all_goals
    obtain ⟨rfl, rfl⟩ := Run.fail_eq_some hx
    exact hnames

/-- Restoring a breadcrumb names nothing. -/
theorem restore (hm : (bracketing D).pre m) {marker : Marker} {enclosing : ScopeId}
    {c : Breadcrumb} (hobey : c.Obey D) (hc : c.Named m.scopes) {x : Except Stop Unit}
    (hx : r.restore marker enclosing c m = some (x, m')) : Names p m m' := by
  cases c with
  | marker => exact absurd hobey id
  | binding scope name previous =>
    rcases Run.whenRestorable_eq_some hx with ⟨hlive, hdefine⟩ | rfl
    · obtain ⟨ss, hd, -, rfl⟩ | ⟨e, -, rfl, -⟩ := Run.updateScopes_eq_some hdefine
      · exact .of_look rfl (Scopes.isSome_look_rebind hd (hc hlive))
      · exact .refl _
    · exact .refl _
  | entry scope name path previous =>
    rcases Run.whenRestorable_eq_some hx with ⟨-, hupdate⟩ | rfl
    · obtain ⟨ss, hss, -, rfl⟩ | ⟨e, -, rfl, -⟩ := Run.updateScopes_eq_some hupdate
      · obtain ⟨_, _, bound, _, -, hlook, -, hd⟩ := Scopes.restoreEntry_eq_ok hss
        exact .of_look rfl (Scopes.isSome_look_rebind hd (Option.isSome_of_eq_some hlook))
      · exact .refl _
    · exact .refl _
  | replay scope undo =>
    rcases Run.bind_eq_some hx with ⟨b, m₁, hb, hx⟩ | ⟨e, he, -⟩
    · obtain ⟨rfl, -⟩ := Run.query_eq_some hb
      cases b with
      | true => exact hr.replay hm scope hobey hc hx
      | false => exact hr.replay hm enclosing hobey hc hx
    · obtain ⟨rfl, -⟩ := Run.query_eq_some he
      exact .refl _

section

variable {marker : Marker} {enclosing : ScopeId} {m₁ : Machine} (hm₁ : (bracketing D).pre m₁)
  (hmarker : ∃ old, m₁.ledger.crumbs = .marker marker :: old) (hb : Bracketed D m₁ m)
  (h : Names p m₁ m)
include hm₁ hmarker hb h

/-- A breadcrumb is taken from above the marker and restored. -/
theorem popAbove {c : Breadcrumb} {l : Ledger} (hpop : m.ledger.popAbove marker = some (c, l))
    {x : Except Stop Unit}
    (hx : r.restore marker enclosing c { m with ledger := l } = some (x, m')) : Names p m₁ m' := by
  obtain ⟨hobey, hl⟩ := hb.ledger.popAbove hmarker hpop
  obtain ⟨hc, hrest⟩ := h.popAbove hmarker hpop
  have hpre : (bracketing D).pre { m with ledger := l } := ⟨hl.tidy hm₁.1, hb.bound⟩
  obtain ⟨⟨hb', -⟩, -⟩ := bracketing.meets_restore hr.bracketed hobey _ _ m' hpre hx
  exact hrest.trans (hr.restore hpre hobey hc hx) (hb.withLedger hl) hb'

theorem restores {cs : List Breadcrumb} (hcs : r.Restores marker enclosing m cs m') :
    Names p m₁ m' := by
  induction hcs with
  | nil => exact h
  | cons hpop hrestore _ ih =>
    exact ih (bracketing.popAbove hr.bracketed hm₁ hmarker hb hpop hrestore)
      (hr.popAbove hm₁ hmarker hb h hpop hrestore)

/-- A rollback names nothing, however it ends. -/
theorem restoreAbove {n : Nat} {x : Except Stop Unit}
    (hx : r.restoreAbove marker enclosing n m = some (x, m')) : Names p m₁ m' := by
  obtain ⟨cs, m₂, hcs, -, hend⟩ := r.restores_of_restoreAbove hx
  have hb₂ := bracketing.restores hr.bracketed hm₁ hmarker hb hcs
  have h₂ := hr.restores hm₁ hmarker hb h hcs
  obtain ⟨-, rfl, -⟩ | ⟨c, l, e, -, hpop, hrestore⟩ := hend
  · exact h₂
  · exact hr.popAbove hm₁ hmarker hb₂ h₂ hpop hrestore

end

/-! ### Skips -/

theorem seize {b : Block} (hb : ∀ s ∈ b, D.stmt s) :
    (naming D p).Meets (Flow.Obey D.value) (r.seize b) := by
  refine .bind (V := fun _ => True) (fun m x m' hm hx => ?_) fun _ _ => hr.block hb
  obtain ⟨rfl, rfl⟩ := Prod.mk.inj (Option.some.inj hx)
  exact ⟨⟨⟨(Bracketed.refl hm.2).withReversing false, fun _ h => absurd h (by simp)⟩,
    .of_look rfl fun _ _ => rfl⟩, trivial⟩

theorem skip {body : Block} {seizes : List Seize} (hbody : ∀ s ∈ body, D.stmt s)
    (hseizes : ∀ c ∈ seizes, ∀ s ∈ c.body, D.stmt s) :
    (naming D p).Meets (Flow.Obey D.value) (r.skip body seizes) := by
  have hblock := hr.block (p := p) hbody
  refine naming.meets (bracketing.meets_skip hr.bracketed hbody hseizes) fun m x m' hm hx => ?_
  cases r.skipped hx with
  | full => exact .refl _
  | returned hl h | failed hl h =>
    obtain ⟨⟨⟨hb, -⟩, hnames⟩, -⟩ := hblock _ _ _ (bracketing.pre_open hl hm) h
    exact hnames.discardSkip hl hm hb
  | closed hl h hflow =>
    obtain ⟨⟨⟨hb, -⟩, hnames⟩, -⟩ := hblock _ _ _ (bracketing.pre_open hl hm) h
    exact hnames.closeSkip hl hm hb
  | stuck hl h hroll =>
    have hm₁ := bracketing.pre_open hl hm
    have hmarker : ∃ old, Ledger.crumbs _ = _ :: old := ⟨_, (Ledger.openSkip_eq_ok hl).2.1⟩
    obtain ⟨⟨⟨hb, -⟩, hnames⟩, -⟩ := hblock _ _ _ hm₁ h
    obtain ⟨hb', -⟩ := bracketing.restoreAbove hr.bracketed hm₁ hmarker hb hroll
    exact (hr.restoreAbove hm₁ hmarker hb hnames hroll).discardSkip hl hm hb'
  | reversed hl h hroll hdispatch =>
    have hm₁ := bracketing.pre_open hl hm
    have hmarker : ∃ old, Ledger.crumbs _ = _ :: old := ⟨_, (Ledger.openSkip_eq_ok hl).2.1⟩
    obtain ⟨⟨⟨hb, -⟩, hnames⟩, hpayload⟩ := hblock _ _ _ hm₁ h
    obtain ⟨hb', -⟩ := bracketing.restoreAbove hr.bracketed hm₁ hmarker hb hroll
    have hb₃ := bracketing.closeSkip hl hm hb'
    have hnames₃ := (hr.restoreAbove hm₁ hmarker hb hnames hroll).closeSkip hl hm hb'
    -- The seizes are tried when the skip has been resolved.
    have hkept : ∀ s ∈ (none : Option Block).getD [], D.stmt s := List.forall_mem_nil _
    have hdispatches := (hr.evaluates p).dispatch hr.seize
      (fun hm => ⟨⟨.refl hm.2, fun h => absurd h (by simp)⟩, .refl _⟩) hpayload hkept hseizes
    obtain ⟨⟨⟨hb₄, -⟩, hnames₄⟩, -⟩ :=
      hdispatches _ _ _ ⟨hb₃.ledger.tidy hm.1, hb₃.bound⟩ hdispatch
    exact hnames₃.trans hnames₄ hb₃ hb₄

end Evaluator.Unnaming

/-- If no undo annotation is a declaration, then only declarations name something. -/
theorem naming.evaluator {host : Host} (hhost : host.Keeps D.value)
    (hundo : ∀ {e undo l}, D.stmt ⟨.expr e (some undo), l⟩ → ¬undo.Declares) (fuel : Nat) :
    (Retrace.evaluator host fuel).Unnaming D := by
  induction fuel with
  | zero => exact ⟨fun _ => .starved, fun _ _ => .starved⟩
  | succ fuel ih =>
    have hserves (p : Prop) : (Retrace.evaluator host fuel).Serves host (naming D p) :=
      { eval := (ih.evaluates p).eval
        callValue := ih.callValue hhost hundo
        block := ih.block
        loop := ih.loop
        skip := fun hs => by
          obtain ⟨hbody, hseizes⟩ := List.forall_mem_append.1 (D.parts hs)
          exact ih.skip hbody fun c hc s hs => hseizes s (List.mem_flatMap.2 ⟨c, hc, hs⟩) }
    refine ⟨(hserves False).expression, fun s hs => ?_⟩
    refine (hserves s.Declares).statement (naming.basic hhost hundo) hs fun d hd => ?_
    -- Here something may be named, as the statement is a declaration.
    have hdeclares : s.Declares := ⟨d, hd⟩
    cases d with
    | function name params body =>
      obtain ⟨action, l⟩ := s
      obtain rfl : action = .declare (.function name params body) := hd
      exact naming.meets_declare hdeclares name (D.function.2 (D.parts hs))
    | «variable» d => exact naming.mono (ih.declareVariable d) fun _ => hdeclares
    | classLike name members => exact .pure trivial

/-! ### The names of live scopes -/

/-- Whether the undo annotation, if there is one, is no declaration. -/
def Action.Discreet : Action → Prop
  | .expr _ (some undo) => ¬undo.Declares
  | _ => True

/-- Whether no undo annotation in the statement and in all statements in it, also those in the
    functions it declares, is a declaration. -/
abbrev Stmt.Discreet : Stmt → Prop :=
  All Action.parts Action.Discreet

/-- Values are well-formed, and no undo annotation is a declaration. -/
def Discipline.discreet : Discipline :=
  .sound Stmt.Discreet Stmt.All.parts

/-- Every scope that was live still is, and binds the names that it bound. -/
def Scopes.SameNames (ss ss' : Scopes) : Prop :=
  ∀ id, ss.contains id → ss'.contains id ∧
    ∀ name, (ss'.look id name).isSome = (ss.look id name).isSome

theorem Names.same_of_bracketed (h : Names False m m') (hb : Bracketed D m m') :
    m.scopes.SameNames m'.scopes := fun id hid =>
  ⟨by rwa [Scopes.contains_congr hb.skeleton], fun name => h.same id (fun h => h.elim) name⟩

/-- In a program without declarations as undo annotations, whatever is run in a state of a run
    and is no declaration leaves every live scope with the names that it had, however it ends,
    and so does a rollback. -/
theorem Reached.sameNames {host : Host} (hm : Reached host Value.WellFormed m)
    (hhost : host.Keeps Value.WellFormed) (hkeeps : host.Keeps (Value.Sound Stmt.Discreet))
    (hfunctions : ∀ id name v f, m.scopes.look id name = some v → v.Holds f →
      ∀ t ∈ f.body, t.Discreet) (fuel : Nat) :
    (∀ e x m', (evaluator host fuel).eval e m = some (x, m') → m.scopes.SameNames m'.scopes) ∧
      (∀ s x m', s.Discreet → ¬s.Declares → (evaluator host fuel).exec s m = some (x, m') →
        m.scopes.SameNames m'.scopes) ∧
      ∀ body marker m₁ payload m₂ n x m₃, (∀ s ∈ body, s.Discreet) →
        Run.openSkip m = some (.ok marker, m₁) →
        (evaluator host fuel).block body m₁ = some (.error (.reversal payload), m₂) →
        (evaluator host n).rollBack marker m.current m₂ = some (x, m₃) →
        m₂.scopes.SameNames m₃.scopes := by
  have hobey : m.scopes.Obey (Value.Sound Stmt.Discreet) := fun id name v hv =>
    (hm.wellFormed hhost id name v hv).sound fun f hf => hfunctions id name v f hv hf
  have hpre : (bracketing .discreet).pre m := ⟨hm.sane_any.pre.1, hobey⟩
  have hundo {e : Expr} {undo : Stmt} {l : Location} (h : Stmt.Discreet ⟨.expr e (some undo), l⟩) :
      ¬undo.Declares := h.action
  have hr (n : Nat) : (evaluator host n).Unnaming .discreet := naming.evaluator hkeeps hundo n
  refine ⟨fun e x m' hx => ?_, fun s x m' hs hdeclares hx => ?_,
    fun body marker m₁ payload m₂ n x m₃ hbody hopen hblock hroll => ?_⟩
  · obtain ⟨⟨⟨hb, -⟩, hnames⟩, -⟩ := (hr fuel).eval e m x m' hpre hx
    exact hnames.same_of_bracketed hb
  · obtain ⟨⟨⟨hb, -⟩, hnames⟩, -⟩ := (hr fuel).exec s hs m x m' hpre hx
    exact (hnames.mono hdeclares).same_of_bracketed hb
  · obtain ⟨_, l, hl, hok, rfl⟩ | ⟨e, hok, -⟩ := Run.openSkip_eq_some hopen
    · obtain rfl := Except.ok.inj hok
      have hpre₁ := bracketing.pre_open hl hpre
      have hmarker : ∃ old, Ledger.crumbs _ = _ :: old := ⟨_, (Ledger.openSkip_eq_ok hl).2.1⟩
      obtain ⟨⟨⟨hb₂, -⟩, h₂⟩, -⟩ := (hr fuel).block (p := False) hbody _ _ _ hpre₁ hblock
      obtain ⟨hb₃, -⟩ := bracketing.restoreAbove (hr n).bracketed hpre₁ hmarker hb₂ hroll
      have h₃ := (hr n).restoreAbove hpre₁ hmarker hb₂ h₂ hroll
      -- Both after the body and after the rollback the names are those from before the body.
      intro id hid
      rw [Scopes.contains_congr hb₂.skeleton] at hid
      refine ⟨(h₃.same_of_bracketed hb₃ id hid).1, fun name => ?_⟩
      rw [(h₃.same_of_bracketed hb₃ id hid).2 name, (h₂.same_of_bracketed hb₂ id hid).2 name]
    · exact absurd hok (by simp)

/-- A skip in which a function is called, an undo annotation with a declaration inside is
    recorded and replayed, and a seize declares a variable. -/
def Naming.busy : Stmt :=
  ⟨.skip [
    ⟨.declare (.function "f" ["p"] [⟨.declare (.variable ⟨"x", none⟩), .unknown⟩]), .unknown⟩,
    ⟨.expr (.call (.ident "f") [.literal .truth "true"])
      (some ⟨.block [⟨.declare (.variable ⟨"y", none⟩), .unknown⟩], .unknown⟩), .unknown⟩,
    ⟨.reverse (.literal .truth "true"), .unknown⟩]
    [⟨none, [⟨.declare (.variable ⟨"z", none⟩), .unknown⟩]⟩], .unknown⟩

theorem Naming.discreet_busy : busy.Discreet := by
  have hleaf {d : VarDecl} : Stmt.Discreet ⟨.declare (.variable d), .unknown⟩ := .leaf trivial rfl
  refine .mk trivial (List.forall_mem_append.2 ⟨?_, List.forall_mem_singleton.2 hleaf⟩)
  refine List.forall_mem_cons.2 ⟨.mk trivial (List.forall_mem_singleton.2 hleaf), ?_⟩
  refine List.forall_mem_cons.2 ⟨.mk ?_ ?_, List.forall_mem_singleton.2 (.leaf trivial rfl)⟩
  · rintro ⟨d, hd⟩
    exact absurd hd (by simp)
  · exact List.forall_mem_singleton.2 (.mk trivial (List.forall_mem_singleton.2 hleaf))

theorem Reached.sameNames_busy :
    ∃ flow m', (evaluator .bare 9).exec Naming.busy .bare = some (.ok flow, m') ∧
      Machine.bare.scopes.SameNames m'.scopes ∧
      m'.scopes.look Scopes.global "z" = none := by
  have h : ((evaluator .bare 9).exec Naming.busy .bare).any (·.1.isOk) := by
    decide +kernel
  obtain ⟨⟨x, m'⟩, hrun, hx⟩ := (Option.any_eq_true _ _).1 h
  match x, hx with
  | .ok flow, _ =>
    have hm : Reached .bare Value.WellFormed .bare := .rest (.start .default .bare)
    have hobey := Machine.obey_initial (P := Discipline.discreet.value) Discipline.discreet.native
      .default .bare
    have hsame := (hm.sameNames (Host.bare_keeps _) (Host.bare_keeps _)
      (fun id name v f hv hf => (hobey id name v hv).of_holds hf) 9).2.1 _ _ _
      Naming.discreet_busy (fun h => absurd h.choose_spec (by simp [Naming.busy])) hrun
    refine ⟨flow, m', hrun, hsame, ?_⟩
    have hz : (m'.scopes.look Scopes.global "z").isSome = false :=
      ((hsame Scopes.global rfl).2 "z").trans (by decide +kernel)
    exact Option.isNone_iff_eq_none.1 (Option.isSome_eq_false_iff.1 hz)

end Retrace
