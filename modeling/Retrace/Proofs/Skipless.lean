import Retrace.Proofs.Bodies
import Retrace.Proofs.Plain
import Retrace.Proofs.Restored

/-!
# Programs without skips

A program can be written without skips (`Stmt.skipless`): each skip becomes a
block with its body, at the same location, the seizes are dropped, and so are the
undo annotations, in the bodies of functions too.

It does the same as the program it was made of if no statement in this one
reverses (`Stmt.ReverseFree`). What is to be known for that of the values that
are handled is that the functions in them do not reverse either.
-/

namespace Retrace

mutual

/-- The statement without skips. -/
def Stmt.skipless : Stmt → Stmt
  | ⟨action, location⟩ => ⟨action.skipless, location⟩

/-- What a statement does without skips. -/
def Action.skipless : Action → Action
  | .block b => .block (Stmt.skiplessAll b)
  | .expr e _ => .expr e none
  | .ret value => .ret value
  | .declare d => .declare d.skipless
  | .assign target op value => .assign target op value
  | .step target op => .step target op
  | .loop init condition increment body =>
    .loop init condition (Stmt.skiplessIncrement increment) (Stmt.skiplessAll body)
  | .branch arms otherwise => .branch (Stmt.skiplessArms arms) (Stmt.skiplessElse otherwise)
  | .jump j => .jump j
  | .switch subject cases => .switch subject (Stmt.skiplessCases cases)
  | .skip body _ => .block (Stmt.skiplessAll body)
  | .reverse payload => .reverse payload

/-- The declaration without skips. -/
def Decl.skipless : Decl → Decl
  | .function name params body => .function name params (Stmt.skiplessAll body)
  | .variable d => .variable d
  | .classLike name members => .classLike name (Decl.skiplessAll members)

/-- The statements without skips. -/
def Stmt.skiplessAll : List Stmt → List Stmt
  | [] => []
  | s :: ss => s.skipless :: Stmt.skiplessAll ss

/-- What a loop does after its body, without skips. -/
def Stmt.skiplessIncrement : Option Stmt → Option Stmt
  | none => none
  | some s => some s.skipless

/-- A body that may be absent, without skips. -/
def Stmt.skiplessElse : Option (List Stmt) → Option (List Stmt)
  | none => none
  | some b => some (Stmt.skiplessAll b)

/-- The arms of a branch without skips. -/
def Stmt.skiplessArms : List (Clause Expr Stmt) → List (Clause Expr Stmt)
  | [] => []
  | ⟨condition, b⟩ :: arms => ⟨condition, Stmt.skiplessAll b⟩ :: Stmt.skiplessArms arms

/-- The clauses of a switch without skips. -/
def Stmt.skiplessCases : List (Clause (Option Expr) Stmt) → List (Clause (Option Expr) Stmt)
  | [] => []
  | ⟨value, b⟩ :: cases => ⟨value, Stmt.skiplessAll b⟩ :: Stmt.skiplessCases cases

/-- The declarations without skips. -/
def Decl.skiplessAll : List Decl → List Decl
  | [] => []
  | d :: ds => d.skipless :: Decl.skiplessAll ds

end

theorem Stmt.skiplessAll_eq_map (b : Block) : Stmt.skiplessAll b = b.map Stmt.skipless := by
  induction b with
  | nil => rw [Stmt.skiplessAll, List.map_nil]
  | cons s b ih => rw [Stmt.skiplessAll, List.map_cons, ih]

/-- A body ends with a `fallthrough` as before. -/
theorem endsWithFallthrough_skiplessAll (b : Block) :
    endsWithFallthrough (Stmt.skiplessAll b) = endsWithFallthrough b := by
  rw [endsWithFallthrough, endsWithFallthrough, Stmt.skiplessAll_eq_map, List.getLast?_map]
  cases b.getLast? with
  | none => rfl
  | some s =>
    obtain ⟨action, l⟩ := s
    cases action <;> simp [Stmt.skipless, Action.skipless]

/-- Whether there is neither a skip nor an undo annotation in the statement and in all statements
    in it, also those in the functions it declares. -/
abbrev Stmt.Unskipped : Stmt → Prop :=
  All Action.parts fun a => (∀ body seizes, a ≠ .skip body seizes) ∧ ∀ e s, a ≠ .expr e (some s)

mutual

/-- Neither skips nor undo annotations are left. -/
theorem Stmt.unskipped_skipless : ∀ s : Stmt, s.skipless.Unskipped
  | ⟨.block b, l⟩ => by
    rw [Stmt.skipless, Action.skipless]
    exact .mk (by simp) (Stmt.unskipped_skiplessAll b)
  | ⟨.loop init condition increment body, l⟩ => by
    rw [Stmt.skipless, Action.skipless]
    refine .mk (by simp) (List.forall_mem_append.2 ⟨?_, Stmt.unskipped_skiplessAll body⟩)
    cases increment with
    | none => exact List.forall_mem_nil _
    | some s => exact List.forall_mem_singleton.2 s.unskipped_skipless
  | ⟨.branch arms otherwise, l⟩ => by
    rw [Stmt.skipless, Action.skipless]
    refine .mk (by simp) (List.forall_mem_append.2 ⟨Stmt.unskipped_skiplessArms arms, ?_⟩)
    cases otherwise with
    | none => exact List.forall_mem_nil _
    | some b => exact Stmt.unskipped_skiplessAll b
  | ⟨.switch subject cases, l⟩ => by
    rw [Stmt.skipless, Action.skipless]
    exact .mk (by simp) (Stmt.unskipped_skiplessCases cases)
  | ⟨.skip body seizes, l⟩ => by
    rw [Stmt.skipless, Action.skipless]
    exact .mk (by simp) (Stmt.unskipped_skiplessAll body)
  | ⟨.declare (.function name params body), l⟩ => by
    rw [Stmt.skipless, Action.skipless, Decl.skipless]
    exact .mk (by simp) (Stmt.unskipped_skiplessAll body)
  | ⟨.declare (.variable _), l⟩ | ⟨.declare (.classLike _ _), l⟩ => by
    rw [Stmt.skipless, Action.skipless, Decl.skipless]
    exact .leaf (by simp) rfl
  | ⟨.expr _ _, l⟩ | ⟨.ret _, l⟩ | ⟨.assign _ _ _, l⟩ | ⟨.step _ _, l⟩ | ⟨.jump _, l⟩
  | ⟨.reverse _, l⟩ => by
    rw [Stmt.skipless, Action.skipless]
    exact .leaf (by simp) rfl

theorem Stmt.unskipped_skiplessAll : ∀ b : List Stmt, ∀ s ∈ Stmt.skiplessAll b, s.Unskipped
  | [] => List.forall_mem_nil _
  | s :: b => List.forall_mem_cons.2 ⟨s.unskipped_skipless, Stmt.unskipped_skiplessAll b⟩

theorem Stmt.unskipped_skiplessArms : ∀ arms : List (Clause Expr Stmt),
    ∀ s ∈ (Stmt.skiplessArms arms).flatMap (·.body), s.Unskipped
  | [] => List.forall_mem_nil _
  | ⟨_, b⟩ :: arms => List.forall_mem_append.2
      ⟨Stmt.unskipped_skiplessAll b, Stmt.unskipped_skiplessArms arms⟩

theorem Stmt.unskipped_skiplessCases : ∀ cases : List (Clause (Option Expr) Stmt),
    ∀ s ∈ (Stmt.skiplessCases cases).flatMap (·.body), s.Unskipped
  | [] => List.forall_mem_nil _
  | ⟨_, b⟩ :: cases => List.forall_mem_append.2
      ⟨Stmt.unskipped_skiplessAll b, Stmt.unskipped_skiplessCases cases⟩

end

/-! ### Values and machines -/

/-- The value with the bodies of functions written without skips. -/
abbrev Value.skipless : Value → Value :=
  Value.mapBodies Stmt.skiplessAll

/-- The flow with the bodies of functions written without skips. -/
abbrev Flow.skipless : Flow → Flow :=
  Flow.mapBodies Stmt.skiplessAll

/-- The failure with the bodies of functions written without skips. -/
abbrev Failure.skipless : Failure → Failure :=
  Failure.mapBodies Stmt.skiplessAll

/-- The machine as it would be if all that was run had been written without skips: with nothing
    in the ledger. -/
def Machine.skipless (m : Machine) : Machine :=
  { m with
    scopes := m.scopes.mapBodies Stmt.skiplessAll
    ledger := .empty m.settings.maxBreadcrumbs }

namespace Machine

variable (m : Machine)

theorem scopes_skipless : m.skipless.scopes = m.scopes.mapBodies Stmt.skiplessAll :=
  rfl

theorem callDepth_skipless : m.skipless.callDepth = m.callDepth :=
  rfl

theorem reversing_skipless : m.skipless.reversing = m.reversing :=
  rfl

theorem settings_skipless : m.skipless.settings = m.settings :=
  rfl

theorem surroundings_skipless : m.skipless.surroundings = m.surroundings :=
  rfl

end Machine

/-! ### Programs that do not reverse -/

/-- Whether there is no `reverse` in the statement and in all statements in it, also those in
    the functions it declares. -/
abbrev Stmt.ReverseFree : Stmt → Prop :=
  All Action.parts fun a => ∀ payload, a ≠ .reverse payload

/-- Whether there is no `reverse` in the functions that the value holds. -/
def Value.ReverseFree (v : Value) : Prop :=
  ∀ f, v.Holds f → ∀ s ∈ f.body, s.ReverseFree

/-- No `reverse` is in the statements and in the functions that values hold. -/
def Discipline.reverseFree : Discipline :=
  .holding Stmt.ReverseFree Stmt.All.parts

theorem Value.closed_reverseFree : Closed ReverseFree :=
  Discipline.reverseFree.closed

end Retrace
