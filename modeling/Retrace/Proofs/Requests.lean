import Retrace.Proofs.Sessions

/-!
# Requests and answers

The requests of a host as data (`Request`), so that how they are answered is said
once, for one of them (`Machine.serve`) and for one after the other
(`Machine.serveAll`). An answer is a failure, or a value if the request asks for
one.
-/

namespace Retrace

/-- What a host can ask for. -/
inductive Request where
  | declare (d : Decl)
  | load (ds : List Decl)
  | runMain
  | call (name : String) (args : List Value)
  | registerNative (name : String) (params : List String) (key : String)
  | registerVariadic (name : String) (key : String)

/-- What is answered to a request, a value only if one was asked for. -/
abbrev Answer := Except Failure (Option Value)

namespace Machine

/-- Where a run for the host leads, with what is answered if it ends with a value. -/
def answered {α : Type} (value : α → Option Value) (run : Option (Except Failure α × Machine)) :
    Option (Answer × Machine) :=
  run.map fun p => (p.1.map value, p.2)

variable (host : Host) (fuel : Nat)

/-- Carries out a request. -/
def serve (m : Machine) : Request → Option (Answer × Machine)
  | .declare d => answered (fun _ => none) (m.declare host fuel d)
  | .load ds => answered (fun _ => none) (m.load host fuel ds)
  | .runMain => answered some (m.runMain host fuel)
  | .call name args => answered some (m.call host fuel name args)
  | .registerNative name params key => some (.ok none, m.registerNative name params key)
  | .registerVariadic name key => some (.ok none, m.registerVariadic name key)

/-- Carries out requests one after the other, each with the fuel it is given, up to one whose fuel
    does not suffice: what is answered, and the machine after the last request if all were
    carried out. -/
def serveAll (m : Machine) : List (Nat × Request) → List Answer × Option Machine
  | [] => ([], some m)
  | (fuel, q) :: qs =>
    match m.serve host fuel q with
    | some (answer, m) => (answer :: (serveAll m qs).1, (serveAll m qs).2)
    | none => ([], none)

variable {host fuel} {m m' : Machine} {q : Request} {answer : Answer}

theorem exists_of_answered {α : Type} {value : α → Option Value}
    {run : Option (Except Failure α × Machine)} (h : answered value run = some (answer, m')) :
    ∃ x, run = some (x, m') ∧ answer = x.map value := by
  obtain ⟨⟨x, m₁⟩, rfl, hx⟩ := Option.map_eq_some_iff.1 h
  obtain ⟨rfl, rfl⟩ := Prod.mk.inj hx
  exact ⟨x, rfl, rfl⟩

/-- A request that is answered with a failure was one that runs something, and it is this that
    failed. -/
theorem failed_of_serve {e : Failure} (h : m.serve host fuel q = some (.error e, m')) :
    (∃ d, m.declare host fuel d = some (.error e, m')) ∨
      (∃ ds, m.load host fuel ds = some (.error e, m')) ∨
      m.runMain host fuel = some (.error e, m') ∨
      ∃ name args, m.call host fuel name args = some (.error e, m') := by
  have hfailed : ∀ {α : Type} {value : α → Option Value}
      {run : Option (Except Failure α × Machine)},
      answered value run = some (.error e, m') → run = some (.error e, m') := by
    intro α value run hrun
    obtain ⟨x, rfl, hx⟩ := exists_of_answered hrun
    cases x with
    | ok a => exact absurd hx (by simp [Except.map])
    | error e' => rw [Except.error.inj hx]
  cases q with
  | declare d => exact .inl ⟨d, hfailed h⟩
  | load ds => exact .inr (.inl ⟨ds, hfailed h⟩)
  | runMain => exact .inr (.inr (.inl (hfailed h)))
  | call name args => exact .inr (.inr (.inr ⟨name, args, hfailed h⟩))
  | registerNative | registerVariadic => exact absurd h (by simp [serve])

end Machine

end Retrace
