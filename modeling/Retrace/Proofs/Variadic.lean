import Retrace.Proofs.Sessions
import Mathlib.Data.List.Forall2
import Mathlib.Data.List.Nodup

/-!
# Any number of arguments

A native function that takes any number of arguments has no parameters to bind them to. They
are bound to their positions, written as decimal numbers, in a scope that is made for the call;
and there the function looks them up, one after the other. Nothing gets lost on this way
(`Evaluator.callValue_variadic`): the numerals of different positions are different
(`NativeM.positionName_injective`), so each argument is found under its own, and the scope binds
nothing else; names of the global scope are not looked up at all.

The scope is discarded after the call, and what remains are the surroundings as the function
left them (`Machine.served`). So all there is to a call of `println` is that it prints the texts
of its arguments and a line break.
-/

namespace Retrace

/-! ### Binding different names -/

namespace Bindings

/-- Binds names one after the other. -/
def bindAll (bs : Bindings) (binds : List (String × Value)) : Bindings :=
  binds.foldl (fun bs b => bs.bind b.1 b.2) bs

/-- If different names are bound, then each to its own value. -/
theorem get?_bindAll {binds : List (String × Value)} (hnames : (binds.map (·.1)).Nodup)
    (bs : Bindings) (name : String) (v : Value) :
    (bs.bindAll binds).get? name = some v ↔
      (name, v) ∈ binds ∨ name ∉ binds.map (·.1) ∧ bs.get? name = some v := by
  induction binds generalizing bs with
  | nil => simp [bindAll]
  | cons b binds ih =>
    obtain ⟨hb, hnames⟩ := List.nodup_cons.1 hnames
    change ((bs.bind b.1 b.2).bindAll binds).get? name = some v ↔ _
    rw [ih hnames, get?_bind]
    by_cases hname : b.1 = name
    · -- What follows does not bind the name again.
      subst hname
      have hnot : (b.1, v) ∉ binds := fun h => hb (List.mem_map.2 ⟨_, h, rfl⟩)
      simp [hnot, hb, Prod.ext_iff, eq_comm]
    · simp [hname, Prod.ext_iff, eq_comm, Ne.symm hname]

end Bindings

namespace NativeM

/-- The position is read back from its name. -/
theorem positionName_injective : positionName.Injective := by
  intro i j h
  have hdigits : Nat.toDigits 10 i = Nat.toDigits 10 j := by
    have hrepr : i.repr = j.repr := h
    rw [Nat.repr_eq_ofList_toDigits, Nat.repr_eq_ofList_toDigits] at hrepr
    simpa using congrArg String.toList hrepr
  rw [← Nat.ofDigitChars_ten_toDigits (n := i), hdigits, Nat.ofDigitChars_ten_toDigits]

theorem nodup_positionNames (n : Nat) : ((List.range n).map positionName).Nodup :=
  List.nodup_range.map positionName_injective

end NativeM

/-! ### The scope of a call -/

namespace Scopes

/-- The scopes with a new one at the end, in which names are bound already. -/
def pushBinding (ss : Scopes) (parent : ScopeId) (bs : Bindings) : Scopes where
  row := ss.row.push { serial := ss.nextSerial, parent := some parent, bindings := bs }
  nextSerial := ss.nextSerial + 1

variable (ss : Scopes) (parent : ScopeId) (bs : Bindings) (name : String) (v : Value)

theorem scope_pushBinding :
    (ss.pushBinding parent bs).scope (ss.push parent).1 =
      .ok { serial := ss.nextSerial, parent := some parent, bindings := bs } := by
  refine scope_eq_ok_iff.2 (scope?_eq_some_iff.2 ⟨?_, rfl⟩)
  exact Array.getElem?_push_size

theorem getLocal_pushBinding :
    (ss.pushBinding parent bs).getLocal (ss.push parent).1 name = .ok (bs.get? name) := by
  rw [getLocal, scope_pushBinding]
  rfl

theorem define_pushBinding :
    (ss.pushBinding parent bs).define (ss.push parent).1 name v =
      .ok (ss.pushBinding parent (bs.bind name v)) := by
  have hlast : ∀ s : Scope, (ss.row.push s).modify ss.row.size (·.bind name v) =
      ss.row.push (s.bind name v) := by grind
  rw [define_eq (contains_of_scope (scope_pushBinding ss parent bs))]
  simp only [pushBinding, push, hlast]
  rfl

/-- When it is discarded, only its serial number is gone. -/
theorem discard_pushBinding :
    (ss.pushBinding parent bs).discard (ss.push parent).1 =
      { ss with nextSerial := ss.nextSerial + 1 } := by
  simp [discard, pushBinding, push]

end Scopes

namespace Machine

/-- A call is entered, in whose scope names are bound already. -/
def enterBinding (m : Machine) (bs : Bindings) : Machine :=
  { m with
    scopes := m.scopes.pushBinding Scopes.global bs
    current := (m.scopes.push Scopes.global).1
    callDepth := m.callDepth + 1 }

/-- What remains of the call of a native function that left the surroundings so. -/
def served (m : Machine) (s : Surroundings) : Machine :=
  { m with
    scopes := { m.scopes with nextSerial := m.scopes.nextSerial + 1 }
    surroundings := s }

/-- How the call of a native function ends that gave this. -/
def nativeResult (m : Machine) : Except Failure Value × Surroundings → Except Stop Value × Machine
  | (.ok v, s) => (.ok v, m.served s)
  | (.error e, s) => (.error (.failure e), m.served s)

/-- What a native function is given that is called with these arguments. -/
def nativeCall (m : Machine) (f : NativeFunction) (args : List Value) : NativeCall where
  scopes := m.scopes.pushBinding Scopes.global (.bindAll [] (f.bindArgs args))
  scope := (m.scopes.push Scopes.global).1
  argc := args.length
  settings := m.settings

variable (m : Machine) (bs : Bindings)

theorem enterCall_eq_enterBinding : m.enterCall = m.enterBinding [] := rfl

theorem declareAll_enterBinding (binds : List (String × Value)) :
    Run.declareAll binds (m.enterBinding bs) = some (.ok (), m.enterBinding (bs.bindAll binds)) := by
  induction binds generalizing bs with
  | nil => rfl
  | cons b binds ih =>
    have hdeclare : Run.declare b.1 b.2 (m.enterBinding bs) =
        some (.ok (), m.enterBinding (bs.bind b.1 b.2)) :=
      Run.updateScopes_eq (m := m.enterBinding bs)
        (f := fun ss => ss.define (m.scopes.push Scopes.global).1 b.1 b.2)
        (Scopes.define_pushBinding m.scopes Scopes.global bs b.1 b.2)
    rw [Run.declareAll, Run.bind_apply, hdeclare]
    exact ih _

theorem leave_enterBinding (s : Surroundings) :
    { ({ m.enterBinding bs with surroundings := s } : Machine).leave m with
      callDepth := m.callDepth } = m.served s := by
  have hdiscard := Scopes.discard_pushBinding m.scopes Scopes.global bs
  exact congrArg (fun ss : Scopes => { m with scopes := ss, surroundings := s }) hdiscard

end Machine

/-! ### The arguments -/

/-- A call in which the arguments are found under their positions, and nothing is found under
    any other name. -/
structure NativeCall.Variadic (args : List Value) (c : NativeCall) : Prop where
  argc : c.argc = args.length
  positional : ∀ s, NativeM.positional c s = (.ok args, s)
  arg : ∀ name v s s', NativeM.arg name c s = (.ok v, s') ↔
    s' = s ∧ ∃ i, name = NativeM.positionName i ∧ args[i]? = some v
  missing : ∀ name s, (∀ i < args.length, name ≠ NativeM.positionName i) →
    NativeM.arg name c s = (.error (.undefinedName name), s)

namespace NativeM

variable {c : NativeCall} {name : String} {v : Value}

theorem arg_eq_ok (h : c.scopes.getLocal c.scope name = .ok (some v)) (s : Surroundings) :
    arg name c s = (.ok v, s) := by
  simp only [arg, bind_apply, call, ofExcept, h]
  rfl

theorem arg_eq_error (h : c.scopes.getLocal c.scope name = .ok none) (s : Surroundings) :
    arg name c s = (.error (.undefinedName name), s) := by
  simp only [arg, bind_apply, call, ofExcept, h]
  rfl

theorem args_eq_ok {names : List String} {vs : List Value}
    (h : List.Forall₂ (fun name v => c.scopes.getLocal c.scope name = .ok (some v)) names vs)
    (s : Surroundings) : args names c s = (.ok vs, s) := by
  induction h with
  | nil => rfl
  | cons hv _ ih =>
    simp only [args, bind_apply, arg_eq_ok hv, ih]
    rfl

end NativeM

section Arguments

variable {f : NativeFunction} {args : List Value}

theorem NativeFunction.bindArgs_variadic (hf : f.variadic = true) (args : List Value) :
    f.bindArgs args = ((List.range args.length).map NativeM.positionName).zip args :=
  if_pos hf

/-- Each argument is bound to its position. -/
theorem NativeFunction.mem_bindArgs (hf : f.variadic = true) {name : String} {v : Value} :
    (name, v) ∈ f.bindArgs args ↔ ∃ i, name = NativeM.positionName i ∧ args[i]? = some v := by
  rw [bindArgs_variadic hf, List.mem_iff_getElem?]
  refine exists_congr fun i => ?_
  rw [List.getElem?_zip_eq_some, List.getElem?_map]
  constructor
  · rintro ⟨hname, hv⟩
    obtain ⟨j, hj, rfl⟩ := Option.map_eq_some_iff.1 hname
    obtain ⟨hi, hj⟩ := List.getElem?_eq_some_iff.1 hj
    rw [List.getElem_range] at hj
    exact ⟨by rw [hj], hv⟩
  · rintro ⟨rfl, hv⟩
    have hi : i < args.length := (List.getElem?_eq_some_iff.1 hv).1
    rw [List.getElem?_range hi]
    exact ⟨rfl, hv⟩

/-- The scope of the call binds the positions to the arguments, and nothing else. -/
theorem NativeFunction.get?_bindArgs (hf : f.variadic = true) {name : String} {v : Value} :
    (Bindings.bindAll [] (f.bindArgs args)).get? name = some v ↔ (name, v) ∈ f.bindArgs args := by
  have hnames : (f.bindArgs args).map (·.1) = (List.range args.length).map NativeM.positionName := by
    rw [bindArgs_variadic hf]
    exact List.map_fst_zip (by simp)
  rw [Bindings.get?_bindAll (hnames ▸ NativeM.nodup_positionNames args.length)]
  simp

/-- What is called in the scope finds the arguments. -/
theorem NativeCall.Variadic.of_bindArgs (hf : f.variadic = true) {c : NativeCall}
    (hargc : c.argc = args.length)
    (hc : ∀ name, c.scopes.getLocal c.scope name =
      .ok ((Bindings.bindAll [] (f.bindArgs args)).get? name)) : c.Variadic args where
  argc := hargc
  positional s := by
    have hargs : List.Forall₂ (fun name v => c.scopes.getLocal c.scope name = .ok (some v))
        ((List.range args.length).map NativeM.positionName) args := by
      refine List.forall₂_iff_zip.2 ⟨by simp, fun {name v} hmem => ?_⟩
      rw [← NativeFunction.bindArgs_variadic hf] at hmem
      rw [hc, (NativeFunction.get?_bindArgs hf).2 hmem]
    rw [← hargc] at hargs
    exact NativeM.args_eq_ok hargs s
  arg name v s s' := by
    rw [← NativeFunction.mem_bindArgs hf, ← NativeFunction.get?_bindArgs hf]
    have hlocal := hc name
    cases hget : (Bindings.bindAll [] (f.bindArgs args)).get? name with
    | none =>
      rw [NativeM.arg_eq_error (hlocal.trans (congrArg _ hget))]
      simp
    | some w =>
      rw [NativeM.arg_eq_ok (hlocal.trans (congrArg _ hget))]
      simp [and_comm, eq_comm]
  missing name s hname := by
    refine NativeM.arg_eq_error ((hc name).trans (congrArg _ ?_)) s
    refine Option.eq_none_iff_forall_ne_some.2 fun v hv => ?_
    obtain ⟨i, hi, hv⟩ := (NativeFunction.mem_bindArgs hf).1 ((NativeFunction.get?_bindArgs hf).1 hv)
    exact hname i (List.getElem?_eq_some_iff.1 hv).1 hi

/-- Printing prints the texts of the arguments and a line break. -/
theorem Builtin.runPrintln_eq {c : NativeCall} (hc : c.Variadic args) (s : Surroundings) :
    runPrintln c s =
      (.ok .void,
        { s with terminal := s.terminal.print (String.join (args.map Value.text) ++ "\n") }) := by
  rw [runPrintln, NativeM.bind_apply, hc.positional]
  rfl

end Arguments

/-! ### Calls -/

namespace Evaluator

/-- Given as many arguments as it takes, the function is run in a scope of its own, of which only
    the serial number remains. -/
theorem callNative_eq (host : Host) {f : NativeFunction} {args : List Value}
    (hargs : f.variadic = true ∨ args.length = f.params.length) (m : Machine) :
    callNative host f args m =
      if m.settings.maxCallDepth ≤ m.callDepth then
        some (.error (.failure (.callDepthExceeded m.settings.maxCallDepth)), m)
      else some (m.nativeResult (f.code.run host (m.nativeCall f args) m.surroundings)) := by
  let bs := Bindings.bindAll [] (f.bindArgs args)
  have hcounts : (!f.variadic && args.length != f.params.length) = false := by
    rcases hargs with hf | hlength
    · rw [hf]
      rfl
    · rw [hlength, bne_self_eq_false, Bool.and_false]
  rw [callNative, hcounts, if_neg Bool.false_ne_true, Run.inCall_apply]
  refine if_congr Iff.rfl rfl ?_
  rw [m.enterCall_eq_enterBinding, Run.bind_apply, m.declareAll_enterBinding]
  have hcall : f.code.run host ⟨(m.enterBinding bs).scopes, (m.enterBinding bs).current,
      args.length, (m.enterBinding bs).settings⟩ (m.enterBinding bs).surroundings =
        f.code.run host (m.nativeCall f args) m.surroundings := rfl
  simp only [Run.native]
  rw [hcall]
  -- However the function ends, the scope is left.
  rcases f.code.run host (m.nativeCall f args) m.surroundings with ⟨e | v, s⟩
  · exact congrArg (fun m' => some (Except.error (Stop.failure e), m')) (m.leave_enterBinding bs s)
  · exact congrArg (fun m' => some (Except.ok v, m')) (m.leave_enterBinding bs s)

/-- The call of a native function that takes any number of arguments, in any state of the
    machine: the function finds the arguments as they were given, and unless calls are nested
    too deeply all that remains of the call is what the function did to the surroundings. So a
    call of what prints prints the texts of the arguments and a line break. -/
theorem callValue_variadic (r : Evaluator) (host : Host) {f : NativeFunction}
    (hf : f.variadic = true) (args : List Value) (m : Machine) :
    (m.nativeCall f args).Variadic args ∧
      (r.callValue host (.native f) args m =
        if m.settings.maxCallDepth ≤ m.callDepth then
          some (.error (.failure (.callDepthExceeded m.settings.maxCallDepth)), m)
        else some (m.nativeResult (f.code.run host (m.nativeCall f args) m.surroundings))) ∧
      (f.code = .builtin .println → m.callDepth < m.settings.maxCallDepth →
        r.callValue host (.native f) args m = some (.ok .void, m.served
          { m.surroundings with
            terminal :=
              m.surroundings.terminal.print (String.join (args.map Value.text) ++ "\n") })) := by
  have hc : (m.nativeCall f args).Variadic args :=
    .of_bindArgs hf rfl (Scopes.getLocal_pushBinding m.scopes Scopes.global _)
  have hcall : r.callValue host (.native f) args m = _ := callNative_eq host (.inl hf) m
  refine ⟨hc, hcall, fun hcode hdepth => ?_⟩
  rw [hcall, if_neg (Nat.not_le_of_lt hdepth), hcode, NativeCode.run, Builtin.run,
    Builtin.runPrintln_eq hc]
  rfl

end Evaluator

/-- A machine in which the number three is bound in the global scope, as a name. -/
def Machine.numbering : Machine :=
  { bare with scopes := bare.scopes.defineGlobal "3" (.bool true) }

theorem Evaluator.callValue_variadic_numbering :
    Machine.numbering.scopes.getLocal Scopes.global "3" = .ok (some (.bool true)) ∧
      (∀ s, NativeM.arg "3" (Machine.numbering.nativeCall Builtin.println.function
        [.void, .int 1, .int 1]) s = (.error (.undefinedName "3"), s)) ∧
      (evaluator .bare 1).callValue .bare (.native Builtin.println.function)
          [.void, .int 1, .int 1] Machine.numbering =
        some (.ok .void, Machine.numbering.served
          { Machine.numbering.surroundings with terminal := ⟨"VOID11\n"⟩ }) := by
  obtain ⟨hc, -, hprints⟩ := callValue_variadic (evaluator .bare 1) .bare
    (f := Builtin.println.function) rfl [.void, .int 1, .int 1] Machine.numbering
  refine ⟨by rfl, fun s => hc.missing "3" s (by decide), ?_⟩
  exact (hprints rfl (by decide)).trans (by rfl)

end Retrace
