import Retrace.Native
import Retrace.Proofs.Scopes
import Retrace.Proofs.Value.Closed

/-!
# What native functions give back

The builtins give atoms, and they fail if an argument is missing or not a string,
or if the outside world refuses what they ask for (`Builtin.fails`). They look at
their arguments and the name of the shell only (`Builtin.modest`). Both are properties
that all builtins have because their parts do (`NativeM.Compositional`). The native
functions of a host may do anything. It *keeps* a property of values if they do,
which can give back any value they find bound (`Host.Keeps`), and it is *secluded*
if they look at nothing but their arguments and the settings (`Host.Secluded`). It
*ignores the limits* if these are not among the settings they look at
(`Host.IgnoresLimits`).
-/

namespace Retrace

/-! ### What they give back -/

namespace NativeM

variable {α β : Type} {V : β → Prop}

/-- What is given back satisfies `V`. -/
def Gives (V : β → Prop) (x : NativeM β) : Prop :=
  ∀ call s b s', x call s = (.ok b, s') → V b

theorem bind_apply (x : NativeM α) (f : α → NativeM β) (call : NativeCall) (s : Surroundings) :
    (x >>= f) call s =
      match x call s with
      | (.ok a, s) => f a call s
      | (.error e, s) => (.error e, s) := rfl

theorem Gives.bind {x : NativeM α} {f : α → NativeM β} (h : ∀ a, (f a).Gives V) :
    (x >>= f).Gives V := by
  intro call s b s' hb
  rw [bind_apply] at hb
  split at hb
  · exact h _ _ _ _ _ hb
  · exact absurd (congrArg Prod.fst hb) (by simp)

theorem Gives.pure {b : β} (h : V b) : (pure b : NativeM β).Gives V := by
  intro call s b' s' hb
  exact Except.ok.inj (congrArg Prod.fst hb) ▸ h

end NativeM

open NativeM in
/-- The builtins give atoms. -/
theorem Builtin.gives_atom (b : Builtin) (shell : Shell) :
    (b.run shell).Gives fun v => v.isAtom := by
  cases b with
  | println => exact .bind fun _ => .bind fun _ => .pure rfl
  | read => exact .bind fun _ => .bind fun _ => .bind fun _ => .pure rfl
  | write =>
    exact .bind fun _ => .bind fun _ => .bind fun _ => .bind fun _ => .bind fun _ => .pure rfl
  | touch | delete =>
    refine .bind fun _ => .bind fun _ => ?_
    split
    · exact .bind fun _ => .pure rfl
    · exact .pure rfl
  | shell =>
    exact .bind fun _ => .bind fun _ => .bind fun _ => .bind fun _ => .bind fun _ =>
      .bind fun _ => .bind fun _ => .pure rfl

/-- Native functions of the host that find nothing but values that satisfy `P` give only
    such values. -/
def Host.Keeps (P : Value → Prop) (host : Host) : Prop :=
  ∀ key call s v s', call.scopes.Obey P → host.native key call s = (.ok v, s') → P v

theorem Value.Closed.run {P : Value → Prop} (hP : Closed P) {host : Host} (hhost : host.Keeps P)
    {code : NativeCode} {call : NativeCall} {s s' : Surroundings} {v : Value}
    (hcall : call.scopes.Obey P) (h : code.run host call s = (.ok v, s')) : P v := by
  cases code with
  | builtin b => exact hP.atom (b.gives_atom host.shell call s v s' h)
  | host key => exact hhost key call s v s' hcall h

/-! ### What holds of all of them -/

namespace NativeM

/-- A property that the parts of the builtins have, and that is kept when these are put
    together. -/
structure Compositional (P : ∀ {α : Type}, NativeM α → Prop) : Prop where
  pure : ∀ {α : Type} (a : α), P (pure a : NativeM α)
  bind : ∀ {α β : Type} {x : NativeM α} {f : α → NativeM β}, P x → (∀ a, P (f a)) → P (x >>= f)
  positional : P positional
  strArg : ∀ name, P (strArg name)
  /-- Of the call itself the name of the shell is all that is needed. -/
  shell : ∀ {α : Type} {f : NativeCall → NativeM α},
    (∀ c c', c'.settings.shell = c.settings.shell → f c' = f c) → (∀ c, P (f c)) → P (call >>= f)
  surroundings : P surroundings
  granted : ∀ {α : Type} operation target (x : Except Refusal α), P (granted operation target x)
  setFiles : ∀ files, P (setFiles files)
  modifyTerminal : ∀ f, P (modifyTerminal f)

/-- Such a property holds of all builtins, and with every shell. -/
theorem Compositional.builtin {P : ∀ {α : Type}, NativeM α → Prop} (hP : Compositional P)
    (b : Builtin) (shell : Shell) : P (b.run shell) := by
  cases b with
  | println =>
    exact hP.bind hP.positional fun _ => hP.bind (hP.modifyTerminal _) fun _ => hP.pure _
  | read =>
    exact hP.bind (hP.strArg _) fun _ => hP.bind hP.surroundings fun _ =>
      hP.bind (hP.granted _ _ _) fun _ => hP.pure _
  | write =>
    exact hP.bind (hP.strArg _) fun _ => hP.bind (hP.strArg _) fun _ =>
      hP.bind hP.surroundings fun _ => hP.bind (hP.granted _ _ _) fun _ =>
      hP.bind (hP.setFiles _) fun _ => hP.pure _
  | touch | delete =>
    refine hP.bind (hP.strArg _) fun _ => hP.bind hP.surroundings fun _ => ?_
    split
    · exact hP.bind (hP.setFiles _) fun _ => hP.pure _
    · exact hP.bind (hP.pure ()) fun _ => hP.pure _
  | shell =>
    exact hP.bind (hP.strArg _) fun _ => hP.shell (fun _ _ h => by rw [h]) fun _ =>
      hP.bind hP.surroundings fun _ => hP.bind (hP.granted _ _ _) fun _ =>
      hP.bind (hP.setFiles _) fun _ => hP.bind (hP.modifyTerminal _) fun _ =>
      hP.bind (hP.modifyTerminal _) fun _ => hP.pure _

end NativeM

/-! ### How they fail -/

namespace NativeM

variable {α β : Type} {C : NativeCall → Prop} {F : Failure → Prop}

/-- It does not fail. -/
def Sure (x : NativeM α) : Prop :=
  ∀ call s, ∃ a s', x call s = (.ok a, s')

namespace Sure

theorem bind {x : NativeM α} {f : α → NativeM β} (hx : x.Sure) (hf : ∀ a, (f a).Sure) :
    (x >>= f).Sure := by
  intro call s
  obtain ⟨a, s₁, ha⟩ := hx call s
  rw [bind_apply, ha]
  exact hf a call s₁

theorem pure (a : α) : (pure a : NativeM α).Sure :=
  fun _ s => ⟨a, s, rfl⟩

theorem call : call.Sure :=
  fun call s => ⟨call, s, rfl⟩

theorem surroundings : surroundings.Sure :=
  fun _ s => ⟨s, s, rfl⟩

theorem modifyTerminal (f : Terminal → Terminal) : (modifyTerminal f).Sure :=
  fun _ _ => ⟨(), _, rfl⟩

theorem setFiles (files : Files) : (setFiles files).Sure :=
  fun _ _ => ⟨(), _, rfl⟩

end Sure

/-- In a call that satisfies `C` it fails in no other way than `F` says. -/
def Fails (C : NativeCall → Prop) (F : Failure → Prop) (x : NativeM α) : Prop :=
  ∀ call s e s', C call → x call s = (.error e, s') → F e

theorem Sure.fails {x : NativeM α} (hx : x.Sure) : x.Fails C F := by
  intro call s e s' _ he
  obtain ⟨a, s₁, ha⟩ := hx call s
  exact absurd (congrArg Prod.fst (ha.symm.trans he)) (by simp)

namespace Fails

theorem bind {x : NativeM α} {f : α → NativeM β} (hx : x.Fails C F) (hf : ∀ a, (f a).Fails C F) :
    (x >>= f).Fails C F := by
  intro call s e s' hcall h
  rw [bind_apply] at h
  split at h
  · exact hf _ _ _ _ _ hcall h
  · rename_i hx'
    obtain ⟨he, rfl⟩ := Prod.mk.inj h
    obtain rfl := Except.error.inj he
    exact hx _ _ _ _ hcall hx'

theorem fail {e : Failure} (h : F e) : (fail e : NativeM α).Fails C F := by
  intro call s e' s' _ he
  exact Except.error.inj (congrArg Prod.fst he) ▸ h

section Arguments

variable (hname : ∀ name, F (.undefinedName name))
  (hscope : ∀ {call name e}, C call → call.scopes.getLocal call.scope name = .error e → F e)
include hname hscope

theorem arg (name : String) : (arg name).Fails C F := by
  intro call s e s' hcall h
  cases hv : call.scopes.getLocal call.scope name with
  | error e' =>
    simp only [NativeM.arg, bind_apply, NativeM.call, NativeM.ofExcept, hv] at h
    exact Except.error.inj (congrArg Prod.fst h) ▸ hscope hcall hv
  | ok o =>
    cases o with
    | none =>
      simp only [NativeM.arg, bind_apply, NativeM.call, NativeM.ofExcept, hv, NativeM.fail] at h
      exact Except.error.inj (congrArg Prod.fst h) ▸ hname name
    | some v =>
      simp only [NativeM.arg, bind_apply, NativeM.call, NativeM.ofExcept, hv] at h
      exact absurd (congrArg Prod.fst h) (by simp [Pure.pure])

theorem args (names : List String) : (args names).Fails C F := by
  induction names with
  | nil => exact (Sure.pure _).fails
  | cons name names ih =>
    exact .bind (.arg hname hscope name) fun _ => .bind ih fun _ => (Sure.pure _).fails

theorem strArg (htype : ∀ wanted got, F (.typeMismatch wanted got)) (name : String) :
    (strArg name).Fails C F := by
  refine .bind (.arg hname hscope name) fun v => ?_
  split
  · exact (Sure.pure _).fails
  · exact .fail (htype _ _)

end Arguments

theorem granted (houtside : ∀ operation target refusal, F (.outside operation target refusal))
    {operation : OutsideOperation} {target : String} (x : Except Refusal α) :
    (granted operation target x).Fails C F := by
  cases x with
  | ok a => exact (Sure.pure a).fails
  | error r => exact .fail (houtside _ _ _)

end Fails

end NativeM

open NativeM in
/-- Apart from a scope that is gone, the builtins fail in three ways. -/
theorem Builtin.fails {C : NativeCall → Prop} {F : Failure → Prop} (b : Builtin) (shell : Shell)
    (hname : ∀ name, F (.undefinedName name))
    (hscope : ∀ {call name e}, C call → call.scopes.getLocal call.scope name = .error e → F e)
    (htype : ∀ wanted got, F (.typeMismatch wanted got))
    (houtside : ∀ operation target refusal, F (.outside operation target refusal)) :
    (b.run shell).Fails C F := by
  have hparts : NativeM.Compositional fun x => x.Fails C F :=
    { pure := fun a => (Sure.pure a).fails
      bind := .bind
      positional := .bind Sure.call.fails fun _ => .args hname hscope _
      strArg := .strArg hname hscope htype
      shell := fun _ hf => .bind Sure.call.fails hf
      surroundings := Sure.surroundings.fails
      granted := fun _ _ => .granted houtside
      setFiles := fun files => (Sure.setFiles files).fails
      modifyTerminal := fun f => (Sure.modifyTerminal f).fails }
  exact hparts.builtin b shell

/-! ### What they look at -/

/-- Whether the same arguments are found in both calls, and the same settings. -/
structure NativeCall.Alike (call call' : NativeCall) : Prop where
  argument : ∀ name, call'.scopes.getLocal call'.scope name = call.scopes.getLocal call.scope name
  argc : call'.argc = call.argc
  settings : call'.settings = call.settings

/-- Whether the same arguments are found in both calls, and the same name of the shell. -/
structure NativeCall.Akin (call call' : NativeCall) : Prop where
  argument : ∀ name, call'.scopes.getLocal call'.scope name = call.scopes.getLocal call.scope name
  argc : call'.argc = call.argc
  shell : call'.settings.shell = call.settings.shell

/-- The call with other limits. -/
def NativeCall.withLimits (call : NativeCall) (breadcrumbs calls : Nat) : NativeCall :=
  { call with settings :=
    { call.settings with maxBreadcrumbs := breadcrumbs, maxCallDepth := calls } }

namespace NativeM

variable {α β : Type}

/-- It does the same in calls that are alike. -/
def Secluded (x : NativeM α) : Prop :=
  ∀ call call' s, call.Alike call' → x call' s = x call s

/-- It does the same whatever the limits are. -/
def IgnoresLimits (x : NativeM α) : Prop :=
  ∀ call breadcrumbs calls s, x (call.withLimits breadcrumbs calls) s = x call s

/-- It looks at the arguments and the name of the shell only. -/
def Modest (x : NativeM α) : Prop :=
  ∀ call call' s, call.Akin call' → x call' s = x call s

namespace Modest

theorem secluded {x : NativeM α} (hx : x.Modest) : x.Secluded :=
  fun call call' s h => hx call call' s ⟨h.argument, h.argc, congrArg Settings.shell h.settings⟩

theorem ignoresLimits {x : NativeM α} (hx : x.Modest) : x.IgnoresLimits :=
  fun call _ _ s => hx call _ s ⟨fun _ => rfl, rfl, rfl⟩

/-- It does not look at the call. -/
theorem of_const {x : NativeM α} (h : ∀ call call' s, x call' s = x call s) : x.Modest :=
  fun call call' s _ => h call call' s

theorem pure (a : α) : (pure a : NativeM α).Modest :=
  of_const fun _ _ _ => rfl

theorem fail (e : Failure) : (fail e : NativeM α).Modest :=
  of_const fun _ _ _ => rfl

theorem bind {x : NativeM α} {f : α → NativeM β} (hx : x.Modest) (hf : ∀ a, (f a).Modest) :
    (x >>= f).Modest := by
  intro call call' s h
  rw [bind_apply, bind_apply, hx call call' s h]
  rcases x call s with ⟨e | a, s'⟩
  · rfl
  · exact hf a call call' s' h

/-- It looks at what is the same in calls that are akin. -/
theorem bind_call {f : NativeCall → NativeM α} (hsame : ∀ call call', call.Akin call' →
    f call' = f call) (hf : ∀ call, (f call).Modest) : (call >>= f).Modest := by
  intro call call' s h
  have hrun : ∀ c, (NativeM.call >>= f) c s = f c c s := fun _ => rfl
  rw [hrun, hrun, hsame call call' h]
  exact hf call call call' s h

theorem arg (name : String) : (arg name).Modest := by
  refine bind_call (fun call call' h => by rw [h.argument]) fun call =>
    bind (of_const fun _ _ _ => rfl) fun o => ?_
  cases o with
  | none => exact fail _
  | some v => exact pure v

theorem args (names : List String) : (args names).Modest := by
  induction names with
  | nil => exact pure []
  | cons name names ih => exact bind (arg name) fun _ => bind ih fun _ => pure _

theorem strArg (name : String) : (strArg name).Modest := by
  refine bind (arg name) fun v => ?_
  split
  · exact pure _
  · exact fail _

theorem positional : positional.Modest :=
  bind_call (fun _ _ h => by rw [h.argc]) fun _ => args _

theorem surroundings : surroundings.Modest :=
  of_const fun _ _ _ => rfl

theorem modifyTerminal (f : Terminal → Terminal) : (modifyTerminal f).Modest :=
  of_const fun _ _ _ => rfl

theorem setFiles (files : Files) : (setFiles files).Modest :=
  of_const fun _ _ _ => rfl

theorem granted (operation : OutsideOperation) (target : String) (x : Except Refusal α) :
    (granted operation target x).Modest := by
  cases x with
  | ok a => exact pure a
  | error r => exact fail _

end Modest

end NativeM

/-- The builtins look at their arguments and the name of the shell only. -/
theorem Builtin.modest (b : Builtin) (shell : Shell) : (b.run shell).Modest := by
  have hparts : NativeM.Compositional fun x => x.Modest :=
    { pure := .pure
      bind := .bind
      positional := .positional
      strArg := .strArg
      shell := fun hsame hf => .bind_call (fun c c' h => hsame c c' h.shell) hf
      surroundings := .surroundings
      granted := .granted
      setFiles := .setFiles
      modifyTerminal := .modifyTerminal }
  exact hparts.builtin b shell

/-- The native functions of the host look at their arguments and the settings only. -/
def Host.Secluded (host : Host) : Prop :=
  ∀ key, (host.native key).Secluded

theorem Host.Secluded.run {host : Host} (h : host.Secluded) (code : NativeCode) :
    (code.run host).Secluded := by
  cases code with
  | builtin b => exact (b.modest host.shell).secluded
  | host key => exact h key

/-- The native functions of the host do the same whatever the limits are. -/
def Host.IgnoresLimits (host : Host) : Prop :=
  ∀ key, (host.native key).IgnoresLimits

theorem Host.IgnoresLimits.run {host : Host} (h : host.IgnoresLimits) (code : NativeCode) :
    (code.run host).IgnoresLimits := by
  cases code with
  | builtin b => exact (b.modest host.shell).ignoresLimits
  | host key => exact h key

end Retrace
