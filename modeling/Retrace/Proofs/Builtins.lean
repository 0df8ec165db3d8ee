import Retrace.Proofs.Variadic

/-!
# What builtins change

A builtin changes the terminal and the files only after everything that can fail. One that fails
has changed neither (`Builtin.atomic`), and of its call nothing remains but a serial number that
was used up (`Evaluator.callValue_builtin`).

This is so with every shell. All that a shell can do to a session is to leave two texts and the
files behind, or to refuse (`Evaluator.callValue_shell`): the texts are printed, the errors after
the output, and how the command ended plays no part.
-/

namespace Retrace

namespace NativeM

variable {α β : Type}

/-- It changes nothing. -/
def Quiet (x : NativeM α) : Prop :=
  ∀ call s, (x call s).2 = s

/-- If it fails it has changed nothing. -/
def Atomic (x : NativeM α) : Prop :=
  ∀ call s e s', x call s = (.error e, s') → s' = s

namespace Quiet

theorem bind {x : NativeM α} {f : α → NativeM β} (hx : x.Quiet) (hf : ∀ a, (f a).Quiet) :
    (x >>= f).Quiet := by
  intro call s
  have hs := hx call s
  rw [bind_apply]
  generalize x call s = ran at hs
  obtain ⟨e | a, s₁⟩ := ran
  · exact hs
  · exact (hf a call s₁).trans hs

theorem pure (a : α) : (pure a : NativeM α).Quiet :=
  fun _ _ => rfl

theorem fail (e : Failure) : (fail e : NativeM α).Quiet :=
  fun _ _ => rfl

theorem call : call.Quiet :=
  fun _ _ => rfl

theorem surroundings : surroundings.Quiet :=
  fun _ _ => rfl

theorem arg (name : String) : (arg name).Quiet := by
  refine bind call fun _ => bind (fun _ _ => rfl) fun o => ?_
  cases o with
  | none => exact fail _
  | some v => exact pure v

theorem strArg (name : String) : (strArg name).Quiet := by
  refine bind (arg name) fun v => ?_
  split
  · exact pure _
  · exact fail _

theorem args (names : List String) : (args names).Quiet := by
  induction names with
  | nil => exact pure []
  | cons name names ih => exact bind (arg name) fun _ => bind ih fun _ => pure _

theorem positional : positional.Quiet :=
  bind call fun _ => args _

theorem granted (operation : OutsideOperation) (target : String) (x : Except Refusal α) :
    (granted operation target x).Quiet := by
  cases x with
  | ok a => exact pure a
  | error r => exact fail _

end Quiet

theorem Sure.atomic {x : NativeM α} (hx : x.Sure) : x.Atomic := by
  intro call s e s' h
  obtain ⟨a, s₁, ha⟩ := hx call s
  exact absurd (congrArg Prod.fst (ha.symm.trans h)) (by simp)

/-- What changes nothing may come before. -/
theorem Atomic.bind {x : NativeM α} {f : α → NativeM β} (hx : x.Quiet) (hf : ∀ a, (f a).Atomic) :
    (x >>= f).Atomic := by
  intro call s e s' h
  have hs := hx call s
  rw [bind_apply] at h
  generalize x call s = ran at hs h
  obtain ⟨e' | a, s₁⟩ := ran
  · exact (congrArg Prod.snd h).symm.trans hs
  · exact (hf a call s₁ e s' h).trans hs

end NativeM

open NativeM in
/-- A builtin that fails has changed nothing. -/
theorem Builtin.atomic (b : Builtin) (shell : Shell) : (b.run shell).Atomic := by
  have hvoid : (Pure.pure Value.void : NativeM Value).Sure := .pure _
  cases b with
  | println => exact .bind .positional fun _ => (Sure.bind (.modifyTerminal _) fun _ => hvoid).atomic
  | read =>
    exact .bind (.strArg _) fun _ => .bind .surroundings fun _ => .bind (.granted _ _ _) fun _ =>
      (Sure.pure _).atomic
  | write =>
    exact .bind (.strArg _) fun _ => .bind (.strArg _) fun _ => .bind .surroundings fun _ =>
      .bind (.granted _ _ _) fun _ => (Sure.bind (.setFiles _) fun _ => hvoid).atomic
  | touch | delete =>
    refine .bind (.strArg _) fun _ => .bind .surroundings fun _ => Sure.atomic ?_
    split
    · exact .bind (.setFiles _) fun _ => hvoid
    · exact .bind (.pure ()) fun _ => hvoid
  | shell =>
    exact .bind (.strArg _) fun _ => .bind .call fun _ => .bind .surroundings fun _ =>
      .bind (.granted _ _ _) fun _ => (Sure.bind (.setFiles _) fun _ =>
        .bind (.modifyTerminal _) fun _ => .bind (.modifyTerminal _) fun _ => hvoid).atomic

/-- The surroundings after a command that has left this behind. -/
def Transcript.taken (t : Transcript) (s : Surroundings) : Surroundings where
  terminal := (s.terminal.print (Text.Utf8.decode (Text.Octets.toBytes t.output))).print
    (Text.Utf8.decode (Text.Octets.toBytes t.errors))
  files := t.files

/-- A command is given to the shell that is set, and what that leaves behind is taken over. -/
theorem Builtin.runShell_eq (shell : Shell) {call : NativeCall} {command : String}
    (hcommand : call.scopes.getLocal call.scope "cmd" = .ok (some (.str command)))
    (s : Surroundings) :
    runShell shell call s =
      match shell.start call.settings.shell command s.files with
      | .ok t => (.ok .void, t.taken s)
      | .error why => (.error (.outside .shell command why), s) := by
  have hstr : NativeM.strArg "cmd" call s = (.ok command, s) := by
    rw [NativeM.strArg, NativeM.bind_apply, NativeM.arg_eq_ok hcommand]
    rfl
  rw [runShell, NativeM.bind_apply, hstr]
  simp only [NativeM.bind_apply, NativeM.call, NativeM.surroundings]
  cases shell.start call.settings.shell command s.files <;> rfl

namespace Evaluator

variable (r : Evaluator) (host : Host)

/-- A call of a builtin that fails leaves the machine as it was, but for the serial number of the
    scope that it had. -/
theorem callValue_builtin {f : NativeFunction} {b : Builtin} (hcode : f.code = .builtin b)
    {args : List Value} {m m' : Machine} {reason : Stop}
    (h : r.callValue host (.native f) args m = some (.error reason, m')) :
    m' = m ∨ m' = m.served m.surroundings := by
  by_cases hargs : f.variadic = true ∨ args.length = f.params.length
  · have hcall : r.callValue host (.native f) args m = _ := callNative_eq host hargs m
    rw [hcall, hcode] at h
    split at h
    · exact .inl (congrArg Prod.snd (Option.some.inj h)).symm
    · rcases hrun : (NativeCode.builtin b).run host (m.nativeCall f args) m.surroundings with
        ⟨e | v, s⟩
      · rw [hrun] at h
        rw [b.atomic host.shell _ _ _ _ hrun] at h
        exact .inr (congrArg Prod.snd (Option.some.inj h)).symm
      · rw [hrun] at h
        exact absurd (congrArg Prod.fst (Option.some.inj h)) (by simp [Machine.nativeResult])
  · obtain ⟨hf, hlength⟩ := not_or.1 hargs
    have hcounts : (!f.variadic && args.length != f.params.length) = true := by
      simp [hf, hlength]
    rw [callValue, callNative, if_pos hcounts] at h
    exact .inl (congrArg Prod.snd (Option.some.inj h)).symm

/-- The call of a shell command, whatever the shell: what the shell leaves behind is taken over, or
    the call fails because the shell refuses. -/
theorem callValue_shell (command : String) {m : Machine}
    (hdepth : m.callDepth < m.settings.maxCallDepth) :
    r.callValue host (.native Builtin.shell.function) [.str command] m =
      match host.shell.start m.settings.shell command m.surroundings.files with
      | .ok t => some (.ok .void, m.served (t.taken m.surroundings))
      | .error why =>
        some (.error (.failure (.outside .shell command why)), m.served m.surroundings) := by
  have hcall : r.callValue host (.native Builtin.shell.function) [.str command] m = _ :=
    callNative_eq host (.inr rfl) m
  have hcommand : (m.nativeCall Builtin.shell.function [.str command]).scopes.getLocal
      (m.nativeCall Builtin.shell.function [.str command]).scope "cmd" =
        .ok (some (.str command)) :=
    Scopes.getLocal_pushBinding m.scopes Scopes.global _ "cmd"
  have hrun : Builtin.shell.function.code.run host
      (m.nativeCall Builtin.shell.function [.str command]) m.surroundings =
        match host.shell.start m.settings.shell command m.surroundings.files with
        | .ok t => (.ok .void, t.taken m.surroundings)
        | .error why => (.error (.outside .shell command why), m.surroundings) :=
    Builtin.runShell_eq host.shell hcommand m.surroundings
  rw [hcall, if_neg (Nat.not_le_of_lt hdepth), hrun]
  cases host.shell.start m.settings.shell command m.surroundings.files <;> rfl

end Evaluator

end Retrace
