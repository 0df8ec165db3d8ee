import Retrace.Unix.Characters

/-!
# Signals

What can be sent to something that runs. A signal has a number and a name; by
itself it ends what gets it, unless it is one of the harmless ones.
-/

namespace Retrace.Unix.Signal

/-- The names of the signals with their numbers. -/
def names : List (Nat × String) :=
  [(1, "HUP"), (2, "INT"), (3, "QUIT"), (4, "ILL"), (5, "TRAP"), (6, "ABRT"), (7, "BUS"), (8, "FPE"),
    (9, "KILL"), (10, "USR1"), (11, "SEGV"), (12, "USR2"), (13, "PIPE"), (14, "ALRM"), (15, "TERM"),
    (16, "STKFLT"), (17, "CHLD"), (18, "CONT"), (19, "STOP"), (20, "TSTP"), (21, "TTIN"), (22, "TTOU"),
    (23, "URG"), (24, "XCPU"), (25, "XFSZ"), (26, "VTALRM"), (27, "PROF"), (28, "WINCH"), (29, "IO"),
    (30, "PWR"), (31, "SYS"), (34, "RTMIN")] ++
  (List.range 15).map (fun n => (35 + n, "RTMIN+" ++ toString (n + 1))) ++
  (List.range 14).map (fun n => (50 + n, "RTMAX-" ++ toString (14 - n))) ++ [(64, "RTMAX")]

/-- The highest number of a signal. -/
def highest : Nat := 64

/-- The signal that nothing can do anything about. -/
def kill : Nat := 9

/-- The signal for a use of memory that there is not. -/
def memory : Nat := 11

/-- The signal for an output that nobody reads. -/
def pipe : Nat := 13

/-- The signal that is sent if no other one is named. -/
def terminate : Nat := 15

/-- The name of a signal, if it has one. -/
def name? (n : Nat) : Option String := names.lookup n

/-- The name of a signal, or else its number. -/
def name (n : Nat) : String := (name? n).getD (toString n)

/-- The signal of a name, in which capitals do not matter and the beginning may be left out. -/
def ofName? (s : String) : Option Nat :=
  let s := s.toUpper
  let s := if s.startsWith "SIG" then (s.drop 3).toString else s
  ((names.find? fun e => e.2 = s).map (·.1)).or (if s = "POLL" then some 29 else if s = "CLD" then some 17 else none)

/-- The signal of a name or a number. -/
def of? (s : String) : Option Nat :=
  if s != "" && s.toList.all Char.isDigit then
    match s.toNat? with
    | some n => if 0 < n && n ≤ highest then some n else none
    | none => none
  else ofName? s

/-- Whether a signal ends nothing by itself. -/
def isHarmless (n : Nat) : Bool := [17, 18, 19, 20, 21, 22, 23, 28].contains n

/-- What is said of something that a signal has ended. -/
def description (n : Nat) : String :=
  let known : List (Nat × String) :=
    [(1, "Hangup"), (3, "Quit"), (4, "Illegal instruction"), (5, "Trace/breakpoint trap"), (6, "Aborted"),
      (7, "Bus error"), (8, "Floating point exception"), (9, "Killed"), (10, "User defined signal 1"),
      (11, "Segmentation fault"), (12, "User defined signal 2"), (14, "Alarm clock"), (15, "Terminated"),
      (16, "Stack fault"), (24, "CPU time limit exceeded"), (25, "File size limit exceeded"),
      (26, "Virtual timer expired"), (27, "Profiling timer expired"), (29, "I/O possible"),
      (30, "Power failure"), (31, "Bad system call")]
  (known.lookup n).getD ("Real-time signal " ++ toString (n - 34))

end Retrace.Unix.Signal
