import Retrace.Outside.Files

/-!
# Shells

Shell commands are not run by a session but by a program outside of it, the *shell*.
It is given the command as an argument and is run in the home of the session, with
nothing on its input. What it prints is collected, and the files are as it leaves
them.

What becomes of a command is not said here: a `Shell` may be any function of the
program's name, of the command and of the files there are, and what is said of
sessions holds with every one of them. The files are all that a shell remembers of
the commands before.
-/

namespace Retrace

/-- What a program leaves behind: what it wrote to its output and to its error output, and
    the files. -/
structure Transcript where
  output : String
  errors : String
  files : Files

/-- What runs commands, given the name of the program that is to do it. Name, command and
    output are texts of octets. -/
abbrev Shell : Type :=
  (program command : String) → Files → Except Refusal Transcript

/-- Has a program run a command. No argument of a program can hold a null character, so no shell
    is given one. -/
def Shell.start (shell : Shell) (program command : String) (files : Files) :
    Except Refusal Transcript :=
  if program.toList.contains '\x00' || command.toList.contains '\x00' then .error .nullInArgument
  else shell (Text.Octets.ofText program) (Text.Octets.ofText command) files

end Retrace
