/-!
# The terminal

Everything native functions have printed.
-/

namespace Retrace

/-- The text printed so far. -/
structure Terminal where
  text : String

namespace Terminal

/-- Nothing printed. -/
def empty : Terminal := ⟨""⟩

/-- Prints a text after what is there. -/
def print (t : Terminal) (text : String) : Terminal :=
  ⟨t.text ++ text⟩

/-- Forgets what was printed. -/
def clear (_ : Terminal) : Terminal :=
  empty

/-- The lines printed. A line break at the end does not begin another line. -/
def lines (t : Terminal) : List String :=
  let lines := t.text.splitOn "\n"
  if lines.getLast? = some "" then lines.dropLast else lines

end Terminal

end Retrace
