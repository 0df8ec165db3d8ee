/-!
# Settings

What the host decides about a session: how far it may go, and what it has to do
with the outside world.
-/

namespace Retrace

/-- The settings of a session. -/
structure Settings where
  /-- How many breadcrumbs the ledger may hold, markers included. -/
  maxBreadcrumbs : Nat
  /-- How deeply calls may be nested. -/
  maxCallDepth : Nat
  /-- Whether the terminal is also shown as it is printed to. -/
  echo : Bool
  /-- The program that runs shell commands. -/
  shell : String
deriving DecidableEq

/-- The settings of a host that decides nothing. -/
def Settings.default : Settings where
  maxBreadcrumbs := 1 <<< 20
  maxCallDepth := 256
  echo := false
  shell := "bash"

end Retrace
