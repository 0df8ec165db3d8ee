import Retrace.Native
import Retrace.Value.Equality

/-!
# Probes

A host whose native functions show what such a function can see and do: each is
one operation on the call, with its answer for a value. Its shell may be any.
-/

namespace Retrace.Probe

open NativeM

/-- The number of arguments. -/
def argc : NativeM Value := do
  pure (.int (Int64.ofNat (← call).argc))

/-- The arguments by their positions, as a map. -/
def positions : NativeM Value := do
  pure (.map (Entries.ofItems (← positional)))

/-- The argument bound to `x`, which has to be a string. -/
def strX : NativeM Value := do
  pure (.str (← strArg "x"))

/-- Prints the argument bound to `x`. -/
def printX : NativeM Value := do
  print (← arg "x").text
  pure .void

/-- Clears the terminal. -/
def clear : NativeM Value := do
  modifyTerminal Terminal.clear
  pure .void

/-- The settings, as a map. -/
def config : NativeM Value := do
  let settings := (← call).settings
  pure (.map (Entries.ofList [
    (.str "breadcrumbs", .int (Int64.ofNat settings.maxBreadcrumbs)),
    (.str "depth", .int (Int64.ofNat settings.maxCallDepth)),
    (.str "echo", .bool settings.echo),
    (.str "shell", .str settings.shell)]))

/-- The arguments bound to `x` and `y`, as a pair. -/
def pairXY : NativeM Value := do
  let x ← arg "x"
  let y ← arg "y"
  pure (.pair x y)

/-- Fails. -/
def failing : NativeM Value :=
  fail (.restoreFailed (.other "native failed"))

/-- The probes by their keys. -/
def native : String → NativeM Value
  | "argc" => argc
  | "positional" => positions
  | "arg_x" => arg "x"
  | "str_x" => strX
  | "print_x" => printX
  | "clear" => clear
  | "config" => config
  | "pair_xy" => pairXY
  | "fail" => failing
  | key => fail (.undefinedName key)

/-- The host of the probes. -/
def host (shell : Shell) : Host := ⟨native, shell⟩

end Retrace.Probe
