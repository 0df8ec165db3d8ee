import Retrace.Scope

/-!
# The ledger of breadcrumbs

What is needed to take back the effects of the skips that are open: one
*breadcrumb* for each rebinding, in the order in which they happened, and among
them a *marker* for each open skip, where it was entered.

A skip is *resolved* in one of two ways. Closing it removes its marker alone, so
its breadcrumbs now count for the skip around it; discarding it removes its
breadcrumbs as well. When the last open skip is resolved nothing can be taken
back any more, and the ledger is emptied. Nothing is recorded while no skip is
open. The ledger holds a limited number of breadcrumbs, markers included.
-/

namespace Retrace

/-- Where a skip was entered. -/
structure Marker where
  /-- Which skip it is. -/
  number : Nat
  /-- The serial number of the first scope to be created inside the skip. -/
  horizon : Nat
deriving DecidableEq

/-- Whether the scope with the given serial number was created inside the skip. -/
def Marker.encloses (m : Marker) (serial : Nat) : Bool :=
  m.horizon ≤ serial

/-- What is recorded. -/
inductive Breadcrumb where
  | marker (marker : Marker)
  /-- The name was bound to `previous` in the scope. -/
  | binding (scope : ScopeId) (name : String) (previous : Value)
  /-- An entry was stored in a map reached along `path` from what the name was
      bound to in the scope; `previous` pairs its key with what was stored there
      before, void if nothing was. -/
  | entry (scope : ScopeId) (name : String) (path : List Value) (previous : Value)
  /-- The statement takes back an effect that happened in the scope. -/
  | replay (scope : ScopeId) (undo : Stmt)

/-- Whether it is the given marker. -/
def Breadcrumb.marks (m : Marker) : Breadcrumb → Bool
  | marker n => n == m
  | _ => false

/-- The ledger. -/
structure Ledger where
  /-- The breadcrumbs, the newest first. -/
  crumbs : List Breadcrumb
  /-- How many breadcrumbs there are. -/
  size : Nat
  /-- How many skips are open. -/
  openSkips : Nat
  /-- The number of the next skip. -/
  nextMarker : Nat
  /-- How many breadcrumbs there may be. -/
  limit : Nat
  size_eq : size = crumbs.length := by simp

namespace Ledger

/-- No breadcrumbs, and no open skip. -/
def empty (limit : Nat) : Ledger where
  crumbs := []
  size := 0
  openSkips := 0
  nextMarker := 0
  limit := limit

/-- Whether breadcrumbs are recorded. -/
def isRecording (l : Ledger) : Bool :=
  0 < l.openSkips

/-- Adds a breadcrumb if there is room. -/
def append (l : Ledger) (c : Breadcrumb) : Except Failure Ledger :=
  if l.limit ≤ l.size then .error (.ledgerLimitExceeded l.limit)
  else .ok { l with
    crumbs := c :: l.crumbs
    size := l.size + 1
    size_eq := by simp [l.size_eq] }

/-- Opens a skip, given the serial number of the next scope. -/
def openSkip (l : Ledger) (horizon : Nat) : Except Failure (Marker × Ledger) := do
  let m : Marker := ⟨l.nextMarker, horizon⟩
  let l ← l.append (.marker m)
  .ok (m, { l with openSkips := l.openSkips + 1, nextMarker := l.nextMarker + 1 })

/-- Records a breadcrumb, if any skip is open. -/
def record (l : Ledger) (c : Breadcrumb) : Except Failure Ledger :=
  if l.isRecording then l.append c else .ok l

/-- Takes the newest breadcrumb, unless it is the given marker. -/
def popAbove (l : Ledger) (m : Marker) : Option (Breadcrumb × Ledger) :=
  match h : l.crumbs with
  | [] => none
  | c :: cs =>
    if c.marks m then none
    else some (c, { l with
      crumbs := cs
      size := l.size - 1
      size_eq := by simp [l.size_eq, h] })

/-- No breadcrumbs, with the number of open skips as it is. -/
def erased (l : Ledger) : Ledger :=
  { l with crumbs := [], size := 0, size_eq := rfl }

/-- One skip fewer is open. With the last one all breadcrumbs go. -/
def resolved (l : Ledger) : Ledger :=
  if l.openSkips ≤ 1 then { l.erased with openSkips := 0 }
  else { l with openSkips := l.openSkips - 1 }

/-- Whether the marker is in the ledger. -/
def holds (l : Ledger) (m : Marker) : Bool :=
  l.crumbs.any (·.marks m)

/-- Resolves a skip, keeping its breadcrumbs. -/
def close (l : Ledger) (m : Marker) : Ledger :=
  if h : l.holds m then
    resolved { l with
      crumbs := l.crumbs.eraseP (·.marks m)
      size := l.size - 1
      size_eq := by
        obtain ⟨c, hc, hm⟩ := List.any_eq_true.1 h
        rw [List.length_eraseP_of_mem hc hm, l.size_eq] }
  else l

/-- Resolves a skip, dropping its breadcrumbs. -/
def discard (l : Ledger) (m : Marker) : Ledger :=
  if h : l.holds m then
    resolved { l with
      crumbs := (l.crumbs.dropWhile (!·.marks m)).drop 1
      size := l.size - ((l.crumbs.takeWhile (!·.marks m)).length + 1)
      size_eq := by
        have := congrArg List.length
          (List.takeWhile_append_dropWhile (p := (!Breadcrumb.marks m ·)) (l := l.crumbs))
        rw [List.length_append] at this
        rw [List.length_drop, l.size_eq]
        omega }
  else l

/-- Forgets every breadcrumb and every open skip. -/
def clear (l : Ledger) : Ledger :=
  { l.erased with openSkips := 0 }

/-- Whether there is no breadcrumb. -/
def isEmpty (l : Ledger) : Bool :=
  l.crumbs.isEmpty

end Ledger

end Retrace
