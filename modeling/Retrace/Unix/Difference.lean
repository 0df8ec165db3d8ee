import Std.Data.HashMap

/-!
# Differences

How one list of lines is changed into another one by as few deletions and
insertions as possible. The search for them goes along *diagonals*, on which the
difference between the places in the two lists is constant, from both ends at
once: where the two searches meet, the problem falls into two smaller ones.

Lines that do not occur in the other list at all are left out of the search. In
the end the runs of lines that are changed are moved to where they fit best.
-/

namespace Retrace.Unix

/-- A change: so many lines are deleted from a place on, and so many are put in. Places are counted
    from zero. -/
structure Change where
  oldStart : Nat
  oldCount : Nat
  newStart : Nat
  newCount : Nat

namespace Difference

/-! ### Searching -/

/-- The two lists to be compared. Lines are the same if their numbers are. -/
structure Pair where
  old : Array Nat
  new : Array Nat

/-- Whether two lines are the same. -/
def Pair.same (p : Pair) (x y : Int) : Bool :=
  p.old.getD x.toNat 0 = p.new.getD y.toNat 0

/-- A part of each of the two lists. -/
structure Window where
  oldFrom : Int
  oldTo : Int
  newFrom : Int
  newTo : Int

/-- How far the search has come on each diagonal; the place is shifted, so that it is never negative. -/
structure Reach where
  shift : Int
  places : Array Int

/-- How far the search has come on a diagonal. -/
def Reach.get (r : Reach) (d : Int) : Int := r.places.getD (d + r.shift).toNat 0

/-- Notes how far the search has come on a diagonal. -/
def Reach.set (r : Reach) (d x : Int) : Reach :=
  { r with places := r.places.setIfInBounds (d + r.shift).toNat x }

/-- Goes on while lines are the same. -/
def slide (p : Pair) (w : Window) : (fuel : Nat) → (x y : Int) → Int
  | 0, x, _ => x
  | n + 1, x, y => if x < w.oldTo && y < w.newTo && p.same x y then slide p w n (x + 1) (y + 1) else x

/-- Goes back while lines are the same. -/
def slideBack (p : Pair) (w : Window) : (fuel : Nat) → (x y : Int) → Int
  | 0, x, _ => x
  | n + 1, x, y =>
    if w.oldFrom < x && w.newFrom < y && p.same (x - 1) (y - 1) then slideBack p w n (x - 1) (y - 1) else x

/-- The diagonals on which a search is. -/
structure Band where
  low : Int
  high : Int

/-- The next step of the search from the beginning, on some diagonals from `d` downwards: how far it
    comes, and where it meets the other search. -/
def forward (p : Pair) (w : Window) (length : Nat) (meets : Bool) (other : Band) (back : Reach) :
    (count : Nat) → (d : Int) → Reach → Reach × Option (Int × Int)
  | 0, _, r => (r, none)
  | n + 1, d, r =>
    let (low, high) := (r.get (d - 1), r.get (d + 1))
    let start := if low < high then high else low + 1
    let x := slide p w length start (start - d)
    let r := r.set d x
    if meets && other.low ≤ d && d ≤ other.high && back.get d ≤ x then (r, some (x, x - d))
    else forward p w length meets other back n (d - 2) r

/-- The next step of the search from the end. -/
def backward (p : Pair) (w : Window) (length : Nat) (meets : Bool) (other : Band) (front : Reach) :
    (count : Nat) → (d : Int) → Reach → Reach × Option (Int × Int)
  | 0, _, r => (r, none)
  | n + 1, d, r =>
    let (low, high) := (r.get (d - 1), r.get (d + 1))
    let start := if low < high then low else high - 1
    let x := slideBack p w length start (start - d)
    let r := r.set d x
    if meets && other.low ≤ d && d ≤ other.high && x ≤ front.get d then (r, some (x, x - d))
    else backward p w length meets other front n (d - 2) r

/-- The diagonals of the next step, and how far a search has come at their edges: nowhere. -/
def widened (least most nowhere : Int) (b : Band) (r : Reach) : Band × Reach :=
  let (low, r) := if least < b.low then (b.low - 1, r.set (b.low - 2) nowhere) else (b.low + 1, r)
  let (high, r) := if b.high < most then (b.high + 1, r.set (b.high + 2) nowhere) else (b.high - 1, r)
  (⟨low, high⟩, r)

/-- Where the two searches meet. -/
def meeting (p : Pair) (w : Window) (length : Nat) (odd : Bool) :
    (fuel : Nat) → (front back : Band) → (fd bd : Reach) → Int × Int
  | 0, _, _, _, _ => (w.oldFrom, w.newFrom)
  | n + 1, front, back, fd, bd =>
    let least := w.oldFrom - w.newTo
    let most := w.oldTo - w.newFrom
    let (front, fd) := widened least most (-1) front fd
    match forward p w length odd back bd ((front.high - front.low) / 2 + 1).toNat front.high fd with
    | (_, some place) => place
    | (fd, none) =>
      let (back, bd) := widened least most (2 * length + 2) back bd
      match backward p w length (!odd) front fd ((back.high - back.low) / 2 + 1).toNat back.high bd with
      | (_, some place) => place
      | (bd, none) => meeting p w length odd n front back fd bd

/-- Which lines are deleted, and which are put in. -/
structure Marks where
  old : Array Bool
  new : Array Bool

/-- Marks the lines from a place up to another one. -/
def mark (flags : Array Bool) (start stop : Int) : Array Bool :=
  (List.range (stop - start).toNat).foldl (fun (a : Array Bool) k => a.setIfInBounds (start.toNat + k) true) flags

/-- Compares a part of two lists. -/
def compare (p : Pair) (length : Nat) : (fuel : Nat) → Window → Marks → Marks
  | 0, _, m => m
  | n + 1, w, m =>
    let x := slide p w length w.oldFrom w.newFrom
    let w := { w with oldFrom := x, newFrom := w.newFrom + (x - w.oldFrom) }
    let x := slideBack p w length w.oldTo w.newTo
    let w := { w with oldTo := x, newTo := w.newTo - (w.oldTo - x) }
    if w.oldFrom = w.oldTo then { m with new := mark m.new w.newFrom w.newTo }
    else if w.newFrom = w.newTo then { m with old := mark m.old w.oldFrom w.oldTo }
    else
      let shift : Int := p.new.size + 2
      let nothing : Reach := ⟨shift, Array.replicate (p.old.size + p.new.size + 6) 0⟩
      let first := w.oldFrom - w.newFrom
      let last := w.oldTo - w.newTo
      let (x, y) := meeting p w length ((first - last) % 2 != 0) (2 * length + 2) ⟨first, first⟩ ⟨last, last⟩
        (nothing.set first w.oldFrom) (nothing.set last w.oldTo)
      compare p length n { w with oldFrom := x, newFrom := y }
        (compare p length n { w with oldTo := x, newTo := y } m)

/-! ### Moving runs -/

/-- A list whose runs of changed lines are being moved, and which lines of the other list are changed. The
    run goes from `start` up to `stop`; `other` is the place in the other list that corresponds to its end. -/
structure Moving where
  lines : Array Nat
  changed : Array Bool
  others : Array Bool
  start : Nat
  stop : Nat
  other : Nat
  /-- The last end of the run for which there is a run in the other list. -/
  corresponding : Nat

namespace Moving

/-- Whether a line is changed. -/
def isChanged (m : Moving) (k : Nat) : Bool := m.changed.getD k false

/-- Whether a line of the other list is changed. -/
def isOther (m : Moving) (k : Nat) : Bool := m.others.getD k false

/-- The first place from `k` on that does not have a property. -/
def firstWithout (has : Nat → Bool) : (fuel k : Nat) → Nat
  | 0, k => k
  | n + 1, k => if has k then firstWithout has n (k + 1) else k

/-- The last place before `k` that does not have a property, if there is one. -/
def lastWithout (has : Nat → Bool) : Nat → Nat
  | 0 => 0
  | k + 1 => if has k then lastWithout has k else k

/-- The beginning of the run of places that have a property and end before `k`. -/
def runStart (has : Nat → Bool) : Nat → Nat
  | 0 => 0
  | k + 1 => if has k then runStart has k else k + 1

/-- Moves the run back as long as the line before it is the same as its last one. -/
def back : (fuel : Nat) → Moving → Moving
  | 0, m => m
  | n + 1, m =>
    if 0 < m.start && m.lines.getD (m.start - 1) 0 = m.lines.getD (m.stop - 1) 0 then
      let changed := (m.changed.setIfInBounds (m.start - 1) true).setIfInBounds (m.stop - 1) false
      let m := { m with changed := changed, stop := m.stop - 1 }
      back n { m with start := runStart m.isChanged (m.start - 1), other := lastWithout m.isOther m.other }
    else m

/-- Moves the run on as long as its first line is the same as the one after it. -/
def ahead : (fuel : Nat) → Moving → Moving
  | 0, m => m
  | n + 1, m =>
    let size := m.lines.size
    if m.stop < size && m.lines.getD m.start 0 = m.lines.getD m.stop 0 then
      let changed := (m.changed.setIfInBounds m.start false).setIfInBounds m.stop true
      let m := { m with changed := changed, start := m.start + 1 }
      let stop := firstWithout m.isChanged size (m.stop + 1)
      let other := firstWithout m.isOther m.others.size (m.other + 1)
      ahead n { m with
        stop := stop
        other := other
        corresponding := if m.other + 1 < other then stop else m.corresponding }
    else m

/-- Moves the run back and on until it does not grow any more. -/
def settle : (fuel : Nat) → Moving → Moving
  | 0, m => m
  | n + 1, m =>
    let length := m.stop - m.start
    let m := back m.lines.size m
    let m := { m with corresponding := if 0 < m.other && m.isOther (m.other - 1) then m.stop else m.lines.size }
    let m := ahead m.lines.size m
    if m.stop - m.start = length then m else settle n m

/-- Moves the run back to where there is a run in the other list. -/
def align : (fuel : Nat) → Moving → Moving
  | 0, m => m
  | n + 1, m =>
    if m.corresponding < m.stop then
      let changed := (m.changed.setIfInBounds (m.start - 1) true).setIfInBounds (m.stop - 1) false
      align n { m with
        changed := changed
        start := m.start - 1
        stop := m.stop - 1
        other := lastWithout m.isOther m.other }
    else m

/-- Moves all runs, from a place on. -/
def all : (fuel : Nat) → Moving → Moving
  | 0, m => m
  | n + 1, m =>
    if m.stop < m.lines.size then
      if m.isChanged m.stop then
        let stop := firstWithout m.isChanged m.lines.size (m.stop + 1)
        let other := firstWithout m.isOther m.others.size m.other
        let m := { m with start := m.stop, stop := stop, other := other }
        all n (align m.lines.size (settle (m.lines.size + 1) m))
      else all n { m with stop := m.stop + 1, other := firstWithout m.isOther m.others.size m.other + 1 }
    else m

/-- The changed lines of a list after all runs were moved. -/
def result (lines : Array Nat) (changed others : Array Bool) : Array Bool :=
  (all (2 * lines.size + 2) ⟨lines, changed, others, 0, 0, 0, lines.size⟩).changed

end Moving

/-! ### Changes -/

/-- The changes that marks stand for, from places on. -/
def changesOf (m : Marks) : (fuel i j : Nat) → List Change
  | 0, _, _ => []
  | n + 1, i, j =>
    if m.old.size ≤ i && m.new.size ≤ j then []
    else
      let iEnd := Moving.firstWithout (fun k => m.old.getD k false) m.old.size i
      let jEnd := Moving.firstWithout (fun k => m.new.getD k false) m.new.size j
      if i < iEnd || j < jEnd then ⟨i, iEnd - i, j, jEnd - j⟩ :: changesOf m n iEnd jEnd
      else changesOf m n (i + 1) (j + 1)

/-- How many lines two lists have in common at their beginnings. -/
def commonLength : List String → List String → Nat
  | a :: as, b :: bs => if a = b then commonLength as bs + 1 else 0
  | _, _ => 0

/-- Numbers for texts, the same for the same ones. -/
def numbered (known : Std.HashMap String Nat) (texts : List String) : Std.HashMap String Nat × Array Nat :=
  texts.foldl (fun (known, ns) t =>
    match known[t]? with
    | some n => (known, ns.push n)
    | none => (known.insert t known.size, ns.push known.size)) (known, #[])

/-- The lines that occur in another list, with their places. -/
def occurring (lines others : Array Nat) (count : Nat) : List (Nat × Nat) :=
  let known := others.foldl (fun (a : Array Bool) n => a.setIfInBounds n true) (Array.replicate count false)
  (lines.toList.zipIdx).filter fun (n, _) => known.getD n false

/-- The lines of a list that are changed, if those that were looked at are at some places. -/
def spread (size : Nat) (places : List Nat) (marks : Array Bool) : Array Bool :=
  (places.zipIdx).foldl (fun (a : Array Bool) (place, k) => a.setIfInBounds place (marks.getD k false))
    (Array.replicate size true)

/-- The changes between two lists of lines. Lines are the same if `key` has the same value for them; those at the
    beginnings and ends that have no difference are left out, but so many of them as `horizon` says. -/
def changes (key : String → String) (horizon : Nat) (old new : List String) : List Change :=
  let start := commonLength old new
  let oldRest := old.drop start
  let newRest := new.drop start
  let finish := commonLength oldRest.reverse newRest.reverse
  let start := start - horizon
  let finish := finish - horizon
  let part (ls : List String) : List String := (ls.drop start).take (ls.length - start - finish)
  let (known, a) := numbered ∅ ((part old).map key)
  let (known, b) := numbered known ((part new).map key)
  let oldKept := occurring a b known.size
  let newKept := occurring b a known.size
  let p : Pair := ⟨(oldKept.map (·.1)).toArray, (newKept.map (·.1)).toArray⟩
  let length := p.old.size + p.new.size + 2
  let m := compare p length (2 * length + 2) ⟨0, p.old.size, 0, p.new.size⟩
    ⟨Array.replicate p.old.size false, Array.replicate p.new.size false⟩
  let oldMarks := spread a.size (oldKept.map (·.2)) m.old
  let newMarks := spread b.size (newKept.map (·.2)) m.new
  let oldMarks := Moving.result a oldMarks newMarks
  let newMarks := Moving.result b newMarks oldMarks
  (changesOf ⟨oldMarks, newMarks⟩ (a.size + b.size + 1) 0 0).map fun c =>
    { c with oldStart := c.oldStart + start, newStart := c.newStart + start }

end Difference

end Retrace.Unix
