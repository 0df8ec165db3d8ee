import Retrace.Proofs.Ledger

/-!
# The ledger as a stack of frames

Seen from outside, a ledger is a stack of *frames* (`Frames`), one for each open
skip, with the breadcrumbs recorded in it and no markers at all:

* opening a skip puts an empty frame on the stack;
* recording puts a breadcrumb into the top frame, if there is one;
* taking back takes the newest breadcrumb out of the top frame;
* closing a skip adds its frame to the one below, or drops it if it is the last;
* discarding a skip drops its frame.

A ledger is used in a *nested* way (`Ledger.Nested`) if only the newest skip that
is not resolved yet is taken back or resolved, and no markers are recorded. Then
it does what the stack of frames does (`Ledger.refines_frames`). Between two
operations it holds the frames one on top of the other, with the marker of each
below it (`Ledger.Represents`).
-/

namespace Retrace

namespace Ledger

/-- What can be asked of a ledger. -/
inductive Operation where
  | openSkip (horizon : Nat)
  | record (crumb : Breadcrumb)
  | popAbove (marker : Marker)
  | close (marker : Marker)
  | discard (marker : Marker)
  | clear

/-- What is answered to an operation. A skip that is opened is known by a `μ`. -/
inductive Reply (μ : Type) where
  | opened (marker : μ)
  | popped (crumb : Option Breadcrumb)
  | done
  | refused (failure : Failure)

/-- The reply, with nothing said of which skip was opened. -/
def Reply.forget {μ : Type} : Reply μ → Reply Unit
  | opened _ => .opened ()
  | popped c => .popped c
  | done => .done
  | refused e => .refused e

/-- Carries out an operation. One that is refused leaves the ledger as it is. -/
def perform (l : Ledger) : Operation → Reply Marker × Ledger
  | .openSkip horizon =>
    match l.openSkip horizon with
    | .ok (m, l') => (.opened m, l')
    | .error e => (.refused e, l)
  | .record c =>
    match l.record c with
    | .ok l' => (.done, l')
    | .error e => (.refused e, l)
  | .popAbove m =>
    match l.popAbove m with
    | some (c, l') => (.popped (some c), l')
    | none => (.popped none, l)
  | .close m => (.done, l.close m)
  | .discard m => (.done, l.discard m)
  | .clear => (.done, l.clear)

/-- Carries out operations one after the other. -/
def performAll (l : Ledger) : List Operation → List (Reply Marker) × Ledger
  | [] => ([], l)
  | op :: ops =>
    let rest := performAll (l.perform op).2 ops
    ((l.perform op).1 :: rest.1, rest.2)

/-- Whether only the newest of the skips that are not resolved is taken back or resolved, and
    what is recorded is no marker. -/
def Operation.Fits (unresolved : List Marker) : Operation → Prop
  | .record c => c.isMarker = false
  | .popAbove m => unresolved.head? = some m
  | .close m => unresolved.head? = some m
  | .discard m => unresolved.head? = some m
  | _ => True

/-- The skips that are not resolved after an operation that got the given reply, the newest
    first. -/
def Operation.unresolved (unresolved : List Marker) : Operation → Reply Marker → List Marker
  | .openSkip _, .opened m => m :: unresolved
  | .close _, _ => unresolved.tail
  | .discard _, _ => unresolved.tail
  | .clear, _ => []
  | _, _ => unresolved

/-- Whether operations use the ledger in a nested way. -/
def Nested (l : Ledger) (unresolved : List Marker) : List Operation → Prop
  | [] => True
  | op :: ops =>
    op.Fits unresolved ∧ Nested (l.perform op).2 (op.unresolved unresolved (l.perform op).1) ops

end Ledger

/-- The breadcrumbs recorded in each open skip, those of the newest skip first. In a frame the
    newest breadcrumb comes first. -/
abbrev Frames := List (List Breadcrumb)

namespace Frames

open Ledger (Operation Reply)

/-- The number of breadcrumbs, counting one more for each frame. -/
def size (fs : Frames) : Nat :=
  fs.flatten.length + fs.length

/-- Goes on with more breadcrumbs, unless these are too many. -/
def grow (limit : Nat) (fs grown : Frames) (reply : Reply Unit) : Reply Unit × Frames :=
  if limit < grown.size then (.refused (.ledgerLimitExceeded limit), fs) else (reply, grown)

/-- Adds a breadcrumb to the newest frame. Without a frame nothing is done. -/
def record (limit : Nat) (c : Breadcrumb) : Frames → Reply Unit × Frames
  | [] => (.done, [])
  | f :: fs => grow limit (f :: fs) ((c :: f) :: fs) .done

/-- Takes the newest breadcrumb out of the newest frame. -/
def pop : Frames → Reply Unit × Frames
  | (c :: f) :: fs => (.popped (some c), f :: fs)
  | fs => (.popped none, fs)

/-- Joins the newest frame to the one below. The last one is dropped. -/
def merge : Frames → Frames
  | f :: g :: fs => (f ++ g) :: fs
  | _ => []

/-- Carries out an operation. -/
def perform (limit : Nat) (fs : Frames) : Operation → Reply Unit × Frames
  | .openSkip _ => grow limit fs ([] :: fs) (.opened ())
  | .record c => record limit c fs
  | .popAbove _ => pop fs
  | .close _ => (.done, merge fs)
  | .discard _ => (.done, fs.tail)
  | .clear => (.done, [])

/-- Carries out operations one after the other. -/
def performAll (limit : Nat) (fs : Frames) : List Operation → List (Reply Unit) × Frames
  | [] => ([], fs)
  | op :: ops =>
    let rest := performAll limit (fs.perform limit op).2 ops
    ((fs.perform limit op).1 :: rest.1, rest.2)

/-- The frames one on top of the other, each with a marker below it. -/
def layout : Frames → List Marker → List Breadcrumb
  | f :: fs, m :: ms => f ++ .marker m :: layout fs ms
  | _, _ => []

@[simp] theorem size_cons (f : List Breadcrumb) (fs : Frames) :
    size (f :: fs) = f.length + 1 + size fs := by
  simp only [size, List.flatten_cons, List.length_append, List.length_cons]
  omega

theorem length_layout {fs : Frames} {ms : List Marker} (h : ms.length = fs.length) :
    (layout fs ms).length = fs.size := by
  induction fs generalizing ms with
  | nil => rfl
  | cons f fs ih =>
    cases ms with
    | nil => exact absurd h (by simp)
    | cons m ms =>
      rw [layout, List.length_append, List.length_cons, ih (Nat.succ.inj h), size_cons]
      omega

end Frames

/-- What is no marker marks no skip. -/
theorem Breadcrumb.marks_of_unmarked {c : Breadcrumb} (h : c.isMarker = false) (m : Marker) :
    c.marks m = false := by
  cases c with
  | marker => exact absurd h (by simp [isMarker])
  | _ => rfl

namespace Ledger

/-- The ledger holds the given frames, one for each of the skips that are not resolved. -/
structure Represents (limit : Nat) (l : Ledger) (unresolved : List Marker) (fs : Frames) :
    Prop where
  limit : l.limit = limit
  crumbs : l.crumbs = fs.layout unresolved
  unresolved : unresolved.length = fs.length
  openSkips : l.openSkips = fs.length
  /-- In the frames there are no markers. -/
  unmarked : ∀ f ∈ fs, ∀ c ∈ f, c.isMarker = false

/-- Whether an operation is to add a breadcrumb or a marker. Without a frame none is recorded. -/
def Operation.Grows (fs : Frames) : Operation → Prop
  | .openSkip _ => True
  | .record _ => fs ≠ []
  | _ => False

/-- A ledger and the stack of frames that it holds have carried out an operation: the replies are
    the same, and the ledger holds the frames that there are now. -/
structure Agrees (limit : Nat) (unresolved : List Marker) (op : Operation)
    (x : Reply Marker × Ledger) (y : Reply Unit × Frames) : Prop where
  reply : x.1.forget = y.1
  represents : x.2.Represents limit (op.unresolved unresolved x.1) y.2

variable {limit : Nat} {l : Ledger} {ms : List Marker} {fs : Frames} {m : Marker}

namespace Represents

theorem empty (limit : Nat) : (empty limit).Represents limit [] [] :=
  ⟨rfl, rfl, rfl, rfl, List.forall_mem_nil _⟩

theorem size (h : l.Represents limit ms fs) : l.size = fs.size := by
  rw [l.size_eq, h.crumbs, Frames.length_layout h.unresolved]

/-- The frames of a ledger in which the given skip is the newest one. -/
theorem exists_top (h : l.Represents limit ms fs) (hm : ms.head? = some m) :
    ∃ f rest ms', ms = m :: ms' ∧ fs = f :: rest ∧
      l.crumbs = f ++ .marker m :: Frames.layout rest ms' ∧ ms'.length = rest.length := by
  obtain ⟨ms', rfl⟩ := List.head?_eq_some_iff.1 hm
  cases fs with
  | nil => exact absurd h.unresolved (by simp)
  | cons f rest => exact ⟨f, rest, ms', rfl, rfl, h.crumbs, Nat.succ.inj h.unresolved⟩

/-- There is room for one more breadcrumb or marker just if the frames may grow by one. -/
theorem append (h : l.Represents limit ms fs) {grown : Frames} (hgrown : grown.size = fs.size + 1)
    (c : Breadcrumb) :
    (l.append c = .error (.ledgerLimitExceeded limit) ∧ limit < grown.size) ∨
      ((∃ l', l.append c = .ok l') ∧ ¬limit < grown.size) := by
  rw [hgrown, ← h.size, ← h.limit]
  by_cases hfull : l.limit ≤ l.size
  · exact .inl ⟨if_pos hfull, Nat.lt_succ_of_le hfull⟩
  · exact .inr ⟨⟨_, if_neg hfull⟩, fun hlt => hfull (Nat.le_of_lt_succ hlt)⟩

theorem openSkip (h : l.Represents limit ms fs) (horizon : Nat) :
    Agrees limit ms (.openSkip horizon) (l.perform (.openSkip horizon))
      (fs.perform limit (.openSkip horizon)) := by
  have hgrown : Frames.size ([] :: fs) = fs.size + 1 := by
    rw [Frames.size_cons]
    exact Nat.add_comm _ _
  rw [Ledger.perform, Frames.perform, Frames.grow]
  rcases h.append hgrown (.marker ⟨l.nextMarker, horizon⟩) with ⟨hfull, hlt⟩ | ⟨⟨l', hl'⟩, hlt⟩
  · have hrefused : l.openSkip horizon = .error (.ledgerLimitExceeded limit) := by
      rw [Ledger.openSkip, hfull]
      rfl
    rw [hrefused, if_pos hlt]
    exact ⟨rfl, h⟩
  · have hopened : ∃ m l', l.openSkip horizon = .ok (m, l') := by
      rw [Ledger.openSkip, hl']
      exact ⟨_, _, rfl⟩
    obtain ⟨m, l', hl'⟩ := hopened
    obtain ⟨-, hc, ho, hlimit⟩ := openSkip_eq_ok hl'
    rw [hl', if_neg hlt]
    refine ⟨rfl, hlimit.trans h.limit, ?_, congrArg Nat.succ h.unresolved,
      ho.trans (congrArg Nat.succ h.openSkips), ?_⟩
    · rw [hc, h.crumbs]
      rfl
    · exact List.forall_mem_cons.2 ⟨List.forall_mem_nil _, h.unmarked⟩

theorem record (h : l.Represents limit ms fs) {c : Breadcrumb} (hc : c.isMarker = false) :
    Agrees limit ms (.record c) (l.perform (.record c)) (fs.perform limit (.record c)) := by
  rw [Ledger.perform, Frames.perform, Ledger.record, isRecording, h.openSkips]
  cases fs with
  | nil => exact ⟨rfl, h⟩
  | cons f rest =>
    -- Some skip is open, and it depends on the limit alone whether anything is added.
    have hgrown : Frames.size ((c :: f) :: rest) = Frames.size (f :: rest) + 1 := by
      rw [Frames.size_cons, Frames.size_cons, List.length_cons]
      omega
    have hopen : decide (0 < (f :: rest).length) = true := by simp
    rw [if_pos hopen, Frames.record, Frames.grow]
    rcases h.append hgrown c with ⟨hfull, hlt⟩ | ⟨⟨l', hl'⟩, hlt⟩
    · rw [hfull, if_pos hlt]
      exact ⟨rfl, h⟩
    · obtain ⟨hcrumbs, hopen, hlimit, -⟩ := append_eq_ok hl'
      obtain ⟨hf, hrest⟩ := List.forall_mem_cons.1 h.unmarked
      rw [hl', if_neg hlt]
      refine ⟨rfl, hlimit.trans h.limit, ?_, h.unresolved, hopen.trans h.openSkips, ?_⟩
      · -- There are as many skips as frames, so at least one.
        cases ms with
        | nil => exact absurd h.unresolved (by simp)
        | cons m ms =>
          rw [hcrumbs, h.crumbs]
          rfl
      · exact List.forall_mem_cons.2 ⟨List.forall_mem_cons.2 ⟨hc, hf⟩, hrest⟩

theorem popAbove (h : l.Represents limit ms fs) (hm : ms.head? = some m) :
    Agrees limit ms (.popAbove m) (l.perform (.popAbove m)) (fs.perform limit (.popAbove m)) := by
  obtain ⟨f, rest, ms, rfl, rfl, hcrumbs, -⟩ := h.exists_top hm
  rw [Ledger.perform, Frames.perform]
  cases f with
  | nil =>
    rw [popAbove_marker hcrumbs]
    exact ⟨rfl, h⟩
  | cons c f =>
    obtain ⟨hf, hrest⟩ := List.forall_mem_cons.1 h.unmarked
    obtain ⟨hc, hf⟩ := List.forall_mem_cons.1 hf
    have hne : c ≠ .marker m := by
      rintro rfl
      exact absurd hc (by simp [Breadcrumb.isMarker])
    obtain ⟨l', hpop, hl'⟩ := popAbove_cons hcrumbs hne
    obtain ⟨-, -, hopen, hlimit, -⟩ := popAbove_eq_some hpop
    rw [hpop]
    exact ⟨rfl, hlimit.trans h.limit, hl', h.unresolved, hopen.trans h.openSkips,
      List.forall_mem_cons.2 ⟨hf, hrest⟩⟩

theorem close (h : l.Represents limit ms fs) (hm : ms.head? = some m) :
    Agrees limit ms (.close m) (l.perform (.close m)) (fs.perform limit (.close m)) := by
  obtain ⟨f, rest, ms, rfl, rfl, hcrumbs, hlength⟩ := h.exists_top hm
  obtain ⟨hf, hrest⟩ := List.forall_mem_cons.1 h.unmarked
  obtain ⟨hclosed, hopen, hlimit, -⟩ :=
    close_eq hcrumbs fun c hc => Breadcrumb.marks_of_unmarked (hf c hc) m
  rw [h.openSkips] at hclosed hopen
  rw [Ledger.perform, Frames.perform]
  cases rest with
  | nil =>
    -- It was the last skip, so that nothing is kept.
    exact ⟨rfl, hlimit.trans h.limit, hclosed, hlength, hopen, List.forall_mem_nil _⟩
  | cons g rest =>
    obtain ⟨hg, hrest⟩ := List.forall_mem_cons.1 hrest
    refine ⟨rfl, hlimit.trans h.limit, ?_, hlength, hopen,
      List.forall_mem_cons.2 ⟨List.forall_mem_append.2 ⟨hf, hg⟩, hrest⟩⟩
    cases ms with
    | nil => exact absurd hlength (by simp)
    | cons m' ms =>
      rw [hclosed, if_neg (by simp)]
      exact (List.append_assoc f g _).symm

theorem discard (h : l.Represents limit ms fs) (hm : ms.head? = some m) :
    Agrees limit ms (.discard m) (l.perform (.discard m)) (fs.perform limit (.discard m)) := by
  obtain ⟨f, rest, ms, rfl, rfl, hcrumbs, hlength⟩ := h.exists_top hm
  obtain ⟨hf, hrest⟩ := List.forall_mem_cons.1 h.unmarked
  obtain ⟨hdropped, hopen, hlimit, -⟩ :=
    discard_eq hcrumbs fun c hc => Breadcrumb.marks_of_unmarked (hf c hc) m
  rw [h.openSkips] at hdropped hopen
  refine ⟨rfl, hlimit.trans h.limit, ?_, hlength, hopen, hrest⟩
  cases rest with
  | nil => exact hdropped
  | cons g rest => exact hdropped.trans (if_neg (by simp))

/-- The ledger and the frames that it holds agree on every operation that fits. -/
theorem perform (h : l.Represents limit ms fs) {op : Operation} (hop : op.Fits ms) :
    Agrees limit ms op (l.perform op) (fs.perform limit op) := by
  cases op with
  | openSkip horizon => exact h.openSkip horizon
  | record c => exact h.record hop
  | popAbove m => exact h.popAbove hop
  | close m => exact h.close hop
  | discard m => exact h.discard hop
  | clear => exact ⟨rfl, h.limit, rfl, rfl, rfl, List.forall_mem_nil _⟩

/-- They agree on all operations of a nested sequence. -/
theorem performAll (h : l.Represents limit ms fs) {ops : List Operation} (hops : l.Nested ms ops) :
    (l.performAll ops).1.map Reply.forget = (fs.performAll limit ops).1 ∧
      ∃ ms', (l.performAll ops).2.Represents limit ms' (fs.performAll limit ops).2 := by
  induction ops generalizing l ms fs with
  | nil => exact ⟨rfl, ms, h⟩
  | cons op ops ih =>
    obtain ⟨hop, hops⟩ := hops
    have hagrees := h.perform hop
    obtain ⟨hreplies, hrest⟩ := ih hagrees.represents hops
    exact ⟨List.cons_eq_cons.2 ⟨hagrees.reply, hreplies⟩, hrest⟩

/-- An operation is refused just if it would put more into the ledger than the limit allows. -/
theorem perform_eq_refused_iff (h : l.Represents limit ms fs) (op : Operation) (e : Failure) :
    (l.perform op).1 = .refused e ↔
      e = .ledgerLimitExceeded limit ∧ op.Grows fs ∧ limit < l.size + 1 := by
  obtain ⟨rfl, -, -, hopen, -⟩ := h
  have hfull : l.limit < l.size + 1 ↔ l.limit ≤ l.size := Nat.lt_succ_iff
  rw [hfull]
  cases op with
  | openSkip horizon =>
    by_cases hle : l.limit ≤ l.size <;>
      simp [Ledger.perform, Ledger.openSkip, Ledger.append, bind, Except.bind, Operation.Grows, hle,
        eq_comm]
  | record c =>
    rw [Operation.Grows, ← List.length_pos_iff, ← hopen]
    by_cases hrecording : 0 < l.openSkips <;> by_cases hle : l.limit ≤ l.size <;>
      simp [Ledger.perform, Ledger.record, Ledger.append, isRecording, hrecording, hle, eq_comm]
  | popAbove m => cases hpop : l.popAbove m <;> simp [Ledger.perform, Operation.Grows, hpop]
  | close | discard | clear => simp [Ledger.perform, Operation.Grows]

end Represents

/-- Used in a nested way a ledger does what a stack of frames does: it gives the same replies,
    as many skips are open as there are frames, and its size is that of the frames. What it
    refuses next is what would make the size exceed the limit. -/
theorem refines_frames (limit : Nat) {ops : List Operation} (h : (empty limit).Nested [] ops) :
    ((empty limit).performAll ops).1.map Reply.forget = (Frames.performAll limit [] ops).1 ∧
      ((empty limit).performAll ops).2.openSkips = (Frames.performAll limit [] ops).2.length ∧
      ((empty limit).performAll ops).2.size = (Frames.performAll limit [] ops).2.size ∧
      ∀ op e, (((empty limit).performAll ops).2.perform op).1 = .refused e ↔
        e = .ledgerLimitExceeded limit ∧ op.Grows (Frames.performAll limit [] ops).2 ∧
          limit < ((empty limit).performAll ops).2.size + 1 := by
  obtain ⟨hreplies, ms, hrepresents⟩ := (Represents.empty limit).performAll h
  exact ⟨hreplies, hrepresents.openSkips, hrepresents.size, hrepresents.perform_eq_refused_iff⟩

/-- Two skips, one in the other. For the breadcrumb that is recorded last there is no room, the
    inner skip is closed after one of its breadcrumbs was taken back, and then there is room
    again. -/
def nesting : List Operation :=
  let outer : Marker := ⟨0, 1⟩
  let inner : Marker := ⟨1, 2⟩
  let crumb (name : String) : Breadcrumb := .binding Scopes.global name .void
  [.record (crumb "unseen"), .openSkip 1, .record (crumb "x"), .openSkip 2, .record (crumb "y"),
    .record (crumb "z"), .record (crumb "refused"), .popAbove inner, .close inner,
    .popAbove outer, .record (crumb "w"), .discard outer]

theorem refines_frames_nesting :
    (empty 5).Nested [] nesting ∧
      ((empty 5).performAll nesting).1.map Reply.forget = (Frames.performAll 5 [] nesting).1 ∧
      ((empty 5).performAll nesting).2.openSkips = (Frames.performAll 5 [] nesting).2.length ∧
      ((empty 5).performAll nesting).2.size = (Frames.performAll 5 [] nesting).2.size ∧
      ∀ op e, (((empty 5).performAll nesting).2.perform op).1 = .refused e ↔
        e = .ledgerLimitExceeded 5 ∧ op.Grows (Frames.performAll 5 [] nesting).2 ∧
          5 < ((empty 5).performAll nesting).2.size + 1 := by
  have h : (empty 5).Nested [] nesting :=
    ⟨rfl, trivial, rfl, trivial, rfl, rfl, rfl, rfl, rfl, rfl, rfl, rfl, trivial⟩
  exact ⟨h, refines_frames 5 h⟩

end Ledger

end Retrace
