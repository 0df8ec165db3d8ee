import Retrace.Unix.Builtin.Basic

/-!
# Redirecting streams

Streams are redirected one after the other, and an earlier redirection is there
for a later one. After the command that it was for, a stream leads again to
where it led before.
-/

namespace Retrace.Unix.Redirecting

/-- A refusal, in the words of the other dialect. -/
def plainReason (creates : Bool) (r : Refusal) : String :=
  match r with
  | .notFound => if creates then "Directory nonexistent" else "No such file"
  | .notDirectory => if creates then "Directory nonexistent" else "No such file"
  | r => r.reason

/-- The path a word stands for. -/
def path? (e : Engine) (target : Spelled) : Sh (Option String) := do
  if ← Sh.isExtended then
    match ← Expand.fields e target.meaning with
    | [path] => return some path
    | _ =>
      Sh.complain (target.source ++ ": ambiguous redirect")
      return none
  else return some (← Expand.single e target.meaning)

/-- Opens a file for streams. One that is there already may be protected. -/
def openFor (path : String) (access : Access) (protects : Bool) (streams : List Nat) : Sh Bool := do
  let s ← Sh.ask id
  let extended := s.dialect.extended
  let creates := access != .reading
  let isKept := protects && access = .writing && s.choices.contains "noclobber" &&
    match s.files.find s.directory path true with
    | .ok found => found.node.content.isFile
    | .error _ => false
  if isKept then
    Sh.complain (if extended then path ++ ": cannot overwrite existing file"
      else "cannot create " ++ path ++ ": File exists")
    return false
  else match ← Sh.openFile path access with
    | .ok n =>
      Sh.each streams fun k => Sh.lead k (some n)
      return true
    | .error r =>
      Sh.complain (if extended then path ++ ": " ++ r.reason
        else "cannot " ++ (if creates then "create " else "open ") ++ path ++ ": " ++ plainReason creates r)
      return false

/-- Whether a kind of redirection is one of input. -/
def isInput : Redirection → Bool
  | .input => true
  | .inputOutput => true
  | .document _ _ => true
  | .word => true
  | .copy input => input
  | _ => false

/-- Lets a stream lead to where another one does, which may be closed then. -/
def copy (e : Engine) (input usual : Bool) (target : Spelled) (stream : Nat) : Sh Bool := do
  let extended ← Sh.isExtended
  let text ← Expand.single e target.meaning
  let digits := text.toList.takeWhile Char.isDigit
  let rest := text.toList.drop digits.length
  if text = "-" then
    Sh.lead stream none
    return true
  else if !digits.isEmpty && (rest.isEmpty || (extended && rest = ['-'])) then
    let n := numberOf 10 digits
    match ← Sh.channel? n with
    | some (k, _) =>
      Sh.lead stream (some k)
      if !rest.isEmpty && n != stream then Sh.lead n none
      return true
    | none =>
      Sh.complain (text ++ ": Bad file descriptor")
      return false
  else if !extended then
    Sh.complain "Syntax error: Bad fd number"
    Sh.stop (.exit 2)
  else if usual && !input && text != "" then openFor text .writing true [1, 2]
  else
    Sh.complain (target.source ++ ": ambiguous redirect")
    return false

/-- Redirects a stream to where it is to lead. -/
def point (e : Engine) (how : Redirection) (target : Spelled) (usual : Bool) (stream : Nat) : Sh Bool := do
  let opening (access : Access) (protects : Bool) (streams : List Nat) : Sh Bool := do
    match ← path? e target with
    | some path => openFor path access protects streams
    | none => return false
  let feed (text : String) : Sh Bool := do
    Sh.lead stream (some (← Sh.addChannel (.source text.toList false)))
    return true
  match how with
  | .input => opening .reading false [stream]
  | .output => opening .writing true [stream]
  | .overwrite => opening .writing false [stream]
  | .append => opening .appending false [stream]
  | .inputOutput => opening .both false [stream]
  | .everything append => opening (if append then .appending else .writing) true [1, 2]
  | .document number _ =>
    match ← Sh.ask fun s => s.documents.lookup number with
    | some w => feed (Piece.text (← e.expand w.meaning))
    | none => feed ""
  | .word => feed ((← Expand.single e target.meaning) ++ "\n")
  | .copy input => copy e input usual target stream

/-- The lowest number of a stream that is given to a parameter. -/
def lowestNamed : Nat := 10

/-- Whether something stands for no stream at all. -/
def closes (how : Redirection) (target : Spelled) : Bool :=
  match how with
  | .copy _ => target.source = "-"
  | _ => false

/-- Redirects a stream. The result is the streams that are to lead again to where they did
    before; `none` if redirecting was refused. -/
def redirect (e : Engine) : Redirect → Sh (Option (List Nat))
  | .mk line stream how target => do
    Sh.change fun s => { s with line := line }
    let usual := if isInput how then 0 else 1
    match stream with
    | .usual =>
      let touched := match how with
        | .everything _ => [1, 2]
        | .copy false => [1, 2]
        | _ => [usual]
      if ← point e how target true usual then return some touched else return none
    | .number n => if ← point e how target false n then return some [n] else return none
    | .named name =>
      if closes how target then
        let (base, sel) := Expand.namedBy name
        match ((← Expand.values e base sel).bind List.head?).bind String.toNat? with
        | some n =>
          Sh.lead n none
          return some []
        | none =>
          Sh.complain (name ++ ": ambiguous redirect")
          return none
      else
        let s ← Sh.ask id
        let free := ((List.range 200).find? fun k =>
          lowestNamed ≤ k && (s.streams.lookup k).isNone).getD lowestNamed
        if ← point e how target false free then
          Builtin.assignTo name (toString free)
          return some []
        else return none

/-- Redirects streams one after the other, until that is refused. The result is whether it was
    not, and the streams that are to be put back. -/
def redirectAll (e : Engine) : List Redirect → Sh (Bool × List Nat)
  | [] => return (true, [])
  | r :: rs => do
    match ← redirect e r with
    | some touched =>
      let (fine, more) ← redirectAll e rs
      return (fine, touched ++ more)
    | none => return (false, [])

/-- The streams that may be put back after some redirections. -/
def touched (rs : List Redirect) : List Nat :=
  rs.flatMap fun
    | .mk _ stream how _ =>
      match stream with
      | .number n => [n]
      | .named _ => []
      | .usual => if isInput how then [0] else [1, 2]

/-- Lets some streams lead to where they did before. -/
def putBack (before : List (Nat × Nat)) (streams : List Nat) : Sh Unit :=
  Sh.each streams.eraseDups fun n => Sh.lead n (before.lookup n)

/-- Runs something with streams redirected; `none` if that was refused. -/
def under {α : Type} (e : Engine) (rs : List Redirect) (x : Sh α) : Sh (Option α) := do
  if rs.isEmpty then return some (← x)
  else
    let before ← Sh.ask (·.streams)
    match ← Sh.attempt (redirectAll e rs) with
    | .ok (true, streams) =>
      let r ← Sh.attempt x
      putBack before streams
      return some (← Sh.resume r)
    | .ok (false, _) =>
      putBack before (touched rs)
      return none
    | .error stop =>
      putBack before (touched rs)
      Sh.stop stop

/-- The status after a redirection was refused. -/
def refusedStatus : Sh Nat := do
  return if ← Sh.isExtended then 1 else 2

end Retrace.Unix.Redirecting
