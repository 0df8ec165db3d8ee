import Retrace.Unix.Utility.Options

/-!
# Paths taken apart

A path is the name of a directory and a last part; without a directory it is
one in the directory where one is. A path is *resolved* if it begins at the root
and has no links in it.
-/

namespace Retrace.Unix.Utility

/-! ### Parts -/

/-- A path without the slashes at its end. -/
def withoutSlashes (path : String) : String :=
  let cs := (path.toList.reverse.dropWhile (· = '/')).reverse
  if cs.isEmpty && path != "" then "/" else String.ofList cs

/-- The last part of a path. -/
def lastPart (path : String) : String :=
  let p := withoutSlashes path
  if p = "/" then "/" else String.ofList (p.toList.reverse.takeWhile (· != '/')).reverse

/-- A path without its last part. -/
def withoutLast (path : String) : String :=
  let p := withoutSlashes path
  let cs := p.toList.reverse.dropWhile (· != '/')
  if cs.isEmpty then (if p = "/" then "/" else ".")
  else
    let rest := cs.dropWhile (· = '/')
    if rest.isEmpty then "/" else String.ofList rest.reverse

/-- A name in a directory. -/
def inside (directory name : String) : String :=
  if directory.endsWith "/" then directory ++ name else directory ++ "/" ++ name

/-- A text without an end that it has, unless that is all of it. -/
def withoutEnd (ending s : String) : String :=
  if ending != "" && s != ending && s.endsWith ending then (s.dropEnd ending.length).toString else s

/-- Prints the last parts of paths. -/
def basename : Utility := fun _ name args =>
  withOptions { letters := "az", valued := "s", words := [("multiple", 'a'), ("suffix", 's'), ("zero", 'z')] }
    false 1 name args fun o => do
    let finish := if o.has 'z' then "\x00" else "\n"
    match o.operands with
    | [] => missingOperand name none
    | p :: more =>
      if o.has 'a' || o.has 's' then
        let ending := (o.value? 's').getD ""
        Sh.print (String.join (o.operands.map fun p => withoutEnd ending (lastPart p) ++ finish))
        return 0
      else match more with
        | _ :: extra :: _ => extraOperand name extra
        | _ =>
          Sh.print (withoutEnd (more.headD "") (lastPart p) ++ finish)
          return 0

/-- Prints paths without their last parts. -/
def dirname : Utility := fun _ name args =>
  withOptions { letters := "z", words := [("zero", 'z')] } true 1 name args fun o => do
    if o.operands.isEmpty then missingOperand name none
    else
      Sh.print (String.join (o.operands.map fun p => withoutLast p ++ (if o.has 'z' then "\x00" else "\n")))
      return 0

/-! ### Resolving -/

/-- How much of a path has to exist. -/
inductive Existing where
  | all | allButLast | nothing
deriving DecidableEq

/-- A path from the root. -/
def absolute (trail : Trail) : String :=
  "/" ++ "/".intercalate trail

/-- A trail with one more part, where links lead on and what is missing is passed over. -/
def followed (fs : Files) (trail : Trail) (part : String) : Trail :=
  if part = "" ∨ part = "." then trail
  else if part = ".." then trail.dropLast
  else
    let next := trail ++ [part]
    match fs.find [] (absolute next) true with
    | .ok found => found.trail
    | .error _ => next

/-- The trail to which a path leads, as its parts say it, links being what they are. -/
def written (start : Trail) (path : String) : Trail :=
  (path.splitOn "/").foldl (fun trail part =>
    if part = "" ∨ part = "." then trail else if part = ".." then trail.dropLast else trail ++ [part])
    (if path.startsWith "/" then [] else start)

/-- The trail to which a path leads. -/
def resolved (s : State) (existing : Existing) (path : String) : Except Refusal Trail :=
  match existing with
  | .nothing =>
    if path = "" then .error .notFound
    else .ok ((path.splitOn "/").foldl (followed s.files) (if path.startsWith "/" then [] else s.directory))
  | .allButLast => do
    let place ← s.files.place s.directory path true
    match place.number.bind s.files.node? with
    | some node => if place.asDirectory && !node.isDirectory then .error .notDirectory else .ok place.trail
    | none => .ok place.trail
  | .all => (s.files.find s.directory path true).map (·.trail)

/-- A trail as seen from another one. -/
def relative (base trail : Trail) : String :=
  let rec common : Trail → Trail → Nat
    | a :: as, b :: bs => if a = b then common as bs + 1 else 0
    | _, _ => 0
  let n := common base trail
  let parts := List.replicate (base.length - n) ".." ++ trail.drop n
  if parts.isEmpty then "." else "/".intercalate parts

/-- Prints where links lead. -/
def readlink : Utility := fun _ name args =>
  withOptions { letters := "efmnqsvz", words := [("canonicalize", 'f'), ("canonicalize-existing", 'e'),
      ("canonicalize-missing", 'm'), ("no-newline", 'n'), ("quiet", 'q'), ("silent", 's'), ("verbose", 'v'),
      ("zero", 'z')] } true 1 name args fun o => do
    if o.operands.isEmpty then missingOperand name none
    else
      if o.has 'n' && o.operands.length > 1 then tell name "ignoring --no-newline with multiple arguments"
      let finish := if o.has 'n' && o.operands.length = 1 then "" else if o.has 'z' then "\x00" else "\n"
      let refuse (path : String) (r : Refusal) : Sh Nat :=
        if o.has 'v' then fail name (plainComplaint path r.reason) 1 else return 1
      Sh.worst o.operands fun path => do
        match o.last? ['e', 'f', 'm'] with
        | some c =>
          let existing : Existing := if c = 'e' then .all else if c = 'f' then .allButLast else .nothing
          match resolved (← Sh.ask id) existing path with
          | .ok trail =>
            Sh.print (absolute trail ++ finish)
            return 0
          | .error r => refuse path r
        | none =>
          match ← Sh.nodeItself path with
          | .ok found =>
            match found.node.content with
            | .link target =>
              Sh.print (target ++ finish)
              return 0
            | _ => refuse path .invalidArgument
          | .error r => refuse path r

/-- Prints paths from the root. -/
def realpath : Utility := fun _ name args =>
  withOptions { letters := "emLPqsz", valued := "TB", words := [("canonicalize-existing", 'e'),
      ("canonicalize-missing", 'm'), ("logical", 'L'), ("physical", 'P'), ("quiet", 'q'), ("strip", 's'),
      ("no-symlinks", 's'), ("zero", 'z'), ("relative-to", 'T'), ("relative-base", 'B')] } true 1 name args
    fun o => do
    if o.operands.isEmpty then missingOperand name none
    else
      let s ← Sh.ask id
      let existing : Existing := match o.last? ['e', 'm'] with
        | some 'e' => .all
        | some _ => .nothing
        | none => .allButLast
      let resolve (path : String) : Except Refusal Trail :=
        if o.has 's' then
          let trail := written s.directory path
          if existing = .nothing then .ok trail
          else (resolved s existing path).map fun _ => trail
        else resolved s existing path
      let base (c : Char) : Option Trail :=
        (o.value? c).bind fun path => (resolve path).toOption
      match (o.given.filter fun g => g.1 = 'T' || g.1 = 'B').find? fun g => !(resolve g.2).isOk with
      | some (_, path) => fail name (plainComplaint path Refusal.notFound.reason) 1
      | none => Sh.worst o.operands fun path => do
        match resolve path with
        | .error r => if o.has 'q' then return 1 else fail name (plainComplaint path r.reason) 1
        | .ok trail =>
          let shown := match base 'T', base 'B' with
            | some target, none => relative target trail
            | none, some b => if b.isPrefixOf trail then relative b trail else absolute trail
            | some target, some b =>
              if b.isPrefixOf trail && b.isPrefixOf target then relative target trail else absolute trail
            | none, none => absolute trail
          Sh.print (shown ++ if o.has 'z' then "\x00" else "\n")
          return 0

/-- Prints the directory. -/
def pwd : Utility := fun _ name args =>
  withOptions { letters := "LP", words := [("logical", 'L'), ("physical", 'P')] } true 1 name args fun o => do
    let s ← Sh.ask id
    Sh.print ((if o.last? ['L', 'P'] = some 'L' then s.here else absolute s.directory) ++ "\n")
    refusedAtEnd name 0

/-! ### New names -/

/-- The characters that new names are made of. -/
def nameLetters : List Char :=
  "abcdefghijklmnopqrstuvwxyzABCDEFGHIJKLMNOPQRSTUVWXYZ0123456789".toList

/-- Some characters that make a name, of a number. -/
def chance : (count : Nat) → Nat → List Char
  | 0, _ => []
  | n + 1, seed =>
    let next := (seed * 6364136223846793005 + 1442695040888963407) % Nat.pow 2 64
    ((nameLetters[(next / Nat.pow 2 33) % 62]?).getD 'a') :: chance n next

/-- Creates a file or a directory with a name that is new. -/
def mktemp : Utility := fun _ name args =>
  withOptions { letters := "dqtuV", valued := "ps", optional := "T", words := [("directory", 'd'), ("quiet", 'q'),
      ("dry-run", 'u'), ("suffix", 's'), ("tmpdir", 'T')] } true 1 name args fun o => do
    match o.operands with
    | _ :: _ :: _ => misused name "too many templates" 1
    | operands =>
      let given := operands.headD "tmp.XXXXXXXXXX"
      let ending := match o.value? 's' with
        | some e => e
        | none => String.ofList (given.toList.reverse.takeWhile (· != 'X')).reverse
      let body := if (o.value? 's').isSome then given else (given.dropEnd ending.length).toString
      let count := (body.toList.reverse.takeWhile (· = 'X')).length
      if (o.value? 's').isSome && !given.endsWith "X" then
        fail name ("with --suffix, template " ++ Quoting.curly given ++ " must end in X") 1
      else if count < 3 then fail name ("too few X's in template " ++ Quoting.curly given) 1
      else if ending.toList.contains '/' then
        fail name ("invalid suffix " ++ Quoting.curly ending ++ ", contains directory separator") 1
      else
        let s ← Sh.ask id
        let usual := (((s.parameters.lookup "TMPDIR").bind fun v => v.items.lookup "0").filter (· != "")).getD "/tmp"
        let directory := match (o.value? 'p').or (o.value? 'T') with
          | some d => some (if d = "" then usual else d)
          | none => if operands.isEmpty || o.has 't' then some usual else none
        let path := (body.dropEnd count).toString ++ String.ofList (chance count (s.nextProcess * 7919 + s.files.nodes.size)) ++
          ending
        let path := match directory with
          | some d => inside d path
          | none => path
        let r ←
          if o.has 'u' then pure (.ok ())
          else if o.has 'd' then Sh.changeFiles fun fs d => fs.create d path (.directory []) 0o700
          else Sh.changeFiles fun fs d => fs.create d path (.file "") 0o600
        match r with
        | .ok _ =>
          Sh.print (path ++ "\n")
          return 0
        | .error r =>
          let shown := match directory with
            | some d => inside d given
            | none => given
          if o.has 'q' then return 1
          else fail name ("failed to create " ++ (if o.has 'd' then "directory" else "file") ++ " via template " ++
            Quoting.curly shown ++ ": " ++ r.reason) 1

end Retrace.Unix.Utility
