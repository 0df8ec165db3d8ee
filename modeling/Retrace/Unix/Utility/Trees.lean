import Retrace.Unix.Calendar.Reading
import Retrace.Unix.Utility.Names
import Retrace.Unix.Utility.Numbers

/-!
# Files that come and go

What creates and removes files and directories, and what changes what is known of
them: their sizes, the times at which they were changed, and who may do what with
them.
-/

namespace Retrace.Unix.Utility

/-- The directory a path leads to, if it leads to one. -/
def isDirectory (path : String) : Sh Bool := do
  match ← Sh.node path with
  | .ok found => return found.node.isDirectory
  | .error _ => return false

/-- The time zone. -/
def zone : Sh Calendar.Zone := do
  return (clock (← Sh.ask id)).zone

/-! ### Directories -/

/-- The mode that is asked for something new which would have another one. -/
def askedMode (value : Option String) (isDirectory : Bool) (usual : Nat) : Sh (Option Nat) := do
  match value with
  | none => Sh.ask fun s => some (usual - (usual &&& s.mask))
  | some text =>
    let mask ← Sh.ask (·.mask)
    return Mode.given? text isDirectory mask (if isDirectory then 0o777 else 0o666)

/-- Creates a directory with those it is in. -/
def makeParents (name : String) (verbose : Bool) (mode : Nat) (done : String) : List String → Sh Nat
  | [] => return 0
  | part :: parts => do
    let path := if done = "" then part else if done = "/" then "/" ++ part else done ++ "/" ++ part
    let isLast := parts.all (· = "")
    if part = "" then makeParents name verbose mode (if done = "" then "/" else done) parts
    else
      let refuse (reason : String) : Sh Nat :=
        fail name ("cannot create directory " ++ Quoting.curly path ++ ": " ++ reason) 1
      match ← Sh.node path with
      | .ok found =>
        if found.node.isDirectory then makeParents name verbose mode path parts
        else refuse (if isLast then "File exists" else "Not a directory")
      | .error r =>
        if (← Sh.nodeItself path).isOk then refuse "File exists"
        else
          let own ← if isLast then pure mode else do pure ((← Sh.newMode 0o777) ||| 0o300)
          let made : Except Refusal Unit ←
            if r = .notFound then Sh.changeFiles fun fs d => fs.create d path (.directory []) own
            else pure (.error r)
          match made with
          | .ok _ =>
            if verbose then Sh.print (name ++ ": created directory " ++ Quoting.always path ++ "\n")
            makeParents name verbose mode path parts
          | .error r => refuse r.reason

/-- Creates directories. -/
def mkdir : Utility := fun _ name args =>
  withOptions { letters := "pvZ", valued := "m", words := [("mode", 'm'), ("parents", 'p'), ("verbose", 'v')] } true 1
    name args fun o => do
    if o.operands.isEmpty then missingOperand name none
    else match ← askedMode (o.value? 'm') true 0o777 with
      | none => fail name ("invalid mode " ++ Quoting.curly ((o.value? 'm').getD "")) 1
      | some mode => Sh.worst o.operands fun path => do
        if o.has 'p' && path != "" then makeParents name (o.has 'v') mode "" (path.splitOn "/")
        else
          match ← Sh.changeFiles fun fs d => fs.create d path (.directory []) mode with
          | .ok _ =>
            if o.has 'v' then Sh.print (name ++ ": created directory " ++ Quoting.always path ++ "\n")
            return 0
          | .error r =>
            fail name ("cannot create directory " ++ Quoting.curly path ++ ": " ++ r.reason) 1

/-- The reason for which a directory cannot be removed, if there is one. -/
def keptReason? (path : String) : Sh (Option String) := do
  let last := lastPart path
  if path != "" && withoutSlashes path = "/" then return some "Device or resource busy"
  else if last = "." then return some "Invalid argument"
  else if last = ".." then return some "Directory not empty"
  else
    match ← Sh.nodeItself (withoutSlashes path) with
    | .ok found =>
      if found.node.content.isLink && path.endsWith "/" then
        return some (if ← isDirectory path then "Symbolic link not followed" else "Not a directory")
      else return none
    | .error _ => return none

/-- Removes empty directories. -/
def rmdir : Utility := fun _ name args =>
  withOptions { letters := "pv", words := [("ignore-fail-on-non-empty", 'i'), ("parents", 'p'), ("verbose", 'v')] }
    true 1 name args fun o => do
    if o.operands.isEmpty then missingOperand name none
    else Sh.worst o.operands fun path => do
      let parts := (withoutSlashes path).splitOn "/"
      let parents := (List.range (parts.length - 1)).map fun k =>
        "/".intercalate (parts.take (parts.length - 1 - k))
      let rec go (noun : String) : List String → Sh Nat
        | [] => return 0
        | p :: ps => do
          if o.has 'v' then Sh.print (name ++ ": removing directory, " ++ Quoting.always p ++ "\n")
          let refuse (reason : String) : Sh Nat :=
            fail name ("failed to remove " ++ noun ++ Quoting.always p ++ ": " ++ reason) 1
          match ← keptReason? p with
          | some reason => refuse reason
          | none =>
            match ← Sh.changeFiles fun fs d => fs.removeDirectory d p with
            | .ok _ => go "directory " ps
            | .error .notEmpty => if o.has 'i' then return 0 else refuse Refusal.notEmpty.reason
            | .error r => refuse r.reason
      go "" (path :: if o.has 'p' then parents.filter (· != "") else [])

/-! ### Files -/

/-- Changes a node that a path leads to. -/
def alterNode (number : Nat) (f : Node → Node) : Sh Unit :=
  Sh.change fun s => { s with files := s.files.alter number f }

/-- The time that options ask for, or what is wrong with them. -/
def askedTime (o : Options) : Sh (Except String Int) := do
  let now ← Sh.ask (·.files.now)
  let here ← zone
  match o.value? 'r', o.value? 'd', o.value? 't' with
  | some path, _, _ =>
    match ← (if o.has 'h' then Sh.nodeItself path else Sh.node path) with
    | .ok found => return .ok found.node.changed
    | .error r => return .error ("failed to get attributes of " ++ Quoting.always path ++ ": " ++ r.reason)
  | _, some s, _ =>
    match Calendar.read? here now s with
    | some t => return .ok t
    | none => return .error ("invalid date format " ++ Quoting.curly s)
  | _, _, some s =>
    match Calendar.ofDigits? here now s with
    | some t => return .ok t
    | none => return .error ("invalid date format " ++ Quoting.curly s)
  | _, _, _ => return .ok now

/-- Sets the times at which files were changed, and creates those that do not exist. -/
def touch : Utility := fun _ name args =>
  withOptions { letters := "acfhm", valued := "drtT", wordly := "T", words := [("time", 'T'), ("no-create", 'c'),
      ("date", 'd'), ("reference", 'r'), ("no-dereference", 'h')] } true 1 name args fun o => do
    match ← askedTime o with
    | .error m => fail name m 1
    | .ok time =>
      if o.operands.isEmpty then misused name "missing file operand" 1
      else Sh.worst o.operands fun path => do
        let refuse (path : String) (r : Refusal) : Sh Nat :=
          let verb := if path.endsWith "/" then "setting times of " else "cannot touch "
          fail name (verb ++ Quoting.always path ++ ": " ++ r.reason) 1
        let isLast := !(o.has 'a' && !o.has 'm')
        let set (number : Nat) : Sh Nat := do
          if isLast then alterNode number fun n => { n with changed := time }
          return 0
        match ← (if o.has 'h' then Sh.nodeItself path else Sh.node path) with
        | .ok found => set found.number
        | .error .notFound =>
          if o.has 'c' || o.has 'h' then
            if o.has 'h' && !o.has 'c' then refuse path .notFound else return 0
          else if path.endsWith "/" then refuse path .notFound
          else
            let mode ← Sh.newMode 0o666
            match ← Sh.changeFiles fun fs d => fs.write mode d path "" with
            | .ok _ =>
              match ← Sh.node path with
              | .ok found => set found.number
              | .error r => refuse path r
            | .error r => refuse path r
        | .error r => refuse path r

/-- A change of a size. -/
inductive Resizing where
  | exactly | more | less | atMost | atLeast | roundedDown | roundedUp

/-- The size after a change. -/
def Resizing.apply (r : Resizing) (n old : Nat) : Nat :=
  match r with
  | exactly => n
  | more => old + n
  | less => old - n
  | atMost => min old n
  | atLeast => max old n
  | roundedDown => if n = 0 then old else old / n * n
  | roundedUp => if n = 0 then old else (old + n - 1) / n * n

/-- Reads a change of a size. -/
def Resizing.read? (s : String) : Option (Resizing × Nat) :=
  let cs := s.toList.dropWhile isBlank
  let (r, cs) : Resizing × List Char := match cs with
    | '+' :: cs => (.more, cs)
    | '-' :: cs => (.less, cs)
    | '<' :: cs => (.atMost, cs)
    | '>' :: cs => (.atLeast, cs)
    | '/' :: cs => (.roundedDown, cs)
    | '%' :: cs => (.roundedUp, cs)
    | cs => (.exactly, cs)
  (amount? (String.ofList (cs.dropWhile isBlank))).map fun n => (r, n)

/-- Changes the sizes of files. -/
def truncate : Utility := fun _ name args =>
  withOptions { letters := "co", valued := "rs", words := [("no-create", 'c'), ("io-blocks", 'o'), ("reference", 'r'),
      ("size", 's')] } true 1 name args fun o => do
    if (o.value? 's').isNone && (o.value? 'r').isNone then
      misused name ("you must specify either " ++ Quoting.curly "--size" ++ " or " ++ Quoting.curly "--reference") 1
    else match o.value? 's', (o.value? 's').map Resizing.read? with
      | some s, some none => fail name ("Invalid number: " ++ Quoting.curly s) 1
      | _, asked =>
        if o.operands.isEmpty then misused name "missing file operand" 1
        else
          let reference : Except Refusal (Option Nat) ← match o.value? 'r' with
            | none => pure (.ok none)
            | some path =>
              match ← Sh.node path with
              | .ok found => pure (.ok (some found.node.size))
              | .error r => pure (.error r)
          match reference with
          | .error r => fail name ("cannot stat " ++ Quoting.always ((o.value? 'r').getD "") ++ ": " ++ r.reason) 1
          | .ok size => Sh.worst o.operands fun path => do
            let old ← Sh.node path
            if o.has 'c' && (old matches .error .notFound) then return 0
            else
              let mode ← Sh.newMode 0o666
              let text ← do
                match ← Sh.contents path with
                | .ok text => pure text
                | .error _ => pure ""
              let new := match asked with
                | some (some (r, n)) => r.apply n (size.getD text.length)
                | _ => size.getD 0
              let content := (text.take new).toString ++ String.ofList (List.replicate (new - text.length) '\x00')
              match ← Sh.changeFiles fun fs d => fs.write mode d path content with
              | .ok _ => return 0
              | .error r => fail name ("cannot open " ++ Quoting.always path ++ " for writing: " ++ r.reason) 1

/-- Creates pipes that have names. -/
def mkfifo : Utility := fun _ name args =>
  withOptions { letters := "Z", valued := "m", words := [("mode", 'm')] } true 1 name args fun o => do
    if o.operands.isEmpty then missingOperand name none
    else match ← askedMode (o.value? 'm') false 0o666 with
      | none => fail name "invalid mode" 1
      | some mode => Sh.worst o.operands fun path => do
        match ← Sh.changeFiles fun fs d => fs.create d path (.pipe "") mode with
        | .ok _ => return 0
        | .error r => fail name ("cannot create fifo " ++ Quoting.always path ++ ": " ++ r.reason) 1

/-! ### Removing -/

/-- What kind of thing a node is, in words. -/
def kindOf (n : Node) : String :=
  match n.content with
  | .file text => if text = "" then "regular empty file" else "regular file"
  | .program _ => "regular file"
  | .directory _ => "directory"
  | .link _ => "symbolic link"
  | .pipe _ => "fifo"
  | .device _ => "character special file"

/-- Asks a question. Whether the answer is yes. -/
def confirmed (question : String) : Sh Bool := do
  Sh.printError (question ++ " ")
  match ← Sh.inputWanted 0 fun cs => (cs.idxOf? '\n').map (· + 1) with
  | .ok answer => return answer.startsWith "y" || answer.startsWith "Y"
  | .error _ => return false

/-- How files are removed. -/
structure Removing where
  name : String
  asks : Bool
  verbose : Bool

namespace Removing

/-- Says that something was removed, or that it could not be. -/
def concluded (m : Removing) (what path : String) (r : Except Refusal Unit) : Sh Nat := do
  match r with
  | .ok _ =>
    if m.verbose then Sh.print ("removed " ++ what ++ Quoting.always path ++ "\n")
    return 0
  | .error r => fail m.name ("cannot remove " ++ Quoting.always path ++ ": " ++ r.reason) 1

/-- Removes a file, or a directory with what is in it. -/
def node (m : Removing) : (depth : Nat) → (path : String) → Node → Sh Nat
  | 0, _, _ => return 1
  | n + 1, path, node => do
    let shown := Quoting.always path
    let agreed (question : String) : Sh Bool :=
      if m.asks then confirmed (m.name ++ ": " ++ question) else return true
    if node.isDirectory then
      let entries := node.content.entries
      if !entries.isEmpty && !(← agreed ("descend into directory " ++ shown ++ "?")) then return 0
      let status ← Sh.worst entries fun (entry, number) => do
        match ← Sh.ask (·.files.node? number) with
        | some inner => Removing.node m n (inside path entry) inner
        | none => return 1
      if !(← agreed ("remove directory " ++ shown ++ "?")) then return status
      return max status (← m.concluded "directory " path (← Sh.changeFiles fun fs d => fs.removeDirectory d path))
    else if ← agreed ("remove " ++ kindOf node ++ " " ++ shown ++ "?") then
      m.concluded "" path (← Sh.changeFiles fun fs d => fs.remove d path)
    else return 0

end Removing

/-- How deeply directories are looked into. -/
def deepestTree : Nat := 1000

/-- Removes files, and directories if that was asked for. -/
def rm : Utility := fun _ name args =>
  withOptions { letters := "dfiIrRv", optional := "W", wordly := "WN", words := [("force", 'f'), ("interactive", 'W'),
      ("one-file-system", 'N'), ("no-preserve-root", 'N'), ("preserve-root", 'N'), ("recursive", 'r'), ("dir", 'd'),
      ("verbose", 'v')] } true 1 name args fun o => do
    let recursive := o.has 'r' || o.has 'R'
    let manner := match o.last? ['f', 'i', 'I', 'W'] with
      | some 'W' =>
        match o.value? 'W' with
        | some "never" => 'f'
        | some "once" => 'I'
        | _ => 'i'
      | some c => c
      | none => 'f'
    let m : Removing := ⟨name, manner = 'i', o.has 'v'⟩
    let count := o.operands.length
    if count = 0 then
      if o.has 'f' then return 0 else missingOperand name none
    else
      let refusedOnce ←
        if manner = 'I' && (recursive || count > 3) then
          let agreed ← confirmed (name ++ ": remove " ++ toString count ++
            (if count = 1 then " argument" else " arguments") ++ (if recursive then " recursively?" else "?"))
          pure (!agreed)
        else pure false
      if refusedOnce then return 0
      Sh.worst o.operands fun path => do
        let final := lastPart path
        let refuse (reason : String) : Sh Nat :=
          fail name ("cannot remove " ++ Quoting.always path ++ ": " ++ reason) 1
        match ← Sh.nodeItself path with
        | .error r =>
          if o.has 'f' && (r matches .notFound || r matches .notDirectory) then return 0
          else refuse r.reason
        | .ok found =>
          let isThroughLink ← if path.endsWith "/" then do
              match ← Sh.nodeItself (withoutSlashes path) with
              | .ok itself => pure itself.node.content.isLink
              | .error _ => pure false
            else pure false
          if !found.node.isDirectory then m.node 1 path found.node
          else if !(recursive || o.has 'd') then refuse "Is a directory"
          else if found.trail.isEmpty then
            tell name "it is dangerous to operate recursively on '/'"
            fail name "use --no-preserve-root to override this failsafe" 1
          else if final = "." || final = ".." then
            fail name ("refusing to remove '.' or '..' directory: skipping " ++ Quoting.always path) 1
          else if isThroughLink then refuse "Not a directory"
          else if !recursive && !found.node.content.entries.isEmpty then refuse "Directory not empty"
          else m.node deepestTree path found.node

/-- Removes a file. -/
def unlink : Utility := fun _ name args =>
  withOptions {} false 1 name args fun o => do
    match o.operands with
    | [] => missingOperand name none
    | [path] =>
      match ← Sh.changeFiles fun fs d => fs.remove d path with
      | .ok _ => return 0
      | .error r => fail name ("cannot unlink " ++ Quoting.always path ++ ": " ++ r.reason) 1
    | _ :: extra :: _ => extraOperand name extra

/-! ### Modes -/

/-- The paths of a tree with their nodes. -/
def treeBelow (fs : Files) : (depth : Nat) → (path : String) → (number : Nat) → List (String × Nat × Node)
  | 0, _, _ => []
  | n + 1, path, number =>
    match fs.node? number with
    | none => []
    | some node =>
      (path, number, node) :: (fs.names number).flatMap fun name =>
        match fs.entry? number name with
        | some inner => treeBelow fs n (inside path name) inner
        | none => []

/-- Changes the modes of files. -/
def chmod : Utility := fun _ name args => do
  -- a mode may look like an option
  let isMode (a : String) : Bool :=
    match a.toList with
    | '-' :: c :: _ => "rwxXstugoa,=+01234567".toList.contains c
    | _ => false
  let before := args.takeWhile (· != "--")
  let modes := before.filter isMode
  let rest := before.filter (!isMode ·) ++ args.drop before.length
  withOptions { letters := "Rvfc", valued := "r", wordly := "rpP", words := [("changes", 'c'), ("recursive", 'R'),
      ("no-preserve-root", 'p'), ("preserve-root", 'P'), ("quiet", 'f'), ("reference", 'r'), ("silent", 'f'),
      ("verbose", 'v')] } true 1 name rest fun o => do
    let reference : Except Refusal (Option Nat) ← match o.value? 'r' with
      | none => pure (.ok none)
      | some path =>
        match ← Sh.node path with
        | .ok found => pure (.ok (some found.node.mode))
        | .error r => pure (.error r)
    match reference with
    | .error r =>
      fail name ("failed to get attributes of " ++ Quoting.always ((o.value? 'r').getD "") ++ ": " ++ r.reason) 1
    | .ok given =>
      let (mode, paths) := match given, modes with
        | some _, _ => (none, o.operands)
        | none, [] => (o.operands.head?, o.operands.drop 1)
        | none, ms => (some (",".intercalate ms), o.operands)
      match given, mode with
      | none, none => missingOperand name none
      | _, _ =>
        let mask ← Sh.ask (·.mask)
        let new (node : Node) : Option Nat :=
          match given, mode with
          | some m, _ => some m
          | none, some text => Mode.given? text node.isDirectory mask node.mode
          | none, none => none
        let isKnown := given.isSome || (mode.bind fun m => Mode.given? m false mask 0).isSome
        if paths.isEmpty then missingOperand name mode
        else if !isKnown then misused name ("invalid mode: " ++ Quoting.curly (mode.getD "")) 1
        else
          let shown (m : Nat) : String := Fraction.zeroPadded 4 (Mode.octal m) ++ " (" ++ Mode.letters m ++ ")"
          let change (path : String) (number : Nat) (node : Node) : Sh Unit := do
            let m := (new node).getD node.mode
            alterNode number fun n => { n with mode := m }
            let isChanged := m != node.mode
            if isChanged && (o.has 'v' || o.has 'c') then
              Sh.print ("mode of " ++ Quoting.always path ++ " changed from " ++ shown node.mode ++ " to " ++
                shown m ++ "\n")
            else if !isChanged && o.has 'v' then
              Sh.print ("mode of " ++ Quoting.always path ++ " retained as " ++ shown m ++ "\n")
          let status ← Sh.worst paths fun path => do
            match ← Sh.node path with
            | .error r =>
              if o.has 'f' then return 1
              else if (← Sh.nodeItself path).isOk then
                fail name ("cannot operate on dangling symlink " ++ Quoting.always path) 1
              else fail name ("cannot access " ++ Quoting.always path ++ ": " ++ r.reason) 1
            | .ok found =>
              if o.has 'R' then
                let fs ← Sh.ask (·.files)
                Sh.each (treeBelow fs deepestTree path found.number) fun (p, number, node) =>
                  if node.content.isLink && p != path then pure () else change p number node
              else change path found.number found.node
              return 0
          refusedAtEnd name status

/-- Changes whom files belong to, which is always the same. -/
def chown : Utility := fun _ name args =>
  withOptions { letters := "RvfchHLP", valued := "r", wordly := "r", words := [("recursive", 'R'), ("reference", 'r'),
      ("verbose", 'v'), ("changes", 'c'), ("quiet", 'f'), ("silent", 'f'), ("no-dereference", 'h')] } true 1 name args
    fun o => do
    match o.operands with
    | [] => missingOperand name none
    | [owner] => missingOperand name (some owner)
    | owner :: paths =>
      let names := (owner.splitOn ":").filter (· != "")
      let isKnown (s : String) : Bool := s = "root" || (natural? s).isSome
      match names.find? (!isKnown ·) with
      | some n =>
        let isGroup := name.endsWith "grp" || owner.startsWith ":" || names.head? != some n
        fail name ("invalid " ++ (if isGroup then "group: " else "user: ") ++ Quoting.curly
          (if isGroup && !name.endsWith "grp" then owner else n)) 1
      | none => Sh.worst paths fun path => do
        match ← Sh.node path with
        | .ok _ => return 0
        | .error r =>
          if o.has 'f' then return 1
          else fail name ("cannot access " ++ Quoting.always path ++ ": " ++ r.reason) 1

end Retrace.Unix.Utility
