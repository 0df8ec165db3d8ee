import Retrace.Unix.Utility.Trees

/-!
# Files that get other places

What copies files, gives them other places or gives them more names. What is
asked for is a list of *passages*: each is from a source to a target, which is
either said or in a directory that is said.
-/

namespace Retrace.Unix.Utility

/-! ### Where to -/

/-- Whether there is something at the end of a path that has a property. -/
def holds (found : Except Refusal Found) (property : Found → Bool) : Bool :=
  match found with
  | .ok f => property f
  | .error _ => false

/-- From where to where something goes. -/
structure Passage where
  source : String
  target : String

/-- The passages that operands ask for. With one operand alone the target is in the directory
    where one is, if that is allowed. -/
def passages (name : String) (o : Options) (alone : Bool) : Sh (Except Nat (List Passage)) := do
  let into (directory : String) (paths : List String) : List Passage :=
    paths.map fun p => ⟨p, inside directory (lastPart p)⟩
  let missing := (misused name "missing file operand" 1 : Sh Nat)
  match o.value? 't' with
  | some directory =>
    if o.operands.isEmpty then return .error (← missing)
    match ← Sh.node directory with
    | .ok found =>
      if found.node.isDirectory then return .ok (into directory o.operands)
      else if alone then return .error (← fail name ("target " ++ Quoting.always directory ++ " is not a directory") 1)
      else return .error (← fail name ("target directory " ++ Quoting.always directory ++ ": Not a directory") 1)
    | .error r =>
      let what := if alone then "failed to access " else "target directory "
      return .error (← fail name (what ++ Quoting.always directory ++ ": " ++ r.reason) 1)
  | none =>
    match o.operands with
    | [] => return .error (← missing)
    | [p] =>
      if alone && !o.has 'T' then return .ok [⟨p, inside "." (lastPart p)⟩]
      else return .error (← misused name ("missing destination file operand after " ++ Quoting.always p) 1)
    | p :: q :: more =>
      if o.has 'T' then
        match more with
        | extra :: _ => return .error (← misused name ("extra operand " ++ Quoting.always extra) 1)
        | [] => return .ok [⟨p, q⟩]
      else
        let target := (q :: more).getLast?.getD q
        let sources := (p :: q :: more).dropLast
        -- a link to a directory may be meant itself
        let found ← if o.has 'n' && alone && !target.endsWith "/" then Sh.nodeItself target else Sh.node target
        match found with
        | .ok found =>
          if found.node.isDirectory then return .ok (into target sources)
          else if more.isEmpty then return .ok [⟨p, target⟩]
          else return .error (← fail name ("target " ++ Quoting.always target ++ ": Not a directory") 1)
        | .error r =>
          if more.isEmpty then return .ok [⟨p, target⟩]
          else return .error (← fail name ("target " ++ Quoting.always target ++ ": " ++ r.reason) 1)

/-- The ending of the names of what is kept of files that are replaced, if it is kept. -/
def keptEnding? (o : Options) : Option String :=
  if o.has 'b' || o.has 'S' || (o.value? 'B').any (fun v => v != "none" && v != "off") then
    some ((o.value? 'S').getD "~")
  else none

/-- Gives a file that is to be replaced another name, if that is wanted. Whether it was. -/
def keepReplaced (o : Options) (target : String) : Sh (Option String) := do
  match keptEnding? o with
  | none => return none
  | some ending =>
    let s ← Sh.ask id
    match s.files.place s.directory target false with
    | .error _ => return none
    | .ok old =>
      match old.number with
      | none => return none
      | some number =>
        let numbered := (o.value? 'B').any fun v => v = "t" || v = "numbered"
        let name (k : Nat) : String := withoutSlashes target ++ if numbered then ".~" ++ toString k ++ "~" else ending
        let isFree (k : Nat) : Bool := !(s.files.find s.directory (name k) false).isOk
        let path := name (((List.range 100).find? fun k => isFree (k + 1)).getD 0 + 1)
        match s.files.place s.directory path false with
        | .ok new =>
          Sh.change fun t => { t with files := t.files.move old new number }
          return some path
        | .error _ => return none

/-! ### Copying -/

/-- How files are copied. -/
structure Copying where
  name : String
  options : Options
  recursive : Bool
  /-- Links are copied as what they lead to: all of them, or those that are named. -/
  through : Bool
  throughNamed : Bool
  /-- The mode that copies get, if it is not that of what is copied. -/
  mode : Option Nat
  /-- Modes and times are the same as those of what is copied. -/
  preserving : Bool

namespace Copying

/-- The status with which a file is left as it is that would be replaced, if it is. -/
def spared? (name : String) (o : Options) (target : String) (source existing : Node) : Sh (Option Nat) := do
  let update := (o.value? 'u').map fun v => if v = "" then "older" else v
  if update = some "none" then return some 0
  else if update = some "none-fail" then return some (← fail name ("not replacing " ++ Quoting.always target) 1)
  else if update = some "older" && source.changed ≤ existing.changed then return some 0
  else match o.last? ['f', 'i', 'n'] with
    | some 'n' => return some 0
    | some 'i' =>
      if ← confirmed (name ++ ": overwrite " ++ Quoting.always target ++ "?") then return none else return some 1
    | _ => return none

/-- Says what was copied. -/
def tellCopied (c : Copying) (source target : String) (kept : Option String) : Sh Unit :=
  if c.options.has 'v' then
    Sh.print (Quoting.always source ++ " -> " ++ Quoting.always target ++
      (match kept with
        | some path => " (backup: " ++ Quoting.always path ++ ")"
        | none => "") ++ "\n")
  else pure ()

/-- Sets what a copy has from what is copied. -/
def settle (c : Copying) (target : String) (source : Node) (isNew : Bool) : Sh Unit := do
  match ← Sh.nodeItself target with
  | .error _ => pure ()
  | .ok found =>
    let mask ← Sh.ask (·.mask)
    alterNode found.number fun n =>
      let mode := match c.mode with
        | some m => m
        | none => if c.preserving then source.mode else if isNew then source.mode - (source.mode &&& mask) else n.mode
      { n with mode := mode, changed := if c.preserving then source.changed else n.changed }

/-- Copies what is no directory. -/
def file (c : Copying) (source target : String) (found : Found) : Sh Nat := do
  let o := c.options
  let shown := Quoting.always target
  let existing ← Sh.nodeItself target
  let dangling := existing.isOk && !(← Sh.node target).isOk
  let refuse (verb : String) (r : Refusal) : Sh Nat :=
    fail c.name ("cannot create " ++ verb ++ shown ++ ": " ++ r.reason) 1
  let linked := found.node.content.isLink
  let same := match ← Sh.node target with
    | .ok other => other.number = found.number
    | .error _ => false
  if same && !o.has 'b' then
    let throughLink := holds existing fun e => e.node.content.isLink
    if o.has 'l' then return 0
    else if !(throughLink && o.has 'D') then
      return ← fail c.name (Quoting.always source ++ " and " ++ shown ++ " are the same file") 1
  match existing with
  | .ok e =>
    let isDirectory := e.node.isDirectory || holds (← Sh.node target) fun t => t.node.isDirectory
    if isDirectory && !(linked && e.node.content.isLink) then
      return ← fail c.name ("cannot overwrite directory " ++ shown ++ " with non-directory") 1
    if let some status ← spared? c.name o target found.node e.node then return status
    if dangling && !linked && !o.has 'D' && !o.has 'f' then
      return ← fail c.name ("not writing through dangling symlink " ++ shown) 1
  | .error _ => pure ()
  let kept ← keepReplaced o target
  if o.has 'D' || (existing.isOk && kept.isNone && (linked || o.has 's' || o.has 'l' || (dangling && o.has 'f'))) then
    let removed ← Sh.changeFiles fun fs d => fs.remove d target
    if removed.isOk && o.has 'v' && o.has 'D' then Sh.print ("removed " ++ shown ++ "\n")
  let isNew := !(← Sh.node target).isOk
  let create (content : Content) (mode : Nat) : Sh (Except Refusal Unit) :=
    Sh.changeFiles fun fs d => do
      let place ← fs.place d target true
      if place.asDirectory then .error .notDirectory else fs.create d target content mode
  let done (r : Except Refusal Unit) (verb : String) : Sh Nat := do
    match r with
    | .ok _ =>
      c.tellCopied source target kept
      return 0
    | .error r => refuse verb r
  if o.has 's' then
    done (← create (.link source) 0o777) "symbolic link "
  else if o.has 'l' then
    done (← Sh.changeFiles fun fs d => fs.put d target found.number) "hard link "
  else match found.node.content with
    | .link path => done (← create (.link path) 0o777) "symbolic link "
    | .pipe _ =>
      if c.recursive then done (← create (.pipe "") found.node.mode) "fifo " else return 0
    | _ =>
      match ← Sh.contents source with
      | .error r => fail c.name ("cannot open " ++ Quoting.always source ++ " for reading: " ++ r.reason) 1
      | .ok text =>
        let text := if o.has 'A' then "" else text
        let written ← Sh.changeFiles fun fs d => do
          let place ← fs.place d target true
          if place.asDirectory then .error .notDirectory
          else fs.write found.node.mode d target text
        if written.isOk then c.settle target found.node isNew
        done written "regular file "

/-- Copies a file, or a directory with what is in it, as part of copying something whole. A directory
    that was made for the whole is not copied itself. -/
def node (c : Copying) (whole : Passage) : (depth : Nat) → (made : Option Nat) → (source target : String) →
    Found → Sh Nat
  | 0, _, _, _, _ => return 1
  | n + 1, made, source, target, found => do
    if !found.node.isDirectory then c.file source target found
    else
      let shown := Quoting.always target
      let existing ← Sh.node target
      if made = some found.number then
        fail c.name ("cannot copy a directory, " ++ Quoting.always whole.source ++ ", into itself, " ++
          Quoting.always whole.target) 1
      else if holds existing fun e => !e.node.isDirectory then
        fail c.name ("cannot overwrite non-directory " ++ shown ++ " with directory " ++ Quoting.always source) 1
      else if holds existing fun e => e.number = found.number then
        fail c.name (Quoting.always source ++ " and " ++ shown ++ " are the same file") 1
      else
        let created : Except Refusal Unit ← match existing with
          | .ok _ => pure (.ok ())
          | .error _ => Sh.changeFiles fun fs d => fs.create d target (.directory []) found.node.mode
        match created with
        | .error r => fail c.name ("cannot create directory " ++ shown ++ ": " ++ r.reason) 1
        | .ok _ =>
          if !existing.isOk then
            c.tellCopied source target none
            c.settle target found.node true
          let made ← match made, ← Sh.node target with
            | none, .ok e => pure (some e.number)
            | made, _ => pure made
          let names ← Sh.ask (·.files.names found.number)
          let status ← Sh.worst names fun name => do
            let path := inside source name
            match ← (if c.through then Sh.node path else Sh.nodeItself path) with
            | .ok inner => Copying.node c whole n made path (inside target name) inner
            | .error r => fail c.name ("cannot stat " ++ Quoting.always path ++ ": " ++ r.reason) 1
          if c.preserving then c.settle target found.node false
          return status

end Copying

/-- Copies files one after the other. What has been made is not replaced. -/
def copyAll (c : Copying) (made : List String) (sources : List String) : List Passage → Sh Nat
  | [] => return 0
  | p :: ps => do
    let source := if p.source.endsWith "/" then withoutSlashes p.source else p.source
    let status ← do
      match ← (if c.throughNamed || p.source.endsWith "/" then Sh.node p.source else Sh.nodeItself p.source) with
      | .error r => fail c.name ("cannot stat " ++ Quoting.always p.source ++ ": " ++ r.reason) 1
      | .ok found =>
        if found.node.isDirectory && !c.recursive then
          fail c.name ("-r not specified; omitting directory " ++ Quoting.always p.source) 1
        else if sources.contains source then
          tell c.name ("warning: source " ++ (if found.node.isDirectory then "directory " else "file ") ++
            Quoting.always p.source ++ " specified more than once")
          return 0
        else if made.contains p.target && !found.node.isDirectory then
          fail c.name ("will not overwrite just-created " ++ Quoting.always p.target ++ " with " ++
            Quoting.always p.source) 1
        else c.node p deepestTree none p.source p.target found
    return max status (← copyAll c (p.target :: made) (source :: sources) ps)

/-- The names of the options for copying. -/
def copyOptions : OptionNames :=
  { letters := "abdfHilLnPprRsTuvxZ", valued := "St", optional := "uBQ", wordly := "ADBQNOU", words := [
      ("archive", 'a'), ("attributes-only", 'A'), ("backup", 'B'), ("copy-contents", 'C'), ("dereference", 'L'),
      ("force", 'f'), ("interactive", 'i'), ("link", 'l'), ("no-clobber", 'n'), ("no-dereference", 'P'),
      ("no-preserve", 'N'), ("no-target-directory", 'T'), ("parents", 'U'), ("preserve", 'Q'), ("recursive", 'R'),
      ("remove-destination", 'D'), ("suffix", 'S'), ("symbolic-link", 's'), ("target-directory", 't'), ("update", 'u'),
      ("verbose", 'v')] }

/-- Creates the directories that a path is in below another one. -/
def makeBelow (name : String) (verbose : Bool) (base : String) (parts : List String) : Sh Unit :=
  match parts with
  | [] => pure ()
  | p :: ps => do
    let path := inside base p
    let mode ← Sh.newMode 0o777
    let made ← Sh.changeFiles fun fs d => fs.create d path (.directory []) mode
    if made.isOk && verbose then Sh.print (p ++ " -> " ++ path ++ "\n")
    makeBelow name verbose path ps

/-- Copies files, and directories if that was asked for. -/
def cp : Utility := fun _ name args =>
  withOptions copyOptions true 1 name args fun o => do
    let recursive := o.has 'r' || o.has 'R' || o.has 'a'
    let deref := match o.last? ['L', 'P', 'd', 'a', 'H'] with
      | some 'L' => some true
      | some _ => some false
      | none => none
    let c : Copying := {
      name := name
      options := o
      recursive := recursive
      through := deref.getD (!recursive)
      throughNamed := deref.getD (!recursive) || o.last? ['L', 'P', 'd', 'a', 'H'] = some 'H'
      mode := none
      preserving := o.has 'p' || o.has 'a' || o.has 'Q' }
    match ← passages name o false with
    | .error status => return status
    | .ok ps =>
      if o.has 'U' then
        let directory := (o.value? 't').getD (o.operands.getLast?.getD ".")
        if !(← isDirectory directory) then
          misused name "with --parents, the destination must be a directory" 1
        else
          let ps := ps.map fun (p : Passage) => ({ p with target := inside directory p.source } : Passage)
          Sh.each ps fun p =>
            makeBelow name (o.has 'v') directory ((p.source.splitOn "/").dropLast.filter (· != ""))
          refusedAtEnd name (← copyAll c [] [] ps)
      else refusedAtEnd name (← copyAll c [] [] ps)

/-- Copies files and sets their modes, or creates directories. -/
def install : Utility := fun _ name args =>
  withOptions { letters := "bcCdDpsTvZ", valued := "gmoSt", words := [("compare", 'C'), ("directory", 'd'),
      ("group", 'g'), ("mode", 'm'), ("owner", 'o'), ("preserve-timestamps", 'p'), ("strip", 's'), ("suffix", 'S'),
      ("target-directory", 't'), ("no-target-directory", 'T'), ("verbose", 'v')] } true 1 name args fun o => do
    let mode : Option Nat := match o.value? 'm' with
      | none => some 0o755
      | some text => Mode.given? text (o.has 'd') 0 0
    match mode with
    | none => fail name ("invalid mode " ++ Quoting.curly ((o.value? 'm').getD "")) 1
    | some mode =>
      let make (verbose : Bool) (done : String) (parts : List String) : Sh Nat := do
        let rec go (done : String) : List String → Sh Nat
          | [] => return 0
          | "" :: parts => go (if done = "" then "/" else done) parts
          | part :: parts => do
            let path := if done = "" then part else inside done part
            match ← Sh.node path with
            | .ok found =>
              if found.node.isDirectory then go path parts
              else fail name ("cannot create directory " ++ Quoting.curly path ++ ": File exists") 1
            | .error _ =>
              match ← Sh.changeFiles fun fs d => fs.create d path (.directory []) (if parts.isEmpty then mode else 0o755) with
              | .ok _ =>
                if verbose then Sh.print (name ++ ": creating directory " ++ Quoting.always path ++ "\n")
                go path parts
              | .error r => fail name ("cannot create directory " ++ Quoting.curly path ++ ": " ++ r.reason) 1
        go done parts
      if o.has 'd' then
        if o.operands.isEmpty then misused name "missing file operand" 1
        else Sh.worst o.operands fun path => make (o.has 'v') "" (path.splitOn "/")
      else
        let c : Copying := {
          name := name
          options := { o with given := ('D', "") :: o.given.filter fun g => !"cCdsp".toList.contains g.1 }
          recursive := false
          through := true
          throughNamed := true
          mode := some mode
          preserving := false }
        if o.has 'D' then
          match o.value? 't', o.operands with
          | some directory, _ =>
            let _ ← make (o.has 'v') "" (directory.splitOn "/")
          | none, [_, target] =>
            let parts := (target.splitOn "/").dropLast
            if !parts.isEmpty then
              let _ ← make (o.has 'v') "" parts
          | _, _ => pure ()
        match ← passages name o false with
        | .error status => return status
        | .ok ps =>
          refusedAtEnd name (← Sh.worst ps fun p => do
            match ← Sh.node p.source with
            | .error r => fail name ("cannot stat " ++ Quoting.always p.source ++ ": " ++ r.reason) 1
            | .ok found =>
              if found.node.isDirectory then fail name ("omitting directory " ++ Quoting.always p.source) 1
              else c.file p.source p.target found)

/-! ### Moving -/

/-- Gives a file or a directory another place. -/
def moveTo (name : String) (o : Options) (p : Passage) : Sh Nat := do
  let source := Quoting.always p.source
  let target := Quoting.always p.target
  let refuse (reason : String) : Sh Nat :=
    fail name ("cannot move " ++ source ++ " to " ++ target ++ ": " ++ reason) 1
  let s ← Sh.ask id
  match s.files.place s.directory p.source false with
  | .error r => fail name ("cannot stat " ++ source ++ ": " ++ r.reason) 1
  | .ok old =>
    match old.number.bind fun n => (s.files.node? n).map fun node => (n, node) with
    | none => fail name ("cannot stat " ++ source ++ ": No such file or directory") 1
    | some (number, node) =>
      if p.source.endsWith "/" && !node.isDirectory then
        fail name ("cannot stat " ++ source ++ ": Not a directory") 1
      else match s.files.place s.directory p.target false with
        | .error r => refuse r.reason
        | .ok new =>
          let existing := new.number.bind s.files.node?
          let final := lastPart p.source
          let isBusy := final = "." || final = ".." || old.trail.isEmpty
          let spared : Sh (Option Nat) :=
            match existing with
            | none => pure none
            | some e => Copying.spared? name o p.target node e
          let inItself := node.isDirectory && old.trail.isPrefixOf new.trail
          if isBusy then refuse "Device or resource busy"
          else if new.number = some number && !(o.has 'b' || o.has 'S') && old.trail = new.trail && !node.isDirectory then
            fail name (source ++ " and " ++ target ++ " are the same file") 1
          else if inItself then
            let shown := if new.trail = old.trail then Quoting.always (inside p.target (lastPart p.source)) else target
            fail name ("cannot move " ++ source ++ " to a subdirectory of itself, " ++ shown) 1
          else if let some status ← spared then return status
          else
            let kept ← match existing with
              | some e => if e.isDirectory && !node.isDirectory then pure none else keepReplaced o p.target
              | none => pure none
            let existing := if kept.isSome then none else existing
            let move : Sh Nat := do
              let t ← Sh.ask id
              match t.files.place t.directory p.source false, t.files.place t.directory p.target false with
              | .ok old, .ok new =>
                if new.number = some number && old.trail != new.trail then
                  -- two names of one file
                  Sh.change fun t => { t with files := t.files.unname old }
                else Sh.change fun t => { t with files := t.files.move old new number }
                if o.has 'v' then
                  Sh.print ("renamed " ++ source ++ " -> " ++ target ++
                    (match kept with
                      | some path => " (backup: " ++ Quoting.always path ++ ")"
                      | none => "") ++ "\n")
                return 0
              | _, _ => refuse "No such file or directory"
            match node.isDirectory, existing with
            | true, none => move
            | true, some e =>
              if !e.isDirectory then
                fail name ("cannot overwrite non-directory " ++ target ++ " with directory " ++ source) 1
              else if e.content.entries.isEmpty then move
              else fail name ("cannot overwrite " ++ target ++ ": Directory not empty") 1
            | false, some e =>
              if e.isDirectory then
                fail name ("cannot overwrite directory " ++ target ++ " with non-directory") 1
              else if e.content matches .device _ then refuse "Permission denied"
              else move
            | false, none => if new.asDirectory then refuse "Not a directory" else move

/-- Gives files and directories other places. -/
def mv : Utility := fun _ name args =>
  withOptions { letters := "bfinTuvZ", valued := "St", optional := "uB", wordly := "BD", words := [("backup", 'B'),
      ("force", 'f'), ("interactive", 'i'), ("no-clobber", 'n'), ("no-target-directory", 'T'),
      ("strip-trailing-slashes", 'D'), ("suffix", 'S'), ("target-directory", 't'), ("update", 'u'),
      ("verbose", 'v')] } true 1 name args fun o => do
    match ← passages name o false with
    | .error status => return status
    | .ok ps =>
      let rec go (made : List String) : List Passage → Sh Nat
        | [] => return 0
        | p :: ps => do
          let status ←
            if made.contains p.target && (← Sh.nodeItself p.source).isOk && !(← isDirectory p.source) then
              fail name ("will not overwrite just-created " ++ Quoting.always p.target ++ " with " ++
                Quoting.always p.source) 1
            else moveTo name o p
          return max status (← go (p.target :: made) ps)
      refusedAtEnd name (← go [] ps)

/-! ### More names -/

/-- Gives a file another name, or creates a link to a path. -/
def linkTo (name : String) (o : Options) (p : Passage) : Sh Nat := do
  let symbolic := o.has 's'
  let kind := if symbolic then "symbolic link " else "hard link "
  let target := Quoting.always p.target
  let s ← Sh.ask id
  let source : Except (Sh Nat) (Option Nat) ←
    if symbolic then pure (.ok none)
    else match ← (if o.has 'L' then Sh.node p.source else Sh.nodeItself p.source) with
      | .error r =>
        pure (.error (fail name ("failed to access " ++ Quoting.always p.source ++ ": " ++ r.reason) 1))
      | .ok found =>
        if found.node.isDirectory then
          pure (.error (fail name (Quoting.name p.source ++ ": hard link not allowed for directory") 1))
        else pure (.ok (some found.number))
  match source with
  | .error complaint => complaint
  | .ok number =>
    let existing ← Sh.nodeItself p.target
    let agreed : Sh Bool := do
      match existing, o.last? ['f', 'i'] with
      | .ok _, some 'i' => confirmed (name ++ ": replace " ++ target ++ "?")
      | _, _ => return true
    let isSame := number.isSome && holds existing fun e => some e.number = number &&
      holds (s.files.find s.directory p.source (o.has 'L')) fun f => f.trail = e.trail
    let replaces := o.has 'f' || o.has 'i'
    if isSame && (replaces || o.has 'b') then
      fail name (Quoting.always p.source ++ " and " ++ target ++ " are the same file") 1
    else if !(← agreed) then return 1
    else
      let kept ← keepReplaced o p.target
      let text :=
        if o.has 'r' then
          let base := match s.files.place s.directory p.target false with
            | .ok place => place.trail.dropLast
            | .error _ => s.directory
          match resolved s .nothing p.source with
          | .ok trail => relative base trail
          | .error _ => p.source
        else p.source
      let made ← Sh.changeFiles fun fs d => do
        let isThere := match fs.find d p.target false with
          | .ok e => !e.node.isDirectory
          | .error _ => false
        let fs ← if replaces && isThere then fs.remove d p.target else .ok fs
        match number with
        | some n => fs.put d p.target n
        | none => if text = "" then .error .notFound else fs.create d p.target (.link text) 0o777
      match made with
      | .ok _ =>
        if o.has 'v' then
          let back := match kept with
            | some path => Quoting.always path ++ " ~ "
            | none => ""
          Sh.print (back ++ target ++ (if symbolic then " -> " else " => ") ++ Quoting.always text ++ "\n")
        return 0
      | .error r =>
        let arrow := if symbolic then (if text = "" then " -> " ++ Quoting.always text else "")
          else if r matches .alreadyExists then "" else " => " ++ Quoting.always p.source
        fail name ("failed to create " ++ kind ++ target ++ arrow ++ ": " ++ r.reason) 1

/-- Creates links. -/
def ln : Utility := fun _ name args =>
  withOptions { letters := "bdfFiLnPrsTv", valued := "St", optional := "B", wordly := "B", words := [("backup", 'B'),
      ("directory", 'd'), ("force", 'f'), ("interactive", 'i'), ("logical", 'L'), ("no-dereference", 'n'),
      ("no-target-directory", 'T'), ("physical", 'P'), ("relative", 'r'), ("suffix", 'S'), ("symbolic", 's'),
      ("target-directory", 't'), ("verbose", 'v')] } true 1 name args fun o => do
    match ← passages name o true with
    | .error status => return status
    | .ok ps =>
      let ps := ps.map fun p =>
        if o.operands.length = 1 && (o.value? 't').isNone then { p with target := (p.target.drop 2).toString } else p
      let status ← Sh.worst ps fun p =>
        linkTo name o (if p.target = "" then { p with target := "." } else p)
      refusedAtEnd name status

/-- Gives a file another name. -/
def link : Utility := fun _ name args =>
  withOptions {} false 1 name args fun o => do
    match o.operands with
    | [] => missingOperand name none
    | [a] => missingOperand name (some a)
    | [a, b] =>
      let refuse (r : Refusal) : Sh Nat :=
        fail name ("cannot create link " ++ Quoting.always b ++ " to " ++ Quoting.always a ++ ": " ++ r.reason) 1
      match ← Sh.nodeItself a with
      | .error r => refuse r
      | .ok found =>
        match ← Sh.changeFiles fun fs d => fs.put d b found.number with
        | .ok _ => return 0
        | .error r => refuse r
    | _ :: _ :: extra :: _ => extraOperand name extra

end Retrace.Unix.Utility
