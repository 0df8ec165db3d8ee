import Retrace.Outside.Files

/-!
# Files of a system

What the programs of a system do with files besides reading, writing and removing
them: they ask for more about a node, and give it names in other places. The files
that a system has (`Files.system`) are planted as a tree.
-/

namespace Retrace

namespace Content

/-- Whether it is a link. -/
def isLink : Content → Bool
  | link _ => true
  | _ => false

/-- Whether it is a file, or a program. -/
def isFile : Content → Bool
  | file _ => true
  | program _ => true
  | _ => false

end Content

namespace Node

/-- Whether anyone may run it. -/
def isExecutable (n : Node) : Bool :=
  n.mode % 2 = 1 || n.mode / 8 % 2 = 1 || n.mode / 64 % 2 = 1

/-- Its size in octets. -/
def size (n : Node) : Nat :=
  match n.content with
  | .file text => text.length
  | .directory _ => 4096
  | .link target => target.length
  | .program name => 30000 + 1000 * name.length
  | _ => 0

end Node

namespace Files

/-! ### Nodes -/

/-- How many names a node has. A directory also has those by which it and its directories call it. -/
def nameCount (fs : Files) (number : Nat) : Nat :=
  let named := fs.nodes.foldl (fun n node =>
    n + (node.content.entries.filter (·.2 = number)).length) 0
  match fs.node? number with
  | some node =>
    if node.isDirectory then
      2 + (node.content.entries.filter fun e => (fs.node? e.2).any (·.isDirectory)).length
    else named
  | none => named

/-- The names in a directory, in the order of their octets. -/
def names (fs : Files) (number : Nat) : List String :=
  ((fs.entries number).map (·.1)).mergeSort (· ≤ ·)

/-! ### Names -/

/-- Removes an empty directory. -/
def removeDirectory (fs : Files) (start : Trail) (path : String) : Except Refusal Files := do
  let found ← fs.find start path false
  if !found.node.isDirectory then .error .notDirectory
  else if !found.node.content.entries.isEmpty then .error .notEmpty
  else .ok (fs.unname (← fs.place start path false))

/-- Puts a node where nothing is yet. -/
def put (fs : Files) (start : Trail) (path : String) (number : Nat) : Except Refusal Files := do
  let place ← fs.place start path false
  let isDirectory := (fs.node? number).any (·.isDirectory)
  match place.number with
  | some _ => .error .alreadyExists
  | none =>
    if place.asDirectory && !isDirectory then .error .notFound
    else .ok (fs.name place.directory (place.trail.getLast?.getD "") number)

/-- Creates a node where nothing is yet. -/
def create (fs : Files) (start : Trail) (path : String) (content : Content) (mode : Nat) :
    Except Refusal Files :=
  let (number, added) := fs.add content mode
  added.put start path number

/-- Gives a node another place; what may have been there loses its name. -/
def move (fs : Files) (old new : Place) (number : Nat) : Files :=
  (fs.unname old).name new.directory (new.trail.getLast?.getD "") number

/-! ### The files of a system -/

/-- A tree of files. -/
inductive Seed where
  | node (content : Content) (mode : Nat)
  | tree (mode : Nat) (entries : List (String × Seed))

/-- Plants a tree: its number. -/
def plant (fs : Files) : Seed → Nat × Files
  | .node content mode => fs.add content mode
  | .tree mode es =>
    let (number, fs) := fs.add (.directory []) mode
    let fs := plantEntries fs number es
    (number, fs)
where
  /-- Plants trees in a directory. -/
  plantEntries (fs : Files) (directory : Nat) : List (String × Seed) → Files
    | [] => fs
    | (name, seed) :: rest =>
      let (number, fs) := plant fs seed
      plantEntries (fs.name directory name number) directory rest

/-- The time that a system begins at, in seconds. -/
def beginning : Int := 1767268800

/-- An empty home, and around it what every system has, with some programs. -/
def system (programs : List String) : Files :=
  let directory (es : List (String × Seed)) : Seed := .tree 0o755 es
  let device (d : Device) : Seed := .node (.device d) 0o666
  let seed := directory [
    ("bin", .node (.link "usr/bin") 0o777),
    ("dev", directory [("null", device .null), ("full", device .full), ("zero", device .zero),
      ("random", device .random), ("urandom", device .random), ("tty", device .terminal)]),
    ("etc", directory [("passwd", .node (.file "root:x:0:0:root:/root:/bin/bash\n") 0o644)]),
    ("home", directory []),
    ("proc", directory []),
    ("root", .tree 0o700 []),
    ("tmp", .tree 0o1777 [("session", directory [])]),
    ("usr", directory [
      ("bin", directory (programs.map fun p => (p, .node (.program p) 0o755))),
      ("lib", directory []), ("sbin", directory []), ("share", directory []),
      ("local", directory [("bin", directory []), ("sbin", directory [])])]),
    ("sbin", .node (.link "usr/sbin") 0o777),
    ("var", directory [("tmp", .tree 0o1777 [])])]
  (plant ⟨#[], beginning * 1000000000⟩ seed).2

end Files

end Retrace
