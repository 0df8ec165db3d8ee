import Retrace.Failure
import Retrace.Text.Octets

/-!
# Files

Files and directories, as far as a program can notice them, with a *home*: the
directory that a session works in. Names and contents are texts of octets.

What there is are *nodes*, which have numbers. A directory is a node that gives
names to others, so a file can have several names, and may have none while it
is still being read. The root is the node `0`.

A path is followed part by part, from the root if it begins with a slash and
else from a given directory. A part `.` stays where one is and `..` goes back,
a link is replaced by the path it holds, and every part but the last has to
lead to a directory. Nothing needs to be at the end of a path: it is then the
`Place` where something may be put. A path that ends in a slash can only mean a
directory.

What cannot be done is refused, with the reason that is met first on the way.
-/

namespace Retrace

/-- The files that hold nothing of their own. -/
inductive Device where
  /-- Takes everything, and has nothing. -/
  | null
  /-- Takes nothing. -/
  | full
  /-- Takes everything, and has as many null characters as one wants. -/
  | zero
  /-- Takes everything, and has as many characters as one wants. -/
  | random
  /-- What a person would sit at. -/
  | terminal
deriving DecidableEq

/-- What a node holds. -/
inductive Content where
  | file (text : String)
  /-- The numbers of other nodes, by names. -/
  | directory (entries : List (String × Nat))
  | link (target : String)
  /-- What was written and not yet read. -/
  | pipe (waiting : String)
  | device (device : Device)
  /-- One of the programs that are always there. -/
  | program (name : String)

/-- Something that can have names in directories. -/
structure Node where
  content : Content
  /-- Who may read it, write it and run it. -/
  mode : Nat
  /-- When its content was last changed, in nanoseconds. -/
  changed : Int

/-- The names to follow from the root. -/
abbrev Trail := List String

/-- The files. -/
structure Files where
  /-- The nodes by their numbers. -/
  nodes : Array Node
  /-- The time, in nanoseconds. -/
  now : Int

/-- Where a path leads. -/
structure Place where
  trail : Trail
  /-- The directory it is in. -/
  directory : Nat
  /-- What is there. -/
  number : Option Nat
  /-- Whether only a directory can be meant. -/
  asDirectory : Bool

/-- What is at the end of a path. -/
structure Found where
  trail : Trail
  number : Nat
  node : Node

namespace Content

/-- The names a directory gives. -/
def entries : Content → List (String × Nat)
  | directory es => es
  | _ => []

/-- Whether it is a directory. -/
def isDirectory : Content → Bool
  | directory _ => true
  | _ => false

end Content

namespace Node

/-- Whether it is a directory. -/
def isDirectory (n : Node) : Bool :=
  n.content.isDirectory

end Node

namespace Files

/-- The directory a session works in. -/
def home : Trail := ["tmp", "session"]

/-! ### Nodes -/

/-- The node of a number. -/
def node? (fs : Files) (number : Nat) : Option Node :=
  fs.nodes[number]?

/-- The content of a node. -/
def content? (fs : Files) (number : Nat) : Option Content :=
  (fs.node? number).map Node.content

/-- The entries of a directory. -/
def entries (fs : Files) (number : Nat) : List (String × Nat) :=
  ((fs.content? number).map Content.entries).getD []

/-- The node that a directory gives a name to. -/
def entry? (fs : Files) (directory : Nat) (name : String) : Option Nat :=
  (fs.entries directory).lookup name

/-- Adds a node: its number. -/
def add (fs : Files) (content : Content) (mode : Nat) : Nat × Files :=
  (fs.nodes.size, { fs with nodes := fs.nodes.push ⟨content, mode, fs.now⟩ })

/-- Changes a node. -/
def alter (fs : Files) (number : Nat) (f : Node → Node) : Files :=
  { fs with nodes := fs.nodes.modify number f }

/-- Changes the content of a node now. -/
def alterContent (fs : Files) (number : Nat) (f : Content → Content) : Files :=
  fs.alter number fun n => { n with content := f n.content, changed := fs.now }

/-- Gives a name in a directory to a node. -/
def name (fs : Files) (directory : Nat) (name : String) (number : Nat) : Files :=
  fs.alterContent directory fun c =>
    .directory (c.entries.filter (·.1 != name) ++ [(name, number)])

/-- Takes a name in a directory away. -/
def forget (fs : Files) (directory : Nat) (name : String) : Files :=
  fs.alterContent directory fun c => .directory (c.entries.filter (·.1 != name))

/-! ### Paths -/

/-- How long a name may be. -/
def longestName : Nat := 255

/-- How long a path may be. -/
def longestPath : Nat := 4095

/-- The names and numbers of the nodes on the way along a trail, the last one first. -/
def wayAlong (fs : Files) (way : List (String × Nat)) : Trail → Option (List (String × Nat))
  | [] => some way
  | name :: names =>
    match fs.entry? ((way.head?.map (·.2)).getD 0) name with
    | some number => fs.wayAlong ((name, number) :: way) names
    | none => none

/-- Follows the parts of a path from a node, which is at the end of a way whose
    last part is given first. At most `links` links are followed, a last one only if
    `through`. -/
def walk (fs : Files) (through asDirectory : Bool) :
    (links : Nat) → (way : List (String × Nat)) → (parts : List String) → Except Refusal Place
  | _, way, [] =>
    .ok ⟨(way.map (·.1)).reverse, (((way.drop 1).head?).map (·.2)).getD 0,
      some ((way.head?.map (·.2)).getD 0), asDirectory⟩
  | links, way, part :: parts =>
    if part = "" ∨ part = "." then walk fs through asDirectory links way parts
    else if part = ".." then walk fs through asDirectory links (way.drop 1) parts
    else if longestName < part.length then .error .nameTooLong
    else
      let directory := (way.head?.map (·.2)).getD 0
      let trail := ((way.map (·.1)).reverse) ++ [part]
      match fs.entry? directory part with
      | none =>
        if parts.isEmpty then .ok ⟨trail, directory, none, asDirectory⟩ else .error .notFound
      | some number =>
        match fs.content? number with
        | some (.directory _) => walk fs through asDirectory links ((part, number) :: way) parts
        | some (.link target) =>
          if parts.isEmpty && !through && !asDirectory then
            .ok ⟨trail, directory, some number, asDirectory⟩
          else
            match links with
            | 0 => .error .tooManyLinks
            | links + 1 =>
              walk fs through asDirectory links (if target.startsWith "/" then [] else way)
                (target.splitOn "/" ++ parts)
        | _ =>
          if parts.isEmpty then .ok ⟨trail, directory, some number, asDirectory⟩
          else .error .notDirectory
termination_by links _ parts => (links, parts.length)

/-- Where a path leads that starts in a directory. -/
def place (fs : Files) (start : Trail) (path : String) (through : Bool) :
    Except Refusal Place :=
  if path.toList.contains '\x00' then .error .nullInName
  else if path = "" then .error .notFound
  else if longestPath < path.length then .error .nameTooLong
  else
    let parts := ((path.splitOn "/").reverse.dropWhile (· = "")).reverse
    if path.startsWith "/" then fs.walk through (path.endsWith "/") 40 [] parts
    else
      match fs.wayAlong [] start with
      | some way => fs.walk through (path.endsWith "/") 40 way parts
      | none => .error .notFound

/-- What is at the end of a path. A link there is what is meant unless `through`. -/
def find (fs : Files) (start : Trail) (path : String) (through : Bool) : Except Refusal Found := do
  let place ← fs.place start path through
  match place.number with
  | some number =>
    match fs.node? number with
    | some node =>
      if place.asDirectory && !node.isDirectory then .error .notDirectory
      else .ok ⟨place.trail, number, node⟩
    | none => .error .notFound
  | none => .error .notFound

/-! ### Files -/

/-- The text in a file of which there is no other end. -/
def deviceText : Device → String
  | .zero => String.ofList (List.replicate 65536 '\x00')
  | .random => String.ofList ((List.range 65536).map fun n => Char.ofNat (n * 193 % 251))
  | _ => ""

/-- The content of a file. -/
def read (fs : Files) (start : Trail) (path : String) : Except Refusal String := do
  match (← fs.find start path true).node.content with
  | .file text => .ok text
  | .directory _ => .error .isDirectory
  | .link _ => .error .tooManyLinks
  | .pipe waiting => .ok waiting
  | .device .terminal => .error .noDevice
  | .device d => .ok (deviceText d)
  | .program name => .ok ("\x7fELF" ++ name)

/-- Gives a file a new content, creating it with a mode if need be. -/
def write (fs : Files) (mode : Nat) (start : Trail) (path text : String) : Except Refusal Files := do
  let place ← fs.place start path true
  if place.asDirectory then .error .isDirectory
  else match place.number with
    | none =>
      let (number, fs) := fs.add (.file text) mode
      .ok (fs.name place.directory (place.trail.getLast?.getD "") number)
    | some number =>
      match fs.content? number with
      | some (.directory _) => .error .isDirectory
      | some (.link _) => .error .tooManyLinks
      | some (.device .full) => if text = "" then .ok fs else .error .noSpace
      | some (.device .terminal) => .error .noDevice
      | some (.device _) => .ok fs
      | some (.pipe waiting) => .ok (fs.alterContent number fun _ => .pipe (waiting ++ text))
      | _ => .ok (fs.alterContent number fun _ => .file text)

/-- Takes the name at the end of a path away. -/
def unname (fs : Files) (place : Place) : Files :=
  fs.forget place.directory (place.trail.getLast?.getD "")

/-- Removes what is no directory. -/
def remove (fs : Files) (start : Trail) (path : String) : Except Refusal Files := do
  let found ← fs.find start path false
  if found.node.isDirectory then .error .isDirectory
  else .ok (fs.unname (← fs.place start path false))

/-- The mode of a file that a session creates. -/
def usualMode : Nat := 0o644

/-- The text of a file. -/
def readText (fs : Files) (path : String) : Except Refusal String := do
  match Text.Octets.toText? (← fs.read home (Text.Octets.ofText path)) with
  | some text => .ok text
  | none => .error .invalidText

/-- Gives a file a text for its content, creating it if need be. -/
def writeText (fs : Files) (path text : String) : Except Refusal Files :=
  fs.write usualMode home (Text.Octets.ofText path) (Text.Octets.ofText text)

/-- Removes a file by its name. -/
def delete (fs : Files) (path : String) : Except Refusal Files :=
  fs.remove home (Text.Octets.ofText path)

/-! ### The beginning -/

/-- No files, and no directories but the home and those it is in. -/
def bare : Files where
  nodes := #[⟨.directory [("tmp", 1)], 0o755, 0⟩, ⟨.directory [("session", 2)], 0o1777, 0⟩,
    ⟨.directory [], 0o755, 0⟩]
  now := 0

end Files

end Retrace
