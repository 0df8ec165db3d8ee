import Retrace.Unix.State

/-!
# Finding programs

A name without a slash is looked for in the directories that the parameter
`PATH` names, and the shell keeps in mind where it was found.
-/

namespace Retrace.Unix.Path

/-- The directories to look in; `none` if there are none, and a name is a path itself. -/
def directories? (s : State) : Option (List String) :=
  match (s.parameters.lookup "PATH").bind fun v => v.items.lookup "0" with
  | some path => if path = "" then none else some (path.splitOn ":")
  | none => none

/-- The path of a name in a directory. -/
def joined (extended : Bool) (directory name : String) : String :=
  if directory = "" then (if extended then "./" ++ name else name)
  else if directory.endsWith "/" then directory ++ name
  else directory ++ "/" ++ name

/-- The files of a name in the directories, with their paths. -/
def files (s : State) (name : String) : List (String × Node) :=
  match directories? s with
  | some ds =>
    ds.filterMap fun d =>
      let path := joined s.dialect.extended d name
      match s.files.find s.directory path true with
      | .ok found => if found.node.content.isFile then some (path, found.node) else none
      | .error _ => none
  | none => []

/-- The paths of a name that can be run. -/
def programs (s : State) (name : String) : List String :=
  ((files s name).filter fun f => f.2.isExecutable).map (·.1)

/-- The path of a name, which can be run if there is one that can. -/
def find? (s : State) (name : String) : Option String :=
  if name = "" then none
  else ((programs s name).head?).or (((files s name).head?).map (·.1))

/-- Where a name was found before. -/
def known? (s : State) (name : String) : Option String :=
  (s.known.find? (·.name = name)).map (·.path)

/-- Keeps in mind where a name was found, and how often it was called. -/
def remember (name path : String) (calls : Nat) : Sh Unit :=
  Sh.change fun s => { s with
    known := if s.known.any (·.name = name) then
        s.known.map fun k => if k.name = name then ⟨name, path, calls⟩ else k
      else ⟨name, path, calls⟩ :: s.known }

/-- The path of a name that is called, which is kept in mind. -/
def lookup (name : String) : Sh (Option String) := do
  let s ← Sh.ask id
  match s.known.find? (·.name = name) with
  | some k =>
    match s.files.find s.directory k.path true with
    | .ok _ =>
      remember name k.path (k.calls + 1)
      return some k.path
    | .error _ => return some k.path
  | none =>
    match find? s name with
    | some path =>
      if path.startsWith "/" && (programs s name).contains path then remember name path 1
      return some path
    | none => return none

/-- The place of a name in the table of the extended dialect. -/
def extendedPlace (name : String) : Nat :=
  (name.toList.foldl (fun (n : UInt32) c => (n * 16777619) ^^^ UInt32.ofNat c.toNat) 2166136261).toNat % 256

/-- The place of a name in the table of the other dialect. -/
def plainPlace (name : String) : Nat :=
  let first := ((name.toList.head?).getD '\x00').toNat * 16
  (first + (name.toList.map Char.toNat).foldl (· + ·) 0) % 32768 % 31

/-- The programs that were found before, in the order in which they are shown. -/
def table (s : State) : List Known :=
  if s.dialect.extended then s.known.mergeSort fun a b => extendedPlace a.name ≤ extendedPlace b.name
  else s.known.reverse.mergeSort fun a b => plainPlace a.name ≤ plainPlace b.name

end Retrace.Unix.Path
