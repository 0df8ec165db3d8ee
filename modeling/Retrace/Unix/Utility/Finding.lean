import Retrace.Unix.Query
import Retrace.Unix.Utility.Listing
import Retrace.Unix.Utility.Programs

/-!
# Finding files

What looks through directories for files that a query holds of. A directory is
looked at before what is in it, or after that; what is in it is left out if the
query says so. Programs that are to be run for many files are run in the end.
-/

namespace Retrace.Unix.Utility

/-- A file that is looked at. -/
structure Seen where
  path : String
  /-- The path that was asked for, below which the file is. -/
  start : String
  level : Nat
  number : Nat
  node : Node

/-- How far a search has come. -/
structure Searched where
  status : Nat
  /-- What is in the directory is left out. -/
  pruned : Bool
  stopped : Bool
  /-- The files for which programs are run in the end, with the numbers of these. -/
  gathered : List (Nat × String)

namespace Finding

/-! ### What is known of files -/

/-- A text in the space it is given. -/
def filled (f : Filling) (s : String) : String :=
  let s := match f.precision with
    | some p => (s.take p).toString
    | none => s
  Format.padded f.width (f.flags.contains '-') s

/-- A number in the space it is given. -/
def filledNumber (f : Filling) (lead digits : String) : String :=
  let sign := if f.flags.contains '+' then "+" else if f.flags.contains ' ' then " " else ""
  let sign := if lead = "" then sign else ""
  let digits := (if f.flags.contains '#' then lead else "") ++ Fraction.zeroPadded (f.precision.getD 0) digits
  Format.paddedNumber f.width (f.flags.contains '-') (f.flags.contains '0' && f.precision.isNone) sign digits

/-- A time in a form of its own. -/
def timeText (zone : Calendar.Zone) (t : Int) (form : Char) : String :=
  let part := "." ++ Fraction.zeroPadded 9 (toString (t.fmod 1000000000)) ++ "0"
  match form with
  | '@' => toString (t.fdiv 1000000000) ++ part
  | 'S' => Calendar.written zone t "%S" ++ part
  | 'T' => Calendar.written zone t "%T" ++ part
  | 'X' => Calendar.written zone t "%T" ++ part
  | '+' => Calendar.written zone t "%Y-%m-%d+%T" ++ part
  | c => Calendar.written zone t (String.ofList ['%', c])

/-- The letter for what a file is. -/
def kindOfNode (n : Node) : String :=
  if kindLetter n = "-" then "f" else kindLetter n

/-- The part of a path below the one that was asked for. -/
def below (f : Seen) : String :=
  let rest := (f.path.drop f.start.length).toString
  if f.level = 0 then "" else (rest.dropWhile (· = '/')).toString

/-- A path without its last part. -/
def holder (path : String) : String :=
  let cs := path.toList.reverse
  let kept := (cs.dropWhile (· = '/')).dropWhile (· != '/')
  if path.toList.all (· = '/') then ""
  else if kept.isEmpty then "."
  else String.ofList ((kept.drop 1).reverse)

/-- What a letter asks for. -/
def answer (zone : Calendar.Zone) (through : Option Node) (names : Nat) (f : Seen) (k : Filling) (letter : Char) :
    String :=
  let n := f.node
  match letter with
  | 'p' => filled k f.path
  | 'f' => filled k (lastPart f.path ++ (if f.level = 0 && f.path.endsWith "/" && f.path != "/" then "/" else ""))
  | 'h' => filled k (if f.level = 0 && f.path.endsWith "/" then (f.path.dropEnd 1).toString else holder f.path)
  | 'P' => filled k (below f)
  | 'H' => filled k f.start
  | 'd' => filledNumber k "" (toString f.level)
  | 's' => filled k (toString n.size)
  | 'y' => filled k (kindOfNode n)
  | 'Y' => filled k (match through with
      | some m => kindOfNode m
      | none => "N")
  | 'm' => filledNumber k "0" (Mode.octal n.mode)
  | 'M' => filled k (kindLetter n ++ Mode.letters n.mode)
  | 'n' => filled k (toString names)
  | 'l' => filled k (match n.content with
      | .link target => target
      | _ => "")
  | 'u' => filled k "root"
  | 'g' => filled k "root"
  | 'U' => filled k "0"
  | 'G' => filled k "0"
  | 'i' => filled k (toString (f.number + 2))
  | 'D' => filled k (toString (Inquiry.deviceOf n))
  | 'b' => filled k (toString (blocksOf n * 2))
  | 'k' => filled k (toString (blocksOf n))
  | 'S' => filled k (if n.size = 0 then "1" else Fraction.general 6 false ⟨false, blocksOf n * 1024, n.size⟩)
  | 'F' => filled k "ext4"
  | 'a' => filled k (Calendar.written zone n.changed "%a %b %e " ++ timeText zone n.changed 'T' ++
      Calendar.written zone n.changed " %Y")
  | 'c' => filled k (Calendar.written zone n.changed "%a %b %e " ++ timeText zone n.changed 'T' ++
      Calendar.written zone n.changed " %Y")
  | 't' => filled k (Calendar.written zone n.changed "%a %b %e " ++ timeText zone n.changed 'T' ++
      Calendar.written zone n.changed " %Y")
  | _ => ""

/-- A format filled in, up to where it stops. -/
def formatted (zone : Calendar.Zone) (through : Option Node) (names : Nat) (f : Seen) : List FormatPart → String
  | [] => ""
  | .text s :: ps => s ++ formatted zone through names f ps
  | .asked k letter :: ps => answer zone through names f k letter ++ formatted zone through names f ps
  | .time k _ form :: ps => filled k (timeText zone f.node.changed form) ++ formatted zone through names f ps
  | .stop :: _ => ""

/-- The line of a list of files. -/
def listed (zone : Calendar.Zone) (now : Int) (names : Nat) (f : Seen) : String :=
  let n := f.node
  let age := now - n.changed
  let recent := -3600000000000 ≤ age && age < 15778476000000000
  let time := Calendar.written zone n.changed (if recent then "%b %e %H:%M" else "%b %e  %Y")
  Format.padded 9 false (toString (f.number + 2)) ++ " " ++ Format.padded 6 false (toString (blocksOf n)) ++ " " ++
    kindLetter n ++ Mode.letters n.mode ++ " " ++ Format.padded 3 false (toString names) ++ " root     root     " ++
    Format.padded 8 false (toString n.size) ++ " " ++ time ++ " " ++ f.path ++
    (match n.content with
      | .link target => " -> " ++ target
      | _ => "") ++ "\n"

/-! ### Looking at files -/

/-- Whether a pattern matches. -/
def admits (p : Pattern) (folded : Bool) (s : String) : Bool :=
  if folded then
    Pattern.admitsAll (p.map Wild.folded) ((Multibyte.characters s.toList).map Multibyte.lower)
  else p.admits s

/-- Runs the command of a query. -/
def run (e : Engine) (name : String) (r : QueryRun) (path : String) (args : List String) : Sh Bool := do
  let args := if r.gathers then args else args.map fun a => path.intercalate (a.splitOn "\x7b\x7d")
  match ← e.invoke args with
  | .ok status => return status = 0
  | .error why =>
    tell name (Quoting.curly (args.headD "") ++ ": " ++ why.reason)
    return r.gathers

/-- Runs the command of a query for a file. -/
def runFor (e : Engine) (name : String) (r : QueryRun) (f : Seen) : Sh Bool := do
  let before ← Sh.ask (·.directory)
  let path := if r.within then "./" ++ lastPart f.path else f.path
  if r.within then
    match ← Sh.node (withoutLast f.path) with
    | .ok found => Sh.change fun s => { s with directory := found.trail }
    | .error _ => pure ()
  let agreed ← if r.asks then confirmed ("< " ++ r.args.headD "" ++ " ... " ++ f.path ++ " > ?") else pure true
  let done ← Sh.attempt (if agreed then
      Sh.withStreams do
        if r.asks then Sh.lead 0 (some (← Sh.addChannel .null))
        run e name r path (if r.gathers then r.args ++ [path] else r.args)
    else pure false)
  Sh.change fun s => { s with directory := before }
  Sh.resume done

/-- Prints something, into a file perhaps. -/
def put (name : String) (file : Option String) (text : String) : Sh Unit :=
  match file with
  | none => Sh.print text
  | some path => do
    let _ ← printInto name path text .appending plainComplaint

/-- Looks at a file. -/
def look (e : Engine) (name : String) (f : Seen) : Query → Searched → Sh (Bool × Searched)
  | .always v, s => return (v, s)
  | .name p folded, s => return (admits p folded (lastPart f.path), s)
  | .path p folded, s => return (admits p folded f.path, s)
  | .target p folded, s =>
    match f.node.content with
    | .link target => return (admits p folded target, s)
    | _ => return (false, s)
  | .regular r folded, s =>
    let start := Regular.Position.first (Multibyte.characters f.path.toList)
    return ((Regular.places ⟨folded, false, false⟩ r start).any (·.after.isEmpty), s)
  | .kind letters through, s => do
    let node ← (do
      if !through then return f.node
      match ← Sh.node f.path with
      | .ok found => return found.node
      | .error _ => return f.node)
    return (letters.any fun c => kindOfNode node = String.singleton c, s)
  | .empty, s =>
    match f.node.content with
    | .file text => return (text = "", s)
    | .directory es => return (es.isEmpty, s)
    | _ => return (false, s)
  | .size unit m, s => return (m.has ((f.node.size + unit - 1) / max 1 unit), s)
  | .days today m, s => do
    let age ← sinceChanged today
    return (age ≥ 0 && m.has (age / 86400000000000).toNat, s)
  | .minutes today m, s => do
    let age ← sinceChanged today
    let minute : Int := 60000000000
    return (match m with
      | .exactly n => decide (age / minute + 1 = n)
      | .above n => decide (n * minute < age)
      | .below n => decide (age < n * minute), s)
  | .newer time, s => return (time < f.node.changed, s)
  | .mode bits share, s =>
    return (match share with
      | .exactly => f.node.mode = bits
      | .all => f.node.mode &&& bits = bits
      | .any => f.node.mode &&& bits != 0, s)
  | .names m, s => return (m.has (← nameCountOf f.number), s)
  | .number m, s => return (m.has (f.number + 2), s)
  | .same number, s => return (f.number = number, s)
  | .isThere, s => return ((← Sh.node f.path).isOk, s)
  | .runs, s => do
    match ← Sh.node f.path with
    | .ok found => return (found.node.isDirectory || found.node.isExecutable, s)
    | .error _ => return (false, s)
  | .print finish file, s => do
    put name file (f.path ++ finish)
    return (true, s)
  | .format parts file, s => do
    let through := match ← Sh.node f.path with
      | .ok found => some found.node
      | .error _ => none
    put name file (formatted (← zone) through (← nameCountOf f.number) f parts)
    return (true, s)
  | .list file, s => do
    put name file (listed (← zone) (← Sh.ask (·.files.now)) (← nameCountOf f.number) f)
    return (true, s)
  | .delete, s => do
    if f.path = "." then return (true, s)
    match ← Sh.changeFiles fun fs d =>
        if f.node.isDirectory then fs.removeDirectory d f.path else fs.remove d f.path with
    | .ok _ => return (true, s)
    | .error r =>
      tell name ("cannot delete " ++ Quoting.curly f.path ++ ": " ++ r.reason)
      return (false, { s with status := 1 })
  | .prune, s => return (true, { s with pruned := true })
  | .quit, s => return (true, { s with stopped := true })
  | .run r, s => do
    if r.gathers && !r.within then return (true, { s with gathered := (r.number, f.path) :: s.gathered })
    else
      let ok ← runFor e name r f
      if r.gathers then return (true, if ok then s else { s with status := 1 }) else return (ok, s)
  | .not q, s => do
    let (v, s) ← look e name f q s
    return (!v, s)
  | .and p q, s => do
    let (v, s) ← look e name f p s
    if v && !s.stopped then look e name f q s else return (v, s)
  | .or p q, s => do
    let (v, s) ← look e name f p s
    if v || s.stopped then return (v, s) else look e name f q s
  | .next p q, s => do
    let (_, s) ← look e name f p s
    if s.stopped then return (true, s) else look e name f q s
where
  /-- How long ago the file was changed, or how long before the end of the day. -/
  sinceChanged (today : Bool) : Sh Int := do
    let now ← Sh.ask (·.files.now)
    let day : Int := 86400000000000
    return (if today then (now / day + 1) * day - 1 else now) - f.node.changed

/-- What is at a path, or at the end of a link. -/
def nodeAt (through : Bool) (path : String) : Sh (Except Refusal Found) := do
  let itself ← Sh.nodeItself path
  if through then
    match ← Sh.node path with
    | .ok found => return .ok found
    | .error _ => return itself
  else return itself

mutual

/-- Looks at a file, and at what is in it. -/
def visit (e : Engine) (name : String) (x : Query.Extent) (q : Query) : (fuel : Nat) → Seen → Searched → Sh Searched
  | 0, _, s => return s
  | n + 1, f, s => do
    let here (s : Searched) : Sh Searched := do
      if f.level < x.least || s.stopped then return s
      else
        -- what is in a directory may have been removed by now
        let node ← Sh.ask fun t => (t.files.node? f.number).getD f.node
        return (← look e name { f with node := node } q s).2
    let s := { s with pruned := false }
    if x.inner then
      let s ← inside n f s
      here s
    else
      let s ← here s
      if s.pruned then return { s with pruned := false } else inside n f s
where
  /-- Looks at what is in a directory. -/
  inside (n : Nat) (f : Seen) (s : Searched) : Sh Searched := do
    if !f.node.isDirectory || x.most ≤ f.level || s.stopped then return s
    else match ← nodeAt x.through f.path with
      | .error r =>
        tell name (Quoting.curly f.path ++ ": " ++ r.reason)
        return { s with status := 1 }
      | .ok found => visitAll e name x q n f (← Sh.ask (·.files.names found.number)) s

/-- Looks at some files in a directory. -/
def visitAll (e : Engine) (name : String) (x : Query.Extent) (q : Query) : (fuel : Nat) → (directory : Seen) →
    List String → Searched → Sh Searched
  | 0, _, _, s => return s
  | _, _, [], s => return s
  | n + 1, d, entry :: entries, s => do
    if s.stopped then return s
    let path := Utility.inside d.path entry
    match ← nodeAt x.through path with
    | .ok found =>
      let s ← visit e name x q n ⟨path, d.start, d.level + 1, found.number, found.node⟩ s
      visitAll e name x q n d entries s
    | .error r =>
      tell name (Quoting.curly path ++ ": " ++ r.reason)
      visitAll e name x q n d entries { s with status := 1 }

end

/-- The greatest number of files that are looked at one after the other. -/
def longestSearch : Nat := 100000

/-- Looks at what is below some paths. -/
def search (e : Engine) (name : String) (x : Query.Extent) (followed : Bool) (q : Query) : List String → Searched →
    Sh Searched
  | [], s => return s
  | path :: paths, s => do
    if s.stopped then return s
    match ← nodeAt (x.through || followed) path with
    | .ok found =>
      let s ← visit e name x q longestSearch ⟨path, path, 0, found.number, found.node⟩ s
      search e name x followed q paths s
    | .error r =>
      tell name (Quoting.curly path ++ ": " ++ r.reason)
      search e name x followed q paths { s with status := 1 }

end Finding

/-- Finds files. -/
def find : Utility := fun e name args => do
  let isManner (a : String) : Bool := a = "-L" || a = "-P" || a = "-H" || a.startsWith "-O" || a = "--"
  let manners := args.takeWhile isManner
  let args := args.drop manners.length
  let last := (manners.filter fun a => a = "-L" || a = "-P" || a = "-H").getLast?
  let paths := args.takeWhile fun a => !Query.isTerm true a
  let s ← Sh.ask id
  match Query.read s (← zone) (last = some "-L") (args.drop paths.length) with
  | .error m =>
    Sh.each (m.splitOn "\n") (tell name)
    return 1
  | .ok (q, r) =>
    Sh.each r.warnings (tell name)
    let opened ← Sh.worst r.files fun path =>
      printInto name path "" .writing fun path reason => Quoting.curly path ++ ": " ++ reason
    if opened != 0 then return 1
    else
      let done ← Finding.search e name r.extent (last = some "-H") q (if paths.isEmpty then ["."] else paths)
        ⟨0, false, false, []⟩
      let failed ← Sh.collect q.gathering fun r => do
        let files := (done.gathered.reverse.filter (·.1 = r.number)).map (·.2)
        if files.isEmpty then return false
        else return !(← Finding.run e name r "" (r.args ++ files))
      refusedAtEnd name (if failed.contains true then 1 else done.status)

end Retrace.Unix.Utility
