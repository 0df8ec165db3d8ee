import Retrace.Unix.Builtin.Basic

/-!
# Directories

Going to directories, and keeping those in mind that were left. A shell calls
its directory by the path it took there, in which a link may stand for another
directory; `..` goes back along that path.
-/

namespace Retrace.Unix.Builtin

/-- A path from the root without `.` and `..`, if the directories on the way are there. -/
def straightened (s : State) (parts : List String) : Option (List String) :=
  parts.foldl (fun way part =>
    match way with
    | none => none
    | some way =>
      if part = "" || part = "." then some way
      else if part = ".." then
        match s.files.find [] ("/" ++ "/".intercalate way.reverse) true with
        | .ok found => if found.node.isDirectory then some (way.drop 1) else none
        | .error _ => none
      else some (part :: way)) (some []) |>.map List.reverse

/-- The path of a trail. -/
def pathOf (trail : Trail) : String := "/" ++ "/".intercalate trail

/-- Goes to a directory. The result is its path. -/
def enter (path : String) (physical : Bool) : Sh (Except Refusal String) := do
  let s ← Sh.ask id
  let moveTo (trail : Trail) (here : String) : Sh (Except Refusal String) := do
    Sh.change fun s => { s with directory := trail, here := here }
    return .ok here
  let whole := if path.startsWith "/" then path else s.here ++ "/" ++ path
  let logical := if physical then none else (straightened s (whole.splitOn "/")).map pathOf
  let direct : Sh (Except Refusal String) := do
    match ← Sh.node path with
    | .ok found =>
      if found.node.isDirectory then moveTo found.trail (pathOf found.trail) else return .error .notDirectory
    | .error r => return .error r
  match logical with
  | some here =>
    match s.files.find [] here true with
    | .ok found => if found.node.isDirectory then moveTo found.trail here else direct
    | .error _ => direct
  | none => direct

/-- Goes to a directory, and says so to the parameters. -/
def go (path : String) (physical : Bool) : Sh (Except Refusal String) := do
  let old ← Sh.ask (·.here)
  match ← enter path physical with
  | .ok here =>
    Sh.assign "OLDPWD" old
    Sh.assign "PWD" here
    alter "PWD" fun v => { v with exported := true }
    alter "OLDPWD" fun v => { v with exported := true }
    return .ok here
  | .error r => return .error r

/-- Goes to a directory. -/
def cd : Builtin := fun _ args => do
  let extended ← Sh.isExtended
  withOptions "cd" "cd [-L|[-P [-e]] [-@]] [dir]" (if extended then "LPe@" else "LP") "" false args fun c => do
    let physical := (c.given.reverse.find? fun g => g.1 = 'L' || g.1 = 'P').any (·.1 = 'P') ||
      (!(c.has 'L') && (← Sh.chosen "physical"))
    let visit (path : String) (shows : Bool) : Sh Nat := do
      if path = "" then return 0
      let whole := path.startsWith "/" || path = "." || path = ".." || path.startsWith "./" ||
        path.startsWith "../"
      let searched := ((← Sh.value? "CDPATH").map fun (p : String) => p.splitOn ":").getD []
      let searched := if whole then [] else searched
      let s ← Sh.ask id
      let found := searched.findSome? fun dir =>
        if dir = "" then none
        else
          let candidate := dir ++ "/" ++ path
          match s.files.find s.directory candidate true with
          | .ok found => if found.node.isDirectory then some candidate else none
          | .error _ => none
      match ← go (found.getD path) physical with
      | .ok here =>
        if shows || found.isSome then line here
        return 0
      | .error r =>
        if extended then wrong "cd" (path ++ ": " ++ r.reason) 1
        else wrong "cd" ("can't cd to " ++ path) 2
    match c.rest with
    | [] =>
      match ← Sh.value? "HOME" with
      | some home => visit home false
      | none => if extended then wrong "cd" "HOME not set" 1 else return 0
    | "-" :: more =>
      if extended && !more.isEmpty then wrong "cd" "too many arguments" 1
      else match ← Sh.value? "OLDPWD" with
        | some path => visit path true
        | none => if extended then wrong "cd" "OLDPWD not set" 1 else visit (← Sh.ask (·.here)) true
    | path :: more =>
      if extended && !more.isEmpty then wrong "cd" "too many arguments" 1 else visit path false

/-- Prints the path of the directory. -/
def pwd : Builtin := fun _ args =>
  withOptions "pwd" "pwd [-LP]" "LP" "" false args fun c => do
    let physical := (c.given.getLast?).any (·.1 = 'P') || (c.given.isEmpty && (← Sh.chosen "physical"))
    let s ← Sh.ask id
    line (if physical then pathOf s.directory else s.here)
    return 0

/-! ### Directories kept in mind -/

/-- A path in which a tilde stands for the home. -/
def shortened (home path : String) : String :=
  if home.length < 2 then path
  else if path = home then "~"
  else if path.startsWith (home ++ "/") then "~" ++ (path.drop home.length).toString
  else path

/-- The directories kept in mind, the one of the shell first. -/
def kept : Sh (List String) :=
  Sh.ask fun s => s.here :: s.stack

/-- Prints the directories kept in mind. -/
def showKept : Sh Unit := do
  let home := (← Sh.value? "HOME").getD ""
  line (" ".intercalate ((← kept).map (shortened home)))

/-- The position that an argument means among so many directories. -/
def position? (count : Nat) (arg : String) : Option Int :=
  match arg.toList with
  | '+' :: cs => if !cs.isEmpty && cs.all Char.isDigit then some (numberOf 10 cs) else none
  | '-' :: cs => if !cs.isEmpty && cs.all Char.isDigit then some ((count : Int) - 1 - numberOf 10 cs) else none
  | _ => none

/-- Complains that there is no such directory in mind. -/
def outOfRange (name arg : String) : Sh Nat := do
  if (← Sh.ask (·.stack)).isEmpty then wrong name "directory stack empty" 1
  else wrong name (arg ++ ": directory stack index out of range") 1

/-- Goes to the first of some directories and keeps the others in mind. -/
def keep (name : String) (moves : Bool) : List String → Sh Nat
  | top :: others => do
    let moved ← if moves then go top false else pure (.ok top)
    match moved with
    | .ok _ =>
      Sh.change fun s => { s with stack := others }
      showKept
      return 0
    | .error r => wrong name (top ++ ": " ++ r.reason) 1
  | [] => return 0

/-- Keeps the directory in mind and goes to another one. -/
def pushd : Builtin := fun _ args => do
  let form := "pushd [-n] [+N | -N | dir]"
  let stays := args.head? = some "-n"
  let args := if stays then args.drop 1 else args
  let args := if args.head? = some "--" then args.drop 1 else args
  let all ← kept
  match args with
  | [] =>
    match all with
    | a :: b :: rest => keep "pushd" (!stays) (if stays then a :: b :: rest else b :: a :: rest)
    | _ => wrong "pushd" "no other directory" 1
  | arg :: more =>
    if !more.isEmpty then wrong "pushd" "too many arguments" 1
    else match position? all.length arg with
      | some n =>
        if all.length < 2 || n < 0 || (all.length : Int) ≤ n then outOfRange "pushd" arg
        else keep "pushd" (!stays) (all.drop n.toNat ++ all.take n.toNat)
      | none =>
        if arg.startsWith "-" && arg != "-" then
          Sh.complain ("pushd: " ++ arg ++ ": invalid number")
          usage "pushd" form
        else if stays then keep "pushd" false ((← Sh.ask (·.here)) :: arg :: all.drop 1)
        else
          let path ← if arg = "-" then do pure ((← Sh.value? "OLDPWD").getD "") else pure arg
          match ← go path false with
          | .ok _ =>
            Sh.change fun s => { s with stack := all }
            showKept
            return 0
          | .error r => wrong "pushd" (arg ++ ": " ++ r.reason) 1

/-- Goes back to the directory that was kept in mind last. -/
def popd : Builtin := fun _ args => do
  let form := "popd [-n] [+N | -N]"
  let stays := args.head? = some "-n"
  let args := if stays then args.drop 1 else args
  let all ← kept
  match args with
  | [] =>
    if all.length < 2 then wrong "popd" "directory stack empty" 1
    else if stays then keep "popd" false (all.take 1 ++ all.drop 2)
    else keep "popd" true (all.drop 1)
  | arg :: _ =>
    match position? all.length arg with
    | some n =>
      if all.length < 2 || n < 0 || (all.length : Int) ≤ n then outOfRange "popd" arg
      else if n = 0 then keep "popd" (!stays) (all.drop 1)
      else keep "popd" false (all.take n.toNat ++ all.drop (n.toNat + 1))
    | none =>
      if arg.startsWith "-" then Sh.complain ("popd: " ++ arg ++ ": invalid number")
      else Sh.complain ("popd: " ++ arg ++ ": invalid argument")
      usage "popd" form

/-- Prints the directories kept in mind. -/
def dirs : Builtin := fun _ args => do
  let form := "dirs [-clpv] [+N] [-N]"
  let isOption (a : String) : Bool :=
    a.startsWith "-" && a.length > 1 && (a.drop 1).toString.toList.all fun c => "clpv".toList.contains c
  let letters := (args.filter isOption).flatMap fun a => (a.drop 1).toString.toList
  let others := args.filter fun a => !isOption a
  let home := (← Sh.value? "HOME").getD ""
  let all := (← kept).map fun p => if letters.contains 'l' then p else shortened home p
  if letters.contains 'c' then
    Sh.change fun s => { s with stack := [] }
    return 0
  else match others with
    | arg :: _ =>
      match position? all.length arg with
      | some n =>
        match if n < 0 then none else all[n.toNat]? with
        | some p =>
          line p
          return 0
        | none => outOfRange "dirs" (arg.drop 1).toString
      | none =>
        Sh.complain ("dirs: " ++ arg ++ ": invalid number")
        usage "dirs" form
    | [] =>
      if letters.contains 'v' then
        Sh.each all.zipIdx fun (p, i) => line (Format.padded 2 false (toString i) ++ "  " ++ p)
      else if letters.contains 'p' then Sh.each all line
      else line (" ".intercalate all)
      return 0

/-! ### What files that are created are allowed -/

/-- Prints or sets what files that are created are not allowed. -/
def umask : Builtin := fun _ args => do
  let extended ← Sh.isExtended
  withOptions "umask" "umask [-p] [-S] [mode]" (if extended then "pS" else "S") "" false args fun c => do
    let shown : Sh Unit := do
      let mask ← Sh.ask (·.mask)
      let octal := Fraction.zeroPadded 4 (Mode.octal mask)
      line ((if c.has 'p' then (if c.has 'S' then "umask -S " else "umask ") else "") ++
        (if c.has 'S' then Mode.left mask else octal))
    match c.rest with
    | [] =>
      shown
      return 0
    | arg :: _ =>
      let mask ← Sh.ask (·.mask)
      if arg.toList.head?.any Char.isDigit then
        match Mode.ofOctal? arg with
        | some m =>
          Sh.change fun s => { s with mask := m % 0o1000 }
          if extended && c.has 'S' then shown
          return 0
        | none =>
          if extended then wrong "umask" (arg ++ ": octal number out of range") 1
          else wrong "umask" ("Illegal number: " ++ arg) 2
      else
        match Mode.changes? arg with
        | some changes =>
          let allowed := Mode.applyAll true 0 (0o777 - mask) changes % 0o1000
          Sh.change fun s => { s with mask := 0o777 - allowed }
          if extended && c.has 'S' then shown
          return 0
        | none =>
          if extended then
            let rest := arg.toList.dropWhile fun c => "ugoa".toList.contains c
            let d := String.ofList (rest.take 1)
            if rest.head?.any Mode.isSign then
              wrong "umask" ("\x60" ++ String.ofList ((rest.drop 1).take 1) ++ "': invalid symbolic mode character") 1
            else wrong "umask" ("\x60" ++ d ++ "': invalid symbolic mode operator") 1
          else wrong "umask" ("Illegal mode: " ++ arg) 2

end Retrace.Unix.Builtin
