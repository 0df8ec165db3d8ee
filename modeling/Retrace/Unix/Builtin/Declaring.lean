import Retrace.Unix.Builtin.Basic

/-!
# Declaring parameters

What is known of parameters beside their values: whether programs get to know
them, whether they are constant, numbers or lists, and which of them belong to
a function.
-/

namespace Retrace.Unix.Builtin

/-! ### Showing -/

/-- The value of a parameter as it is shown after its name. -/
def shownValue (v : Variable) : String :=
  if v.isList then
    if v.items.isEmpty && !v.isGiven then "" else "=" ++ Expand.shownList v
  else match v.items.lookup "0" with
    | some t => "=" ++ Quoting.valued t
    | none => ""

/-- The declaration of a parameter. -/
def declaration (name : String) (v : Variable) : String :=
  let letters := Expand.attributes v
  "declare -" ++ (if letters = "" then "-" else letters) ++ " " ++ name ++ shownValue v

/-- The declaration of a parameter in the words of the other dialect. -/
def plainDeclaration (command name : String) (v : Variable) : String :=
  command ++ " " ++ name ++ (match v.items.lookup "0" with
    | some t => "=" ++ Quoting.single t
    | none => "")

/-- The functions in the order of their names. -/
def sortedFunctions : Sh (List (String × Command)) :=
  Sh.ask fun s => s.functions.mergeSort fun a b => a.1 ≤ b.1

/-- Shows a function. -/
def showFunction (name : String) (body : Command) : Sh Unit := do
  line (Printing.function (← Sh.ask (·.documents)) name body)

/-- The letters that say what is known of a function. -/
def functionLetters (s : State) (name : String) : String :=
  "f" ++ (if s.constantFunctions.contains name then "r" else "") ++
    (if s.sharedFunctions.contains name then "x" else "")

/-- The parameters with their values, as they could be given to them. -/
def showAll : Sh Unit := do
  let extended ← Sh.isExtended
  Sh.each (← sortedParameters) fun (name, v) => do
    if v.isList then
      if v.isGiven then line (name ++ "=" ++ Expand.shownList v)
    else match v.items.lookup "0" with
      | some t => line (name ++ "=" ++ (if extended then Quoting.ifNeeded t else Quoting.single t))
      | none => pure ()
  if extended then
    if !(← Sh.chosen "posix") then Sh.each (← sortedFunctions) fun (name, body) => showFunction name body

/-! ### Parameters of functions -/

/-- Lets a parameter belong to the function that is being run. -/
def makeOwn (name : String) (inherits : Bool) : Sh Unit := do
  let old ← Sh.parameterItself? name
  let isOwn ← Sh.ask fun s => (s.frames.head?).any fun f => f.saved.any (·.1 = name)
  if !isOwn then
    Sh.change fun s =>
      match s.frames with
      | f :: more => { s with frames := { f with saved := (name, old) :: f.saved } :: more }
      | [] => s
    if !inherits then Sh.setVariable name (some { Variable.unset with exported := old.any (·.exported) })

/-- Whether the parameter of a name belongs to the function that is being run. -/
def isOwn (name : String) : Sh Bool :=
  Sh.ask fun s => (s.frames.head?).any fun f => f.saved.any (·.1 = name)

/-! ### Values -/

/-- A text or a number added to a value. -/
def addedTo (numeric : Bool) (old new : String) : Sh String := do
  if numeric then
    return toString ((← Formula.value old) + (← Formula.value new)).toInt
  else return old ++ new

/-- The items of a list with the keys they get in a parameter. -/
def keyedItems (name : String) (v : Variable) (next : Int) : List (Option String × String) →
    Sh (List (String × String))
  | [] => return []
  | (some key, t) :: rest => do
    let k ← if v.isKeyed then pure key else Expand.keyToAssign name key
    return (k, t) :: (← keyedItems name v (((k.toInt?).getD next) + 1) rest)
  | (none, t) :: rest => do
    if v.isKeyed then
      match rest with
      | (none, u) :: rest => return (t, u) :: (← keyedItems name v next rest)
      | rest => return (t, "") :: (← keyedItems name v next rest)
    else return (toString next, t) :: (← keyedItems name v (next + 1) rest)
termination_by items => items.length

/-- Gives a list to a parameter. -/
def assignList (name : String) (added : Bool) (items : List (Option String × String)) : Sh Unit := do
  let old := (← Sh.parameterItself? name).getD .unset
  if old.constant then Sh.mistake (name ++ ": readonly variable")
  else
    let next : Int := if added then ((old.items.getLast?.bind fun i => i.1.toInt?).map (· + 1)).getD 0 else 0
    let keyed ← keyedItems name old next items
    let keyed ← if old.numeric then Sh.collect keyed fun (k, t) => do
          return (k, toString (← Formula.value t).toInt)
      else pure keyed
    let before := if added then old.items else []
    let all := keyed.foldl (fun acc i => Sh.putItem old.isKeyed i.1 (Sh.taken old i.2) acc) before
    Sh.setVariable name (some { old with items := all, isList := true, isGiven := true })

/-- Gives a text to a parameter or to an item of it, or adds it to the value there is. -/
def assignText (name : String) (key : Option String) (added : Bool) (text : String) : Sh Unit := do
  let v := (← Sh.parameter? name).getD .unset
  let k ← match key with
    | some key => Expand.keyToAssign name key
    | none => pure "0"
  let text ← if added then addedTo v.numeric ((v.items.lookup k).getD "") text
    else if v.numeric then do pure (toString (← Formula.value text).toInt)
    else pure text
  match key with
  | some _ => Sh.assignItem name k text true
  | none => Sh.assign name text

/-- What is known of a parameter after some letters were given and others taken away. -/
def withLetters (given removed : List Char) (v : Variable) : Variable :=
  let has (c : Char) (old : Bool) : Bool := (old || given.contains c) && !removed.contains c
  let recasing :=
    if given.contains 'l' && given.contains 'u' then none
    else if given.contains 'l' then some Recasing.lower
    else if given.contains 'u' then some .upper
    else if given.contains 'c' then some .toggle
    else match v.recasing with
      | some .lower => if removed.contains 'l' then none else v.recasing
      | some .upper => if removed.contains 'u' then none else v.recasing
      | some .toggle => if removed.contains 'c' then none else v.recasing
      | none => none
  { v with
    isList := v.isList || given.contains 'a' || given.contains 'A'
    isKeyed := v.isKeyed || given.contains 'A'
    numeric := has 'i' v.numeric
    exported := has 'x' v.exported
    isReference := has 'n' v.isReference
    recasing := recasing }

/-! ### Declaring -/

/-- Takes the list that was given to a name. -/
def takeGiven (name : String) : Sh (Option Given) := do
  let found ← Sh.ask fun s => s.given.find? (·.name = name)
  Sh.change fun s => { s with given := s.given.filter (·.name != name) }
  return found

/-- How names are declared. -/
structure Manner where
  command : String
  given : List Char
  removed : List Char
  /-- Whether they are to belong to the function that is being run. -/
  own : Bool

/-- Declares a name, with the value that may follow it. -/
def declareOne (m : Manner) (arg : String) : Sh Nat := do
  let extended ← Sh.isExtended
  let list ← takeGiven arg
  let (left, value, added) := if list.isSome then (arg, none, false) else definition arg
  let (name, key) := if extended then keyed left else (left, none)
  if !isName name then
    if extended then wrong m.command ("\x60" ++ arg ++ "': not a valid identifier") 1
    else wrongSpecial m.command (left ++ ": bad variable name") 1
  else
    let name ← if m.given.contains 'n' || m.removed.contains 'n' then pure name
      else if m.own then pure name else Sh.resolved name
    let old ← Sh.parameterItself? name
    let gives := value.isSome || list.isSome
    let refuse : Sh Nat :=
      if extended then wrong m.command (name ++ ": readonly variable") 1
      else do
        Sh.complain (m.command ++ ": " ++ name ++ ": is read only")
        Sh.stop (.exit 2)
    if old.any (·.constant) && (gives || m.removed.contains 'r' || m.own) && !(m.own && (← isOwn name) && !gives) then
      refuse
    else if m.given.contains 'n' && value = some name && !m.own then
      wrong m.command (name ++ ": nameref variable self references not allowed") 1
    else if m.given.contains 'n' && value.any fun v => !isTarget true v then
      wrong m.command ("\x60" ++ value.getD "" ++ "': invalid variable name for name reference") 1
    else
      if m.own then makeOwn name (!extended || m.given.contains 'I' || (← Sh.chosen "localvar_inherit"))
      alter name (withLetters (m.given.filter (· != 'n')) m.removed)
      if key.isSome then alter name fun v => { v with isList := true }
      match list with
      | some g => assignList name g.added g.items
      | none =>
        match value with
        | some text =>
          if m.given.contains 'n' then
            alter name fun v => { v with items := [("0", text)], isGiven := true }
          else assignText name key added text
        | none => pure ()
      if m.given.contains 'n' then alter name fun v => { v with isReference := true }
      if m.given.contains 'r' then alter name fun v => { v with constant := true }
      return 0

/-- What the shell knows of a parameter, also of those that it keeps itself. -/
def known? (name : String) : Sh (Option Variable) := do
  match ← Sh.parameterItself? name with
  | some v => return some v
  | none => Sh.ask fun s => Expand.kept? s name

/-- Shows the declarations of names. -/
def showNames (command : String) (names : List String) : Sh Nat :=
  Sh.worst names fun name => do
    match ← known? name with
    | some v =>
      line (declaration name v)
      return 0
    | none => wrong command (name ++ ": not found") 1

/-- Shows all parameters of which something is known. -/
def showWhere (p : Variable → Bool) : Sh Unit := do
  Sh.each (← sortedParameters) fun (name, v) => do
    if p v then line (declaration name v)

/-- Shows functions, or only their names. -/
def showFunctions (command : String) (namesOnly isQuery : Bool) (names : List String) : Sh Nat := do
  let s ← Sh.ask id
  if names.isEmpty then
    Sh.each (← sortedFunctions) fun (name, body) => do
      if !namesOnly then
        showFunction name body
        if isQuery && functionLetters s name != "f" then
          line ("declare -" ++ functionLetters s name ++ " " ++ name)
      else line ("declare -" ++ functionLetters s name ++ " " ++ name)
    return 0
  else Sh.worst names fun name => do
    match s.functions.lookup name with
    | some body =>
      if namesOnly then line (if isQuery then "declare -" ++ functionLetters s name ++ " " ++ name else name)
      else showFunction name body
      return 0
    | none => if isQuery then wrong command (name ++ ": not found") 1 else return 1

/-- Whether a parameter has all that some letters say. -/
def hasLetters (letters : List Char) (v : Variable) : Bool :=
  letters.all fun c => (Expand.attributes v).toList.contains c

/-- Declares names for the function that is being run, or for all. -/
def declare (command : String) : Builtin := fun _ args => do
  let s ← Sh.ask id
  let extended := s.dialect.extended
  let inFunction := !s.frames.isEmpty
  if command = "local" && !inFunction then
    if extended then wrong "local" "can only be used in a function" 1
    else wrongSpecial "local" "not in a function" 1
  else
    let isOption (a : String) : Bool := (a.startsWith "-" || a.startsWith "+") && a.length > 1
    let options := if extended then args.takeWhile fun a => isOption a && a != "--" else []
    let given := (options.filter (·.startsWith "-")).flatMap fun a => (a.drop 1).toString.toList
    let removed := (options.filter (·.startsWith "+")).flatMap fun a => (a.drop 1).toString.toList
    let names := args.drop options.length
    let names := if names.head? = some "--" then names.drop 1 else names
    match (given ++ removed).find? fun c => !"aAcfFgiIlnrtuxp".toList.contains c with
    | some c =>
      let form := if command = "local" then "local [option] name[=value] ..."
        else command ++ " [-aAfFgiIlnrtux] [name[=value] ...] or " ++ command ++ " -p [-aAfFilnrtux] [name ...]"
      misused command (String.ofList [if given.contains c then '-' else '+', c]) form false
    | none =>
      let letters := given.filter fun c => c != 'p' && c != 'g' && c != 'f' && c != 'F' && c != 'I'
      let own := inFunction && !given.contains 'g'
      if given.contains 'f' || given.contains 'F' then
        if names.isEmpty || given.contains 'p' || given.contains 'F' || letters.isEmpty then
          showFunctions command (given.contains 'F') (given.contains 'p') names
        else Sh.worst names fun name => do
          if (s.functions.lookup name).isNone then return 1
          if letters.contains 'x' then
            Sh.change fun s => { s with sharedFunctions := name :: s.sharedFunctions.erase name }
          if letters.contains 'r' then
            Sh.change fun s => { s with constantFunctions := name :: s.constantFunctions.erase name }
          return 0
      else if given.contains 'p' then
        if names.isEmpty then
          if command = "local" then
            let names := ((s.frames.head?).map fun f => f.saved.map (·.1)).getD []
            Sh.each (← sortedParameters) fun (name, v) => do
              if names.contains name && hasLetters letters v then line (declaration name v)
          else showWhere (hasLetters letters)
          return 0
        else showNames command names
      else if names.isEmpty then
        if command = "local" then
          let names := ((s.frames.head?).map fun f => f.saved.map (·.1)).getD []
          Sh.each (← sortedParameters) fun (name, v) => do
            if names.contains name then line (declaration name v)
        else if letters.isEmpty && removed.isEmpty then showAll
        else if !letters.isEmpty then showWhere (hasLetters letters)
        return 0
      else Sh.worst names fun arg => do
        if arg = "-" && command = "local" then
          Sh.change fun s =>
            match s.frames with
            | f :: more => { s with frames := { f with choices := f.choices.or (some s.choices) } :: more }
            | [] => s
          return 0
        else declareOne ⟨command, given.filter (· != 'p'), removed, own⟩ arg

/-- Makes parameters known to programs. -/
def export' : Builtin := fun _ args => do
  let extended ← Sh.isExtended
  withOptions "export" "export [-fn] [name[=value] ...] or export -p" (if extended then "fnp" else "p") ""
    true args fun c => do
    if c.has 'f' then
      if c.rest.isEmpty then
        let s ← Sh.ask id
        Sh.each (← sortedFunctions) fun (name, body) => do
          if s.sharedFunctions.contains name then
            showFunction name body
            line ("declare -" ++ functionLetters s name ++ " " ++ name)
        return 0
      else Sh.worst c.rest fun name => do
        if (← Sh.ask fun s => (s.functions.lookup name).isSome) then
          Sh.change fun s => { s with
            sharedFunctions := if c.has 'n' then s.sharedFunctions.erase name
              else name :: s.sharedFunctions.erase name }
          return 0
        else wrong "export" (name ++ ": not a function") 1
    else if c.rest.isEmpty then
      if extended then showWhere (·.exported)
      else Sh.each (← sortedParameters) fun (name, v) => do
        if v.exported then line (plainDeclaration "export" name v)
      return 0
    else Sh.worst c.rest fun arg =>
      declareOne ⟨"export", if c.has 'n' then [] else ['x'], if c.has 'n' then ['x'] else [], false⟩ arg

/-- Makes parameters constant. -/
def readonly : Builtin := fun _ args => do
  let extended ← Sh.isExtended
  withOptions "readonly" "readonly [-aAf] [name[=value] ...] or readonly -p" (if extended then "aAfp" else "p") ""
    true args fun c => do
    if c.has 'f' then
      if c.rest.isEmpty then
        let s ← Sh.ask id
        Sh.each (← sortedFunctions) fun (name, body) => do
          if s.constantFunctions.contains name then
            showFunction name body
            line ("declare -" ++ functionLetters s name ++ " " ++ name)
        return 0
      else Sh.worst c.rest fun name => do
        if (← Sh.ask fun s => (s.functions.lookup name).isSome) then
          Sh.change fun s => { s with constantFunctions := name :: s.constantFunctions.erase name }
          return 0
        else wrong "readonly" (name ++ ": not a function") 1
    else
      let letters := (c.given.map (·.1)).filter fun l => l = 'a' || l = 'A'
      if c.rest.isEmpty then
        if extended then showWhere fun v => v.constant && hasLetters letters v
        else Sh.each (← sortedParameters) fun (name, v) => do
          if v.constant then line (plainDeclaration "readonly" name v)
        return 0
      else Sh.worst c.rest (declareOne ⟨"readonly", 'r' :: letters, [], false⟩)

/-! ### Forgetting -/

/-- Some frames without a parameter that a function farther out made its own, and what the
    parameter was before that. -/
def withoutOwn (name : String) : List Frame → Option (List Frame × Option Variable)
  | [] => none
  | f :: fs =>
    match f.saved.lookup name with
    | some old => some ({ f with saved := f.saved.filter (·.1 != name) } :: fs, old)
    | none => (withoutOwn name fs).map fun (fs, old) => (f :: fs, old)

/-- Forgets a parameter. One that belongs to a function farther out is what it was before. -/
def forget (name : String) : Sh Unit := do
  if ← isOwn name then Sh.setVariable name none
  else
    let s ← Sh.ask id
    match s.frames with
    | f :: fs =>
      match withoutOwn name fs with
      | some (fs, old) =>
        Sh.change fun s => { s with frames := f :: fs }
        Sh.setVariable name old
      | none => Sh.setVariable name none
    | [] => Sh.setVariable name none

/-- Forgets a function. -/
def forgetFunction (name : String) : Sh Nat := do
  if (← Sh.ask (·.constantFunctions)).contains name then
    wrong "unset" (name ++ ": cannot unset: readonly function") 1
  else
    Sh.change fun s => { s with
      functions := s.functions.filter (·.1 != name)
      sharedFunctions := s.sharedFunctions.erase name }
    return 0

/-- Forgets parameters or functions. -/
def unset : Builtin := fun _ args => do
  let extended ← Sh.isExtended
  withOptions "unset" "unset [-f] [-v] [-n] [name ...]" (if extended then "fvn" else "fv") "" true args fun c => do
    if c.has 'f' && c.has 'v' && extended then
      wrong "unset" "cannot simultaneously unset a function and a variable" 1
    else Sh.worst c.rest fun arg => do
      if c.has 'f' then forgetFunction arg
      else
        let (base, key) := if extended then keyed arg else (arg, none)
        if !isName base then
          if !extended then wrongSpecial "unset" (arg ++ ": bad variable name") 1
          else if c.has 'v' then wrong "unset" ("\x60" ++ arg ++ "': not a valid identifier") 1
          else if (← Sh.ask fun s => (s.functions.lookup arg).isSome) then forgetFunction arg
          else return 0
        else
          let name ← if c.has 'n' then pure base else Sh.resolved base
          let (name, key) := if key.isSome then (name, key) else keyed name
          let known ← Sh.parameterItself? name
          if known.any (·.constant) then
            if extended then wrong "unset" (name ++ ": cannot unset: readonly variable") 1
            else wrongSpecial "unset" (name ++ ": is read only") 1
          else match key with
            | some key =>
              match known with
              | some v =>
                if (key = "@" || key = "*") && !v.isKeyed then
                  Sh.setVariable name (some { v with items := [] })
                  return 0
                else if !v.isList && key != "0" then wrong "unset" (name ++ ": not an array variable") 1
                else
                  let k ← Expand.keyOfText name key
                  if k.startsWith "-" && !v.isKeyed then
                    wrong "unset" ("[" ++ key ++ "]: bad array subscript") 1
                  else
                    Sh.setVariable name (some { v with items := v.items.filter (·.1 != k) })
                    return 0
              | none => return 0
            | none =>
              if known.isNone && extended && !c.has 'v' && !c.has 'n' &&
                  (← Sh.ask fun s => (s.functions.lookup name).isSome) then
                forgetFunction name
              else
                forget name
                return 0

/-- Calculates formulas. -/
def let' : Builtin := fun _ args => do
  if args.isEmpty then wrong "let" "expression expected" 1
  else
    let rec go (last : Int64) : List String → Sh Nat
      | [] => return if last = 0 then 1 else 0
      | a :: rest => do
        match ← Formula.evaluate a with
        | .ok n => go n rest
        | .error f => wrong "let" (Formula.complaint true a f) 1
    go 1 args

end Retrace.Unix.Builtin
