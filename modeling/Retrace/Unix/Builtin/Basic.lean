import Retrace.Unix.Condition
import Retrace.Unix.Format
import Retrace.Unix.Mode
import Retrace.Unix.Printing

/-!
# How commands of the shell are called

The commands that are no programs of their own get an engine and their
arguments, of which the first ones may be options. Their complaints name the
command; a mistake in a *special* one gives up the script in the other dialect.
-/

namespace Retrace.Unix

/-- What a command of the shell does with its arguments. The result is the status. -/
abbrev Builtin := Engine → List String → Sh Nat

namespace Builtin

/-- Complains in the name of a command. -/
def wrong (name message : String) (status : Nat) : Sh Nat := do
  Sh.complain (name ++ ": " ++ message)
  return status

/-- Complains in the name of a special command. -/
def wrongSpecial (name message : String) (status : Nat) : Sh Nat := do
  Sh.complain (name ++ ": " ++ message)
  if ← Sh.isExtended then return status else Sh.stop (.exit 2)

/-- Says how a command is used. -/
def usage (name form : String) : Sh Nat := do
  Sh.report (name ++ ": usage: " ++ form)
  return 2

/-- Complains about an option, and says how a command is used. -/
def misused (name option form : String) (special : Bool) : Sh Nat := do
  if ← Sh.isExtended then
    Sh.complain (name ++ ": " ++ option ++ ": invalid option")
    usage name form
  else
    Sh.complain (name ++ ": Illegal option " ++ option)
    if special then Sh.stop (.exit 2) else return 2

/-- The number in an argument. -/
def number? (s : String) : Option Int :=
  let t := s.trimAscii.toString
  if t.toList.contains '_' then none
  else if t.startsWith "+" then (t.drop 1).toString.toInt? else t.toInt?

/-- What a command was called with: its options with their values, and what is left. -/
structure Called where
  given : List (Char × String)
  rest : List String

namespace Called

/-- Whether an option was given. -/
def has (c : Called) (letter : Char) : Bool :=
  c.given.any (·.1 = letter)

/-- The last value of an option. -/
def value? (c : Called) (letter : Char) : Option String :=
  (c.given.reverse.find? (·.1 = letter)).map (·.2)

/-- The same with more options before. -/
def after (given : List (Char × String)) (c : Called) : Called :=
  { c with given := given ++ c.given }

end Called

/-- What can be wrong with options. -/
inductive Misuse where
  | unknown (letter : Char)
  | incomplete (letter : Char)

/-- The options in the letters of an argument. The last one may want a value. -/
def letters (plain valued : String) : List Char → Except Misuse (List (Char × String) × Option Char)
  | [] => .ok ([], none)
  | c :: cs =>
    if valued.toList.contains c then
      if cs.isEmpty then .ok ([], some c) else .ok ([(c, String.ofList cs)], none)
    else if plain.toList.contains c then
      (letters plain valued cs).map fun (given, wanting) => ((c, "") :: given, wanting)
    else .error (.unknown c)

/-- Reads the options among some arguments. -/
def called (plain valued : String) : List String → Except Misuse Called
  | [] => .ok ⟨[], []⟩
  | "--" :: args => .ok ⟨[], args⟩
  | arg :: args =>
    match arg.toList with
    | '-' :: c :: cs =>
      match letters plain valued (c :: cs) with
      | .error m => .error m
      | .ok (given, none) => (called plain valued args).map (·.after given)
      | .ok (given, some d) =>
        match args with
        | v :: args => (called plain valued args).map (·.after (given ++ [(d, v)]))
        | [] => .error (.incomplete d)
    | _ => .ok ⟨[], arg :: args⟩

/-- A command that has options. -/
def withOptions (name form plain valued : String) (special : Bool) (args : List String)
    (f : Called → Sh Nat) : Sh Nat :=
  match called plain valued args with
  | .ok c => f c
  | .error (.unknown letter) => misused name ("-" ++ String.singleton letter) form special
  | .error (.incomplete letter) => do
    if ← Sh.isExtended then
      Sh.complain (name ++ ": -" ++ String.singleton letter ++ ": option requires an argument")
      usage name form
    else wrong name ("No arg for -" ++ String.singleton letter ++ " option") 2

/-- A name, and the value after an equals sign; and whether it is added. -/
def definition (arg : String) : String × Option String × Bool :=
  match arg.splitOn "=" with
  | [name] => (name, none, false)
  | name :: rest =>
    let value := some ("=".intercalate rest)
    if name.endsWith "+" then ((name.dropEnd 1).toString, value, true) else (name, value, false)
  | [] => (arg, none, false)

/-- A name, and the key between brackets after it. -/
def keyed (name : String) : String × Option String :=
  let base := (name.takeWhile (· != '[')).toString
  if base.length < name.length && name.endsWith "]" then
    (base, some ((name.drop (base.length + 1)).dropEnd 1).toString)
  else (name, none)

/-- Gives a value to what a text names: a parameter, or an item of one. -/
def assignTo (name value : String) : Sh Unit := do
  let (base, key) := keyed name
  let value ← if (← Sh.parameter? base).any (·.numeric) then do
      pure (toString (← Formula.value value).toInt)
    else pure value
  match key with
  | some key => Sh.assignItem base (← Expand.keyToAssign base key) value true
  | none => Sh.assign base value

/-- Whether a text names a parameter or an item of one. -/
def isTarget (extended : Bool) (name : String) : Bool :=
  match keyed name with
  | (base, some key) => extended && isName base && key != ""
  | (base, none) => isName base

/-- Changes what is known of a parameter. -/
def alter (name : String) (f : Variable → Variable) : Sh Unit := do
  Sh.setVariable name (some (f ((← Sh.parameterItself? name).getD .unset)))

/-- The parameters in the order of their names. -/
def sortedParameters : Sh (List (String × Variable)) :=
  Sh.ask fun s => s.parameters.mergeSort fun a b => a.1 ≤ b.1

/-- Prints a line. -/
def line (s : String) : Sh Unit :=
  Sh.print (s ++ "\n")

end Builtin

end Retrace.Unix
