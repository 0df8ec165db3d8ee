import Retrace.Unix.Utility.Records.Evaluation

/-!
# Going through records

What follows a script for the records of some files. The rules for the beginning
come first; the records are read if there are other rules, which are followed for
each of them; the rules for the end come last. Leaving goes to the rules for the
end, or out of them.
-/

namespace Retrace.Unix.Utility

namespace Records

open RecordScript

/-! ### Rules -/

/-- How deep expressions and statements may be in one another, and how often something may be repeated. -/
def mostSteps : Nat := 100000000

/-- Does what a rule says. -/
def act (c : Setting) (r : Rule) : Recorder Unit := do
  match r.action with
  | some body =>
    let _ ← runAll c mostSteps body
  | none =>
    let ending ← textOf (← global "ORS")
    modify fun s => { s with printed := (s.record ++ ending) :: s.printed }

/-- Whether a rule is for the record. The rule has a number. -/
def applies (c : Setting) (number : Nat) (r : Rule) : Recorder Bool := do
  match r.pattern with
  | .first => return false
  | .last => return false
  | .always => return true
  | .fits e => return (← eval c mostSteps e).holds
  | .range start stop =>
    if (← get).ranges.contains number then
      if (← eval c mostSteps stop).holds then modify fun s => { s with ranges := s.ranges.erase number }
      return true
    else if (← eval c mostSteps start).holds then
      if !(← eval c mostSteps stop).holds then modify fun s => { s with ranges := number :: s.ranges }
      return true
    else return false

/-- Does what those of some rules say that are for the record. -/
def actAll (c : Setting) : List (Rule × Nat) → Recorder Unit
  | [] => return
  | (r, number) :: rules => do
    if ← applies c number r then act c r
    actAll c rules

/-- Goes through the records. -/
def goThrough (c : Setting) (rules : List (Rule × Nat)) : (fuel : Nat) → Recorder Unit
  | 0 => return
  | n + 1 => do
    match ← nextRecord mostFiles with
    | none => return
    | some record =>
      setRecord record
      let ending : Option Halt ← fun s => do
        match ← (actAll c rules).run s with
        | (.ok (), s) => return (.ok none, s)
        | (.error h, s) => return (.ok (some h), { s with locals := [] })
      match ending with
      | none => goThrough c rules n
      | some .next => goThrough c rules n
      | some .nextFile =>
        modify fun s => { s with source := none }
        goThrough c rules n
      | some h => halt h

/-- Whether a rule is for the beginning or the end. -/
def isAside (r : Rule) : Bool :=
  match r.pattern with
  | .first => true
  | .last => true
  | _ => false

/-- Follows a script: the status. -/
def follow (c : Setting) (script : RecordScript) : StateT Work Sh Nat := do
  let beginning : Recorder Unit := do
    for r in script.rules do
      if r.pattern matches .first then act c r
    if script.rules.any fun r => !(r.pattern matches .first) then
      goThrough c (script.rules.zipIdx.filter fun r => !isAside r.1) mostSteps
  let ending : Recorder Unit := do
    for r in script.rules do
      if r.pattern matches .last then act c r
  let complain (m : String) : StateT Work Sh Nat := do
    StateT.lift (Sh.report ("awk: " ++ m))
    return 2
  let last (former : Nat) : StateT Work Sh Nat := do
    modify fun s => { s with locals := [] }
    match ← ending.run with
    | .error (.fault m) => complain m
    | .error (.exit (some n)) => return n
    | _ => return former
  match ← beginning.run with
  | .error (.fault m) => complain m
  | .error (.exit n) => last (n.getD 0)
  | _ => last 0

/-! ### Calling -/

/-- What is said about how the utility is called. -/
def usage : String := String.intercalate "\n" [
  "Usage: mawk [Options] [Program] [file ...]",
  "",
  "Program:",
  "    The -f option value is the name of a file containing program text.",
  "    If no -f option is given, a \"--\" ends option processing; the following",
  "    parameters are the program text.",
  "",
  "Options:",
  "    -f program-file  Program  text is read from file instead of from the",
  "                     command-line.  Multiple -f options are accepted.",
  "    -F value         sets the field separator, FS, to value.",
  "    -v var=value     assigns value to program variable var.",
  "    --               unambiguous end of options.",
  "",
  "    Implementation-specific options are prefixed with \"-W\".  They can be",
  "    abbreviated:",
  "",
  "    -W version       show version information and exit.",
  "    -W compat        pre-POSIX 2001.",
  "    -W dump          show assembler-like listing of program and exit.",
  "    -W help          show this message and exit.",
  "    -W interactive   set unbuffered output, line-buffered input.",
  "    -W exec file     use file as program as well as last option.",
  "    -W posix         stricter POSIX checking.",
  "    -W random=number set initial random seed.",
  "    -W sprintf=number adjust size of sprintf buffer.",
  "    -W usage         show this message and exit.",
  ""]

/-- What the utility is called with. -/
structure Call where
  separator : Option String
  assignments : List String
  files : List String
  operands : List String

/-- What the arguments say, or what is to be said and the status. -/
def callOf : (fuel : Nat) → Call → List String → Except (Bool × String × Nat) Call
  | 0, c, _ => .ok c
  | _, c, [] => .ok c
  | n + 1, c, arg :: args =>
    let special (w : String) (args : List String) : Except (Bool × String × Nat) Call :=
      let w := (w.takeWhile (· != '=')).toString
      let short (word : String) : Bool := w != "" && word.startsWith w
      if short "version" then .error (true, "mawk 1.3.4 20240123\n", 0)
      else if short "help" || short "usage" then .error (true, usage, 0)
      else callOf n c args
    match arg.toList with
    | ['-', '-'] => .ok { c with operands := args }
    | '-' :: '-' :: cs => special (String.ofList cs) args
    | '-' :: o :: cs =>
      let value : Option (String × List String) :=
        if !cs.isEmpty then some (String.ofList cs, args)
        else match args with
          | a :: args => some (a, args)
          | [] => none
      if !("vFfW".toList.contains o) then .error (false, "awk: not an option: " ++ arg ++ "\n", 2)
      else match value with
        | none => .error (false, "awk: option -" ++ String.singleton o ++ " lacks argument\n", 2)
        | some (v, args) =>
          match o with
          | 'v' => callOf n { c with assignments := c.assignments ++ [v] } args
          | 'F' => callOf n { c with separator := some v } args
          | 'f' => callOf n { c with files := c.files ++ [v] } args
          | _ => special v args
    | _ => .ok { c with operands := arg :: args }

/-- Reads the texts of a script. -/
def scriptTexts : List String → Sh (Except String String)
  | [] => return .ok ""
  | path :: paths => do
    match ← Sh.contents path with
    | .error r => return .error ("cannot open \"" ++ path ++ "\" (" ++ r.reason ++ ")")
    | .ok text =>
      match ← scriptTexts paths with
      | .ok more => return .ok (text ++ "\n" ++ more)
      | .error m => return .error m

/-- What is known before a script begins. -/
def beginning (operands : List String) : Sh Work := do
  let known ← Sh.ask fun s => s.parameters.filterMap fun (n, v) =>
    if v.exported then (v.items.lookup "0").map fun t => (n, RecordValue.input t) else none
  let environment := known.foldl (fun (t : RecordTable) (n, v) => t.put (.text n) v) .empty
  let arguments := (("awk" :: operands).zipIdx).foldl (fun (t : RecordTable) ((a, i) : String × Nat) =>
    t.put (.number i) (.input a)) .empty
  let texts : List (String × String) := [("FS", " "), ("OFS", " "), ("ORS", "\n"), ("RS", "\n"), ("SUBSEP", "\x1c"),
    ("CONVFMT", "%.6g"), ("OFMT", "%.6g")]
  let numbers : List (String × Nat) := [("NR", 0), ("FNR", 0), ("ARGC", operands.length + 1)]
  let values : List (String × Binding) := texts.map (fun (n, s) => (n, .value (.text s))) ++
    numbers.map (fun (n, k) => (n, .value (counted k))) ++ [("ENVIRON", .table 0), ("ARGV", .table 1)]
  let now ← Sh.ask (·.files.now)
  let seconds := (now / 1000000000).toNat
  return {
    globals := Std.HashMap.ofList values
    locals := []
    tables := #[environment, arguments]
    record := ""
    fields := some #[]
    source := none
    operand := 1
    opened := false
    supplies := []
    printed := []
    outputs := [⟨.own, "/dev/stdout", []⟩]
    ranges := []
    expressions := ∅
    seed := counted seconds
    random := seconds % 2147483646 + 1 }

/-- Gives values to names before a script begins. What is wrong with that. -/
def assignAll (separator : Option String) : List String → Recorder (Option String)
  | [] => do
    match separator with
    | none => return none
    | some s =>
      let s := String.ofList (unescaped (s.length + 1) s.toList)
      define "FS" (.value (.input s))
      match regularOf s with
      | .error m => return if 1 < s.length then some ("line 0: " ++ m) else none
      | .ok _ => return none
  | a :: more => do
    if ← assignOperand a then assignAll separator more
    else return some ("improper assignment: -v " ++ a)

end Records

/-- Follows a script for records. -/
def awk : Utility := fun e _ args => do
  match Records.callOf (args.length + 1) ⟨none, [], [], []⟩ args with
  | .error (true, text, status) =>
    Sh.print text
    return status
  | .error (false, text, status) =>
    Sh.printError text
    return status
  | .ok c =>
    let given : Option (Sh (Except String String) × List String) := match c.files, c.operands with
      | [], script :: operands => some (pure (.ok script), operands)
      | [], [] => none
      | files, operands => some (Records.scriptTexts files, operands)
    match given with
    | none =>
      Sh.printError Records.usage
      return 0
    | some (text, operands) =>
      match ← text with
      | .error m => fail "awk" m 2
      | .ok text =>
        match RecordScript.read text with
        | .error m =>
          let place := match c.files.getLast? with
            | some path => path ++ ": "
            | none => ""
          fail "awk" (place ++ m) 2
        | .ok script =>
          let setting : Records.Setting := ⟨e, Std.HashMap.ofList script.functions⟩
          let work ← Records.beginning operands
          let (assigned, work) ← ((Records.assignAll c.separator c.assignments).run).run work
          match assigned with
          | .ok (some m) => fail "awk" m 2
          | .error _ => return 2
          | .ok none =>
            let (status, work) ← (Records.follow setting script).run work
            let _ ← ((Records.finish e).run).run work
            match ← Sh.ask (·.refused) with
            | some r =>
              Sh.change fun s => { s with refused := none }
              fail "awk" ("close failed on file \"/dev/stdout\" (" ++ r.reason ++ ")") 2
            | none => return status

end Retrace.Unix.Utility
