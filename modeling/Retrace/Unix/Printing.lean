import Retrace.Unix.State

/-!
# Commands as they are shown

Commands written in such a way that reading that gives them again. Words are
shown as they were written. The commands of a function stand on lines of their
own, and those in loops and branches further to the right; elsewhere commands
are put on one line where that can be done.
-/

namespace Retrace.Unix

/-- What was shown so far, and how what comes next is to be shown. -/
structure Printing where
  /-- The texts that were shown, the last one first. -/
  shown : List String
  /-- How far to the right the next line begins. -/
  indentation : Nat
  /-- Whether the next command goes on with the line. -/
  goesOn : Bool
  /-- In how many functions the commands are. -/
  functions : Nat
  /-- The texts that have to follow the line. -/
  awaited : List String
  /-- Whether such texts were just shown. -/
  followed : Bool

namespace Printing

/-- The showing of a part of a command. -/
abbrev Show := StateM Printing

/-- Shows a text. -/
def put (s : String) : Show Unit :=
  if s = "" then pure () else modify fun p => { p with shown := s :: p.shown }

/-- Blanks up to where lines begin. -/
def indent : Show Unit := do
  put (String.ofList (List.replicate (← get).indentation ' '))

/-- Shows a text on a new line. -/
def newline (s : String) : Show Unit := do
  put "\n"
  indent
  put s

/-- Ends a command, if it is not ended yet. -/
def semicolon : Show Unit := do
  let ended := match (← get).shown with
    | s :: _ => s.endsWith "&" || s.endsWith "\n"
    | [] => false
  if !ended then put ";"

/-- Lets the next command go on with the line. -/
def goOn : Show Unit :=
  modify fun p => { p with goesOn := true }

/-- Shows something further to the right. -/
def inward (x : Show Unit) : Show Unit := do
  modify fun p => { p with indentation := p.indentation + 4 }
  x
  modify fun p => { p with indentation := p.indentation - 4 }

/-- Shows the texts that have to follow the line, after a text that ends the line. -/
def follow (s : String) : Show Unit := do
  let awaited := (← get).awaited
  put s
  if !awaited.isEmpty then
    put ("\n" ++ String.join awaited)
    modify fun p => { p with awaited := [], followed := true }

/-- Shows something separated by texts. -/
def separated {α : Type} (separator : String) (f : α → Show Unit) : List α → Show Unit
  | [] => pure ()
  | [x] => f x
  | x :: xs => do
    f x
    put separator
    separated separator f xs

/-- The text of a stream, which may be the usual one. -/
def stream (usual : String) : Stream → String
  | .usual => usual
  | .number n => if toString n = usual then usual else toString n
  | .named name => "\x7b" ++ name ++ "\x7d"

/-- The stream that is not shown where it is the usual one. -/
def shownStream (usual : Nat) : Stream → String
  | .usual => ""
  | .number n => if n = usual then "" else toString n
  | .named name => "\x7b" ++ name ++ "\x7d"

/-- Shows a redirecting. -/
def redirect (documents : List (Nat × Spelled)) : Redirect → Show Unit
  | .mk _ s how target => do
    let file (usual : Nat) (sign : String) : Show Unit :=
      put (shownStream usual s ++ sign ++ " " ++ target.source)
    match how with
    | .input => file 0 "<"
    | .output => file 1 ">"
    | .append => file 1 ">>"
    | .inputOutput => file 1 "<>"
    | .overwrite => file 1 ">|"
    | .everything append => put ((if append then "&>> " else "&> ") ++ target.source)
    | .copy input =>
      if target.source = "-" then put (stream (if input then "0" else "1") s ++ ">&-")
      else put (stream (if input then "0" else "1") s ++ (if input then "<&" else ">&") ++ target.source)
    | .document number delimiter =>
      let body := ((documents.lookup number).map (·.source)).getD ""
      put (shownStream 0 s ++ "<<" ++ target.source)
      modify fun p => { p with awaited := p.awaited ++ [body ++ delimiter ++ "\n"] }
    | .word => file 0 "<<<"

/-- The text of an assignment. -/
def assignment : Assignment → String
  | .mk name key added value =>
    name ++ (match key with
      | some k => "[" ++ k.source ++ "]"
      | none => "") ++ (if added then "+=" else "=") ++ (match value with
      | .word w => w.source
      | .list source _ => source)

/-- The text of an argument. -/
def argument : Argument → String
  | .word w => w.source
  | .list a => assignment a

/-- Shows a condition. -/
def condition : Condition → Show Unit
  | .word w => put w.source
  | .unary op w => put (op ++ " " ++ w.source)
  | .binary op a b => put (a.source ++ " " ++ op ++ " " ++ b.source)
  | .not c => do
    put "! "
    condition c
  | .and a b => do
    condition a
    put " && "
    condition b
  | .or a b => do
    condition a
    put " || "
    condition b
  | .group c => do
    put "( "
    condition c
    put " )"

/-- What follows a clause of a choice. -/
def ending : Next → String
  | .done => ";;"
  | .through => ";&"
  | .again => ";;&"

mutual

/-- Shows a command that is nested at most as deeply as given. -/
def command (documents : List (Nat × Spelled)) : (depth : Nat) → Command → Show Unit
  | 0, _ => pure ()
  | n + 1, c => do
    if (← get).goesOn then modify fun p => { p with goesOn := false } else indent
    match c with
    | .simple _ assignments arguments redirects =>
      put (" ".intercalate (assignments.map assignment ++ arguments.map argument))
      if !redirects.isEmpty then
        if !(assignments.isEmpty && arguments.isEmpty) then put " "
        separated " " (redirect documents) redirects
    | .pipeline negated stages =>
      if negated then
        put "! "
      goOn
      chained documents n stages
    | .timed portable c =>
      put (if portable then "time -p " else "time ")
      goOn
      command documents n c
    | .both a b =>
      goOn
      command documents n a
      follow " && "
      goOn
      command documents n b
      follow ""
    | .either a b =>
      goOn
      command documents n a
      follow " || "
      goOn
      command documents n b
      follow ""
    | .background c =>
      goOn
      command documents n c
      follow " &"
    | .group body =>
      put "\x7b "
      if 0 < (← get).functions then
        put "\n"
        inward (list documents n body)
        follow ""
        put "\n"
        indent
      else
        goOn
        list documents n body
        follow ""
        semicolon
        put " "
      put "\x7d"
    | .subshell body =>
      put "( "
      goOn
      list documents n body
      follow ""
      put " )"
    | .branch as otherwise => branches documents n as otherwise
    | .loop wanted test body =>
      put (if wanted then "while " else "until ")
      goOn
      list documents n test
      follow ""
      semicolon
      put " do\n"
      inward (list documents n body)
      follow ""
      semicolon
      newline "done"
    | .each _ asking name words body =>
      put ((if asking then "select " else "for ") ++ name ++ " in " ++ (match words with
        | some ws => " ".intercalate (ws.map (·.source))
        | none => "\"$@\"") ++ ";")
      newline "do\n"
      inward (list documents n body)
      follow ""
      semicolon
      newline "done"
    | .counted _ start test step body =>
      put ("for ((" ++ start.source ++ "; " ++ test.source ++ "; " ++ step.source ++ "))")
      newline "do\n"
      inward (list documents n body)
      follow ""
      semicolon
      newline "done"
    | .choose _ subject clauses =>
      put ("case " ++ subject.source ++ " in ")
      inward (clauses.forM fun
        | .mk patterns body next => do
          newline ""
          put (" | ".intercalate (patterns.map (·.source)) ++ ")\n")
          inward (list documents n body)
          follow ""
          newline (ending next))
      newline "esac"
    | .define _ name body =>
      put ("function " ++ name ++ " () \n")
      indent
      definition documents n body
    | .redirected c redirects =>
      goOn
      command documents n c
      put " "
      separated " " (redirect documents) redirects
    | .calculate _ formula => put ("((" ++ formula.source ++ "))")
    | .test _ c =>
      put "[[ "
      condition c
      put " ]]"
    | .beside name c =>
      put ("coproc " ++ name ++ " ")
      goOn
      command documents n c

/-- Shows commands one after the other. -/
def list (documents : List (Nat × Spelled)) : (depth : Nat) → List Command → Show Unit
  | 0, _ => pure ()
  | _, [] => modify fun p => { p with goesOn := false }
  | n + 1, [c] => command documents n c
  | n + 1, c :: cs => do
    command documents n c
    match c with
    | .background _ =>
      put " "
      goOn
    | _ =>
      if (← get).awaited.isEmpty then
        if (← get).followed then modify fun p => { p with followed := false } else put ";"
      else
        follow (if 0 < (← get).functions then "" else ";")
        modify fun p => { p with followed := false }
      if 0 < (← get).functions then
        let endsLine := match (← get).shown with
          | s :: _ => s.endsWith "\n"
          | [] => false
        if !endsLine then put "\n"
      else
        put " "
        goOn
    list documents n cs

/-- Shows commands whose streams are chained. -/
def chained (documents : List (Nat × Spelled)) : (depth : Nat) → List Command → Show Unit
  | 0, _ => pure ()
  | _, [] => pure ()
  | n + 1, [c] => command documents n c
  | n + 1, c :: cs => do
    command documents n c
    follow " |"
    put " "
    goOn
    chained documents n cs

/-- Shows the arms of a branch. -/
def branches (documents : List (Nat × Spelled)) : (depth : Nat) → List (List Command × List Command) →
    List Command → Show Unit
  | 0, _, _ => pure ()
  | _, [], _ => pure ()
  | n + 1, (test, body) :: more, otherwise => do
    put "if "
    goOn
    list documents n test
    follow ""
    semicolon
    put " then\n"
    inward (list documents n body)
    follow ""
    if !(more.isEmpty && otherwise.isEmpty) then
      semicolon
      newline "else\n"
      inward do
        if more.isEmpty then list documents n otherwise
        else
          indent
          branches documents n more otherwise
      follow ""
    semicolon
    newline "fi"

/-- Shows the body of a function. -/
def definition (documents : List (Nat × Spelled)) : (depth : Nat) → Command → Show Unit
  | 0, _ => pure ()
  | n + 1, body => do
    put "\x7b \n"
    let (commands, redirects) : List Command × List Redirect := match body with
      | .group cs => (cs, [])
      | .redirected (.group cs) rs => (cs, rs)
      | c => ([c], [])
    modify fun p => { p with functions := p.functions + 1 }
    inward (list documents n commands)
    follow ""
    modify fun p => { p with functions := p.functions - 1 }
    if redirects.isEmpty then newline "\x7d"
    else
      newline "\x7d "
      separated " " (redirect documents) redirects

end

/-- How deeply commands that are shown may be nested. -/
def deepest : Nat := 10000

/-- What showing something gives. -/
def text (x : Show Unit) : String :=
  String.join (x.run ⟨[], 0, false, 0, [], false⟩).2.shown.reverse

/-- A function as it is shown. -/
def function (documents : List (Nat × Spelled)) (name : String) (body : Command) : String :=
  text do
    put (name ++ " () \n")
    definition documents deepest body

/-- A command as it is shown on one line, as far as that can be done. -/
def line (documents : List (Nat × Spelled)) (c : Command) : String :=
  text (command documents deepest c)

/-- The beginning of a command, up to the commands in it. -/
def heading (documents : List (Nat × Spelled)) (c : Command) : String :=
  match c with
  | .each _ asking name words _ =>
    (if asking then "select " else "for ") ++ name ++ (match words with
      | some ws => " in " ++ " ".intercalate (ws.map (·.source))
      | none => " in \"$@\"")
  | .choose _ subject _ => "case " ++ subject.source ++ " in "
  | c => line documents c

end Printing

end Retrace.Unix
