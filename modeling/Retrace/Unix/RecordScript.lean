import Retrace.Unix.Regular

/-!
# Scripts for records

A script says what is done with the records of some files: it has *rules*, each
of which has a pattern and an action, and functions. A rule is followed for each
record that its pattern fits; there are also rules for the beginning and the end.
-/

namespace Retrace.Unix

namespace RecordScript

/-! ### Scripts -/

/-- What is calculated of two numbers. -/
inductive Calculation where
  | add | sub | mul | div | mod | pow
  deriving DecidableEq

/-- How two values are compared. -/
inductive Comparison where
  | less | atMost | equal | unequal | more | atLeast
  deriving DecidableEq

/-- Where a line comes from. -/
inductive Origin where
  /-- The records that the script is for. -/
  | records
  /-- A file. -/
  | file
  /-- What a command prints. -/
  | command

/-- Where something is printed to. -/
inductive Target where
  | file | append | command
  deriving DecidableEq

mutual

/-- What has a value that can be changed. -/
inductive Place where
  | named (name : String)
  | field (number : Expr)
  | item (array : String) (subscripts : List Expr)

/-- What has a value. -/
inductive Expr where
  | number (x : Float)
  | text (s : String)
  /-- Whether an expression matches the record. -/
  | regular (r : Regular)
  | place (p : Place)
  | assign (p : Place) (c : Option Calculation) (e : Expr)
  /-- One more or less, before or after the value is taken. -/
  | step (p : Place) (up first : Bool)
  | calculate (c : Calculation) (a b : Expr)
  | compare (c : Comparison) (a b : Expr)
  | matching (negated : Bool) (e r : Expr)
  | join (a b : Expr)
  | both (a b : Expr)
  | either (a b : Expr)
  | not (e : Expr)
  | minus (e : Expr)
  | plus (e : Expr)
  | choose (c a b : Expr)
  | within (subscripts : List Expr) (array : String)
  /-- A function that the script has. -/
  | call (name : String) (args : List Expr)
  /-- A function that all scripts have. -/
  | apply (name : String) (args : List Expr)
  | getLine (origin : Origin) (source : Option Expr) (into : Option Place)
  /-- What stands between parentheses. -/
  | grouped (e : Expr)

end

/-- What is done. -/
inductive Statement where
  | evaluate (e : Expr)
  | print (formatted : Bool) (args : List Expr) (target : Option (Target × Expr))
  | choose (c : Expr) (a b : List Statement)
  | repeated (c : Expr) (body : List Statement)
  /-- What is done at least once. -/
  | once (body : List Statement) (c : Expr)
  | loop (start : List Statement) (c : Option Expr) (step body : List Statement)
  | each (name array : String) (body : List Statement)
  | delete (array : String) (subscripts : Option (List Expr))
  | next
  | nextFile
  | exit (e : Option Expr)
  | giveBack (e : Option Expr)
  | leave
  | goOn

/-- The records that a rule is for. -/
inductive Pattern where
  | first
  | last
  | always
  | fits (e : Expr)
  /-- From a record that fits up to one that fits. -/
  | range (start stop : Expr)

/-- What is done with records. -/
structure Rule where
  pattern : Pattern
  /-- Nothing means that the record is printed. -/
  action : Option (List Statement)

/-- A function. -/
structure Function where
  parameters : List String
  body : List Statement

end RecordScript

/-- What is done with records. -/
structure RecordScript where
  rules : List RecordScript.Rule
  functions : List (String × RecordScript.Function)

end Retrace.Unix
