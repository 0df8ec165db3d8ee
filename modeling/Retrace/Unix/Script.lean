/-!
# Scripts

The language of shell commands, as trees.

A *word* is made of parts, some of which are only known when the word is
expanded: the value of a parameter, the output of commands, the value of a
formula. Of every part it is known whether it was quoted, as that decides
whether its value is split into fields and what a wildcard in it means. Where a
command can be shown again, its words are kept as they were written too.

A *command* is a simple one, made of words, or is put together from others. A
here-document is read after the line it is named in, so commands refer to it by
a number.
-/

namespace Retrace.Unix

/-- Something beside the text it was read from. -/
structure Written (α : Type) where
  source : String
  meaning : α

/-- What becomes of a parameter that has no value. -/
inductive Fallback where
  /-- The word stands for it. -/
  | instead
  /-- The word is given to it. -/
  | assign
  /-- The word is a complaint. -/
  | complain
  /-- The word stands for it if it does have a value. -/
  | ifSet

/-- Which occurrences of a pattern are replaced. -/
inductive Occurrence where
  | first | all | atStart | atEnd

/-- How letters are changed. -/
inductive Recasing where
  | upper | lower | toggle

mutual

/-- A part of a word. -/
inductive Part where
  | text (s : String) (quoted : Bool)
  | parameter (name : String) (selector : Selector) (use : Use) (quoted : Bool)
  /-- What the commands print. -/
  | output (body : List Command) (quoted : Bool)
  /-- The value of a formula. -/
  | formula (text : List Part) (quoted : Bool)
  /-- The path of what the commands print, or of what they are to be given. -/
  | process (printing : Bool) (body : List Command)

/-- Which of the values of a parameter is meant. -/
inductive Selector where
  | whole
  /-- All of them, each on its own. -/
  | each
  /-- All of them in one. -/
  | joined
  | item (key : List Part)

/-- What is made of the value of a parameter. -/
inductive Use where
  | value
  /-- Its length, or how many values there are. -/
  | size
  /-- The keys of its values. -/
  | keys
  /-- The names of the parameters that begin with its name. -/
  | names
  /-- A use of the parameter it names. -/
  | named (use : Use)
  /-- Something for want of a value; an empty one counts as none if `orEmpty`. -/
  | fallback (kind : Fallback) (orEmpty : Bool) (word : List Part)
  /-- What is left without the shortest or longest match at one of its ends. -/
  | trim (atEnd longest : Bool) (pattern : List Part)
  | slice (start : List Part) (count : Option (List Part))
  | replace (which : Occurrence) (pattern word : List Part)
  /-- The letters changed that match a pattern. -/
  | recase (how : Recasing) (all : Bool) (pattern : List Part)
  /-- Shown in some way, which a letter says. -/
  | shown (letter : Char)
  /-- Something that has no meaning, as it was written. -/
  | invalid (source : String)

/-- Where a stream is redirected. -/
inductive Redirection where
  | input | output | append | inputOutput
  /-- To a file, which is overwritten in any case. -/
  | overwrite
  /-- Both the output and the errors. -/
  | everything (append : Bool)
  /-- To where another stream leads, or to nowhere. -/
  | copy (input : Bool)
  /-- From the here-document of a number. -/
  | document (number : Nat) (delimiter : String)
  /-- From the word itself. -/
  | word

/-- Which stream is redirected. -/
inductive Stream where
  | usual
  | number (n : Nat)
  /-- A new one, whose number becomes the value of a parameter. -/
  | named (parameter : String)

/-- The redirecting of a stream. -/
inductive Redirect where
  | mk (line : Nat) (stream : Stream) (how : Redirection) (target : Written (List Part))

/-- The value given by an assignment. -/
inductive Assigned where
  | word (w : Written (List Part))
  | list (source : String) (items : List (Option (List Part) × List Part))

/-- An assignment to a parameter, or to the item of a key. -/
inductive Assignment where
  | mk (name : String) (key : Option (Written (List Part))) (added : Bool) (value : Assigned)

/-- What a simple command is called with. -/
inductive Argument where
  | word (w : Written (List Part))
  /-- A name that is declared, with the list that is given to it. -/
  | list (a : Assignment)

/-- What is tested between double brackets. -/
inductive Condition where
  | word (w : Written (List Part))
  | unary (op : String) (w : Written (List Part))
  | binary (op : String) (left right : Written (List Part))
  | not (c : Condition)
  | and (a b : Condition)
  | or (a b : Condition)
  /-- A condition between parentheses. -/
  | group (c : Condition)

/-- Commands. -/
inductive Command where
  | simple (line : Nat) (assignments : List Assignment) (arguments : List Argument)
      (redirects : List Redirect)
  /-- Commands whose streams are chained. -/
  | pipeline (negated : Bool) (stages : List Command)
  /-- A command whose time is taken. -/
  | timed (portable : Bool) (c : Command)
  | both (first second : Command)
  | either (first second : Command)
  | background (c : Command)
  | group (body : List Command)
  | subshell (body : List Command)
  | branch (arms : List (List Command × List Command)) (otherwise : List Command)
  /-- A loop, gone through as long as its condition succeeds, or fails. -/
  | loop (wanted : Bool) (condition body : List Command)
  /-- A loop over words, or over the positional parameters. With `asking` one of them is asked
      for in each round. -/
  | each (line : Nat) (asking : Bool) (name : String) (words : Option (List (Written (List Part))))
      (body : List Command)
  /-- A loop controlled by formulas. -/
  | counted (line : Nat) (start condition step : Written (List Part)) (body : List Command)
  | choose (line : Nat) (subject : Written (List Part)) (clauses : List Clause)
  | define (line : Nat) (name : String) (body : Command)
  | redirected (c : Command) (redirects : List Redirect)
  | calculate (line : Nat) (formula : Written (List Part))
  | test (line : Nat) (condition : Condition)
  /-- A command that runs beside the shell, with streams to and from it. -/
  | beside (name : String) (c : Command)

/-- A clause of a choice: its patterns, its body, and what comes after it. -/
inductive Clause where
  | mk (patterns : List (Written (List Part))) (body : List Command) (next : Next)

/-- What comes after a clause that was chosen. -/
inductive Next where
  | done
  /-- The body of the next clause. -/
  | through
  /-- The patterns of the next clause. -/
  | again

end

/-- What a word is made of. -/
abbrev Word := List Part

/-- A word beside the text it was read from. -/
abbrev Spelled := Written Word

/-- A word that stands for a text as it is. -/
def Spelled.plain (s : String) : Spelled := ⟨s, [.text s false]⟩

instance : Inhabited Command := ⟨.group []⟩

end Retrace.Unix
