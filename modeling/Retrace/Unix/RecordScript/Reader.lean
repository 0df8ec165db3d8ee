import Retrace.Unix.RecordScript
import Retrace.Unix.RecordScript.Token

/-!
# Reading scripts for records

A script is read from its tokens: rules and functions, statements in them, and
values in these. Values are joined by signs that bind more or less tightly, those
that stand next to each other by being joined as texts.
-/

namespace Retrace.Unix

namespace RecordScript

/-! ### What is being read -/

/-- How a name is used, and in which line. -/
structure Use where
  /-- The function whose own name it is, or nothing. -/
  owner : String
  name : String
  array : Bool
  line : Nat

/-- What is left of a script, and where it is. -/
structure Reading where
  rest : List (Token × Nat)
  /-- A greater-than sign would say where something is printed to. -/
  prints : Bool
  inLoop : Bool
  inFunction : Bool
  /-- The rule is for the beginning or the end. -/
  aside : Bool
  /-- The functions that are called, with the lines. -/
  called : List (String × Nat × Nat)
  /-- How names are used, the last use first. -/
  uses : List Use

/-- The reading of a script. What is wrong is told in words. -/
abbrev Parse := StateT Reading (Except String)

/-- The next token. -/
def peek : Parse Token := do
  return ((← get).rest.head?.map (·.1)).getD .finish

/-- The line of the next token. -/
def lineNumber : Parse Nat := do
  return ((← get).rest.head?.map (·.2)).getD 1

/-- Passes over the next token. -/
def advance : Parse Unit :=
  modify fun r => { r with rest := r.rest.drop 1 }

/-- Says what is wrong in the present line. -/
def wrong (message : String) : Parse α := do
  throw ("line " ++ toString (← lineNumber) ++ ": " ++ message)

/-- Says that the next token is not expected. -/
def unexpected : Parse α := do
  match ← peek with
  | .finish => do
    let line ← lineNumber
    throw ("line " ++ toString (line + 1) ++ ": missing \x7d near end of file")
  | .sign ")" => wrong "extra ')'"
  | t => wrong ("syntax error at or near " ++ t.shown)

/-- Passes over a sign if it comes next. -/
def accept (s : String) : Parse Bool := do
  if (← peek) == .sign s then
    advance
    return true
  else return false

/-- Passes over a word if it comes next. -/
def acceptWord (s : String) : Parse Bool := do
  if (← peek) == .word s then
    advance
    return true
  else return false

/-- Passes over a sign, which has to come next. -/
def expect (s : String) : Parse Unit := do
  if !(← accept s) then unexpected

/-- Passes over the parenthesis that closes one. -/
def expectClosing : Parse Unit := do
  if !(← accept ")") then wrong ("missing ) near " ++ (← peek).shown)

/-- Keeps in mind that a name is used. -/
def use (name : String) (array : Bool) : Parse Unit := do
  let line ← lineNumber
  modify fun r => { r with uses := ⟨"", name, array, line⟩ :: r.uses }

/-- Forgets the last use of an expression, if it is but a name. -/
def disuse : Expr → Parse Unit
  | .place (.named name) => modify fun r => { r with
      uses := match r.uses.span fun u => !(u.name = name && !u.array) with
        | (later, _ :: before) => later ++ before
        | (later, []) => later }
  | _ => pure ()

/-- Passes over the ends of lines. -/
def skipLines : Parse Unit :=
  modify fun r => { r with rest := r.rest.dropWhile fun t => t.1 == .newline }

/-- Passes over the ends of lines and statements. -/
def skipEnds : Parse Unit :=
  modify fun r => { r with rest := r.rest.dropWhile fun t => t.1 == .newline || t.1 == .sign ";" }

/-- Reads with a greater-than sign that compares, or does not. -/
def printing (b : Bool) (x : Parse α) : Parse α := do
  let before := (← get).prints
  modify fun r => { r with prints := b }
  let a ← x
  modify fun r => { r with prints := before }
  return a

/-! ### Expressions for texts -/

/-- A set of characters up to the bracket that closes it, and what is left. Characters after a backslash come
    where they have no meaning. Given are the characters so far in reverse order, and those with a backslash that
    come first and last. -/
def plainSet : (fuel : Nat) → (before first last : List Char) → List Char → Option (List Char × List Char)
  | 0, _, _, _, _ => none
  | _, _, _, _, [] => none
  | n + 1, before, first, last, '\\' :: cs =>
    match escape? cs, cs with
    | some (d, rest), _ => plainSet n (d :: before) first last rest
    | none, ']' :: rest => plainSet n before [']'] last rest
    | none, '-' :: rest => plainSet n before first (last ++ ['-']) rest
    | none, '^' :: rest => plainSet n before first ('^' :: last) rest
    | none, c :: rest => plainSet n (c :: before) first last rest
    | none, [] => none
  | n + 1, before, first, last, '[' :: ':' :: cs =>
    let name := cs.takeWhile Char.isAlpha
    match cs.drop name.length with
    | ':' :: ']' :: rest => plainSet n (":]".toList.reverse ++ name.reverse ++ "[:".toList.reverse ++ before) first last rest
    | _ => plainSet n (':' :: '[' :: before) first last cs
  | n + 1, before, first, last, ']' :: cs =>
    if before.isEmpty && first.isEmpty && last.isEmpty then plainSet n before [']'] last cs
    else some (first ++ before.reverse ++ last, cs)
  | n + 1, before, first, last, c :: cs => plainSet n (c :: before) first last cs

/-- An expression in which backslashes stand before characters only that have a meaning otherwise. -/
def plainRegular : (fuel : Nat) → List Char → List Char
  | 0, cs => cs
  | _, [] => []
  | _, ['\\'] => ['\\', '\\']
  | n + 1, '\\' :: cs =>
    let literal (c : Char) : List Char :=
      if ".^$*+?()[]\x7b\x7d|\\".toList.contains c then ['\\', c] else [c]
    match escape? cs, cs with
    | some (d, rest), _ => literal d ++ plainRegular n rest
    | none, c :: rest => literal c ++ plainRegular n rest
    | none, [] => []
  | n + 1, '[' :: cs =>
    let negated := cs.head? = some '^'
    let cs := if negated then cs.drop 1 else cs
    match plainSet (cs.length + 1) [] [] [] cs with
    | some (['^'], rest) => if negated then "[^^]".toList ++ plainRegular n rest else '\\' :: '^' :: plainRegular n rest
    | some (set, rest) => (if negated then ['[', '^'] else ['[']) ++ set ++ ']' :: plainRegular n rest
    | none => '[' :: (if negated then ['^'] else []) ++ cs
  | n + 1, c :: cs => c :: plainRegular n cs

/-- Whether something is to be repeated or chosen that is not there. Given is whether nothing has come yet. -/
def lacksOperand : (fuel : Nat) → (fresh : Bool) → List Char → Bool
  | 0, _, _ => false
  | _, _, [] => false
  | _, _, ['|'] => true
  | n + 1, _, '\\' :: _ :: cs => lacksOperand n false cs
  | n + 1, _, '[' :: cs =>
    let cs := if cs.head? = some '^' then cs.drop 2 else cs.drop 1
    lacksOperand n false ((cs.dropWhile (· != ']')).drop 1)
  | n + 1, fresh, c :: cs =>
    if c = '*' || c = '+' || c = '?' || c = ')' then fresh || lacksOperand n false cs
    else if c = '|' then fresh || lacksOperand n true cs
    else lacksOperand n (c = '(') cs

/-- The expression that a text stands for. What is wrong is told in words. -/
def regularOf (s : String) : Except String Regular :=
  let cs := plainRegular (s.length + 1) s.toList
  let fault (reason : String) : String := "regular expression compile failed (" ++ reason ++ ")\n" ++ s
  if lacksOperand (cs.length + 1) true cs then .error (fault "missing operand")
  else
    match Regular.ofCharacters ⟨true, true, true, false⟩ cs with
    | .ok r => .ok r
    | .error m =>
      .error (fault (if m.startsWith "Unmatched [" || m.startsWith "Invalid character class" || m.startsWith "Invalid range"
        then "bad class -- [], [^] or ["
        else if m.startsWith "Unmatched (" then "missing ')'"
        else if m.startsWith "Invalid content" then "bad interval expression"
        else "syntax error ^* or ^+"))

/-! ### Signs -/

/-- The calculations that change a value. -/
def changing : List (String × Option Calculation) :=
  [("=", none), ("+=", some .add), ("-=", some .sub), ("*=", some .mul), ("/=", some .div), ("%=", some .mod),
    ("^=", some .pow)]

/-- The comparisons. -/
def comparisons : List (String × Comparison) :=
  [("<", .less), ("<=", .atMost), ("==", .equal), ("!=", .unequal), (">", .more), (">=", .atLeast)]

/-- Whether a token can begin a value that is joined to the one before it. -/
def beginsJoined : Token → Bool
  | .number _ => true
  | .text _ => true
  | .regular _ => true
  | .name _ => true
  | .function _ => true
  | .known _ => true
  | .sign s => s = "$" || s = "!" || s = "(" || s = "-" || s = "+" || s = "++" || s = "--"
  | _ => false

/-! ### Values -/

mutual

/-- A value, as far as the signs around it allow. -/
def expr : (fuel : Nat) → Parse Expr
  | 0 => unexpected
  | n + 1 => do
    let c ← disjunction n
    if ← accept "?" then
      skipLines
      let a ← expr n
      skipLines
      expect ":"
      skipLines
      let b ← expr n
      return .choose c a b
    else return c

/-- Alternatives. -/
def disjunction : (fuel : Nat) → Parse Expr
  | 0 => unexpected
  | n + 1 => do
    let a ← conjunction n
    if ← accept "||" then
      skipLines
      return .either a (← disjunction n)
    else return a

/-- What has to hold together. -/
def conjunction : (fuel : Nat) → Parse Expr
  | 0 => unexpected
  | n + 1 => do
    let a ← assignment n
    if ← accept "&&" then
      skipLines
      return .both a (← conjunction n)
    else return a

/-- What may be changed. -/
def assignment : (fuel : Nat) → Parse Expr
  | 0 => unexpected
  | n + 1 => do
    let a ← membership n
    match a, ← peek with
    | .place p, .sign s =>
      match changing.lookup s with
      | some calculation =>
        advance
        skipLines
        return .assign p calculation (← expr n)
      | none => return a
    | _, _ => return a

/-- Whether something is in an array. -/
def membership : (fuel : Nat) → Parse Expr
  | 0 => unexpected
  | n + 1 => do
    let a ← matches' n
    memberships n a

/-- More arrays in which something may be. -/
def memberships : (fuel : Nat) → Expr → Parse Expr
  | 0, _ => unexpected
  | n + 1, a => do
    if ← acceptWord "in" then
      match ← peek with
      | .name array =>
        use array true
        advance
        memberships n (.within [a] array)
      | _ => unexpected
    else return a

/-- Whether something matches. -/
def matches' : (fuel : Nat) → Parse Expr
  | 0 => unexpected
  | n + 1 => do
    let a ← comparison n
    matchesOn n a

/-- More expressions that something may match. -/
def matchesOn : (fuel : Nat) → Expr → Parse Expr
  | 0, _ => unexpected
  | n + 1, a => do
    if ← accept "~" then matchesOn n (.matching false a (← comparison n))
    else if ← accept "!~" then matchesOn n (.matching true a (← comparison n))
    else return a

/-- Comparisons. -/
def comparison : (fuel : Nat) → Parse Expr
  | 0 => unexpected
  | n + 1 => do
    let a ← joined n
    comparisonsOn n a

/-- More comparisons. -/
def comparisonsOn : (fuel : Nat) → Expr → Parse Expr
  | 0, _ => unexpected
  | n + 1, a => do
    match ← peek with
    | .sign s =>
      match if s = ">" && (← get).prints then none else comparisons.lookup s with
      | some c =>
        advance
        comparisonsOn n (.compare c a (← joined n))
      | none => return a
    | _ => return a

/-- Values that are joined. -/
def joined : (fuel : Nat) → Parse Expr
  | 0 => unexpected
  | n + 1 => do
    let a ← sum n
    joinedOn n a

/-- More values that are joined. -/
def joinedOn : (fuel : Nat) → Expr → Parse Expr
  | 0, _ => unexpected
  | n + 1, a => do
    let t ← peek
    if beginsJoined t then joinedOn n (.join a (← sum n))
    else return a

/-- Sums. -/
def sum : (fuel : Nat) → Parse Expr
  | 0 => unexpected
  | n + 1 => do
    let a ← product n
    sumOn n a

/-- More that is added. -/
def sumOn : (fuel : Nat) → Expr → Parse Expr
  | 0, _ => unexpected
  | n + 1, a => do
    if ← accept "+" then sumOn n (.calculate .add a (← product n))
    else if ← accept "-" then sumOn n (.calculate .sub a (← product n))
    else return a

/-- Products. -/
def product : (fuel : Nat) → Parse Expr
  | 0 => unexpected
  | n + 1 => do
    let a ← signed n
    productOn n a

/-- More factors. -/
def productOn : (fuel : Nat) → Expr → Parse Expr
  | 0, _ => unexpected
  | n + 1, a => do
    if ← accept "*" then productOn n (.calculate .mul a (← signed n))
    else if ← accept "/" then productOn n (.calculate .div a (← signed n))
    else if ← accept "%" then productOn n (.calculate .mod a (← signed n))
    else return a

/-- A value with signs before it. -/
def signed : (fuel : Nat) → Parse Expr
  | 0 => unexpected
  | n + 1 => do
    if ← accept "!" then return .not (← signed n)
    else if ← accept "-" then return .minus (← signed n)
    else if ← accept "+" then return .plus (← signed n)
    else piped n (← power n)

/-- A value that may be a command whose lines are read. -/
def piped : (fuel : Nat) → Expr → Parse Expr
  | 0, _ => unexpected
  | n + 1, a => do
    let r ← get
    match r.rest with
    | (.sign "|", _) :: (.word "getline", _) :: rest =>
      set { r with rest := rest }
      let into ← place? n
      piped n (.getLine .command (some a) into)
    | _ => return a

/-- Powers. -/
def power : (fuel : Nat) → Parse Expr
  | 0 => unexpected
  | n + 1 => do
    let a ← stepped n
    if ← accept "^" then
      if ← accept "-" then return .calculate .pow a (.minus (← power n))
      else if ← accept "+" then return .calculate .pow a (.plus (← power n))
      else if ← accept "!" then return .calculate .pow a (.not (← power n))
      else return .calculate .pow a (← power n)
    else return a

/-- A value that may be changed by one. -/
def stepped : (fuel : Nat) → Parse Expr
  | 0 => unexpected
  | n + 1 => do
    if ← accept "++" then
      match ← place? n with
      | some p => return .step p true true
      | none => unexpected
    else if ← accept "--" then
      match ← place? n with
      | some p => return .step p false true
      | none => unexpected
    else
      let a ← basic n
      match a with
      | .place p =>
        if ← accept "++" then return .step p true false
        else if ← accept "--" then return .step p false false
        else return a
      | a => return a

/-- What has a value that can be changed, if that comes next. -/
def place? : (fuel : Nat) → Parse (Option Place)
  | 0 => return none
  | n + 1 => do
    match ← peek with
    | .sign "$" =>
      advance
      return some (.field (← fieldNumber n))
    | .name s =>
      let array := ((← get).rest[1]?).any fun t => t.1 == .sign "["
      use s array
      advance
      if ← accept "[" then return some (.item s (← subscripts n)) else return some (.named s)
    | _ => return none

/-- The number of a field. -/
def fieldNumber : (fuel : Nat) → Parse Expr
  | 0 => unexpected
  | n + 1 => do
    if ← accept "-" then return .minus (← fieldNumber n)
    else if ← accept "++" then
      match ← place? n with
      | some p => return .step p true true
      | none => unexpected
    else if ← accept "--" then
      match ← place? n with
      | some p => return .step p false true
      | none => unexpected
    else basic n

/-- Subscripts up to the bracket that closes them. -/
def subscripts : (fuel : Nat) → Parse (List Expr)
  | 0 => unexpected
  | n + 1 => do
    let es ← printing false (exprs n)
    expect "]"
    return es

/-- Values with commas between them. -/
def exprs : (fuel : Nat) → Parse (List Expr)
  | 0 => unexpected
  | n + 1 => do
    let a ← expr n
    if ← accept "," then
      skipLines
      return a :: (← exprs n)
    else return [a]

/-- The arguments of a function up to the parenthesis that closes them. -/
def arguments : (fuel : Nat) → Parse (List Expr)
  | 0 => unexpected
  | n + 1 => do
    skipLines
    if ← accept ")" then return []
    else
      if (← peek) == .sign "\x7d" then expectClosing
      let es ← printing false (exprs n)
      skipLines
      expectClosing
      return es

/-- A value without signs around it. -/
def basic : (fuel : Nat) → Parse Expr
  | 0 => unexpected
  | n + 1 => do
    match ← peek with
    | .number x =>
      advance
      return .number x
    | .text s =>
      advance
      return .text s
    | .regular s =>
      match regularOf s with
      | .ok r =>
        advance
        return .regular r
      | .error m => wrong m
    | .function s =>
      let line ← lineNumber
      advance
      expect "("
      let args ← arguments n
      args.forM disuse
      modify fun r => { r with called := (s, args.length, line) :: r.called }
      return .call s args
    | .known s =>
      advance
      if (← peek) == .sign "(" then
        advance
        let args ← arguments n
        match s, args with
        | "length", [e] => disuse e
        | "split", _ :: .place (.named array) :: _ =>
          disuse (.place (.named array))
          use array true
        | _, _ => pure ()
        match knownFunctions.lookup s with
        | some (least, most) =>
          if args.length < least || most < args.length then
            wrong (if s = "sprintf" then "no arguments in call to sprintf" else "wrong number of arguments in call to " ++ s)
          else return .apply s args
        | none => return .apply s args
      else if s = "length" then return .apply s []
      else unexpected
    | .word "getline" =>
      advance
      let into ← place? n
      if ← accept "<" then return .getLine .file (some (← source n)) into
      else return .getLine .records none into
    | .sign "(" =>
      advance
      skipLines
      let es ← printing false (exprs n)
      skipLines
      expectClosing
      match es with
      | [e] => return .grouped e
      | es =>
        if ← acceptWord "in" then
          match ← peek with
          | .name array =>
            use array true
            advance
            return .within es array
          | _ => unexpected
        else unexpected
    | _ =>
      match ← place? n with
      | some p => return .place p
      | none => unexpected

/-- The file that a line comes from. -/
def source : (fuel : Nat) → Parse Expr
  | 0 => unexpected
  | n + 1 => stepped n

end

/-! ### Statements -/

/-- Passes over the end of a statement. -/
def endStatement : Parse Unit := do
  match ← peek with
  | .sign ";" =>
    advance
    skipLines
  | .newline => skipLines
  | .sign "\x7d" => pure ()
  | _ => unexpected

/-- What is printed: values between parentheses, or without them. -/
def printed (fuel : Nat) : Parse (List Expr) := do
  let before ← get
  let ends (t : Token) : Bool :=
    match t with
    | .newline => true
    | .finish => true
    | .sign s => s = ";" || s = "\x7d" || s = ">" || s = ">>" || s = "|"
    | _ => false
  if ends (← peek) then return []
  else
    let between : Parse (Option (List Expr)) := do
      if ← accept "(" then
        skipLines
        let es ← printing false (exprs fuel)
        skipLines
        if (← accept ")") && ends (← peek) then return some es else return none
      else return none
    match between.run before with
    | .ok (some es, r) =>
      set r
      return es
    | _ => printing true (exprs fuel)

/-- Where something is printed to, if that is said. -/
def target? (fuel : Nat) : Parse (Option (Target × Expr)) := do
  if ← accept ">" then return some (.file, ← printing true (expr fuel))
  else if ← accept ">>" then return some (.append, ← printing true (expr fuel))
  else if ← accept "|" then return some (.command, ← printing true (expr fuel))
  else return none

/-- Reads in a loop. -/
def looping (x : Parse α) : Parse α := do
  let before := (← get).inLoop
  modify fun r => { r with inLoop := true }
  let a ← x
  modify fun r => { r with inLoop := before }
  return a

/-- An expression, if one comes next. -/
def expr? (fuel : Nat) : Parse (Option Expr) := do
  match ← peek with
  | .newline => return none
  | .sign ";" => return none
  | .sign "\x7d" => return none
  | .sign ")" => return none
  | _ => return some (← expr fuel)

/-- A statement without others in it. -/
def simple (fuel : Nat) : Parse Statement := do
  match ← peek with
  | .word "print" =>
    advance
    let args ← printed fuel
    return .print false args (← target? fuel)
  | .word "printf" =>
    advance
    let args ← printed fuel
    if args.isEmpty then wrong "no arguments in call to printf"
    return .print true args (← target? fuel)
  | .word "next" =>
    if (← get).aside then wrong "improper use of next"
    advance
    return .next
  | .word "nextfile" =>
    if (← get).aside then wrong "improper use of nextfile"
    advance
    return .nextFile
  | .word "exit" =>
    advance
    return .exit (← expr? fuel)
  | .word "return" =>
    if !(← get).inFunction then wrong "return outside function body"
    advance
    return .giveBack (← expr? fuel)
  | .word "break" =>
    if !(← get).inLoop then wrong "break statement outside of loop"
    advance
    return .leave
  | .word "continue" =>
    if !(← get).inLoop then wrong "continue statement outside of loop"
    advance
    return .goOn
  | .word "delete" =>
    advance
    match ← peek with
    | .name array =>
      use array true
      advance
      if ← accept "[" then return .delete array (some (← subscripts fuel)) else return .delete array none
    | _ => unexpected
  | .word "getline" => return .evaluate (← expr fuel)
  | .word _ => unexpected
  | _ => return .evaluate (← expr fuel)

mutual

/-- A statement, or some between braces. -/
def statement : (fuel : Nat) → Parse (List Statement)
  | 0 => unexpected
  | n + 1 => do
    match ← peek with
    | .sign "\x7b" =>
      advance
      skipEnds
      let body ← block n
      skipLines
      return body
    | .sign ";" =>
      advance
      skipLines
      return []
    | .word "if" =>
      advance
      let c ← condition n
      let a ← statement n
      let before ← get
      skipEnds
      if ← acceptWord "else" then
        skipLines
        return [.choose c a (← statement n)]
      else
        set before
        return [.choose c a []]
    | .word "while" =>
      advance
      let c ← condition n
      return [.repeated c (← looping (statement n))]
    | .word "do" =>
      advance
      skipLines
      let body ← looping (statement n)
      skipEnds
      if ← acceptWord "while" then
        expect "("
        let c ← printing false (expr n)
        expect ")"
        endStatement
        return [.once body c]
      else unexpected
    | .word "for" =>
      advance
      expect "("
      let r ← get
      match r.rest with
      | (.name k, _) :: (.word "in", _) :: (.name array, _) :: (.sign ")", _) :: rest =>
        use k false
        use array true
        modify fun r => { r with rest := rest }
        skipLines
        return [.each k array (← looping (statement n))]
      | _ =>
        let start ← if (← peek) == .sign ";" then pure [] else pure [← simple n]
        expect ";"
        skipLines
        let c ← expr? n
        expect ";"
        skipLines
        if (← peek) == .sign "\x7d" then expectClosing
        let step ← if (← peek) == .sign ")" then pure [] else pure [← simple n]
        expectClosing
        skipLines
        return [.loop start c step (← looping (statement n))]
    | _ =>
      let s ← simple n
      endStatement
      return [s]

/-- The condition of a statement, between parentheses. -/
def condition : (fuel : Nat) → Parse Expr
  | 0 => unexpected
  | n + 1 => do
    expect "("
    skipLines
    let c ← printing false (expr n)
    skipLines
    expectClosing
    skipLines
    return c

/-- Statements up to the brace that closes them. -/
def block : (fuel : Nat) → Parse (List Statement)
  | 0 => unexpected
  | n + 1 => do
    skipEnds
    if ← accept "\x7d" then return []
    else
      let s ← statement n
      return s ++ (← block n)

end

/-! ### Rules -/

/-- The action of a rule, if it has one. -/
def action? (fuel : Nat) : Parse (Option (List Statement)) := do
  if ← accept "\x7b" then return some (← block fuel) else return none

/-- The names of parameters up to the parenthesis that closes them. -/
def parameters : (fuel : Nat) → Parse (List String)
  | 0 => unexpected
  | n + 1 => do
    skipLines
    match ← peek with
    | .sign ")" =>
      advance
      return []
    | .name p =>
      advance
      skipLines
      if ← accept "," then return p :: (← parameters n)
      else
        expect ")"
        return [p]
    | _ => unexpected

/-- The name of a function that is defined. -/
def functionName : Parse String := do
  match ← peek with
  | .name f =>
    advance
    return f
  | .function f =>
    advance
    return f
  | _ => unexpected

/-- The rules and functions of a script. -/
def rulesFrom : (fuel : Nat) → Parse RecordScript
  | 0 => unexpected
  | n + 1 => do
    skipEnds
    let aside (b : Bool) : Parse Unit := modify fun r => { r with aside := b }
    let first (r : Rule) : Parse RecordScript := do
      let s ← rulesFrom n
      return { s with rules := r :: s.rules }
    match ← peek with
    | .finish => return ⟨[], []⟩
    | .word "BEGIN" =>
      advance
      aside true
      match ← action? (20 * n + 64) with
      | some body =>
        aside false
        first ⟨.first, some body⟩
      | none => unexpected'
    | .word "END" =>
      advance
      aside true
      match ← action? (20 * n + 64) with
      | some body =>
        aside false
        first ⟨.last, some body⟩
      | none => unexpected'
    | .word "function" =>
      advance
      let f ← functionName
      expect "("
      let ps ← parameters (n + 1)
      if ps.contains f then wrong "function parameter cannot be the function"
      if let some p := ps.find? fun p => 1 < ps.count p then wrong (p ++ " is duplicated in argument list")
      skipLines
      let before := (← get).uses
      modify fun r => { r with inFunction := true, uses := [] }
      match ← action? (20 * n + 64) with
      | some body =>
        modify fun r => { r with
          inFunction := false
          uses := (r.uses.map fun u => if ps.contains u.name then { u with owner := f } else u) ++ before }
        let line ← lineNumber
        let s ← rulesFrom n
        if (s.functions.lookup f).isSome then throw ("line " ++ toString line ++ ": redefinition of " ++ f)
        return { s with functions := (f, ⟨ps, body⟩) :: s.functions }
      | none => unexpected'
    | .sign "\x7b" =>
      let body ← action? (20 * n + 64)
      first ⟨.always, body⟩
    | .sign "\x7d" =>
      let line ← lineNumber
      throw ("line " ++ toString line ++ ": extra '\x7d'" ++
        if ((← get).rest.drop 1).all fun t => t.1 == .newline || t.1 == .finish then
          "\nawk: line " ++ toString line ++ ": syntax error at or near end of line"
        else "")
    | _ =>
      let a ← expr (20 * n + 64)
      if ← accept "," then
        skipLines
        let b ← expr (20 * n + 64)
        first ⟨.range a b, ← action? (20 * n + 64)⟩
      else
        let body ← action? (20 * n + 64)
        match body, ← peek with
        | none, .newline => first ⟨.fits a, none⟩
        | none, .sign ";" => first ⟨.fits a, none⟩
        | none, .finish => first ⟨.fits a, none⟩
        | none, _ => unexpected
        | some body, _ => first ⟨.fits a, some body⟩
where
  /-- Says that something else than an action comes next. -/
  unexpected' {α : Type} : Parse α := do
    match ← peek with
    | .finish => wrong "syntax error at or near end of line"
    | _ => unexpected

/-- The names that are there before a script begins, and whether they are arrays. -/
def knownNames : List (String × Bool) :=
  (["NR", "NF", "FNR", "FS", "OFS", "RS", "ORS", "SUBSEP", "CONVFMT", "OFMT", "RSTART", "RLENGTH", "FILENAME", "ARGC"].map
    (·, false)) ++ [("ENVIRON", true), ("ARGV", true)]

/-- What is wrong with some uses of names: a name is used in one way only. Given are those that were used. -/
def misuses (known : List ((String × String) × Bool)) : List Use → List String
  | [] => []
  | u :: us =>
    match known.lookup (u.owner, u.name) with
    | none => misuses (((u.owner, u.name), u.array) :: known) us
    | some array =>
      if array = u.array then misuses known us
      else
        ("line " ++ toString u.line ++ ": illegal reference to " ++ (if u.owner = "" then "" else "local ") ++
          (if array then "array " else "variable ") ++ u.name) :: misuses known us

/-- Reads a script. -/
def read (s : String) : Except String RecordScript := do
  let ts ← tokens (s.length + 1) 1 .newline s.toList
  let lines := (ts.getLast?.map (·.2)).getD 1
  let (script, r) ← (rulesFrom (ts.length + 1)).run ⟨ts, false, false, false, false, [], []⟩
  let wrongs := misuses (knownNames.map fun (n, array) => (("", n), array)) r.uses.reverse
  if !wrongs.isEmpty then throw ("\nawk: ".intercalate wrongs)
  for (f, count, line) in r.called.reverse do
    match script.functions.lookup f with
    | none => throw ("line " ++ toString (lines + 1) ++ ": function " ++ f ++ " never defined")
    | some g =>
      if g.parameters.length < count then
        throw ("line " ++ toString line ++ ": too many arguments in call to " ++ f)
  return script

end RecordScript

end Retrace.Unix
