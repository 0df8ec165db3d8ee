import Retrace.Inspect
import Retrace.Value.Text

/-!
# Failures

Why a run ended without an answer, as causes; `Failure.message` puts each into
words. A failure cannot be handled by the program it happens in: it ends the
run. Only inside a rollback is it given a new cause, as the restoring that
failed because of it (`RestoreFailure.undoFailed`).
-/

namespace Retrace

/-- What an operation wanted. -/
inductive Wanted where
  | bool | int | number | str | map | mapOrStr | function | bools | ints | numbers | strs | target
deriving DecidableEq

/-- The words for what was wanted. -/
def Wanted.description : Wanted → String
  | .bool => "bool"
  | .int => "int"
  | .number => "number"
  | .str => "string"
  | .map => "map"
  | .mapOrStr => "map or string"
  | .function => "function"
  | .bools => "bools"
  | .ints => "ints"
  | .numbers => "numbers"
  | .strs => "strings"
  | .target => "assignable target"

/-- What an operation got instead: a value of some kind, two operands, or an
    expression of some form. -/
inductive Got where
  | value (kind : Kind)
  | operands (left : Kind) (op : BinaryOp) (right : Kind)
  | expr (form : Expr.Form)
deriving DecidableEq

/-- The words for what was got. -/
def Got.description : Got → String
  | .value kind => kind.name
  | .operands left op right => left.name ++ " " ++ op.symbol ++ " " ++ right.name
  | .expr form => form.description

/-- An operation on integers that has no result. -/
inductive IntOperation where
  | binary (left : Int64) (op : BinaryOp) (right : Int64)
  | negation (operand : Int64)
deriving DecidableEq

/-- The operation as a formula. -/
def IntOperation.formula : IntOperation → String
  | .binary left op right => toString left.toInt ++ " " ++ op.symbol ++ " " ++ toString right.toInt
  | .negation operand => "-(" ++ toString operand.toInt ++ ")"

/-- The literals whose lexeme may be ill-formed. -/
inductive NumeralKind where
  | integer
  | rational
deriving DecidableEq

/-- The word for a kind of numeral. -/
def NumeralKind.name : NumeralKind → String
  | .integer => "integer"
  | .rational => "rational"

/-- The natives that report what the outside world refused. -/
inductive OutsideOperation where
  | read | write | shell
deriving DecidableEq

/-- The word for an operation on the outside world. -/
def OutsideOperation.name : OutsideOperation → String
  | .read => "read"
  | .write => "write"
  | .shell => "shell"

/-- What the outside world refused. -/
inductive Refusal where
  | notFound | badDescriptor | notPermitted | alreadyExists | notDirectory | isDirectory
  | invalidArgument | noSpace | nameTooLong | notEmpty | tooManyLinks | noDevice | brokenPipe
  | notExecutable
  /-- What was read is no text. -/
  | invalidText
  /-- A null character where none can stand, in the name of a file. -/
  | nullInName
  /-- A null character where none can stand, in the call of a program. -/
  | nullInArgument
  /-- Whatever else the system may say. -/
  | other (reason : String)
deriving DecidableEq

/-- The words for the reason of a refusal. -/
def Refusal.reason : Refusal → String
  | .notFound => "No such file or directory"
  | .badDescriptor => "Bad file descriptor"
  | .notPermitted => "Permission denied"
  | .alreadyExists => "File exists"
  | .notDirectory => "Not a directory"
  | .isDirectory => "Is a directory"
  | .invalidArgument => "Invalid argument"
  | .noSpace => "No space left on device"
  | .nameTooLong => "File name too long"
  | .notEmpty => "Directory not empty"
  | .tooManyLinks => "Too many levels of symbolic links"
  | .noDevice => "No such device or address"
  | .brokenPipe => "Broken pipe"
  | .notExecutable => "Exec format error"
  | .invalidText => "stream did not contain valid UTF-8"
  | .nullInName => "file name contained an unexpected NUL byte"
  | .nullInArgument => "nul byte found in provided data"
  | .other reason => reason

/-- The number of a refusal that comes from the system itself. -/
def Refusal.number? : Refusal → Option Nat
  | .notFound => some 2
  | .badDescriptor => some 9
  | .notPermitted => some 13
  | .alreadyExists => some 17
  | .notDirectory => some 20
  | .isDirectory => some 21
  | .invalidArgument => some 22
  | .noSpace => some 28
  | .nameTooLong => some 36
  | .notEmpty => some 39
  | .tooManyLinks => some 40
  | .noDevice => some 6
  | .brokenPipe => some 32
  | .notExecutable => some 8
  | .invalidText => none
  | .nullInName => none
  | .nullInArgument => none
  | .other _ => none

/-- The words for a refusal, with its number. -/
def Refusal.description (r : Refusal) : String :=
  match r.number? with
  | some n => r.reason ++ " (os error " ++ toString n ++ ")"
  | none => r.reason

mutual

/-- Why a run ended without an answer. -/
inductive Failure where
  /-- A name that is bound in no enclosing scope. -/
  | undefinedName (name : String)
  /-- Something of the wrong kind. -/
  | typeMismatch (wanted : Wanted) (got : Got)
  /-- A reversal that no seize took. -/
  | unhandledReversal (payload : Value)
  | invalidLiteral (kind : NumeralKind) (lexeme : String)
  | divisionByZero (operation : IntOperation)
  /-- An integer result beyond 64 bits. -/
  | integerOverflow (operation : IntOperation)
  | argumentCount (function : String) (expected got : Nat)
  | callDepthExceeded (limit : Nat)
  /-- A jump with nowhere to go. -/
  | misplacedJump (jump : Jump)
  | ledgerLimitExceeded (limit : Nat)
  /-- A handle to a scope that is gone. -/
  | staleScope (serial : Nat)
  /-- A breadcrumb that could not be restored. -/
  | restoreFailed (why : RestoreFailure)
  | noMainFunction
  /-- Something the outside world refused. -/
  | outside (operation : OutsideOperation) (target : String) (refusal : Refusal)

/-- Why a breadcrumb could not be restored. -/
inductive RestoreFailure where
  /-- A rollback met the marker of a skip that is still open. -/
  | unresolvedMarker
  /-- The breadcrumb of an entry holds something else than a pair. -/
  | noPair (name : String) (kind : Kind)
  /-- The name whose entry is to be restored is not bound any more. -/
  | unbound (name : String)
  /-- The scope is gone, though it is older than the skip. -/
  | scopeDiscarded (serial : Nat)
  /-- An undo statement did not end normally. -/
  | undoEnded (flow : Flow)
  | undoReversed (payload : Value)
  | undoFailed (failure : Failure)
  /-- A cause of the host's own. -/
  | other (message : String)

end

mutual

/-- A failure in words. -/
def Failure.message : Failure → String
  | .undefinedName name => "undefined name '" ++ name ++ "'"
  | .typeMismatch wanted got =>
    "type error: expected " ++ wanted.description ++ ", got " ++ got.description
  | .unhandledReversal payload => "unhandled reversal with payload " ++ payload.text
  | .invalidLiteral kind lexeme => "invalid " ++ kind.name ++ " literal '" ++ lexeme ++ "'"
  | .divisionByZero operation => "division by zero in " ++ operation.formula
  | .integerOverflow operation => "integer overflow in " ++ operation.formula
  | .argumentCount function expected got =>
    "function '" ++ function ++ "' expects " ++ toString expected ++ " argument(s), got " ++
      toString got
  | .callDepthExceeded limit => "call depth exceeded the limit of " ++ toString limit
  | .misplacedJump jump => "'" ++ jump.keyword ++ "' used outside of a loop or switch"
  | .ledgerLimitExceeded limit =>
    "breadcrumb ledger limit exceeded: " ++ toString limit ++ " entries"
  | .staleScope serial => "scope #" ++ toString serial ++ " no longer exists"
  | .restoreFailed why => "failed to restore breadcrumb: " ++ why.message
  | .noMainFunction => "no main() function found"
  | .outside operation target refusal =>
    operation.name ++ " '" ++ target ++ "' failed: " ++ refusal.description

/-- Why a breadcrumb could not be restored, in words. -/
def RestoreFailure.message : RestoreFailure → String
  | .unresolvedMarker => "found an unresolved skip marker inside a rollback"
  | .noPair name kind => "entry breadcrumb for '" ++ name ++ "' holds a " ++ kind.name
  | .unbound name => "'" ++ name ++ "' is no longer bound"
  | .scopeDiscarded serial =>
    "scope #" ++ toString serial ++ " was discarded while a skip that predates it was open"
  | .undoEnded flow => "undo statement ended with " ++ flow.inspect
  | .undoReversed payload => "undo statement reversed with payload " ++ payload.text
  | .undoFailed failure => "undo statement failed: " ++ failure.message
  | .other message => message

end

namespace Failure

/-- A value of the wrong kind. -/
def unexpected (wanted : Wanted) (v : Value) : Failure :=
  typeMismatch wanted (.value v.kind)

/-- Operands of the wrong kinds. -/
def operands (wanted : Wanted) (op : BinaryOp) (left right : Value) : Failure :=
  typeMismatch wanted (.operands left.kind op right.kind)

end Failure

end Retrace
