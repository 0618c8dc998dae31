import SqlReader.Text.Quoted
import SqlReader.Token

set_option autoImplicit false

namespace SqlReader

inductive Cause
  | unrecognised (text : String)
  | unexpected (expected : List Kind) (found : Token)
  | unexpectedEnd (expected : List Kind)
  | countMismatch (columns values : Nat)
  | unknownType (found : Token)
  | trailing (found : Token)
deriving DecidableEq

structure SyntaxError where
  cause : Cause
  position : Position
deriving DecidableEq

namespace Cause

def name : Cause → String
  | unrecognised _ => "UnrecognisedToken"
  | unexpected _ _ => "UnexpectedToken"
  | unexpectedEnd _ => "UnexpectedEndOfInput"
  | countMismatch _ _ => "CountMismatch"
  | unknownType _ => "UnknownTypeKeyword"
  | trailing _ => "UnexpectedTrailingToken"

def message : Cause → String
  | unrecognised text => "unrecognised token: " ++ quoted text
  | unexpected expected found =>
    "unexpected token `" ++ found.display ++ "`: expected " ++ Kind.choice expected
  | unexpectedEnd expected => "unexpected end of input: expected " ++ Kind.choice expected
  | countMismatch columns values =>
    "column count does not match value count: expected " ++ toString columns ++ ", received "
      ++ toString values
  | unknownType found => "unknown type keyword `" ++ found.display ++ "`"
  | trailing found => "unexpected trailing token `" ++ found.display ++ "`"

def tip? : Cause → Option String
  | unrecognised _ => none
  | unexpected expected found =>
    some ("expected " ++ Kind.choice expected ++ ", found `" ++ found.display ++ "`")
  | unexpectedEnd expected => some ("expected " ++ Kind.choice expected ++ ", found end of input")
  | countMismatch columns values =>
    some (toString columns ++ " columns listed but " ++ toString values ++ " values given")
  | unknownType found =>
    some ("Unknown type `" ++ found.display ++ "`, expected NUMBER, TEXT or BOOLEAN")
  | trailing found =>
    some ("Unexpected token `" ++ found.display
      ++ "` after statement, did you miss a semicolon?")

end Cause

namespace SyntaxError

def message (e : SyntaxError) : String :=
  e.cause.message ++ " at " ++ e.position.source ++ ":" ++ toString e.position.offset.toNat

def unexpected (expected : List Kind) (found : Token) : SyntaxError :=
  { cause := if found.isEnd then .unexpectedEnd expected else .unexpected expected found
    position := found.start }

-- A word or a keyword where a column type is due is taken for the name of a type.
def notAType (found : Token) : SyntaxError :=
  if found.kind = .identifier || found.kind.isKeyword then ⟨.unknownType found, found.start⟩
  else unexpected Kind.columnTypes found

def trailing (found : Token) : SyntaxError := ⟨.trailing found, found.start⟩

end SyntaxError

instance resultDecidableEq {α : Type} [DecidableEq α] : DecidableEq (Except SyntaxError α)
  | .ok a, .ok b => decidable_of_iff (a = b) ⟨congrArg _, Except.ok.inj⟩
  | .error d, .error e => decidable_of_iff (d = e) ⟨congrArg _, Except.error.inj⟩
  | .ok _, .error _ => isFalse nofun
  | .error _, .ok _ => isFalse nofun

end SqlReader
