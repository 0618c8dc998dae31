import SqlReader.Scan
import SqlReader.Statement

set_option autoImplicit false

namespace SqlReader

inductive Event
  | lexed (token : Token) (offset : Nat)
  | tokenized (tokens : Nat) (source : String)
  | dispatching (keyword : Token)
  | parsed (statement : Statement)
  | finished (statements : Nat) (source : String)
deriving DecidableEq

inductive Level
  | trace
  | debug
deriving DecidableEq

inductive FieldValue
  | text (s : String)
  | count (n : Nat)
deriving DecidableEq

def Level.name : Level → String
  | trace => "TRACE"
  | debug => "DEBUG"

namespace Event

def level : Event → Level
  | lexed .. => .trace
  | tokenized .. => .debug
  | dispatching _ => .debug
  | parsed _ => .trace
  | finished .. => .debug

def message : Event → String
  | lexed .. => "lexed token"
  | tokenized .. => "tokenized source"
  | dispatching _ => "dispatching statement"
  | parsed _ => "parsed statement"
  | finished .. => "parsed script"

def fields : Event → List (String × FieldValue)
  | lexed token offset => [("token", .text token.summary), ("offset", .count offset)]
  | tokenized tokens source => [("tokens", .count tokens), ("file", .text source)]
  | dispatching keyword =>
    [("keyword", .text keyword.value), ("offset", .count keyword.start.offset.toNat)]
  | parsed statement => [("statement", .text statement.render)]
  | finished statements source => [("statements", .count statements), ("file", .text source)]

end Event

structure Traced (α : Type) where
  events : List Event
  result : Except SyntaxError α

def Traced.andThen {α β : Type} (first : Traced α) (next : α → Traced β) : Traced β :=
  match first.result with
  | .error e => ⟨first.events, .error e⟩
  | .ok a => ⟨first.events ++ (next a).events, (next a).result⟩

-- The end of the text counts as a token when it is reached.
def Scan.events (scan : Scan) (name : String) : List Event :=
  let lexed := scan.lexemes.filterMap fun l =>
    (l.token? name).map fun token => Event.lexed token l.offset
  match scan.rest with
  | [] => lexed ++ [.lexed (scan.ending name) scan.stop, .tokenized (lexed.length + 1) name]
  | _ => lexed

def Source.tracedTokens (s : Source) : Traced (List Token) :=
  ⟨s.scan.events s.name, s.tokenize⟩

theorem Traced.andThen_result {α β : Type} (first : Traced α) (next : α → Traced β) :
    (first.andThen next).result = first.result.bind fun a => (next a).result := by
  unfold andThen
  cases first.result <;> rfl

end SqlReader
