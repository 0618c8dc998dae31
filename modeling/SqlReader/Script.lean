import SqlReader.Cursor
import SqlReader.Event

set_option autoImplicit false

namespace SqlReader

def statementEvents (tokens : List Token) (result : Except SyntaxError Statement) : List Event :=
  let announced :=
    match tokens with
    | [] => []
    | t :: _ => if (Form.ofKind? t.kind).isSome then [Event.dispatching t] else []
  match result with
  | .ok statement => announced ++ [.parsed statement]
  | .error _ => announced

def skipSemicolon : List Token → List Token
  | [] => []
  | t :: rest => if t.kind = .semicolon then rest else t :: rest

def trailing? : List Token → Option SyntaxError
  | [] => none
  | t :: _ => if t.isEnd then none else some (.trailing t)

def readOne (stop : Position) (tokens : List Token) : Traced Statement :=
  let reading := Draft.empty.read stop [] tokens
  { events := statementEvents tokens reading.result
    result :=
      match reading.result, trailing? (skipSemicolon reading.ahead) with
      | .ok _, some e => .error e
      | result, _ => result }

def continueScript (events : List Event) (statement : Statement)
    (later : Traced (List Statement)) : Traced (List Statement) :=
  ⟨events ++ later.events, later.result.map (statement :: ·)⟩

-- Statements with semicolons between them and any number of semicolons around them.
def readMany (stop : Position) (tokens : List Token) : Traced (List Statement) :=
  match tokens with
  | [] => ⟨[], .ok []⟩
  | t :: rest =>
    if t.isEnd then ⟨[], .ok []⟩
    else if t.kind = .semicolon then readMany stop rest
    else
      let reading := Draft.empty.read stop [] (t :: rest)
      let events := statementEvents (t :: rest) reading.result
      match reading.result with
      | .error e => ⟨events, .error e⟩
      | .ok statement =>
        match h : reading.ahead with
        | [] => ⟨events, .ok [statement]⟩
        | u :: later =>
          have : later.length + 1 ≤ rest.length + 1 := by
            simpa [reading, h] using Draft.read_ahead_length stop [] Draft.empty (t :: rest)
          if u.isEnd then ⟨events, .ok [statement]⟩
          else if u.kind = .semicolon then continueScript events statement (readMany stop later)
          else ⟨events, .error (.trailing u)⟩
termination_by tokens.length

def readStatement (name : String) (tokens : List Token) : Traced Statement :=
  readOne (endPosition name tokens) tokens

def readScript (name : String) (tokens : List Token) : Traced (List Statement) :=
  (readMany (endPosition name tokens) tokens).andThen fun statements =>
    ⟨[.finished statements.length name], .ok statements⟩

def parse (name : String) (tokens : List Token) : Except SyntaxError Statement :=
  (readStatement name tokens).result

def parseScript (name : String) (tokens : List Token) : Except SyntaxError (List Statement) :=
  (readScript name tokens).result

namespace Source

def statement (s : Source) : Except SyntaxError Statement := s.tokenize.bind (parse s.name)

def script (s : Source) : Except SyntaxError (List Statement) :=
  s.tokenize.bind (parseScript s.name)

def tracedStatement (s : Source) : Traced Statement :=
  s.tracedTokens.andThen (readStatement s.name)

def tracedScript (s : Source) : Traced (List Statement) :=
  s.tracedTokens.andThen (readScript s.name)

theorem tracedStatement_result (s : Source) : s.tracedStatement.result = s.statement :=
  Traced.andThen_result _ _

theorem tracedScript_result (s : Source) : s.tracedScript.result = s.script :=
  Traced.andThen_result _ _

end Source
end SqlReader
