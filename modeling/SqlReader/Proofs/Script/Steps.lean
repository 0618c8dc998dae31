import SqlReader.Script

set_option autoImplicit false

namespace SqlReader

def afterStatement (stop : Position) (events : List Event) (statement : Statement) :
    List Token → Traced (List Statement)
  | [] => ⟨events, .ok [statement]⟩
  | u :: later =>
    if u.isEnd then ⟨events, .ok [statement]⟩
    else if u.kind = .semicolon then continueScript events statement (readMany stop later)
    else ⟨events, .error (.trailing u)⟩

variable {stop : Position} {t : Token} {rest : List Token}

theorem readMany_nil : readMany stop [] = ⟨[], .ok []⟩ := by
  rw [readMany]

theorem readMany_of_isEnd (ends : t.isEnd = true) : readMany stop (t :: rest) = ⟨[], .ok []⟩ := by
  rw [readMany, if_pos ends]

theorem readMany_of_semicolon (semicolon : t.kind = .semicolon) :
    readMany stop (t :: rest) = readMany stop rest := by
  have inside : ¬ t.isEnd = true := by simp [Token.isEnd, semicolon]
  rw [readMany, if_neg inside, if_pos semicolon]

theorem readMany_of_statement (inside : t.isEnd = false) (other : t.kind ≠ .semicolon) :
    readMany stop (t :: rest) =
      let reading := Draft.empty.read stop [] (t :: rest)
      let events := statementEvents (t :: rest) reading.result
      match reading.result with
      | .error e => ⟨events, .error e⟩
      | .ok statement => afterStatement stop events statement reading.ahead := by
  have notEnd : ¬ t.isEnd = true := by simp [inside]
  rw [readMany, if_neg notEnd, if_neg other]
  simp only
  cases (Draft.empty.read stop [] (t :: rest)).result with
  | error e => simp only
  | ok statement =>
    simp only
    split
    next ends => simp [ends, afterStatement]
    next u later continues => simp [continues, afterStatement]

theorem afterStatement_of_semicolon (semicolon : t.kind = .semicolon) (events : List Event)
    (statement : Statement) :
    (afterStatement stop events statement (t :: rest)).result =
      (readMany stop rest).result.map (statement :: ·) := by
  have inside : ¬ t.isEnd = true := by simp [Token.isEnd, semicolon]
  rw [afterStatement, if_neg inside, if_pos semicolon]
  rfl

theorem afterStatement_result (events : List Event) (statement : Statement) (ahead : List Token) :
    (afterStatement stop events statement ahead).result =
      (afterStatement stop [] statement ahead).result := by
  cases ahead with
  | nil => rfl
  | cons u later =>
    simp only [afterStatement]
    split
    · rfl
    · split <;> rfl

theorem readMany_result (inside : t.isEnd = false) (other : t.kind ≠ .semicolon) :
    (readMany stop (t :: rest)).result =
      match (Draft.empty.read stop [] (t :: rest)).result with
      | .error e => .error e
      | .ok statement =>
        (afterStatement stop [] statement (Draft.empty.read stop [] (t :: rest)).ahead).result := by
  rw [readMany_of_statement inside other]
  simp only
  cases (Draft.empty.read stop [] (t :: rest)).result with
  | error e => rfl
  | ok statement => exact afterStatement_result _ _ _

end SqlReader
