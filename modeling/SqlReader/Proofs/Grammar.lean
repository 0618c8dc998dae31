import SqlReader.Statement

set_option autoImplicit false

namespace SqlReader

def beforeEnd (tokens : List Token) : List Token := tokens.takeWhile fun t => !t.isEnd

theorem beforeEnd_append {w : List Token} (inside : ∀ t ∈ w, t.isEnd = false)
    (rest : List Token) : beforeEnd (w ++ rest) = w ++ beforeEnd rest :=
  List.takeWhile_append_of_pos fun t member => by simp [inside t member]

theorem beforeEnd_cons {t : Token} (semicolon : t.kind = .semicolon) (rest : List Token) :
    beforeEnd (t :: rest) = t :: beforeEnd rest := by
  have inside : ∀ u ∈ [t], u.isEnd = false := by simp [Token.isEnd, semicolon]
  exact beforeEnd_append inside rest

theorem not_isEnd_of_mem_beforeEnd {tokens : List Token} :
    ∀ t ∈ beforeEnd tokens, t.isEnd = false := by
  intro t member
  simpa using List.all_eq_true.1 List.all_takeWhile t member

theorem eq_nil_or_isEnd_of_beforeEnd {tokens : List Token} (ends : beforeEnd tokens = []) :
    tokens = [] ∨ ∃ t rest, tokens = t :: rest ∧ t.isEnd = true := by
  cases tokens with
  | nil => exact .inl rfl
  | cons t rest =>
    cases marks : t.isEnd with
    | true => exact .inr ⟨t, rest, rfl, marks⟩
    | false => simp [beforeEnd, marks] at ends

-- Items with a comma after each but the last, which a token of the kind `stop` follows.
inductive ListUntil {α : Type} (item : α → List Token → Prop) (stop : Kind) :
    List α → List Token → Prop
  | last {a : α} {v : List Token} {t : Token} (first : item a v) (stops : t.kind = stop) :
      ListUntil item stop [a] (v ++ [t])
  | more {a : α} {rest : List α} {v w : List Token} {comma : Token} (first : item a v)
      (separates : comma.kind = .comma) (later : ListUntil item stop rest w) :
      ListUntil item stop (a :: rest) (v ++ comma :: w)

def IsName (t : Token) (w : List Token) : Prop := t.kind = .identifier ∧ w = [t]

def IsLiteral (t : Token) (w : List Token) : Prop := t.kind.isLiteral ∧ w = [t]

def IsColumn (column : Token × Token) (w : List Token) : Prop :=
  column.1.kind = .identifier ∧ column.2.kind.isColumnType ∧ w = [column.1, column.2]

inductive ColumnList : List Token → List Token → Prop
  | absent : ColumnList [] []
  | present {opening : Token} {names w : List Token} (opens : opening.kind = .openParen)
      (list : ListUntil IsName .closeParen names w) : ColumnList names (opening :: w)

-- The semicolon behind a statement is no part of it, and names and values are not counted.
inductive Phrase : List Token → Statement → Prop
  | createTable {create table name opening : Token} {columns : List (Token × Token)}
      {w : List Token} (leads : create.kind = .createKeyword) (second : table.kind = .tableKeyword)
      (named : name.kind = .identifier) (opens : opening.kind = .openParen)
      (list : ListUntil IsColumn .closeParen columns w) :
      Phrase (create :: table :: name :: opening :: w)
        (.createTable ⟨create.start, name, columns.map Prod.fst, columns.map Prod.snd⟩)
  | insert {insert into name values opening : Token} {names literals v w : List Token}
      (leads : insert.kind = .insertKeyword) (second : into.kind = .intoKeyword)
      (named : name.kind = .identifier) (columns : ColumnList names v)
      (announces : values.kind = .valuesKeyword) (opens : opening.kind = .openParen)
      (list : ListUntil IsLiteral .closeParen literals w) :
      Phrase (insert :: into :: name :: (v ++ values :: opening :: w))
        (.insert ⟨insert.start, name, names, literals⟩)
  | selectAll {select star source name : Token} (leads : select.kind = .selectKeyword)
      (all : star.kind = .star) (origin : source.kind = .fromKeyword)
      (named : name.kind = .identifier) :
      Phrase [select, star, source, name] (.select ⟨select.start, [star], name⟩)
  | select {select name : Token} {columns w : List Token} (leads : select.kind = .selectKeyword)
      (list : ListUntil IsName .fromKeyword columns w) (named : name.kind = .identifier) :
      Phrase (select :: (w ++ [name])) (.select ⟨select.start, columns, name⟩)

def Statement.Balanced : Statement → Prop
  | .insert i => i.names ≠ [] → i.names.length = i.values.length
  | .createTable _ | .select _ => True

structure Sentence (w : List Token) (s : Statement) : Prop where
  phrase : Phrase w s
  balanced : s.Balanced

/-- The tokens of one sentence and at most one semicolon. -/
def Spells (w : List Token) (s : Statement) : Prop :=
  ∃ body semicolons, w = body ++ semicolons ∧ Sentence body s ∧ semicolons.length ≤ 1 ∧
    ∀ t ∈ semicolons, t.kind = .semicolon

inductive Sentences : List Token → List Statement → Prop
  | finish {rest : List Token} (ends : beforeEnd rest = []) : Sentences rest []
  | semicolon {t : Token} {rest : List Token} {body : List Statement}
      (skipped : t.kind = .semicolon) (later : Sentences rest body) : Sentences (t :: rest) body
  | last {w rest : List Token} {s : Statement} (sentence : Sentence w s)
      (ends : beforeEnd rest = []) : Sentences (w ++ rest) [s]
  | more {w rest : List Token} {s : Statement} {t : Token} {body : List Statement}
      (sentence : Sentence w s) (separates : t.kind = .semicolon)
      (later : Sentences rest body) : Sentences (w ++ t :: rest) (s :: body)

end SqlReader
