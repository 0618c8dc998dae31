import SqlReader.Proofs.Script.Pieces

set_option autoImplicit false

namespace SqlReader

-- Where no token marks the end, one that stands at `stop` does.
def visible (stop : Position) : List Token → List Token
  | [] => [Token.ending stop]
  | t :: rest => if t.isEnd then [t] else t :: visible stop rest

variable {stop : Position} {t : Token} {rest : List Token}

theorem visible_of_isEnd (ends : t.isEnd = true) : visible stop (t :: rest) = [t] :=
  if_pos ends

theorem visible_cons (inside : t.isEnd = false) :
    visible stop (t :: rest) = t :: visible stop rest :=
  if_neg (by simp [inside])

theorem head?_visible (stop : Position) (tokens : List Token) :
    (visible stop tokens).head? = some (facing stop tokens) := by
  cases tokens with
  | nil => rfl
  | cons t rest =>
    rw [visible]
    split <;> rfl

theorem exists_visible (stop : Position) (tokens : List Token) :
    ∃ rest, tokens = beforeEnd tokens ++ rest ∧ (facing stop rest).isEnd = true ∧
      visible stop tokens = beforeEnd tokens ++ [facing stop rest] := by
  induction tokens with
  | nil => exact ⟨[], rfl, rfl, rfl⟩
  | cons t tokens ih =>
    cases ends : t.isEnd with
    | true =>
      have none : beforeEnd (t :: tokens) = [] := by simp [beforeEnd, ends]
      rw [none, visible_of_isEnd ends]
      exact ⟨t :: tokens, rfl, ends, rfl⟩
    | false =>
      obtain ⟨rest, split, last, seen⟩ := ih
      have first : beforeEnd (t :: tokens) = t :: beforeEnd tokens := by simp [beforeEnd, ends]
      rw [first, visible_cons ends, seen]
      exact ⟨rest, congrArg (t :: ·) split, last, rfl⟩

theorem Draft.read_visible (stop place : Position) (behind other : List Token) (d : Draft)
    (ahead : List Token) :
    (d.read stop behind ahead).result = (d.read place other (visible stop ahead)).result ∧
      visible stop (d.read stop behind ahead).ahead =
        (d.read place other (visible stop ahead)).ahead := by
  induction ahead generalizing d behind other with
  | nil =>
    have refuses : d.take? (.ending stop) = none := take?_eq_none_of_isEnd rfl
    simp [visible, read, refuses]
  | cons t ahead ih =>
    cases ends : t.isEnd with
    | true =>
      have refuses : d.take? t = none := take?_eq_none_of_isEnd ends
      simp [visible_of_isEnd ends, read, refuses]
    | false =>
      rw [visible_cons ends, read, read]
      cases d.take? t with
      | none => exact ⟨rfl, visible_cons ends⟩
      | some a =>
        cases a with
        | done result => exact ⟨rfl, rfl⟩
        | next e => exact ih (t :: behind) (t :: other) e

theorem trailing?_visible (stop : Position) (tokens : List Token) :
    trailing? (skipSemicolon (visible stop tokens)) = trailing? (skipSemicolon tokens) := by
  have first (tokens : List Token) : trailing? (visible stop tokens) = trailing? tokens := by
    cases tokens with
    | nil => rfl
    | cons t rest => cases ends : t.isEnd <;> simp [visible, trailing?, ends]
  cases tokens with
  | nil => rfl
  | cons t rest =>
    by_cases semicolon : t.kind = .semicolon
    · have inside : t.isEnd = false := by simp [Token.isEnd, semicolon]
      rw [visible_cons inside, skipSemicolon, skipSemicolon, if_pos semicolon, if_pos semicolon]
      exact first rest
    · have kept : skipSemicolon (visible stop (t :: rest)) = visible stop (t :: rest) := by
        cases ends : t.isEnd <;> simp [visible, skipSemicolon, ends, semicolon]
      rw [kept, first, skipSemicolon, if_neg semicolon]

theorem readOne_visible (stop place : Position) (tokens : List Token) :
    (readOne stop tokens).result = (readOne place (visible stop tokens)).result := by
  obtain ⟨result, ahead⟩ := Draft.read_visible stop place [] [] Draft.empty tokens
  simp only [readOne, result, ← ahead, trailing?_visible]

theorem readMany_visible (stop place : Position) (tokens : List Token) :
    (readMany stop tokens).result = (readMany place (visible stop tokens)).result := by
  obtain ⟨rest, split, ends, seen⟩ := exists_visible stop tokens
  have pieces (place : Position) {behind : List Token}
      (next : facing place behind = facing stop rest) :
      (readMany place (beforeEnd tokens ++ behind)).result =
        readPieces "" (facing stop rest) (segments (beforeEnd tokens)) :=
    readMany_cut next ends "" not_isEnd_of_mem_beforeEnd [] (by simp)
  rw [seen, pieces place rfl, ← pieces stop rfl, ← split]

end SqlReader
