import SqlReader.Proofs.Grammar.Acceptance
import SqlReader.Proofs.Grammar.Order
import SqlReader.Proofs.Script.Steps

set_option autoImplicit false

namespace SqlReader

variable {stop : Position}

theorem readMany_of_beforeEnd {rest : List Token} (ends : beforeEnd rest = []) :
    readMany stop rest = ⟨[], .ok []⟩ := by
  rcases eq_nil_or_isEnd_of_beforeEnd ends with rfl | ⟨t, rest, rfl, marks⟩
  · rw [readMany_nil]
  · rw [readMany_of_isEnd marks]

theorem afterStatement_of_beforeEnd {rest : List Token} (ends : beforeEnd rest = [])
    (events : List Event) (s : Statement) :
    afterStatement stop events s rest = ⟨events, .ok [s]⟩ := by
  rcases eq_nil_or_isEnd_of_beforeEnd ends with rfl | ⟨t, rest, rfl, marks⟩
  · rfl
  · rw [afterStatement, if_pos marks]

theorem readMany_of_sentence {w : List Token} {s : Statement} (h : Sentence w s)
    (stop : Position) (rest : List Token) :
    readMany stop (w ++ rest) =
      afterStatement stop (statementEvents (w ++ rest) (.ok s)) s rest := by
  have complete := Draft.completes_empty_iff.2 h
  have read := Draft.read_of_completes complete stop [] rest
  obtain ⟨t, v, rfl, leads, -⟩ := h.phrase.spelled
  have inside : t.isEnd = false := h.not_isEnd t List.mem_cons_self
  have other : t.kind ≠ .semicolon := by
    rw [leads]
    cases s.form <;> decide
  rw [List.cons_append] at read ⊢
  rw [readMany_of_statement inside other, read]

theorem afterStatement_eq_ok_iff {events : List Event} {s : Statement} {ahead : List Token}
    {body : List Statement} :
    (afterStatement stop events s ahead).result = .ok body ↔
      (beforeEnd ahead = [] ∧ [s] = body) ∨
      ∃ t rest later, ahead = t :: rest ∧ t.kind = .semicolon ∧
        (readMany stop rest).result = .ok later ∧ s :: later = body := by
  cases ahead with
  | nil => simp [afterStatement, beforeEnd]
  | cons t rest =>
    cases ends : t.isEnd with
    | true =>
      have other : t.kind ≠ .semicolon := by
        intro semicolon
        simp [Token.isEnd, semicolon] at ends
      simp [afterStatement, beforeEnd, ends, other]
    | false =>
      by_cases semicolon : t.kind = .semicolon
      · have after : (afterStatement stop events s (t :: rest)).result =
            (readMany stop rest).result.map (s :: ·) := afterStatement_of_semicolon semicolon _ _
        have nonempty : beforeEnd (t :: rest) ≠ [] := by simp [beforeEnd, ends]
        rw [after]
        constructor
        · intro h
          cases later : (readMany stop rest).result with
          | error e => rw [later] at h; cases h
          | ok found =>
            rw [later] at h
            exact .inr ⟨t, rest, found, rfl, semicolon, later, Except.ok.inj h⟩
        · intro h
          rcases h with ⟨empty, -⟩ | ⟨u, v, found, same, -, later, whole⟩
          · contradiction
          · cases same
            rw [later]
            exact congrArg Except.ok whole
      · simp [afterStatement, beforeEnd, ends, semicolon]

theorem sentences_of_readMany {tokens : List Token} {body : List Statement}
    (h : (readMany stop tokens).result = .ok body) : Sentences tokens body := by
  -- The tokens behind a statement or a semicolon are fewer.
  induction size : tokens.length using Nat.strongRecOn generalizing tokens body with
  | ind n ih =>
    cases tokens with
    | nil =>
      rw [readMany_nil] at h
      cases h
      exact .finish rfl
    | cons t rest =>
      rw [List.length_cons] at size
      cases ends : t.isEnd with
      | true =>
        rw [readMany_of_isEnd ends] at h
        cases h
        exact .finish (by simp [beforeEnd, ends])
      | false =>
        by_cases semicolon : t.kind = .semicolon
        · rw [readMany_of_semicolon semicolon] at h
          exact .semicolon semicolon (ih rest.length (by omega) h rfl)
        · rw [readMany_of_statement ends semicolon] at h
          cases read : (Draft.empty.read stop [] (t :: rest)).result with
          | error e => simp [read] at h
          | ok s =>
            obtain ⟨w, split, complete⟩ := Draft.completes_of_read_eq_ok read
            have sentence := Draft.completes_empty_iff.1 complete
            have shorter := Draft.read_ahead_length stop [] Draft.empty (t :: rest)
            simp only [read] at h
            rw [split]
            rcases afterStatement_eq_ok_iff.1 h with ⟨closed, rfl⟩ | ⟨u, v, later, ahead, h⟩
            · exact .last sentence closed
            · obtain ⟨separates, behind, rfl⟩ := h
              rw [ahead, List.length_cons, List.length_cons] at shorter
              rw [ahead]
              exact .more sentence separates (ih v.length (by omega) behind rfl)

theorem readMany_of_sentences {tokens : List Token} {body : List Statement}
    (h : Sentences tokens body) (stop : Position) : (readMany stop tokens).result = .ok body := by
  induction h with
  | finish ends => rw [readMany_of_beforeEnd ends]
  | semicolon skipped later ih =>
    rw [readMany_of_semicolon skipped]
    exact ih
  | @last w rest s sentence ends =>
    rw [readMany_of_sentence sentence]
    exact afterStatement_eq_ok_iff.2 (.inl ⟨ends, rfl⟩)
  | @more w rest s t body sentence separates later ih =>
    rw [readMany_of_sentence sentence]
    exact afterStatement_eq_ok_iff.2 (.inr ⟨t, rest, body, rfl, separates, ih, rfl⟩)

theorem readMany_eq_ok_iff {tokens : List Token} {body : List Statement} :
    (readMany stop tokens).result = .ok body ↔ Sentences tokens body :=
  ⟨sentences_of_readMany, fun h => readMany_of_sentences h stop⟩

theorem parseScript_eq (name : String) (tokens : List Token) :
    parseScript name tokens = (readMany (endPosition name tokens) tokens).result := by
  rw [parseScript, readScript, Traced.andThen_result]
  cases (readMany (endPosition name tokens) tokens).result <;> rfl

theorem Sentences.exists_sentence {tokens : List Token} {body : List Statement}
    (h : Sentences tokens body) {s : Statement} (member : s ∈ body) :
    ∃ w, Sentence w s ∧ w <:+: tokens := by
  induction h with
  | finish ends => cases member
  | @semicolon t rest body skipped later ih =>
    obtain ⟨w, sentence, within⟩ := ih member
    exact ⟨w, sentence, within.trans (List.suffix_cons t rest).isInfix⟩
  | @last w rest s sentence ends =>
    obtain rfl := List.mem_singleton.1 member
    exact ⟨w, sentence, (List.prefix_append w rest).isInfix⟩
  | @more w rest s t body sentence separates later ih =>
    rcases List.mem_cons.1 member with rfl | behind
    · exact ⟨w, sentence, (List.prefix_append w (t :: rest)).isInfix⟩
    · obtain ⟨v, other, within⟩ := ih behind
      have farther := within.trans (List.suffix_cons t rest).isInfix
      exact ⟨v, other, farther.trans (List.suffix_append w (t :: rest)).isInfix⟩

end SqlReader
