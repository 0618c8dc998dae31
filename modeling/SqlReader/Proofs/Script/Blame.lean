import SqlReader.Proofs.Draft.Forms
import SqlReader.Proofs.Draft.Progress
import SqlReader.Proofs.Script.Steps

set_option autoImplicit false

namespace SqlReader

inductive SyntaxError.Blames (t : Token) : SyntaxError → Prop
  | unexpected {expected : List Kind} (inside : t.isEnd = false) :
      Blames t ⟨.unexpected expected t, t.start⟩
  | unknownType (inside : t.isEnd = false) : Blames t ⟨.unknownType t, t.start⟩
  | trailing (inside : t.isEnd = false) : Blames t ⟨.trailing t, t.start⟩
  | unexpectedEnd {expected : List Kind} (ends : t.isEnd = true) :
      Blames t ⟨.unexpectedEnd expected, t.start⟩

/-- Where a mistake in the tokens of a text comes from that ends at `stop`. -/
inductive Arises (stop : Position) (tokens : List Token) (e : SyntaxError) : Prop
  | token {t : Token} (member : t ∈ tokens ++ [Token.ending stop]) (blames : e.Blames t)
  | values {w : List Token} (within : w <:+: tokens) (mistake : Miscounted w e)

variable {stop : Position} {t : Token} {tokens : List Token} {e : SyntaxError}

theorem Arises.of_suffix {later : List Token} (h : Arises stop later e)
    (suffix : later <:+ tokens) : Arises stop tokens e := by
  cases h with
  | token member blames =>
    refine .token ?_ blames
    rcases List.mem_append.1 member with inside | final
    · exact List.mem_append_left _ (suffix.subset inside)
    · exact List.mem_append_right _ final
  | values within mistake => exact .values (within.trans suffix.isInfix) mistake

theorem SyntaxError.Blames.position (h : e.Blames t) : e.position = t.start := by
  cases h <;> rfl

theorem SyntaxError.blames_unexpected (kinds : List Kind) (t : Token) :
    (unexpected kinds t).Blames t := by
  cases ends : t.isEnd with
  | true =>
    simp only [unexpected, ends]
    exact .unexpectedEnd ends
  | false =>
    simp only [unexpected, ends]
    exact .unexpected ends

theorem SyntaxError.blames_notAType (t : Token) : (notAType t).Blames t := by
  rw [notAType]
  split
  next word =>
    have inside : t.isEnd = false := by
      refine Bool.eq_false_iff.2 fun ends => ?_
      have kind : t.kind = .endOfInput := by simpa [Token.isEnd] using ends
      rw [kind] at word
      exact absurd word (by decide)
    exact .unknownType inside
  next => exact blames_unexpected _ t

theorem Draft.blames_refusal (d : Draft) (t : Token) : (d.refusal t).Blames t := by
  have unexpected := SyntaxError.blames_unexpected d.expected t
  cases d with
  | createTable start stage =>
    cases stage with
    | type table names types => exact SyntaxError.blames_notAType t
    | _ => exact unexpected
  | _ => exact unexpected

theorem arises_of_read {behind : List Token}
    (fails : (Draft.empty.read stop behind tokens).result = .error e) : Arises stop tokens e := by
  cases Draft.empty.splits tokens with
  | complete whole =>
    rw [Draft.read_of_completes whole] at fails
    obtain rfl : _ = Except.error e := fails
    exact .values (List.prefix_append _ _).isInfix (Draft.miscounted_of_completes whole)
  | refused reached refuses =>
    rw [reached.read, Draft.read, refuses] at fails
    obtain rfl := Except.error.inj fails
    exact .token (by simp) (Draft.blames_refusal _ _)
  | short reached =>
    have found := reached.read stop behind []
    rw [List.append_nil, Draft.read] at found
    rw [found] at fails
    obtain rfl := Except.error.inj fails
    exact .token (by simp) (Draft.blames_refusal _ _)

theorem arises_of_trailing (trails : trailing? tokens = some e) : Arises stop tokens e := by
  cases tokens with
  | nil => cases trails
  | cons t rest =>
    rw [trailing?] at trails
    split at trails
    next => cases trails
    next inside =>
      cases trails
      exact .token (by simp) (.trailing (Bool.eq_false_iff.2 inside))

theorem skipSemicolon_suffix (tokens : List Token) : skipSemicolon tokens <:+ tokens := by
  cases tokens with
  | nil => exact List.suffix_refl []
  | cons t rest =>
    rw [skipSemicolon]
    split
    · exact List.suffix_cons t rest
    · exact List.suffix_refl _

theorem Draft.read_ahead_suffix (stop : Position) (d : Draft) (tokens : List Token) :
    (d.read stop [] tokens).ahead <:+ tokens :=
  ⟨_, Draft.read_tokens stop [] d tokens⟩

theorem arises_of_readOne (fails : (readOne stop tokens).result = .error e) :
    Arises stop tokens e := by
  simp only [readOne] at fails
  cases read : (Draft.empty.read stop [] tokens).result with
  | error f =>
    rw [read] at fails
    obtain rfl : f = e := Except.error.inj fails
    exact arises_of_read read
  | ok s =>
    have behind := Draft.read_ahead_suffix stop Draft.empty tokens
    cases trails : trailing? (skipSemicolon (Draft.empty.read stop [] tokens).ahead) with
    | none => simp [read, trails] at fails
    | some f =>
      obtain rfl : f = e := by simpa [read, trails] using fails
      exact (arises_of_trailing trails).of_suffix ((skipSemicolon_suffix _).trans behind)

theorem afterStatement_error {s : Statement} {ahead : List Token}
    (fails : (afterStatement stop [] s ahead).result = .error e) :
    trailing? ahead = some e ∨
      ∃ t later, ahead = t :: later ∧ (readMany stop later).result = .error e := by
  cases ahead with
  | nil => cases fails
  | cons t later =>
    by_cases semicolon : t.kind = .semicolon
    · rw [afterStatement_of_semicolon semicolon] at fails
      cases rest : (readMany stop later).result with
      | ok body => rw [rest] at fails; cases fails
      | error f =>
        rw [rest] at fails
        cases fails
        exact .inr ⟨t, later, rfl, rest⟩
    · left
      cases ends : t.isEnd with
      | true => simp [afterStatement, ends] at fails
      | false => simpa [afterStatement, trailing?, ends, semicolon] using fails

theorem arises_of_readMany (fails : (readMany stop tokens).result = .error e) :
    Arises stop tokens e := by
  -- The tokens behind a statement or a semicolon are fewer.
  induction size : tokens.length using Nat.strongRecOn generalizing tokens with
  | ind n ih =>
    cases tokens with
    | nil => rw [readMany_nil] at fails; cases fails
    | cons t rest =>
      rw [List.length_cons] at size
      cases ends : t.isEnd with
      | true => rw [readMany_of_isEnd ends] at fails; cases fails
      | false =>
        by_cases semicolon : t.kind = .semicolon
        · rw [readMany_of_semicolon semicolon] at fails
          exact (ih rest.length (by omega) fails rfl).of_suffix (List.suffix_cons t rest)
        · rw [readMany_result ends semicolon] at fails
          have behind := Draft.read_ahead_suffix stop Draft.empty (t :: rest)
          cases read : (Draft.empty.read stop [] (t :: rest)).result with
          | error f =>
            rw [read] at fails
            obtain rfl : f = e := Except.error.inj fails
            exact arises_of_read read
          | ok s =>
            rw [read] at fails
            rcases afterStatement_error fails with trails | ⟨u, later, ahead, fails⟩
            · exact (arises_of_trailing trails).of_suffix behind
            · have whole : later <:+ t :: rest := by
                rw [ahead] at behind
                exact (List.suffix_cons u later).trans behind
              have shorter := behind.length_le
              rw [ahead, List.length_cons, List.length_cons] at shorter
              exact (ih later.length (by omega) fails rfl).of_suffix whole

end SqlReader
