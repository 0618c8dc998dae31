import SqlReader.Proofs.Grammar.Acceptance
import SqlReader.Proofs.Relabelling.Parsing
import SqlReader.Proofs.Relabelling.Places
import SqlReader.Proofs.Script.Blame

set_option autoImplicit false

namespace SqlReader

/-- Neither what is read nor a mistake holds a token that marks the end. -/
def KeepsNoEnd {α : Type} (kept : α → List Token) : Except SyntaxError α → Prop
  | .ok a => ∀ t ∈ kept a, t.isEnd = false
  | .error e => ∀ t ∈ e.cause.tokens, t.isEnd = false

variable {stop : Position} {tokens : List Token} {e : SyntaxError}

theorem SyntaxError.Blames.not_isEnd {u : Token} (h : e.Blames u) :
    ∀ t ∈ e.cause.tokens, t.isEnd = false := by
  cases h with
  | unexpected inside | unknownType inside | trailing inside =>
    simpa [Cause.tokens] using inside
  | unexpectedEnd ends => simp [Cause.tokens]

theorem Arises.not_isEnd (h : Arises stop tokens e) : ∀ t ∈ e.cause.tokens, t.isEnd = false := by
  cases h with
  | token member blames => exact blames.not_isEnd
  | values within mistake =>
    obtain ⟨before, values, after, i, -, -, -, -, -, rfl⟩ := mistake
    simp [Cause.tokens]

theorem Sentence.tokens_not_isEnd {w : List Token} {s : Statement} (h : Sentence w s) :
    ∀ t ∈ s.tokens, t.isEnd = false :=
  fun t member => h.not_isEnd t (h.phrase.mem_of_mem_tokens member)

theorem keepsNoEnd_readOne (stop : Position) (tokens : List Token) :
    KeepsNoEnd Statement.tokens (readOne stop tokens).result := by
  cases read : (readOne stop tokens).result with
  | ok s =>
    obtain ⟨w, rest, -, sentence, -⟩ := readOne_eq_ok_iff.1 read
    exact sentence.tokens_not_isEnd
  | error e => exact (arises_of_readOne read).not_isEnd

theorem keepsNoEnd_readMany (stop : Position) (tokens : List Token) :
    KeepsNoEnd (List.flatMap Statement.tokens) (readMany stop tokens).result := by
  cases read : (readMany stop tokens).result with
  | ok body =>
    intro t member
    obtain ⟨s, listed, inside⟩ := List.mem_flatMap.1 member
    obtain ⟨w, sentence, -⟩ := (sentences_of_readMany read).exists_sentence listed
    exact sentence.tokens_not_isEnd t inside
  | error e => exact (arises_of_readMany read).not_isEnd

theorem endPosition_eq (name title : String) (nonempty : tokens ≠ []) :
    endPosition title tokens = endPosition name tokens := by
  obtain ⟨front, last, rfl⟩ := (List.eq_nil_or_concat tokens).resolve_left nonempty
  simp [endPosition]

/-- Other positions and other values give the same result with those positions and those values, and
the name of the text has no part in it. -/
theorem kinds_decide (m : Relabelling) (name title : String) (tokens : List Token)
    (nonempty : tokens ≠ []) :
    let others := tokens.map (Token.relabel m)
    endPosition title others = m.position (endPosition name tokens) ∧
    parse title others = relabelResult m (Statement.relabel m) (parse name tokens) ∧
    parseScript title others =
      relabelResult m (List.map (Statement.relabel m)) (parseScript name tokens) ∧
    parse title tokens = parse name tokens ∧
    parseScript title tokens = parseScript name tokens ∧
    KeepsNoEnd Statement.tokens (parse name tokens) ∧
    KeepsNoEnd (List.flatMap Statement.tokens) (parseScript name tokens) := by
  intro others
  have sameEnd := endPosition_eq name title nonempty
  refine ⟨endPosition_relabel m name title nonempty, parse_relabel m name title nonempty,
    parseScript_relabel m name title nonempty, ?_, ?_, keepsNoEnd_readOne _ _, ?_⟩
  · rw [parse, parse, readStatement, readStatement, sameEnd]
  · rw [parseScript_eq, parseScript_eq, sameEnd]
  · rw [parseScript_eq]
    exact keepsNoEnd_readMany _ _

theorem kinds_decide_column_refused :
    let span (source : String) (k : UInt32) : Span := ⟨⟨k, source⟩, ⟨k + 1, source⟩⟩
    let tokens : List Token := [⟨.selectKeyword, "select", span "file" 0⟩,
      ⟨.identifier, "a", span "file" 7⟩, ⟨.identifier, "b", span "file" 9⟩]
    let m : Relabelling := ⟨fun p => ⟨p.offset + 40, "shell"⟩, fun value => value ++ "!"⟩
    let others := tokens.map (Token.relabel m)
    let e : SyntaxError :=
      ⟨.unexpected [.fromKeyword] ⟨.identifier, "b", span "file" 9⟩, ⟨9, "file"⟩⟩
    let f : SyntaxError :=
      ⟨.unexpected [.fromKeyword] ⟨.identifier, "b!", span "shell" 49⟩, ⟨49, "shell"⟩⟩
    tokens ≠ [] ∧ parse "file" tokens = .error e ∧ parseScript "file" tokens = .error e ∧
      endPosition "none" others = ⟨50, "shell"⟩ ∧ parse "none" others = .error f ∧
      parseScript "none" others = .error f ∧ parse "none" tokens = parse "file" tokens ∧
      parseScript "none" tokens = parseScript "file" tokens ∧
      KeepsNoEnd Statement.tokens (parse "file" tokens) ∧
      KeepsNoEnd (List.flatMap Statement.tokens) (parseScript "file" tokens) := by
  intro span tokens m others e f
  have nonempty : tokens ≠ [] := by decide
  have first : parse "file" tokens = .error e := by decide
  have second : parseScript "file" tokens = .error e := by
    rw [parseScript_eq, readMany_of_statement (by decide) (by decide)]
    decide
  obtain ⟨place, one, many, same⟩ := kinds_decide m "file" "none" tokens nonempty
  rw [first] at one
  rw [second] at many
  exact ⟨nonempty, first, second, place, one, many, same⟩

end SqlReader
