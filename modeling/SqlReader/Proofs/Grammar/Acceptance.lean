import SqlReader.Proofs.Draft.Forms
import SqlReader.Proofs.Draft.Progress
import SqlReader.Script

set_option autoImplicit false

namespace SqlReader

theorem readOne_eq_ok_iff {stop : Position} {tokens : List Token} {s : Statement} :
    (readOne stop tokens).result = .ok s ↔
      ∃ w rest, tokens = w ++ rest ∧ Sentence w s ∧ trailing? (skipSemicolon rest) = none := by
  constructor
  · intro h
    simp only [readOne] at h
    cases read : (Draft.empty.read stop [] tokens).result with
    | error e => simp [read] at h
    | ok found =>
      obtain ⟨w, split, complete⟩ := Draft.completes_of_read_eq_ok read
      cases clear : trailing? (skipSemicolon (Draft.empty.read stop [] tokens).ahead) with
      | some e => simp [read, clear] at h
      | none =>
        have same : found = s := by simpa [read, clear] using h
        subst same
        exact ⟨w, _, split, Draft.completes_empty_iff.1 complete, clear⟩
  · intro h
    rcases h with ⟨w, rest, rfl, sentence, clear⟩
    have read := Draft.read_of_completes (Draft.completes_empty_iff.2 sentence) stop [] rest
    simp [readOne, read, clear]

theorem trailing?_eq_none_iff {tokens : List Token} :
    trailing? tokens = none ↔ beforeEnd tokens = [] := by
  cases tokens with
  | nil => simp [trailing?, beforeEnd]
  | cons t rest => cases ends : t.isEnd <;> simp [trailing?, beforeEnd, ends]

theorem trailing?_skipSemicolon {rest : List Token} :
    trailing? (skipSemicolon rest) = none ↔
      (beforeEnd rest).length ≤ 1 ∧ ∀ t ∈ beforeEnd rest, t.kind = .semicolon := by
  rw [trailing?_eq_none_iff]
  cases rest with
  | nil => simp [skipSemicolon, beforeEnd]
  | cons t rest =>
    by_cases semicolon : t.kind = .semicolon
    · have whole := beforeEnd_cons semicolon rest
      simp only [skipSemicolon, if_pos semicolon, whole, List.length_cons]
      constructor
      · intro none
        simp [none, semicolon]
      · intro h
        rcases h with ⟨short, -⟩
        exact List.length_eq_zero_iff.1 (by omega)
    · simp only [skipSemicolon, if_neg semicolon]
      cases ends : t.isEnd <;> simp [beforeEnd, ends, semicolon]

-- The token that a reader meets next, at the end of the text the one that marks it.
def facing (stop : Position) (tokens : List Token) : Token :=
  tokens.head?.getD (Token.ending stop)

theorem Draft.read_of_separates {stop : Position} {rest : List Token} {t : Token}
    (next : facing stop rest = t) (separates : t.isEnd = true ∨ t.kind = .semicolon)
    (d : Draft) (behind : List Token) :
    d.read stop behind rest = ⟨.error (.unexpected d.expected t), behind, rest⟩ := by
  cases rest with
  | nil =>
    have same : Token.ending stop = t := next
    rw [read, same, refusal_of_separates separates]
  | cons u rest =>
    obtain rfl : u = t := next
    rw [read, take?_eq_none_of_separates separates, refusal_of_separates separates]

def endStart (name : String) (tokens : List Token) : Position :=
  ((tokens.find? Token.isEnd).map Token.start).getD (endPosition name tokens)

theorem exists_beforeEnd (name : String) (tokens : List Token) :
    ∃ rest, tokens = beforeEnd tokens ++ rest ∧
      (facing (endPosition name tokens) rest).isEnd = true ∧
      (facing (endPosition name tokens) rest).start = endStart name tokens := by
  refine ⟨tokens.dropWhile fun t => !t.isEnd, List.takeWhile_append_dropWhile.symm, ?_⟩
  rw [endStart]
  generalize endPosition name tokens = stop
  induction tokens with
  | nil => exact ⟨rfl, rfl⟩
  | cons t tokens ih =>
    cases ends : t.isEnd with
    | true => simp [facing, ends]
    | false => simpa [ends] using ih

theorem parse_eq_ok_iff (name : String) (tokens : List Token) (s : Statement) :
    parse name tokens = .ok s ↔ Spells (beforeEnd tokens) s := by
  refine readOne_eq_ok_iff.trans ⟨?_, ?_⟩
  · intro h
    rcases h with ⟨w, rest, rfl, sentence, clear⟩
    obtain ⟨short, semicolons⟩ := trailing?_skipSemicolon.1 clear
    exact ⟨w, beforeEnd rest, beforeEnd_append sentence.not_isEnd rest, sentence, short, semicolons⟩
  · intro h
    rcases h with ⟨w, semicolons, split, sentence, short, kinds⟩
    have whole : tokens = w ++ (semicolons ++ tokens.dropWhile fun t => !t.isEnd) := by
      rw [← List.append_assoc, ← split]
      exact List.takeWhile_append_dropWhile.symm
    rw [whole, beforeEnd_append sentence.not_isEnd] at split
    have rest := List.append_cancel_left split
    refine ⟨w, _, whole, sentence, trailing?_skipSemicolon.2 ?_⟩
    rw [rest]
    exact ⟨short, kinds⟩

end SqlReader
