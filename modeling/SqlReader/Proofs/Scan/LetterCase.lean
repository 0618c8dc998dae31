import SqlReader.Proofs.Lexeme.LetterCase
import SqlReader.Proofs.Relabelling.Parsing
import SqlReader.Proofs.Scan.Selection

set_option autoImplicit false

namespace SqlReader

def Relabelling.upper : Relabelling := ⟨fun place => place, String.toUpper⟩

theorem Lexeme.token?_toUpper (name : String) (l : Lexeme) :
    l.toUpper.token? name = (l.token? name).map (Token.relabel .upper) := by
  have value : String.ofList l.toUpper.text = (String.ofList l.text).toUpper := by
    rw [toUpper_eq, String.toList_ofList, toUpper]
  have kind : l.toUpper.sort.kind? l.toUpper.text = l.sort.kind? l.text :=
    l.sort.kind?_toUpper l.text
  rw [token?, token?, kind, value, toUpper_size, Option.map_map]
  rfl

theorem outcome_toUpper (name : String) (offset : Nat) (s : List Char) :
    outcome name offset (s.map Char.toUpper) =
      relabelResult .upper (List.map (Token.relabel .upper)) (outcome name offset s) := by
  fun_induction Lexeme.split offset s with
  | case1 offset s none =>
    have nothing : Lexeme.next? offset (s.map Char.toUpper) = Option.none := by
      rw [Lexeme.next?_toUpper, none]
      rfl
    cases s with
    | nil =>
      have ending : "EOF".toUpper = "EOF" := by decide +kernel
      rw [List.map_nil, outcome_of_none none]
      simp [relabelResult, Token.relabel, Token.ending, Relabelling.upper, ending]
    | cons c s =>
      rw [List.map_cons, Lexeme.toUpper_of_next?_eq_none none] at nothing ⊢
      rw [outcome_of_none none, outcome_of_none nothing]
      rfl
  | case2 offset s l found _ later ih =>
    have taken : Lexeme.next? offset (s.map Char.toUpper) = some l.toUpper := by
      rw [Lexeme.next?_toUpper, found]
      rfl
    have length : l.toUpper.text.length = l.text.length := List.length_map _
    rw [outcome_of_some found, outcome_of_some taken, length, ← List.map_drop, l.toUpper_size, ih,
      l.token?_toUpper]
    cases outcome name (offset + l.size) (s.drop l.text.length) with
    | error e => rfl
    | ok tokens => cases l.token? name <;> rfl

theorem toUpper_eq_iff {s t : String} :
    s.toUpper = t.toUpper ↔ s.toList.map Char.toUpper = t.toList.map Char.toUpper := by
  rw [toUpper_eq, toUpper_eq, String.ofList_inj]

theorem Source.tokenize_error_of_upper {a b : Source} {e : SyntaxError}
    (alike : relabelResult .upper (List.map (Token.relabel .upper)) a.tokenize =
      relabelResult .upper (List.map (Token.relabel .upper)) b.tokenize)
    (refused : a.tokenize = .error e) : b.tokenize = .error e := by
  have fixed {s : Source} {e : SyntaxError} (h : s.tokenize = .error e) : e.relabel .upper = e := by
    rw [tokenize, Scan.result] at h
    split at h
    · cases h
    · cases h
      rfl
  cases result : b.tokenize with
  | ok tokens =>
    rw [refused, result] at alike
    cases alike
  | error f =>
    rw [refused, result] at alike
    have same : e.relabel .upper = f.relabel .upper := Except.error.inj alike
    rw [fixed refused, fixed result] at same
    rw [same]

/-- Texts that are the same in upper case are refused for the same reason, or are read alike. -/
theorem case_insensitive (name? : Option String) (first second : String)
    (same : first.toUpper = second.toUpper) :
    let a := Source.ofText name? first
    let b := Source.ofText name? second
    (∀ e, a.tokenize = .error e ↔ b.tokenize = .error e) ∧ ReadAlike .upper a b := by
  intro a b
  have alike : relabelResult .upper (List.map (Token.relabel .upper)) a.tokenize =
      relabelResult .upper (List.map (Token.relabel .upper)) b.tokenize := by
    rw [tokenize_eq_outcome, tokenize_eq_outcome, ← outcome_toUpper, ← outcome_toUpper]
    exact congrArg (outcome a.name 0) (toUpper_eq_iff.1 same)
  refine ⟨fun e => ⟨?_, ?_⟩, .of_tokens alike⟩
  · exact Source.tokenize_error_of_upper alike
  · exact Source.tokenize_error_of_upper alike.symm

theorem case_insensitive_insert :
    let first := "insert into Tab values ('aé') -- x"
    let second := "INSERT inTO tAB VALUES ('Aé') -- X"
    let a := Source.ofText none first
    let b := Source.ofText none second
    first.toUpper = second.toUpper ∧
      (∀ e, a.tokenize = .error e ↔ b.tokenize = .error e) ∧ ReadAlike .upper a b := by
  intro first second a b
  have same : first.toUpper = second.toUpper := toUpper_eq_iff.2 (by decide +kernel)
  exact ⟨same, case_insensitive none first second same⟩

end SqlReader
