import SqlReader.Proofs.Lexeme.Boundary

set_option autoImplicit false

namespace SqlReader.Lexeme

inductive Covers : Nat → List Lexeme → List Char → Prop
  | nil {offset : Nat} : Covers offset [] []
  | cons {offset : Nat} {l : Lexeme} {lexemes : List Lexeme} {s : List Char}
      (here : l.offset = offset) (holds : l.sort.Holds l.text) (ends : l.sort.Ends s)
      (later : Covers (offset + l.size) lexemes s) : Covers offset (l :: lexemes) (l.text ++ s)

variable {offset : Nat} {lexemes : List Lexeme} {s : List Char}

theorem Covers.ends {c : LexicalClass} {p : List Char} (later : Covers offset lexemes s)
    (holds : c.Holds p) (taken : c.munch (p ++ s) = p) : c.Ends s := by
  cases later with
  | nil =>
    intro d none
    cases none
  | cons here follows ends later =>
    exact LexicalClass.ends_of_followed holds taken follows (List.prefix_append _ _)

theorem covers_split (h : (split offset s).2 = []) : Covers offset (split offset s).1 s := by
  fun_induction split offset s with
  | case1 offset s none =>
    cases h
    exact .nil
  | case2 offset s l found _ later ih =>
    obtain ⟨here, text, nonempty⟩ := next?_eq_some_iff.1 found
    have covered := ih h
    have whole := next?_append_drop found
    have holds := LexicalClass.munch_holds (text ▸ nonempty)
    rw [← text] at holds
    rw [← whole] at text
    have parts := Covers.cons here holds (covered.ends holds text.symm) covered
    rw [whole] at parts
    exact parts

end SqlReader.Lexeme
