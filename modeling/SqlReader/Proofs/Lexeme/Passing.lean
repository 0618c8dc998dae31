import SqlReader.Proofs.Lexeme.Boundary

set_option autoImplicit false

namespace SqlReader

theorem LexicalClass.munch_cut_short {c : LexicalClass} {p s rest : List Char}
    (taken : c.munch (p ++ (s ++ rest)) = p) (nonempty : p ≠ []) : c.munch (p ++ s) = p := by
  have holds := munch_holds (c := c) (s := p ++ (s ++ rest)) (by rwa [taken])
  rw [taken] at holds
  obtain ⟨q, whole⟩ := isPrefix_munch (List.prefix_append p s) holds
  have within := c.munch_isPrefix (p ++ s)
  rw [← whole, List.prefix_append_right_inj] at within
  have longer := munch_holds (c := c) (s := p ++ s) (by simp [← whole, nonempty])
  rw [← whole] at longer
  have none := eq_nil_of_holds_append taken (within.trans (List.prefix_append s rest)) longer
  rw [← whole, none, List.append_nil]

namespace Lexeme

inductive Passes : Nat → List Char → List Lexeme → List Char → Prop
  | refl {offset : Nat} {s : List Char} : Passes offset s [] s
  | step {offset : Nat} {s rest : List Char} {l : Lexeme} {lexemes : List Lexeme}
      (found : next? offset s = some l)
      (later : Passes (offset + l.size) (s.drop l.text.length) lexemes rest) :
      Passes offset s (l :: lexemes) rest

variable {offset : Nat} {s rest : List Char} {l : Lexeme} {lexemes : List Lexeme}

theorem passes_split (offset : Nat) (s : List Char) :
    Passes offset s (split offset s).1 (split offset s).2 := by
  fun_induction split offset s with
  | case1 => exact .refl
  | case2 offset s l found _ later ih => exact .step found ih

theorem next?_split (offset : Nat) (s : List Char) : next? offset (split offset s).2 = none := by
  fun_induction split offset s with
  | case1 offset s none => exact none
  | case2 offset s l found _ later ih => exact next?_eq_none_iff.2 (next?_eq_none_iff.1 ih)

namespace Passes

theorem text_eq (h : Passes offset s lexemes rest) : s = lexemes.flatMap Lexeme.text ++ rest := by
  induction h with
  | refl => rfl
  | step found later ih => rw [List.flatMap_cons, List.append_assoc, ← ih, next?_append_drop found]

theorem split (h : Passes offset s lexemes rest) :
    Lexeme.split offset s =
      (lexemes ++ (Lexeme.split (offset + byteLength (lexemes.flatMap Lexeme.text)) rest).1,
        (Lexeme.split (offset + byteLength (lexemes.flatMap Lexeme.text)) rest).2) := by
  induction h with
  | refl => rfl
  | step found later ih =>
    rw [split_of_some found, ih, List.flatMap_cons, byteLength_append, size, ← Nat.add_assoc]
    rfl

theorem snoc (h : Passes offset s lexemes rest)
    (found : next? (offset + byteLength (lexemes.flatMap Lexeme.text)) rest = some l) :
    Passes offset s (lexemes ++ [l]) (rest.drop l.text.length) := by
  induction h with
  | refl => exact .step found .refl
  | step first later ih =>
    refine .step first (ih ?_)
    rwa [List.flatMap_cons, byteLength_append, ← Nat.add_assoc] at found

theorem length_le (h : Passes offset s lexemes rest) :
    lexemes.length ≤ byteLength (lexemes.flatMap Lexeme.text) := by
  induction h with
  | refl => exact Nat.le_refl 0
  | step found later ih =>
    have positive := byteLength_pos (next?_eq_some found).2.1
    rw [List.flatMap_cons, byteLength_append, List.length_cons]
    omega

theorem cut_short (h : Passes offset s lexemes rest) :
    Passes offset (lexemes.flatMap Lexeme.text) lexemes [] := by
  induction h with
  | refl => exact .refl
  | @step offset s rest l lexemes found later ih =>
    obtain ⟨here, taken, nonempty⟩ := next?_eq_some_iff.1 found
    have whole := next?_append_drop found
    rw [later.text_eq] at whole
    rw [← whole] at taken
    have shorter := LexicalClass.munch_cut_short taken.symm nonempty
    refine .step (next?_eq_some_iff.2 ⟨here, shorter.symm, nonempty⟩) ?_
    rwa [List.flatMap_cons, List.drop_left]

end Passes
end Lexeme
end SqlReader
