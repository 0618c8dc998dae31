import SqlReader.Lexeme.Class

set_option autoImplicit false

namespace SqlReader

inductive Pattern
  | empty
  | char (allowed : Char → Bool)
  | seq (first second : Pattern)
  | alt (preferred other : Pattern)
  | star (body : Pattern)

namespace Pattern

def literal (c : Char) : Pattern := .char (· = c)

def plus (body : Pattern) : Pattern := .seq body (.star body)

def optional (body : Pattern) : Pattern := .alt body .empty

-- As many rounds as possible are preferred; a round that takes nothing does not count.
def repeated (step : List Char → List (List Char)) (s : List Char) : List (List Char) :=
  (step s).flatMap (fun t => if t.length < s.length then repeated step t else []) ++ [s]
termination_by s.length

-- What each match leaves of the text, in order of preference.
def rests : Pattern → List Char → List (List Char)
  | empty, s => [s]
  | char _, [] => []
  | char allowed, c :: s => if allowed c then [s] else []
  | seq first second, s => (first.rests s).flatMap second.rests
  | alt preferred other, s => preferred.rests s ++ other.rests s
  | star body, s => repeated body.rests s

def matched? (p : Pattern) (s : List Char) : Option (List Char) :=
  (p.rests s).head?.map fun rest => s.take (s.length - rest.length)

end Pattern

open Pattern in
def LexicalClass.pattern : LexicalClass → Pattern
  | blank => plus (.char isBlank)
  | comment => .seq (literal '-') (.seq (literal '-') (.star (.char (· ≠ '\n'))))
  | word => .seq (.char Munch.isWordStart) (.star (.char Munch.isWordPart))
  | number =>
    .seq (optional (literal '-'))
      (.seq (plus (.char Char.isDigit))
        (optional (.seq (literal '.') (plus (.char Char.isDigit)))))
  | text =>
    .seq (literal '\'')
      (.seq (.star (.alt (.char (· ≠ '\'')) (.seq (literal '\'') (literal '\'')))) (literal '\''))
  | mark m => literal m.char

namespace Pattern

variable {f : Char → Bool} {p q : Pattern} {s : List Char}

theorem rests_seq : (seq p q).rests s = (p.rests s).flatMap q.rests := rfl

theorem rests_optional : (optional p).rests s = p.rests s ++ [s] := rfl

theorem rests_literal_cons (c d : Char) (s : List Char) :
    (literal c).rests (d :: s) = if d = c then [s] else [] := by
  by_cases same : d = c <;> simp [literal, rests, same]

theorem rests_star_nil (p : Pattern) : (star p).rests [] = [[]] := by
  simp [rests, repeated]

theorem rests_star_step {t : List Char} (step : p.rests s = [t]) (shorter : t.length < s.length) :
    (star p).rests s = (star p).rests t ++ [s] := by
  simp only [rests]
  rw [repeated, step]
  simp [shorter]

theorem rests_star_stuck (step : p.rests s = []) : (star p).rests s = [s] := by
  simp only [rests]
  rw [repeated, step]
  rfl

theorem head?_star_char (f : Char → Bool) (s : List Char) :
    ((star (char f)).rests s).head? = some (s.dropWhile f) := by
  induction s with
  | nil => rw [rests_star_nil]; rfl
  | cons c s ih =>
    by_cases taken : f c = true
    · rw [rests_star_step (t := s) (by simp [rests, taken]) (by simp), List.head?_append, ih]
      simp [taken]
    · rw [rests_star_stuck (by simp [rests, taken])]
      simp [taken]

theorem head?_seq {next : List Char → List Char} (sure : ∀ s, (q.rests s).head? = some (next s)) :
    ((seq p q).rests s).head? = (p.rests s).head?.map next := by
  rw [rests_seq]
  cases p.rests s with
  | nil => rfl
  | cons t rest => simp [List.head?_append, sure]

theorem head?_optional : ((optional p).rests s).head? = some ((p.rests s).head?.getD s) := by
  cases matching : p.rests s <;> simp [optional, rests, matching]

theorem head?_plus_char (f : Char → Bool) (s : List Char) :
    ((plus (char f)).rests s).head? =
      if s.takeWhile f = [] then none else some (s.dropWhile f) := by
  rw [plus, head?_seq (head?_star_char f)]
  cases s with
  | nil => rfl
  | cons c s => by_cases taken : f c = true <;> simp [rests, taken]

theorem drop_takeWhile (f : Char → Bool) (s : List Char) :
    s.drop (s.takeWhile f).length = s.dropWhile f := by
  induction s with
  | nil => rfl
  | cons c s ih => by_cases taken : f c = true <;> simp [taken, ih]

theorem head?_fraction (s : List Char) :
    ((optional (seq (literal '.') (plus (char Char.isDigit)))).rests s).head? =
      some (s.drop (Munch.fraction s).length) := by
  rw [head?_optional]
  cases s with
  | nil => rfl
  | cons c s =>
    by_cases point : c = '.'
    · subst point
      rw [rests_seq, rests_literal_cons, if_pos rfl, List.flatMap_singleton, head?_plus_char]
      cases digits : s.takeWhile Char.isDigit with
      | nil => simp [Munch.fraction, digits]
      | cons d rest =>
        have dropped := drop_takeWhile Char.isDigit s
        rw [digits] at dropped
        simp [Munch.fraction, digits, ← dropped]
    · have none : Munch.fraction (c :: s) = [] := by
        unfold Munch.fraction
        split
        next same => cases same; contradiction
        next => rfl
      rw [rests_seq, rests_literal_cons, if_neg point, none]
      rfl

theorem head?_unsigned (s : List Char) :
    ((seq (plus (char Char.isDigit))
        (optional (seq (literal '.') (plus (char Char.isDigit))))).rests s).head? =
      if Munch.unsigned s = [] then none else some (s.drop (Munch.unsigned s).length) := by
  rw [head?_seq head?_fraction, head?_plus_char, ← drop_takeWhile]
  cases digits : s.takeWhile Char.isDigit with
  | nil => simp [Munch.unsigned, digits]
  | cons d rest => simp [Munch.unsigned, digits, List.drop_drop, Nat.add_right_comm]

theorem head?_number (s : List Char) :
    (LexicalClass.number.pattern.rests s).head? =
      if Munch.number s = [] then none else some (s.drop (Munch.number s).length) := by
  have unsigned := head?_unsigned s
  simp only [LexicalClass.pattern]
  rw [rests_seq, rests_optional]
  cases s with
  | nil => rfl
  | cons c s =>
    by_cases dash : c = '-'
    · subst dash
      have fails : Munch.unsigned ('-' :: s) = [] := rfl
      rw [rests_literal_cons, if_pos rfl, List.singleton_append, List.flatMap_cons,
        List.flatMap_singleton, List.head?_append, unsigned, fails, head?_unsigned]
      cases digits : Munch.unsigned s <;> simp [Munch.number, digits]
    · have same : Munch.number (c :: s) = Munch.unsigned (c :: s) := by
        unfold Munch.number
        split
        next same => cases same; contradiction
        next => rfl
      rw [rests_literal_cons, if_neg dash, List.nil_append, List.flatMap_singleton, unsigned,
        same]

-- The rounds go on as long as they can, and are given up one by one until an apostrophe is left.
theorem head?_toClose (s : List Char) :
    ((seq (star (alt (char (· ≠ '\'')) (seq (literal '\'') (literal '\'')))) (literal '\'')).rests
        s).head? = (Munch.toClose? s).map fun taken => s.drop taken.length := by
  have apostrophe (s : List Char) : (literal '\'').rests ('\'' :: s) = [s] := by
    simp [rests_literal_cons]
  rw [rests_seq]
  fun_induction Munch.toClose? s with
  | case1 => rw [rests_star_nil]; rfl
  | case2 s rest closed ih =>
    rw [rests_star_step (t := s) (by simp [rests, literal])
      (by simp only [List.length_cons]; omega), List.flatMap_append,
      List.head?_append, ih, closed]
    simp
  | case3 s still ih =>
    rw [rests_star_step (t := s) (by simp [rests, literal])
      (by simp only [List.length_cons]; omega), List.flatMap_append,
      List.head?_append, ih, still, List.flatMap_singleton, apostrophe]
    rfl
  | case4 s lone =>
    have stuck :
        (alt (char (· ≠ '\'')) (seq (literal '\'') (literal '\''))).rests ('\'' :: s) = [] := by
      cases s with
      | nil => simp [rests, literal]
      | cons c s =>
        have other : c ≠ '\'' := by
          rintro rfl
          exact lone s rfl rfl
        simp [rests, literal, other]
    rw [rests_star_stuck stuck, List.flatMap_singleton, apostrophe]
    rfl
  | case5 c s _ other ih =>
    rw [rests_star_step (t := s) (by simp [rests, literal, other]) (by simp),
      List.flatMap_append, List.head?_append, ih, List.flatMap_singleton, rests_literal_cons,
      if_neg other]
    cases Munch.toClose? s <;> simp

end Pattern

namespace LexicalClass

theorem head?_comment (s : List Char) :
    (comment.pattern.rests s).head? =
      if Munch.comment s = [] then none else some (s.drop (Munch.comment s).length) := by
  by_cases dashes : ∃ rest, s = '-' :: '-' :: rest
  · obtain ⟨rest, rfl⟩ := dashes
    rw [pattern, Pattern.rests_seq, Pattern.rests_literal_cons, if_pos rfl,
      List.flatMap_singleton, Pattern.head?_seq (Pattern.head?_star_char _),
      Pattern.rests_literal_cons, if_pos rfl, List.head?_cons, Option.map_some,
      ← Pattern.drop_takeWhile]
    rfl
  · have none : Munch.comment s = [] := by
      unfold Munch.comment
      split
      next => exact absurd ⟨_, rfl⟩ dashes
      next => rfl
    rw [if_pos none, pattern]
    cases s with
    | nil => rfl
    | cons c s =>
      by_cases first : c = '-'
      · cases s with
        | nil => simp [Pattern.rests, Pattern.literal, first]
        | cons d rest =>
          have second : d ≠ '-' := by
            intro same
            exact dashes ⟨rest, by rw [first, same]⟩
          simp [Pattern.rests, Pattern.literal, first, second]
      · simp [Pattern.rests, Pattern.literal, first]

theorem head?_text (s : List Char) :
    (text.pattern.rests s).head? =
      if Munch.text s = [] then none else some (s.drop (Munch.text s).length) := by
  cases s with
  | nil => rfl
  | cons c s =>
    rw [pattern, Pattern.rests_seq, Pattern.rests_literal_cons]
    by_cases quote : c = '\''
    · subst quote
      rw [if_pos rfl, List.flatMap_singleton, Pattern.head?_toClose]
      cases closed : Munch.toClose? s <;> simp [Munch.text, closed]
    · have none : Munch.text (c :: s) = [] := by
        unfold Munch.text
        split
        next same => cases same; contradiction
        next => rfl
      rw [if_neg quote, if_pos none]
      rfl

theorem head?_pattern (c : LexicalClass) (s : List Char) :
    (c.pattern.rests s).head? =
      if c.munch s = [] then none else some (s.drop (c.munch s).length) := by
  cases c with
  | blank =>
    rw [pattern, Pattern.head?_plus_char, ← Pattern.drop_takeWhile]
    rfl
  | comment => exact head?_comment s
  | word =>
    rw [pattern, Pattern.head?_seq (Pattern.head?_star_char _)]
    cases s with
    | nil => rfl
    | cons c s =>
      by_cases start : Munch.isWordStart c = true <;>
        simp [Pattern.rests, munch, Munch.word, start, Pattern.drop_takeWhile]
  | number => exact Pattern.head?_number s
  | text => exact head?_text s
  | mark m =>
    cases s with
    | nil => rfl
    | cons c s =>
      by_cases same : c = m.char <;>
        simp [pattern, Pattern.rests_literal_cons, munch, Munch.mark, same]

theorem matched?_pattern (c : LexicalClass) (s : List Char) :
    c.pattern.matched? s = if c.munch s = [] then none else some (c.munch s) := by
  have front : s.take (c.munch s).length = c.munch s :=
    (List.prefix_iff_eq_take.1 (c.munch_isPrefix s)).symm
  have short : (c.munch s).length ≤ s.length := (c.munch_isPrefix s).length_le
  have behind : s.length - (s.length - (c.munch s).length) = (c.munch s).length := by omega
  rw [Pattern.matched?, head?_pattern]
  split
  next => rfl
  next => simp [behind, front]

end LexicalClass
end SqlReader
