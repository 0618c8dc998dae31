import SqlReader.Proofs.Lexeme.Membership

set_option autoImplicit false

namespace SqlReader
namespace Munch

theorem isPrefix_takeWhile {f : Char → Bool} {p s : List Char} (within : p <+: s)
    (all : ∀ c ∈ p, f c = true) : p <+: s.takeWhile f := by
  obtain ⟨rest, rfl⟩ := within
  rw [List.takeWhile_append_of_pos all]
  exact List.prefix_append _ _

theorem all_takeWhile (f : Char → Bool) (s : List Char) : ∀ c ∈ s.takeWhile f, f c = true := by
  intro c member
  exact List.all_eq_true.1 (List.all_takeWhile (p := f) (l := s)) c member

theorem takeWhile_digits {digits : List Char} (h : Digits digits) (s : List Char) :
    ∃ more, (digits ++ s).takeWhile Char.isDigit = digits ++ more := by
  obtain ⟨more, same⟩ := isPrefix_takeWhile (List.prefix_append digits s) h.2
  exact ⟨more, same.symm⟩

theorem fraction_point {s : List Char} (h : s.takeWhile Char.isDigit ≠ []) :
    fraction ('.' :: s) = '.' :: s.takeWhile Char.isDigit := by
  cases digits : s.takeWhile Char.isDigit with
  | nil => contradiction
  | cons d rest => simp [fraction, digits]

theorem number_dash {s : List Char} (h : unsigned s ≠ []) :
    number ('-' :: s) = '-' :: unsigned s := by
  cases digits : unsigned s with
  | nil => contradiction
  | cons d rest => simp [number, digits]

theorem fraction_holds (s : List Char) : Fraction (fraction s) := by
  unfold fraction
  split
  next s =>
    split
    next => exact .inl rfl
    next digits nonempty =>
      exact .inr ⟨_, rfl, nonempty, all_takeWhile _ _⟩
  next => exact .inl rfl

theorem isPrefix_fraction {p s : List Char} (within : p <+: s) (h : Fraction p) :
    p <+: fraction s := by
  rcases h with rfl | ⟨digits, rfl, run⟩
  · exact List.nil_prefix
  · obtain ⟨rest, rfl⟩ := within
    obtain ⟨more, taken⟩ := takeWhile_digits run rest
    rw [List.cons_append, fraction_point (by simp [taken, run.1]), taken]
    exact List.cons_prefix_cons.2 ⟨rfl, List.prefix_append _ _⟩

theorem unsigned_holds {s : List Char} (h : unsigned s ≠ []) :
    ∃ digits point, unsigned s = digits ++ point ∧ Digits digits ∧ Fraction point := by
  unfold unsigned at h ⊢
  split
  next none => simp [none] at h
  next digits nonempty =>
    exact ⟨_, _, rfl, ⟨nonempty, all_takeWhile _ _⟩, fraction_holds _⟩

-- With a point behind them the digits are the whole run of digits.
theorem isPrefix_unsigned {digits point s : List Char} (within : digits ++ point <+: s)
    (run : Digits digits) (h : Fraction point) : digits ++ point <+: unsigned s := by
  obtain ⟨rest, rfl⟩ := within
  rw [List.append_assoc]
  obtain ⟨more, taken⟩ := takeWhile_digits run (point ++ rest)
  have nonempty : digits ++ more ≠ [] := by simp [run.1]
  unfold unsigned
  rw [taken]
  split
  next empty => exact absurd empty nonempty
  next =>
    rcases h with rfl | ⟨behind, rfl, after⟩
    · simp
    · have stop : ('.' :: behind ++ rest).takeWhile Char.isDigit = [] := rfl
      rw [List.takeWhile_append_of_pos run.2, stop] at taken
      have none : more = [] := by simpa using taken
      subst none
      simp only [List.append_nil, List.drop_left]
      refine (List.prefix_append_right_inj _).2 (isPrefix_fraction (List.prefix_append _ _) ?_)
      exact .inr ⟨behind, rfl, after⟩

theorem number_of_digit {c : Char} (digit : c.isDigit = true) (s : List Char) :
    number (c :: s) = unsigned (c :: s) := by
  unfold number
  split
  next same =>
    cases same
    exact absurd digit (by decide)
  next => rfl

theorem toClose?_plain {c : Char} (other : c ≠ '\'') (s : List Char) :
    toClose? (c :: s) = (toClose? s).map (c :: ·) := by
  rw [toClose?]
  · simp [other]
  · intro t same
    cases same
    contradiction

theorem toClose?_holds {s taken : List Char} (h : toClose? s = some taken) :
    ∃ inner, taken = inner ++ ['\''] ∧ Doubled inner := by
  fun_induction toClose? s generalizing taken with
  | case1 => cases h
  | case2 s rest closed ih =>
    cases h
    obtain ⟨inner, rfl, doubled⟩ := ih closed
    exact ⟨'\'' :: '\'' :: inner, rfl, .pair doubled⟩
  | case3 s still ih => cases h; exact ⟨[], rfl, .nil⟩
  | case4 s => cases h; exact ⟨[], rfl, .nil⟩
  | case5 c s _ other ih =>
    obtain ⟨rest, closed, rfl⟩ := Option.map_eq_some_iff.1 h
    obtain ⟨inner, rfl, doubled⟩ := ih closed
    exact ⟨c :: inner, rfl, .plain other doubled⟩

theorem toClose?_doubled {inner : List Char} (h : Doubled inner) (s : List Char) :
    ∃ more, toClose? (inner ++ '\'' :: s) = some (inner ++ '\'' :: more) := by
  induction h with
  | nil =>
    rw [List.nil_append]
    unfold toClose?
    split
    next empty => cases empty
    next s same =>
      cases same
      split
      next rest _ => exact ⟨_, rfl⟩
      next => exact ⟨[], rfl⟩
    next c s _ same => cases same; exact ⟨[], rfl⟩
  | plain other _ ih =>
    obtain ⟨more, closed⟩ := ih
    exact ⟨more, by simp [toClose?_plain other, closed]⟩
  | pair _ ih =>
    obtain ⟨more, closed⟩ := ih
    exact ⟨more, by simp [toClose?, closed]⟩

end Munch

namespace LexicalClass

theorem munch_holds {c : LexicalClass} {s : List Char} (h : c.munch s ≠ []) :
    c.Holds (c.munch s) := by
  cases c with
  | blank => exact ⟨h, Munch.all_takeWhile _ _⟩
  | comment =>
    simp only [munch, Munch.comment] at h ⊢
    split at h
    next s => exact ⟨_, rfl, fun c member => by simpa using Munch.all_takeWhile _ _ c member⟩
    next => contradiction
  | word =>
    simp only [munch, Munch.word] at h ⊢
    split at h
    next c s =>
      split at h
      next start =>
        rw [if_pos start]
        exact ⟨c, _, rfl, start, Munch.all_takeWhile _ _⟩
      next => contradiction
    next => contradiction
  | number =>
    simp only [munch, Munch.number] at h ⊢
    split at h
    next s =>
      split at h
      next => contradiction
      next nonempty =>
        obtain ⟨digits, point, same, run, fraction⟩ := Munch.unsigned_holds nonempty
        exact ⟨['-'], digits, point, congrArg ('-' :: ·) same, .inr rfl, run, fraction⟩
    next =>
      obtain ⟨digits, point, same, run, fraction⟩ := Munch.unsigned_holds h
      exact ⟨[], digits, point, same, .inl rfl, run, fraction⟩
  | text =>
    simp only [munch, Munch.text] at h ⊢
    split at h
    next s =>
      split at h
      next rest closed =>
        obtain ⟨inner, rfl, doubled⟩ := Munch.toClose?_holds closed
        exact ⟨inner, rfl, doubled⟩
      next => contradiction
    next => contradiction
  | mark m =>
    simp only [munch, Munch.mark] at h ⊢
    split at h
    next c s =>
      split at h
      next same => rw [if_pos same, same]; rfl
      next => contradiction
    next => contradiction

theorem isPrefix_munch {c : LexicalClass} {p s : List Char} (within : p <+: s) (h : c.Holds p) :
    p <+: c.munch s := by
  cases c with
  | blank => exact Munch.isPrefix_takeWhile within h.2
  | comment =>
    obtain ⟨body, rfl, inside⟩ := h
    obtain ⟨rest, rfl⟩ := within
    have taken := Munch.isPrefix_takeWhile (f := (· ≠ '\n')) (List.prefix_append body rest)
      (by simpa using inside)
    exact List.cons_prefix_cons.2 ⟨rfl, List.cons_prefix_cons.2 ⟨rfl, taken⟩⟩
  | word =>
    obtain ⟨c, body, rfl, start, parts⟩ := h
    obtain ⟨rest, rfl⟩ := within
    have taken := Munch.isPrefix_takeWhile (List.prefix_append body rest) parts
    simp only [munch, Munch.word, List.cons_append, if_pos start]
    exact List.cons_prefix_cons.2 ⟨rfl, taken⟩
  | number =>
    obtain ⟨sign, digits, point, rfl, signs, run, fraction⟩ := h
    obtain ⟨rest, rfl⟩ := within
    have taken := Munch.isPrefix_unsigned (List.prefix_append _ rest) run fraction
    rcases signs with rfl | rfl
    · cases digits with
      | nil => exact absurd rfl run.1
      | cons d digits =>
        have whole := Munch.number_of_digit (run.2 d List.mem_cons_self) (digits ++ point ++ rest)
        simp only [munch, List.nil_append]
        exact whole ▸ taken
    · have nonempty : Munch.unsigned (digits ++ point ++ rest) ≠ [] := by
        intro empty
        rw [empty, List.prefix_nil, List.append_eq_nil_iff] at taken
        exact run.1 taken.1
      change '-' :: (digits ++ point) <+: Munch.number ('-' :: (digits ++ point ++ rest))
      rw [Munch.number_dash nonempty]
      exact List.cons_prefix_cons.2 ⟨rfl, taken⟩
  | text =>
    obtain ⟨inner, rfl, doubled⟩ := h
    obtain ⟨rest, rfl⟩ := within
    obtain ⟨more, closed⟩ := Munch.toClose?_doubled doubled rest
    have same : '\'' :: (inner ++ ['\'']) ++ rest = '\'' :: (inner ++ '\'' :: rest) := by simp
    simp only [munch, same, Munch.text, closed]
    exact ⟨more, by simp⟩
  | mark m =>
    rw [Holds] at h
    subst h
    obtain ⟨rest, rfl⟩ := within
    simp [munch, Munch.mark]

end LexicalClass
end SqlReader
