import SqlReader.Proofs.Lexeme.Cutting

set_option autoImplicit false

namespace SqlReader
namespace LexicalClass

def Continues : LexicalClass → Char → Prop
  | blank, d => isBlank d = true
  | comment, d => d ≠ '\n'
  | word, d => Munch.isWordPart d = true
  | number, d => d.isDigit = true ∨ d = '.'
  | text, d => d = '\''
  | mark _, _ => False

def Ends (c : LexicalClass) (rest : List Char) : Prop := ∀ d ∈ rest.head?, ¬ c.Continues d

theorem number_continues {c : Char} {s : List Char} (h : number.Holds (c :: s)) :
    ∀ d ∈ s, d.isDigit = true ∨ d = '.' := by
  obtain ⟨sign, digits, point, whole, signs, run, fraction⟩ := h
  have unsigned : ∀ d ∈ digits ++ point, d.isDigit = true ∨ d = '.' := by
    intro d member
    rcases List.mem_append.1 member with inside | behind
    · exact .inl (run.2 d inside)
    · rcases fraction with rfl | ⟨more, rfl, after⟩
      · cases behind
      · rcases List.mem_cons.1 behind with rfl | inside
        · exact .inr rfl
        · exact .inl (after.2 d inside)
  intro d member
  apply unsigned
  rcases signs with rfl | rfl
  · rw [List.nil_append] at whole
    rw [← whole]
    exact List.mem_cons_of_mem c member
  · have rest : s = digits ++ point := (List.cons.inj whole).2
    exact rest ▸ member

theorem doubled_continues {inner longer q : List Char} {d : Char} (h : Doubled inner)
    (doubled : Doubled longer) (whole : inner ++ '\'' :: d :: q = longer ++ ['\'']) : d = '\'' := by
  induction h generalizing longer with
  | nil =>
    cases doubled with
    | nil => simp at whole
    | plain other rest =>
      have first := (List.cons.inj whole).1
      exact absurd first.symm other
    | pair rest => exact (List.cons.inj (List.cons.inj whole).2).1
  | @plain c inner other rest ih =>
    cases doubled with
    | nil =>
      have first := (List.cons.inj whole).1
      exact absurd first other
    | plain other rest => exact ih rest (List.cons.inj whole).2
    | pair rest =>
      have first := (List.cons.inj whole).1
      exact absurd first other
  | pair rest ih =>
    cases doubled with
    | nil => simp at whole
    | plain other rest =>
      have first := (List.cons.inj whole).1
      exact absurd first.symm other
    | pair rest => exact ih rest (List.cons.inj (List.cons.inj whole).2).2

theorem Holds.continues {c : LexicalClass} {p q : List Char} {d : Char} (h : c.Holds p)
    (longer : c.Holds (p ++ d :: q)) : c.Continues d := by
  cases c with
  | blank => exact longer.2 d (by simp)
  | comment =>
    obtain ⟨body, rfl, -⟩ := h
    obtain ⟨rest, whole, inside⟩ := longer
    have same : body ++ d :: q = rest := (List.cons.inj (List.cons.inj whole).2).2
    exact inside d (by simp [← same])
  | word =>
    obtain ⟨c, body, rfl, -⟩ := h
    obtain ⟨_, rest, whole, -, parts⟩ := longer
    have same : body ++ d :: q = rest := (List.cons.inj whole).2
    exact parts d (by simp [← same])
  | number =>
    cases p with
    | nil => exact absurd rfl h.ne_nil
    | cons c p => exact number_continues longer d (by simp)
  | text =>
    obtain ⟨inner, rfl, doubled⟩ := h
    obtain ⟨rest, whole, other⟩ := longer
    have same : inner ++ '\'' :: d :: q = rest ++ ['\''] := by simpa using whole
    exact doubled_continues doubled other same
  | mark m =>
    rw [Holds] at h longer
    rw [h] at longer
    simp at longer

theorem munch_append {c : LexicalClass} {p rest : List Char} (h : c.Holds p)
    (ends : c.Ends rest) : c.munch (p ++ rest) = p := by
  obtain ⟨more, taken⟩ := isPrefix_munch (List.prefix_append p rest) h
  cases more with
  | nil => rw [← taken, List.append_nil]
  | cons d q =>
    have within := c.munch_isPrefix (p ++ rest)
    rw [← taken, List.prefix_append_right_inj] at within
    obtain ⟨later, rfl⟩ := within
    have nonempty : c.munch (p ++ (d :: q ++ later)) ≠ [] := by
      rw [← taken]
      simp
    have longer := munch_holds nonempty
    rw [← taken] at longer
    exact absurd (h.continues longer) (ends d rfl)

theorem eq_nil_of_holds_append {c : LexicalClass} {p q s : List Char}
    (taken : c.munch (p ++ s) = p) (within : q <+: s) (longer : c.Holds (p ++ q)) : q = [] := by
  have whole := isPrefix_munch ((List.prefix_append_right_inj p).2 within) longer
  rw [taken] at whole
  have bound := whole.length_le
  rw [List.length_append] at bound
  exact List.length_eq_zero_iff.1 (by omega)

theorem number_holds_digit {p : List Char} {d : Char} (h : number.Holds p)
    (digit : d.isDigit = true) : number.Holds (p ++ [d]) := by
  have run_append {digits : List Char} (run : Digits digits) : Digits (digits ++ [d]) :=
    ⟨by simp, List.forall_mem_append.2 ⟨run.2, List.forall_mem_singleton.2 digit⟩⟩
  obtain ⟨sign, digits, point, rfl, signs, run, fraction⟩ := h
  rcases fraction with rfl | ⟨more, rfl, after⟩
  · exact ⟨sign, digits ++ [d], [], by simp, signs, run_append run, .inl rfl⟩
  · exact ⟨sign, digits, '.' :: (more ++ [d]), by simp, signs, run,
      .inr ⟨more ++ [d], rfl, run_append after⟩⟩

theorem doubled_append {s t : List Char} (first : Doubled s) (second : Doubled t) :
    Doubled (s ++ t) := by
  induction first with
  | nil => exact second
  | plain other _ ih => exact .plain other ih
  | pair _ ih => exact .pair ih

theorem text_holds_append {p q : List Char} (first : text.Holds p) (second : text.Holds q) :
    text.Holds (p ++ q) := by
  obtain ⟨inner, rfl, doubled⟩ := first
  obtain ⟨other, rfl, also⟩ := second
  exact ⟨inner ++ '\'' :: '\'' :: other, by simp, doubled_append doubled (.pair also)⟩

-- A point is no lexeme, and two text literals side by side would have been one.
theorem ends_of_followed {c d : LexicalClass} {p q s : List Char} (h : c.Holds p)
    (taken : c.munch (p ++ s) = p) (follows : d.Holds q) (within : q <+: s) : c.Ends s := by
  intro e first goes
  obtain ⟨rest, rfl⟩ := List.head?_eq_some_iff.1 first
  have stops : ¬ c.Holds (p ++ [e]) := by
    intro longer
    have none := eq_nil_of_holds_append taken (q := [e]) ⟨rest, rfl⟩ longer
    cases none
  obtain ⟨later, same⟩ := within
  have opens := opener_append follows later
  rw [same] at opens
  cases c with
  | blank =>
    exact stops ⟨by simp, List.forall_mem_append.2 ⟨h.2, List.forall_mem_singleton.2 goes⟩⟩
  | comment =>
    obtain ⟨body, rfl, inside⟩ := h
    have longer := List.forall_mem_append.2 ⟨inside, List.forall_mem_singleton.2 goes⟩
    exact stops ⟨body ++ [e], by simp, longer⟩
  | word =>
    obtain ⟨a, body, rfl, start, parts⟩ := h
    have longer := List.forall_mem_append.2 ⟨parts, List.forall_mem_singleton.2 goes⟩
    exact stops ⟨a, body ++ [e], by simp, start, longer⟩
  | number =>
    rcases goes with digit | rfl
    · exact stops (number_holds_digit h digit)
    · cases opens
  | text =>
    rw [Continues] at goes
    subst goes
    have literal : d = .text := (Option.some.inj opens).symm
    subst literal
    have none := eq_nil_of_holds_append taken ⟨later, same⟩ (text_holds_append h follows)
    exact follows.ne_nil none
  | mark m => exact goes

end LexicalClass

theorem Lexeme.split_append {c : LexicalClass} {p rest : List Char} (h : c.Holds p)
    (ends : c.Ends rest) (offset : Nat) :
    split offset (p ++ rest) =
      (⟨c, p, offset⟩ :: (split (offset + byteLength p) rest).1,
        (split (offset + byteLength p) rest).2) := by
  have taken := LexicalClass.munch_append h ends
  have cut : next? offset (p ++ rest) = some ⟨c, p, offset⟩ :=
    next?_eq_some_iff.2 ⟨rfl, taken.symm, h.ne_nil⟩
  have later := split_of_some cut
  rw [List.drop_left] at later
  exact later

end SqlReader
