import SqlReader.Lexeme
import SqlReader.Proofs.Lexeme.Longest

set_option autoImplicit false

namespace SqlReader.Lexeme

variable {offset : Nat} {s : List Char} {l : Lexeme}

-- The order of the classes does not matter, since only one of them can take anything.
theorem next?_eq_some_iff :
    next? offset s = some l ↔ l.offset = offset ∧ l.text = l.sort.munch s ∧ l.text ≠ [] := by
  constructor
  · intro h
    obtain ⟨text, nonempty, here⟩ := next?_eq_some h
    exact ⟨here, text, nonempty⟩
  · intro h
    obtain ⟨here, text, nonempty⟩ := h
    cases found : next? offset s with
    | none =>
      have empty := List.findSome?_eq_none_iff.1 found l.sort l.sort.mem_all
      split at empty
      next nothing => rw [nothing] at text; contradiction
      next => cases empty
    | some m =>
      obtain ⟨other, some, there⟩ := next?_eq_some found
      have same : m.sort = l.sort :=
        (LexicalClass.munch_holds (other ▸ some)).unique
          (LexicalClass.munch_holds (text ▸ nonempty)) (m.sort.munch_isPrefix s)
          (l.sort.munch_isPrefix s)
      obtain ⟨sort, written, place⟩ := l
      obtain ⟨_, _, _⟩ := m
      simp only at same here there text other
      subst same
      rw [here, there, text, other]

theorem next?_eq_none_iff : next? offset s = none ↔ ∀ c : LexicalClass, c.munch s = [] := by
  constructor
  · intro h c
    have empty := List.findSome?_eq_none_iff.1 h c c.mem_all
    split at empty
    next nothing => exact nothing
    next => cases empty
  · intro h
    cases found : next? offset s with
    | none => rfl
    | some m =>
      obtain ⟨text, nonempty, _⟩ := next?_eq_some found
      rw [h m.sort] at text
      contradiction

theorem next?_nil (offset : Nat) : next? offset [] = none :=
  next?_eq_none_iff.2 fun c => List.prefix_nil.1 (c.munch_isPrefix [])

theorem split_of_none (h : next? offset s = none) : split offset s = ([], s) := by
  rw [split]
  split
  next => rfl
  next found => rw [h] at found; cases found

theorem split_of_some (h : next? offset s = some l) :
    split offset s =
      (l :: (split (offset + l.size) (s.drop l.text.length)).1,
        (split (offset + l.size) (s.drop l.text.length)).2) := by
  rw [split]
  split
  next none => rw [h] at none; cases none
  next m found =>
    rw [h] at found
    cases found
    rfl

theorem holds_of_mem_split (member : l ∈ (split offset s).1) : l.sort.Holds l.text := by
  fun_induction split offset s with
  | case1 => cases member
  | case2 offset s first found _ later ih =>
    rcases List.mem_cons.1 member with rfl | behind
    · obtain ⟨text, nonempty, _⟩ := next?_eq_some found
      rw [text] at nonempty ⊢
      exact LexicalClass.munch_holds nonempty
    · exact ih behind

end SqlReader.Lexeme
