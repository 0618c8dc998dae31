set_option autoImplicit false

namespace SqlReader

-- Characters whose full Unicode upper case is ASCII are mapped to it: the ASCII letters, the
-- dotless i, the long s, the sharp s and the Latin ligatures. Any other character is kept: if it is
-- in ASCII it is its own upper case, and if it is not, neither is its upper case.
def upperCaseOf (c : Char) : List Char :=
  match c with
  | 'ı' => ['I']
  | 'ſ' => ['S']
  | 'ß' => ['S', 'S']
  | 'ﬀ' => ['F', 'F']
  | 'ﬁ' => ['F', 'I']
  | 'ﬂ' => ['F', 'L']
  | 'ﬃ' => ['F', 'F', 'I']
  | 'ﬄ' => ['F', 'F', 'L']
  | 'ﬅ' => ['S', 'T']
  | 'ﬆ' => ['S', 'T']
  | _ => [c.toUpper]

def upperCase (s : List Char) : List Char := s.flatMap upperCaseOf

theorem toUpper_eq (s : String) : s.toUpper = String.ofList (s.toList.map Char.toUpper) := by
  apply String.toList_injective
  rw [String.toUpper, String.toList_map, String.toList_ofList]

theorem upperCase_of_ascii {s : List Char} (h : ∀ c ∈ s, c.toNat < 128) :
    upperCase s = s.map Char.toUpper := by
  induction s with
  | nil => rfl
  | cons c s ih =>
    have first : upperCaseOf c = [c.toUpper] := by
      have ascii := h c List.mem_cons_self
      unfold upperCaseOf
      split
      case h_11 => rfl
      all_goals exact absurd ascii (by decide)
    have rest := ih fun d member => h d (List.mem_cons_of_mem c member)
    simp only [upperCase] at rest
    simp [upperCase, first, rest]

end SqlReader
