import SqlReader.Proofs.Text.Utf8
import SqlReader.Text.Line

set_option autoImplicit false

namespace SqlReader

inductive Lined : List Char → List (List Char) → Prop
  | nil : Lined [] []
  | last {body : List Char} (nonempty : body ≠ []) (single : '\n' ∉ body) : Lined body [body]
  | line {body s : List Char} {rest : List (List Char)} (single : '\n' ∉ body)
      (later : Lined s rest) : Lined (body ++ ['\n'] ++ s) ((body ++ ['\n']) :: rest)

theorem lined_lines (s : List Char) : Lined s (lines s) := by
  induction s with
  | nil => exact .nil
  | cons c s ih =>
    rw [lines]
    by_cases ends : c = '\n'
    · rw [if_pos ends, ends]
      have empty : '\n' ∉ ([] : List Char) := List.not_mem_nil
      exact .line empty ih
    · rw [if_neg ends]
      have longer {body : List Char} (single : '\n' ∉ body) : '\n' ∉ c :: body := by
        simp [single, Ne.symm ends]
      generalize lines s = cut at ih
      cases ih with
      | nil => exact .last (by simp) (longer List.not_mem_nil)
      | last nonempty single => exact .last (by simp) (longer single)
      | @line body s rest single later => exact .line (longer single) later

-- The line is what lies between `above` and `below`, and `p` parts its bytes in `left` and `right`.
structure Line.Holds (line : Line) (first : Nat) (text : List Char) (p : Nat)
    (above below : List Char) (left right : List UInt8) : Prop where
  whole : text = above ++ line.text ++ below
  parts : utf8 line.text = left ++ right
  place : byteLength above + left.length = p
  column : line.column = left.length
  number : line.number = first + ((utf8 text).take p).count newline
  starts : ∀ c ∈ above.getLast?, c = '\n'
  before : newline ∉ left
  stops : (newline ∉ right ∧ below = []) ∨ ∃ inner, right = inner ++ [newline] ∧ newline ∉ inner

namespace Line

variable {row body s : List Char} {rows : List (List Char)} {first p : Nat}

theorem locate_here (inside : p < byteLength row ∨ p = byteLength row ∧ row.getLast? ≠ some '\n') :
    locate first (row :: rows) p = some ⟨first, row, p⟩ := by
  rw [locate]
  exact if_pos (by simpa using inside)

theorem locate_below (outside : ¬ (p < byteLength row ∨ p = byteLength row ∧
    row.getLast? ≠ some '\n')) :
    locate first (row :: rows) p = locate (first + 1) rows (p - byteLength row) := by
  rw [locate]
  exact if_neg (by simpa using outside)

theorem locate_eq_none (past : byteLength rows.flatten < p) : locate first rows p = none := by
  induction rows generalizing first p with
  | nil => exact if_neg (Nat.ne_of_gt past)
  | cons row rows ih =>
    rw [List.flatten_cons, byteLength_append] at past
    rw [locate_below (by omega)]
    exact ih (by omega)

theorem holds_first (first : Nat) {close below : List Char} (single : '\n' ∉ body)
    (within : p ≤ byteLength body) (closes : close = [] ∧ below = [] ∨ close = ['\n']) :
    Line.Holds ⟨first, body ++ close, p⟩ first (body ++ close ++ below) p [] below
      ((utf8 body).take p) ((utf8 body).drop p ++ utf8 close) := by
  have clear : newline ∉ utf8 body := mt newline_mem_utf8_iff.1 single
  have before : newline ∉ (utf8 body).take p := fun member => clear (List.mem_of_mem_take member)
  have behind : newline ∉ (utf8 body).drop p := fun member => clear (List.mem_of_mem_drop member)
  have size : p ≤ (utf8 body).length := length_utf8 body ▸ within
  have length : ((utf8 body).take p).length = p := List.length_take_of_le size
  constructor
  · rfl
  · rw [← List.append_assoc, List.take_append_drop, utf8_append]
  · rw [length, byteLength_nil, Nat.zero_add]
  · exact length.symm
  · rw [utf8_append, utf8_append, List.append_assoc, List.take_append_of_le_length size,
      List.count_eq_zero.2 before]
    rfl
  · simp
  · exact before
  · rcases closes with ⟨rfl, rfl⟩ | rfl
    · exact .inl ⟨by simpa using behind, rfl⟩
    · exact .inr ⟨_, rfl, behind⟩

theorem Holds.below_row {line : Line} {above below : List Char} {left right : List UInt8}
    (h : line.Holds (first + 1) s p above below left right) (once : row.count '\n' = 1)
    (ends : row.getLast? = some '\n') :
    line.Holds first (row ++ s) (byteLength row + p) (row ++ above) below left right := by
  constructor
  · rw [h.whole, List.append_assoc, List.append_assoc, List.append_assoc]
  · exact h.parts
  · rw [byteLength_append, ← h.place, Nat.add_assoc]
  · exact h.column
  · rw [h.number, utf8_append, ← length_utf8, List.take_length_add_append, List.count_append,
      count_utf8, once, Nat.add_assoc]
  · intro c last
    rw [List.getLast?_append] at last
    cases chars : above.getLast? with
    | none =>
      rw [chars, ends] at last
      exact (Option.some.inj last).symm
    | some d =>
      rw [chars] at last
      exact h.starts c (chars.trans last)
  · exact h.before
  · exact h.stops

theorem Holds.text_eq {line : Line} {above below : List Char} {left right : List UInt8}
    (h : line.Holds first s p above below left right) :
    ∃ body, '\n' ∉ body ∧ (line.text = body ∨ line.text = body ++ ['\n']) := by
  rcases h.stops with ⟨clear, -⟩ | ⟨inner, rfl, clear⟩
  · refine ⟨line.text, ?_, .inl rfl⟩
    rw [← newline_mem_utf8_iff, h.parts, List.mem_append]
    exact fun member => member.elim h.before clear
  · have parts := h.parts
    rw [← List.append_assoc] at parts
    obtain empty | ⟨body, c, whole⟩ := List.eq_nil_or_concat line.text
    · simp [empty] at parts
    · rw [List.concat_eq_append] at whole
      rw [whole, utf8_append] at parts
      by_cases ends : c = '\n'
      · subst ends
        refine ⟨body, ?_, .inr whole⟩
        rw [← newline_mem_utf8_iff, List.append_cancel_right parts, List.mem_append]
        exact fun member => member.elim h.before clear
      · have last : (String.utf8EncodeChar c).getLast? = some newline := by
          simpa using congrArg List.getLast? parts
        exact absurd (List.mem_of_getLast? last) (newline_notMem_utf8EncodeChar ends)

theorem Holds.split {line : Line} {above below before after : List Char} {left right : List UInt8}
    (h : line.Holds first s p above below left right) (whole : s = before ++ after)
    (place : byteLength before = p) : ∃ front rear, before = above ++ front ∧
      line.text = front ++ rear ∧ after = rear ++ below ∧ line.column = byteLength front := by
  have start := h.place
  have size : left.length ≤ byteLength line.text := by
    rw [← length_utf8, h.parts, List.length_append]
    exact Nat.le_add_right _ _
  have shared := h.whole
  rw [whole, List.append_assoc] at shared
  obtain ⟨front, rfl⟩ : above <+: before :=
    isPrefix_of_byteLength_le ⟨_, shared.symm⟩ (List.prefix_append _ _) (by omega)
  rw [byteLength_append] at place
  rw [List.append_assoc] at shared
  have behind := List.append_cancel_left shared
  obtain ⟨rear, text⟩ : front <+: line.text :=
    isPrefix_of_byteLength_le ⟨_, behind⟩ (List.prefix_append _ _) (by omega)
  refine ⟨front, rear, rfl, text.symm, ?_, ?_⟩
  · rw [← text, List.append_assoc] at behind
    exact List.append_cancel_left behind
  · rw [h.column]
    omega

theorem exists_locate (h : Lined s rows) (first : Nat) (within : p ≤ byteLength s) :
    ∃ line above below left right,
      locate first rows p = some line ∧ line.Holds first s p above below left right := by
  induction h generalizing first p with
  | nil =>
    obtain rfl : p = 0 := Nat.le_zero.1 within
    have holds : Line.Holds ⟨first, [], 0⟩ first [] 0 [] [] [] [] :=
      holds_first first List.not_mem_nil within (.inl ⟨rfl, rfl⟩)
    exact ⟨_, _, _, _, _, rfl, holds⟩
  | @last body nonempty single =>
    have unclosed : body.getLast? ≠ some '\n' := fun ends => single (List.mem_of_getLast? ends)
    have here : locate first [body] p = some ⟨first, body, p⟩ :=
      locate_here ((Nat.lt_or_eq_of_le within).imp_right fun same => ⟨same, unclosed⟩)
    have holds := holds_first first single within (.inl ⟨rfl, rfl⟩)
    simp only [List.append_nil] at holds
    exact ⟨_, _, _, _, _, here, holds⟩
  | @line body s rest single later ih =>
    have size : byteLength (body ++ ['\n']) = byteLength body + 1 := byteLength_append _ _
    by_cases here : p ≤ byteLength body
    · have inside : p < byteLength (body ++ ['\n']) := by omega
      exact ⟨_, _, _, _, _, locate_here (.inl inside), holds_first first single here (.inr rfl)⟩
    · have ends : (body ++ ['\n']).getLast? = some '\n' := List.getLast?_concat
      have once : (body ++ ['\n']).count '\n' = 1 := by
        rw [List.count_append, List.count_eq_zero.2 single]
        rfl
      obtain ⟨q, rfl⟩ : ∃ q, p = byteLength (body ++ ['\n']) + q :=
        Nat.exists_eq_add_of_le (by omega)
      rw [byteLength_append _ s] at within
      obtain ⟨line, above, below, left, right, found, holds⟩ :=
        ih (first + 1) (Nat.le_of_add_le_add_left within)
      refine ⟨line, _, below, left, right, ?_, holds.below_row once ends⟩
      rw [locate_below (by simp [ends]), Nat.add_sub_cancel_left]
      exact found

end Line

theorem lineAt?_eq_none_iff {s : List Char} {p : Nat} : lineAt? s p = none ↔ byteLength s < p := by
  constructor
  · intro nothing
    refine Nat.lt_of_not_le fun within => ?_
    obtain ⟨line, _, _, _, _, found, -⟩ := Line.exists_locate (lined_lines s) 1 within
    rw [lineAt?, found] at nothing
    cases nothing
  · intro past
    exact Line.locate_eq_none (by rwa [lines_flatten])

theorem exists_lineAt? {s : List Char} {p : Nat} (within : p ≤ byteLength s) :
    ∃ line above below left right,
      lineAt? s p = some line ∧ line.Holds 1 s p above below left right :=
  Line.exists_locate (lined_lines s) 1 within

/-- Past the end of the text there is no line. Everywhere else it is the one between the newlines,
also where `p` is inside a character or behind the last newline. -/
theorem line_between_newlines (text : String) (p : Nat) :
    (lineAt? text.toList p = none ↔ text.utf8ByteSize < p) ∧
    ∀ line, lineAt? text.toList p = some line → ∃ above below left right,
      line.Holds 1 text.toList p above below left right := by
  rw [← byteLength_toList]
  refine ⟨lineAt?_eq_none_iff, fun line here => ?_⟩
  have within : p ≤ byteLength text.toList := by
    refine Nat.le_of_not_lt fun past => ?_
    rw [lineAt?_eq_none_iff.2 past] at here
    cases here
  obtain ⟨other, above, below, left, right, found, holds⟩ := exists_lineAt? within
  obtain rfl : other = line := Option.some.inj (found.symm.trans here)
  exact ⟨above, below, left, right, holds⟩

theorem line_between_newlines_inside_character :
    let text := "a\n\né\n"
    lineAt? text.toList 4 = some ⟨3, ['é', '\n'], 1⟩ ∧
      (∃ above below left right,
        Line.Holds ⟨3, ['é', '\n'], 1⟩ 1 text.toList 4 above below left right) ∧
      text.utf8ByteSize < 7 ∧ lineAt? text.toList 7 = none := by
  intro text
  have here : lineAt? text.toList 4 = some ⟨3, ['é', '\n'], 1⟩ := by decide +kernel
  have past : text.utf8ByteSize < 7 := by decide +kernel
  have held := (line_between_newlines text 4).2 _ here
  exact ⟨here, held, past, (line_between_newlines text 7).1.2 past⟩

end SqlReader
