import SqlReader.Proofs.Outline.Edits

set_option autoImplicit false

namespace SqlReader.Outline

def isVisible (c : Char) : Bool := c != ' ' && c != '\n'

-- As `rowDepth`, but a newline of the text itself begins a line as well, with nothing put in behind.
def lineDepth (before : List Edit) : Nat :=
  before.foldl
    (fun line e => match e with | .newLine n => n | .keep '\n' => 0 | _ => line) 0

section

variable {c d : Char} {e : Edit} {before after before' after' : List Edit}
  {s u front : List Char} {t : String}

theorem filter_newLine (n : Nat) : (newLine n).filter isVisible = [] := by
  simp [newLine, isVisible]

theorem Edit.Placed.filter (placed : e.Placed before after) :
    e.result.filter isVisible = e.source.filter isVisible := by
  cases e with
  | keep => rfl
  | drop c =>
    rw [placed.1]
    rfl
  | newLine n => exact filter_newLine n

theorem filter_outline (s : String) :
    (outline s).toList.filter isVisible = s.toList.filter isVisible := by
  rw [← resultOf_edits, ← sourceOf_edits, resultOf, sourceOf, List.filter_flatMap,
    List.filter_flatMap]
  refine List.flatMap_congr fun e mem => ?_
  obtain ⟨before, after, split⟩ := List.append_of_mem mem
  exact (placed_edits split).filter

theorem deepen_of_not_isVisible (blank : ¬ isVisible c = true) (n : Nat) : deepen n c = n := by
  have which : c = ' ' ∨ c = '\n' := by
    rw [isVisible, Bool.and_eq_true, bne_iff_ne, bne_iff_ne] at blank
    exact Decidable.or_iff_not_not_and_not.2 blank
  rcases which with rfl | rfl <;> rfl

theorem foldl_deepen_filter (s : List Char) (n : Nat) :
    (s.filter isVisible).foldl deepen n = s.foldl deepen n := by
  have same : (fun n c => if isVisible c then deepen n c else n) = deepen := by
    funext n c
    split
    · rfl
    · exact (deepen_of_not_isVisible ‹_› n).symm
  rw [List.foldl_filter, same]

theorem depth_outline (s : String) : depth (outline s).toList = depth s.toList := by
  rw [depth, depth, ← foldl_deepen_filter, filter_outline, foldl_deepen_filter]

theorem prefix_rdropWhile (s : List Char) (noCloser : isCloser c = false) (rest : List Char) :
    s ++ [c] <+: (s ++ c :: rest).rdropWhile isCloser := by
  induction rest using List.reverseRecOn with
  | nil => rw [List.rdropWhile_concat_neg _ _ _ (by simp [noCloser])]
  | append_singleton rest d ih =>
    rw [← List.cons_append, ← List.append_assoc]
    by_cases closes : isCloser d = true
    · rwa [List.rdropWhile_concat_pos _ _ _ closes]
    · rw [List.rdropWhile_concat_neg _ _ _ closes]
      exact ⟨rest ++ [d], by simp⟩

theorem not_follows_past (follows : Follows front s) (rest : List Char) :
    ¬ Follows front (s ++ ' ' :: rest) := by
  rintro ⟨mark, eq, -⟩
  obtain ⟨mark', eq', -⟩ := follows
  have long := (prefix_rdropWhile s (c := ' ') rfl rest).length_le
  have short := (List.rdropWhile_prefix isCloser (l := s)).length_le
  simp only [eq, eq', List.length_append, List.length_singleton] at long short
  omega

theorem eq_nil_of_follows {between later rest : List Edit}
    (shared : between ++ later = .drop ' ' :: rest) (follows : Follows front (sourceOf before))
    (follows' : Follows front (sourceOf (before ++ between))) : between = [] := by
  cases between with
  | nil => rfl
  | cons e between =>
    obtain ⟨rfl, -⟩ := List.cons.inj shared
    exact absurd (by simpa using follows') (not_follows_past follows (sourceOf between))

theorem drop_unique (edited : edits t = before ++ .drop c :: after)
    (edited' : edits t = before' ++ .drop d :: after') (follows : Follows front (sourceOf before))
    (follows' : Follows front (sourceOf before')) : before = before' := by
  have space := (placed_edits edited).1
  have space' := (placed_edits edited').1
  subst space space'
  -- One of the two stands in front of the other, or they are the same.
  rcases List.append_eq_append_iff.1 (edited.symm.trans edited') with
    ⟨between, rfl, shared⟩ | ⟨between, rfl, shared⟩
  · rw [eq_nil_of_follows shared.symm follows follows', List.append_nil]
  · rw [eq_nil_of_follows shared.symm follows' follows, List.append_nil]

-- Where a character of the text stands among the edits. Lines put in at that place go in front.
theorem exists_edit {l : List Edit} (split : sourceOf l = s ++ c :: u) :
    ∃ before e after, l = before ++ e :: after ∧ e.source = [c] ∧ sourceOf before = s ∧
      sourceOf after = u := by
  induction l generalizing s with
  | nil => simp at split
  | cons first l ih =>
    cases first with
    | newLine n =>
      obtain ⟨before, e, after, rfl, source, rfl, rfl⟩ := ih split
      exact ⟨.newLine n :: before, e, after, rfl, source, rfl, rfl⟩
    | keep d | drop d =>
      cases s with
      | nil =>
        obtain ⟨rfl, rfl⟩ := List.cons.inj split
        exact ⟨[], _, l, rfl, rfl, rfl, rfl⟩
      | cons d' s =>
        obtain ⟨rfl, inner⟩ := List.cons.inj split
        obtain ⟨before, e, after, rfl, source, rfl, rfl⟩ := ih inner
        exact ⟨_ :: before, e, after, rfl, source, rfl, rfl⟩

theorem Edit.Placed.eq_keep (placed : e.Placed before after) (source : e.source = [c])
    (visible : c ≠ ' ') : e = .keep c := by
  cases e with
  | keep => exact congrArg Edit.keep (List.cons.inj source).1
  | drop d =>
    have space : d = ' ' := placed.1
    have same := (List.cons.inj source).1
    exact absurd (same.symm.trans space) visible
  | newLine => cases source

theorem exists_opener_edit {text : String} (balanced : Balanced text.toList)
    (edited : edits text = before ++ .keep c :: after) (closes : isCloser c = true) :
    ∃ outer opener inside n, before = outer ++ .keep opener :: (inside ++ [.newLine n]) ∧
      isOpener opener = true ∧ Balanced (sourceOf inside) ∧ rowDepth outer = n := by
  have source : text.toList = sourceOf before ++ c :: sourceOf after := by
    rw [← sourceOf_edits, edited, sourceOf_append, sourceOf_keep]
  obtain ⟨_, opener, _, opened, opens, inner⟩ := (source ▸ balanced).exists_opener closes
  obtain ⟨outer, e, inside, rfl, holds, rfl, rfl⟩ := exists_edit opened
  have closer := (placed_edits edited).2.1 closes
  rw [List.append_assoc, List.cons_append] at edited
  obtain rfl : e = .keep opener := (placed_edits edited).eq_keep holds (by rintro rfl; cases opens)
  have head := (placed_edits edited).1 (.inl opens)
  have row := (placed_edits edited).2.2.1 (not_isCloser_of_isOpener opens)
  rcases List.eq_nil_or_concat inside with rfl | ⟨inside, last, rfl⟩
  · -- Behind an opener stands the line that it ends with, and no closer.
    cases head
  · have lastLine : last = .newLine (depth (sourceOf outer)) := by
      rw [sourceOf_append, sourceOf_keep, inner.depth_closed opens closes, List.concat_eq_append,
        ← List.cons_append, ← List.append_assoc, List.getLast?_concat] at closer
      exact Option.some.inj closer
    subst lastLine
    rw [List.concat_eq_append] at inner ⊢
    exact ⟨outer, opener, inside, _, rfl, opens, by simpa using inner, row⟩

theorem lineDepth_eq (single : '\n' ∉ sourceOf before) : lineDepth before = rowDepth before := by
  refine List.foldl_ext _ _ 0 fun line e mem => ?_
  cases e with
  | newLine | drop => rfl
  | keep c =>
    have other : c ≠ '\n' := by
      rintro rfl
      exact single (List.mem_flatMap.2 ⟨_, mem, List.mem_cons_self⟩)
    simp [other]

/-- An outline drops spaces, one behind a mark, and puts in lines indented by two spaces for each
bracket open. Where brackets are balanced, each closer begins a line as deep as the row of its
opener. Rows are lines if the text has no newlines of its own. -/
theorem outline_lays_out (s : String) :
    sourceOf (edits s) = s.toList ∧ resultOf (edits s) = (outline s).toList ∧
      (outline s).toList.filter isVisible = s.toList.filter isVisible ∧
      (∀ before e after, edits s = before ++ e :: after → e.Placed before after) ∧
      (∀ front before after before' after' c d, edits s = before ++ .drop c :: after →
        edits s = before' ++ .drop d :: after' → Follows front (sourceOf before) →
        Follows front (sourceOf before') → before = before') ∧
      (∀ before after, edits s = before ++ after → '\n' ∉ s.toList →
        lineDepth before = rowDepth before) ∧
      (Balanced s.toList →
        depth (outline s).toList = 0 ∧
          ∀ before c after, edits s = before ++ .keep c :: after → isCloser c = true →
            ∃ outer opener inside n, before = outer ++ .keep opener :: (inside ++ [.newLine n]) ∧
              isOpener opener = true ∧ Balanced (sourceOf inside) ∧ rowDepth outer = n) := by
  refine ⟨sourceOf_edits s, resultOf_edits s, filter_outline s, fun _ _ _ => placed_edits,
    fun _ _ _ _ _ _ _ => drop_unique, fun before after edited single => ?_,
    fun balanced => ⟨?_, fun _ _ _ edited closes => ?_⟩⟩
  · rw [← sourceOf_edits, edited, sourceOf_append] at single
    exact lineDepth_eq fun mem => single (List.mem_append_left _ mem)
  · rw [depth_outline, balanced.depth_eq]
  · exact exists_opener_edit balanced edited closes

-- The inner opener's line begins with a newline of the text, and its closer's line is deeper by one.
theorem opener_behind_own_newline :
    Balanced "(\n(x))".toList ∧ outline "(\n(x))" = "(\n  \n(\n    x\n  )\n)" ∧
      edits "(\n(x))" =
        [.keep '(', .newLine 1, .keep '\n'] ++
          .keep '(' :: ([.newLine 2, .keep 'x'] ++ .newLine 1 :: .keep ')' ::
            [.newLine 0, .keep ')']) ∧
      Balanced (sourceOf [.newLine 2, .keep 'x']) ∧
      lineDepth [.keep '(', .newLine 1, .keep '\n'] ≠ 1 := by
  decide

end

end SqlReader.Outline
