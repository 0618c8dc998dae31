import SqlReader.Proofs.Scan.Stopping

set_option autoImplicit false

namespace SqlReader

def closing? : List Char → Option (List Char × List Char)
  | [] => none
  | '\'' :: '\'' :: s => (closing? s).map fun parts => ('\'' :: '\'' :: parts.1, parts.2)
  | c :: s =>
    if c = '\'' then some ([], s) else (closing? s).map fun parts => (c :: parts.1, parts.2)

variable {s inner after : List Char}

theorem closing?_eq_some (h : closing? s = some (inner, after)) :
    s = inner ++ '\'' :: after ∧ Doubled inner ∧ after.head? ≠ some '\'' := by
  fun_induction closing? s generalizing inner with
  | case1 => cases h
  | case2 s ih =>
    obtain ⟨⟨front, rear⟩, found, same⟩ := Option.map_eq_some_iff.1 h
    cases same
    obtain ⟨rfl, doubled, single⟩ := ih found
    exact ⟨rfl, .pair doubled, single⟩
  | case3 s lone =>
    cases h
    refine ⟨rfl, .nil, fun first => ?_⟩
    obtain ⟨rest, rfl⟩ := List.head?_eq_some_iff.1 first
    exact lone rest rfl rfl
  | case4 c s _ other ih =>
    obtain ⟨⟨front, rear⟩, found, same⟩ := Option.map_eq_some_iff.1 h
    cases same
    obtain ⟨rfl, doubled, single⟩ := ih found
    exact ⟨rfl, .plain other doubled, single⟩

theorem doubled_of_closing?_eq_none (h : closing? s = none) : Doubled s := by
  fun_induction closing? s with
  | case1 => exact .nil
  | case2 s ih => exact .pair (ih (Option.map_eq_none_iff.1 h))
  | case3 => cases h
  | case4 c s _ other ih => exact .plain other (ih (Option.map_eq_none_iff.1 h))

theorem Munch.toClose?_of_closed (h : Doubled inner) (single : after.head? ≠ some '\'') :
    toClose? (inner ++ '\'' :: after) = some (inner ++ ['\'']) := by
  induction h with
  | nil =>
    rw [List.nil_append, toClose?]
    · rfl
    · rintro rest - rfl
      exact single rfl
  | plain other rest ih => rw [List.cons_append, toClose?_plain other, ih]; rfl
  | pair rest ih => simp [toClose?, ih]

-- The first of the last pair is taken for the apostrophe that closes the literal.
theorem Munch.toClose?_of_pairs (h : Doubled s) :
    ('\'' ∉ s ∧ toClose? s = none) ∨
      ∃ inner behind, s = inner ++ '\'' :: '\'' :: behind ∧ '\'' ∉ behind ∧
        toClose? s = some (inner ++ ['\'']) := by
  induction h with
  | nil => exact .inl ⟨by simp, rfl⟩
  | @plain c s other rest ih =>
    rw [toClose?_plain other]
    rcases ih with ⟨none, unclosed⟩ | ⟨inner, behind, rfl, none, closed⟩
    · exact .inl ⟨by simp [none, Ne.symm other], by rw [unclosed]; rfl⟩
    · exact .inr ⟨c :: inner, behind, rfl, none, by rw [closed]; rfl⟩
  | @pair s rest ih =>
    right
    rcases ih with ⟨none, unclosed⟩ | ⟨inner, behind, rfl, none, closed⟩
    · exact ⟨[], s, rfl, none, by simp [toClose?, unclosed]⟩
    · exact ⟨'\'' :: '\'' :: inner, behind, rfl, none, by simp [toClose?, closed]⟩

namespace Source.Reaches

variable {source : Source} {lexemes : List Lexeme} {rest : List Char}

theorem snoc {c : LexicalClass} {p : List Char} (h : source.Reaches lexemes (p ++ rest))
    (taken : c.munch (p ++ rest) = p) (nonempty : p ≠ []) :
    source.Reaches (lexemes ++ [⟨c, p, byteLength (lexemes.flatMap Lexeme.text)⟩]) rest := by
  have found : Lexeme.next? (byteLength (lexemes.flatMap Lexeme.text)) (p ++ rest) =
      some ⟨c, p, byteLength (lexemes.flatMap Lexeme.text)⟩ :=
    Lexeme.next?_eq_some_iff.2 ⟨rfl, taken.symm, nonempty⟩
  have longer := h.next found
  rwa [List.drop_left] at longer

theorem behind_literal (h : source.Reaches lexemes ('\'' :: (inner ++ '\'' :: after)))
    (closed : Munch.toClose? (inner ++ '\'' :: after) = some (inner ++ ['\''])) :
    source.Reaches (lexemes ++
      [⟨.text, '\'' :: (inner ++ ['\'']), byteLength (lexemes.flatMap Lexeme.text)⟩]) after := by
  have whole : '\'' :: (inner ++ '\'' :: after) = '\'' :: (inner ++ ['\'']) ++ after := by simp
  have taken : LexicalClass.text.munch ('\'' :: (inner ++ ['\'']) ++ after) =
      '\'' :: (inner ++ ['\'']) := by
    rw [← whole, LexicalClass.munch, Munch.text, closed]
  rw [whole] at h
  exact h.snoc taken (List.cons_ne_nil _ _)

theorem refused_at_last (h : source.Reaches lexemes ('\'' :: rest)) (last : '\'' ∉ rest) :
    source.text = String.ofList (lexemes.flatMap Lexeme.text) ++ "'" ++ String.ofList rest ∧
      source.tokenize = .error
        ⟨.unrecognised "'", .ofNat source.name (byteLength (lexemes.flatMap Lexeme.text))⟩ := by
  have unlexable : Unlexable '\'' rest :=
    ⟨by decide, by decide, by decide, by decide, fun dash => absurd dash (by decide), fun _ => last⟩
  refine ⟨?_, h.tokenize_of_unlexable unlexable⟩
  apply String.toList_injective
  simpa using h.text_eq

end Source.Reaches

/-- A literal is closed by the first apostrophe that is not one of a pair. Without one the whole
text is refused. -/
theorem unclosed_text_refused (source : Source) (short : source.text.utf8ByteSize < UInt32.size)
    (lexemes : List Lexeme) (rest : List Char) (reached : source.Reaches lexemes ('\'' :: rest)) :
    let before := lexemes.flatMap Lexeme.text
    (∀ inner after, closing? rest = some (inner, after) →
      let literal := '\'' :: (inner ++ ['\''])
      ∃ l t, source.Reaches (lexemes ++ [l]) after ∧ l.token? source.name = some t ∧
        t.kind = .text ∧ t.value = String.ofList literal ∧
        source.EndsAt (String.ofList before) t.span.start ∧
        source.EndsAt (String.ofList (before ++ literal)) t.span.stop) ∧
    (closing? rest = none → ∃ front behind p,
      source.text = front ++ "'" ++ behind ∧ '\'' ∉ behind.toList ∧
      source.tokenize = .error ⟨.unrecognised "'", p⟩ ∧ source.EndsAt front p ∧
      (source.EndsAt (String.ofList before) p ↔ ¬ ['\'', '\''] <:+: rest)) := by
  intro before
  constructor
  · intro inner after closed literal
    obtain ⟨rfl, doubled, single⟩ := closing?_eq_some closed
    have behind := reached.behind_literal (Munch.toClose?_of_closed doubled single)
    have stop := behind.endsAt short
    simp only [List.flatMap_append, List.flatMap_singleton, byteLength_append] at stop
    exact ⟨_, _, behind, rfl, rfl, rfl, reached.endsAt short, stop⟩
  · intro unclosed
    rcases Munch.toClose?_of_pairs (doubled_of_closing?_eq_none unclosed) with
      ⟨last, -⟩ | ⟨inner, tail, rfl, last, closed⟩
    · obtain ⟨text, fails⟩ := reached.refused_at_last last
      have here := reached.endsAt short
      have noPair : ¬ ['\'', '\''] <:+: rest := fun pair => last (pair.subset (by simp))
      exact ⟨_, _, _, text, by simpa using last, fails, here, by simp [here, noPair, before]⟩
    · -- The literal that is read ends within the last pair, and the second half of that is refused.
      have second := reached.behind_literal closed
      obtain ⟨text, fails⟩ := second.refused_at_last last
      have here := second.endsAt short
      simp only [List.flatMap_append, List.flatMap_singleton] at here text fails
      have apart := here.not_of_append (List.cons_ne_nil _ _)
      have pair : ['\'', '\''] <:+: inner ++ '\'' :: '\'' :: tail := ⟨inner, tail, by simp⟩
      exact ⟨_, _, _, text, by simpa using last, fails, here,
        iff_of_false apart (not_not_intro pair)⟩

theorem unclosed_text_refused_behind_pairs :
    let source : Source := ⟨"shell", "('a''b''é"⟩
    let lexemes : List Lexeme := [⟨.mark .openParen, ['('], 0⟩]
    let rest := ['a', '\'', '\'', 'b', '\'', '\'', 'é']
    source.text.utf8ByteSize < UInt32.size ∧ source.Reaches lexemes ('\'' :: rest) ∧
      closing? rest = none ∧
      ∃ front behind p, source.text = front ++ "'" ++ behind ∧ '\'' ∉ behind.toList ∧
        source.tokenize = .error ⟨.unrecognised "'", p⟩ ∧ source.EndsAt front p ∧
        (source.EndsAt (String.ofList (lexemes.flatMap Lexeme.text)) p ↔
          ¬ ['\'', '\''] <:+: rest) := by
  intro source lexemes rest
  have short : source.text.utf8ByteSize < UInt32.size := by decide +kernel
  have found : Lexeme.next? 0 source.text.toList = some ⟨.mark .openParen, ['('], 0⟩ := by
    decide +kernel
  have ahead : source.text.toList.drop 1 = '\'' :: rest := by decide +kernel
  have reached : source.Reaches lexemes ('\'' :: rest) := by
    refine .step found ?_
    change Lexeme.Passes 1 (source.text.toList.drop 1) [] ('\'' :: rest)
    rw [ahead]
    exact .refl
  have unclosed : closing? rest = none := by decide +kernel
  exact ⟨short, reached, unclosed, (unclosed_text_refused source short _ _ reached).2 unclosed⟩

end SqlReader
