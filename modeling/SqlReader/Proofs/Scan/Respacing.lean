import SqlReader.Proofs.Relabelling.Parsing
import SqlReader.Proofs.Render.Writing
import SqlReader.Proofs.Scan.Tiling

set_option autoImplicit false

namespace SqlReader

-- Blanks, and comments that each have a newline of their own.
inductive Separator : List Char → Prop
  | nil : Separator []
  | blank {c : Char} {s : List Char} (blank : isBlank c = true) (later : Separator s) :
      Separator (c :: s)
  | comment {body s : List Char} (inside : ∀ c ∈ body, c ≠ '\n') (later : Separator s) :
      Separator ('-' :: '-' :: (body ++ '\n' :: s))

theorem Separator.gap {s : List Char} (h : Separator s) (behind : List Char) : Gap s behind := by
  induction h with
  | nil => exact .nil
  | blank blank _ ih => exact .blank blank ih
  | comment inside _ ih => exact .comment inside (by simp) (.blank (by decide) ih)

theorem LexicalClass.Holds.blank_ends {c : LexicalClass} {p : List Char} (holds : c.Holds p)
    (other : c ≠ .blank) (s : List Char) : LexicalClass.blank.Ends (p ++ s) := by
  intro d first goes
  obtain ⟨rest, whole⟩ := List.head?_eq_some_iff.1 first
  have opens := opener_append holds s
  have blank : isBlank d = true := goes
  rw [whole, opener, if_pos blank] at opens
  exact other (Option.some.inj opens).symm

variable {tokens : List Token} {s behind : List Char}

theorem Written.blank {d : Char} (blank : isBlank d = true) (h : Written tokens s) :
    Written tokens (d :: s) := by
  have alone (ends : LexicalClass.blank.Ends s) : Written tokens (d :: s) :=
    .silent (LexicalClass.blank_holds blank) rfl ends h
  cases h with
  | nil => exact alone fun e none => by cases none
  | @silent c p s _ holds dropped ends later =>
    by_cases more : c = .blank
    · subst more
      have longer : LexicalClass.blank.Holds (d :: p) :=
        ⟨by simp, List.forall_mem_cons.2 ⟨blank, holds.2⟩⟩
      exact .silent longer rfl ends later
    · exact alone (holds.blank_ends more s)
  | @token c t s _ holds kept ends later =>
    have other : c ≠ .blank := by
      rintro rfl
      cases kept
    exact alone (holds.blank_ends other s)

theorem Gap.written {gap : List Char} (h : Gap gap behind) (later : Written tokens behind) :
    Written tokens (gap ++ behind) := by
  induction h with
  | nil => exact later
  | blank blank _ ih => exact (ih later).blank blank
  | @comment body gap behind inside ends _ ih =>
    have comment : LexicalClass.comment.Holds ('-' :: '-' :: body) := ⟨body, rfl, inside⟩
    have stops : LexicalClass.comment.Ends (gap ++ behind) := fun d first goes =>
      goes (ends d first)
    have whole := Written.silent comment rfl stops (ih later)
    simpa using whole

theorem Gap.parts {gap : List Char} (h : Gap gap behind) : ∀ d ∈ gap.head?, Parts d := by
  intro d first
  cases h with
  | nil => cases first
  | blank blank _ =>
    cases first
    exact .inl blank
  | comment inside ends _ =>
    cases first
    exact .inr (by decide)

theorem written_tiles {tiles : List Tile} {last : List Char}
    (lexical : ∀ tile ∈ tiles, tile.token.Lexical) (separated : ∀ tile ∈ tiles, Separator tile.gap)
    (parted : ∀ tile ∈ tiles.tail, tile.gap ≠ []) (ends : Gap last []) :
    Written (tiles.map Tile.token) (tiles.flatMap Tile.text ++ last) := by
  induction tiles with
  | nil =>
    have alone := ends.written Written.nil
    rw [List.append_nil] at alone
    exact alone
  | cons tile tiles ih =>
    obtain ⟨⟨c, holds, kept⟩, lexical⟩ := List.forall_mem_cons.1 lexical
    obtain ⟨gap, separated⟩ := List.forall_mem_cons.1 separated
    have written := ih lexical separated fun t member => parted t (List.mem_of_mem_tail member)
    -- Behind the token comes a gap that is not empty, or the last one.
    have parts : ∀ d ∈ (tiles.flatMap Tile.text ++ last).head?, Parts d := by
      cases tiles with
      | nil => exact ends.parts
      | cons next tiles =>
        have apart : next.gap ≠ [] := parted next List.mem_cons_self
        have first := ((separated next List.mem_cons_self).gap []).parts
        simp only [List.flatMap_cons, Tile.text, List.append_assoc]
        rwa [List.head?_append, Option.or_of_isSome (List.isSome_head?.2 apart)]
    have token := Written.token holds kept (fun d next => (parts d next).not_continues kept) written
    have whole := (gap.gap _).written token
    simpa [Tile.text] using whole

/-- With other blanks and comments between its tokens a text is read alike but for the places. -/
theorem respaced (name : String) (source : Source) (tokens : List Token)
    (read : source.tokenize = .ok tokens) (tiles : List Tile) (last : List Char)
    (same : tiles.map Tile.token = beforeEnd tokens)
    (separated : ∀ tile ∈ tiles, Separator tile.gap)
    (parted : ∀ tile ∈ tiles.tail, tile.gap ≠ []) (ends : Gap last []) :
    let again : Source := ⟨name, String.ofList (tiles.flatMap Tile.text ++ last)⟩
    (∃ found, again.tokenize = .ok found ∧
        found.map (Token.relabel .unplaced) = tokens.map (Token.relabel .unplaced)) ∧
      ReadAlike .unplaced again source := by
  intro again
  have scanned := Source.beforeEnd_tokens read
  have lexical : ∀ tile ∈ tiles, tile.token.Lexical := by
    intro tile member
    apply Source.lexical (s := source)
    rw [← scanned, ← same]
    exact List.mem_map_of_mem member
  have written : Written (tiles.map Tile.token) again.text.toList := by
    rw [String.toList_ofList]
    exact written_tiles lexical separated parted ends
  obtain ⟨found, retokenized, values⟩ := written.tokenize name
  have alike : found.map (Token.relabel .unplaced) = tokens.map (Token.relabel .unplaced) := by
    obtain ⟨-, whole⟩ := Source.tokenize_eq_ok_iff.1 read
    rw [values, same, scanned, whole, List.map_append, List.map_append]
    rfl
  refine ⟨⟨found, retokenized, alike⟩, .of_tokens ?_⟩
  rw [read, retokenized]
  exact congrArg Except.ok alike

theorem respaced_glued_comments :
    let source : Source := ⟨"", "a -1"⟩
    let word : Token := ⟨.identifier, "a", ⟨⟨0, ""⟩, ⟨1, ""⟩⟩⟩
    let number : Token := ⟨.number, "-1", ⟨⟨2, ""⟩, ⟨4, ""⟩⟩⟩
    let tokens : List Token := [word, number, .ending ⟨4, ""⟩]
    let tiles : List Tile := [⟨['\u3000'], word⟩, ⟨['-', '-', '\'', '\n'], number⟩]
    let last := ['-', '-', ';']
    let again : Source := ⟨"", String.ofList (tiles.flatMap Tile.text ++ last)⟩
    source.tokenize = .ok tokens ∧ again.text = "\u3000a--'\n-1--;" ∧
      (∃ found, again.tokenize = .ok found ∧
        found.map (Token.relabel .unplaced) = tokens.map (Token.relabel .unplaced)) ∧
      ReadAlike .unplaced again source := by
  intro source word number tokens tiles last again
  have read : source.tokenize = .ok tokens := by decide +kernel
  have wide : Separator ['\u3000'] := .blank (by decide) .nil
  have quote : ∀ c ∈ ['\''], c ≠ '\n' := by simp
  have semicolon : ∀ c ∈ [';'], c ≠ '\n' := by simp
  have ends : Gap last [] := .comment semicolon (by simp) .nil
  have separated : ∀ tile ∈ tiles, Separator tile.gap :=
    List.forall_mem_cons.2 ⟨wide, List.forall_mem_singleton.2 (.comment quote .nil)⟩
  have parted : ∀ tile ∈ tiles.tail, tile.gap ≠ [] := by simp [tiles]
  exact ⟨read, by decide +kernel,
    respaced "" source tokens read tiles last rfl separated parted ends⟩

end SqlReader
