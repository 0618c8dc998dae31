import SqlReader.Proofs.Lexeme.Covering
import SqlReader.Proofs.Scan.Written

set_option autoImplicit false

namespace SqlReader

-- A comment goes on up to a newline or to the end.
inductive Gap : List Char → List Char → Prop
  | nil {behind : List Char} : Gap [] behind
  | blank {c : Char} {s behind : List Char} (blank : isBlank c = true) (later : Gap s behind) :
      Gap (c :: s) behind
  | comment {body s behind : List Char} (inside : ∀ c ∈ body, c ≠ '\n')
      (ends : ∀ c ∈ (s ++ behind).head?, c = '\n') (later : Gap s behind) :
      Gap ('-' :: '-' :: (body ++ s)) behind

structure Tile where
  gap : List Char
  token : Token

def Tile.text (tile : Tile) : List Char := tile.gap ++ tile.token.value.toList

structure Tile.Fits (name : String) (offset : Nat) (behind : List Char) (tile : Tile) : Prop where
  gap : Gap tile.gap (tile.token.value.toList ++ behind)
  kind : tile.token.kind ≠ .endOfInput
  nonempty : tile.token.value ≠ ""
  start : tile.token.span.start = .ofNat name (offset + byteLength tile.gap)
  stop : tile.token.span.stop =
    .ofNat name (offset + byteLength tile.gap + byteLength tile.token.value.toList)

/-- A text from `offset` on, as tiles and a last gap. -/
inductive Tiling (name : String) : Nat → List Tile → List Char → List Char → Prop
  | finish {offset : Nat} {last : List Char} (gap : Gap last []) : Tiling name offset [] last last
  | tile {offset : Nat} {tile : Tile} {tiles : List Tile} {last behind : List Char}
      (fits : tile.Fits name offset behind)
      (later : Tiling name (offset + byteLength tile.text) tiles last behind) :
      Tiling name offset (tile :: tiles) last (tile.text ++ behind)

namespace LexicalClass

variable {c : LexicalClass} {p s behind : List Char}

theorem Holds.gap (holds : c.Holds p) (silent : c.kind? p = none) (ends : c.Ends (s ++ behind))
    (later : Gap s behind) : Gap (p ++ s) behind := by
  cases c with
  | blank =>
    have blanks : ∀ q : List Char, (∀ d ∈ q, isBlank d = true) → Gap (q ++ s) behind := by
      intro q all
      induction q with
      | nil => exact later
      | cons d q ih =>
        have rest := ih fun e member => all e (List.mem_cons_of_mem d member)
        exact .blank (all d List.mem_cons_self) rest
    exact blanks p holds.2
  | comment =>
    obtain ⟨body, rfl, inside⟩ := holds
    exact .comment inside (fun d first => Decidable.not_not.1 (ends d first)) later
  | word | number | text | mark => cases silent

end LexicalClass

namespace Tiling

variable {name : String} {offset : Nat} {tiles : List Tile} {last s : List Char}

theorem text_eq (h : Tiling name offset tiles last s) : s = tiles.flatMap Tile.text ++ last := by
  induction h with
  | finish gap => rfl
  | tile fits later ih => rw [List.flatMap_cons, List.append_assoc, ← ih]

theorem last_gap (h : Tiling name offset tiles last s) : Gap last [] := by
  induction h with
  | finish gap => exact gap
  | tile fits later ih => exact ih

theorem fits (h : Tiling name offset tiles last s) {before after : List Tile} {tile : Tile}
    (here : tiles = before ++ tile :: after) :
    tile.Fits name (offset + byteLength (before.flatMap Tile.text))
      (after.flatMap Tile.text ++ last) := by
  induction h generalizing before with
  | finish gap => simp at here
  | tile fits later ih =>
    cases before with
    | nil =>
      obtain ⟨rfl, rfl⟩ := List.cons.inj here
      rw [later.text_eq] at fits
      exact fits
    | cons first before =>
      obtain ⟨rfl, rest⟩ := List.cons.inj here
      have found := ih rest
      rw [Nat.add_assoc, ← byteLength_append] at found
      exact found

theorem exists_skip {c : LexicalClass} {p : List Char} (holds : c.Holds p)
    (silent : c.kind? p = none) (ends : c.Ends s)
    (later : Tiling name (offset + byteLength p) tiles last s) :
    ∃ others rest, Tiling name offset others rest (p ++ s) ∧
      others.map Tile.token = tiles.map Tile.token := by
  cases later with
  | finish gap =>
    have longer := holds.gap silent (by rwa [List.append_nil]) gap
    exact ⟨[], p ++ last, .finish longer, rfl⟩
  | @tile _ tile tiles last behind fits later =>
    obtain ⟨gap, token⟩ := tile
    simp only [Tile.text, List.append_assoc] at ends later ⊢
    have size : offset + byteLength (p ++ gap) = offset + byteLength p + byteLength gap := by
      rw [byteLength_append, Nat.add_assoc]
    have longer : Tile.Fits name offset behind ⟨p ++ gap, token⟩ := by
      refine ⟨holds.gap silent ends fits.gap, fits.kind, fits.nonempty, ?_, ?_⟩
      · rw [fits.start, size]
      · rw [fits.stop, size]
    have whole : p ++ (gap ++ (token.value.toList ++ behind)) =
        Tile.text ⟨p ++ gap, token⟩ ++ behind := by
      simp [Tile.text]
    rw [whole]
    refine ⟨⟨p ++ gap, token⟩ :: tiles, last, .tile longer ?_, rfl⟩
    simpa [Tile.text, Nat.add_assoc] using later

end Tiling

theorem Lexeme.Covers.exists_tiling {offset : Nat} {lexemes : List Lexeme} {s : List Char}
    (h : Lexeme.Covers offset lexemes s) (name : String) :
    ∃ tiles last, Tiling name offset tiles last s ∧
      lexemes.filterMap (Lexeme.token? name) = tiles.map Tile.token := by
  induction h with
  | nil => exact ⟨[], [], .finish .nil, rfl⟩
  | @cons offset l lexemes s here holds ends later ih =>
    obtain ⟨tiles, last, tiling, same⟩ := ih
    cases kind : l.sort.kind? l.text with
    | none =>
      have dropped : l.token? name = none := by simp [Lexeme.token?, kind]
      obtain ⟨others, rest, longer, tokens⟩ := tiling.exists_skip holds kind ends
      rw [List.filterMap_cons, dropped, same, ← tokens]
      exact ⟨others, rest, longer, rfl⟩
    | some k =>
      let token : Token := ⟨k, String.ofList l.text,
        ⟨.ofNat name offset, .ofNat name (offset + l.size)⟩⟩
      have kept : l.token? name = some token := by simp [Lexeme.token?, kind, here, token]
      have value : token.value.toList = l.text := String.toList_ofList
      have fits : Tile.Fits name offset s ⟨[], token⟩ := by
        refine ⟨.nil, LexicalClass.kind?_ne_end kind, ?_, rfl, ?_⟩
        · intro empty
          rw [← value, empty] at holds
          exact holds.ne_nil rfl
        · rw [value]
          rfl
      have whole : Tile.text ⟨[], token⟩ = l.text := value
      have tiled : Tiling name offset (⟨[], token⟩ :: tiles) last (Tile.text ⟨[], token⟩ ++ s) :=
        .tile fits (by rwa [whole])
      rw [whole] at tiled
      rw [List.filterMap_cons, kept, same]
      exact ⟨⟨[], token⟩ :: tiles, last, tiled, rfl⟩

/-- The tokens of a text and the gaps between them give the text, and the last token stands at its
end. -/
theorem tokenize_tiles (name? : Option String) (text : String) (tokens : List Token)
    (read : (Source.ofText name? text).tokenize = .ok tokens) :
    let name := name?.getD "shell"
    let stop := Position.ofNat name text.utf8ByteSize
    ∃ tiles last, tokens = tiles.map Tile.token ++ [⟨.endOfInput, "EOF", ⟨stop, stop⟩⟩] ∧
      text.toList = tiles.flatMap Tile.text ++ last ∧ Gap last [] ∧
      ∀ before tile after, tiles = before ++ tile :: after →
        tile.Fits name (byteLength (before.flatMap Tile.text))
          (after.flatMap Tile.text ++ last) := by
  intro name stop
  obtain ⟨rest, rfl⟩ := Source.tokenize_eq_ok_iff.1 read
  obtain ⟨tiles, last, tiling, same⟩ := (Lexeme.covers_split rest).exists_tiling name
  have place : (Source.ofText name? text).scan.stop = text.utf8ByteSize := by
    have whole := Source.scan_flatten (Source.ofText name? text)
    rw [rest, List.append_nil] at whole
    rw [Scan.stop, whole]
    exact byteLength_toList text
  refine ⟨tiles, last, ?_, tiling.text_eq, tiling.last_gap, ?_⟩
  · rw [← same, Scan.ending, place]
    rfl
  · intro before tile after here
    simpa using tiling.fits here

theorem tokenize_tiles_accents :
    let text := " a --é\n'é''' -- z"
    let stop : Position := ⟨19, "shell"⟩
    let tokens : List Token :=
      [⟨.identifier, "a", ⟨⟨1, "shell"⟩, ⟨2, "shell"⟩⟩⟩,
        ⟨.text, "'é'''", ⟨⟨8, "shell"⟩, ⟨14, "shell"⟩⟩⟩, ⟨.endOfInput, "EOF", ⟨stop, stop⟩⟩]
    (Source.ofText none text).tokenize = .ok tokens ∧
      ∃ tiles last, tokens = tiles.map Tile.token ++ [⟨.endOfInput, "EOF", ⟨stop, stop⟩⟩] ∧
        text.toList = tiles.flatMap Tile.text ++ last ∧ Gap last [] ∧
        ∀ before tile after, tiles = before ++ tile :: after →
          tile.Fits "shell" (byteLength (before.flatMap Tile.text))
            (after.flatMap Tile.text ++ last) := by
  intro text stop tokens
  have read : (Source.ofText none text).tokenize = .ok tokens := by decide +kernel
  exact ⟨read, tokenize_tiles none text tokens read⟩

end SqlReader
