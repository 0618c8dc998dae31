import SqlReader.Cursor
import SqlReader.Proofs.Scan.Tiling

set_option autoImplicit false

namespace SqlReader

structure Source.EndsAt (source : Source) (before : String) (p : Position) : Prop where
  named : p.source = source.name
  offset : p.offset.toNat = before.utf8ByteSize

def Source.Shows (source : Source) (p q : Position) (s : String) : Prop :=
  ∃ before after, source.text = before ++ s ++ after ∧ source.EndsAt before p ∧
    source.EndsAt (before ++ s) q

def Token.Stands (source : Source) (t : Token) : Prop :=
  source.Shows t.span.start t.span.stop t.value

def Token.Before (t u : Token) : Prop := t.span.stop.offset ≤ u.span.start.offset

/-- Tokens in the order of the text, each in its place. What marks the end stands at the end. -/
structure Source.Places (source : Source) (tokens : List Token) : Prop where
  lexical : ∀ t ∈ tokens, t.isEnd = false → t.Lexical
  stands : ∀ t ∈ tokens, t.isEnd = false → t.Stands source
  ends : ∀ t ∈ tokens, t.isEnd = true → source.EndsAt source.text t.start
  stop : source.EndsAt source.text (endPosition source.name tokens)
  ordered : tokens.Pairwise Token.Before

variable {source : Source} {name : String} {offset : Nat} {tiles : List Tile} {last s : List Char}

theorem Source.EndsAt.le_size {before after : String} {p : Position} (h : source.EndsAt before p)
    (whole : source.text = before ++ after) : p.offset.toNat ≤ source.text.utf8ByteSize := by
  rw [h.offset, whole, String.utf8ByteSize_append]
  exact Nat.le_add_right _ _

theorem Source.EndsAt.byteLength_eq {first second : List Char} {p : Position}
    (h : source.EndsAt (String.ofList first) p) (g : source.EndsAt (String.ofList second) p) :
    byteLength first = byteLength second := by
  rw [← utf8ByteSize_ofList, ← utf8ByteSize_ofList, ← h.offset, ← g.offset]

theorem Source.EndsAt.not_of_append {before more : List Char} {p : Position}
    (h : source.EndsAt (String.ofList (before ++ more)) p) (nonempty : more ≠ []) :
    ¬ source.EndsAt (String.ofList before) p := by
  intro early
  have same := early.byteLength_eq h
  have longer := byteLength_pos nonempty
  rw [byteLength_append] at same
  omega

theorem Source.endsAt_ofNat (short : source.text.utf8ByteSize < UInt32.size)
    {before after : List Char} (whole : source.text.toList = before ++ after) :
    source.EndsAt (String.ofList before) (.ofNat source.name (byteLength before)) := by
  have size : byteLength before ≤ source.text.utf8ByteSize := by
    rw [← byteLength_toList, whole, byteLength_append]
    exact Nat.le_add_right _ _
  refine ⟨rfl, ?_⟩
  rw [utf8ByteSize_ofList]
  exact UInt32.toNat_ofNat_of_lt' (Nat.lt_of_le_of_lt size short)

theorem Source.endsAt_text (short : source.text.utf8ByteSize < UInt32.size) :
    source.EndsAt source.text (.ofNat source.name source.text.utf8ByteSize) := by
  have whole : source.text.toList = source.text.toList ++ [] := (List.append_nil _).symm
  have last := Source.endsAt_ofNat short whole
  rwa [String.ofList_toList, byteLength_toList] at last

namespace Tiling

theorem stands (h : Tiling source.name 0 tiles last source.text.toList)
    (short : source.text.utf8ByteSize < UInt32.size) :
    ∀ t ∈ tiles.map Tile.token, t.Stands source := by
  intro t member
  obtain ⟨tile, inside, rfl⟩ := List.mem_map.1 member
  obtain ⟨front, rear, here⟩ := List.append_of_mem inside
  have fits := h.fits here
  have whole := h.text_eq
  let before := front.flatMap Tile.text ++ tile.gap
  let after := rear.flatMap Tile.text ++ last
  have split : source.text.toList = before ++ (tile.token.value.toList ++ after) := by
    rw [whole, here]
    simp [before, after, Tile.text]
  have start := Source.endsAt_ofNat short split
  rw [← List.append_assoc] at split
  have stop := Source.endsAt_ofNat short split
  refine ⟨String.ofList before, String.ofList after, ?_, ?_, ?_⟩
  · apply String.toList_injective
    simpa using split
  · rw [fits.start, Nat.zero_add, ← byteLength_append]
    exact start
  · rw [fits.stop, Nat.zero_add, ← byteLength_append, ← byteLength_append]
    rw [String.ofList_append, String.ofList_toList] at stop
    exact stop

theorem start_of_mem (h : Tiling name offset tiles last s) {tile : Tile} (member : tile ∈ tiles) :
    ∃ n, offset ≤ n ∧ n ≤ offset + byteLength s ∧ tile.token.span.start = .ofNat name n := by
  obtain ⟨before, after, here⟩ := List.append_of_mem member
  refine ⟨_, ?_, ?_, (h.fits here).start⟩
  · omega
  · rw [h.text_eq, here]
    simp only [List.flatMap_append, List.flatMap_cons, Tile.text, byteLength_append]
    omega

theorem ordered (h : Tiling name offset tiles last s)
    (short : offset + byteLength s < UInt32.size) :
    (tiles.map Tile.token).Pairwise Token.Before := by
  induction h with
  | finish gap => exact .nil
  | @tile offset tile tiles last behind fits later ih =>
    rw [byteLength_append] at short
    refine List.pairwise_cons.2 ⟨fun t member => ?_, ih (by omega)⟩
    obtain ⟨next, inside, rfl⟩ := List.mem_map.1 member
    obtain ⟨n, low, high, start⟩ := later.start_of_mem inside
    have size : byteLength tile.text = byteLength tile.gap + byteLength tile.token.value.toList :=
      byteLength_append _ _
    rw [Token.Before, start, fits.stop, UInt32.le_iff_toNat_le]
    simp only [Position.ofNat]
    rw [UInt32.toNat_ofNat_of_lt' (by omega), UInt32.toNat_ofNat_of_lt' (by omega)]
    omega

end Tiling

theorem Source.scan_stop (rest : source.scan.rest = []) :
    source.scan.stop = source.text.utf8ByteSize := by
  have whole := source.scan_flatten
  rw [rest, List.append_nil] at whole
  rw [Scan.stop, whole, byteLength_toList]

theorem Source.places_tokens (short : source.text.utf8ByteSize < UInt32.size) {tokens : List Token}
    (read : source.tokenize = .ok tokens) : source.Places tokens := by
  obtain ⟨rest, rfl⟩ := Source.tokenize_eq_ok_iff.1 read
  obtain ⟨tiles, last, tiling, same⟩ := (Lexeme.covers_split rest).exists_tiling source.name
  have scanned : source.scan.tokens source.name = tiles.map Tile.token := same
  have final : source.EndsAt source.text (source.scan.ending source.name).start := by
    rw [Scan.ending, Source.scan_stop rest]
    exact Source.endsAt_text short
  have stands : ∀ t ∈ source.scan.tokens source.name, t.Stands source := by
    rw [scanned]
    exact tiling.stands short
  have order : (source.scan.tokens source.name).Pairwise Token.Before := by
    rw [scanned]
    exact tiling.ordered (by rw [byteLength_toList]; omega)
  have inner {t : Token}
      (member : t ∈ source.scan.tokens source.name ++ [source.scan.ending source.name])
      (inside : t.isEnd = false) : t ∈ source.scan.tokens source.name := by
    refine (List.mem_append.1 member).resolve_right fun closes => ?_
    rw [List.mem_singleton.1 closes] at inside
    cases inside
  constructor
  · intro t member inside
    exact Source.lexical (inner member inside)
  · intro t member inside
    exact stands t (inner member inside)
  · intro t member marks
    rcases List.mem_append.1 member with early | closes
    · rw [(Source.lexical early).not_isEnd] at marks
      cases marks
    · rw [List.mem_singleton.1 closes]
      exact final
  · rw [endPosition, List.getLast?_concat]
    exact final
  · refine List.pairwise_append.2 ⟨order, List.pairwise_singleton _ _, fun t member u closes => ?_⟩
    obtain ⟨before, after, whole, -, stop⟩ := stands t member
    rw [List.mem_singleton.1 closes, Token.Before, UInt32.le_iff_toNat_le]
    exact Nat.le_trans (stop.le_size whole) (Nat.le_of_eq final.offset.symm)

end SqlReader
