import SqlReader.Proofs.Render.Writing
import SqlReader.Proofs.Scan.Stopping
import SqlReader.Proofs.Script.Blame
import SqlReader.Proofs.Script.Sentences

set_option autoImplicit false

namespace SqlReader

def Source.Fails (source : Source) (e : SyntaxError) : Prop :=
  source.statement = .error e ∨ source.script = .error e

structure Source.Placed (source : Source) (e : SyntaxError) (before after : List Char) : Prop where
  whole : source.text.toList = before ++ after
  ends : source.EndsAt (String.ofList before) e.position
  solid : ∀ c ∈ after.head?, isBlank c = false

variable {source : Source} {tokens : List Token} {stop : Position} {e : SyntaxError}

theorem Source.Placed.within {before after : List Char} (h : source.Placed e before after) :
    e.position.offset.toNat ≤ source.text.utf8ByteSize := by
  rw [h.ends.offset, utf8ByteSize_ofList, ← byteLength_toList, h.whole, byteLength_append]
  exact Nat.le_add_right _ _

theorem Arises.exists_token (h : Arises stop tokens e) :
    ∃ t ∈ tokens ++ [Token.ending stop], e.position = t.start := by
  cases h with
  | @token t member blames => exact ⟨t, member, blames.position⟩
  | values within mistake =>
    obtain ⟨before, values, after, i, rfl, -, -, -, -, rfl⟩ := mistake
    have member : values ∈ tokens := within.subset (by simp)
    exact ⟨values, List.mem_append_left _ member, rfl⟩

theorem Source.arises_of_fails (read : source.tokenize = .ok tokens) (fails : source.Fails e) :
    Arises (endPosition source.name tokens) tokens e := by
  rcases fails with statement | script
  · rw [Source.statement, read] at statement
    exact arises_of_readOne statement
  · rw [Source.script, read] at script
    exact arises_of_readMany ((parseScript_eq source.name tokens).symm.trans script)

theorem Source.fails_of_tokenize (refused : source.tokenize = .error e) {f : SyntaxError}
    (fails : source.Fails f) : e = f := by
  rw [Fails, statement, script, refused] at fails
  exact fails.elim Except.error.inj Except.error.inj

theorem Token.Lexical.placed {t : Token} (lexical : t.Lexical) (stands : t.Stands source)
    (here : e.position = t.start) : ∃ before after, source.Placed e before after := by
  obtain ⟨before, after, whole, start, -⟩ := stands
  obtain ⟨d, rest, value, solid⟩ := lexical.solid
  refine ⟨before.toList, d :: (rest ++ after.toList), ?_, ?_, ?_⟩
  · rw [whole, String.toList_append, String.toList_append, value]
    simp
  · rw [String.ofList_toList, here]
    exact start
  · simpa using solid

theorem Source.placed_at_end (ends : source.EndsAt source.text e.position) :
    source.Placed e source.text.toList [] :=
  ⟨(List.append_nil _).symm, by rwa [String.ofList_toList], by simp⟩

theorem Source.placed_of_unlexable (short : source.text.utf8ByteSize < UInt32.size)
    (refused : source.tokenize = .error e) : ∃ before after, source.Placed e before after := by
  have reached := source.reaches_scan
  have stuck : Lexeme.next? 0 source.scan.rest = none := Lexeme.next?_split 0 _
  rw [tokenize, Scan.result] at refused
  split at refused
  next => cases refused
  next c rest left =>
    cases refused
    rw [left] at reached stuck
    have solid := (Lexeme.unlexable_of_next?_eq_none stuck).blank
    exact ⟨_, _, reached.text_eq, reached.endsAt short, by simpa using solid⟩

theorem Source.exists_place (short : source.text.utf8ByteSize < UInt32.size)
    (fails : source.Fails e) : ∃ before after, source.Placed e before after := by
  cases read : source.tokenize with
  | error f =>
    obtain rfl := source.fails_of_tokenize read fails
    exact source.placed_of_unlexable short read
  | ok tokens =>
    have placed := Source.places_tokens short read
    obtain ⟨t, member, here⟩ := (source.arises_of_fails read fails).exists_token
    rcases List.mem_append.1 member with inner | final
    · cases marks : t.isEnd with
      | false => exact (placed.lexical t inner marks).placed (placed.stands t inner marks) here
      | true => exact ⟨_, _, Source.placed_at_end (here ▸ placed.ends t inner marks)⟩
    · rw [List.mem_singleton.1 final] at here
      exact ⟨_, _, Source.placed_at_end (here ▸ placed.stop)⟩

end SqlReader
