import Mathlib.Data.List.Perm.Basic
import SqlReader.Proofs.Scan.Standing
import SqlReader.Proofs.Script.Blame
import SqlReader.Proofs.Script.Sentences

set_option autoImplicit false

namespace SqlReader

def Form.word : Form → String
  | createTable => "CREATE"
  | insert => "INSERT"
  | select => "SELECT"

theorem Form.word_of_reserved {form : Form} {s : String}
    (h : (s, form.keyword) ∈ Kind.reserved) : s = form.word := by
  cases form <;> simpa [Kind.reserved, keyword, word] using h

structure Statement.Stands (source : Source) (s : Statement) : Prop where
  tokens : ∀ t ∈ s.tokens, t.Stands source
  complete : s.inOrder.Perm s.tokens
  ordered : s.inOrder.Pairwise Token.Before
  leads : ∃ lead : Token, lead.Stands source ∧ lead.value.toUpper = s.form.word ∧
    s.start = lead.start ∧ ∀ t ∈ s.tokens, lead.Before t

def Statement.Before (s u : Statement) : Prop :=
  ∀ t ∈ s.tokens, t.span.stop.offset ≤ u.start.offset

-- A wrong number of values is blamed on the keyword in front of them.
def SyntaxError.Stands (source : Source) (e : SyntaxError) : Prop :=
  match e.cause with
  | .unrecognised s => s.length = 1 ∧ ∃ before after, source.text = before ++ s ++ after ∧
      source.EndsAt before e.position
  | .unexpected _ found | .unknownType found | .trailing found =>
    found.Stands source ∧ e.position = found.start
  | .unexpectedEnd _ => source.EndsAt source.text e.position
  | .countMismatch _ _ => ∃ tokens w values, source.tokenize = .ok tokens ∧ w <:+: tokens ∧
      Miscounted w e ∧ values ∈ w ∧ values.Stands source ∧ values.value.toUpper = "VALUES" ∧
      e.position = values.start

theorem Statement.WellFormed.inOrder_perm {s : Statement} (h : s.WellFormed) :
    s.inOrder.Perm s.tokens := by
  cases s with
  | createTable s =>
    have paired := CreateTable.WellFormed.paired h
    have names : s.columns.map Prod.fst = s.names := List.map_fst_zip (Nat.le_of_eq paired)
    have types : s.columns.map Prod.snd = s.types := List.map_snd_zip (Nat.le_of_eq paired.symm)
    have apart := List.map_append_flatMap_perm s.columns Prod.fst fun column => [column.2]
    rw [← List.map_eq_flatMap, names, types] at apart
    exact .cons s.table apart.symm
  | insert s => exact .refl _
  | select s => exact List.perm_append_singleton _ _

variable {source : Source} {tokens w : List Token} {s : Statement} {e : SyntaxError}

theorem Sentence.stands (sentence : Sentence w s) (placed : source.Places tokens)
    (within : w <:+: tokens) : s.Stands source := by
  have plain : ∀ t ∈ w, t ∈ tokens ∧ t.isEnd = false := fun t member =>
    ⟨within.subset member, sentence.not_isEnd t member⟩
  have perm := sentence.wellFormed.inOrder_perm
  have order : w.Pairwise Token.Before := placed.ordered.sublist within.sublist
  obtain ⟨lead, rest, rfl, kind, start, kept⟩ := sentence.phrase.spelled
  obtain ⟨first, later⟩ := List.pairwise_cons.1 order
  obtain ⟨member, inside⟩ := plain lead List.mem_cons_self
  have keyword : (lead.value.toUpper, lead.kind) ∈ Kind.reserved := by
    refine (placed.lexical lead member inside).reserved ?_
    rw [kind]
    cases s.form <;> decide
  rw [kind] at keyword
  refine ⟨fun t held => ?_, perm, later.sublist kept, lead, ?_, ?_, start, fun t held => ?_⟩
  · obtain ⟨member, inside⟩ := plain t (sentence.phrase.mem_of_mem_tokens held)
    exact placed.stands t member inside
  · exact placed.stands lead member inside
  · exact Form.word_of_reserved keyword
  · exact first t (kept.subset (perm.mem_iff.2 held))

theorem Sentences.ordered {body : List Statement} (h : Sentences tokens body)
    (order : tokens.Pairwise Token.Before) : body.Pairwise Statement.Before := by
  induction h with
  | finish => exact .nil
  | semicolon skipped later ih => exact ih (List.pairwise_cons.1 order).2
  | last => exact List.pairwise_singleton _ _
  | @more w rest s t body sentence separates later ih =>
    obtain ⟨-, behind, across⟩ := List.pairwise_append.1 order
    refine List.pairwise_cons.2 ⟨fun u member a held => ?_, ih (List.pairwise_cons.1 behind).2⟩
    obtain ⟨v, other, within⟩ := later.exists_sentence member
    obtain ⟨lead, others, rfl, -, start, -⟩ := other.phrase.spelled
    have next : lead ∈ rest := within.subset List.mem_cons_self
    rw [start]
    exact across a (sentence.phrase.mem_of_mem_tokens held) lead (List.mem_cons_of_mem t next)

theorem SyntaxError.Blames.stands {t : Token} (h : e.Blames t)
    (inner : t.isEnd = false → t.Stands source)
    (final : t.isEnd = true → source.EndsAt source.text t.start) : e.Stands source := by
  cases h with
  | unexpected inside | unknownType inside | trailing inside => exact ⟨inner inside, rfl⟩
  | unexpectedEnd ends => exact final ends

theorem Miscounted.stands (h : Miscounted w e) (read : source.tokenize = .ok tokens)
    (placed : source.Places tokens) (within : w <:+: tokens) : e.Stands source := by
  have mistake := h
  obtain ⟨before, values, after, i, whole, -, kind, -, -, rfl⟩ := h
  have member : values ∈ w := by simp [whole]
  have inside : values.isEnd = false := by simp [Token.isEnd, kind]
  have keyword :=
    (placed.lexical values (within.subset member) inside).reserved (by rw [kind]; decide)
  have word : values.value.toUpper = "VALUES" := by
    rw [kind] at keyword
    simpa [Kind.reserved] using keyword
  have stands := placed.stands values (within.subset member) inside
  exact ⟨tokens, w, values, read, within, mistake, member, stands, word, rfl⟩

theorem Arises.stands (h : Arises (endPosition source.name tokens) tokens e)
    (read : source.tokenize = .ok tokens) (placed : source.Places tokens) : e.Stands source := by
  cases h with
  | values within mistake => exact mistake.stands read placed within
  | @token t member blames =>
    rcases List.mem_append.1 member with inner | final
    · exact blames.stands (placed.stands t inner) (placed.ends t inner)
    · obtain rfl := List.mem_singleton.1 final
      exact blames.stands nofun fun _ => placed.stop

theorem Source.stands_of_tokenize_error (short : source.text.utf8ByteSize < UInt32.size)
    (fails : source.tokenize = .error e) : e.Stands source := by
  rw [tokenize, Scan.result] at fails
  split at fails
  next => cases fails
  next c rest left =>
    cases fails
    have whole := source.scan_flatten
    rw [left] at whole
    have here := Source.endsAt_ofNat short whole.symm
    let before := String.ofList (source.scan.lexemes.flatMap Lexeme.text)
    have text : source.text = before ++ String.singleton c ++ String.ofList rest := by
      apply String.toList_injective
      simp [before, ← whole]
    exact ⟨String.length_singleton, before, _, text, here⟩

/-- Everything in the result of reading a text of less than 2^32 bytes points at the place in the text
that it is about, and has the name that was given. -/
theorem results_stand (name? : Option String) (text : String)
    (short : text.utf8ByteSize < UInt32.size) :
    let source : Source := ⟨name?.getD "shell", text⟩
    let given := Source.ofText name? text
    (∀ s, given.statement = .ok s → s.Stands source) ∧
      (∀ body, given.script = .ok body →
        (∀ s ∈ body, s.Stands source) ∧ body.Pairwise Statement.Before) ∧
      ∀ e, given.statement = .error e ∨ given.script = .error e → e.Stands source := by
  intro source given
  have same : given = source := rfl
  rw [same, Source.statement, Source.script]
  cases read : source.tokenize with
  | error f =>
    have stands := Source.stands_of_tokenize_error short read
    refine ⟨fun s parsed => ?_, fun body parsed => ?_, fun e fails => ?_⟩
    · cases parsed
    · cases parsed
    · obtain rfl : f = e := fails.elim Except.error.inj Except.error.inj
      exact stands
  | ok tokens =>
    have placed := Source.places_tokens short read
    refine ⟨fun s parsed => ?_, fun body parsed => ?_, fun e fails => ?_⟩
    · obtain ⟨w, rest, rfl, sentence, -⟩ := readOne_eq_ok_iff.1 parsed
      exact sentence.stands placed (List.prefix_append w rest).isInfix
    · have sentences : Sentences tokens body :=
        sentences_of_readMany ((parseScript_eq source.name tokens).symm.trans parsed)
      refine ⟨fun s member => ?_, sentences.ordered placed.ordered⟩
      obtain ⟨w, sentence, within⟩ := sentences.exists_sentence member
      exact sentence.stands placed within
    · rcases fails with fails | fails
      · exact (arises_of_readOne fails).stands read placed
      · have broken := (parseScript_eq source.name tokens).symm.trans fails
        exact (arises_of_readMany broken).stands read placed

theorem results_stand_accents :
    let text := "-- é\nselect a from t;"
    let unbalanced := text ++ "insert into t (a) values ('é', 1)"
    let column : Token := ⟨.identifier, "a", ⟨⟨13, "shell"⟩, ⟨14, "shell"⟩⟩⟩
    let table : Token := ⟨.identifier, "t", ⟨⟨20, "shell"⟩, ⟨21, "shell"⟩⟩⟩
    let select : Statement := .select ⟨⟨6, "shell"⟩, [column], table⟩
    let e : SyntaxError := ⟨.countMismatch 1 2, ⟨40, "shell"⟩⟩
    text.utf8ByteSize < UInt32.size ∧ unbalanced.utf8ByteSize < UInt32.size ∧
      (Source.ofText none text).script = .ok [select] ∧ select.Stands ⟨"shell", text⟩ ∧
      (Source.ofText none unbalanced).script = .error e ∧ e.Stands ⟨"shell", unbalanced⟩ := by
  intro text unbalanced column table select e
  have short : text.utf8ByteSize < UInt32.size := by decide +kernel
  have longer : unbalanced.utf8ByteSize < UInt32.size := by decide +kernel
  have read : (Source.ofText none text).script = .ok [select] := by decide +kernel
  have fails : (Source.ofText none unbalanced).script = .error e := by decide +kernel
  have stands := ((results_stand none text short).2.1 [select] read).1 select (by simp)
  exact ⟨short, longer, read, stands, fails,
    (results_stand none unbalanced longer).2.2 e (.inr fails)⟩

end SqlReader
