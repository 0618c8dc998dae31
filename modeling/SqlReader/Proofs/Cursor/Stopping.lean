import SqlReader.Proofs.Cursor.Runs
import SqlReader.Proofs.Draft.Continuation
import SqlReader.Proofs.Grammar.Order
import SqlReader.Proofs.Script.Blame

set_option autoImplicit false

namespace SqlReader

def Begins (forms : List Form) (w : List Token) : Prop :=
  ∃ rest s, Phrase (w ++ rest) s ∧ s.form ∈ forms

-- The values of an `INSERT`, announced and enclosed, are the last of the tokens.
def EndsInValues (w : List Token) : Prop :=
  ∃ before values opening literals list close,
    w = before ++ values :: opening :: (list ++ [close]) ∧ values.kind = .valuesKeyword ∧
    opening.kind = .openParen ∧ ListUntil IsLiteral .closeParen literals (list ++ [close]) ∧
    close.kind = .closeParen

variable {w : List Token} {s : Statement} {e : SyntaxError}

theorem ListUntil.exists_last {α : Type} {item : α → List Token → Prop} {stop : Kind}
    {items : List α} (h : ListUntil item stop items w) :
    ∃ v t, w = v ++ [t] ∧ t.kind = stop := by
  induction h with
  | @last a v t first stops => exact ⟨v, t, rfl, stops⟩
  | @more a rest v w comma first separates later ih =>
    obtain ⟨u, t, rfl, stops⟩ := ih
    exact ⟨v ++ comma :: u, t, by simp, stops⟩

theorem Phrase.endsInValues {i : Insert} (h : Phrase w (.insert i)) : EndsInValues w := by
  cases h with
  | @insert insert into name values opening names literals v w leads second named columns announces
      opens list =>
    obtain ⟨inner, close, rfl, closes⟩ := list.exists_last
    exact ⟨insert :: into :: name :: v, values, opening, literals, inner, close, rfl, announces,
      opens, list, closes⟩

namespace Draft

variable {forms : List Form} {d : Draft} {r : Except SyntaxError Statement}

theorem Completes.of_opening (h : (opening forms).Completes w r) : empty.Completes w r := by
  obtain ⟨t, u, form, rfl, -, kind, rest⟩ := completes_opening.1 h
  exact completes_empty.2 ⟨t, u, form, rfl, kind, rest⟩

theorem form_eq_of_phrase {t : Token} {form : Form} (phrase : Phrase (t :: w) s)
    (kind : t.kind = form.keyword) : form = s.form := by
  obtain ⟨lead, rest, split, leads, -, -⟩ := phrase.spelled
  obtain ⟨rfl, -⟩ := List.cons.inj split
  exact Form.keyword_inj (kind.symm.trans leads)

theorem Completes.form_mem (h : (opening forms).Completes w r) (phrase : Phrase w s) :
    s.form ∈ forms := by
  obtain ⟨t, u, form, rfl, member, kind, -⟩ := completes_opening.1 h
  rwa [← form_eq_of_phrase phrase kind]

theorem Completes.opening (h : empty.Completes w r) (phrase : Phrase w s)
    (member : s.form ∈ forms) : (opening forms).Completes w r := by
  obtain ⟨t, u, form, rfl, kind, rest⟩ := completes_empty.1 h
  rw [← form_eq_of_phrase phrase kind] at member
  exact completes_opening.2 ⟨t, u, form, rfl, member, kind, rest⟩

theorem begins_iff : Begins forms w ↔ ∃ rest r, (opening forms).Completes (w ++ rest) r := by
  constructor
  · intro h
    obtain ⟨rest, s, phrase, member⟩ := h
    obtain ⟨r, whole⟩ := completes_of_phrase phrase
    exact ⟨rest, r, whole.opening phrase member⟩
  · intro h
    obtain ⟨rest, r, whole⟩ := h
    obtain ⟨s, phrase⟩ := phrase_of_completes whole.of_opening
    exact ⟨rest, s, phrase, whole.form_mem phrase⟩

theorem Reaches.completable_of_opening {form : Form} (h : (opening forms).Reaches w d)
    (member : form ∈ forms) : d.Completable := by
  cases h with
  | refl =>
    have taken : (opening forms).take? (.ofKind form.keyword) = some (.next (begin _ form)) :=
      take?_opening_iff.2 ⟨form, member, rfl, rfl⟩
    exact .of_take taken (whole_of_take taken).completable
  | step taken later => exact (later.whole (whole_of_take taken)).completable

theorem Reaches.begins {form : Form} (h : (opening forms).Reaches w d) (member : form ∈ forms) :
    Begins forms w := by
  obtain ⟨kinds, r, rest⟩ := h.completable_of_opening member
  exact begins_iff.2 ⟨_, r, h.completes rest⟩

theorem Reaches.not_begins {t : Token} (h : (opening forms).Reaches w d)
    (refuses : d.take? t = none) : ¬ Begins forms (w ++ [t]) := by
  intro begins
  obtain ⟨rest, r, whole⟩ := begins_iff.1 begins
  rw [List.append_assoc] at whole
  exact h.not_completes refuses whole

end Draft

namespace Cursor

structure StandsAt (d : Cursor) (e : SyntaxError) : Prop where
  position : d.position = e.position
  blames : e.Blames d.current

inductive TakesOne (due : Kind → Prop) (c : Cursor) : Except SyntaxError Token × Cursor → Prop
  | taken {d : Cursor} (accepted : due c.current.kind) (passes : c.Passes [c.current] d) :
      TakesOne due c (.ok c.current, d)
  | atEnd (accepted : due c.current.kind) (ends : c.current.isEnd = true) :
      TakesOne due c (.ok c.current, c)
  | refused {e : SyntaxError} (other : ¬ due c.current.kind) (stands : c.StandsAt e) :
      TakesOne due c (.error e, c)

/-- What a call answers that reads a statement, and where it leaves the cursor `c`. -/
inductive ReadsTo (forms : List Form) (c : Cursor) : Except SyntaxError Statement × Cursor → Prop
  | read {w : List Token} {s : Statement} {d : Cursor} (passes : c.Passes w d)
      (sentence : Sentence w s) (form : s.form ∈ forms) : ReadsTo forms c (.ok s, d)
  | miscounted {w : List Token} {e : SyntaxError} {d : Cursor} (passes : c.Passes w d)
      (mistake : Miscounted w e) (closed : EndsInValues w) (form : .insert ∈ forms) :
      ReadsTo forms c (.error e, d)
  | refused {w : List Token} {e : SyntaxError} {d : Cursor} (passes : c.Passes w d)
      (begins : Begins forms w) (offends : ¬ Begins forms (w ++ [d.current]))
      (stands : d.StandsAt e) : ReadsTo forms c (.error e, d)

variable {c d : Cursor}

theorem StandsAt.of_blames (blames : e.Blames d.current) : d.StandsAt e :=
  ⟨blames.position.symm, blames⟩

theorem takesOne_advance {due : Kind → Prop} (accepted : due c.current.kind) :
    c.TakesOne due (.ok c.current, c.advance) := by
  cases ends : c.current.isEnd with
  | true =>
    rw [advance_of_isEnd ends]
    exact .atEnd accepted ends
  | false => exact .taken accepted (passes_advance ends)

theorem takesOne_expectOneOf (kinds : List Kind) (c : Cursor) :
    c.TakesOne (· ∈ kinds) (c.expectOneOf kinds) := by
  rw [expectOneOf]
  split
  next accepted => exact takesOne_advance accepted
  next other => exact .refused other (.of_blames (SyntaxError.blames_unexpected _ _))

theorem takesOne_expect (kind : Kind) (c : Cursor) : c.TakesOne (· = kind) (c.expect kind) := by
  have among := takesOne_expectOneOf [kind] c
  simp only [List.mem_singleton] at among
  exact among

theorem takesOne_columnType (c : Cursor) : c.TakesOne (·.isColumnType = true) c.columnType := by
  rw [columnType]
  split
  next accepted => exact takesOne_advance accepted
  next other => exact .refused other (.of_blames (SyntaxError.blames_notAType _))

theorem readsTo_read {forms : List Form} {form : Form} (member : form ∈ forms) (c : Cursor) :
    c.ReadsTo forms (c.read forms) := by
  obtain ⟨behind, ahead, stop, name⟩ := c
  cases (Draft.opening forms).splits ahead with
  | @complete w rest r whole =>
    rw [Cursor.read, Draft.read_of_completes whole]
    cases r with
    | ok s =>
      have sentence := Draft.completes_empty_iff.1 whole.of_opening
      exact .read ⟨whole.not_isEnd, rfl, rfl, rfl, rfl⟩ sentence (whole.form_mem sentence.phrase)
    | error e =>
      have mistake := Draft.miscounted_of_completes whole.of_opening
      have ⟨_, _, _, i, _, phrase, _⟩ := mistake
      exact .miscounted ⟨whole.not_isEnd, rfl, rfl, rfl, rfl⟩ mistake phrase.endsInValues
        (whole.form_mem phrase)
  | @refused w rest t e reached refuses =>
    rw [Cursor.read, reached.read, Draft.read, refuses]
    exact .refused ⟨reached.not_isEnd, rfl, rfl, rfl, rfl⟩ (reached.begins member)
      (reached.not_begins refuses) (.of_blames (e.blames_refusal t))
  | @short w e reached =>
    have found := reached.read stop behind []
    rw [List.append_nil, Draft.read] at found
    rw [Cursor.read, found]
    have refuses : e.take? (Token.ending stop) = none := Draft.take?_eq_none_of_isEnd rfl
    exact .refused ⟨reached.not_isEnd, (List.append_nil _).symm, rfl, rfl, rfl⟩
      (reached.begins member) (reached.not_begins refuses)
      (.of_blames (e.blames_refusal (Token.ending stop)))

end Cursor

/-- Where each call leaves a cursor, however it has come to stand where it stands. -/
theorem cursor_stops (c : Cursor) :
    (∀ kind, c.TakesOne (· = kind) (c.expect kind)) ∧
      (∀ kinds, c.TakesOne (· ∈ kinds) (c.expectOneOf kinds)) ∧
      c.TakesOne (·.isColumnType = true) c.columnType ∧ c.ReadsTo Form.all (c.read Form.all) ∧
      ∀ form, c.ReadsTo [form] (c.read [form]) := by
  exact ⟨fun kind => Cursor.takesOne_expect kind c,
    fun kinds => Cursor.takesOne_expectOneOf kinds c, Cursor.takesOne_columnType c,
    Cursor.readsTo_read (Form.mem_all .select) c,
    fun form => Cursor.readsTo_read (List.mem_singleton.2 rfl) c⟩

end SqlReader
