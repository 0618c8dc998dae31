import Mathlib.Data.List.Basic
import SqlReader.Proofs.Scan.Stopping
import SqlReader.Proofs.Script.Course

set_option autoImplicit false

namespace SqlReader

abbrev LogEntry := String × List (String × FieldValue)

def Event.entry (e : Event) : LogEntry := (e.message, e.fields)

def lexedEntry (t : Token) : LogEntry :=
  ("lexed token", [("token", .text t.summary), ("offset", .count t.start.offset.toNat)])

def tokenizedEntry (tokens : Nat) (name : String) : LogEntry :=
  ("tokenized source", [("tokens", .count tokens), ("file", .text name)])

def dispatchingEntry (lead : Token) : LogEntry :=
  ("dispatching statement",
    [("keyword", .text lead.value), ("offset", .count lead.start.offset.toNat)])

def parsedEntry (s : Statement) : LogEntry :=
  ("parsed statement", [("statement", .text s.render)])

def finishedEntry (statements : Nat) (name : String) : LogEntry :=
  ("parsed script", [("statements", .count statements), ("file", .text name)])

def courseEntries (name : String) (runs : List (Token × Statement)) (pending : Option Token)
    (r : Except SyntaxError (List Statement)) : List LogEntry :=
  runs.flatMap (fun run => [dispatchingEntry run.1, parsedEntry run.2]) ++
    pending.toList.map dispatchingEntry ++
    match r with
    | .ok body => [finishedEntry body.length name]
    | .error _ => []

@[simp] theorem entry_lexed (t : Token) :
    (Event.lexed t t.start.offset.toNat).entry = lexedEntry t := rfl

@[simp] theorem entry_tokenized (tokens : Nat) (name : String) :
    (Event.tokenized tokens name).entry = tokenizedEntry tokens name := rfl

@[simp] theorem entry_dispatching (lead : Token) :
    (Event.dispatching lead).entry = dispatchingEntry lead := rfl

@[simp] theorem entry_parsed (s : Statement) : (Event.parsed s).entry = parsedEntry s := rfl

@[simp] theorem entry_finished (statements : Nat) (name : String) :
    (Event.finished statements name).entry = finishedEntry statements name := rfl

variable {source : Source} {offset : Nat} {s rest : List Char} {lexemes : List Lexeme}

theorem Lexeme.Passes.offset_le (h : Passes offset s lexemes rest) {l : Lexeme}
    (mem : l ∈ lexemes) : l.offset ≤ offset + byteLength s := by
  induction h with
  | refl => cases mem
  | @step offset s rest first lexemes found later ih =>
    rcases List.mem_cons.1 mem with rfl | mem
    · rw [(next?_eq_some found).2.2]
      exact Nat.le_add_right offset _
    · have size := congrArg byteLength (next?_append_drop found)
      rw [byteLength_append] at size
      have bound := ih mem
      rw [Lexeme.size] at bound
      omega

theorem Source.lexed_events (short : source.text.utf8ByteSize < UInt32.size) :
    (source.scan.lexemes.filterMap fun l =>
      (l.token? source.name).map fun token => Event.lexed token l.offset) =
      (source.scan.tokens source.name).map fun t => .lexed t t.start.offset.toNat := by
  rw [Scan.tokens, List.map_filterMap]
  refine List.filterMap_congr fun l mem => ?_
  have bound := source.reaches_scan.offset_le mem
  rw [byteLength_toList] at bound
  have same : (UInt32.ofNat l.offset).toNat = l.offset := UInt32.toNat_ofNat_of_lt' (by omega)
  cases kind : l.sort.kind? l.text with
  | none => simp [Lexeme.token?, kind]
  | some k => simp [Lexeme.token?, kind, Token.start, Position.ofNat, same]

theorem Source.events_of_error (short : source.text.utf8ByteSize < UInt32.size) {e : SyntaxError}
    (fails : source.tokenize = .error e) :
    source.scan.events source.name =
      (source.scan.tokens source.name).map fun t => .lexed t t.start.offset.toNat := by
  rw [tokenize, Scan.result] at fails
  split at fails
  next => cases fails
  next c rest left => rw [Scan.events, left, source.lexed_events short]

theorem Source.events_of_ok (short : source.text.utf8ByteSize < UInt32.size) {tokens : List Token}
    (read : source.tokenize = .ok tokens) :
    source.scan.events source.name =
      (tokens.map fun t => .lexed t t.start.offset.toNat) ++
        [.tokenized tokens.length source.name] := by
  obtain ⟨left, rfl⟩ := Source.tokenize_eq_ok_iff.1 read
  have stop : (source.scan.ending source.name).start.offset.toNat = source.scan.stop := by
    rw [Scan.ending, Source.scan_stop left]
    exact UInt32.toNat_ofNat_of_lt' short
  rw [Scan.events, left, source.lexed_events short]
  simp [stop]

theorem Source.exists_before (short : source.text.utf8ByteSize < UInt32.size) {e : SyntaxError}
    (fails : source.tokenize = .error e) :
    ∃ before after, source.text = before ++ after ∧
      before.utf8ByteSize = e.position.offset.toNat ∧
      (⟨source.name, before⟩ : Source).tokenize =
        .ok (source.scan.tokens source.name ++ [Token.ending e.position]) := by
  have reached := source.reaches_scan
  have position : e.position = .ofNat source.name source.scan.stop := by
    rw [tokenize, Scan.result] at fails
    split at fails <;> cases fails
    rfl
  rw [position]
  refine ⟨_, String.ofList source.scan.rest, ?_, ?_, reached.tokenize_before⟩
  · apply String.toList_injective
    simpa using reached.text_eq
  · exact (reached.endsAt short).offset.symm

theorem readScript_log (name : String) (tokens : List Token) :
    ∃ runs pending,
      Course (endPosition name tokens) tokens runs pending (parseScript name tokens) ∧
      (readScript name tokens).events.map Event.entry =
        courseEntries name runs pending (parseScript name tokens) := by
  obtain ⟨runs, pending, r, course⟩ := exists_course (endPosition name tokens) tokens
  have read := course.readMany
  have result : parseScript name tokens = r := by rw [parseScript_eq, read]
  refine ⟨runs, pending, result ▸ course, ?_⟩
  rw [result, readScript, Traced.andThen, read]
  cases r <;> simp [courseEntries, List.map_flatMap, Function.comp_def, runEvents]

/-- Logged are the tokens and the end if it was reached, then their number; for each statement read in
full two entries, for the one that reading broke off in the first of the two; and last how many
statements there are, if the script was read to its end. -/
theorem log_mirrors_run (source : Source) (short : source.text.utf8ByteSize < UInt32.size) :
    let log := source.tracedScript.events.map Event.entry
    (∀ e, source.tokenize = .error e →
      ∃ before after tokens, source.text = before ++ after ∧
        before.utf8ByteSize = e.position.offset.toNat ∧
        (⟨source.name, before⟩ : Source).tokenize = .ok (tokens ++ [Token.ending e.position]) ∧
        log = tokens.map lexedEntry) ∧
      ∀ tokens, source.tokenize = .ok tokens →
        ∃ runs pending,
          Course (endPosition source.name tokens) tokens runs pending source.script ∧
          (∀ run ∈ runs, run.2.start = run.1.start) ∧
          (∀ body, source.script = .ok body → body = runs.map Prod.snd ∧ pending = none) ∧
          log = tokens.map lexedEntry ++ tokenizedEntry tokens.length source.name ::
            courseEntries source.name runs pending source.script := by
  intro log
  constructor
  · intro e fails
    obtain ⟨before, after, text, size, read⟩ := source.exists_before short fails
    refine ⟨before, after, _, text, size, read, ?_⟩
    simp [log, Source.tracedScript, Traced.andThen, Source.tracedTokens, fails,
      source.events_of_error short fails, Function.comp_def]
  · intro tokens read
    obtain ⟨runs, pending, course, logged⟩ := readScript_log source.name tokens
    have result : source.script = parseScript source.name tokens := by
      rw [Source.script, read]
      rfl
    rw [result]
    refine ⟨runs, pending, course, course.start_eq, fun body => course.body_eq, ?_⟩
    simp [log, Source.tracedScript, Traced.andThen, Source.tracedTokens, read, logged,
      source.events_of_ok short read, Function.comp_def]

theorem log_of_unread_character_and_of_trailing_token :
    (let source : Source := ⟨"shell", "select a #"⟩
      let e : SyntaxError := ⟨.unrecognised "#", ⟨9, "shell"⟩⟩
      source.text.utf8ByteSize < UInt32.size ∧ source.tokenize = .error e ∧
        ∃ before after tokens, source.text = before ++ after ∧
          before.utf8ByteSize = e.position.offset.toNat ∧
          (⟨source.name, before⟩ : Source).tokenize = .ok (tokens ++ [Token.ending e.position]) ∧
          source.tracedScript.events.map Event.entry = tokens.map lexedEntry) ∧
      let source : Source := ⟨"shell", "select a from t b"⟩
      let span (start stop : UInt32) : Span := ⟨⟨start, "shell"⟩, ⟨stop, "shell"⟩⟩
      let tokens : List Token := [⟨.selectKeyword, "select", span 0 6⟩,
        ⟨.identifier, "a", span 7 8⟩, ⟨.fromKeyword, "from", span 9 13⟩,
        ⟨.identifier, "t", span 14 15⟩, ⟨.identifier, "b", span 16 17⟩, .ending ⟨17, "shell"⟩]
      source.text.utf8ByteSize < UInt32.size ∧ source.tokenize = .ok tokens ∧
        ∃ runs pending,
          Course (endPosition source.name tokens) tokens runs pending source.script ∧
          (∀ run ∈ runs, run.2.start = run.1.start) ∧
          (∀ body, source.script = .ok body → body = runs.map Prod.snd ∧ pending = none) ∧
          source.tracedScript.events.map Event.entry =
            tokens.map lexedEntry ++ tokenizedEntry tokens.length source.name ::
              courseEntries source.name runs pending source.script := by
  constructor
  · intro source e
    have short : source.text.utf8ByteSize < UInt32.size := by decide +kernel
    have fails : source.tokenize = .error e := by decide +kernel
    exact ⟨short, fails, (log_mirrors_run source short).1 e fails⟩
  · intro source span tokens
    have short : source.text.utf8ByteSize < UInt32.size := by decide +kernel
    have read : source.tokenize = .ok tokens := by decide +kernel
    exact ⟨short, read, (log_mirrors_run source short).2 tokens read⟩

end SqlReader
