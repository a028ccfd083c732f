import SqlDdl.Proofs.NameLists
import SqlDdl.Proofs.TriggerEvents

/-! The events of a trigger are read back from their chain, whatever their columns are called, and so two
triggers with the same chain fire on the same events. -/

namespace SqlDdl

/-- What an event names: its keyword in the normal form and, if it is about columns, what these name. -/
structure EventReading where
  keyword : String
  columns : Option (List Reference)
deriving DecidableEq

def TriggerEvent.reading (event : TriggerEvent) : EventReading where
  keyword := (keyword? event.keyword).getD ""
  columns := event.columns.map fun columns => columns.columns.map ColumnRef.reference

/-- What an event names as it is written. -/
def EventReading.render (config : Config) (reading : EventReading) : String :=
  reading.keyword ++ match reading.columns with
    | none => ""
    | some refs => " OF " ++ commaList (refs.map fun ref => ColumnRef.render config ⟨ref.qualifier, ref.name⟩)

/-- Whether the keyword of an event is a word of ASCII letters, and its columns, if it has any, stand after
`OF`. Letter case and blanks around a word do not matter. -/
structure TriggerEvent.IsPlain (event : TriggerEvent) : Prop where
  filled : (trim event.keyword).toList ≠ []
  letters : ∀ c ∈ (trim event.keyword).toList, c.isAlpha = true
  columns : ∀ columns ∈ event.columns, keyword? columns.keyword = some "OF" ∧ columns.columns ≠ []

instance (event : TriggerEvent) : Decidable event.IsPlain :=
  decidable_of_iff ((trim event.keyword).toList ≠ [] ∧
      (∀ c ∈ (trim event.keyword).toList, c.isAlpha = true) ∧
      ∀ columns ∈ event.columns, keyword? columns.keyword = some "OF" ∧ columns.columns ≠ [])
    ⟨fun ⟨filled, letters, columns⟩ => ⟨filled, letters, columns⟩,
      fun ⟨filled, letters, columns⟩ => ⟨filled, letters, columns⟩⟩

namespace Dialect

/-- Reads the name of a column, with that of its table before it if there is one. -/
def readColumnRef (dialect : Dialect) : Reader Reference := fun cs =>
  (dialect.readQualified cs).map fun found => (⟨found.1.1, found.1.2, none⟩, found.2)

/-- Reads a word of capital letters and, if `OF` follows, the columns after it. -/
def readEvent (dialect : Dialect) : Reader EventReading := fun cs =>
  let keyword := String.ofList (cs.takeWhile Char.isUpper)
  let later := cs.dropWhile Char.isUpper
  match " OF ".toList.isPrefixOf? later with
  | some rest =>
    (readSeparated ", " dialect.readColumnRef (rest.length + 1) rest).map fun found =>
      (⟨keyword, some found.1⟩, found.2)
  | none => some (⟨keyword, none⟩, later)

/-- Reads a chain of events that takes the whole of a text. -/
def readEvents (dialect : Dialect) : List Char → Option (List EventReading) :=
  readToEnd " OR " dialect.readEvent

end Dialect

example : Dialect.ansi.readEvents "UPDATE OF \"a OR DELETE\", t.\"or\" OR DELETE".toList =
    some [⟨"UPDATE", some [⟨none, "a OR DELETE", none⟩, ⟨some "t", "or", none⟩]⟩, ⟨"DELETE", none⟩] := by
  decide +kernel

/-- Whether a column ends where a text begins. -/
def EndsColumn (cs : List Char) : Prop :=
  endsName cs = true ∧ cs.head? ≠ some '.'

/-- Whether an event ends where a text begins. -/
def EndsEvent (cs : List Char) : Prop :=
  cs = [] ∨ ∃ rest, cs = " OR ".toList ++ rest

theorem endsEvent_nil : EndsEvent [] :=
  Or.inl rfl

theorem EndsEvent.endsColumn {cs : List Char} (ends : EndsEvent cs) : EndsColumn cs := by
  rcases ends with rfl | ⟨rest, rfl⟩
  · exact ⟨rfl, Option.some_ne_none _ |>.symm⟩
  · exact ⟨rfl, fun same => absurd (Option.some.inj same) (by decide)⟩

section Events

variable {config : Config}

theorem readColumnRef_append (quotes : config.quoting ≠ .never) (ref : ColumnRef) {rest : List Char}
    (ends : EndsColumn rest) :
    config.dialect.readColumnRef ((ref.render config).toList ++ rest) = some (ref.reference, rest) := by
  have column := readStarred_column quotes ref.column ends.1
  have read : config.dialect.readQualified ((ref.render config).toList ++ rest) =
      some ((nonempty? ref.table, ref.column), rest) :=
    readQualified_append quotes ends.1 ends.2 column
  rw [Dialect.readColumnRef, read]
  rfl

/-- Columns are read back where an event ends. -/
theorem readColumnRefs_append (quotes : config.quoting ≠ .never) {refs : List ColumnRef} (present : refs ≠ [])
    {rest : List Char} (ends : EndsEvent rest) :
    let cs := (ColumnRef.renderList config refs).toList ++ rest
    readSeparated ", " config.dialect.readColumnRef (cs.length + 1) cs =
      some (refs.map ColumnRef.reference, rest) := by
  refine readSeparated_text (by decide) present ?reads ?between ends.endsColumn ?stops
  case reads => exact fun ref _ rest ends => readColumnRef_append quotes ref ends
  case between => exact fun rest => ⟨rfl, fun same => absurd (Option.some.inj same) (by decide)⟩
  case stops => rcases ends with rfl | ⟨later, rfl⟩ <;> rfl

theorem letter_ascii : ∀ n : Fin 128, (Char.ofNat n).isAlpha = true →
    isBlank (Char.ofNat n) = false ∧ ∀ d ∈ upperChar (Char.ofNat n), d.isUpper = true := by decide

theorem letter_cases {c : Char} (alpha : c.isAlpha = true) :
    isBlank c = false ∧ ∀ d ∈ upperChar c, d.isUpper = true := by
  have ascii : c.toNat < 128 := toNat_lt_of_isAlpha alpha
  exact forall_ascii letter_ascii ascii alpha

namespace TriggerEvent

variable {event : TriggerEvent}

/-- The normal form of the keyword of a plain event is a word of capital letters. -/
theorem IsPlain.exists_capitals (plain : event.IsPlain) :
    ∃ keyword, keyword? event.keyword = some keyword ∧ ∀ c ∈ keyword.toList, c.isUpper = true := by
  have chars : (trim event.keyword).toList = trimChars event.keyword.toList := String.toList_ofList
  have isWord : IsWord (trimChars event.keyword.toList) := by
    rw [← chars]
    exact ⟨plain.filled, fun c member => (letter_cases (plain.letters c member)).1⟩
  have single := splitWords_eq_singleton_iff.mpr ⟨isWord, rfl⟩
  refine ⟨String.ofList (upperChars (trimChars event.keyword.toList)), ?_, fun d member => ?_⟩
  · rw [keyword?_eq_some_iff, single, String.toList_ofList]
    exact ⟨List.cons_ne_nil _ _, List.intercalate_singleton.symm⟩
  · rw [String.toList_ofList] at member
    obtain ⟨c, inside, image⟩ := List.mem_flatMap.mp member
    exact (letter_cases (plain.letters c (chars ▸ inside))).2 d image

theorem reading_keyword {keyword : String} (normal : keyword? event.keyword = some keyword) :
    event.reading.keyword = keyword := by
  rw [reading, normal]
  rfl

/-- A plain event is written as its keyword and, if it is about columns, `OF` and these. -/
theorem IsPlain.render_eq_append (quotes : config.quoting ≠ .never) (plain : event.IsPlain) {keyword : String}
    (normal : keyword? event.keyword = some keyword) :
    event.render config = keyword ++ match event.columns with
      | none => ""
      | some columns => " OF " ++ ColumnRef.renderList config columns.columns := by
  rw [TriggerEvent.render_eq normal, columnTokens]
  cases shape : event.columns with
  | none =>
    rw [String.append_empty]
    exact String.intercalate_singleton
  | some columns =>
    obtain ⟨of, present⟩ := plain.columns columns shape
    have list : IsToken (ColumnRef.renderList config columns.columns) :=
      .intercalate (mt List.map_eq_nil_iff.mp present)
        (List.forall_mem_map.mpr fun ref _ => ref.isToken_render quotes)
    have tokens : (Tokens.word columns.keyword ++
        Tokens.text (ColumnRef.renderList config columns.columns)).toList =
          ["OF", ColumnRef.renderList config columns.columns] := by
      rw [Tokens.toList_append, Tokens.toList_word, of, Tokens.toList_text list]
      rfl
    show " ".intercalate (keyword :: (Tokens.word columns.keyword ++ _).toList) = _
    rw [tokens, String.intercalate_cons_cons, String.intercalate_cons_cons,
      String.intercalate_singleton, String.append_assoc, String.append_assoc]
    rfl

/-- A plain event is written as what it names. -/
theorem IsPlain.render_reading (quotes : config.quoting ≠ .never) (plain : event.IsPlain) :
    event.render config = event.reading.render config := by
  obtain ⟨keyword, normal, _⟩ := plain.exists_capitals
  rw [plain.render_eq_append quotes normal, EventReading.render, reading_keyword normal, reading]
  cases event.columns with
  | none => rfl
  | some columns =>
    have written : ColumnRef.renderList config columns.columns =
        commaList ((columns.columns.map ColumnRef.reference).map fun ref =>
          ColumnRef.render config ⟨ref.qualifier, ref.name⟩) :=
      congrArg commaList (ColumnRef.map_render columns.columns)
    simp only [Option.map_some, written]

/-- A plain event is read back where an event ends. -/
theorem IsPlain.readEvent_append (quotes : config.quoting ≠ .never) (plain : event.IsPlain)
    {rest : List Char} (ends : EndsEvent rest) :
    config.dialect.readEvent ((event.render config).toList ++ rest) = some (event.reading, rest) := by
  obtain ⟨keyword, normal, capitals⟩ := plain.exists_capitals
  have word : ∀ later, (∀ c, later.head? = some c → c.isUpper = false) →
      String.ofList ((keyword.toList ++ later).takeWhile Char.isUpper) = keyword ∧
        (keyword.toList ++ later).dropWhile Char.isUpper = later := by
    intro later stops
    obtain ⟨taken, left⟩ := takeWhile_append_of_head capitals stops
    exact ⟨by rw [taken, String.ofList_toList], left⟩
  rw [plain.render_eq_append quotes normal, Dialect.readEvent, reading, normal]
  cases shape : event.columns with
  | none =>
    have stops : ∀ c, rest.head? = some c → c.isUpper = false := by
      intro c first
      rcases ends with rfl | ⟨later, rfl⟩
      · cases first
      · exact Option.some.inj first ▸ rfl
    have none : " OF ".toList.isPrefixOf? rest = none := by
      rcases ends with rfl | ⟨later, rfl⟩ <;> rfl
    obtain ⟨taken, left⟩ := word rest stops
    simp only [String.append_empty, taken, left, none]
    rfl
  | some columns =>
    obtain ⟨_, present⟩ := plain.columns columns shape
    have chars : (keyword ++ (" OF " ++ ColumnRef.renderList config columns.columns)).toList ++ rest =
        keyword.toList ++ (" OF ".toList ++
          ((ColumnRef.renderList config columns.columns).toList ++ rest)) := by
      simp only [String.toList_append, List.append_assoc]
    have read := readColumnRefs_append quotes present ends
    obtain ⟨taken, left⟩ := word (" OF ".toList ++
      ((ColumnRef.renderList config columns.columns).toList ++ rest))
      fun c first => Option.some.inj first ▸ rfl
    simp only [chars, taken, left, isPrefixOf?_append, read]
    rfl

end TriggerEvent

namespace TriggerStatement

variable {statement : TriggerStatement}

theorem hasText_of_isPlain (plain : ∀ event ∈ statement.events, event.IsPlain) :
    ∀ event ∈ statement.events, hasText event.keyword = true := by
  intro event member
  obtain ⟨keyword, normal, _⟩ := (plain event member).exists_capitals
  exact exists_keyword?_iff.mp ⟨keyword, normal⟩

/-- The events of a trigger are read back from their chain. -/
theorem readEvents_chain (quotes : config.quoting ≠ .never)
    (plain : ∀ event ∈ statement.events, event.IsPlain) :
    config.dialect.readEvents (statement.renderEvents config).toList =
      some (statement.events.map TriggerEvent.reading) := by
  refine readToEnd_intercalate (by decide) ?present ?reads ?between endsEvent_nil
  case present =>
    intro event member
    obtain ⟨keyword, normal, _⟩ := (plain event member).exists_capitals
    exact (TriggerEvent.isToken_render normal).present
  case reads => exact fun event member rest ends => (plain event member).readEvent_append quotes ends
  case between => exact fun rest => Or.inr ⟨rest, rfl⟩

/-- The chain of the events stands before the `ON` of a trigger, and the events are read back from it. Two
triggers have the same chain if and only if they fire on the same events: as many of them, with the same
keywords and with the same columns, if any, where an empty table of a column is none. -/
theorem renderEvents_eq_iff (quotes : config.quoting ≠ .never) (first second : TriggerStatement)
    (plainFirst : ∀ event ∈ first.events, event.IsPlain)
    (plainSecond : ∀ event ∈ second.events, event.IsPlain) :
    (first.events ≠ [] → first.render config = .ok (" ".intercalate ((first.headTokens config).toList ++
      first.renderEvents config :: "ON" :: (first.tailTokens config).toList))) ∧
    config.dialect.readEvents (first.renderEvents config).toList =
      some (first.events.map TriggerEvent.reading) ∧
    (first.renderEvents config = second.renderEvents config ↔
      first.events.map TriggerEvent.reading = second.events.map TriggerEvent.reading) := by
  have readFirst := readEvents_chain quotes plainFirst
  have readSecond := readEvents_chain quotes plainSecond
  refine ⟨fun present => ?_, readFirst, fun same => ?_, fun same => ?_⟩
  · rw [render_eq_ok present, render_named present (hasText_of_isPlain plainFirst)]
  · rw [same, readSecond] at readFirst
    exact (Option.some.inj readFirst).symm
  · have written : ∀ statement : TriggerStatement, (∀ event ∈ statement.events, event.IsPlain) →
        statement.renderEvents config = " OR ".intercalate
          ((statement.events.map TriggerEvent.reading).map (EventReading.render config)) := by
      intro statement plain
      rw [renderEvents, List.map_map]
      refine congrArg _ (List.map_congr_left fun event member => ?_)
      exact (plain event member).render_reading quotes
    rw [written first plainFirst, written second plainSecond, same]

/-- Two triggers whose keywords are spelled in different ways. A column of theirs looks like another event, and
others are called like the words between events and columns. -/
theorem disguisedEvents_eq :
    let config : Config := ⟨.transactSql, .asNeeded⟩
    let first := onEvents [.named " Insert", ⟨"update", some ⟨"of", [⟨some "", "x OR DELETE"⟩, .named "of"]⟩⟩,
      .named "or"]
    let second := onEvents [.named "INSERT ", ⟨"Update", some ⟨" OF	", [.named "x OR DELETE", .named "of"]⟩⟩,
      .named "OR"]
    config.quoting ≠ .never ∧ (∀ event ∈ first.events, event.IsPlain) ∧
      (∀ event ∈ second.events, event.IsPlain) ∧
      first.renderEvents config = "INSERT OR UPDATE OF [x OR DELETE], of OR OR" ∧
      first.events.map TriggerEvent.reading = second.events.map TriggerEvent.reading := by
  intro config first second
  have quotes : config.quoting ≠ .never := by decide
  have plainFirst : ∀ event ∈ first.events, event.IsPlain := by decide
  have plainSecond : ∀ event ∈ second.events, event.IsPlain := by decide
  have written : first.renderEvents config = "INSERT OR UPDATE OF [x OR DELETE], of OR OR" := by
    decide +kernel
  have again : second.renderEvents config = "INSERT OR UPDATE OF [x OR DELETE], of OR OR" := by
    decide +kernel
  have same := (renderEvents_eq_iff quotes first second plainFirst plainSecond).2.2
  exact ⟨quotes, plainFirst, plainSecond, written, same.mp (written.trans again.symm)⟩

end TriggerStatement

end Events

end SqlDdl
