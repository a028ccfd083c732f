import SqlDdl.Proofs.TokenLists
import SqlDdl.Statement.Render

/-! The events in the SQL of a trigger: all of them are there, and each begins with its keyword, if and only if
no keyword of an event is blank. -/

namespace SqlDdl

namespace TriggerEvent

/-- The tokens of an event after its keyword. -/
def columnTokens (config : Config) (event : TriggerEvent) : Tokens :=
  .part event.columns fun columns =>
    .word columns.keyword ++ .text (ColumnRef.renderList config columns.columns)

/-- Whether the SQL of an event is not blank and begins with the keyword of the event. -/
structure IsIntroduced (config : Config) (event : TriggerEvent) : Prop where
  filled : hasText (event.render config) = true
  begins : ∃ keyword, keyword? event.keyword = some keyword ∧
    (event.render config = keyword ∨ ∃ rest, event.render config = keyword ++ " " ++ rest)

variable {config : Config} {event : TriggerEvent} {keyword : String}

/-- An event with a keyword is written with its keyword first. -/
theorem render_eq (normal : keyword? event.keyword = some keyword) :
    event.render config = " ".intercalate (keyword :: (event.columnTokens config).toList) := by
  have written : (Tokens.word event.keyword ++ event.columnTokens config).toList =
      keyword :: (event.columnTokens config).toList := by
    rw [Tokens.toList_append, Tokens.toList_word, normal]
    rfl
  rw [← written]
  rfl

theorem allTrimmed_columnTokens (config : Config) (event : TriggerEvent) :
    (event.columnTokens config).AllTrimmed := by
  refine .part fun columns _ => .append ?_ ?_
  · exact Tokens.allTrimmed_opt (keyword? columns.keyword)
  · exact Tokens.allTrimmed_opt (some (ColumnRef.renderList config columns.columns))

theorem isToken_render (normal : keyword? event.keyword = some keyword) :
    IsToken (event.render config) := by
  have first : IsToken keyword := .keyword normal
  have later := (allTrimmed_columnTokens config event).isToken
  rw [render_eq normal]
  exact .intercalate (List.cons_ne_nil _ _) (List.forall_mem_cons.mpr ⟨first, later⟩)

theorem begins_of_keyword? (normal : keyword? event.keyword = some keyword) :
    event.render config = keyword ∨ ∃ rest, event.render config = keyword ++ " " ++ rest := by
  rw [render_eq normal]
  cases (event.columnTokens config).toList with
  | nil =>
    left
    exact String.intercalate_singleton
  | cons first later =>
    right
    exact ⟨" ".intercalate (first :: later), String.intercalate_cons_cons⟩

theorem isIntroduced_iff : event.IsIntroduced config ↔ hasText event.keyword = true := by
  rw [← exists_keyword?_iff]
  constructor
  · rintro ⟨_, keyword, normal, _⟩
    exact ⟨keyword, normal⟩
  · rintro ⟨keyword, normal⟩
    have token : IsToken (event.render config) := isToken_render normal
    exact ⟨token.hasText, keyword, normal, begins_of_keyword? normal⟩

end TriggerEvent

namespace TriggerStatement

/-- The tokens of a trigger before its events. -/
def headTokens (config : Config) (statement : TriggerStatement) : Tokens :=
  .word statement.create ++ .marker "CONSTRAINT" statement.isConstraint ++ .word statement.keyword
    ++ .opt ((nonempty? statement.name).map config.quote) ++ .optWord statement.location

/-- The tokens of a trigger after the `ON` that follows its events. -/
def tailTokens (config : Config) (statement : TriggerStatement) : Tokens :=
  .text (statement.table.render config)
    ++ .part statement.source (fun table => .text "FROM" ++ .text (table.render config))
    ++ .part statement.deferrable KeywordArgs.words ++ .part statement.forEach KeywordArgs.words
    ++ .part statement.condition (TriggerCondition.tokens config)
    ++ statement.action.tokens config

/-- Whether some SQL of a trigger names its events: before `ON` is a chain of all of them, each begins with its
keyword, and `OR` stands only between two of them. -/
structure NamesEvents (config : Config) (statement : TriggerStatement) (sql : String) : Prop where
  introduced : ∀ event ∈ statement.events, event.IsIntroduced config
  chain : sql = " ".intercalate ((statement.headTokens config).toList ++
    " OR ".intercalate (statement.events.map (TriggerEvent.render config)) :: "ON" ::
      (statement.tailTokens config).toList)

variable {config : Config} {statement : TriggerStatement}

/-- The events and `ON` stand between the head and the tail of a trigger. -/
theorem toList_tokens : (statement.tokens config).toList = (statement.headTokens config).toList ++
    (Tokens.text (statement.renderEvents config)).toList ++ "ON" :: (statement.tailTokens config).toList := by
  have on : (Tokens.text "ON").toList = ["ON"] := rfl
  simp only [tokens, headTokens, tailTokens, Tokens.toList_append, on, List.append_assoc,
    List.cons_append, List.nil_append]

theorem render_eq_ok (present : statement.events ≠ []) :
    statement.render config = .ok (statement.tokens config).join := by
  have some : ¬statement.events.isEmpty = true := mt List.isEmpty_iff.mp present
  rw [render, if_neg some]

/-- The chain of the events is a single token if no event lacks its keyword. -/
theorem isToken_renderEvents (present : statement.events ≠ [])
    (named : ∀ event ∈ statement.events, hasText event.keyword = true) :
    IsToken (statement.renderEvents config) := by
  have texts : statement.events.map (TriggerEvent.render config) ≠ [] := mt List.map_eq_nil_iff.mp present
  refine .intercalate texts (List.forall_mem_map.mpr fun event member => ?_)
  obtain ⟨keyword, normal⟩ := exists_keyword?_iff.mpr (named event member)
  exact TriggerEvent.isToken_render normal

/-- A trigger whose events all have a keyword is written with the chain of the events before `ON`. -/
theorem render_named (present : statement.events ≠ [])
    (named : ∀ event ∈ statement.events, hasText event.keyword = true) :
    (statement.tokens config).join = " ".intercalate ((statement.headTokens config).toList ++
      statement.renderEvents config :: "ON" :: (statement.tailTokens config).toList) := by
  have chain : IsToken (statement.renderEvents config) := isToken_renderEvents present named
  rw [Tokens.join_eq, toList_tokens, Tokens.toList_text chain, List.append_assoc, List.singleton_append]

/-- A trigger without events has no SQL. Any other one has, and all of its events are named in it, each with its
keyword first, if and only if no keyword of an event is blank. -/
theorem render_namesEvents (statement : TriggerStatement) (config : Config) :
    (statement.events = [] → statement.render config =
      .error (.invalid "CREATE TRIGGER" "trigger must name at least one event")) ∧
    (statement.events ≠ [] → ∃ sql, statement.render config = .ok sql ∧
      (statement.NamesEvents config sql ↔ ∀ event ∈ statement.events, hasText event.keyword = true)) := by
  constructor
  · intro none
    rw [render, none]
    rfl
  · intro present
    refine ⟨_, render_eq_ok present, fun names event member => ?_, fun named => ⟨fun event member => ?_, ?_⟩⟩
    · exact TriggerEvent.isIntroduced_iff.mp (names.introduced event member)
    · exact TriggerEvent.isIntroduced_iff.mpr (named event member)
    · exact render_named present named

/-- A trigger on a table that runs a function on some events. -/
def onEvents (events : List TriggerEvent) : TriggerStatement where
  create := "create"
  isConstraint := none
  keyword := "trigger"
  name := none
  location := none
  events := events
  table := .named "t"
  source := none
  deferrable := none
  forEach := none
  condition := none
  action := ⟨"execute", ⟨"f", some []⟩⟩

/-- Events with a padded keyword and with a column that looks like another event. -/
def paddedEvents : List TriggerEvent :=
  [.named " insert\t", (TriggerEvent.named "update").ofColumns [.named "a OR DELETE", .named "or"]]

theorem paddedEvents_named :
    (onEvents paddedEvents).events ≠ [] ∧ (onEvents []).events = [] ∧
      (∃ sql, (onEvents paddedEvents).render {} = .ok sql ∧ (onEvents paddedEvents).NamesEvents {} sql) ∧
      (onEvents []).render {} = .error (.invalid "CREATE TRIGGER" "trigger must name at least one event") := by
  have present : (onEvents paddedEvents).events ≠ [] := List.cons_ne_nil _ _
  have named : ∀ event ∈ (onEvents paddedEvents).events, hasText event.keyword = true := by decide
  obtain ⟨sql, rendered, names⟩ := ((onEvents paddedEvents).render_namesEvents {}).2 present
  exact ⟨present, rfl, ⟨sql, rendered, names.mpr named⟩, ((onEvents []).render_namesEvents {}).1 rfl⟩

/-- An event without a keyword leaves nothing before `ON`. -/
theorem blankEvent_unnamed :
    (onEvents [.named " "]).render {} = .ok "CREATE TRIGGER ON t EXECUTE f()" ∧
      ¬(onEvents [.named " "]).NamesEvents {} "CREATE TRIGGER ON t EXECUTE f()" := by
  refine ⟨by rfl, fun names => ?_⟩
  obtain ⟨_, keyword, normal, _⟩ := names.introduced (.named " ") (List.mem_singleton_self _)
  have none : keyword? " " = none := rfl
  rw [show (TriggerEvent.named " ").keyword = " " from rfl, none] at normal
  cases normal

end TriggerStatement

end SqlDdl
