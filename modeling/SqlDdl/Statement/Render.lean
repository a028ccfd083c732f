import SqlDdl.Definition.Render
import SqlDdl.Select.Render
import SqlDdl.Statement.Basic

/-! The SQL of statements. -/

namespace SqlDdl

namespace TableStatement

def headTokens (config : Config) (statement : TableStatement) : Tokens :=
  .word statement.create ++ .marker "TEMPORARY" statement.temporary ++ .word statement.keyword
    ++ .marker "IF NOT EXISTS" statement.ifNotExists ++ .text (statement.table.render config)

/-- The body of a table as it is written, unless one of its definitions has no rendering; the first such
definition is reported. -/
def renderBody (config : Config) (definitions : List Definition) : Except Error String := do
  let rendered ← definitions.mapM fun definition => return (← definition.tokens config).join
  return parenthesized (commaList rendered)

def bodyTokens (config : Config) (statement : TableStatement) : Except Error Tokens :=
  match statement.definitions with
  | none => .ok .empty
  | some definitions => (renderBody config definitions).map .text

def tailTokens (config : Config) (statement : TableStatement) : Tokens :=
  Tokens.empty.extend ((statement.options.getD []).map (TableOption.render config))
    ++ .marker "IGNORE" statement.ignoreReplace ++ .marker "AS" statement.asMarker
    ++ .part statement.query (fun query => .text (query.render config))

/-- The tokens of the statement. A table that is like another one has neither body nor query. -/
def tokens (config : Config) (statement : TableStatement) : Except Error Tokens :=
  match statement.like with
  | some like =>
    .ok (statement.headTokens config ++ .word like.keyword ++ .text (like.table.render config))
  | none => do
    return statement.headTokens config ++ (← statement.bodyTokens config)
      ++ statement.tailTokens config

def render (config : Config) (statement : TableStatement) : Except Error String :=
  (statement.tokens config).map Tokens.join

end TableStatement

def TriggerEvent.render (config : Config) (event : TriggerEvent) : String :=
  (Tokens.word event.keyword ++ .part event.columns fun columns =>
    .word columns.keyword ++ .text (ColumnRef.renderList config columns.columns)).join

def KeywordArgs.words (clause : KeywordArgs) : Tokens :=
  .word clause.keyword ++ .optWord clause.args

/-- The tokens of a condition. Parentheses are added only if the condition has none of its own. -/
def TriggerCondition.tokens (config : Config) (clause : TriggerCondition) : Tokens :=
  .word clause.keyword ++ .text
    (parenthesizedIf (clause.parenthesized && !clause.condition.isParenthesized)
      (clause.condition.render config))

def TriggerAction.tokens (config : Config) (action : TriggerAction) : Tokens :=
  .word action.keyword ++ .text (action.function.render config)

namespace TriggerStatement

def renderEvents (config : Config) (statement : TriggerStatement) : String :=
  " OR ".intercalate (statement.events.map (TriggerEvent.render config))

def tokens (config : Config) (statement : TriggerStatement) : Tokens :=
  .word statement.create ++ .marker "CONSTRAINT" statement.isConstraint ++ .word statement.keyword
    ++ .opt ((nonempty? statement.name).map config.quote) ++ .optWord statement.location
    ++ .text (statement.renderEvents config) ++ .text "ON"
    ++ .text (statement.table.render config)
    ++ .part statement.source (fun table => .text "FROM" ++ .text (table.render config))
    ++ .part statement.deferrable KeywordArgs.words ++ .part statement.forEach KeywordArgs.words
    ++ .part statement.condition (TriggerCondition.tokens config)
    ++ statement.action.tokens config

/-- The statement as it is written. A trigger without events has no rendering. -/
def render (config : Config) (statement : TriggerStatement) : Except Error String :=
  if statement.events.isEmpty then
    .error (.invalid "CREATE TRIGGER" "trigger must name at least one event")
  else .ok (statement.tokens config).join

end TriggerStatement

def Statement.render (config : Config) : Statement → Except Error String
  | table value => value.render config
  | trigger value => value.render config
  | unsupported keyword => .error (.unsupported "CREATE" "keyword" keyword)

end SqlDdl
