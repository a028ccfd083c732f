import SqlDdl.Definition.Basic
import SqlDdl.Table.Render

/-! The SQL of the definitions in the body of a table. -/

namespace SqlDdl

/-- A type as it is written. A scale is written only together with a length. -/
def DataType.render (dataType : DataType) : String :=
  let size :=
    match dataType.length, dataType.scale with
    | some length, some scale =>
      parenthesized (commaList [toString length, toString scale])
    | some length, none => parenthesized (toString length)
    | none, _ => ""
  let suffixes := (dataType.suffixes.getD []).map Tokens.word
  (Tokens.text (upper (trim dataType.name) ++ size) ++ .concat suffixes).join

def KeywordValue.words (pair : KeywordValue) : Tokens :=
  .word pair.keyword ++ .word pair.value

def ExprSetting.tokens (config : Config) (setting : ExprSetting) : Tokens :=
  .word setting.keyword ++ .opt setting.symbol ++ .text (setting.value.render config)

def Expr.renderGroup (config : Config) (items : List Expr) : String :=
  parenthesized (renderList config items)

def renderIndexOptions (config : Config) (options : Option (List ExprSetting)) : Tokens :=
  Tokens.empty.extend ((options.getD []).map fun option => (option.tokens config).join)

def ReferenceDefinition.render (config : Config) (reference : ReferenceDefinition) : String :=
  let columns :=
    if reference.columns.isEmpty then .empty
    else Tokens.text (Expr.renderGroup config reference.columns)
  let actions := reference.actions.map KeywordValue.words
  (Tokens.text "REFERENCES" ++ .text (reference.table.render config) ++ columns
    ++ .concat actions).join

def IndexDefinition.tokens (config : Config) (index : IndexDefinition) : Tokens :=
  .word index.keyword ++ .opt (index.name.map config.quote)
    ++ .opt (index.kind.map fun kind => kind.words.join)
    ++ .text (Expr.renderGroup config index.columns)
    ++ renderIndexOptions config index.options

namespace ConstraintDefinition

/-- The name of a constraint and the keyword before it. Without a keyword field a name is introduced by
`CONSTRAINT`. -/
def nameTokens (config : Config) (constraint : ConstraintDefinition) : Tokens :=
  let name := (nonempty? constraint.name).map config.quote
  let keyword :=
    match constraint.keyword with
    | some keyword => keyword? keyword
    | none => name.map fun _ => "CONSTRAINT"
  .opt keyword ++ .opt name

/-- Whether the constraint is a check. Only ASCII letters may be in either case. -/
def isCheck (constraint : ConstraintDefinition) : Bool :=
  (trim constraint.kind).toList.map Char.toLower == "check".toList

/-- The tokens of a constraint. A check consists of its conditions only. -/
def tokens (config : Config) (constraint : ConstraintDefinition) : Tokens :=
  let group := Tokens.text (Expr.renderGroup config constraint.exprs)
  if constraint.isCheck then constraint.nameTokens config ++ .text "CHECK" ++ group
  else
    constraint.nameTokens config ++ .word constraint.kind
      ++ .opt (constraint.index.map config.quote)
      ++ .opt (constraint.indexKind.map fun kind => kind.words.join) ++ group
      ++ .part constraint.reference (fun reference => .text (reference.render config))
      ++ renderIndexOptions config constraint.options

end ConstraintDefinition

/-- What stands after the last space of a text. It is the whole text if there is no space. -/
def afterLastSpace (text : String) : String :=
  .ofList (text.toList.reverse.takeWhile (· != ' ')).reverse

namespace GeneratedColumn

/-- The keywords before the expression. Without any they are `GENERATED ALWAYS`, and the last one is
`AS`. -/
def keywords (generated : GeneratedColumn) : Tokens :=
  let keyword := (generated.keyword.bind keyword?).getD "GENERATED ALWAYS"
  .text keyword ++ if afterLastSpace keyword = "AS" then .empty else .text "AS"

def tokens (config : Config) (generated : GeneratedColumn) : Tokens :=
  generated.keywords ++ .text (parenthesized (generated.expr.render config))
    ++ .optWord generated.storage

end GeneratedColumn

namespace ColumnDefinition

/-- The name of the first field of a column that is not `null` and has no rendering. The field that
tells the kind of the definition is no such field. -/
def unsupportedField? (column : ColumnDefinition) : Option String :=
  (column.extra.entries.find? fun entry => entry.1 != "resource" && !entry.2.isNull).map Prod.fst

/-- The tokens of the fields of a column that have a rendering. -/
def fieldTokens (config : Config) (column : ColumnDefinition) : Tokens :=
  .text (column.column.render config) ++ .text column.dataType.render
    ++ .optWord (column.nullable.map (·.value))
    ++ .part column.default (fun value => .word value.keyword ++ .text (value.value.render config))
    ++ .optWord column.autoIncrement ++ .optWord column.unique ++ .optWord column.primaryKey
    ++ .part column.collate (fun collate => .word collate.keyword ++ .text collate.value)
    ++ .part column.check (ConstraintDefinition.tokens config)
    ++ .part column.generated (GeneratedColumn.tokens config)
    ++ .part column.characterSet
      (fun set => .word set.keyword ++ .opt set.symbol ++ .text set.value)
    ++ .part column.columnFormat KeywordValue.words ++ .part column.storage KeywordValue.words
    ++ .part column.comment (ExprSetting.tokens config)
    ++ .part column.reference (fun reference => .text (reference.render config))

/-- The tokens of a column, unless one of its fields has no rendering. -/
def tokens (config : Config) (column : ColumnDefinition) : Except Error Tokens :=
  match column.unsupportedField? with
  | some field => .error (.unsupported "CREATE TABLE" "column field" field)
  | none => .ok (column.fieldTokens config)

end ColumnDefinition

namespace Definition

/-- The tokens of a definition, unless it has no rendering. -/
def tokens (config : Config) : Definition → Except Error Tokens
  | column value => value.tokens config
  | index value => .ok (value.tokens config)
  | constraint value => .ok (value.tokens config)
  | unsupported resource => .error (.unsupported "CREATE TABLE" "resource" resource)

def optTokens (config : Config) : Option Definition → Except Error Tokens
  | none => .ok .empty
  | some definition => definition.tokens config

end Definition

end SqlDdl
