import Mathlib.Data.List.Induction
import SqlDdl.Proofs.EncodedStatement
import SqlDdl.Proofs.TokenCalls
import SqlDdl.Statement.Render

/-! What any sequence of calls makes of a plain table or column. Calls of different kinds do not interfere, and of those
of one kind the last one counts. A column that is made this way has the tokens of one that is decoded from an object of
the same values. -/

namespace SqlDdl

section Last

variable {α β : Type}

/-- The value of the last item that has one. -/
def last? (value? : α → Option β) (items : List α) : Option β :=
  (items.filterMap value?).getLast?

theorem last?_concat (value? : α → Option β) (items : List α) (item : α) :
    last? value? (items ++ [item]) = (value? item).or (last? value? items) := by
  rw [last?, last?, List.filterMap_append]
  cases found : value? item with
  | none => rw [List.filterMap_cons_none found, List.filterMap_nil, List.append_nil, Option.none_or]
  | some value => rw [List.filterMap_cons_some found, List.filterMap_nil, List.getLast?_concat, Option.some_or]

theorem exists_of_last? {value? : α → Option β} {items : List α} {value : β} (found : value ∈ last? value? items) :
    ∃ item ∈ items, value? item = some value :=
  List.mem_filterMap.mp (List.mem_of_getLast? found)

end Last

/-- A flag is written where it is set. -/
theorem Tokens.toList_flag {canonical : String} (token : IsToken canonical) (isSet : Bool) :
    (marker canonical (if isSet then some (.flag true) else none)).toList = if isSet then [canonical] else [] := by
  cases isSet with
  | false => rfl
  | true => exact toList_text token

theorem Tables.render_single (config : Config) (table : TableRef) :
    (many [table]).render config = table.render config :=
  String.append_empty

namespace TableStatement

/-- A call that says something about a table. -/
inductive Call where
  | orExisting
  | asTemporary
  | withDefinitions (definitions : List Definition)
  | likeTable (source : TableRef)

namespace Call

def isOrExisting : Call → Bool
  | orExisting => true
  | _ => false

def isAsTemporary : Call → Bool
  | asTemporary => true
  | _ => false

def definitions? : Call → Option (List Definition)
  | withDefinitions definitions => some definitions
  | _ => none

def source? : Call → Option TableRef
  | likeTable source => some source
  | _ => none

end Call

/-- The statement after one more call. -/
def after (statement : TableStatement) : Call → TableStatement
  | .orExisting => statement.orExisting
  | .asTemporary => statement.asTemporary
  | .withDefinitions definitions => statement.withDefinitions definitions
  | .likeTable source => statement.likeTable source

/-- The statement after some calls, the first of which finds a plain table. -/
def ofCalls (table : TableRef) (calls : List Call) : TableStatement :=
  calls.foldl after (plain table)

/-- At most one call of each kind: the last one, where it matters which one it is. -/
def normalCalls (calls : List Call) : List Call :=
  (if calls.any Call.isOrExisting then [.orExisting] else []) ++
    (if calls.any Call.isAsTemporary then [.asTemporary] else []) ++
    (last? Call.definitions? calls).toList.map .withDefinitions ++ (last? Call.source? calls).toList.map .likeTable

/-- What a table is after some calls. -/
theorem ofCalls_eq (table : TableRef) (calls : List Call) :
    ofCalls table calls = { plain table with
      temporary := if calls.any Call.isAsTemporary then some (.flag true) else none
      ifNotExists := if calls.any Call.isOrExisting then some (.flag true) else none
      like := (last? Call.source? calls).map fun source => ⟨"like", .many [source]⟩
      definitions := last? Call.definitions? calls } := by
  -- From the end of the list: what the last call says replaces what the calls before it say.
  induction calls using List.reverseRecOn with
  | nil => rfl
  | append_singleton calls call ih =>
    have step : ofCalls table (calls ++ [call]) = (ofCalls table calls).after call := by
      rw [ofCalls, List.foldl_append]
      rfl
    rw [step, ih]
    cases call <;>
      simp [after, orExisting, asTemporary, withDefinitions, likeTable, last?_concat, Call.isAsTemporary,
        Call.isOrExisting, Call.source?, Call.definitions?]

theorem normalCalls_facts (calls : List Call) :
    (normalCalls calls).any Call.isOrExisting = calls.any Call.isOrExisting ∧
    (normalCalls calls).any Call.isAsTemporary = calls.any Call.isAsTemporary ∧
    last? Call.definitions? (normalCalls calls) = last? Call.definitions? calls ∧
    last? Call.source? (normalCalls calls) = last? Call.source? calls := by
  rw [normalCalls]
  cases calls.any Call.isOrExisting <;> cases calls.any Call.isAsTemporary <;>
    cases last? Call.definitions? calls <;> cases last? Call.source? calls <;> exact ⟨rfl, rfl, rfl, rfl⟩

theorem ofCalls_normalCalls (table : TableRef) (calls : List Call) :
    ofCalls table (normalCalls calls) = ofCalls table calls := by
  obtain ⟨existing, temporary, definitions, source⟩ := normalCalls_facts calls
  rw [ofCalls_eq, ofCalls_eq, existing, temporary, definitions, source]

/-- What is written after the name of a table: what it is like, or else its body. -/
def restAfter (config : Config) (source : Option TableRef) (definitions : Option (List Definition)) :
    Except Error (List String) :=
  match source, definitions with
  | some source, _ => .ok ("LIKE" :: Tokens.shown [source.render config])
  | none, some definitions => (renderBody config definitions).map fun body => [body]
  | none, none => .ok []

/-- The tokens of a table after some calls, up to its name. -/
def headList (config : Config) (table : TableRef) (calls : List Call) : List String :=
  ["CREATE"] ++ (if calls.any Call.isAsTemporary then ["TEMPORARY"] else []) ++ ["TABLE"] ++
    (if calls.any Call.isOrExisting then ["IF NOT EXISTS"] else []) ++ Tokens.shown [table.render config]

theorem toList_headTokens (config : Config) (table : TableRef) (calls : List Call) :
    ((ofCalls table calls).headTokens config).toList = headList config table calls := by
  have temporary : IsToken "TEMPORARY" := ⟨by decide, by decide⟩
  have existing : IsToken "IF NOT EXISTS" := ⟨by decide, by decide⟩
  have create : (Tokens.word "create").toList = ["CREATE"] := by decide +kernel
  have keyword : (Tokens.word "table").toList = ["TABLE"] := by decide +kernel
  rw [ofCalls_eq, headTokens, headList]
  simp only [plain, Tokens.toList_append, Tokens.toList_flag temporary, Tokens.toList_flag existing, create, keyword,
    Tokens.toList_text_eq_shown, Tables.render_single]

theorem isToken_renderBody {config : Config} {definitions : List Definition} {body : String}
    (written : renderBody config definitions = .ok body) : IsToken body := by
  obtain ⟨rendered, -, same⟩ := bind_eq_ok.mp written
  cases same
  exact .parenthesized _

/-- The tokens of a table after some calls. -/
theorem tokens_ofCalls (config : Config) (table : TableRef) (calls : List Call) :
    ((ofCalls table calls).tokens config).map Tokens.toList =
      (restAfter config (last? Call.source? calls) (last? Call.definitions? calls)).map
        (headList config table calls ++ ·) := by
  have head := toList_headTokens config table calls
  have tail : ((ofCalls table calls).tailTokens config).toList = [] := by
    rw [ofCalls_eq]
    rfl
  have like : (ofCalls table calls).like = (last? Call.source? calls).map fun source => ⟨"like", .many [source]⟩ := by
    rw [ofCalls_eq]
  have definitions : (ofCalls table calls).definitions = last? Call.definitions? calls := by
    rw [ofCalls_eq]
  rw [tokens, like, bodyTokens, definitions, ← head]
  cases last? Call.source? calls with
  | some source =>
    have keyword : (Tokens.word "like").toList = ["LIKE"] := by decide +kernel
    rw [Option.map_some, restAfter]
    refine congrArg Except.ok ?_
    simp only [Tokens.toList_append, keyword, Tables.render_single, Tokens.toList_text_eq_shown, List.append_assoc]
    rfl
  | none =>
    rw [Option.map_none]
    cases last? Call.definitions? calls with
    | none =>
      refine congrArg Except.ok ?_
      rw [Tokens.toList_append, tail, List.append_nil, Tokens.toList_append]
      rfl
    | some definitions =>
      rw [restAfter]
      cases written : renderBody config definitions with
      | error =>
        simp only [written]
        rfl
      | ok body =>
        simp only [written]
        refine congrArg Except.ok ?_
        rw [Tokens.toList_append, tail, List.append_nil, Tokens.toList_append,
          Tokens.toList_text (isToken_renderBody written)]

end TableStatement

namespace ColumnDefinition

/-- A call that says something about a column. A length has 64 bits. -/
inductive Call where
  | withLength (length : UInt64)
  | notNull
  | withDefault (value : Expr)
  | asPrimaryKey

namespace Call

def length? : Call → Option Nat
  | withLength length => some length.toNat
  | _ => none

def isNotNull : Call → Bool
  | notNull => true
  | _ => false

def default? : Call → Option Expr
  | withDefault value => some value
  | _ => none

def isAsPrimaryKey : Call → Bool
  | asPrimaryKey => true
  | _ => false

end Call

/-- The column after one more call. -/
def after (column : ColumnDefinition) : Call → ColumnDefinition
  | .withLength length => column.withLength length.toNat
  | .notNull => column.notNull
  | .withDefault value => column.withDefault value
  | .asPrimaryKey => column.asPrimaryKey

/-- The column after some calls, the first of which finds a name and a type. -/
def ofCalls (name dataType : String) (calls : List Call) : ColumnDefinition :=
  calls.foldl after (named name dataType)

/-- What a column is after some calls. -/
theorem ofCalls_eq (name dataType : String) (calls : List Call) :
    ofCalls name dataType calls = { named name dataType with
      dataType := ⟨dataType, last? Call.length? calls, none, none⟩
      nullable := if calls.any Call.isNotNull then some ⟨"not null", "not null"⟩ else none
      default := (last? Call.default? calls).map fun value => ⟨"default", value⟩
      primaryKey := if calls.any Call.isAsPrimaryKey then some "primary key" else none } := by
  induction calls using List.reverseRecOn with
  | nil => rfl
  | append_singleton calls call ih =>
    have step : ofCalls name dataType (calls ++ [call]) = (ofCalls name dataType calls).after call := by
      rw [ofCalls, List.foldl_append]
      rfl
    rw [step, ih]
    cases call <;>
      simp [after, withLength, notNull, withDefault, asPrimaryKey, last?_concat, Call.length?, Call.isNotNull,
        Call.default?, Call.isAsPrimaryKey]

/-- The type of a column with its length. -/
def sizedType (dataType : String) (length : Option Nat) : String :=
  upper (trim dataType) ++ length.elim "" fun length => parenthesized (toString length)

/-- The tokens of a column after some calls. -/
def tokenList (config : Config) (name dataType : String) (calls : List Call) : List String :=
  Tokens.shown [(ColumnRef.named name).render config] ++
    Tokens.shown [sizedType dataType (last? Call.length? calls)] ++
    (if calls.any Call.isNotNull then ["NOT NULL"] else []) ++
    (last? Call.default? calls).elim [] (fun value => "DEFAULT" :: Tokens.shown [value.render config]) ++
    if calls.any Call.isAsPrimaryKey then ["PRIMARY KEY"] else []

/-- The fields that some calls give a column, as they stand in an object. -/
def membersOfCalls (name dataType : String) (calls : List Call) : List (String × Option Json) :=
  [("column", some (.ofMembers [("column", some (.string name))])),
    ("definition", some (.ofMembers [("dataType", some (.string dataType)),
      ("length", (last? Call.length? calls).map .ofNat)])),
    ("nullable", if calls.any Call.isNotNull then
      some (.ofMembers [("type", some (.string "not null")), ("value", some (.string "not null"))]) else none),
    ("default_val", (last? Call.default? calls).map fun value =>
      .ofMembers [("type", some (.string "default")), ("value", some value.toJson)]),
    ("primary_key", if calls.any Call.isAsPrimaryKey then some (.string "primary key") else none)]

/-- The tokens of a type are one text, or none at all where it is blank. -/
theorem shown_render_dataType (dataType : String) (length : Option Nat) :
    Tokens.shown [(DataType.mk dataType length none none).render] = Tokens.shown [sizedType dataType length] := by
  have written : (DataType.mk dataType length none none).render =
      (Tokens.text (sizedType dataType length) ++ .concat []).join := by
    cases length <;> rfl
  have nothing : (Tokens.concat []).toList = [] := rfl
  rw [written, Tokens.join_eq, Tokens.toList_append, nothing, List.append_nil, Tokens.toList_text_eq_shown,
    Tokens.shown_intercalate]

theorem toList_fieldTokens_ofCalls (config : Config) (name dataType : String) (calls : List Call) :
    ((ofCalls name dataType calls).fieldTokens config).toList = tokenList config name dataType calls := by
  have notNull : ∀ isSet : Bool, (Tokens.optWord ((if isSet then some (KeywordValue.mk "not null" "not null")
      else none).map (·.value))).toList = if isSet then ["NOT NULL"] else [] := by
    decide +kernel
  have primaryKey : ∀ isSet : Bool, (Tokens.optWord (if isSet then some "primary key" else none)).toList =
      if isSet then ["PRIMARY KEY"] else [] := by
    decide +kernel
  have default : ∀ value : Option Expr, (Tokens.part (value.map (KeywordExpr.mk "default"))
      fun value => .word value.keyword ++ .text (value.value.render config)).toList =
        value.elim [] fun value => "DEFAULT" :: Tokens.shown [value.render config] := by
    intro value
    cases value with
    | none => rfl
    | some value =>
      have keyword : (Tokens.word "default").toList = ["DEFAULT"] := by decide +kernel
      refine (Tokens.toList_append _ _).trans ?_
      rw [keyword, Tokens.toList_text_eq_shown]
      rfl
  have noWord : (Tokens.optWord none).toList = [] := rfl
  have noPart : ∀ {α : Type} (tokens : α → Tokens), (Tokens.part none tokens).toList = [] := fun _ => rfl
  rw [ofCalls_eq, fieldTokens, tokenList]
  simp only [named, Tokens.toList_append, Tokens.toList_text_eq_shown, shown_render_dataType, notNull, primaryKey,
    default, noWord, noPart, List.append_nil]

/-- The fields that a decoded column keeps beside the declared ones. -/
def kindFields : Json.Fields :=
  .ofEntries [("resource", .string "column")]

theorem isEncodable_ofCalls (name dataType : String) (calls : List Call) :
    IsEncodable { ofCalls name dataType calls with extra := kindFields } := by
  have apart : ∀ field ∈ Node.column.fields, kindFields.entries.lookup field.name = none := by decide +kernel
  refine ⟨?_, rfl, apart⟩
  rw [ofCalls_eq]
  refine ⟨fun length found => ?_, nofun⟩
  obtain ⟨call, -, own⟩ := exists_of_last? found
  cases call with
  | withLength value =>
    cases own
    exact Nat.le_of_lt_succ value.toNat_lt
  | notNull | withDefault | asPrimaryKey => cases own

theorem present_members_ofCalls (name dataType : String) (calls : List Call) :
    Json.present (ofCalls name dataType calls).members = Json.present (membersOfCalls name dataType calls) := by
  rw [ofCalls_eq, membersOfCalls]
  -- These four tell which fields are present, and without the absent ones both lists are the same.
  cases last? Call.length? calls <;> cases calls.any Call.isNotNull <;> cases last? Call.default? calls <;>
    cases calls.any Call.isAsPrimaryKey <;> rfl

/-- The object of some values is that of the column that some calls make of them, beside its kind. -/
theorem toJson_ofCalls (name dataType : String) (calls : List Call) :
    toJson { ofCalls name dataType calls with extra := kindFields } =
      .tagged "resource" "column" (membersOfCalls name dataType calls) := by
  have encodable := isEncodable_ofCalls name dataType calls
  have distinct := (allMembers_nodup encodable).sublist (Json.present_sublist _)
  rw [present_allMembers] at distinct
  refine congrArg Json.object (Json.sortEntries_congr distinct ?_).symm
  refine (List.perm_append_singleton _ _).symm.trans (.of_eq ?_)
  exact congrArg (· ++ [("resource", Json.string "column")]) (present_members_ofCalls name dataType calls).symm

/-- A column that is made by calls and one that is decoded from an object of the same values have the same tokens. -/
theorem tokens_ofCalls (config : Config) (name dataType : String) (calls : List Call) :
    ∃ tokens, (ofCalls name dataType calls).tokens config = .ok tokens ∧
      tokens.toList = tokenList config name dataType calls ∧
      ∃ column, Definition.decode (.tagged "resource" "column" (membersOfCalls name dataType calls)) =
        .ok (.column column) ∧ column.tokens config = .ok tokens := by
  have built : (ofCalls name dataType calls).unsupportedField? = none := by
    rw [ofCalls_eq]
    rfl
  have kept : unsupportedField? { ofCalls name dataType calls with extra := kindFields } = none := rfl
  have encodable : (Definition.column { ofCalls name dataType calls with extra := kindFields }).IsEncodable :=
    isEncodable_ofCalls name dataType calls
  refine ⟨(ofCalls name dataType calls).fieldTokens config, by rw [tokens, built],
    toList_fieldTokens_ofCalls config name dataType calls, { ofCalls name dataType calls with extra := kindFields },
    ?_, by rw [tokens, kept]; rfl⟩
  rw [← toJson_ofCalls]
  exact (Definition.decode_toJson encodable).2

end ColumnDefinition

/-- A table after any calls is the one after at most one call of each kind, and so is its SQL. A column after any calls
has the tokens of its name and its type and of what the last call of each kind says, and so has the column that is
decoded from an object of these values. -/
theorem ofCalls_rendered (config : Config) :
    (∀ (table : TableRef) (calls : List TableStatement.Call),
      (TableStatement.ofCalls table calls).render config =
        (TableStatement.ofCalls table (TableStatement.normalCalls calls)).render config ∧
      (TableStatement.ofCalls table calls).render config =
        (TableStatement.restAfter config (last? TableStatement.Call.source? calls)
          (last? TableStatement.Call.definitions? calls)).map fun rest =>
            " ".intercalate (TableStatement.headList config table calls ++ rest)) ∧
    ∀ (name dataType : String) (calls : List ColumnDefinition.Call), ∃ tokens,
      (ColumnDefinition.ofCalls name dataType calls).tokens config = .ok tokens ∧
      tokens.toList = ColumnDefinition.tokenList config name dataType calls ∧
      ∃ column, Definition.decode (.tagged "resource" "column"
          (ColumnDefinition.membersOfCalls name dataType calls)) = .ok (.column column) ∧
        column.tokens config = .ok tokens := by
  refine ⟨fun table calls => ⟨?_, ?_⟩, ColumnDefinition.tokens_ofCalls config⟩
  · rw [TableStatement.ofCalls_normalCalls]
  · have joined : ∀ outcome : Except Error Tokens,
        outcome.map Tokens.join = (outcome.map Tokens.toList).map (" ".intercalate ·) := fun outcome => by
      cases outcome <;> rfl
    rw [TableStatement.render, joined, TableStatement.tokens_ofCalls]
    cases TableStatement.restAfter config _ _ <;> rfl

/-- The call that says what the table is like hides the definitions, wherever it stands. -/
example : ((TableStatement.ofCalls (.named "t") [.likeTable (.named "a"), .orExisting,
    .withDefinitions [.column (ColumnDefinition.ofCalls "id" "int" [.notNull])], .likeTable (.named "b")]).render
      {}).toOption = some "CREATE TABLE IF NOT EXISTS t LIKE b" := by
  decide +kernel

end SqlDdl
