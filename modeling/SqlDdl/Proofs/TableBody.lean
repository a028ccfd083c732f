import SqlDdl.Proofs.BracketedStatement
import SqlDdl.Proofs.TokenLists

/-! The body of a table can be cut back into its definitions. -/

namespace SqlDdl

/-- Cuts pieces at every comma outside of parentheses, unless a parenthesis is closed that was not open. -/
def cuts? (depth : Nat) : List Piece → Option (List (List Piece))
  | [] => some [[]]
  | piece :: pieces =>
    if piece = .bare ',' ∧ depth = 0 then (cuts? 0 pieces).map ([] :: ·)
    else
      (nest true depth piece).bind fun next => (cuts? next pieces).map (List.modifyHead (piece :: ·))

/-- The pieces without one space before them. -/
def dropSpace : List Piece → List Piece
  | .bare ' ' :: pieces => pieces
  | pieces => pieces

/-- The text that consists of some pieces. -/
def pieceText (pieces : List Piece) : String :=
  String.ofList (pieces.flatMap Piece.chars)

/-- The parts of a text between the commas that are outside of quotes and parentheses. The space after a
comma is in none of them. -/
def Dialect.splitCommas? (dialect : Dialect) (text : String) : Option (List String) :=
  (dialect.pieces? text.toList).bind fun pieces =>
    (cuts? 0 pieces).map fun
      | [] => []
      | first :: later => pieceText first :: later.map fun pieces => pieceText (dropSpace pieces)

theorem nest_comma {depth next : Nat} {piece : Piece} (reached : nest false depth piece = some next) :
    ¬(piece = .bare ',' ∧ depth = 0) := by
  rintro ⟨rfl, rfl⟩
  cases reached

/-- Pieces without a comma outside of parentheses go to the first part as a whole. -/
theorem cuts?_append {depth final : Nat} {first : List Piece}
    (reached : level false depth first = some final) (second : List Piece) :
    cuts? depth (first ++ second) = (cuts? final second).map (List.modifyHead (first ++ ·)) := by
  induction first generalizing depth with
  | nil =>
    cases Option.some.inj reached
    have same : List.modifyHead (([] : List Piece) ++ ·) = id := funext fun cuts => by cases cuts <;> rfl
    rw [List.nil_append, same, Option.map_id_fun, id]
  | cons piece pieces ih =>
    obtain ⟨next, step, later⟩ := Option.bind_eq_some_iff.mp reached
    rw [List.cons_append, cuts?, if_neg (nest_comma step), nest_true step, Option.bind_some, ih later,
      Option.map_map]
    congr 1
    funext cuts
    cases cuts <;> rfl

theorem cuts?_comma (pieces : List Piece) :
    cuts? 0 (.bare ',' :: pieces) = (cuts? 0 pieces).map ([] :: ·) := by
  rw [cuts?, if_pos ⟨rfl, rfl⟩]

/-- Texts without a comma outside of parentheses, with a comma and a space between them, are cut into the
same texts. -/
theorem Dialect.splitCommas?_commaList {dialect : Dialect} {texts : List String} (present : texts ≠ [])
    (each : ∀ text ∈ texts, WellBracketed dialect false text) :
    dialect.splitCommas? (commaList texts) = some texts := by
  -- The parts after the first one begin with the space after the comma.
  suffices parts : ∃ (pieces first : List Piece) (later : List (List Piece)),
      dialect.pieces? (commaList texts).toList = some pieces ∧
      cuts? 0 pieces = some (first :: later.map (.bare ' ' :: ·)) ∧
      texts = pieceText first :: later.map pieceText by
    obtain ⟨pieces, first, later, read, cut, same⟩ := parts
    rw [splitCommas?, read, Option.bind_some, cut, Option.map_some, same]
    exact congrArg (fun rest => some (pieceText first :: rest)) List.map_map
  induction texts with
  | nil => exact absurd rfl present
  | cons text texts ih =>
    obtain ⟨balanced, rest⟩ := List.forall_mem_cons.mp each
    obtain ⟨front, read, reached⟩ := balanced.exists_pieces
    have own : pieceText front = text := by
      rw [pieceText, Dialect.pieces?_chars read, String.ofList_toList]
    cases texts with
    | nil =>
      have cut : cuts? 0 (front ++ []) = some [front ++ []] := cuts?_append reached []
      rw [List.append_nil] at cut
      refine ⟨front, front, [], ?_, cut, by rw [own]; rfl⟩
      rw [commaList, String.intercalate_singleton, read]
    | cons next texts =>
      obtain ⟨pieces, first, later, readRest, cut, same⟩ := ih (List.cons_ne_nil next texts) rest
      refine ⟨front ++ .bare ',' :: .bare ' ' :: pieces, front, first :: later, ?_, ?_, ?_⟩
      · have joined : (commaList (text :: next :: texts)).toList =
            text.toList ++ ',' :: ' ' :: (commaList (next :: texts)).toList := by
          rw [commaList, String.intercalate_cons_cons, String.toList_append, String.toList_append,
            List.append_assoc]
          rfl
        have noQuote : ∀ c ∈ [',', ' '], dialect.quoteAt? c = none := by cases dialect <;> decide
        rw [joined, Dialect.pieces?_append read rfl, Dialect.pieces?_bare (noQuote ',' (by decide)),
          Dialect.pieces?_bare (noQuote ' ' (by decide)), readRest]
        rfl
      · have space : level false 0 [.bare ' '] = some 0 := rfl
        rw [cuts?_append reached, cuts?_comma, ← List.singleton_append, cuts?_append space, cut]
        simp
      · rw [own, same]
        rfl

example : Dialect.ansi.splitCommas? "\"a, b\" T(1, 2), c" = some ["\"a, b\" T(1, 2)", "c"] := by
  decide +kernel

namespace TableStatement

variable {config : Config} {definitions : List Definition}

theorem renderBody_eq_ok (sound : ∀ definition ∈ definitions, ∃ tokens, definition.tokens config = .ok tokens) :
    ∃ texts, renderBody config definitions = .ok (parenthesized (commaList texts)) ∧
      List.Forall₂ (fun definition text =>
        ∃ tokens, definition.tokens config = .ok tokens ∧ tokens.join = text) definitions texts := by
  have each : ∀ definition ∈ definitions,
      ∃ text, (do return (← definition.tokens config).join : Except Error String) = .ok text := by
    intro definition inside
    obtain ⟨tokens, own⟩ := sound definition inside
    exact ⟨tokens.join, bind_eq_ok.mpr ⟨tokens, own, rfl⟩⟩
  obtain ⟨texts, ran⟩ := exists_mapM_eq_ok each
  refine ⟨texts, bind_eq_ok.mpr ⟨texts, ran, rfl⟩, (mapM_eq_ok ran).imp fun definition text found => ?_⟩
  obtain ⟨tokens, own, joined⟩ := bind_eq_ok.mp found
  exact ⟨tokens, own, Except.ok.inj joined⟩

/-- The SQL of a table whose definitions have a rendering has the body between its other tokens. -/
theorem render_body {statement : TableStatement} (alone : statement.like = none)
    (present : statement.definitions = some definitions) {inner : String}
    (rendered : renderBody config definitions = .ok (parenthesized inner)) :
    statement.render config = .ok (" ".intercalate
      ((statement.headTokens config).toList ++ parenthesized inner :: (statement.tailTokens config).toList)) := by
  have body : statement.bodyTokens config = .ok (.text (parenthesized inner)) := by
    rw [bodyTokens, present]
    exact map_eq_ok.mpr ⟨_, rendered, rfl⟩
  have all : statement.tokens config =
      .ok (statement.headTokens config ++ .text (parenthesized inner) ++ statement.tailTokens config) := by
    rw [tokens, alone]
    exact bind_eq_ok.mpr ⟨_, body, rfl⟩
  refine map_eq_ok.mpr ⟨_, all, ?_⟩
  rw [Tokens.join_eq, Tokens.toList_append, Tokens.toList_append, Tokens.toList_text (.parenthesized inner),
    List.append_assoc, List.singleton_append]

/-- If all definitions of a table have a rendering, then the SQL of the table is that of what is before its
body, the body and what is after it, and the body is cut at its commas into the SQL of each definition. The
texts of the definitions that are never quoted must have no brackets or commas, and no reference may be to
several tables. -/
theorem render_cuts (statement : TableStatement) (config : Config) (quotes : config.quoting ≠ .never)
    {definitions : List Definition} (alone : statement.like = none)
    (body : statement.definitions = some definitions) (present : definitions ≠ [])
    (clean : ∀ definition ∈ definitions, Avoids (',' :: brackets) definition.texts)
    (single : ∀ definition ∈ definitions, AreSingle definition.references)
    (sound : ∀ definition ∈ definitions, ∃ tokens, definition.tokens config = .ok tokens) :
    ∃ inner texts,
      statement.render config = .ok (" ".intercalate ((statement.headTokens config).toList ++
        parenthesized inner :: (statement.tailTokens config).toList)) ∧
      config.dialect.splitCommas? inner = some texts ∧
      List.Forall₂ (fun definition text =>
        ∃ tokens, definition.tokens config = .ok tokens ∧ tokens.join = text) definitions texts := by
  obtain ⟨texts, rendered, paired⟩ := renderBody_eq_ok sound
  refine ⟨commaList texts, texts, render_body alone body rendered, ?_, paired⟩
  apply Dialect.splitCommas?_commaList
  · rintro rfl
    exact present (List.forall₂_nil_right_iff.mp paired)
  · intro text member
    obtain ⟨definition, inside, tokens, own, rfl⟩ := exists_of_mem_forall₂ paired member
    have balanced : WellBracketed config.dialect (false || false) tokens.join :=
      (bracketLayout quotes false).definition definition (clean definition inside)
        (Or.inr (single definition inside)) own
    exact balanced

/-- Definitions with commas in their names and literals, in types, lists and keys. -/
def commaDefinitions : List Definition := [
  .column { ColumnDefinition.named "a, b" "decimal" with
    dataType := ⟨"decimal", some 10, some 2, none⟩
    default := some ⟨"default", .string "), ("⟩ },
  .constraint ⟨none, none, "check", none, none,
    [.binary "in" (.column (.named "c")) (.list [.string ",", .quotedString "("]) false], none, none⟩,
  .constraint ⟨some "k", none, "foreign key", none, none, [.column (.named "c"), .column (.named "d")],
    some ⟨.one (.named "s"), [.column (.named "e"), .column (.named "f")], []⟩, none⟩]

theorem commaDefinitions_cuts :
    (∀ definition ∈ commaDefinitions, Avoids (',' :: brackets) definition.texts) ∧
      (∀ definition ∈ commaDefinitions, AreSingle definition.references) ∧
      (∀ definition ∈ commaDefinitions, ∃ tokens, definition.tokens ⟨.ansi, .asNeeded⟩ = .ok tokens) ∧
      ∃ inner texts,
        ((plain (.named "t")).withDefinitions commaDefinitions).render ⟨.ansi, .asNeeded⟩ =
          .ok (" ".intercalate (["CREATE", "TABLE", "t"] ++ [parenthesized inner])) ∧
        Dialect.ansi.splitCommas? inner = some texts ∧
        List.Forall₂ (fun definition text =>
          ∃ tokens, definition.tokens ⟨.ansi, .asNeeded⟩ = .ok tokens ∧ tokens.join = text)
          commaDefinitions texts := by
  have clean : ∀ definition ∈ commaDefinitions, Avoids (',' :: brackets) definition.texts := by decide
  have single : ∀ definition ∈ commaDefinitions, AreSingle definition.references := by decide
  have sound : ∀ definition ∈ commaDefinitions,
      ∃ tokens, definition.tokens ⟨.ansi, .asNeeded⟩ = .ok tokens := by
    simp only [commaDefinitions, List.forall_mem_cons]
    exact ⟨⟨_, rfl⟩, ⟨_, rfl⟩, ⟨_, rfl⟩, fun _ none => nomatch none⟩
  exact ⟨clean, single, sound, ((plain (.named "t")).withDefinitions commaDefinitions).render_cuts
    ⟨.ansi, .asNeeded⟩ (by decide) rfl rfl (by decide) clean single sound⟩

end TableStatement

end SqlDdl
