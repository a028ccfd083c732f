import SqlDdl.Proofs.KeywordForm
import SqlDdl.Proofs.RewrittenStatement

/-! The SQL of a statement depends on its keywords, operators and type names only through their normal
forms. -/

namespace SqlDdl

section Check

/-- The letters of the keyword of a check, and whether some code points are all among them. -/
def areCheckLetters (points : List Nat) : Bool :=
  points.all ([67, 72, 69, 75].contains ·)

theorem upperEntries_foreign : (upperEntries.all fun entry => !areCheckLetters entry.2) = true := by
  decide +kernel

theorem lower_check_ascii : ∀ n : Fin 128, (Char.ofNat n).toLower ∈ "check".toList →
    isBlank (Char.ofNat n) = false ∧ upperChar (Char.ofNat n) = [(Char.ofNat n).toLower.toUpper] := by
  decide

theorem upper_check_ascii : ∀ n : Fin 128, (∀ d ∈ upperChar (Char.ofNat n), d ∈ "CHECK".toList) →
    upperChar (Char.ofNat n) = [(Char.ofNat n).toUpper] ∧
      (Char.ofNat n).toLower = (Char.ofNat n).toUpper.toLower := by
  decide

theorem upperChar_of_toLower {c : Char} (letter : c.toLower ∈ "check".toList) :
    isBlank c = false ∧ upperChar c = [c.toLower.toUpper] := by
  by_cases ascii : c.toNat < 128
  · exact forall_ascii lower_check_ascii ascii letter
  · rw [toLower_of_not_ascii ascii] at letter
    have small : ∀ d ∈ "check".toList, d.toNat < 128 := by decide
    exact absurd (small c letter) ascii

theorem toLower_of_upperChar {c : Char} (letters : ∀ d ∈ upperChar c, d ∈ "CHECK".toList) :
    upperChar c = [c.toUpper] ∧ c.toLower = c.toUpper.toLower := by
  by_cases ascii : c.toNat < 128
  · exact forall_ascii upper_check_ascii ascii letters
  -- No character outside ASCII has an upper case that is made of these letters alone.
  · have outside : upperChar c = mapCase upperRuns upperExpansions c := by rw [upperChar, if_neg ascii]
    rw [outside] at letters
    rcases mapCase_cases c with same | ⟨images, entry, _, capitals, same⟩
    · rw [same] at letters
      have small : ∀ d ∈ "CHECK".toList, d.toNat < 128 := by decide
      exact absurd (small c (letters c (List.mem_singleton_self c))) ascii
    · rw [same] at letters
      have all : areCheckLetters images = true := by
        refine List.all_eq_true.mpr fun n inside => ?_
        have letter := letters _ (List.mem_map_of_mem inside)
        have point : ∀ d ∈ "CHECK".toList, [67, 72, 69, 75].contains d.toNat = true := by decide
        rw [← toNat_of_isCapital (capitals n inside)]
        exact point _ letter
      have foreign := List.all_eq_true.mp upperEntries_foreign _ entry
      rw [all] at foreign
      cases foreign

/-- The kind of a constraint is that of a check, in any letter case of ASCII, exactly if its normal form
is `CHECK`. -/
theorem isCheckKind_iff {kind : String} : isCheckKind kind = true ↔ keyword? kind = some "CHECK" := by
  rw [isCheckKind, beq_iff_eq, trim, String.toList_ofList]
  constructor
  · intro lower
    have letters : ∀ c ∈ trimChars kind.toList, c.toLower ∈ "check".toList := fun c member =>
      lower ▸ List.mem_map_of_mem member
    have isWord : IsWord (trimChars kind.toList) := by
      refine ⟨fun none => ?_, fun c member => (upperChar_of_toLower (letters c member)).1⟩
      rw [none] at lower
      cases lower
    have capitals : upperChars (trimChars kind.toList) = "CHECK".toList := by
      calc upperChars (trimChars kind.toList)
          = (trimChars kind.toList).flatMap fun c => [c.toLower.toUpper] :=
            List.flatMap_congr fun c member => (upperChar_of_toLower (letters c member)).2
        _ = ((trimChars kind.toList).map Char.toLower).map Char.toUpper := by
            rw [List.map_map, List.map_eq_flatMap]
            rfl
        _ = "CHECK".toList := by rw [lower]; rfl
    have single := splitWords_eq_singleton_iff.mpr ⟨isWord, rfl⟩
    refine keyword?_eq_some_iff.mpr ⟨by simp [single], ?_⟩
    rw [single, List.map_singleton, List.intercalate_singleton, capitals]
  · intro normal
    have own : splitWords "CHECK".toList = ["CHECK".toList] := rfl
    have same := splitWords_keyword normal
    rw [own] at same
    obtain ⟨word, single, capitals⟩ := List.map_eq_singleton_iff.mp same.symm
    rw [(splitWords_eq_singleton_iff.mp single).2]
    have letters : ∀ c ∈ word, ∀ d ∈ upperChar c, d ∈ "CHECK".toList := fun c member d image =>
      capitals ▸ List.mem_flatMap.mpr ⟨c, member, image⟩
    have single : upperChars word = word.map Char.toUpper := by
      rw [List.map_eq_flatMap]
      exact List.flatMap_congr fun c member => (toLower_of_upperChar (letters c member)).1
    calc word.map Char.toLower
        = (word.map Char.toUpper).map Char.toLower := by
          rw [List.map_map]
          exact List.map_congr_left fun c member => (toLower_of_upperChar (letters c member)).2
      _ = "check".toList := by rw [← single, capitals]; rfl

theorem isCheckKind_congr {first second : String} (same : keyword? first = keyword? second) :
    isCheckKind first = isCheckKind second := by
  rw [Bool.eq_iff_iff, isCheckKind_iff, isCheckKind_iff, same]

end Check

theorem Expr.unarySign_upper (operator : String) : unarySign (upper operator) = unarySign operator := by
  have sign : ∀ {text : String} {c : Char}, text.toList = [c] → isSign c = true → upper text = text →
      (upper operator = text ↔ operator = text) := fun single isSign kept =>
    ⟨eq_of_upper_eq_sign single isSign, fun same => same ▸ kept⟩
  have minus : upper operator = "-" ↔ operator = "-" := sign rfl rfl rfl
  have plus : upper operator = "+" ↔ operator = "+" := sign rfl rfl rfl
  have tilde : upper operator = "~" ↔ operator = "~" := sign rfl rfl rfl
  have bang : upper operator = "!" ↔ operator = "!" := sign rfl rfl rfl
  simp only [unarySign, minus, plus, tilde, bang, upper_upper]
  split
  · rename_i glued
    rcases glued with rfl | rfl | rfl <;> rfl
  · rfl

namespace Rewriting

/-- Replaces every keyword by its normal form, or by the empty text if it has none, every marker by the
text of the keyword that it stands for, and every operator, aggregate and type by its upper case. -/
def normal : Rewriting where
  keyword text := (keyword? text).getD ""
  marker canonical marker := .text ((marker.keyword? canonical).getD "")
  operator := upper
  aggregate := upper
  typeName name := upper (trim name)

theorem preserves_normal (config : Config) : normal.Preserves config config where
  column _ := rfl
  optName _ := rfl
  indexName name := rfl
  name _ := rfl
  string _ := rfl
  keyword := keyword?_getD
  check kind := isCheckKind_congr (keyword?_getD kind)
  marker canonical isNormal marker := by
    cases marker with
    | flag isSet =>
      cases isSet with
      | true => exact isNormal
      | false => rfl
    | text text => exact keyword?_getD text
  operator := upper_upper
  sign := Expr.unarySign_upper
  aggregate := upper_upper
  typeName := upper_trim_upper

end Rewriting

/-- A statement is written as its normal form is, and so is every other statement with the same normal
form. -/
theorem Statement.render_normal (statement : Statement) (config : Config) :
    (statement.map .normal).render config = statement.render config ∧
      ∀ other : Statement, other.map .normal = statement.map .normal →
        other.render config = statement.render config := by
  have normal : ∀ any : Statement, (any.map .normal).render config = any.render config := fun any =>
    any.render_map (Rewriting.preserves_normal config)
  refine ⟨normal statement, fun other same => ?_⟩
  rw [← normal other, same, normal statement]

/-- A temporary table with a check, whose keywords are spelled in a given way. -/
def checkedTable (create check between ofType : String) (temporary : Marker) : Statement :=
  .table { TableStatement.plain (.named "t") with
    create := create
    temporary := some temporary
    definitions := some [
      .column (.named "a" ofType),
      .constraint ⟨some "c", none, check, none, none,
        [.binary between (.column (.named "a")) (.list [.null, .unary "!" .star true]) false], none, none⟩] }

theorem checkedTable_render :
    (checkedTable " create\tor  replace" "Check " "between" " tıny" (.flag true)).map .normal =
        (checkedTable "Create Or Replace " "cHECK" "Between" "TINY" (.text "temporary ")).map .normal ∧
      (checkedTable " create\tor  replace" "Check " "between" " tıny" (.flag true)).render ⟨.ansi, .never⟩ =
        (checkedTable "Create Or Replace " "cHECK" "Between" "TINY" (.text "temporary ")).render
          ⟨.ansi, .never⟩ := by
  have create : Rewriting.normal.keyword " create\tor  replace" =
      Rewriting.normal.keyword "Create Or Replace " := by decide +kernel
  have check : Rewriting.normal.keyword "Check " = Rewriting.normal.keyword "cHECK" := by decide +kernel
  have between : Rewriting.normal.operator "between" = Rewriting.normal.operator "Between" := by decide +kernel
  have ofType : Rewriting.normal.typeName " tıny" = Rewriting.normal.typeName "TINY" := by decide +kernel
  have temporary : Rewriting.normal.marker "TEMPORARY" (.flag true) =
      Rewriting.normal.marker "TEMPORARY" (.text "temporary ") := by decide +kernel
  have same : (checkedTable " create\tor  replace" "Check " "between" " tıny" (.flag true)).map .normal =
      (checkedTable "Create Or Replace " "cHECK" "Between" "TINY" (.text "temporary ")).map .normal := by
    simp only [checkedTable, TableStatement.plain, Statement.map, TableStatement.map, Option.map_some,
      List.map_cons, List.map_nil, Definition.map, ColumnDefinition.named, ColumnDefinition.map,
      ConstraintDefinition.map, DataType.map, Expr.map, create, check, between, ofType, temporary]
  exact ⟨same, ((checkedTable "Create Or Replace " "cHECK" "Between" "TINY"
    (.text "temporary ")).render_normal ⟨.ansi, .never⟩).2 _ same⟩

end SqlDdl
