import SqlDdl.Expr.Render

/-! How facts about expressions are proved: by induction over the constructors, and by the forms that
the SQL of an expression has. -/

namespace SqlDdl

/-- Induction over expressions. A range operator writes the members of its right operand one by one, and
so the hypothesis for them is at hand beside the one for the operand. -/
@[elab_as_elim]
theorem Expr.induct {motive : Expr → Prop}
    (column : ∀ ref, motive (.column ref))
    (number : ∀ value, motive (.number value))
    (string : ∀ value, motive (.string value))
    (quotedString : ∀ value, motive (.quotedString value))
    (bool : ∀ value, motive (.bool value))
    (null : motive .null)
    (star : motive .star)
    (param : ∀ name, motive (.param name))
    (binary : ∀ operator left right parens, motive left → motive right →
      (∀ items, right = .list items → ∀ item ∈ items, motive item) →
      motive (.binary operator left right parens))
    (unary : ∀ operator operand parens, motive operand → motive (.unary operator operand parens))
    (callBare : ∀ name, motive (.call name none))
    (call : ∀ name args, (∀ arg ∈ args, motive arg) → motive (.call name (some args)))
    (aggregate : ∀ name argument distinct, motive argument →
      motive (.aggregate name argument distinct))
    (list : ∀ items, (∀ item ∈ items, motive item) → motive (.list items)) :
    ∀ expr, motive expr := by
  suffices both : ∀ expr : Expr, motive expr ∧
      ∀ items, expr = .list items → ∀ item ∈ items, motive item from fun expr => (both expr).1
  -- Beside expressions the recursor goes through optional lists and lists of them.
  refine @Expr.rec
    (fun expr => motive expr ∧ ∀ items, expr = .list items → ∀ item ∈ items, motive item)
    (fun args => ∀ items, args = some items → ∀ item ∈ items, motive item)
    (fun items => ∀ item ∈ items, motive item)
    ?column ?number ?string ?quotedString ?bool ?null ?star ?param ?binary ?unary ?call ?aggregate ?list
    ?noArgs ?args ?nil ?cons
  case column => exact fun ref => ⟨column ref, fun _ same => nomatch same⟩
  case number => exact fun value => ⟨number value, fun _ same => nomatch same⟩
  case string => exact fun value => ⟨string value, fun _ same => nomatch same⟩
  case quotedString => exact fun value => ⟨quotedString value, fun _ same => nomatch same⟩
  case bool => exact fun value => ⟨bool value, fun _ same => nomatch same⟩
  case null => exact ⟨null, fun _ same => nomatch same⟩
  case star => exact ⟨star, fun _ same => nomatch same⟩
  case param => exact fun name => ⟨param name, fun _ same => nomatch same⟩
  case binary =>
    intro operator left right parens ihLeft ihRight
    exact ⟨binary operator left right parens ihLeft.1 ihRight.1 ihRight.2, fun _ same => nomatch same⟩
  case unary =>
    intro operator operand parens ih
    exact ⟨unary operator operand parens ih.1, fun _ same => nomatch same⟩
  case call =>
    intro name args ih
    cases args with
    | none => exact ⟨callBare name, fun _ same => nomatch same⟩
    | some args => exact ⟨call name args (ih args rfl), fun _ same => nomatch same⟩
  case aggregate =>
    intro name argument distinct ih
    exact ⟨aggregate name argument distinct ih.1, fun _ same => nomatch same⟩
  case list =>
    intro items ih
    refine ⟨list items ih, fun _ same => ?_⟩
    cases same
    exact ih
  case noArgs => exact fun _ same => nomatch same
  case args =>
    intro items ih _ same
    cases same
    exact ih
  case nil => exact fun _ member => nomatch member
  case cons =>
    intro head tail ihHead ihTail item member
    rcases List.mem_cons.mp member with rfl | later
    · exact ihHead.1
    · exact ihTail item later

theorem Expr.renderItems_eq_map (config : Config) (items : List Expr) :
    renderItems config items = items.map (render config) := by
  induction items with
  | nil => simp only [renderItems, List.map_nil]
  | cons item items ih => simp only [renderItems, List.map_cons, ih]

/-- The two members of a list of two expressions. -/
def Expr.bounds? : Expr → Option (Expr × Expr)
  | list [low, high] => some (low, high)
  | _ => none

theorem Expr.eq_of_bounds? {right low high : Expr} (pair : right.bounds? = some (low, high)) :
    right = list [low, high] := by
  rw [bounds?.eq_def] at pair
  split at pair
  · cases pair
    rfl
  · cases pair

/-- What a binary operator is followed by: the two bounds of a range, or the right operand. -/
def Expr.renderOperand (config : Config) (operator : String) (right : Expr) : String :=
  match isBetween (upper operator), right.bounds? with
  | true, some (low, high) => low.render config ++ " AND " ++ high.render config
  | _, _ => right.render config

theorem Expr.render_binary (config : Config) (operator : String) (left right : Expr)
    (parens : Bool) :
    (binary operator left right parens).render config =
      parenthesizedIf parens
        (left.render config ++ " " ++ upper operator ++ " " ++
          right.renderOperand config operator) := by
  cases pair : right.bounds? with
  | none =>
    have operand : right.renderOperand config operator = right.render config := by
      rw [renderOperand, pair]
      cases isBetween (upper operator) <;> rfl
    rw [operand, render]
    rintro low high rfl
    cases pair
  | some bounds =>
    obtain ⟨low, high⟩ := bounds
    rw [renderOperand, pair, eq_of_bounds? pair, render]
    cases isBetween (upper operator) with
    | true => rfl
    | false => simp only [render, renderItems, Bool.false_eq_true, if_false]

end SqlDdl
