import SqlDdl.Proofs.Pieces

/-! The two ways in which an identifier is written. -/

namespace SqlDdl

theorem isPlainPart_of_mem {cs : List Char} (plain : isPlain cs = true) :
    ∀ c ∈ cs, isPlainPart c = true := by
  intro c member
  cases cs with
  | nil => cases member
  | cons first cs =>
    simp only [isPlain, Bool.and_eq_true, List.all_eq_true] at plain
    rcases List.mem_cons.mp member with rfl | later
    · simp only [isPlainPart, plain.1, Bool.true_or]
    · exact plain.2 c later

/-- An identifier is either quoted or plain and not reserved. -/
theorem quote_cases {config : Config} (quotes : config.quoting ≠ .never) (name : String) :
    config.quote name = wrapIdentifier config.dialect name ∨
      (config.quote name = name ∧ isPlain name.toList = true ∧ isReserved name = false) := by
  by_cases wraps : config.quotes name = true
  · exact Or.inl (by rw [Config.quote, if_pos wraps])
  · refine Or.inr ⟨by rw [Config.quote, if_neg wraps], ?_⟩
    simp only [Config.quotes] at wraps
    split at wraps
    · exact absurd rfl wraps
    · rename_i mode
      exact absurd mode quotes
    · simpa only [needsQuoting, Bool.not_eq_true, Bool.or_eq_false_iff, Bool.not_eq_false'] using wraps

theorem wrapIdentifier_eq (dialect : Dialect) (name : String) :
    wrapIdentifier dialect name = enclose dialect.quote.opening dialect.quote.closing name := by
  rw [wrapIdentifier, dialect.openQuote_eq, dialect.closeQuote_eq]

end SqlDdl
