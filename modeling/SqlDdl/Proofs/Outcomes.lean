import Mathlib.Data.List.Forall2
import SqlDdl.Error

/-! Computations that may fail, one after the other. -/

namespace SqlDdl

variable {ε α β : Type}

theorem eq_ok_of_toOption {outcome : Except Error α} {value : α}
    (found : outcome.toOption = some value) : outcome = .ok value := by
  cases outcome with
  | error => cases found
  | ok => exact congrArg Except.ok (Option.some.inj found)

theorem bind_eq_ok {first : Except ε α} {next : α → Except ε β} {result : β} :
    (first >>= next) = .ok result ↔ ∃ value, first = .ok value ∧ next value = .ok result := by
  cases first with
  | error cause => exact ⟨(nomatch ·), fun ⟨_, same, _⟩ => nomatch same⟩
  | ok value =>
    constructor
    · exact fun same => ⟨value, rfl, same⟩
    · rintro ⟨_, found, same⟩
      cases found
      exact same

theorem map_eq_ok {first : Except ε α} {next : α → β} {result : β} :
    first.map next = .ok result ↔ ∃ value, first = .ok value ∧ next value = result := by
  cases first with
  | error cause => exact ⟨(nomatch ·), fun ⟨_, same, _⟩ => nomatch same⟩
  | ok value =>
    constructor
    · exact fun same => ⟨value, rfl, Except.ok.inj same⟩
    · rintro ⟨_, found, rfl⟩
      cases found
      rfl

theorem mapError_eq_ok {ε' : Type} {outcome : Except ε α} {f : ε → ε'} {result : α} :
    outcome.mapError f = .ok result ↔ outcome = .ok result := by
  cases outcome with
  | error cause => exact iff_of_false (fun same => nomatch same) fun same => nomatch same
  | ok value => exact ⟨fun same => congrArg Except.ok (Except.ok.inj same), fun same => same ▸ rfl⟩

theorem bind_eq_error {first : Except Error α} {next : α → Except Error β} {cause : Error} :
    (first >>= next) = .error cause ↔
      first = .error cause ∨ ∃ value, first = .ok value ∧ next value = .error cause := by
  cases first with
  | error other =>
    refine ⟨fun same => ?_, fun either => ?_⟩
    · cases same
      exact Or.inl rfl
    · rcases either with same | ⟨_, found, _⟩
      · cases same
        rfl
      · cases found
  | ok value =>
    constructor
    · exact fun same => Or.inr ⟨value, rfl, same⟩
    · rintro (same | ⟨_, found, same⟩)
      · cases same
      · cases found
        exact same

theorem bind_total_eq_error {first : Except Error α} {next : α → Except Error β} {cause : Error}
    (total : ∀ value, ∃ result, next value = .ok result) :
    (first >>= next) = .error cause ↔ first = .error cause := by
  rw [bind_eq_error]
  refine ⟨fun either => either.resolve_right ?_, Or.inl⟩
  rintro ⟨value, _, fails⟩
  obtain ⟨result, found⟩ := total value
  rw [found] at fails
  cases fails

theorem map_eq_error {first : Except Error α} {next : α → β} {cause : Error} :
    first.map next = .error cause ↔ first = .error cause := by
  cases first with
  | error other =>
    constructor <;> intro same <;> cases same <;> rfl
  | ok value => exact iff_of_false (fun same => nomatch same) fun same => nomatch same

theorem mapM_cons_eq_ok {item : α} {items : List α} {results : List β} {run : α → Except ε β} :
    (item :: items).mapM run = .ok results ↔
      ∃ result later, run item = .ok result ∧ items.mapM run = .ok later ∧ results = result :: later := by
  rw [List.mapM_cons, bind_eq_ok]
  constructor
  · rintro ⟨result, first, rest⟩
    obtain ⟨later, found, same⟩ := bind_eq_ok.mp rest
    exact ⟨result, later, first, found, (Except.ok.inj same).symm⟩
  · rintro ⟨result, later, first, found, rfl⟩
    exact ⟨result, first, bind_eq_ok.mpr ⟨later, found, rfl⟩⟩

/-- If a list of computations succeeds, then each of them has its result at the same place. -/
theorem mapM_eq_ok {items : List α} {results : List β} {run : α → Except ε β}
    (ran : items.mapM run = .ok results) :
    List.Forall₂ (fun item result => run item = .ok result) items results := by
  induction items generalizing results with
  | nil =>
    cases ran
    exact .nil
  | cons item items ih =>
    obtain ⟨result, later, first, found, rfl⟩ := mapM_cons_eq_ok.mp ran
    exact .cons first (ih found)

/-- A list of computations fails as the first one of them that fails. -/
theorem mapM_eq_error_iff {items : List α} {run : α → Except Error β} {cause : Error} :
    items.mapM run = .error cause ↔
      ∃ before item after, items = before ++ item :: after ∧
        (∀ earlier ∈ before, ∃ result, run earlier = .ok result) ∧ run item = .error cause := by
  induction items with
  | nil =>
    refine iff_of_false (fun same => nomatch same) ?_
    rintro ⟨before, item, after, split, _⟩
    cases before <;> cases split
  | cons head items ih =>
    have later : ∀ value, (do return value :: (← items.mapM run) : Except Error (List β)) = .error cause ↔
        items.mapM run = .error cause := fun value =>
      bind_total_eq_error fun results => ⟨value :: results, rfl⟩
    rw [List.mapM_cons, bind_eq_error]
    constructor
    · rintro (fails | ⟨value, found, fails⟩)
      · exact ⟨[], head, items, rfl, (fun _ member => nomatch member), fails⟩
      · obtain ⟨before, item, after, rfl, sound, fails⟩ := ih.mp ((later value).mp fails)
        exact ⟨head :: before, item, after, rfl, List.forall_mem_cons.mpr ⟨⟨value, found⟩, sound⟩, fails⟩
    · rintro ⟨_ | ⟨_, before⟩, item, after, split, sound, fails⟩
      · cases split
        exact Or.inl fails
      · cases split
        obtain ⟨⟨value, found⟩, rest⟩ := List.forall_mem_cons.mp sound
        exact Or.inr ⟨value, found, (later value).mpr (ih.mpr ⟨before, item, after, rfl, rest, fails⟩)⟩

theorem exists_mapM_eq_ok {items : List α} {run : α → Except Error β}
    (sound : ∀ item ∈ items, ∃ result, run item = .ok result) : ∃ results, items.mapM run = .ok results := by
  cases ran : items.mapM run with
  | ok results => exact ⟨results, rfl⟩
  | error cause =>
    obtain ⟨before, item, after, rfl, _, fails⟩ := mapM_eq_error_iff.mp ran
    obtain ⟨result, found⟩ := sound item (by simp)
    rw [found] at fails
    cases fails

theorem exists_of_mem_forall₂ {related : α → β → Prop} {items : List α} {results : List β}
    (paired : List.Forall₂ related items results) {result : β} (member : result ∈ results) :
    ∃ item ∈ items, related item result := by
  induction paired with
  | nil => cases member
  | cons first _ ih =>
    rcases List.mem_cons.mp member with rfl | later
    · exact ⟨_, List.mem_cons_self, first⟩
    · obtain ⟨item, inside, found⟩ := ih later
      exact ⟨item, List.mem_cons_of_mem _ inside, found⟩

end SqlDdl
