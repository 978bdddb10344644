import Sharding.Proofs.Placement.Ranges

/-!
# Enumeration of integers

A placement by template tries the integers of a range one by one, forgets names that are no
candidates or found already, and stops when every candidate is found. What it selects is what the
plain enumeration of all integers selects, and it fails only where one of them fails.
-/

set_option autoImplicit false

namespace Sharding

namespace Inline

/-! ## Plainly -/

/-- For some integer from the lower to the upper one the template gives the name, in any
spelling. -/
def Reaches (inline : Inline) (column : String) (low high : Int64) (name : String) : Prop :=
  ∃ n : Int64, low ≤ n ∧ n ≤ high ∧
    ∃ target, inline.target column (.int n) = .ok target ∧ Name.Same name target

/-- The names that the template gives for the integers from the lower to the upper one. -/
def names (inline : Inline) (column : String) (low high : Int64) : List String :=
  (List.range (high.toInt - low.toInt + 1).toNat).filterMap fun (distance : Nat) =>
    (inline.target column (.int (Int64.ofInt (low.toInt + distance)))).toOption

variable {inline : Inline} {column : String} {low high : Int64}

/-- Between two words all integers are words. -/
theorem ofInt_between {n : Int} (above : low.toInt ≤ n) (below : n ≤ high.toInt) :
    low ≤ Int64.ofInt n ∧ Int64.ofInt n ≤ high := by
  have least := low.le_toInt
  have greatest := high.toInt_lt
  rw [Int64.le_iff_toInt_le, Int64.le_iff_toInt_le, Int64.toInt_ofInt_of_le (by omega) (by omega)]
  exact ⟨above, below⟩

theorem mem_names_iff {name : String} :
    name ∈ inline.names column low high ↔
      ∃ n : Int64, low ≤ n ∧ n ≤ high ∧ inline.target column (.int n) = .ok name := by
  have given : ∀ outcome : Except Error String,
      outcome.toOption = some name ↔ outcome = .ok name := by
    intro outcome
    cases outcome <;> simp [Except.toOption]
  simp only [names, List.mem_filterMap, List.mem_range, given]
  constructor
  · rintro ⟨distance, less, evaluated⟩
    have inside : low ≤ Int64.ofInt (low.toInt + distance) ∧
        Int64.ofInt (low.toInt + distance) ≤ high := ofInt_between (by omega) (by omega)
    exact ⟨_, inside.1, inside.2, evaluated⟩
  · rintro ⟨n, above, below, evaluated⟩
    rw [Int64.le_iff_toInt_le] at above below
    refine ⟨(n.toInt - low.toInt).toNat, by omega, ?_⟩
    rwa [Int.toNat_of_nonneg (by omega), Int.add_comm, Int.sub_add_cancel, Int64.ofInt_toInt]

theorem reaches_iff {name : String} :
    inline.Reaches column low high name ↔
      ∃ target ∈ inline.names column low high, Name.Same name target := by
  simp only [mem_names_iff]
  constructor
  · rintro ⟨n, above, below, target, evaluated, same⟩
    exact ⟨target, ⟨n, above, below, evaluated⟩, same⟩
  · rintro ⟨target, ⟨n, above, below, evaluated⟩, same⟩
    exact ⟨n, above, below, target, evaluated, same⟩

instance (inline : Inline) (column : String) (low high : Int64) (name : String) :
    Decidable (inline.Reaches column low high name) :=
  decidable_of_iff _ reaches_iff.symm

/-! ## One by one -/

variable {keys found all : List String} {count : Nat} {start : Int}

/-- A step of the search adds at most the key that it leads to. -/
theorem eq_or_mem_of_added {key first : String} {next : List String} (member : key ∈ next)
    (added : (if keys.contains first && !found.contains first then first :: found else found) =
      next) : key = first ∨ key ∈ found := by
  subst added
  split at member
  next => exact List.mem_cons.mp member
  next => exact .inr member

/-- A key that the search ends with was found before, or some integer leads to it. -/
theorem collect_reaches (collected : inline.collect column keys count start found = .ok all)
    {key : String} (member : key ∈ all) :
    key ∈ found ∨ ∃ n : Int, start ≤ n ∧ n < start + count ∧
      ∃ target, inline.target column (.int (Int64.ofInt n)) = .ok target ∧
        key = Name.fold target := by
  induction count generalizing start found with
  | zero =>
      cases collected
      exact .inl member
  | succ count ih =>
      simp only [collect, bind_eq_ok] at collected
      obtain ⟨first, reached, rest⟩ := collected
      generalize added : (if keys.contains (Name.fold first) && !found.contains (Name.fold first)
        then Name.fold first :: found else found) = next at rest
      have since : key ∈ next ∨ ∃ n : Int, start + 1 ≤ n ∧ n < start + 1 + count ∧
          ∃ target, inline.target column (.int (Int64.ofInt n)) = .ok target ∧
            key = Name.fold target := by
        split at rest
        next =>
          cases rest
          exact .inl member
        next => exact ih rest
      rcases since with now | ⟨n, above, below, later⟩
      · rcases eq_or_mem_of_added now added with here | before
        · exact .inr ⟨start, Int.le_refl _, by omega, first, reached, here⟩
        · exact .inl before
      · exact .inr ⟨n, by omega, by omega, later⟩

theorem exists_of_collect_eq_error {error : Error}
    (failed : inline.collect column keys count start found = .error error) :
    ∃ n : Int, start ≤ n ∧ n < start + count ∧
      inline.target column (.int (Int64.ofInt n)) = .error error := by
  induction count generalizing start found with
  | zero => cases failed
  | succ count ih =>
      simp only [collect, bind_eq_error] at failed
      rcases failed with here | ⟨first, _, rest⟩
      · exact ⟨start, Int.le_refl _, by omega, here⟩
      · generalize (if keys.contains (Name.fold first) && !found.contains (Name.fold first)
          then Name.fold first :: found else found) = next at rest
        split at rest
        next => cases rest
        next =>
          obtain ⟨n, above, below, later⟩ := ih rest
          exact ⟨n, by omega, by omega, later⟩

/-! ## Ranges -/

variable {range : ValueRange} {candidates places : List String}

/-- The span of a range is too long in words, where the difference stops at the greatest word,
exactly if it is too long. -/
theorem maxSpan_le_nearestSub_iff (low high : Int64) :
    (maxSpan : Int) ≤ (Word.nearestSub high low).toInt ↔ maxSpan ≤ high.toInt - low.toInt := by
  have span : (maxSpan : Int) = 65536 := rfl
  rw [Word.toInt_nearestSub]
  omega

theorem selectWithin_eq_collect (bounds : range.integerBounds? = some (some low, some high))
    (upright : low ≤ high) (narrow : high.toInt - low.toInt < maxSpan) :
    inline.selectWithin candidates column range =
      inline.collect column (candidates.map Name.fold) ((high.toInt - low.toInt).toNat + 1)
          low.toInt [] >>= fun found =>
        pure (candidates.filter fun candidate => found.contains (Name.fold candidate)) := by
  rw [Int64.le_iff_toInt_le] at upright
  have ordered : ¬ high < low := by
    rw [Int64.lt_iff_toInt_lt]
    omega
  have short : ¬ maxSpan ≤ (Word.nearestSub high low).toInt := by
    rw [maxSpan_le_nearestSub_iff]
    omega
  simp only [selectWithin, bounds, if_neg ordered, if_neg short]

theorem selectWithin_of_wide (column : String)
    (bounds : range.integerBounds? = some (some low, some high))
    (wide : maxSpan ≤ high.toInt - low.toInt) :
    inline.selectWithin candidates column range = .ok candidates := by
  have span : (maxSpan : Int) = 65536 := rfl
  have ordered : ¬ high < low := by
    rw [Int64.lt_iff_toInt_lt]
    omega
  have long := (maxSpan_le_nearestSub_iff low high).mpr wide
  simp only [selectWithin, bounds, if_neg ordered, if_pos long]

theorem selectWithin_of_open {lower upper : Option Int64} (column : String)
    (bounds : range.integerBounds? = some (lower, upper)) (opened : lower = none ∨ upper = none) :
    inline.selectWithin candidates column range = .ok candidates := by
  rcases opened with rfl | rfl
  · simp only [selectWithin, bounds]
  · cases lower <;> simp only [selectWithin, bounds]

theorem selectWithin_of_inverted (column : String)
    (bounds : range.integerBounds? = some (some low, some high)) (inverted : high < low) :
    inline.selectWithin candidates column range = .ok [] := by
  simp only [selectWithin, bounds, if_pos inverted]

/-- The search finds the keys of those candidates that some integer reaches. -/
theorem fold_mem_collected_iff {found : List String} {candidate : String}
    (upright : low ≤ high) (member : candidate ∈ candidates)
    (collected : inline.collect column (candidates.map Name.fold)
      ((high.toInt - low.toInt).toNat + 1) low.toInt [] = .ok found) :
    Name.fold candidate ∈ found ↔ inline.Reaches column low high candidate := by
  rw [Int64.le_iff_toInt_le] at upright
  constructor
  · intro known
    rcases collect_reaches collected known with none | ⟨n, above, below, target, evaluated, same⟩
    · cases none
    · have inside : low ≤ Int64.ofInt n ∧ Int64.ofInt n ≤ high := ofInt_between above (by omega)
      exact ⟨_, inside.1, inside.2, target, evaluated, same⟩
  · rintro ⟨n, above, below, target, evaluated, same⟩
    rw [Int64.le_iff_toInt_le] at above below
    have covered := (collect_covers (Found.none _) collected).2 n.toInt target above (by omega)
    rw [Int64.ofInt_toInt, ← show Name.fold candidate = Name.fold target from same] at covered
    exact covered evaluated (List.mem_map_of_mem member)

theorem selectWithin_eq_filter (upright : low ≤ high)
    (narrow : high.toInt - low.toInt < maxSpan)
    (bounds : range.integerBounds? = some (some low, some high))
    (selected : inline.selectWithin candidates column range = .ok places) :
    places = candidates.filter fun candidate =>
      decide (inline.Reaches column low high candidate) := by
  rw [selectWithin_eq_collect bounds upright narrow] at selected
  simp only [bind_eq_ok, pure_eq_ok] at selected
  obtain ⟨found, collected, rfl⟩ := selected
  refine List.filter_congr fun candidate member => ?_
  rw [Bool.eq_iff_iff, List.contains_iff_mem, decide_eq_true_iff,
    fold_mem_collected_iff upright member collected]

theorem exists_of_selectWithin_eq_error {error : Error} (upright : low ≤ high)
    (narrow : high.toInt - low.toInt < maxSpan)
    (bounds : range.integerBounds? = some (some low, some high))
    (failed : inline.selectWithin candidates column range = .error error) :
    ∃ n, low ≤ n ∧ n ≤ high ∧ inline.target column (.int n) = .error error := by
  rw [selectWithin_eq_collect bounds upright narrow] at failed
  rw [Int64.le_iff_toInt_le] at upright
  rcases bind_eq_error.mp failed with stopped | ⟨found, _, kept⟩
  · obtain ⟨n, above, below, refused⟩ := exists_of_collect_eq_error stopped
    have inside : low ≤ Int64.ofInt n ∧ Int64.ofInt n ≤ high := ofInt_between above (by omega)
    exact ⟨_, inside.1, inside.2, refused⟩
  · cases kept

/-- Within a span that is tried integer by integer just those candidates are selected that some
integer of the range leads to, in candidate order, and only what fails for an integer of the range
fails. Every candidate is selected for longer spans and open ends, none for inverted ends. So
whatever is selected for a single integer is selected for the ranges around it. -/
theorem ranges_select_enumerated (inline : Inline) (candidates : List String) (column : String)
    (range : ValueRange) :
    (∀ low high, range.integerBounds? = some (some low, some high) → low ≤ high →
      high.toInt - low.toInt < 65536 →
      (∀ places, inline.placement.selectWithin candidates column range = .ok places →
        places = candidates.filter fun candidate =>
          decide (inline.Reaches column low high candidate)) ∧
      ∀ error, inline.placement.selectWithin candidates column range = .error error →
        ∃ n, low ≤ n ∧ n ≤ high ∧ inline.target column (.int n) = .error error) ∧
    (∀ low high, range.integerBounds? = some (some low, some high) →
      65536 ≤ high.toInt - low.toInt →
      inline.placement.selectWithin candidates column range = .ok candidates) ∧
    (∀ low high, (maxSpan : Int) ≤ (Word.nearestSub high low).toInt ↔
      65536 ≤ high.toInt - low.toInt) ∧
    (∀ lower upper, range.integerBounds? = some (lower, upper) → lower = none ∨ upper = none →
      inline.placement.selectWithin candidates column range = .ok candidates) ∧
    (∀ low high, range.integerBounds? = some (some low, some high) → high < low →
      inline.placement.selectWithin candidates column range = .ok []) ∧
    ∀ n place places, range.Contains n →
      inline.placement.selectEqual candidates column (.int n) = .ok (some place) →
      inline.placement.selectWithin candidates column range = .ok places → place ∈ places := by
  refine ⟨fun low high bounds upright narrow => ⟨fun places => ?_, fun error => ?_⟩,
    fun low high bounds wide => selectWithin_of_wide column bounds wide,
    maxSpan_le_nearestSub_iff,
    fun lower upper bounds opened => selectWithin_of_open column bounds opened,
    fun low high bounds inverted => selectWithin_of_inverted column bounds inverted,
    fun n place places inside placed selected => ?_⟩
  · exact selectWithin_eq_filter upright narrow bounds
  · exact exists_of_selectWithin_eq_error upright narrow bounds
  · cases bounds : range.integerBounds? with
    | none =>
        change inline.selectWithin candidates column range = .ok places at selected
        simp only [selectWithin, bounds] at selected
        cases selected
    | some ends =>
        exact mem_of_selectWithin (ValueRange.spans_of_contains bounds inside) placed selected

private def shares : Inline where
  template :=
    { source := "t_$\x7b6 / (3 - id)\x7d"
      parts := [.literal "t_", .placeholder (.single (.binary .div (.int 6)
        (.binary .sub (.int 3) (.name "id"))))] }

private def shareTables : List String :=
  ["T_6", "t_3"]

/-- Both tables are found before the integer that the template fails for. -/
theorem share_ranges_select_enumerated :
    (∃ error, shares.target "id" (.int 3) = .error error) ∧
      shares.placement.selectWithin shareTables "id" ⟨.excluded (.int 0), .included (.int 3)⟩ =
        .ok shareTables ∧
      shares.Reaches "id" 1 3 "T_6" := by
  have bounds : ValueRange.integerBounds? ⟨.excluded (.int 0), .included (.int 3)⟩ =
      some (some 1, some 3) := by
    decide +kernel
  have keys : shareTables.map Name.fold = ["t_6", "t_3"] := by decide +kernel
  have collected : shares.collect "id" ["t_6", "t_3"] ((3 - 1 : Int).toNat + 1) 1 [] =
      .ok ["t_6", "t_3"] := by
    decide +kernel
  have selected : shares.placement.selectWithin shareTables "id"
      ⟨.excluded (.int 0), .included (.int 3)⟩ = .ok shareTables := by
    refine (selectWithin_eq_collect bounds (by decide) (by decide)).trans ?_
    rw [show (1 : Int64).toInt = 1 from rfl, show (3 : Int64).toInt = 3 from rfl, keys, collected]
    decide +kernel
  have enumerated := ((ranges_select_enumerated shares shareTables "id" _).1 1 3 bounds (by decide)
    (by decide)).1 shareTables selected
  have member : "T_6" ∈ shareTables := List.mem_cons_self
  rw [enumerated, List.mem_filter, decide_eq_true_iff] at member
  exact ⟨by decide +kernel, selected, member.2⟩

end Inline

end Sharding
