import Mathlib.Data.List.Forall2

/-!
# Outcomes of steps

What the success of several steps that may fail says about each of them, and with which errors
they may fail together.
-/

set_option autoImplicit false

namespace Sharding

section

variable {ε α β : Type}

theorem bind_eq_ok {first : Except ε α} {next : α → Except ε β} {result : β} :
    first >>= next = .ok result ↔ ∃ value, first = .ok value ∧ next value = .ok result := by
  cases first <;> simp [bind, Except.bind]

theorem bind_eq_error {first : Except ε α} {next : α → Except ε β} {error : ε} :
    first >>= next = .error error ↔
      first = .error error ∨ ∃ value, first = .ok value ∧ next value = .error error := by
  cases first <;> simp [bind, Except.bind]

theorem seq_eq_ok {first : Except ε Unit} {next : Except ε β} {result : β} :
    (first >>= fun _ => next) = .ok result ↔ first = .ok () ∧ next = .ok result := by
  rw [bind_eq_ok]
  exact ⟨fun ⟨_, done, rest⟩ => ⟨done, rest⟩, fun ⟨done, rest⟩ => ⟨(), done, rest⟩⟩

theorem pure_eq_ok {value result : α} :
    (pure value : Except ε α) = .ok result ↔ value = result := by
  simp [pure, Except.pure]

theorem exists_error_iff {outcome : Except ε α} :
    (∃ error, outcome = .error error) ↔ ¬ ∃ value, outcome = .ok value := by
  cases outcome <;> simp

/-- What a run finds out about its result holds of the result. -/
theorem exists_of_decided {outcome : Except ε α} {fact : α → Prop} [DecidablePred fact]
    (run : (outcome >>= fun value => pure (decide (fact value))) = .ok true) :
    ∃ value, outcome = .ok value ∧ fact value := by
  obtain ⟨value, succeeded, decided⟩ := bind_eq_ok.mp run
  exact ⟨value, succeeded, of_decide_eq_true (pure_eq_ok.mp decided)⟩

instance decidableExistsOk {outcome : Except ε α} {fact : α → Prop} [DecidablePred fact] :
    Decidable (∃ value, outcome = .ok value ∧ fact value) :=
  match outcome with
  | .ok value => decidable_of_iff (fact value) (by simp)
  | .error _ => isFalse (by simp)

instance decidableExistsError {outcome : Except ε α} :
    Decidable (∃ error, outcome = .error error) :=
  match outcome with
  | .ok _ => isFalse (by simp)
  | .error error => isTrue ⟨error, rfl⟩

theorem mapM_eq_ok_iff {step : α → Except ε β} {items : List α} {results : List β} :
    items.mapM step = .ok results ↔
      List.Forall₂ (fun item result => step item = .ok result) items results := by
  induction items generalizing results with
  | nil => rw [List.mapM_nil, pure_eq_ok, List.forall₂_nil_left_iff, eq_comm]
  | cons item items ih =>
      simp only [List.mapM_cons, bind_eq_ok, pure_eq_ok, List.forall₂_cons_left_iff, ih]
      constructor
      · rintro ⟨result, stepped, rest, walked, rfl⟩
        exact ⟨result, rest, stepped, walked, rfl⟩
      · rintro ⟨result, rest, stepped, walked, rfl⟩
        exact ⟨result, stepped, rest, walked, rfl⟩

theorem mapM_append_of_eq_ok {step : α → Except ε β} {first second : List α} {results : List β}
    (done : first.mapM step = .ok results) :
    (first ++ second).mapM step = do return results ++ (← second.mapM step) := by
  rw [List.mapM_append, done]
  rfl

theorem mapM_congr {step other : α → Except ε β} {items : List α}
    (each : ∀ item ∈ items, step item = other item) : items.mapM step = items.mapM other := by
  induction items with
  | nil => rfl
  | cons item items ih =>
      obtain ⟨first, rest⟩ := List.forall_mem_cons.mp each
      rw [List.mapM_cons, List.mapM_cons, first, ih rest]

theorem mapM_eq_some_iff {step : α → Option β} {items : List α} {results : List β} :
    items.mapM step = some results ↔
      List.Forall₂ (fun item result => step item = some result) items results := by
  induction items generalizing results with
  | nil => simp [eq_comm]
  | cons item items ih =>
      simp only [List.mapM_cons, Option.bind_eq_bind, Option.bind_eq_some_iff,
        Option.pure_def, Option.some.injEq, List.forall₂_cons_left_iff, ih]
      constructor
      · rintro ⟨result, stepped, rest, walked, rfl⟩
        exact ⟨result, rest, stepped, walked, rfl⟩
      · rintro ⟨result, rest, stepped, walked, rfl⟩
        exact ⟨result, stepped, rest, walked, rfl⟩

theorem forM_eq_ok_iff {check : α → Except ε Unit} {items : List α} :
    items.forM check = .ok () ↔ ∀ item ∈ items, check item = .ok () := by
  induction items with
  | nil => simp [List.forM_eq_forM, pure_eq_ok]
  | cons item items ih =>
      rw [List.forM_eq_forM] at ih ⊢
      simp only [List.forM_cons, bind_eq_ok, ih, List.forall_mem_cons]
      exact ⟨fun ⟨_, first, rest⟩ => ⟨first, rest⟩, fun ⟨first, rest⟩ => ⟨(), first, rest⟩⟩

/-- A fold that succeeds has the same result with steps that do the same wherever the first ones
succeed. -/
theorem foldlM_eq_ok_of_imp {step other : β → α → Except ε β} {items : List α} {start final : β}
    (each : ∀ before item after, step before item = .ok after → other before item = .ok after)
    (folded : items.foldlM step start = .ok final) : items.foldlM other start = .ok final := by
  induction items generalizing start with
  | nil => exact folded
  | cons item items ih =>
      rw [List.foldlM_cons] at folded ⊢
      obtain ⟨next, stepped, rest⟩ := bind_eq_ok.mp folded
      exact bind_eq_ok.mpr ⟨next, each start item next stepped, ih rest⟩

theorem exists_of_forM_eq_error {check : α → Except ε Unit} {items : List α} {error : ε}
    (failed : items.forM check = .error error) : ∃ item ∈ items, check item = .error error := by
  induction items with
  | nil => cases failed
  | cons item items ih =>
      rw [List.forM_eq_forM] at ih failed
      rw [List.forM_cons, bind_eq_error] at failed
      rcases failed with first | ⟨_, _, rest⟩
      · exact ⟨item, List.mem_cons_self, first⟩
      · obtain ⟨other, member, otherFailed⟩ := ih rest
        exact ⟨other, List.mem_cons_of_mem _ member, otherFailed⟩

theorem exists_of_mapM_eq_error {step : α → Except ε β} {items : List α} {error : ε}
    (failed : items.mapM step = .error error) : ∃ item ∈ items, step item = .error error := by
  induction items with
  | nil => cases failed
  | cons item items ih =>
      rw [List.mapM_cons, bind_eq_error] at failed
      rcases failed with first | ⟨_, _, rest⟩
      · exact ⟨item, List.mem_cons_self, first⟩
      · rcases bind_eq_error.mp rest with later | ⟨_, _, collected⟩
        · obtain ⟨other, member, otherFailed⟩ := ih later
          exact ⟨other, List.mem_cons_of_mem _ member, otherFailed⟩
        · cases collected

end

/-! ## Errors -/

section

variable {ε α β : Type} {allowed : ε → Prop}

/-- An outcome that fails with none but certain errors. -/
def FailsOnly (allowed : ε → Prop) (outcome : Except ε α) : Prop :=
  ∀ error, outcome = .error error → allowed error

namespace FailsOnly

theorem ok (value : α) : FailsOnly allowed (.ok value : Except ε α) := by
  intro error failed
  cases failed

theorem error {error : ε} (permitted : allowed error) :
    FailsOnly allowed (.error error : Except ε α) := by
  intro other failed
  cases failed
  exact permitted

theorem bind {first : Except ε α} {next : α → Except ε β} (started : FailsOnly allowed first)
    (continued : ∀ value, first = .ok value → FailsOnly allowed (next value)) :
    FailsOnly allowed (first >>= next) := by
  intro error failed
  rcases bind_eq_error.mp failed with early | ⟨value, reached, late⟩
  · exact started error early
  · exact continued value reached error late

theorem map {outcome : Except ε α} (within : FailsOnly allowed outcome) (f : α → β) :
    FailsOnly allowed (outcome >>= fun value => pure (f value)) :=
  within.bind fun value _ => ok (f value)

theorem mapM {step : α → Except ε β} {items : List α}
    (each : ∀ item ∈ items, FailsOnly allowed (step item)) :
    FailsOnly allowed (items.mapM step) := by
  intro error failed
  obtain ⟨item, member, itemFailed⟩ := exists_of_mapM_eq_error failed
  exact each item member error itemFailed

theorem forM {check : α → Except ε Unit} {items : List α}
    (each : ∀ item ∈ items, FailsOnly allowed (check item)) :
    FailsOnly allowed (items.forM check) := by
  intro error failed
  obtain ⟨item, member, itemFailed⟩ := exists_of_forM_eq_error failed
  exact each item member error itemFailed

theorem foldlM {step : β → α → Except ε β} {items : List α}
    (each : ∀ before item, FailsOnly allowed (step before item)) (start : β) :
    FailsOnly allowed (items.foldlM step start) := by
  induction items generalizing start with
  | nil => exact ok start
  | cons item items ih =>
      rw [List.foldlM_cons]
      exact (each start item).bind fun next _ => ih next

theorem ite {condition : Prop} [Decidable condition] {left right : Except ε α}
    (first : FailsOnly allowed left) (second : FailsOnly allowed right) :
    FailsOnly allowed (if condition then left else right) := by
  split
  · exact first
  · exact second

theorem imp {permitted : ε → Prop} {outcome : Except ε α} (within : FailsOnly allowed outcome)
    (wider : ∀ error, allowed error → permitted error) : FailsOnly permitted outcome := by
  intro error failed
  exact wider error (within error failed)

end FailsOnly

end

/-! ## Outcomes side by side -/

section

variable {ε α β γ δ : Type} {torn : Prop} {errors : ε → ε → Prop} {results : α → β → Prop}

/-- Two outcomes are of one kind, with related results or related errors. In a torn case one of
them may be an error whatever the other is. -/
inductive Agree (torn : Prop) (errors : ε → ε → Prop) (results : α → β → Prop) :
    Except ε α → Except ε β → Prop where
  | ok {left : α} {right : β} (related : results left right) :
      Agree torn errors results (.ok left) (.ok right)
  | error {left right : ε} (related : errors left right) :
      Agree torn errors results (.error left) (.error right)
  | left (parted : torn) (error : ε) (outcome : Except ε β) :
      Agree torn errors results (.error error) outcome
  | right (parted : torn) (outcome : Except ε α) (error : ε) :
      Agree torn errors results outcome (.error error)

namespace Agree

theorem of_eq {left right : Except ε α} (reflexive : ∀ error, errors error error)
    (same : left = right) : Agree torn errors Eq left right := by
  subst same
  cases left with
  | ok value => exact .ok rfl
  | error error => exact .error (reflexive error)

theorem eq {left right : Except ε α} (agree : Agree False Eq Eq left right) : left = right := by
  cases agree with
  | ok related => rw [related]
  | error related => rw [related]
  | left parted _ _ => exact parted.elim
  | right parted _ _ => exact parted.elim

theorem eq_ok {value : α} {outcome : Except ε α}
    (agree : Agree False errors Eq (.ok value) outcome) : outcome = .ok value := by
  cases agree with
  | ok related => rw [related]
  | right parted _ _ => exact parted.elim

theorem related {left : α} {right : β}
    (agree : Agree torn errors results (.ok left) (.ok right)) : results left right := by
  cases agree with
  | ok related => exact related

theorem imp {first : Except ε α} {second : Except ε β} {wider : α → β → Prop}
    (agree : Agree torn errors results first second)
    (widen : ∀ left right, first = .ok left → second = .ok right → results left right →
      wider left right) :
    Agree torn errors wider first second := by
  cases agree with
  | ok related => exact .ok (widen _ _ rfl rfl related)
  | error related => exact .error related
  | left parted error _ => exact .left parted error second
  | right parted _ error => exact .right parted first error

theorem mono {first : Except ε α} {second : Except ε β} {other : Prop}
    (agree : Agree torn errors results first second) (widen : torn → other) :
    Agree other errors results first second := by
  cases agree with
  | ok related => exact .ok related
  | error related => exact .error related
  | left parted error _ => exact .left (widen parted) error second
  | right parted _ error => exact .right (widen parted) first error

theorem bind {first : Except ε α} {second : Except ε β} {next : α → Except ε γ}
    {other : β → Except ε δ} {finals : γ → δ → Prop}
    (agree : Agree torn errors results first second)
    (continued : ∀ left right, first = .ok left → second = .ok right → results left right →
      Agree torn errors finals (next left) (other right)) :
    Agree torn errors finals (first >>= next) (second >>= other) := by
  cases agree with
  | ok related => exact continued _ _ rfl rfl related
  | error related => exact .error related
  | left parted error _ => exact .left parted error (second >>= other)
  | right parted _ error => exact .right parted (first >>= next) error

theorem map {first : Except ε α} {second : Except ε β} {f : α → γ} {g : β → δ}
    {finals : γ → δ → Prop} (agree : Agree torn errors results first second)
    (mapped : ∀ left right, results left right → finals (f left) (g right)) :
    Agree torn errors finals (first >>= fun value => pure (f value))
      (second >>= fun value => pure (g value)) :=
  agree.bind fun _ _ _ _ related => .ok (mapped _ _ related)

theorem map_right {first : Except ε α} {second : Except ε β} {g : β → δ} {finals : α → δ → Prop}
    (agree : Agree torn errors results first second)
    (mapped : ∀ left right, results left right → finals left (g right)) :
    Agree torn errors finals first (second >>= fun value => pure (g value)) := by
  rw [← bind_pure first]
  exact agree.map mapped

theorem mapM {step : α → Except ε γ} {walk : β → Except ε δ} {lefts : List α} {rights : List β}
    {finals : γ → δ → Prop} (paired : List.Forall₂ results lefts rights)
    (each : ∀ left right, results left right → Agree torn errors finals (step left) (walk right)) :
    Agree torn errors (List.Forall₂ finals) (lefts.mapM step) (rights.mapM walk) := by
  induction paired with
  | nil => exact .ok .nil
  | cons related _ ih =>
      rw [List.mapM_cons, List.mapM_cons]
      exact (each _ _ related).bind fun _ _ _ _ first =>
        ih.map fun _ _ rest => .cons first rest

end Agree

end

/-! ## Lists side by side -/

section

variable {α β γ : Type} {relation : α → β → Prop} {lefts : List α} {rights : List β}

theorem exists_right_of_mem {left : α} (paired : List.Forall₂ relation lefts rights)
    (member : left ∈ lefts) : ∃ right ∈ rights, relation left right := by
  induction paired with
  | nil => cases member
  | cons related _ ih =>
      rcases List.mem_cons.mp member with rfl | member
      · exact ⟨_, List.mem_cons_self, related⟩
      · obtain ⟨right, found, relatedRight⟩ := ih member
        exact ⟨right, List.mem_cons_of_mem _ found, relatedRight⟩

theorem exists_left_of_mem {right : β} (paired : List.Forall₂ relation lefts rights)
    (member : right ∈ rights) : ∃ left ∈ lefts, relation left right :=
  exists_right_of_mem paired.flip member

theorem exists_forall₂_iff :
    (∃ rights, List.Forall₂ relation lefts rights) ↔
      ∀ left ∈ lefts, ∃ right, relation left right := by
  induction lefts with
  | nil => simp
  | cons left lefts ih =>
      rw [List.forall_mem_cons, ← ih]
      constructor
      · rintro ⟨_, related⟩
        cases related with
        | cons first others => exact ⟨⟨_, first⟩, _, others⟩
      · rintro ⟨⟨right, first⟩, rights, others⟩
        exact ⟨right :: rights, .cons first others⟩

theorem forall₂_of_zip {step : α × β → γ → Prop} {outcome : α → γ → Prop} {results : List γ}
    (paired : List.Forall₂ relation lefts rights)
    (stepped : List.Forall₂ step (lefts.zip rights) results)
    (combined : ∀ left ∈ lefts, ∀ right result,
      relation left right → step (left, right) result → outcome left result) :
    List.Forall₂ outcome lefts results := by
  induction paired generalizing results with
  | nil =>
      cases stepped
      exact .nil
  | cons related _ ih =>
      cases stepped with
      | cons first rest =>
          refine .cons (combined _ List.mem_cons_self _ _ related first) (ih rest ?_)
          exact fun left member => combined left (List.mem_cons_of_mem _ member)

theorem orElse_rel {first third : Option α} {second fourth : Option β}
    (related : Option.Rel relation first second) (others : Option.Rel relation third fourth) :
    Option.Rel relation (first <|> third) (second <|> fourth) := by
  cases related with
  | some related => exact .some related
  | none => exact others

/-- Pairs of two lists beside pairs of two others, related in both parts. -/
theorem forall₂_zip {δ : Type} {first : α → γ → Prop} {second : β → δ → Prop}
    {slots : γ → δ → Prop} {leftSlots : List γ} {rightSlots : List δ}
    (paired : List.Forall₂ relation lefts rights) (leftPaired : List.Forall₂ first lefts leftSlots)
    (rightPaired : List.Forall₂ second rights rightSlots)
    (slotsPaired : List.Forall₂ slots leftSlots rightSlots) :
    List.Forall₂ (fun left right => relation left.1 right.1 ∧ first left.1 left.2 ∧
      second right.1 right.2 ∧ slots left.2 right.2) (lefts.zip leftSlots)
      (rights.zip rightSlots) := by
  induction paired generalizing leftSlots rightSlots with
  | nil => exact .nil
  | cons related _ ih =>
      cases leftPaired with
      | cons leftFirst leftRest =>
          cases rightPaired with
          | cons rightFirst rightRest =>
              cases slotsPaired with
              | cons slotsFirst slotsRest =>
                  exact .cons ⟨related, leftFirst, rightFirst, slotsFirst⟩
                    (ih leftRest rightRest slotsRest)

theorem find?_forall₂ {want : α → Bool} {seek : β → Bool}
    (paired : List.Forall₂ relation lefts rights)
    (alike : ∀ left right, relation left right → want left = seek right) :
    Option.Rel relation (lefts.find? want) (rights.find? seek) := by
  induction paired with
  | nil => exact .none
  | @cons left right _ _ related _ ih =>
      have same := alike left right related
      cases found : want left with
      | true => simpa [List.find?_cons, ← same, found] using Option.Rel.some related
      | false => simpa [List.find?_cons, ← same, found] using ih

theorem head?_forall₂ (paired : List.Forall₂ relation lefts rights) :
    Option.Rel relation lefts.head? rights.head? := by
  cases paired with
  | nil => exact .none
  | cons related _ => exact .some related

theorem nodup_right_of_forall₂ (paired : List.Forall₂ relation lefts rights)
    (distinct : lefts.Nodup)
    (injective : ∀ first second right, relation first right → relation second right →
      first = second) : rights.Nodup := by
  induction paired with
  | nil => exact .nil
  | cons related rest ih =>
      obtain ⟨fresh, distinct⟩ := List.nodup_cons.mp distinct
      refine List.nodup_cons.mpr ⟨fun member => ?_, ih distinct⟩
      obtain ⟨other, otherMember, otherRelated⟩ := exists_left_of_mem rest member
      cases injective _ _ _ related otherRelated
      exact fresh otherMember

theorem flatten_sublist_flatMap {inside : α → List β} {groups : List (List β)}
    (paired : List.Forall₂ (fun left group => group.Sublist (inside left)) lefts groups) :
    groups.flatten.Sublist (lefts.flatMap inside) := by
  induction paired with
  | nil => exact .slnil
  | cons first _ ih => exact first.append ih

end

end Sharding
