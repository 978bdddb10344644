import Mathlib.Data.List.Nodup
import Sharding.Proofs.Placement.Combinations
import Sharding.Proofs.Template.Names
import Sharding.Route.Selection

/-!
# Placements by template side by side

The three placements by template bind the names of a template by different rules and find the
places that it names in different ways. Yet with a template that spells the name `value` in no
other way they select the same places for a list of values, and fail with the same fault.
-/

set_option autoImplicit false

namespace Sharding

/-- The candidates that are selected for any of the values, in candidate order. -/
def StandardPlacement.selectEach (placement : StandardPlacement) (candidates : List String)
    (column : String) (values : List Value) : Except Error (List String) := do
  let selected ← placement.selectAmong candidates column values
  return candidates.filter fun candidate => selected.contains candidate

/-- One fault, found by placements of two types. -/
def SameFault (type otherType : String) (first second : Error) : Prop :=
  ∃ fault, first = .selection type fault ∧ second = .selection otherType fault

variable {template : Template} {type otherType : String} {candidates names : List String}
  {value : Value} {values : List Value} {properties : Properties} {text : String}

/-! ## One name -/

section Bindings

variable (exact : ∀ word ∈ template.names, Name.Same word "value" → word = "value")

include exact

theorem evaluate_hint_eq_inline : template.evaluate (HintInline.bindings value) =
    template.evaluate (Inline.bindings "value" value) := by
  refine Template.evaluate_of_names fun word named => ?_
  have spelled : Name.Same word "value" ∨ word = "value" ↔ word = "value" :=
    or_iff_right_of_imp (exact word named)
  simp only [HintInline.bindings, Inline.bindings, spelled]

theorem evaluate_hint_eq_complex : template.evaluate (HintInline.bindings value) =
    template.evaluate (ComplexInline.bindings ["value"] [value]) := by
  refine Template.evaluate_of_names fun word named => ?_
  have spelled : Name.Same "value" word ↔ word = "value" :=
    ⟨fun same => exact word named same.symm, fun same => same ▸ .refl _⟩
  by_cases same : Name.Same "value" word <;>
    simp [HintInline.bindings, ComplexInline.bindings, ← spelled, same]

end Bindings

/-! ## One column -/

theorem ComplexInline.combinations_of_among {complex : ComplexInline} {column : String}
    {predicates : NameMap Predicate} (single : complex.columns = [column])
    (among : predicates.get? column = some (.among values))
    (few : values.length ≤ maxCombinations) :
    complex.combinations predicates = .ok (values.map fun value => [value]) := by
  have known : ¬ Unlisted predicates column := by simp [Unlisted, among]
  have own : listed predicates column = values := by rw [listed, among]
  rw [combinations, single, List.foldlM_cons]
  refine bind_eq_ok.mpr ⟨_, extend_eq_ok_iff.mpr ⟨known, by simpa [own] using few, rfl⟩, ?_⟩
  simp [lengthened, own, pure, Except.pure]

/-! ## Places -/

section Places

variable (distinct : candidates.Pairwise fun candidate other => ¬ Name.Same candidate other)

include distinct

theorem findCandidate?_eq_some_iff {name candidate : String} (member : candidate ∈ candidates) :
    findCandidate? candidates name = some candidate ↔ Name.Same candidate name := by
  constructor
  · intro found
    simpa [Name.Same] using List.find?_some found
  · intro same
    have keys : (candidates.map Name.fold).Nodup := List.pairwise_map.mpr distinct
    obtain ⟨first, found⟩ : ∃ first, findCandidate? candidates name = some first :=
      Option.isSome_iff_exists.mp (List.find?_isSome.mpr ⟨candidate, member, decide_eq_true same⟩)
    have firstSame : Name.Same first name := by simpa [Name.Same] using List.find?_some found
    have only : first = candidate := List.inj_on_of_nodup_map keys
      (List.mem_of_find?_eq_some found) member (firstSame.trans same.symm)
    rw [found, only]

/-- With different names to choose from it makes no difference whether the first match for each
name is looked up or all matches for the names are kept. -/
theorem filter_eq_retain :
    (candidates.filter fun candidate =>
      (names.filterMap (findCandidate? candidates)).contains candidate) =
        retain candidates names := by
  refine List.filter_congr fun candidate member => ?_
  rw [Bool.eq_iff_iff, List.contains_iff_mem, List.contains_iff_mem, List.mem_filterMap,
    List.mem_map]
  refine exists_congr fun name => and_congr_right fun _ => ?_
  exact (findCandidate?_eq_some_iff distinct member).trans eq_comm

end Places

/-! ## Outcomes -/

theorem agree_target {first second : Template.Bindings}
    (same : template.evaluate first = template.evaluate second) :
    Agree False (SameFault type otherType) Eq (template.target type first)
      (template.target otherType second) := by
  rw [Template.target, Template.target, same]
  cases template.evaluate second with
  | ok name => exact .ok rfl
  | error fault => exact .error ⟨_, rfl, rfl⟩

section Outcomes

variable (exact : ∀ word ∈ template.names, Name.Same word "value" → word = "value")

include exact

theorem agree_complex {predicates : NameMap Predicate}
    (among : predicates.get? "value" = some (.among values))
    (few : values.length ≤ ComplexInline.maxCombinations) :
    Agree False (SameFault HintInline.type ComplexInline.type) Eq
      (HintInline.select { template } candidates values)
      (ComplexInline.select { columns := ["value"], template } candidates predicates) := by
  have each : List.Forall₂ (fun value combination => combination = [value]) values
      (values.map fun value => [value]) :=
    List.forall₂_map_right_iff.mpr (List.forall₂_same.mpr fun _ _ => rfl)
  have targets : Agree False (SameFault HintInline.type ComplexInline.type) (List.Forall₂ Eq)
      (values.mapM (HintInline.target { template }))
      ((values.map fun value => [value]).mapM
        (ComplexInline.target { columns := ["value"], template })) := by
    refine Agree.mapM each ?_
    rintro value _ rfl
    exact agree_target (evaluate_hint_eq_complex exact)
  rw [ComplexInline.select, ComplexInline.combinations_of_among rfl among few]
  refine targets.map fun names others same => ?_
  rw [List.forall₂_eq_eq_eq] at same
  rw [same]

theorem agree_inline
    (distinct : candidates.Pairwise fun candidate other => ¬ Name.Same candidate other) :
    Agree False (SameFault HintInline.type Inline.type) Eq
      (HintInline.select { template } candidates values)
      ((Inline.placement { template }).selectEach candidates "value" values) := by
  have each : List.Forall₂ Eq values values := List.forall₂_same.mpr fun _ _ => rfl
  have lookups : Agree False (SameFault HintInline.type Inline.type)
      (List.Forall₂ fun name found => findCandidate? candidates name = found)
      (values.mapM (HintInline.target { template }))
      (values.mapM (Inline.selectEqual { template } candidates "value")) := by
    refine Agree.mapM each ?_
    rintro value _ rfl
    exact (agree_target (evaluate_hint_eq_inline exact)).map_right fun _ _ same => same ▸ rfl
  rw [HintInline.select, StandardPlacement.selectEach, StandardPlacement.selectAmong, bind_assoc]
  refine lookups.map fun names found same => ?_
  obtain rfl : names.map (findCandidate? candidates) = found := by
    rwa [← List.forall₂_map_left_iff, List.forall₂_eq_eq_eq] at same
  rw [List.filterMap_map]
  exact (filter_eq_retain distinct).symm

end Outcomes

/-! ## Properties -/

theorem require_of_filled {key : String} (given : properties.get? key = some text)
    (filled : Text.trim text ≠ "") : properties.require type key = .ok (Text.trim text) := by
  rw [Properties.require, given, Option.map_some]
  split
  next blank => exact absurd (Option.some.inj blank) filled
  next found =>
    cases found
    rfl
  next found => cases found

theorem readTemplate_of_parse (parsed : Template.parse text = .ok template) :
    readTemplate type text = .ok template := by
  rw [readTemplate, parsed]

section OfProperties

variable (given : properties.get? expressionKey = some text) (filled : Text.trim text ≠ "")
  (parsed : Template.parse (Text.trim text) = .ok template)

include given filled parsed

theorem hint_ofProperties? : HintInline.ofProperties? properties = .ok { template } := by
  refine bind_eq_ok.mpr ⟨template, ?_, rfl⟩
  rw [given, Option.map_some]
  split
  next blank => exact absurd (Option.some.inj blank) filled
  next found =>
    cases found
    exact readTemplate_of_parse parsed
  next found => cases found

theorem inline_ofProperties? : Inline.ofProperties? properties = .ok { template } :=
  bind_eq_ok.mpr ⟨_, require_of_filled given filled,
    bind_eq_ok.mpr ⟨_, readTemplate_of_parse parsed, rfl⟩⟩

theorem complex_ofProperties? (column : properties.get? ComplexInline.columnsKey = some "value") :
    ComplexInline.ofProperties? properties = .ok { columns := ["value"], template } := by
  have columns : (Text.items (Text.trim "value")).map Name.fold = ["value"] := by decide +kernel
  have columnsFilled : Text.trim "value" ≠ "" := by decide +kernel
  refine bind_eq_ok.mpr ⟨_, require_of_filled column columnsFilled, ?_⟩
  rw [columns]
  exact bind_eq_ok.mpr ⟨_, require_of_filled given filled,
    bind_eq_ok.mpr ⟨_, readTemplate_of_parse parsed, rfl⟩⟩

end OfProperties

/-- The three placements by template agree. Read from one text that spells the name `value` in no
other way, they select the same candidates for a list of values, if no two candidates differ in
letter case only: `HINT_INLINE` by the values, `COMPLEX_INLINE` by the column `value` with the list
as its predicate and `INLINE` by the column `value` with the values one by one. If one of them
fails, all of them fail with the same fault. -/
theorem inline_placements_agree (parsed : Template.parse text = .ok template)
    (filled : Text.trim text ≠ "")
    (exact : ∀ word, Template.Mentions text word → Name.Same word "value" → word = "value") :
    ∃ hint inline complex,
      (∀ properties : Properties, properties.get? expressionKey = some text →
        HintInline.ofProperties? properties = .ok hint ∧
        Inline.ofProperties? properties = .ok inline ∧
        (properties.get? ComplexInline.columnsKey = some "value" →
          ComplexInline.ofProperties? properties = .ok complex)) ∧
      ∀ (candidates : List String) (values : List Value) (predicates : NameMap Predicate),
        (candidates.Pairwise fun candidate other => ¬ Name.Same candidate other) →
        values.length ≤ 65536 → predicates.get? "value" = some (.among values) →
        Agree False (SameFault HintInline.type ComplexInline.type) Eq
          (hint.placement.select candidates values)
          (complex.placement.select candidates predicates) ∧
        Agree False (SameFault HintInline.type Inline.type) Eq
          (hint.placement.select candidates values)
          (inline.placement.selectEach candidates "value" values) := by
  obtain ⟨trimmed, parsedTrimmed, sameNames⟩ := Template.exists_parse_trim parsed
  have spelled : ∀ word ∈ trimmed.names, Name.Same word "value" → word = "value" := by
    intro word named
    exact exact word ((Template.mem_names_iff parsed).mp (sameNames ▸ named))
  refine ⟨{ template := trimmed }, { template := trimmed },
    { columns := ["value"], template := trimmed }, fun properties given => ?_, ?_⟩
  · exact ⟨hint_ofProperties? given filled parsedTrimmed,
      inline_ofProperties? given filled parsedTrimmed,
      complex_ofProperties? given filled parsedTrimmed⟩
  · intro candidates values predicates distinct few among
    exact ⟨agree_complex spelled among few, agree_inline spelled distinct⟩

private theorem derives_parity :
    Template.Derives .product [.name "value", .percent, .int 2]
      (.binary .rem (.name "value") (.int 2)) :=
  @Template.Derives.product .rem [.name "value"] [.int 2] _ _ rfl (.factor (.operand .name))
    (.operand .int)

private def parity : Template.Passage where
  literal := "t_".toList
  opener := .short
  content := "value % 2".toList
  body := .single (.binary .rem (.name "value") (.int 2))
  plain := by decide +kernel
  unbroken := by decide +kernel
  parsed := Template.Body.parse_eq_ok_iff.mpr ⟨[.name "value", .percent, .int 2],
    Template.tokenize_eq_ok_iff.mp (by decide +kernel),
    .single (.term derives_parity)⟩

private def parities : Template where
  source := "t_$\x7bvalue % 2\x7d"
  parts := parity.parts

private theorem parse_parities : Template.parse parities.source = .ok parities := by
  have layout : parities.source.toList = Template.laidOut [parity] [] := by decide +kernel
  exact Template.parse_of_laidOut .nil layout

private def settings : Properties :=
  .ofList [(expressionKey, parities.source), (ComplexInline.columnsKey, "value")]

/-- A text is the same value to all three placements as its integer. -/
theorem parities_agree : ∃ hint inline complex,
    HintInline.ofProperties? settings = .ok hint ∧
    Inline.ofProperties? settings = .ok inline ∧
    ComplexInline.ofProperties? settings = .ok complex ∧
    hint.placement.select ["t_0", "t_1"] [.int 3, .text "5"] = .ok ["t_1"] ∧
    complex.placement.select ["t_0", "t_1"]
      (.ofList [("value", .among [.int 3, .text "5"])]) = .ok ["t_1"] ∧
    inline.placement.selectEach ["t_0", "t_1"] "value" [.int 3, .text "5"] = .ok ["t_1"] := by
  have given : settings.get? expressionKey = some parities.source := by decide +kernel
  have column : settings.get? ComplexInline.columnsKey = some "value" := by decide +kernel
  have filled : Text.trim parities.source ≠ "" := by decide +kernel
  have unmargined : Text.trim parities.source = parities.source := by decide +kernel
  have spelled : ∀ word, Template.Mentions parities.source word → Name.Same word "value" →
      word = "value" := by
    intro word mentioned _
    exact List.mem_singleton.mp ((Template.mem_names_iff parse_parities).mpr mentioned)
  obtain ⟨hint, inline, complex, read, agree⟩ :=
    inline_placements_agree parse_parities filled spelled
  obtain ⟨hintRead, inlineRead, complexRead⟩ := read settings given
  have distinct : ["t_0", "t_1"].Pairwise fun candidate other => ¬ Name.Same candidate other := by
    decide +kernel
  obtain ⟨asComplex, asInline⟩ := agree ["t_0", "t_1"] [.int 3, .text "5"]
    (.ofList [("value", .among [.int 3, .text "5"])]) distinct (by decide) (by decide +kernel)
  have selected : hint.placement.select ["t_0", "t_1"] [.int 3, .text "5"] = .ok ["t_1"] := by
    cases (hint_ofProperties? given filled (unmargined ▸ parse_parities)).symm.trans hintRead
    decide +kernel
  rw [selected] at asComplex asInline
  exact ⟨hint, inline, complex, hintRead, inlineRead, complexRead column, selected,
    asComplex.eq_ok, asInline.eq_ok⟩

end Sharding
