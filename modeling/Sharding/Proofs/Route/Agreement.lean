import Sharding.Proofs.Route.Passes
import Sharding.Proofs.Route.Selection

/-!
# Statements that are routed alike

Two statements, each with its hint, are routed alike if they name the same tables and each table is
told the same in both: whether a condition or a hint reaches it, and which nodes it selects. How
much the two may differ is a leeway, so that one walk through the passes serves statements in other
spellings as well as statements whose conditions are arranged otherwise.
-/

set_option autoImplicit false

namespace Sharding

/-- How far two routes may differ. -/
structure Leeway where
  /-- One name may stand for the other. -/
  spelled : String → String → Prop
  /-- One error may stand for the other. -/
  errors : Error → Error → Prop
  /-- One statement may fail without the other. -/
  torn : Prop
  same {left right : String} (alike : spelled left right) : Name.Same left right
  refl (error : Error) : errors error error
  mismatch {left right : String} (fault : MismatchFault) (alike : spelled left right) :
    errors (.mismatch left fault) (.mismatch right fault)
  noDefault {left right : String} (alike : spelled left right) :
    errors (.noDefault left) (.noDefault right)

namespace Leeway

variable (leeway : Leeway)

def Agree {α β : Type} (results : α → β → Prop) : Except Error α → Except Error β → Prop :=
  Sharding.Agree leeway.torn leeway.errors results

/-- Entries of one kind, of tables that stand for each other. What a rule selects is the same for
both, and a node that is named after its table is so in both. -/
inductive Entries (rule : Rule) : TableRoute → TableRoute → Prop where
  | sharded {left right : String} {nodes : List DataNode} (names : leeway.spelled left right) :
      Entries rule ⟨left, nodes, .sharded⟩ ⟨right, nodes, .sharded⟩
  | binding {left right leftPrimary rightPrimary : String} {nodes : List DataNode}
      (names : leeway.spelled left right) (primaries : leeway.spelled leftPrimary rightPrimary) :
      Entries rule ⟨left, nodes, .binding leftPrimary⟩ ⟨right, nodes, .binding rightPrimary⟩
  | broadcast {left right : String} (names : leeway.spelled left right) :
      Entries rule ⟨left, rule.broadcastNodes left, .broadcast⟩
        ⟨right, rule.broadcastNodes right, .broadcast⟩
  | default {left right dataSource : String} (names : leeway.spelled left right) :
      Entries rule ⟨left, [⟨dataSource, left⟩], .default⟩ ⟨right, [⟨dataSource, right⟩], .default⟩
  | hinted {left right dataSource : String} (names : leeway.spelled left right) :
      Entries rule ⟨left, [⟨dataSource, left⟩], .hinted⟩ ⟨right, [⟨dataSource, right⟩], .hinted⟩

end Leeway

namespace Leeway

def sameNames (errors : Error → Error → Prop) (torn : Prop) (refl : ∀ error, errors error error) :
    Leeway where
  spelled := Eq
  errors := errors
  torn := torn
  same alike := by
    subst alike
    exact .refl _
  refl := refl
  mismatch fault alike := by
    subst alike
    exact refl _
  noDefault alike := by
    subst alike
    exact refl _

theorem eq_of_entries {errors : Error → Error → Prop} {torn : Prop}
    {refl : ∀ error, errors error error} {rule : Rule} {left right : TableRoute}
    (entries : (sameNames errors torn refl).Entries rule left right) : left = right := by
  cases entries with
  | sharded names => cases names; rfl
  | binding names primaries => cases names; cases primaries; rfl
  | broadcast names => cases names; rfl
  | default names => cases names; rfl
  | hinted names => cases names; rfl

end Leeway

/-! ## Selections -/

/-- The same names in whatever order and number, or the choice left open in both. -/
def SelectsSame : Option (List String) → Option (List String) → Prop :=
  Option.Rel fun names others => ∀ name, name ∈ names ↔ name ∈ others

theorem retain_congr {candidates names others : List String}
    (same : ∀ name, name ∈ names ↔ name ∈ others) :
    retain candidates names = retain candidates others := by
  refine List.filter_congr fun candidate _ => ?_
  rw [Bool.eq_iff_iff, List.contains_iff_mem, List.contains_iff_mem, List.mem_map, List.mem_map]
  simp only [same]

namespace Strategy

variable {strategy : Strategy} {table : String} {candidates : List String}
  {lefts rights : List Condition}

/-- What a strategy selects by one alternative, or nothing if the choice is open. -/
def selectedBy (candidates : List String) :
    Strategy → Condition → Except Error (Option (List String))
  | .unsharded, _ => .ok none
  | .hint _ _, _ => .ok none
  | .standard column _ placement, condition => selectColumn column placement candidates condition
  | .complex columns _ placement, condition => selectColumns columns placement candidates condition

theorem selected_conditions (conditions : List Condition) :
    strategy.selected table candidates (.conditions conditions) =
      selectBy (strategy.selectedBy candidates) conditions := by
  cases strategy with
  | unsharded => cases conditions <;> rfl
  | hint algorithm placement => cases conditions <;> rfl
  | standard column algorithm placement => rfl
  | complex columns algorithm placement => rfl

/-- Only which names are selected counts, not in what order or how often. -/
theorem select_agrees_of_selected {torn : Prop} {errors : Error → Error → Prop}
    {left right : Evidence}
    (mapped : ∀ left right, errors left right →
      errors (mismatch table left) (mismatch table right))
    (agree : Agree torn errors SelectsSame (strategy.selected table candidates left)
      (strategy.selected table candidates right)) :
    Agree torn errors Eq (strategy.select table candidates left)
      (strategy.select table candidates right) := by
  rw [select, select]
  generalize strategy.selected table candidates left = first at agree ⊢
  generalize strategy.selected table candidates right = second at agree ⊢
  cases agree with
  | ok related =>
      cases related with
      | none => exact .ok rfl
      | some same => exact .ok (retain_congr same)
  | error related => exact .error (mapped _ _ related)
  | left parted error _ => exact .left parted _ _
  | right parted _ error => exact .right parted _ _

theorem select_agrees {torn : Prop} {errors : Error → Error → Prop}
    (mapped : ∀ left right, errors left right →
      errors (mismatch table left) (mismatch table right))
    (agree : Agree torn errors SelectsSame
      (selectBy (strategy.selectedBy candidates) lefts)
      (selectBy (strategy.selectedBy candidates) rights)) :
    Agree torn errors Eq (strategy.select table candidates (.conditions lefts))
      (strategy.select table candidates (.conditions rights)) := by
  refine select_agrees_of_selected mapped ?_
  rw [selected_conditions, selected_conditions]
  exact agree

theorem select_agrees_of_evidence {torn : Prop} {errors : Error → Error → Prop}
    {evidence : List Condition → Evidence} (refl : ∀ error, errors error error)
    (kind : (∃ values, ∀ conditions, evidence conditions = .hinted values) ∨
      ∀ conditions, evidence conditions = .conditions conditions)
    (agree : (∀ conditions, evidence conditions = .conditions conditions) →
      Agree torn errors Eq (strategy.select table candidates (.conditions lefts))
        (strategy.select table candidates (.conditions rights))) :
    Agree torn errors Eq (strategy.select table candidates (evidence lefts))
      (strategy.select table candidates (evidence rights)) := by
  rcases kind with ⟨values, hinted⟩ | conditioned
  · rw [hinted, hinted]
    exact .of_eq refl rfl
  · rw [conditioned, conditioned]
    exact agree conditioned

end Strategy

namespace TableRule

variable {table : TableRule} {left right : List Condition} {hint : Option Hint}

theorem databaseEvidence_eq (table : TableRule) (hint : Option Hint) :
    (∃ values, ∀ conditions, table.databaseEvidence conditions hint = .hinted values) ∨
      ∀ conditions, table.databaseEvidence conditions hint = .conditions conditions := by
  unfold databaseEvidence
  cases hint with
  | none => exact .inr fun _ => rfl
  | some hint =>
      cases only : hint.databaseOnly with
      | true => exact .inl ⟨hint.unkeyedValues, fun _ => by simp [only]⟩
      | false =>
          cases keyed : hint.databaseValuesFor table.logicTable with
          | nil => exact .inr fun _ => by simp [only, keyed]
          | cons first rest => exact .inl ⟨first :: rest, fun _ => by simp [only, keyed]⟩

theorem tableEvidence_eq (table : TableRule) (hint : Option Hint) :
    (∃ values, ∀ conditions, table.tableEvidence conditions hint = .hinted values) ∨
      ∀ conditions, table.tableEvidence conditions hint = .conditions conditions := by
  unfold tableEvidence
  cases (hint.map fun hint => hint.tableValuesFor table.logicTable).getD [] with
  | nil => exact .inr fun _ => rfl
  | cons first rest => exact .inl ⟨first :: rest, fun _ => rfl⟩

/-- A table selects alike by two lists of conditions if its strategies do wherever they go by
conditions. -/
theorem select_agrees {torn : Prop} {errors : Error → Error → Prop}
    (refl : ∀ error, errors error error)
    (database : (∀ conditions, table.databaseEvidence conditions hint = .conditions conditions) →
      Agree torn errors Eq
        (table.databaseStrategy.select table.logicTable table.dataSources (.conditions left))
        (table.databaseStrategy.select table.logicTable table.dataSources (.conditions right)))
    (own : (∀ conditions, table.tableEvidence conditions hint = .conditions conditions) →
      ∀ chosen, table.databaseStrategy.select table.logicTable table.dataSources
        (table.databaseEvidence left hint) = .ok chosen → ∀ dataSource ∈ chosen,
      Agree torn errors Eq
        (table.tableStrategy.select table.logicTable (table.actualTables dataSource)
          (.conditions left))
        (table.tableStrategy.select table.logicTable (table.actualTables dataSource)
          (.conditions right))) :
    Agree torn errors Eq (table.select left hint) (table.select right hint) := by
  have sources := Strategy.select_agrees_of_evidence refl (table.databaseEvidence_eq hint) database
  refine Agree.bind sources fun chosen _ selected _ same => ?_
  subst same
  have nodes : ∀ dataSource ∈ chosen, Agree torn errors Eq
      (table.selectOn (table.tableEvidence left hint) dataSource)
      (table.selectOn (table.tableEvidence right hint) dataSource) := by
    intro dataSource member
    refine Agree.map (Strategy.select_agrees_of_evidence refl (table.tableEvidence_eq hint)
      fun conditioned => own conditioned chosen selected dataSource member) fun _ _ same => ?_
    rw [same]
  have paired : List.Forall₂ (fun first second => first ∈ chosen ∧ first = second) chosen chosen :=
    (List.forall₂_and_left _ _).mpr ⟨fun _ member => member, List.forall₂_refl chosen⟩
  have walked : Agree torn errors (List.Forall₂ Eq)
      (chosen.mapM (table.selectOn (table.tableEvidence left hint)))
      (chosen.mapM (table.selectOn (table.tableEvidence right hint))) := by
    refine Agree.mapM paired fun first second related => ?_
    obtain ⟨member, rfl⟩ := related
    exact nodes first member
  refine Agree.bind walked fun groups _ _ _ same => ?_
  rw [List.forall₂_eq_eq_eq] at same
  subst same
  exact .of_eq refl rfl

end TableRule

namespace Rule

/-- A table of a statement is routed by its own strategies. -/
structure Chooses (rule : Rule) (statement : Statement) (hint : Option Hint) (name : String)
    (table : TableRule) : Prop where
  free : hint.bind (·.dataSource) = none
  named : name ∈ statement.tableNames
  notBroadcast : rule.isBroadcast name = false
  ruled : rule.table? name = some table
  leads : ¬ ∃ primary, rule.Follows statement hint name primary

theorem Chooses.select_eq_ok {rule : Rule} {statement : Statement} {hint : Option Hint}
    {name : String} {table : TableRule} {route : Route}
    (chooses : rule.Chooses statement hint name table)
    (routed : rule.route statement hint = .ok route) :
    ∃ nodes, table.select (statement.conditionsOn name) hint = .ok nodes := by
  obtain ⟨_, _, arrives⟩ := exists_right_of_mem (arrives_of_route chooses.free routed) chooses.named
  cases arrives with
  | leads leads =>
      cases leads with
      | broadcast broadcast => simp [chooses.notBroadcast] at broadcast
      | default _ unruled _ => simp [chooses.ruled] at unruled
      | sharded _ ruled _ _ selected =>
          rw [chooses.ruled] at ruled
          cases ruled
          exact ⟨_, selected⟩
  | follows _ _ follows => exact absurd ⟨_, follows⟩ chooses.leads

/-- Two statements with their hints tell every table the same. -/
structure Alike (rule : Rule) (leeway : Leeway) (left right : Statement)
    (leftHint rightHint : Option Hint) : Prop where
  named : List.Forall₂ leeway.spelled left.tableNames right.tableNames
  sources : leftHint.bind (·.dataSource) = rightHint.bind (·.dataSource)
  conditioned : ∀ name ∈ left.tableNames,
    (rule.IsConditioned left name ↔ rule.IsConditioned right name)
  hinted : ∀ name ∈ left.tableNames, (IsHinted leftHint name ↔ IsHinted rightHint name)
  selected : ∀ name table, rule.Chooses left leftHint name table →
    leeway.Agree Eq (table.select (left.conditionsOn name) leftHint)
      (table.select (right.conditionsOn name) rightHint)

variable {rule : Rule} {statement left right : Statement} {hint leftHint rightHint : Option Hint}
  {leeway : Leeway} {name other : String}

/-! ## Spellings -/

theorem isConditioned_congr (same : Name.Same name other) :
    rule.IsConditioned statement name ↔ rule.IsConditioned statement other := by
  unfold IsConditioned
  rw [table?_congr same, Statement.conditionsOn_congr same]

theorem isHinted_congr (same : Name.Same name other) :
    IsHinted hint name ↔ IsHinted hint other := by
  unfold IsHinted
  simp only [Hint.reaches_congr same]

theorem groupKey?_congr (same : Name.Same name other) :
    rule.groupKey? name = rule.groupKey? other := by
  unfold groupKey?
  rw [group?_congr same]

theorem follows_iff_any : (∃ primary, rule.Follows statement hint name primary) ↔
    (rule.primary? statement hint name).any (fun primary => ¬ Name.Same primary name) = true := by
  rw [← not_iff_not, not_follows_iff, Bool.not_eq_true]

theorem writeOnly_of_route {route : Route} (routed : rule.route statement hint = .ok route) :
    route.writeOnly = (hint.map (·.writeOnly)).getD false := by
  unfold Rule.route routeTo at routed
  dsimp only at routed
  split at routed
  · split at routed
    · cases routed
      rfl
    · cases routed
  · simp only [bind_eq_ok, pure_eq_ok] at routed
    obtain ⟨_, _, _, _, rfl⟩ := routed
    rfl

theorem isConditioned_iff {table : TableRule} (ruled : rule.table? name = some table) :
    rule.IsConditioned statement name ↔ table.Conditioned (statement.conditionsOn name) := by
  simp [IsConditioned, ruled]

namespace Alike

section

variable (alike : rule.Alike leeway left right leftHint rightHint)
include alike

theorem paired :
    List.Forall₂ (fun name other => name ∈ left.tableNames ∧ leeway.spelled name other)
      left.tableNames right.tableNames :=
  (List.forall₂_and_left _ _).mpr ⟨fun _ member => member, alike.named⟩

theorem isConditioned_iff (member : name ∈ left.tableNames) (spelled : leeway.spelled name other) :
    rule.IsConditioned left name ↔ rule.IsConditioned right other :=
  (alike.conditioned name member).trans (isConditioned_congr (leeway.same spelled))

theorem isHinted_iff (member : name ∈ left.tableNames) (spelled : leeway.spelled name other) :
    IsHinted leftHint name ↔ IsHinted rightHint other :=
  (alike.hinted name member).trans (isHinted_congr (leeway.same spelled))

/-! ## Primaries -/

theorem members (key : String) :
    List.Forall₂ (fun name other => name ∈ left.tableNames ∧ leeway.spelled name other)
      (rule.members left key) (rule.members right key) := by
  refine List.rel_filter (fun name other related => ?_) alike.paired
  have same := leeway.same related.2
  change (_ && _ && _) = true ↔ (_ && _ && _) = true
  rw [isBroadcast_congr same, isSharded, isSharded, table?_congr same, groupKey?_congr same]

theorem primary? (spelled : leeway.spelled name other) :
    Option.Rel (fun name other => name ∈ left.tableNames ∧ leeway.spelled name other)
      (rule.primary? left leftHint name) (rule.primary? right rightHint other) := by
  unfold Rule.primary?
  rw [groupKey?_congr (leeway.same spelled)]
  cases rule.groupKey? other with
  | none => exact .none
  | some key =>
      have members := alike.members key
      have driven : Option.Rel _
          ((rule.members left key).find? fun member => rule.IsDriven left leftHint member)
          ((rule.members right key).find? fun member => rule.IsDriven right rightHint member) :=
        find?_forall₂ members fun _ _ related => decide_eq_decide.mpr
          (or_congr (alike.isConditioned_iff related.1 related.2)
            (alike.isHinted_iff related.1 related.2))
      exact orElse_rel driven (head?_forall₂ members)

theorem follows_iff (spelled : leeway.spelled name other) :
    (∃ primary, rule.Follows left leftHint name primary) ↔
      ∃ primary, rule.Follows right rightHint other primary := by
  have primaries := alike.primary? spelled
  have same := leeway.same spelled
  unfold Follows
  generalize rule.primary? left leftHint name = first at primaries ⊢
  generalize rule.primary? right rightHint other = second at primaries ⊢
  cases primaries with
  | none => simp
  | @some primary otherPrimary related =>
      have samePrimary := leeway.same related.2
      simp only [Option.some.injEq, exists_eq_left']
      refine not_congr ⟨fun before => ?_, fun after => ?_⟩
      · exact samePrimary.symm.trans (before.trans same)
      · exact samePrimary.trans (after.trans same.symm)

theorem chooses {table : TableRule} (chooses : rule.Chooses left leftHint name table)
    (named : other ∈ right.tableNames) (spelled : leeway.spelled name other) :
    rule.Chooses right rightHint other table where
  free := alike.sources ▸ chooses.free
  named := named
  notBroadcast := (isBroadcast_congr (leeway.same spelled)).symm.trans chooses.notBroadcast
  ruled := (table?_congr (leeway.same spelled)).symm.trans chooses.ruled
  leads := fun follows => chooses.leads ((alike.follows_iff spelled).mpr follows)

/-! ## First pass -/

theorem routeSharded {table : TableRule} (chooses : rule.Chooses left leftHint name table)
    (spelled : leeway.spelled name other) :
    leeway.Agree (leeway.Entries rule) (rule.routeSharded left leftHint name table)
      (rule.routeSharded right rightHint other table) := by
  have ruledOther := (table?_congr (leeway.same spelled)).symm.trans chooses.ruled
  have conditioned := alike.isConditioned_iff chooses.named spelled
  rw [Rule.isConditioned_iff chooses.ruled, Rule.isConditioned_iff ruledOther] at conditioned
  have conditions : right.conditionsOn name = right.conditionsOn other :=
    Statement.conditionsOn_congr (leeway.same spelled)
  have selected := alike.selected name table chooses
  rw [conditions] at selected
  unfold Rule.routeSharded
  simp only [conditioned, alike.isHinted_iff chooses.named spelled]
  refine Agree.bind (.of_eq leeway.refl rfl) fun _ _ _ _ _ => selected.map fun _ _ same => ?_
  subst same
  exact .sharded spelled

theorem routeLeading (free : leftHint.bind (·.dataSource) = none)
    (named : name ∈ left.tableNames) (spelled : leeway.spelled name other) :
    leeway.Agree (Option.Rel (leeway.Entries rule)) (rule.routeLeading left leftHint name)
      (rule.routeLeading right rightHint other) := by
  have same := leeway.same spelled
  have follows : (rule.primary? left leftHint name).any (fun primary => ¬ Name.Same primary name) =
      (rule.primary? right rightHint other).any (fun primary => ¬ Name.Same primary other) := by
    rw [Bool.eq_iff_iff, ← follows_iff_any, ← follows_iff_any]
    exact alike.follows_iff spelled
  unfold Rule.routeLeading
  rw [← isBroadcast_congr same, ← table?_congr same, ← follows]
  cases broadcast : rule.isBroadcast name with
  | true => exact .ok (.some (.broadcast spelled))
  | false =>
      cases ruled : rule.table? name with
      | none =>
          refine Agree.map ?_ fun _ _ => .some
          unfold routeDefault
          cases rule.defaultDataSource with
          | none => exact .error (leeway.noDefault spelled)
          | some dataSource => exact .ok (.default spelled)
      | some table =>
          simp only [Bool.false_eq_true, if_false]
          split
          · exact .ok .none
          next leads =>
            have chooses : rule.Chooses left leftHint name table :=
              ⟨free, named, broadcast, ruled, fun led => leads (follows_iff_any.mp led)⟩
            exact (alike.routeSharded chooses spelled).map fun _ _ => .some

/-! ## Second pass -/

/-- Primaries that stand for each other have the same nodes. -/
theorem nodes_eq {nodes otherNodes : List DataNode}
    (free : leftHint.bind (·.dataSource) = none) (named : name ∈ left.tableNames)
    (spelled : leeway.spelled name other)
    (leads : rule.Leads left leftHint name ⟨name, nodes, .sharded⟩)
    (otherLeads : rule.Leads right rightHint other ⟨other, otherNodes, .sharded⟩) :
    nodes = otherNodes := by
  have agree := alike.routeLeading free named spelled
  rw [leads.routeLeading_eq, otherLeads.routeLeading_eq] at agree
  cases Agree.related agree with
  | some related =>
      cases related with
      | sharded _ => rfl

theorem complete {leftSlots rightSlots : List (Option TableRoute)}
    {slot otherSlot : Option TableRoute} (free : leftHint.bind (·.dataSource) = none)
    (named : name ∈ left.tableNames) (spelled : leeway.spelled name other)
    (leftWalked : left.tableNames.mapM (rule.routeLeading left leftHint) = .ok leftSlots)
    (rightWalked : right.tableNames.mapM (rule.routeLeading right rightHint) = .ok rightSlots)
    (routed : rule.routeLeading left leftHint name = .ok slot)
    (otherRouted : rule.routeLeading right rightHint other = .ok otherSlot)
    (slots : Option.Rel (leeway.Entries rule) slot otherSlot) :
    leeway.Agree (leeway.Entries rule)
      (rule.complete left leftHint (leftSlots.filterMap id) (name, slot))
      (rule.complete right rightHint (rightSlots.filterMap id) (other, otherSlot)) := by
  cases slots with
  | some related => exact .ok related
  | none =>
      obtain ⟨primary, table, primaryTable, nodes, ruled, follows, primaryRuled, leads,
        following⟩ := routeFollowing_eq leftWalked routed
      obtain ⟨otherPrimary, otherTable, otherPrimaryTable, otherNodes, otherRuled, otherFollows,
        otherPrimaryRuled, otherLeads, otherFollowing⟩ := routeFollowing_eq rightWalked otherRouted
      have primaries := alike.primary? spelled
      rw [follows.1, otherFollows.1] at primaries
      cases primaries with
      | some primaries =>
          obtain ⟨primaryNamed, primarySpelled⟩ := primaries
          rw [← table?_congr (leeway.same spelled), ruled] at otherRuled
          rw [← table?_congr (leeway.same primarySpelled), primaryRuled] at otherPrimaryRuled
          cases otherRuled
          cases otherPrimaryRuled
          cases alike.nodes_eq free primaryNamed primarySpelled leads otherLeads
          simp only [Rule.complete, following, otherFollowing,
            alike.isConditioned_iff named spelled, alike.isHinted_iff named spelled,
            alike.isConditioned_iff primaryNamed primarySpelled,
            alike.isHinted_iff primaryNamed primarySpelled]
          refine Agree.bind (.of_eq leeway.refl rfl) fun _ _ _ _ _ => ?_
          refine Agree.map (.of_eq leeway.refl rfl) fun _ _ same => ?_
          subst same
          exact .binding spelled primarySpelled

/-! ## Whole routes -/

theorem routeTo (dataSource : String) (leftOnly rightOnly : Bool) :
    leeway.Agree (fun left right => List.Forall₂ (leeway.Entries rule) left.tables right.tables)
      (rule.routeTo left.tableNames dataSource leftOnly)
      (rule.routeTo right.tableNames dataSource rightOnly) := by
  have named := alike.named
  generalize left.tableNames = names at named ⊢
  generalize right.tableNames = others at named ⊢
  unfold Rule.routeTo
  split
  · refine .ok (List.forall₂_map_left_iff.mpr (List.forall₂_map_right_iff.mpr ?_))
    exact named.imp fun _ _ => .hinted
  · refine .error ?_
    cases named with
    | nil => exact leeway.refl _
    | cons spelled _ => exact leeway.mismatch _ spelled

theorem route :
    leeway.Agree (fun left right => List.Forall₂ (leeway.Entries rule) left.tables right.tables)
      (rule.route left leftHint) (rule.route right rightHint) := by
  unfold Rule.route
  rw [← alike.sources]
  cases free : leftHint.bind (·.dataSource) with
  | some dataSource => exact alike.routeTo dataSource _ _
  | none =>
      have walked := Agree.mapM alike.paired fun _ _ related =>
        alike.routeLeading free related.1 related.2
      refine Agree.bind walked fun leftSlots rightSlots leftWalked rightWalked slots => ?_
      have pairs := forall₂_zip alike.paired (mapM_eq_ok_iff.mp leftWalked)
        (mapM_eq_ok_iff.mp rightWalked) slots
      refine Agree.map (Agree.mapM pairs fun first second related => ?_) fun _ _ entries => entries
      obtain ⟨⟨named, spelled⟩, routed, otherRouted, slots⟩ := related
      exact alike.complete free named spelled leftWalked rightWalked routed otherRouted slots

end

variable {errors : Error → Error → Prop} {torn : Prop} {refl : ∀ error, errors error error}

theorem tableNames_eq
    (alike : rule.Alike (.sameNames errors torn refl) left right leftHint rightHint) :
    left.tableNames = right.tableNames := by
  have named : List.Forall₂ Eq left.tableNames right.tableNames := alike.named
  rwa [List.forall₂_eq_eq_eq] at named

/-- With one hint and the names as they are, routes that agree are equal. -/
theorem route_eq (alike : rule.Alike (.sameNames errors torn refl) left right hint hint) :
    Agree torn errors Eq (rule.route left hint) (rule.route right hint) := by
  refine alike.route.imp fun leftRoute rightRoute leftRouted rightRouted entries => ?_
  have tables := entries.imp fun _ _ => Leeway.eq_of_entries
  rw [List.forall₂_eq_eq_eq] at tables
  have writeOnly := (writeOnly_of_route leftRouted).trans (writeOnly_of_route rightRouted).symm
  cases leftRoute
  cases rightRoute
  cases tables
  cases writeOnly
  rfl

end Alike

end Rule

end Sharding
