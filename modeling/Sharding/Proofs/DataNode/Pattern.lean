import Mathlib.Data.List.DropRight
import Mathlib.Data.List.TakeDrop
import Sharding.DataNode.Pattern
import Sharding.Proofs.Outcome
import Std.Data.TreeSet.Lemmas

/-!
# Nodes of patterns

Which nodes a pattern stands for: those named by the expansions of its items, item by item and in
the order of each expansion. A pattern is refused if there are none, if an item or a name is not of
the right form, and if a node comes twice. A node is read back from its own text.
-/

set_option autoImplicit false

namespace Sharding

namespace Text

theorem trimChars_trimChars (chars : List Char) :
    trimChars (trimChars chars) = trimChars chars := by
  have started : (trimChars chars).dropWhile isBlank = trimChars chars := by
    rw [List.dropWhile_eq_self_iff]
    intro filled
    have front : trimChars chars <+: chars.dropWhile isBlank :=
      List.rdropWhile_prefix isBlank (chars.dropWhile isBlank)
    have longer := front.length_le
    rw [front.getElem filled]
    exact List.dropWhile_get_zero_not isBlank chars (Nat.lt_of_lt_of_le filled longer)
  change ((trimChars chars).dropWhile isBlank).rdropWhile isBlank = _
  rw [started]
  exact List.rdropWhile_idempotent isBlank _

theorem trim_trim (text : String) : trim (trim text) = trim text := by
  rw [trim, trim, String.toList_ofList, trimChars_trimChars]

end Text

namespace DataNode

/-! ## Texts of nodes -/

/-- A text is, but for blank margins, two names around its only point. -/
structure IsWritten (node : DataNode) (text : String) : Prop where
  trimmed : Text.trim text = node.shown
  dataSource_ne : node.dataSource ≠ ""
  table_ne : node.table ≠ ""
  dataSource_plain : '.' ∉ node.dataSource.toList
  table_plain : '.' ∉ node.table.toList

theorem span_point {left right : List Char} (plain : '.' ∉ left) :
    (left ++ '.' :: right).span (· ≠ '.') = (left, '.' :: right) := by
  have before : ∀ c ∈ left, decide (c ≠ '.') = true := by
    intro c member
    refine decide_eq_true ?_
    rintro rfl
    exact plain member
  rw [List.span_eq_takeWhile_dropWhile, List.takeWhile_append_of_pos before,
    List.dropWhile_append_of_pos before]
  simp

theorem halves?_eq_some_iff {chars left right : List Char} :
    halves? chars = some (left, right) ↔
      chars = left ++ '.' :: right ∧ left ≠ [] ∧ right ≠ [] ∧ '.' ∉ left ∧ '.' ∉ right := by
  constructor
  · intro halved
    unfold halves? at halved
    split at halved
    next head tail next rest spanned =>
      rw [List.span_eq_takeWhile_dropWhile, Prod.mk.injEq] at spanned
      split at halved
      next => cases halved
      next plain =>
        cases halved
        have parts := List.takeWhile_append_dropWhile (p := fun c => decide (c ≠ '.')) (l := chars)
        rw [spanned.2] at parts
        refine ⟨parts.symm, ?_, List.cons_ne_nil _ _, fun inside => ?_, by simpa using plain⟩
        · rw [spanned.1]
          exact List.cons_ne_nil _ _
        · simpa using List.mem_takeWhile_imp inside
    next => cases halved
  · rintro ⟨rfl, leftFilled, rightFilled, leftPlain, rightPlain⟩
    obtain ⟨head, tail, rfl⟩ := List.exists_cons_of_ne_nil leftFilled
    obtain ⟨next, rest, rfl⟩ := List.exists_cons_of_ne_nil rightFilled
    have whole : ((head :: tail) ++ '.' :: next :: rest).span (· ≠ '.') = _ :=
      span_point leftPlain
    unfold halves?
    rw [whole]
    rw [List.span_eq_takeWhile_dropWhile, Prod.mk.injEq] at whole
    have unpointed : ¬ (next :: rest).contains '.' = true := by
      rw [List.contains_iff_mem]
      exact rightPlain
    change (if (next :: rest).contains '.' then none else some _) = _
    rw [if_neg unpointed]
    exact congrArg (fun before => some (before, next :: rest)) whole.1

theorem toList_shown (node : DataNode) :
    node.shown.toList = node.dataSource.toList ++ '.' :: node.table.toList := by
  rw [shown, String.toList_append, String.toList_append, List.append_assoc]
  rfl

theorem parse_eq_ok_iff {text : String} {node : DataNode} :
    parse text = .ok node ↔ node.IsWritten text := by
  constructor
  · intro parsed
    unfold parse at parsed
    dsimp only at parsed
    split at parsed
    next dataSource table halved =>
      cases parsed
      obtain ⟨whole, sourceFilled, tableFilled, sourcePlain, tablePlain⟩ :=
        halves?_eq_some_iff.mp halved
      refine ⟨?_, ?_, ?_, by simpa using sourcePlain, by simpa using tablePlain⟩
      · rw [Text.trim, whole, ← String.toList_inj, String.toList_ofList, toList_shown]
        simp
      · simpa using sourceFilled
      · simpa using tableFilled
    next => cases parsed
  · intro written
    have whole := congrArg String.toList written.trimmed
    rw [Text.trim, String.toList_ofList, toList_shown] at whole
    have halved := halves?_eq_some_iff.mpr ⟨whole,
      by simpa using written.dataSource_ne, by simpa using written.table_ne,
      written.dataSource_plain, written.table_plain⟩
    unfold parse
    simp only [halved, String.ofList_toList]

/-- A node is read back from its own text. -/
theorem IsWritten.parse_shown {text : String} {node : DataNode} (written : node.IsWritten text) :
    parse node.shown = .ok node := by
  refine parse_eq_ok_iff.mpr { written with trimmed := ?_ }
  rw [← written.trimmed]
  exact Text.trim_trim text

/-! ## Collecting nodes -/

instance : Std.TransCmp order :=
  inferInstanceAs (Std.TransCmp (compareLex (compareOn dataSource) (compareOn table)))

instance : Std.LawfulEqCmp order where
  eq_of_compare {left right} same := by
    obtain ⟨sources, tables⟩ := Ordering.then_eq_eq.mp same
    cases left
    cases right
    cases Std.LawfulEqOrd.eq_of_compare sources
    cases Std.LawfulEqOrd.eq_of_compare tables
    rfl

namespace Collected

/-- The collected nodes are the ones that count as seen. -/
def Sound (nodes : Collected) : Prop :=
  ∀ node, nodes.seen.contains node = true ↔ node ∈ nodes.latest

theorem Sound.initial : Sound {} := by
  intro node
  simp

/-- The collected nodes with one more. -/
def add (nodes : Collected) (node : DataNode) : Collected where
  latest := node :: nodes.latest
  seen := nodes.seen.insert node

variable {nodes after : Collected} {pattern name : String}

theorem Sound.add (sound : nodes.Sound) (node : DataNode) : (nodes.add node).Sound := by
  intro other
  rw [Collected.add, Std.TreeSet.contains_insert, Bool.or_eq_true, beq_iff_eq,
    Std.LawfulEqCmp.compare_eq_iff_eq, sound other, List.mem_cons, eq_comm]

theorem add?_eq_some_iff {node : DataNode} (sound : nodes.Sound) :
    nodes.add? node = some after ↔ node ∉ nodes.latest ∧ nodes.add node = after := by
  unfold add?
  split
  next known =>
    rw [sound] at known
    simp [known]
  next fresh =>
    rw [sound] at fresh
    simp [fresh, add]

theorem addName_eq_ok_iff (sound : nodes.Sound) :
    nodes.addName pattern name = .ok after ↔
      ∃ node, parse name = .ok node ∧ node ∉ nodes.latest ∧ nodes.add node = after := by
  unfold addName
  cases parsed : parse name with
  | error fault => simp
  | ok node =>
      simp only [Except.ok.injEq, exists_eq_left']
      rw [← add?_eq_some_iff sound]
      cases nodes.add? node <;> simp

theorem addNames_eq_ok_iff {names : List String} (sound : nodes.Sound) :
    names.foldlM (addName pattern) nodes = .ok after ↔
      ∃ found, List.Forall₂ (fun name node => parse name = .ok node) names found ∧
        found.Nodup ∧ found.Disjoint nodes.latest ∧ found.foldl add nodes = after := by
  induction names generalizing nodes with
  | nil => simp [List.forall₂_nil_left_iff, pure_eq_ok]
  | cons name names ih =>
      rw [List.foldlM_cons, bind_eq_ok]
      constructor
      · rintro ⟨next, added, rest⟩
        obtain ⟨node, parsed, fresh, rfl⟩ := (addName_eq_ok_iff sound).mp added
        obtain ⟨found, all, distinct, apart, rfl⟩ := (ih (sound.add node)).mp rest
        obtain ⟨absent, apart⟩ := List.disjoint_cons_right.mp apart
        exact ⟨node :: found, .cons parsed all, List.nodup_cons.mpr ⟨absent, distinct⟩,
          List.disjoint_cons_left.mpr ⟨fresh, apart⟩, rfl⟩
      · rintro ⟨found, all, distinct, apart, rfl⟩
        cases all with
        | @cons _ node _ found parsed all =>
            obtain ⟨absent, distinct⟩ := List.nodup_cons.mp distinct
            obtain ⟨fresh, apart⟩ := List.disjoint_cons_left.mp apart
            have added : nodes.addName pattern name = .ok (nodes.add node) :=
              (addName_eq_ok_iff sound).mpr ⟨node, parsed, fresh, rfl⟩
            exact ⟨_, added, (ih (sound.add node)).mpr ⟨found, all, distinct,
              List.disjoint_cons_right.mpr ⟨absent, apart⟩, rfl⟩⟩

theorem latest_foldl_add (found : List DataNode) (nodes : Collected) :
    (found.foldl add nodes).latest = found.reverse ++ nodes.latest := by
  induction found generalizing nodes with
  | nil => rfl
  | cons node found ih =>
      rw [List.foldl_cons, ih, add, List.reverse_cons, List.append_assoc]
      rfl

/-- The items of a pattern are walked like the list of all their names. -/
theorem addItems_eq_ok_iff {items : List String} :
    items.foldlM (addItem pattern) nodes = .ok after ↔
      ∃ names, List.Forall₂ (fun item own => expandItem item = .ok own) items names ∧
        names.flatten.foldlM (addName pattern) nodes = .ok after := by
  induction items generalizing nodes with
  | nil => simp [List.forall₂_nil_left_iff]
  | cons item items ih =>
      simp only [List.foldlM_cons, bind_eq_ok, addItem, ih]
      constructor
      · rintro ⟨next, ⟨own, expanded, walked⟩, names, all, rest⟩
        refine ⟨own :: names, .cons expanded all, ?_⟩
        rw [List.flatten_cons, List.foldlM_append]
        exact bind_eq_ok.mpr ⟨next, walked, rest⟩
      · rintro ⟨names, all, walked⟩
        cases all with
        | @cons _ own _ names expanded all =>
            rw [List.flatten_cons, List.foldlM_append] at walked
            obtain ⟨next, first, rest⟩ := bind_eq_ok.mp walked
            exact ⟨next, ⟨own, expanded, first⟩, names, all, rest⟩

end Collected

/-! ## Patterns -/

/-- An item stands for names, in the order of its expansion. -/
def ExpandsTo (item : String) (names : List String) : Prop :=
  ∃ template, Template.parse item = .ok template ∧ template.expand = .ok names

theorem expandItem_eq_ok_iff {item : String} {names : List String} :
    expandItem item = .ok names ↔ ExpandsTo item names := by
  unfold expandItem ExpandsTo
  rw [← bind_eq_ok]
  cases Template.parse item >>= Template.expand <;> simp

/-- A pattern lists nodes: each of its items stands for names, there is at least one name, all
names together are those of the nodes in their order, and no node comes twice. -/
structure Lists (pattern : String) (names : List (List String)) (nodes : List DataNode) : Prop where
  expanded : List.Forall₂ ExpandsTo (Text.items pattern) names
  filled : names.flatten ≠ []
  written : List.Forall₂ (fun name node => node.IsWritten name) names.flatten nodes
  distinct : nodes.Nodup

theorem Lists.ne_nil {pattern : String} {names : List (List String)} {nodes : List DataNode}
    (lists : Lists pattern names nodes) : nodes ≠ [] := by
  rintro rfl
  exact lists.filled (List.forall₂_nil_right_iff.mp lists.written)

theorem expand_eq_ok_iff {pattern : String} {nodes : List DataNode} :
    expand pattern = .ok nodes ↔ ∃ names, Lists pattern names nodes := by
  unfold expand
  simp only [bind_eq_ok, Collected.addItems_eq_ok_iff,
    Collected.addNames_eq_ok_iff Collected.Sound.initial, expandItem_eq_ok_iff, parse_eq_ok_iff]
  constructor
  · rintro ⟨_, ⟨names, expanded, found, written, distinct, _, rfl⟩, finished⟩
    rw [Collected.latest_foldl_add, List.append_nil, List.reverse_reverse] at finished
    split at finished
    next => cases finished
    next filled =>
      cases finished
      refine ⟨names, expanded, ?_, written, distinct⟩
      intro empty
      rw [empty, List.forall₂_nil_left_iff] at written
      rw [written] at filled
      exact filled rfl
  · rintro ⟨names, lists⟩
    refine ⟨_, ⟨names, lists.expanded, nodes, lists.written, lists.distinct, ?_, rfl⟩, ?_⟩
    · exact List.disjoint_nil_right nodes
    · rw [Collected.latest_foldl_add, List.append_nil, List.reverse_reverse, if_neg]
      · rfl
      · simpa using lists.ne_nil

theorem expand_eq_ok {pattern : String} {nodes : List DataNode}
    (expanded : expand pattern = .ok nodes) : nodes ≠ [] ∧ nodes.Nodup := by
  obtain ⟨names, lists⟩ := expand_eq_ok_iff.mp expanded
  exact ⟨lists.ne_nil, lists.distinct⟩

/-- A pattern expands exactly if it lists some distinct nodes, and to those in the order in which
its names come. Every node of an expansion is read back from its own text. -/
theorem patterns_expand_exactly (pattern : String) (nodes : List DataNode) :
    (expand pattern = .ok nodes ↔ ∃ names, Lists pattern names nodes) ∧
      (expand pattern = .ok nodes →
        nodes.Nodup ∧ ∀ node ∈ nodes, parse node.shown = .ok node) := by
  refine ⟨expand_eq_ok_iff, fun expanded => ?_⟩
  obtain ⟨names, lists⟩ := expand_eq_ok_iff.mp expanded
  refine ⟨lists.distinct, fun node member => ?_⟩
  obtain ⟨_, _, written⟩ := exists_left_of_mem lists.written member
  exact written.parse_shown

private def gridPattern : String :=
  "ds_$\x7b0..1\x7d.t_$->\x7b[2, 0]\x7d , , archive.t"

private def gridNodes : List DataNode :=
  [⟨"ds_0", "t_2"⟩, ⟨"ds_0", "t_0"⟩, ⟨"ds_1", "t_2"⟩, ⟨"ds_1", "t_0"⟩, ⟨"archive", "t"⟩]

theorem grid_expands_exactly :
    expand gridPattern = .ok gridNodes ∧ (∃ names, Lists gridPattern names gridNodes) ∧
      gridNodes.Nodup ∧ ∀ node ∈ gridNodes, parse node.shown = .ok node := by
  have expanded : expand gridPattern = .ok gridNodes := by decide +kernel
  have exact := patterns_expand_exactly gridPattern gridNodes
  exact ⟨expanded, exact.1.mp expanded, exact.2 expanded⟩

end DataNode

end Sharding
