import Mathlib.Data.List.DropRight
import Mathlib.Data.List.Infix
import Mathlib.Data.List.TakeDrop
import Sharding.Proofs.Text.Margins
import Sharding.Text.Items

/-!
# Items of lists

Where a text is cut into items. The brackets opened and closed since some point of the text say
behind which of its commas: those that no open bracket shelters. A text is one item exactly if all
its commas are sheltered, and items that are joined by commas are found again.
-/

set_option autoImplicit false

namespace Sharding.Text

variable {chars front rest part : List Char} {depth : Nat} {c : Char}

/-! ## Brackets -/

def openings (chars : List Char) : Nat := chars.countP isOpening

def closings (chars : List Char) : Nat := chars.countP isClosing

def isBracket (c : Char) : Bool := isOpening c || isClosing c

/-- With `depth` brackets open before them, the characters close none that is not open. -/
def ClosesWithin (depth : Nat) (chars : List Char) : Prop :=
  ∀ front, front <+: chars → closings front ≤ depth + openings front

/-- Since some point more brackets have been opened than closed. -/
def Sheltered (front : List Char) : Prop :=
  ∃ since, since <:+ front ∧ closings since < openings since

/-- Each comma stands behind a bracket that is still open. -/
def CommasSheltered (chars : List Char) : Prop :=
  ∀ front rest, chars = front ++ ',' :: rest → Sheltered front

@[simp] theorem openings_nil : openings [] = 0 := rfl

@[simp] theorem closings_nil : closings [] = 0 := rfl

@[simp] theorem openings_append : openings (front ++ rest) = openings front + openings rest :=
  List.countP_append

@[simp] theorem closings_append : closings (front ++ rest) = closings front + closings rest :=
  List.countP_append

theorem openings_cons : openings (c :: rest) = openings [c] + openings rest :=
  @openings_append [c] rest

theorem closings_cons : closings (c :: rest) = closings [c] + closings rest :=
  @closings_append [c] rest

theorem isBlank_of_isOpening (opens : isOpening c) : isBlank c = false := by
  simp only [isOpening, Bool.or_eq_true, decide_eq_true_eq] at opens
  rcases opens with (rfl | rfl) | rfl <;> decide

theorem isBlank_of_isClosing (closes : isClosing c) : isBlank c = false := by
  simp only [isClosing, Bool.or_eq_true, decide_eq_true_eq] at closes
  rcases closes with (rfl | rfl) | rfl <;> decide

theorem isBracket_of_isBlank (blank : isBlank c) : isBracket c = false := by
  rw [← Bool.not_eq_true, isBracket, Bool.or_eq_true]
  rintro (opens | closes)
  · exact Bool.false_ne_true ((isBlank_of_isOpening opens).symm.trans blank)
  · exact Bool.false_ne_true ((isBlank_of_isClosing closes).symm.trans blank)

theorem isClosing_of_isOpening (opens : isOpening c) : isClosing c = false := by
  simp only [isOpening, Bool.or_eq_true, decide_eq_true_eq] at opens
  rcases opens with (rfl | rfl) | rfl <;> decide

theorem depthAfter_eq (depth : Nat) (c : Char) :
    depthAfter depth c = depth + openings [c] - closings [c] := by
  cases opens : isOpening c with
  | true => simp [openings, closings, depthAfter, opens, isClosing_of_isOpening opens]
  | false => cases closes : isClosing c <;> simp [openings, closings, depthAfter, opens, closes]

theorem depthAfter_of_isBracket (plain : isBracket c = false) : depthAfter depth c = depth := by
  obtain ⟨opens, closes⟩ := Bool.or_eq_false_iff.mp plain
  simp [depthAfter, opens, closes]

instance : Decidable (ClosesWithin depth chars) :=
  decidable_of_iff (∀ front ∈ chars.inits, closings front ≤ depth + openings front)
    (by simp only [List.mem_inits, ClosesWithin])

theorem closesWithin_nil : ClosesWithin depth [] := by
  intro front member
  rw [List.prefix_nil.mp member]
  exact Nat.zero_le _

theorem ClosesWithin.append {later : Nat} (first : ClosesWithin depth front)
    (second : ClosesWithin later rest)
    (enough : later + closings front ≤ depth + openings front) :
    ClosesWithin depth (front ++ rest) := by
  rintro before ⟨back, same⟩
  rcases List.append_eq_append_iff.mp same with ⟨remaining, rfl, -⟩ | ⟨beyond, rfl, rfl⟩
  · exact first before (List.prefix_append before remaining)
  · have bound := second beyond (List.prefix_append beyond back)
    rw [openings_append, closings_append]
    omega

theorem ClosesWithin.of_cons (within : ClosesWithin depth (c :: rest)) :
    ClosesWithin (depthAfter depth c) rest := by
  intro front member
  have first := within [c] (by simp)
  have longer := within (c :: front) (List.cons_prefix_cons.mpr ⟨rfl, member⟩)
  rw [openings_cons, closings_cons] at longer
  rw [depthAfter_eq]
  omega

theorem closesWithin_cons_iff : ClosesWithin depth (c :: rest) ↔
    closings [c] ≤ depth + openings [c] ∧ ClosesWithin (depthAfter depth c) rest := by
  refine ⟨fun within => ⟨within [c] (by simp), within.of_cons⟩, ?_⟩
  rintro ⟨first, later⟩ front member
  rcases List.prefix_cons_iff.mp member with rfl | ⟨front, rfl, short⟩
  · exact Nat.zero_le _
  · have longer := later front short
    rw [depthAfter_eq] at longer
    rw [openings_cons, closings_cons]
    omega

theorem closesWithin_filter_iff :
    ClosesWithin depth (chars.filter isBracket) ↔ ClosesWithin depth chars := by
  induction chars generalizing depth with
  | nil => rfl
  | cons c rest ih =>
      cases bracket : isBracket c with
      | true =>
          rw [List.filter_cons_of_pos bracket, closesWithin_cons_iff, closesWithin_cons_iff, ih]
      | false =>
          have none : closings [c] = 0 := by simp [closings, (Bool.or_eq_false_iff.mp bracket).2]
          rw [List.filter_cons_of_neg (by simp [bracket]), ih, closesWithin_cons_iff,
            depthAfter_of_isBracket bracket, none, and_iff_right (Nat.zero_le _)]

theorem ClosesWithin.enclosed {last : Char} (opens : isOpening c) (closes : isClosing last)
    (within : ClosesWithin 0 chars) : ClosesWithin 0 (c :: (chars ++ [last])) := by
  have inside : ClosesWithin 1 chars := fun front member => by
    have bound := within front member
    omega
  have balance := within chars List.prefix_rfl
  have closing : ClosesWithin 1 [last] := by
    refine closesWithin_cons_iff.mpr ⟨?_, closesWithin_nil⟩
    simp [closings, closes]
  have deeper : depthAfter 0 c = 1 := if_pos opens
  refine closesWithin_cons_iff.mpr ⟨?_, deeper ▸ inside.append closing (by omega)⟩
  rw [depthAfter_eq] at deeper
  omega

/-! ## Depths -/

def depthFrom (depth : Nat) (chars : List Char) : Nat := chars.foldl depthAfter depth

@[simp] theorem depthFrom_nil : depthFrom depth [] = depth := rfl

@[simp] theorem depthFrom_cons :
    depthFrom depth (c :: rest) = depthFrom (depthAfter depth c) rest := rfl

@[simp] theorem depthFrom_append :
    depthFrom depth (front ++ rest) = depthFrom (depthFrom depth front) rest :=
  List.foldl_append

/-- A bracket that closes nothing is not counted, so the depth may be greater than the brackets
tell. -/
theorem depth_add_openings_le (depth : Nat) (chars : List Char) :
    depth + openings chars ≤ depthFrom depth chars + closings chars := by
  induction chars generalizing depth with
  | nil => simp
  | cons c rest ih =>
      have later := ih (depthAfter depth c)
      have level := depthAfter_eq depth c
      rw [depthFrom_cons, openings_cons, closings_cons]
      omega

theorem depthFrom_add_closings (within : ClosesWithin depth chars) :
    depthFrom depth chars + closings chars = depth + openings chars := by
  induction chars generalizing depth with
  | nil => simp
  | cons c rest ih =>
      have first := within [c] (by simp)
      have later := ih within.of_cons
      have level := depthAfter_eq depth c
      rw [depthFrom_cons, openings_cons, closings_cons]
      omega

/-- The depth is what has been opened and not closed since some point: the last one at which no
bracket was open, or the start. -/
theorem exists_since (chars : List Char) :
    ∃ since, since <:+ chars ∧ openings since = depthFrom 0 chars + closings since := by
  induction chars using List.reverseRecOn with
  | nil => exact ⟨[], List.suffix_rfl, rfl⟩
  | append_singleton front c ih =>
      obtain ⟨since, later, surplus⟩ := ih
      have longer : since ++ [c] <:+ front ++ [c] :=
        List.suffix_concat_iff.mpr (.inr ⟨since, rfl, later⟩)
      rw [depthFrom_append, depthFrom_cons, depthFrom_nil, depthAfter_eq]
      by_cases closesOpen : closings [c] ≤ depthFrom 0 front + openings [c]
      · refine ⟨since ++ [c], longer, ?_⟩
        rw [openings_append, closings_append]
        omega
      · refine ⟨[], List.nil_suffix, ?_⟩
        rw [openings_nil, closings_nil]
        omega

theorem sheltered_iff : Sheltered front ↔ 0 < depthFrom 0 front := by
  constructor
  · rintro ⟨since, ⟨before, rfl⟩, opened⟩
    have bound := depth_add_openings_le (depthFrom 0 before) since
    rw [depthFrom_append]
    omega
  · intro deep
    obtain ⟨since, later, surplus⟩ := exists_since front
    exact ⟨since, later, by omega⟩

theorem depthFrom_of_isBlank (blank : ∀ c ∈ chars, isBlank c) : depthFrom depth chars = depth := by
  induction chars with
  | nil => rfl
  | cons c rest ih =>
      obtain ⟨first, others⟩ := List.forall_mem_cons.mp blank
      rw [depthFrom_cons, depthAfter_of_isBracket (isBracket_of_isBlank first), ih others]

theorem CommasSheltered.of_notMem (none : ',' ∉ chars) : CommasSheltered chars := by
  rintro front rest rfl
  exact absurd (List.mem_append_right front List.mem_cons_self) none

/-- Shelter is kept whatever stands in front. -/
theorem CommasSheltered.append (first : CommasSheltered front) (second : CommasSheltered rest) :
    CommasSheltered (front ++ rest) := by
  intro before after same
  rcases List.append_eq_append_iff.mp same with ⟨beyond, rfl, inside⟩ | ⟨remaining, whole, inside⟩
  · obtain ⟨since, later, opened⟩ := second beyond after inside
    exact ⟨since, later.trans (List.suffix_append front beyond), opened⟩
  · cases remaining with
    | nil =>
        obtain ⟨since, later, opened⟩ := second [] after inside.symm
        rw [List.suffix_nil.mp later] at opened
        exact absurd opened (Nat.lt_irrefl 0)
    | cons c remaining =>
        cases inside
        exact first before remaining whole

/-! ## Cuts -/

/-- A text whose commas are all behind open brackets is not cut. -/
theorem cutItems_of_deep
    (deep : ∀ front rest, chars = front ++ ',' :: rest → 0 < depthFrom depth front) :
    cutItems depth part chars = [part.reverse ++ chars] := by
  induction chars generalizing depth part with
  | nil => rw [cutItems, List.append_nil]
  | cons c rest ih =>
      have uncut : ¬ (decide (c = ',') && decide (depth = 0)) = true := by
        intro cut
        simp only [Bool.and_eq_true, decide_eq_true_eq] at cut
        obtain ⟨rfl, level⟩ := cut
        have positive := deep [] rest rfl
        rw [depthFrom_nil] at positive
        omega
      rw [cutItems, if_neg uncut, ih, List.reverse_cons, List.append_assoc, List.singleton_append]
      rintro front back rfl
      exact deep (c :: front) back rfl

/-- A comma behind which no bracket is open is a cut, whatever stands on its sides. -/
theorem cutItems_append_comma (level : depthFrom depth front = 0) :
    cutItems depth part (front ++ ',' :: rest) =
      cutItems depth part front ++ cutItems 0 [] rest := by
  induction front generalizing depth part with
  | nil =>
      rw [depthFrom_nil] at level
      subst level
      rfl
  | cons c front ih =>
      rw [List.cons_append, cutItems, cutItems]
      split
      next cut =>
        simp only [Bool.and_eq_true, decide_eq_true_eq] at cut
        obtain ⟨rfl, rfl⟩ := cut
        exact congrArg (part.reverse :: ·) (ih level)
      next uncut => exact ih level

theorem items_append_comma (level : depthFrom 0 front = 0) :
    items (String.ofList (front ++ ',' :: rest)) =
      items (String.ofList front) ++ items (String.ofList rest) := by
  simp only [items, String.toList_ofList, cutItems_append_comma level, List.map_append,
    List.filter_append]

/-! ## One item -/

theorem items_of_commasSheltered (sheltered : CommasSheltered chars) :
    items (String.ofList chars) =
      if trimChars chars = [] then [] else [String.ofList (trimChars chars)] := by
  have whole : cutItems 0 [] chars = [chars] :=
    cutItems_of_deep fun front rest same => sheltered_iff.mp (sheltered front rest same)
  cases trimmed : trimChars chars with
  | nil => simp [items, whole, trimmed]
  | cons => simp [items, whole, trimmed]

theorem count_flatten_cutItems_le (c : Char) (depth : Nat) (part chars : List Char) :
    (cutItems depth part chars).flatten.count c ≤ part.count c + chars.count c := by
  induction chars generalizing depth part with
  | nil => simp [cutItems]
  | cons d rest ih =>
      rw [cutItems]
      split
      next =>
        have later := ih 0 []
        rw [List.count_nil] at later
        rw [List.flatten_cons, List.count_append, List.count_reverse, List.count_cons]
        omega
      next =>
        have later := ih (depthAfter depth d) (d :: part)
        rw [List.count_cons] at later ⊢
        omega

theorem count_items_le (filled : isBlank c = false) :
    ((items (String.ofList chars)).map String.toList).flatten.count c ≤ chars.count c := by
  have kept := count_flatten_cutItems_le c 0 [] chars
  simpa [items, Function.comp_def, List.flatten_filter_not_isEmpty, List.count_flatten,
    count_trimChars filled] using kept

/-- A text is one item exactly if it is not blank and all its commas are sheltered. -/
theorem items_eq_singleton_iff : items (String.ofList chars) = [String.ofList (trimChars chars)] ↔
    trimChars chars ≠ [] ∧ CommasSheltered chars := by
  constructor
  · intro single
    refine ⟨fun blank => ?_, fun front rest same => sheltered_iff.mpr ?_⟩
    · have member : String.ofList (trimChars chars) ∈ items (String.ofList chars) := by
        rw [single]
        exact List.mem_singleton_self _
      rw [blank] at member
      simp [items] at member
    · subst same
      by_contra level
      rw [items_append_comma (Nat.eq_zero_of_not_pos level)] at single
      have total := congrArg (fun found => (found.map String.toList).flatten.count ',') single
      have comma : isBlank ',' = false := by decide
      simp only [List.map_append, List.flatten_append, List.count_append, List.map_singleton,
        List.flatten_singleton, String.toList_ofList, count_trimChars comma, List.count_cons_self]
        at total
      have first : _ ≤ front.count ',' := count_items_le comma
      have second : _ ≤ rest.count ',' := count_items_le comma
      omega
  · rintro ⟨filled, sheltered⟩
    rw [items_of_commasSheltered sheltered, if_neg filled]

/-! ## Items joined by commas -/

/-- An item that can stand in a list: it is filled and has no blank margins, closes its brackets
and no others, and has commas only inside them. -/
structure IsItem (content : List Char) : Prop where
  filled : content ≠ []
  trimmed : trimChars content = content
  closesOwn : ClosesWithin 0 content
  closesAll : closings content = openings content
  commasInside : ∀ front rest, content = front ++ ',' :: rest → closings front < openings front

instance {content : List Char} : Decidable (IsItem content) :=
  decidable_of_iff (content ≠ [] ∧ trimChars content = content ∧ ClosesWithin 0 content ∧
      closings content = openings content ∧
      ∀ front ∈ content.inits, front ++ [','] <+: content → closings front < openings front) <| by
    constructor
    · rintro ⟨filled, trimmed, closesOwn, closesAll, inside⟩
      refine ⟨filled, trimmed, closesOwn, closesAll, ?_⟩
      rintro front rest rfl
      exact inside front (by simp) (by simp)
    · intro item
      refine ⟨item.filled, item.trimmed, item.closesOwn, item.closesAll, ?_⟩
      rintro front - ⟨rest, rfl⟩
      exact item.commasInside front rest (by simp)

theorem IsItem.depthFrom_eq_zero (item : IsItem chars) : depthFrom 0 chars = 0 := by
  have total := depthFrom_add_closings item.closesOwn
  have balanced := item.closesAll
  omega

theorem IsItem.commasSheltered (item : IsItem chars) : CommasSheltered chars :=
  fun front rest same => ⟨front, List.suffix_rfl, item.commasInside front rest same⟩

/-- What stands between commas: an item, or nothing, with blanks around it. -/
structure Slot where
  before : List Char
  content : Option (List Char)
  after : List Char

def Slot.written (slot : Slot) : List Char :=
  slot.before ++ slot.content.getD [] ++ slot.after

namespace Slot

variable {slot : Slot}

section Margins

variable (margins : ∀ c ∈ slot.before ++ slot.after, isBlank c)
  (valid : ∀ content ∈ slot.content, IsItem content)

include margins valid

theorem depthFrom_written : depthFrom 0 slot.written = 0 := by
  obtain ⟨leading, trailing⟩ := List.forall_mem_append.mp margins
  have level : depthFrom 0 (slot.content.getD []) = 0 := by
    cases held : slot.content with
    | none => rfl
    | some content => exact (valid content held).depthFrom_eq_zero
  rw [written, depthFrom_append, depthFrom_append, depthFrom_of_isBlank leading, level,
    depthFrom_of_isBlank trailing]

theorem items_written :
    items (String.ofList slot.written) = slot.content.toList.map String.ofList := by
  obtain ⟨leading, trailing⟩ := List.forall_mem_append.mp margins
  have plain : ∀ {blanks : List Char}, (∀ c ∈ blanks, isBlank c) → CommasSheltered blanks :=
    fun blank => .of_notMem fun member => Bool.false_ne_true (blank ',' member)
  have sheltered : CommasSheltered (slot.content.getD []) := by
    cases held : slot.content with
    | none => exact .of_notMem (List.not_mem_nil)
    | some content => exact (valid content held).commasSheltered
  have whole := ((plain leading).append sheltered).append (plain trailing)
  rw [written, items_of_commasSheltered whole, trimChars_of_margins leading trailing]
  cases held : slot.content with
  | none => rfl
  | some content =>
      have item := valid content held
      simp [item.trimmed, item.filled]

end Margins

end Slot

theorem items_of_slots {slots : List Slot}
    (margins : ∀ slot ∈ slots, ∀ c ∈ slot.before ++ slot.after, isBlank c)
    (valid : ∀ slot ∈ slots, ∀ content ∈ slot.content, IsItem content) :
    items (String.ofList ([','].intercalate (slots.map Slot.written))) =
      (slots.filterMap Slot.content).map String.ofList := by
  induction slots with
  | nil => rfl
  | cons slot slots ih =>
      obtain ⟨blank, blanks⟩ := List.forall_mem_cons.mp margins
      obtain ⟨own, others⟩ := List.forall_mem_cons.mp valid
      have first := Slot.items_written blank own
      rw [List.filterMap_eq_flatMap_toList, List.flatMap_cons, List.map_append, ← first,
        ← List.filterMap_eq_flatMap_toList, ← ih blanks others, List.map_cons]
      cases slots with
      | nil =>
          rw [List.map_nil, List.intercalate_singleton]
          exact (List.append_nil _).symm
      | cons next slots =>
          rw [List.map_cons, List.intercalate_cons_cons, List.append_assoc, List.singleton_append,
            items_append_comma (Slot.depthFrom_written blank own)]

/-- Items joined by commas are the items that are read, whatever blanks stand around the commas and
however many blank items between them. -/
theorem joined_items_are_read (contents : List (List Char))
    (valid : ∀ content ∈ contents, IsItem content) (slots : List Slot)
    (holding : slots.filterMap Slot.content = contents)
    (margins : ∀ slot ∈ slots, ∀ c ∈ slot.before ++ slot.after, isBlank c) :
    items (String.ofList ([','].intercalate (slots.map Slot.written))) =
      contents.map String.ofList := by
  subst holding
  exact items_of_slots margins fun slot member content held =>
    valid content (List.mem_filterMap.mpr ⟨slot, member, held⟩)

private def sparseSlots : List Slot :=
  [⟨[' '], some "t_$->\x7b[0, '()']\x7d".toList, []⟩, ⟨['\t'], none, ['\n']⟩,
    ⟨[], some "f([a, b\x7d, c)".toList, [' ']⟩, ⟨[], none, []⟩]

private def pairContents : List (List Char) :=
  ["t_$->\x7b[0, '()']\x7d".toList, "f([a, b\x7d, c)".toList]

theorem sparse_items_are_read :
    (∀ content ∈ pairContents, IsItem content) ∧
      items " t_$->\x7b[0, '()']\x7d,\t\n,f([a, b\x7d, c) ," =
        ["t_$->\x7b[0, '()']\x7d", "f([a, b\x7d, c)"] := by
  have valid : ∀ content ∈ pairContents, IsItem content := by decide +kernel
  have margins : sparseSlots.all fun slot => (slot.before ++ slot.after).all isBlank := by
    decide +kernel
  have read := joined_items_are_read pairContents valid sparseSlots rfl fun slot member =>
    List.all_eq_true.mp (List.all_eq_true.mp margins slot member)
  exact ⟨valid, read⟩

end Sharding.Text
