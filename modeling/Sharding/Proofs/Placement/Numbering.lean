import Sharding.Placement.Interval
import Sharding.Proofs.Calendar.Distance
import Sharding.Proofs.Placement.Coverage
import Sharding.Proofs.Placement.Suffix

/-!
# Numbered tables

What is found among tables that are laid out by number. The placements by volume and by time give
each value they can read the number of a table that they lay out, and find just that table.
-/

set_option autoImplicit false

namespace Sharding

open scoped Word

/-! ## Names -/

theorem Name.fold_append (left right : String) :
    Name.fold (left ++ right) = Name.fold left ++ Name.fold right := by
  apply String.toList_injective
  simp [Name.fold]

theorem Name.toLower_eq_of_isDigit {c : Char} (digit : c.isDigit = true) : c.toLower = c := by
  refine dif_neg fun upper => ?_
  simp only [Char.isDigit, Bool.and_eq_true, decide_eq_true_eq] at digit
  exact absurd (UInt32.le_trans upper.1 digit.2) (by decide)

namespace Suffix

/-- The name of the table with a number. -/
def numbered (logicTable : String) (number : Nat) : String :=
  logicTable ++ "_" ++ toString number

variable {logicTable name : String} {number first last : Nat} {candidates : List String}

theorem isDigit_of_mem_toDigits {c : Char} (member : c ∈ Nat.toDigits 10 number) :
    c.isDigit = true :=
  Nat.isDigit_of_mem_toDigits (by decide) (by decide) member

/-- Whatever the logic name ends with, the underscore separates it from the number. -/
theorem hasNumber_numbered (logicTable : String) (number : Nat) :
    HasNumber (numbered logicTable number) number := by
  have apart : ∀ c ∈ (logicTable ++ "_").toList.getLast?, ¬ c.isDigit := by simp
  simpa [numbered] using hasNumber_padded apart 0 number

theorem number?_numbered (fits : number ≤ greatest) :
    number? (numbered logicTable number) = some number :=
  number?_eq_some_iff.mpr ⟨hasNumber_numbered logicTable number, fits⟩

theorem fold_toString (number : Nat) : Name.fold (toString number) = toString number := by
  apply String.toList_injective
  rw [Name.fold, String.toList_map, Nat.toString_eq_ofList_toDigits, String.toList_ofList]
  refine (List.map_congr_left fun c member => ?_).trans (List.map_id _)
  exact Name.toLower_eq_of_isDigit (isDigit_of_mem_toDigits member)

theorem eq_of_same_numbered {other : Nat}
    (same : Name.Same (numbered logicTable number) (numbered logicTable other)) :
    number = other := by
  simp only [Name.Same, numbered, Name.fold_append, fold_toString] at same
  exact Nat.repr_injective ((String.append_right_inj _).mp same)

theorem numbered_injective {other : Nat}
    (same : numbered logicTable number = numbered logicTable other) : number = other :=
  eq_of_same_numbered (congrArg Name.fold same)

/-! ## Candidates -/

/-- All candidates are numbered tables of one logic table, with numbers that can be read. -/
def Numbered (logicTable : String) (candidates : List String) : Prop :=
  ∀ candidate ∈ candidates, ∃ number ≤ greatest, candidate = numbered logicTable number

theorem eq_numbered_of_find? (laidOut : Numbered logicTable candidates)
    (look : find? candidates number = some name) :
    name = numbered logicTable number ∧ name ∈ candidates := by
  have member := List.mem_of_find?_eq_some look
  obtain ⟨other, fits, rfl⟩ := laidOut name member
  have read : number? (numbered logicTable other) = some number := number?_of_find? look
  rw [number?_numbered fits, Option.some.injEq] at read
  exact ⟨by rw [read], member⟩

theorem find?_eq_some_iff (laidOut : Numbered logicTable candidates) :
    find? candidates number = some name ↔
      name = numbered logicTable number ∧ name ∈ candidates := by
  refine ⟨eq_numbered_of_find? laidOut, ?_⟩
  rintro ⟨rfl, member⟩
  obtain ⟨other, fits, same⟩ := laidOut _ member
  cases numbered_injective same
  have known : (find? candidates number).isSome :=
    List.find?_isSome.mpr ⟨_, member, decide_eq_true (number?_numbered fits)⟩
  obtain ⟨found, look⟩ := Option.isSome_iff_exists.mp known
  rw [look, (eq_numbered_of_find? laidOut look).1]

theorem mem_findAll_iff :
    name ∈ findAll candidates first last ↔
      ∃ number, first ≤ number ∧ number ≤ last ∧ find? candidates number = some name := by
  refine ⟨fun member => ?_, fun ⟨_, above, below, found⟩ => mem_findAll found above below⟩
  obtain ⟨number, inside, look⟩ := List.mem_filterMap.mp member
  rw [List.mem_range'_1] at inside
  rw [List.find?_map, Option.map_map] at look
  obtain ⟨_, found, rfl⟩ := Option.map_eq_some_iff.mp look
  exact ⟨number, inside.1, by omega, found⟩

/-- What is kept of the candidates are those with the numbers looked for. -/
theorem mem_retain_findAll_iff (laidOut : Numbered logicTable candidates) :
    name ∈ retain candidates (findAll candidates first last) ↔
      name ∈ candidates ∧
        ∃ number, first ≤ number ∧ number ≤ last ∧ name = numbered logicTable number := by
  rw [mem_retain_iff]
  refine and_congr_right fun member => ?_
  constructor
  · rintro ⟨found, foundMember, same⟩
    obtain ⟨number, above, below, look⟩ := mem_findAll_iff.mp foundMember
    obtain ⟨rfl, _⟩ := (find?_eq_some_iff laidOut).mp look
    obtain ⟨other, _, rfl⟩ := laidOut name member
    cases eq_of_same_numbered same
    exact ⟨number, above, below, rfl⟩
  · rintro ⟨number, above, below, rfl⟩
    have look := (find?_eq_some_iff laidOut).mpr ⟨rfl, member⟩
    exact ⟨_, mem_findAll_iff.mpr ⟨number, above, below, look⟩, rfl⟩

theorem findAll_self (candidates : List String) (number : Nat) :
    findAll candidates number number = (find? candidates number).toList := by
  simp only [findAll, Nat.add_sub_cancel_left, List.range'_one, List.find?_map, Option.map_map,
    Function.comp_def, Option.map_id']
  rw [List.filterMap_cons, List.filterMap_nil, find?]
  cases candidates.find? fun candidate => number? candidate = some number <;> rfl

end Suffix

/-! ## Placements -/

namespace Volume

variable {v : Volume} {lower upper : Option Int64}

theorem partitions_le (v : Volume) : v.partitions ≤ 2 ^ (63 : Nat) := by
  have span_lt : v.span < 2 ^ (63 : Nat) := v.fits.2
  have volume_pos := v.volume_pos
  have volume_le : v.volume.toInt ≤ v.span := v.volume_le
  have quotient : v.span / v.volume.toInt ≤ v.span := Int.ediv_le_self _ (by omega)
  unfold partitions
  split <;> omega

/-- The partition at the lower end of a range, the first one at an open end. -/
def firstPartition (v : Volume) (lower : Option Int64) : Nat :=
  (lower.map v.partitionOf).getD 0

/-- The partition at the upper end of a range, the last one at an open end. -/
def lastPartition (v : Volume) (upper : Option Int64) : Nat :=
  (upper.map v.partitionOf).getD (v.partitions + 1)

theorem lastPartition_le (v : Volume) (upper : Option Int64) :
    v.lastPartition upper ≤ v.partitions + 1 := by
  cases upper with
  | none => exact Nat.le_refl _
  | some upper => exact partitionOf_le upper

theorem firstPartition_le (upright : ∀ low ∈ lower, ∀ high ∈ upper, low ≤ high) :
    v.firstPartition lower ≤ v.lastPartition upper := by
  cases lower with
  | none => exact Nat.zero_le _
  | some low =>
      cases upper with
      | none => exact partitionOf_le low
      | some high => exact partitionOf_mono (Int64.le_iff_toInt_le.mp (upright low rfl high rfl))

theorem select_within {candidates : List String} {column : String} {range : ValueRange}
    (bounds : range.integerBounds? = some (lower, upper))
    (upright : ∀ low ∈ lower, ∀ high ∈ upper, low ≤ high) :
    v.placement.select candidates column (.within range) =
      .ok (Suffix.findAll candidates (v.firstPartition lower) (v.lastPartition upper)) := by
  change v.selectWithin candidates column range = _
  simp only [selectWithin, bounds]
  cases lower with
  | none => rfl
  | some low =>
      cases upper with
      | none => rfl
      | some high =>
          have ordered : ¬ high < low := by
            have le := upright low rfl high rfl
            rw [Int64.le_iff_toInt_le] at le
            rw [Int64.lt_iff_toInt_lt]
            omega
          simp only [ordered, decide_false, Bool.false_eq_true, if_false]
          rfl

end Volume

namespace Interval

theorem bucketCount_le (interval : Interval) : interval.bucketCount ≤ 2 ^ (64 : Nat) := by
  have span := Calendar.DateTime.secondsBetween_le interval.lower interval.upper
  have quotient := Nat.div_le_self interval.span interval.seconds.toInt.toNat
  unfold bucketCount
  unfold Interval.span at quotient ⊢
  dsimp only
  split <;> omega

theorem bucketOf_le (interval : Interval) (moment : Calendar.DateTime) :
    interval.bucketOf moment ≤ interval.bucketCount - 1 :=
  Nat.min_le_right _ _

theorem selectEqual_eq_ok {interval : Interval} {value : Value} {moment : Calendar.DateTime}
    (candidates : List String) (column : String) (read : value.toDateTime? = some moment) :
    interval.selectEqual candidates column value =
      .ok (Suffix.find? candidates (interval.bucketOf moment)) := by
  simp only [selectEqual, bucketOfValue, read]
  rfl

end Interval

/-- A placement that lays out numbered tables. -/
inductive Numbering where
  | volume (v : Volume)
  | interval (interval : Interval)

namespace Numbering

def placement : Numbering → StandardPlacement
  | .volume v => v.placement
  | .interval i => i.placement

def count : Numbering → Nat
  | .volume v => v.partitions + 2
  | .interval i => i.bucketCount

/-- The number of the table of a value, if the placement can read the value. -/
def number? : Numbering → Value → Option Nat
  | .volume v, value => value.toInt?.map v.partitionOf
  | .interval i, value => value.toDateTime?.map i.bucketOf

variable {numbering : Numbering} {value : Value} {number : Nat}

theorem tableCount_eq (numbering : Numbering) :
    numbering.placement.tableCount = some numbering.count := by
  cases numbering <;> rfl

theorem count_le (numbering : Numbering) : numbering.count ≤ 2 ^ (64 : Nat) := by
  cases numbering with
  | volume v =>
      have partitions := v.partitions_le
      change v.partitions + 2 ≤ _
      omega
  | interval i => exact i.bucketCount_le

theorem number?_lt (read : numbering.number? value = some number) : number < numbering.count := by
  cases numbering with
  | volume v =>
      obtain ⟨n, _, rfl⟩ := Option.map_eq_some_iff.mp read
      exact Nat.lt_succ_of_le (Volume.partitionOf_le n)
  | interval i =>
      obtain ⟨moment, _, rfl⟩ := Option.map_eq_some_iff.mp read
      have last := i.bucketOf_le moment
      have some : 2 ≤ i.bucketCount := Nat.le_add_left 2 _
      change i.bucketOf moment < i.bucketCount
      omega

theorem select_equal {candidates : List String} {column : String}
    (read : numbering.number? value = some number) :
    numbering.placement.select candidates column (.equal value) =
      .ok (Suffix.findAll candidates number number) := by
  have single : numbering.placement.selectEqual candidates column value =
      .ok (Suffix.find? candidates number) := by
    cases numbering with
    | volume v =>
        obtain ⟨n, known, rfl⟩ := Option.map_eq_some_iff.mp read
        change v.selectEqual candidates column value = _
        rw [Volume.selectEqual, known]
    | interval i =>
        obtain ⟨moment, known, rfl⟩ := Option.map_eq_some_iff.mp read
        exact Interval.selectEqual_eq_ok candidates column known
  rw [Suffix.findAll_self]
  change numbering.placement.selectAmong candidates column [value] = _
  rw [StandardPlacement.selectAmong, List.mapM_cons, single]
  cases Suffix.find? candidates number <;> rfl

end Numbering

end Sharding
