/-!
# Maps from names

Finite maps with text keys, held as entries in strictly increasing key order. Two maps with the
same entries are equal, and listing a map lists it in key order.
-/

set_option autoImplicit false

namespace Sharding

universe u v

/-- Entries in strictly increasing key order, so no key occurs twice. -/
structure NameMap (α : Type u) where
  entries : List (String × α)
  sorted : entries.Pairwise fun left right => left.1 < right.1

namespace NameMap

variable {α : Type u} {β : Type v}

@[ext] theorem ext {left right : NameMap α} (h : left.entries = right.entries) : left = right := by
  cases left; cases right; cases h; rfl

instance [DecidableEq α] : DecidableEq (NameMap α) := fun left right =>
  decidable_of_iff (left.entries = right.entries) ⟨ext, fun h => h ▸ rfl⟩

def empty : NameMap α := ⟨[], .nil⟩

instance : Inhabited (NameMap α) := ⟨empty⟩

instance : EmptyCollection (NameMap α) := ⟨empty⟩

def isEmpty (map : NameMap α) : Bool :=
  map.entries.isEmpty

def lookup (key : String) : List (String × α) → Option α
  | [] => none
  | (other, value) :: rest => if other = key then some value else lookup key rest

def get? (map : NameMap α) (key : String) : Option α :=
  lookup key map.entries

def contains (map : NameMap α) (key : String) : Bool :=
  (map.get? key).isSome

/-- Puts an entry at its place, over an entry with the same key. -/
def place (key : String) (value : α) : List (String × α) → List (String × α)
  | [] => [(key, value)]
  | (other, old) :: rest =>
    if key < other then (key, value) :: (other, old) :: rest
    else if key = other then (key, value) :: rest
    else (other, old) :: place key value rest

theorem mem_place {key : String} {value : α} {entry : String × α} {entries : List (String × α)}
    (h : entry ∈ place key value entries) : entry = (key, value) ∨ entry ∈ entries := by
  induction entries with
  | nil => exact .inl (List.mem_singleton.1 h)
  | cons head rest ih =>
    obtain ⟨other, old⟩ := head
    rw [place] at h
    split at h
    · exact (List.mem_cons.1 h).imp id id
    · split at h
      · exact (List.mem_cons.1 h).imp id (List.mem_cons_of_mem _)
      · rcases List.mem_cons.1 h with rfl | h
        · exact .inr List.mem_cons_self
        · exact (ih h).imp id (List.mem_cons_of_mem _)

theorem sorted_place (key : String) (value : α) {entries : List (String × α)}
    (sorted : entries.Pairwise fun left right => left.1 < right.1) :
    (place key value entries).Pairwise fun left right => left.1 < right.1 := by
  induction entries with
  | nil => exact List.pairwise_singleton _ _
  | cons head rest ih =>
    obtain ⟨other, old⟩ := head
    obtain ⟨below, rest_sorted⟩ := List.pairwise_cons.1 sorted
    rw [place]
    split
    next less =>
      refine List.pairwise_cons.2 ⟨fun entry member => ?_, sorted⟩
      rcases List.mem_cons.1 member with rfl | member
      · exact less
      · exact String.lt_trans less (below entry member)
    next not_less =>
      split
      next same =>
        subst same
        exact List.pairwise_cons.2 ⟨below, rest_sorted⟩
      next different =>
        refine List.pairwise_cons.2 ⟨fun entry member => ?_, ih rest_sorted⟩
        rcases mem_place member with rfl | member
        · exact Std.lt_of_le_of_ne (String.not_lt.1 not_less) (fun h => different h.symm)
        · exact below entry member

def insert (map : NameMap α) (key : String) (value : α) : NameMap α :=
  ⟨place key value map.entries, sorted_place key value map.sorted⟩

def erase (map : NameMap α) (key : String) : NameMap α :=
  ⟨map.entries.filter fun entry => entry.1 ≠ key, map.sorted.filter _⟩

/-- The map of a list of entries. Of two entries with one key the later counts. -/
def ofList (entries : List (String × α)) : NameMap α :=
  entries.foldl (fun map entry => map.insert entry.1 entry.2) empty

def keys (map : NameMap α) : List String :=
  map.entries.map Prod.fst

def values (map : NameMap α) : List α :=
  map.entries.map Prod.snd

def size (map : NameMap α) : Nat :=
  map.entries.length

def map (f : α → β) (entries : NameMap α) : NameMap β :=
  ⟨entries.entries.map fun entry => (entry.1, f entry.2), List.pairwise_map.2 entries.sorted⟩

theorem lookup_place_self (key : String) (value : α) (entries : List (String × α)) :
    lookup key (place key value entries) = some value := by
  induction entries with
  | nil => simp [place, lookup]
  | cons head rest ih =>
    obtain ⟨other, old⟩ := head
    rw [place]
    split
    next => simp [lookup]
    next not_less =>
      split
      next => simp [lookup]
      next different => simp [lookup, ih, Ne.symm different]

theorem lookup_place_of_ne {key other : String} (value : α) (entries : List (String × α))
    (different : other ≠ key) : lookup other (place key value entries) = lookup other entries := by
  induction entries with
  | nil => simp [place, lookup, different.symm]
  | cons head rest ih =>
    obtain ⟨first, old⟩ := head
    rw [place]
    split
    next => simp [lookup, different.symm]
    next not_less =>
      split
      next same => subst same; simp [lookup, different.symm]
      next => by_cases h : first = other <;> simp [lookup, h, ih]

@[simp] theorem get?_insert_self (map : NameMap α) (key : String) (value : α) :
    (map.insert key value).get? key = some value :=
  lookup_place_self key value map.entries

theorem get?_insert_of_ne (map : NameMap α) {key other : String} (value : α)
    (different : other ≠ key) : (map.insert key value).get? other = map.get? other :=
  lookup_place_of_ne value map.entries different

theorem get?_insert (map : NameMap α) (key other : String) (value : α) :
    (map.insert key value).get? other = if other = key then some value else map.get? other := by
  split
  next same => rw [same, get?_insert_self]
  next different => exact get?_insert_of_ne map value different

theorem lookup_filter_ne (key other : String) (entries : List (String × α)) :
    lookup other (entries.filter fun entry => entry.1 ≠ key) =
      if other = key then none else lookup other entries := by
  induction entries with
  | nil => simp [lookup]
  | cons head rest ih =>
    obtain ⟨first, value⟩ := head
    by_cases dropped : first = key
    · subst dropped
      rw [List.filter_cons_of_neg (by simp), ih, lookup]
      split
      next => rfl
      next different => rw [if_neg (Ne.symm different)]
    · rw [List.filter_cons_of_pos (by simpa using dropped), lookup, lookup, ih]
      by_cases found : first = other
      · subst found
        simp [dropped]
      · simp [found]

theorem get?_erase (map : NameMap α) (key other : String) :
    (map.erase key).get? other = if other = key then none else map.get? other :=
  lookup_filter_ne key other map.entries

theorem isEmpty_iff {map : NameMap α} : map.isEmpty = true ↔ ∀ key, map.get? key = none := by
  constructor
  · intro empty key
    rw [get?, List.isEmpty_iff.mp empty]
    rfl
  · intro absent
    cases entries : map.entries with
    | nil => rw [isEmpty, entries]; rfl
    | cons entry rest =>
        have first := absent entry.1
        simp [get?, entries, lookup] at first

theorem get?_foldl_insert {map : NameMap α} {entries : List (String × α)} {key : String}
    {value : α}
    (found : (entries.foldl (fun map entry => map.insert entry.1 entry.2) map).get? key =
      some value) : (key, value) ∈ entries ∨ map.get? key = some value := by
  induction entries generalizing map with
  | nil => exact .inr found
  | cons entry entries ih =>
    rcases ih found with member | before
    · exact .inl (List.mem_cons_of_mem _ member)
    · rw [get?_insert] at before
      split at before
      next same =>
        cases before
        exact .inl (List.mem_cons.2 (.inl (by rw [same])))
      next => exact .inr before

theorem isSome_get?_foldl_insert {map : NameMap α} {entries : List (String × α)} {key : String}
    (known : key ∈ entries.map Prod.fst ∨ (map.get? key).isSome) :
    ((entries.foldl (fun map entry => map.insert entry.1 entry.2) map).get? key).isSome := by
  induction entries generalizing map with
  | nil => exact known.resolve_left List.not_mem_nil
  | cons entry entries ih =>
    refine ih ?_
    rw [get?_insert]
    rcases known with member | before
    · rcases List.mem_cons.1 member with same | member
      · exact .inr (by rw [if_pos same]; rfl)
      · exact .inl member
    · split
      · exact .inr rfl
      · exact .inr before

theorem get?_foldl_insert_of_nodup {map : NameMap α} {entries : List (String × α)} {key : String}
    {value : α} (distinct : (entries.map Prod.fst).Nodup) (member : (key, value) ∈ entries) :
    (entries.foldl (fun map entry => map.insert entry.1 entry.2) map).get? key = some value := by
  induction entries generalizing map with
  | nil => cases member
  | cons entry entries ih =>
    obtain ⟨fresh, distinct⟩ := List.nodup_cons.1 distinct
    rcases List.mem_cons.1 member with rfl | member
    · have kept : ((entries.foldl (fun map entry => map.insert entry.1 entry.2)
          (map.insert key value)).get? key).isSome :=
        isSome_get?_foldl_insert (.inr (by rw [get?_insert_self]; rfl))
      obtain ⟨other, found⟩ := Option.isSome_iff_exists.1 kept
      rcases get?_foldl_insert found with later | own
      · exact absurd (List.mem_map_of_mem later) fresh
      · rw [get?_insert_self] at own
        rw [List.foldl_cons, found, ← own]
    · exact ih distinct member

theorem isSome_get?_ofList {entries : List (String × α)} {key : String}
    (member : key ∈ entries.map Prod.fst) : ((ofList entries).get? key).isSome :=
  isSome_get?_foldl_insert (.inl member)

/-- If no key occurs twice, every entry of a list is found in its map. -/
theorem get?_ofList_of_nodup {entries : List (String × α)} {key : String} {value : α}
    (distinct : (entries.map Prod.fst).Nodup) (member : (key, value) ∈ entries) :
    (ofList entries).get? key = some value :=
  get?_foldl_insert_of_nodup distinct member

theorem mem_of_lookup {entries : List (String × α)} {key : String} {value : α}
    (found : lookup key entries = some value) : (key, value) ∈ entries := by
  induction entries with
  | nil => cases found
  | cons entry entries ih =>
    obtain ⟨other, old⟩ := entry
    rw [lookup] at found
    split at found
    next same =>
      cases found
      exact List.mem_cons.2 (.inl (by rw [same]))
    next => exact List.mem_cons_of_mem _ (ih found)

theorem mem_of_get? {map : NameMap α} {key : String} {value : α}
    (found : map.get? key = some value) : (key, value) ∈ map.entries :=
  mem_of_lookup found

theorem mem_of_get?_ofList {entries : List (String × α)} {key : String} {value : α}
    (found : (ofList entries).get? key = some value) : (key, value) ∈ entries :=
  (get?_foldl_insert found).resolve_right fun absent => by cases absent

/-! ## Lists of entries -/

theorem place_perm {key : String} {entries : List (String × α)} (value : α)
    (fresh : key ∉ entries.map Prod.fst) :
    (place key value entries).Perm ((key, value) :: entries) := by
  induction entries with
  | nil => exact .refl _
  | cons entry entries ih =>
    obtain ⟨other, old⟩ := entry
    obtain ⟨different, fresh⟩ := not_or.1 (mt List.mem_cons.2 fresh)
    rw [place, if_neg different]
    split
    next => exact .refl _
    next => exact ((ih fresh).cons _).trans (.swap _ _ _)

theorem entries_foldl_insert_perm {map : NameMap α} {entries : List (String × α)}
    (distinct : (map.keys ++ entries.map Prod.fst).Nodup) :
    (entries.foldl (fun map entry => map.insert entry.1 entry.2) map).entries.Perm
      (map.entries ++ entries) := by
  induction entries generalizing map with
  | nil => rw [List.append_nil]; exact .refl _
  | cons entry entries ih =>
    have fresh : entry.1 ∉ map.keys := fun member =>
      (List.nodup_append.1 distinct).2.2 _ member _ List.mem_cons_self rfl
    have placed : (map.insert entry.1 entry.2).entries.Perm (entry :: map.entries) :=
      place_perm entry.2 fresh
    have moved : (entry :: map.entries ++ entries).Perm (map.entries ++ entry :: entries) :=
      List.perm_middle.symm
    refine ((ih ?_).trans (placed.append_right entries)).trans moved
    have keys : ((map.insert entry.1 entry.2).keys ++ entries.map Prod.fst).Perm
        (map.keys ++ (entry :: entries).map Prod.fst) := by
      simpa [NameMap.keys] using ((placed.append_right entries).trans moved).map Prod.fst
    exact keys.nodup_iff.2 distinct

/-- If no key occurs twice, a map has the entries it was made from. -/
theorem entries_ofList_perm {entries : List (String × α)}
    (distinct : (entries.map Prod.fst).Nodup) : (ofList entries).entries.Perm entries :=
  entries_foldl_insert_perm distinct

theorem nodup_keys (map : NameMap α) : map.keys.Nodup := by
  refine List.pairwise_map.2 (map.sorted.imp ?_)
  intro left right less same
  exact String.lt_irrefl right.1 (same ▸ less)

/-- The entries of a map make up the map. -/
theorem ofList_entries (map : NameMap α) : ofList map.entries = map := by
  refine ext (List.Perm.eq_of_pairwise ?_ (ofList map.entries).sorted map.sorted
    (entries_ofList_perm map.nodup_keys))
  intro left right _ _ less greater
  exact absurd (String.lt_trans less greater) (String.lt_irrefl _)

theorem get?_of_mem {map : NameMap α} {key : String} {value : α}
    (member : (key, value) ∈ map.entries) : map.get? key = some value := by
  rw [← ofList_entries map]
  exact get?_ofList_of_nodup map.nodup_keys member

theorem contains_iff_mem_keys {map : NameMap α} {key : String} :
    map.contains key = true ↔ key ∈ map.keys := by
  rw [contains, Option.isSome_iff_exists, keys, List.mem_map]
  constructor
  · rintro ⟨value, found⟩
    exact ⟨_, mem_of_get? found, rfl⟩
  · rintro ⟨⟨key, value⟩, member, rfl⟩
    exact ⟨value, get?_of_mem member⟩

end NameMap

end Sharding
