import CollectiveChoice.Order.SortedSet

/-!
# Finite maps in ascending key order

A finite map is kept as the list of its entries, strictly ascending by key.  As for sets, the list
is canonical: maps that answer every look-up alike are the same value.

Main statements: `find?_insert`, `find?_filter` and `find?_erase` say how a write changes the
look-ups, `find?_ofList_cons` what they find after several writes, `find?_eq_some_iff_mem` that they
read the entries, and `ext_find?` that they determine the map.
-/

namespace CollectiveChoice

set_option autoImplicit false

/-! ## Entry lists -/

section Entries

variable {κ ν : Type} [Ord κ]

/-- Keys come in strictly ascending order. -/
def KeysAscending (entries : List (κ × ν)) : Prop :=
  entries.Pairwise fun earlier later => compare earlier.1 later.1 = .lt

/-- Writes an entry into its place, replacing the entry that holds the key. -/
def writeEntry (key : κ) (value : ν) : List (κ × ν) → List (κ × ν)
  | [] => [(key, value)]
  | head :: tail =>
    match compare key head.1 with
    | .lt => (key, value) :: head :: tail
    | .eq => (key, value) :: tail
    | .gt => head :: writeEntry key value tail

/-- The value of the first entry with the key. -/
def valueOf? (key : κ) : List (κ × ν) → Option ν
  | [] => none
  | head :: tail =>
    match compare key head.1 with
    | .eq => some head.2
    | _ => valueOf? key tail

theorem writeEntry_nil (key : κ) (value : ν) : writeEntry key value [] = [(key, value)] := rfl

theorem writeEntry_cons (key : κ) (value : ν) (head : κ × ν) (tail : List (κ × ν)) :
    writeEntry key value (head :: tail) =
      match compare key head.1 with
      | .lt => (key, value) :: head :: tail
      | .eq => (key, value) :: tail
      | .gt => head :: writeEntry key value tail := rfl

theorem valueOf?_nil (key : κ) : valueOf? key ([] : List (κ × ν)) = none := rfl

theorem valueOf?_cons (key : κ) (head : κ × ν) (tail : List (κ × ν)) :
    valueOf? key (head :: tail) =
      match compare key head.1 with
      | .eq => some head.2
      | _ => valueOf? key tail := rfl

variable [Std.LawfulEqOrd κ]

omit [Std.LawfulEqOrd κ] in
theorem fst_mem_writeEntry {key : κ} {value : ν} {entries : List (κ × ν)} {entry : κ × ν}
    (inside : entry ∈ writeEntry key value entries) : entry.1 = key ∨ entry ∈ entries := by
  induction entries with
  | nil =>
    rw [writeEntry_nil, List.mem_singleton] at inside
    exact Or.inl (congrArg Prod.fst inside)
  | cons head tail ih =>
    rw [writeEntry_cons] at inside
    split at inside
    · rcases List.mem_cons.mp inside with rfl | deeper
      · exact Or.inl rfl
      · exact Or.inr deeper
    · rcases List.mem_cons.mp inside with rfl | deeper
      · exact Or.inl rfl
      · exact Or.inr (List.mem_cons_of_mem _ deeper)
    · rcases List.mem_cons.mp inside with rfl | deeper
      · exact Or.inr List.mem_cons_self
      · exact (ih deeper).imp id (List.mem_cons_of_mem _)

variable [Std.TransOrd κ]

theorem keysAscending_writeEntry {entries : List (κ × ν)} (ascending : KeysAscending entries)
    (key : κ) (value : ν) : KeysAscending (writeEntry key value entries) := by
  induction entries with
  | nil => exact List.pairwise_singleton _ _
  | cons head tail ih =>
    obtain ⟨before, rest⟩ := List.pairwise_cons.mp ascending
    rw [writeEntry_cons]
    split
    · rename_i less
      refine List.pairwise_cons.mpr ⟨fun entry inside => ?_, ascending⟩
      rcases List.mem_cons.mp inside with rfl | deeper
      · exact less
      · exact Std.TransCmp.lt_trans less (before entry deeper)
    · rename_i same
      refine List.pairwise_cons.mpr ⟨fun entry inside => ?_, rest⟩
      have keys : key = head.1 := Std.LawfulEqOrd.eq_of_compare same
      rw [keys]
      exact before entry inside
    · rename_i greater
      refine List.pairwise_cons.mpr ⟨fun entry inside => ?_, ih rest⟩
      rcases fst_mem_writeEntry inside with equal | deeper
      · rw [equal]
        exact Std.OrientedCmp.lt_of_gt greater
      · exact before entry deeper

omit [Std.TransOrd κ] in
theorem valueOf?_writeEntry [DecidableEq κ] (key other : κ) (value : ν) (entries : List (κ × ν)) :
    valueOf? other (writeEntry key value entries)
      = if other = key then some value else valueOf? other entries := by
  induction entries with
  | nil =>
    rw [writeEntry_nil, valueOf?_cons, valueOf?_nil]
    split
    · rename_i same
      rw [if_pos (Std.LawfulEqOrd.eq_of_compare same)]
    · rename_i different
      rw [if_neg fun equal => different (by rw [equal, Std.ReflOrd.compare_self])]
  | cons head tail ih =>
    rw [writeEntry_cons]
    split
    · simp only [valueOf?_cons]
      by_cases equal : other = key
      · simp [equal, Std.ReflOrd.compare_self]
      · have different : compare other key ≠ .eq := fun found =>
          equal (Std.LawfulEqOrd.eq_of_compare found)
        rw [if_neg equal]
        split
        · contradiction
        · rfl
    · rename_i same
      have keys : key = head.1 := Std.LawfulEqOrd.eq_of_compare same
      simp only [valueOf?_cons]
      by_cases equal : other = key
      · simp [equal, Std.ReflOrd.compare_self]
      · have different : compare other key ≠ .eq := fun found =>
          equal (Std.LawfulEqOrd.eq_of_compare found)
        rw [if_neg equal, ← keys]
        split
        · contradiction
        · rfl
    · rename_i greater
      simp only [valueOf?_cons]
      split
      · rename_i found
        have keys : other = head.1 := Std.LawfulEqOrd.eq_of_compare found
        rw [if_neg fun equal => by
          rw [← equal, found] at greater
          cases greater]
      · exact ih

omit [Std.LawfulEqOrd κ] [Std.TransOrd κ] in
/-- A key below every entry has no value. -/
theorem valueOf?_eq_none_of_lt {entries : List (κ × ν)} {key : κ}
    (below : ∀ entry ∈ entries, compare key entry.1 = .lt) : valueOf? key entries = none := by
  induction entries with
  | nil => rfl
  | cons head tail ih =>
    rw [valueOf?_cons, below head List.mem_cons_self]
    exact ih fun entry inside => below entry (List.mem_cons_of_mem _ inside)

omit [Std.TransOrd κ] in
/-- Where keys ascend, the value of a key is the one it stands beside. -/
theorem valueOf?_eq_some_iff {entries : List (κ × ν)} (ascending : KeysAscending entries)
    {key : κ} {value : ν} : valueOf? key entries = some value ↔ (key, value) ∈ entries := by
  induction entries with
  | nil => simp [valueOf?_nil]
  | cons head tail ih =>
    obtain ⟨before, rest⟩ := List.pairwise_cons.mp ascending
    rw [valueOf?_cons, List.mem_cons]
    split
    · rename_i same
      have keys : key = head.1 := Std.LawfulEqOrd.eq_of_compare same
      constructor
      · intro found
        exact Or.inl (Prod.ext keys (Option.some.inj found).symm)
      · rintro (equal | deeper)
        · rw [← equal]
        · have less := before _ deeper
          rw [keys, Std.ReflOrd.compare_self] at less
          cases less
    · rename_i different
      rw [ih rest]
      refine (or_iff_right fun equal => different ?_).symm
      rw [← equal, Std.ReflOrd.compare_self]

omit [Std.LawfulEqOrd κ] [Std.TransOrd κ] in
/-- An entry with a key above all others goes to the end. -/
theorem writeEntry_of_gt {entries : List (κ × ν)} {key : κ} (value : ν)
    (above : ∀ entry ∈ entries, compare key entry.1 = .gt) :
    writeEntry key value entries = entries ++ [(key, value)] := by
  induction entries with
  | nil => rfl
  | cons head tail ih =>
    rw [writeEntry_cons, above head List.mem_cons_self]
    exact congrArg _ (ih fun entry inside => above entry (List.mem_cons_of_mem _ inside))

end Entries

/-! ## Maps -/

/-- A finite map, given by its entries in strictly ascending key order. -/
@[ext] structure SortedMap (κ ν : Type) [Ord κ] where
  /-- The entries, in ascending key order. -/
  toList : List (κ × ν)
  /-- Keys come in strictly ascending order. -/
  ascending : KeysAscending toList

namespace SortedMap

variable {κ ν ν' : Type} [Ord κ]

instance [DecidableEq κ] [DecidableEq ν] : DecidableEq (SortedMap κ ν) := fun left right =>
  if same : left.toList = right.toList then
    isTrue (SortedMap.ext same)
  else
    isFalse fun equal => same (congrArg SortedMap.toList equal)

/-- The map without entries. -/
def empty : SortedMap κ ν where
  toList := []
  ascending := List.Pairwise.nil

instance : EmptyCollection (SortedMap κ ν) where
  emptyCollection := empty

instance : Inhabited (SortedMap κ ν) where
  default := empty

/-- The number of entries. -/
def size (map : SortedMap κ ν) : Nat :=
  map.toList.length

/-- Whether the map has no entry. -/
def isEmpty (map : SortedMap κ ν) : Bool :=
  map.toList.isEmpty

/-- The value of a key. -/
def find? (map : SortedMap κ ν) (key : κ) : Option ν :=
  valueOf? key map.toList

/-- Whether the map has an entry for a key. -/
def contains (map : SortedMap κ ν) (key : κ) : Bool :=
  (map.find? key).isSome

/-- The values, in key order. -/
def values (map : SortedMap κ ν) : List ν :=
  map.toList.map Prod.snd

/-- The entries that pass a test. -/
def filter (map : SortedMap κ ν) (keep : κ → ν → Bool) : SortedMap κ ν where
  toList := map.toList.filter fun entry => keep entry.1 entry.2
  ascending := List.Pairwise.filter _ map.ascending

/-- The keys, as a set. -/
def keys (map : SortedMap κ ν) : SortedSet κ where
  toList := map.toList.map Prod.fst
  ascending := List.pairwise_map.mpr map.ascending

/-- The map with every value replaced by its image. -/
def mapValues (map : SortedMap κ ν) (image : ν → ν') : SortedMap κ ν' where
  toList := map.toList.map fun entry => (entry.1, image entry.2)
  ascending := by
    refine List.pairwise_map.mpr ?_
    exact map.ascending

/-- The map without the entry of a key. -/
def erase (map : SortedMap κ ν) (key : κ) : SortedMap κ ν :=
  map.filter fun other _ => compare key other != .eq

variable [Std.LawfulEqOrd κ] [Std.TransOrd κ]

/-- The map with the value of one key replaced or added. -/
def insert (map : SortedMap κ ν) (key : κ) (value : ν) : SortedMap κ ν where
  toList := writeEntry key value map.toList
  ascending := keysAscending_writeEntry map.ascending key value

/-- The map with the value of one key replaced by what a function makes of its old value. -/
def alter (map : SortedMap κ ν) (key : κ) (change : Option ν → ν) : SortedMap κ ν :=
  map.insert key (change (map.find? key))

/-- The map of a list of entries; of two entries with one key the later one counts. -/
def ofList (entries : List (κ × ν)) : SortedMap κ ν :=
  entries.foldl (fun map entry => map.insert entry.1 entry.2) empty

/-! ### How writes change the look-ups -/

theorem find?_insert [DecidableEq κ] (map : SortedMap κ ν) (key other : κ) (value : ν) :
    (map.insert key value).find? other = if other = key then some value else map.find? other :=
  valueOf?_writeEntry key other value map.toList

theorem find?_alter [DecidableEq κ] (map : SortedMap κ ν) (key other : κ)
    (change : Option ν → ν) :
    (map.alter key change).find? other
      = if other = key then some (change (map.find? key)) else map.find? other :=
  find?_insert map key other _

omit [Std.LawfulEqOrd κ] [Std.TransOrd κ] in
theorem find?_empty (key : κ) : (empty : SortedMap κ ν).find? key = none := rfl

/-- The map that gives each of some keys its value. -/
theorem find?_ofList_map [DecidableEq κ] (keys : List κ) (value : κ → ν) (other : κ) :
    (ofList (keys.map fun key => (key, value key))).find? other
      = if other ∈ keys then some (value other) else none := by
  have folded : ∀ start : SortedMap κ ν,
      ((keys.map fun key => (key, value key)).foldl
        (fun map entry => map.insert entry.1 entry.2) start).find? other
        = if other ∈ keys then some (value other) else start.find? other := by
    induction keys with
    | nil => simp
    | cons key rest ih =>
      intro start
      rw [List.map_cons, List.foldl_cons, ih, find?_insert]
      by_cases same : other = key <;> simp [same]
  exact folded empty

omit [Std.TransOrd κ] in
theorem find?_eq_some_iff_mem {map : SortedMap κ ν} {key : κ} {value : ν} :
    map.find? key = some value ↔ (key, value) ∈ map.toList :=
  valueOf?_eq_some_iff map.ascending

omit [Std.TransOrd κ] in
theorem find?_filter (map : SortedMap κ ν) (keep : κ → ν → Bool) (key : κ) :
    (map.filter keep).find? key = (map.find? key).filter (keep key) := by
  apply Option.ext
  intro value
  rw [find?_eq_some_iff_mem, Option.filter_eq_some_iff, find?_eq_some_iff_mem]
  exact List.mem_filter

omit [Std.TransOrd κ] in
theorem find?_erase [DecidableEq κ] (map : SortedMap κ ν) (key other : κ) :
    (map.erase key).find? other = if other = key then none else map.find? other := by
  rw [erase, find?_filter]
  by_cases equal : other = key
  · simp [equal, Std.ReflOrd.compare_self]
  · have different : (compare key other != .eq) = true := by
      rw [bne_iff_ne]
      exact fun same => equal (Std.LawfulEqOrd.eq_of_compare same).symm
    rw [if_neg equal, different]
    cases map.find? other <;> rfl

omit [Std.TransOrd κ] in
theorem find?_mapValues (map : SortedMap κ ν) (image : ν → ν') (key : κ) :
    (map.mapValues image).find? key = (map.find? key).map image := by
  apply Option.ext
  intro value
  rw [find?_eq_some_iff_mem, Option.map_eq_some_iff]
  constructor
  · intro inside
    obtain ⟨entry, member, equal⟩ := List.mem_map.mp inside
    obtain ⟨rfl, rfl⟩ := Prod.mk.inj equal
    exact ⟨entry.2, find?_eq_some_iff_mem.mpr member, rfl⟩
  · rintro ⟨old, found, rfl⟩
    exact List.mem_map.mpr ⟨(key, old), find?_eq_some_iff_mem.mp found, rfl⟩

omit [Std.TransOrd κ] in
theorem mem_keys {map : SortedMap κ ν} {key : κ} :
    key ∈ map.keys ↔ (map.find? key).isSome = true := by
  rw [Option.isSome_iff_exists]
  constructor
  · intro inside
    obtain ⟨entry, member, rfl⟩ := List.mem_map.mp inside
    exact ⟨entry.2, find?_eq_some_iff_mem.mpr member⟩
  · rintro ⟨value, found⟩
    exact List.mem_map.mpr ⟨(key, value), find?_eq_some_iff_mem.mp found, rfl⟩

omit [Std.LawfulEqOrd κ] [Std.TransOrd κ] in
theorem size_keys (map : SortedMap κ ν) : map.keys.size = map.size :=
  List.length_map Prod.fst

/-- A map that is altered under the key of each of some items has these keys besides the old ones. -/
theorem mem_keys_foldl_alter [DecidableEq κ] {ι : Type} (keyOf : ι → κ)
    (change : ι → Option ν → ν) (items : List ι) (map : SortedMap κ ν) (key : κ) :
    key ∈ (items.foldl (fun map item => map.alter (keyOf item) (change item)) map).keys
      ↔ key ∈ map.keys ∨ key ∈ items.map keyOf := by
  induction items generalizing map with
  | nil => simp
  | cons item rest ih =>
    have step : key ∈ (map.alter (keyOf item) (change item)).keys
        ↔ key ∈ map.keys ∨ key = keyOf item := by
      rw [mem_keys, mem_keys, find?_alter]
      by_cases same : key = keyOf item <;> simp [same]
    rw [List.foldl_cons, ih, step, List.map_cons, List.mem_cons, or_assoc]

/-- A map is determined by its look-ups. -/
theorem ext_find? {left right : SortedMap κ ν} (same : ∀ key, left.find? key = right.find? key) :
    left = right := by
  have lists : ∀ first second : List (κ × ν), KeysAscending first → KeysAscending second →
      (∀ key, valueOf? key first = valueOf? key second) → first = second := by
    intro first
    induction first with
    | nil =>
      intro second _ _ agree
      cases second with
      | nil => rfl
      | cons head tail =>
        have found := agree head.1
        rw [valueOf?_cons, valueOf?_nil, Std.ReflOrd.compare_self] at found
        cases found
    | cons head tail ih =>
      intro second ascending ascending' agree
      cases second with
      | nil =>
        have found := agree head.1
        rw [valueOf?_cons, valueOf?_nil, Std.ReflOrd.compare_self] at found
        cases found
      | cons head' tail' =>
        obtain ⟨before, rest⟩ := List.pairwise_cons.mp ascending
        obtain ⟨before', rest'⟩ := List.pairwise_cons.mp ascending'
        have atHead := agree head.1
        have atHead' := agree head'.1
        rw [valueOf?_cons, valueOf?_cons, Std.ReflOrd.compare_self] at atHead
        rw [valueOf?_cons, valueOf?_cons, Std.ReflOrd.compare_self] at atHead'
        cases order : compare head.1 head'.1 with
        | lt =>
          rw [order] at atHead
          rw [valueOf?_eq_none_of_lt fun entry inside =>
            Std.TransCmp.lt_trans order (before' entry inside)] at atHead
          cases atHead
        | gt =>
          rw [Std.OrientedCmp.lt_of_gt order] at atHead'
          rw [valueOf?_eq_none_of_lt fun entry inside =>
            Std.TransCmp.lt_trans (Std.OrientedCmp.lt_of_gt order) (before entry inside)] at atHead'
          cases atHead'
        | eq =>
          have keys : head.1 = head'.1 := Std.LawfulEqOrd.eq_of_compare order
          rw [order] at atHead
          have heads : head = head' := Prod.ext keys (Option.some.inj atHead)
          subst heads
          refine congrArg _ (ih tail' rest rest' fun key => ?_)
          cases place : compare key head.1 with
          | eq =>
            have equal : key = head.1 := Std.LawfulEqOrd.eq_of_compare place
            rw [equal, valueOf?_eq_none_of_lt before, valueOf?_eq_none_of_lt before']
          | lt =>
            have found := agree key
            rw [valueOf?_cons, valueOf?_cons, place] at found
            exact found
          | gt =>
            have found := agree key
            rw [valueOf?_cons, valueOf?_cons, place] at found
            exact found
  exact SortedMap.ext (lists left.toList right.toList left.ascending right.ascending same)

/-- Entries whose keys ascend are those of the map they make up. -/
theorem toList_ofList {entries : List (κ × ν)} (ascending : KeysAscending entries) :
    (ofList entries).toList = entries := by
  have folded : ∀ (map : SortedMap κ ν) (entries : List (κ × ν)),
      KeysAscending (map.toList ++ entries) →
        (entries.foldl (fun map entry => map.insert entry.1 entry.2) map).toList
          = map.toList ++ entries := by
    intro map entries
    induction entries generalizing map with
    | nil => simp
    | cons entry rest ih =>
      intro ascending
      have after : ∀ other ∈ map.toList, compare entry.1 other.1 = .gt := fun other inside =>
        Std.OrientedCmp.gt_of_lt
          ((List.pairwise_append.mp ascending).2.2 other inside entry List.mem_cons_self)
      have appended : (map.insert entry.1 entry.2).toList = map.toList ++ [entry] :=
        writeEntry_of_gt entry.2 after
      rw [List.foldl_cons, ih, appended, List.append_assoc, List.singleton_append]
      rwa [appended, List.append_assoc, List.singleton_append]
  exact folded empty entries ascending

/-- A map is made up of its entries. -/
theorem ofList_toList (map : SortedMap κ ν) : ofList map.toList = map :=
  SortedMap.ext (toList_ofList map.ascending)

/-- The entries of a map are those it is made up of, each written into its place. -/
theorem toList_ofList_eq_foldl (entries : List (κ × ν)) :
    (ofList entries).toList
      = entries.foldl (fun list entry => writeEntry entry.1 entry.2 list) [] := by
  have folded : ∀ map : SortedMap κ ν,
      (entries.foldl (fun map entry => map.insert entry.1 entry.2) map).toList
        = entries.foldl (fun list entry => writeEntry entry.1 entry.2 list) map.toList := by
    induction entries with
    | nil => exact fun map => rfl
    | cons entry rest ih => exact fun map => ih (map.insert entry.1 entry.2)
  exact folded empty

section

variable [DecidableEq κ]

/-- Of several entries the last one with a key counts. -/
theorem find?_ofList_cons (entry : κ × ν) (rest : List (κ × ν)) (key : κ) :
    (ofList (entry :: rest)).find? key
      = ((ofList rest).find? key).or (if key = entry.1 then some entry.2 else none) := by
  have folded : ∀ start : SortedMap κ ν,
      (rest.foldl (fun map entry => map.insert entry.1 entry.2) start).find? key
        = ((ofList rest).find? key).or (start.find? key) := by
    induction rest with
    | nil => exact fun start => rfl
    | cons next rest ih =>
      intro start
      rw [ofList, List.foldl_cons, List.foldl_cons, ih, ih, find?_insert, find?_insert, Option.or_assoc]
      by_cases same : key = next.1 <;> simp [same, find?_empty]
  rw [ofList, List.foldl_cons, folded, find?_insert, find?_empty]

theorem find?_ofList_eq_none {entries : List (κ × ν)} {key : κ}
    (absent : ∀ entry ∈ entries, entry.1 ≠ key) : (ofList entries).find? key = none := by
  induction entries with
  | nil => rfl
  | cons entry rest ih =>
    rw [find?_ofList_cons, ih fun other inside => absent other (List.mem_cons_of_mem _ inside),
      Option.none_or, if_neg (absent entry List.mem_cons_self).symm]

/-- Without its key, an entry is not there. -/
theorem erase_ofList_cons {entry : κ × ν} {rest : List (κ × ν)}
    (absent : ∀ other ∈ rest, other.1 ≠ entry.1) :
    (ofList (entry :: rest)).erase entry.1 = ofList rest := by
  refine ext_find? fun key => ?_
  rw [find?_erase, find?_ofList_cons]
  split
  · rename_i same
    rw [same, find?_ofList_eq_none absent]
  · exact Option.or_none

omit [Std.TransOrd κ] in
theorem lookup_toList (map : SortedMap κ ν) (key : κ) : map.toList.lookup key = map.find? key := by
  unfold find?
  induction map.toList with
  | nil => rfl
  | cons head tail ih =>
    rw [List.lookup_cons, valueOf?_cons, ih]
    by_cases same : key = head.1
    · simp [same, Std.ReflOrd.compare_self]
    · rw [beq_eq_false_iff_ne.mpr same]
      cases place : compare key head.1 with
      | eq => exact absurd (Std.LawfulEqOrd.eq_of_compare place) same
      | lt | gt => rfl

omit [Std.TransOrd κ] in
theorem toList_erase (map : SortedMap κ ν) (key : κ) :
    (map.erase key).toList = map.toList.filter fun entry => entry.1 != key := by
  refine List.filter_congr fun entry _ => ?_
  by_cases same : entry.1 = key
  · simp [same, Std.ReflOrd.compare_self]
  · have different : compare key entry.1 ≠ .eq := fun found =>
      same (Std.LawfulEqOrd.eq_of_compare found).symm
    exact (bne_iff_ne.mpr different).trans (bne_iff_ne.mpr same).symm

end

end SortedMap

end CollectiveChoice
