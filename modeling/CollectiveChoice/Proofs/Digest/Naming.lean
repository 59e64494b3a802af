import CollectiveChoice.Digest.Name
import CollectiveChoice.Proofs.Json.RoundTrip

/-!
# What a name says about its content

The bytes that are hashed determine the value they stand for (`contentBytes_injective`), so content
is lost in two places only: where different bytes have one hash, and where different hashes pick one
word.  Words have no spaces, so a name falls into its words again, and two values share a name
exactly when they have as many words and share each of them (`name_eq_iff`).  A longer name begins
with the words of a shorter one (`take_nameWords`), so it tells apart whatever the shorter one does.
Where the values differ, each word that they share is a collision of one of the two kinds
(`collideAt_of_name_eq`).
-/

namespace CollectiveChoice.Digest

set_option autoImplicit false

/-! ## Bytes -/

theorem toList_loop_eq (bytes : ByteArray) (start : Nat) (seen : List UInt8) :
    ByteArray.toList.loop bytes start seen = seen.reverse ++ bytes.data.toList.drop start := by
  induction start, seen using ByteArray.toList.loop.induct bytes with
  | case1 start seen more ih =>
      have inside : start < bytes.data.toList.length := more
      have byte : bytes.get! start = bytes.data.toList[start] :=
        getElem!_pos bytes.data start more
      rw [ByteArray.toList.loop, if_pos more, ih, List.drop_eq_getElem_cons inside, byte]
      simp
  | case2 start seen done =>
      have behind : bytes.data.toList.length ≤ start := Nat.le_of_not_lt done
      rw [ByteArray.toList.loop, if_neg done, List.drop_eq_nil_of_le behind, List.append_nil]

theorem toList_eq_toList_data (bytes : ByteArray) : bytes.toList = bytes.data.toList :=
  toList_loop_eq bytes 0 []

theorem write_eq_of_contentBytes_eq {left right : Json}
    (same : contentBytes left = contentBytes right) : left.write = right.write := by
  simp only [contentBytes, toList_eq_toList_data] at same
  exact String.toByteArray_inj.mp (ByteArray.ext (Array.toList_inj.mp same))

/-- The bytes determine the value. -/
theorem contentBytes_injective {left right : Json} (fitsLeft : left.fitsWords = true)
    (fitsRight : right.fitsWords = true) (same : contentBytes left = contentBytes right) :
    left = right :=
  Json.write_injective fitsLeft fitsRight (write_eq_of_contentBytes_eq same)

/-! ## Words -/

/-- A space among the characters of a text is one of its bytes. -/
theorem byte_mem_of_space_mem {text : String} (inside : ' ' ∈ text.toList) :
    32 ∈ text.toByteArray.data.toList := by
  rw [← String.utf8Encode_toList, List.utf8Encode, List.toList_data_toByteArray]
  exact List.mem_flatMap.mpr ⟨' ', inside, by decide⟩

/-- The bytes are at hand where the characters would have to be decoded, so the lists are looked
through by their bytes. -/
theorem space_not_mem_of_mem {words : Array String} (list : words ∈ [adjectives, nouns]) :
    ∀ word ∈ words, ' ' ∉ word.toList := by
  have free : ∀ words ∈ [adjectives, nouns], ∀ word ∈ words.toList,
      32 ∉ word.toByteArray.data.toList := by
    decide +kernel
  intro word listed space
  exact free words list word (Array.mem_toList_iff.mpr listed) (byte_mem_of_space_mem space)

/-- A word has no spaces. -/
theorem space_not_mem_wordAt (position : Nat) (chunk : UInt64) :
    ' ' ∉ (wordAt position chunk).toList := by
  have listed : ∀ word ∈ (if position % 2 = 0 then adjectives else nouns), ' ' ∉ word.toList := by
    apply space_not_mem_of_mem
    split <;> simp
  rw [wordAt, Array.getD_eq_getD_getElem?]
  cases found : (if position % 2 = 0 then adjectives else nouns)[chunk.toNat
      % (if position % 2 = 0 then adjectives else nouns).size]? with
  | none => exact List.not_mem_nil
  | some word => exact listed word (Array.mem_of_getElem? found)

/-- The words of a name, each picked by the hash with its position as seed. -/
theorem nameWords_eq_map (value : Json) (asked : Nat) :
    nameWords value asked = (List.range (wordCount asked)).map fun position =>
      wordAt position (xxHash64 position.toUInt64 (contentBytes value)) := by
  refine List.ext_getElem? fun position => ?_
  by_cases inside : position < wordCount asked <;>
    simp [nameWords, contentDigest, chunks, inside]

theorem wordCount_pos (asked : Nat) : 0 < wordCount asked :=
  Nat.lt_of_lt_of_le (by decide) (Nat.le_max_left minWords (min maxWords asked))

theorem nameWords_ne_nil (value : Json) (asked : Nat) : nameWords value asked ≠ [] := by
  rw [nameWords_eq_map]
  simpa using Nat.ne_of_gt (wordCount_pos asked)

theorem space_not_mem_of_mem_nameWords {value : Json} {asked : Nat} :
    ∀ word ∈ nameWords value asked, ' ' ∉ word.toList := by
  rw [nameWords_eq_map]
  intro word member
  obtain ⟨position, _, rfl⟩ := List.mem_map.mp member
  exact space_not_mem_wordAt position _

/-- A name falls into its words at the spaces. -/
theorem splitOn_name (value : Json) (asked : Nat) :
    (name value asked).toList.splitOn ' ' = (nameWords value asked).map String.toList := by
  have spaceless : ∀ word ∈ (nameWords value asked).map String.toList, ' ' ∉ word :=
    List.forall_mem_map.mpr space_not_mem_of_mem_nameWords
  have nonempty : (nameWords value asked).map String.toList ≠ [] :=
    mt List.map_eq_nil_iff.mp (nameWords_ne_nil value asked)
  have space : " ".toList = [' '] := rfl
  rw [name, String.toList_intercalate, space, List.splitOn_intercalate ' ' spaceless nonempty]

/-- **Names are equal exactly when they have as many words and share each of them.** -/
theorem name_eq_iff {left right : Json} {asked others : Nat} :
    name left asked = name right others ↔
      wordCount asked = wordCount others ∧ ∀ position < wordCount asked,
        wordAt position (xxHash64 position.toUInt64 (contentBytes left))
          = wordAt position (xxHash64 position.toUInt64 (contentBytes right)) := by
  have words : name left asked = name right others ↔
      nameWords left asked = nameWords right others := by
    refine ⟨fun same => ?_, fun same => by rw [name, name, same]⟩
    have parts := splitOn_name left asked
    rw [same, splitOn_name] at parts
    exact ((List.map_inj_right fun _ _ => String.toList_inj.mp).mp parts).symm
  rw [words, nameWords_eq_map, nameWords_eq_map]
  constructor
  · intro same
    have count : wordCount asked = wordCount others := by simpa using congrArg List.length same
    rw [← count, List.map_inj_left] at same
    exact ⟨count, fun position inside => same position (List.mem_range.mpr inside)⟩
  · rintro ⟨count, same⟩
    rw [← count]
    exact List.map_congr_left fun position inside => same position (List.mem_range.mp inside)

/-! ## Longer names -/

theorem wordCount_mono {fewer more : Nat} (ordered : fewer ≤ more) :
    wordCount fewer ≤ wordCount more := by
  unfold wordCount
  omega

theorem wordCount_of_bounds {asked : Nat} (least : minWords ≤ asked) (greatest : asked ≤ maxWords) :
    wordCount asked = asked := by
  rw [wordCount, Nat.min_eq_right greatest, Nat.max_eq_right least]

/-- A shorter name has the first words of a longer one. -/
theorem take_nameWords (value : Json) {fewer more : Nat} (ordered : fewer ≤ more) :
    (nameWords value more).take (wordCount fewer) = nameWords value fewer := by
  rw [nameWords_eq_map, nameWords_eq_map, ← List.map_take, List.take_range,
    Nat.min_eq_left (wordCount_mono ordered)]

/-- What shares a longer name shares the shorter ones. -/
theorem name_eq_of_le {left right : Json} {fewer more : Nat} (ordered : fewer ≤ more)
    (same : name left more = name right more) : name left fewer = name right fewer := by
  obtain ⟨-, words⟩ := name_eq_iff.mp same
  exact name_eq_iff.mpr ⟨rfl, fun position inside =>
    words position (Nat.lt_of_lt_of_le inside (wordCount_mono ordered))⟩

/-! ## Collisions -/

/-- Different bytes with one hash. -/
def HashCollision (seed : UInt64) (left right : List UInt8) : Prop :=
  left ≠ right ∧ xxHash64 seed left = xxHash64 seed right

/-- Different hashes that pick one word. -/
def WordCollision (position : Nat) (left right : UInt64) : Prop :=
  left ≠ right ∧ wordAt position left = wordAt position right

/-- Whether different bytes collide at a position of a name, in their hashes or in the words that
these pick. -/
def CollideAt (position : Nat) (left right : List UInt8) : Prop :=
  HashCollision position.toUInt64 left right ∨
    WordCollision position (xxHash64 position.toUInt64 left) (xxHash64 position.toUInt64 right)

/-- Values that share a name although their bytes differ collide at every position of it. -/
theorem collideAt_of_name_eq {left right : Json} {asked others : Nat}
    (different : contentBytes left ≠ contentBytes right)
    (same : name left asked = name right others) :
    ∀ position < wordCount asked, CollideAt position (contentBytes left) (contentBytes right) := by
  intro position inside
  by_cases hashes : xxHash64 position.toUInt64 (contentBytes left)
      = xxHash64 position.toUInt64 (contentBytes right)
  · exact Or.inl ⟨different, hashes⟩
  · exact Or.inr ⟨hashes, (name_eq_iff.mp same).2 position inside⟩

end CollectiveChoice.Digest
