import CollectiveChoice.Random.Sample

/-!
# Samples are without repetition

Whatever the random words are, a number drawn from a range lies in it (`Stream.range_bounds`).  From
this alone it follows that both methods of drawing a sample give distinct indices below the length,
as many as are wanted (`isSample_sampleIndices`).  Drawing one by one replaces an index that was
drawn before by a bound greater than all of those (`isSample_drawUpTo`), and shuffling only swaps
indices (`perm_shuffleFront`).
-/

namespace CollectiveChoice.Random

set_option autoImplicit false

/-- Distinct indices below a length, as many as are wanted. -/
structure IsSample (length amount : Nat) (indices : List Nat) : Prop where
  count : indices.length = amount
  nodup : indices.Nodup
  below : ∀ index ∈ indices, index < length

/-! ## Drawing from a range -/

namespace Stream

/-- The upper half of the product with a word is less than the other factor, unless that is zero. -/
theorem upperHalf_le (word span : UInt32) :
    ((word.toUInt64 * span.toUInt64) >>> 32).toUInt32.toNat ≤ span.toNat - 1 := by
  have wordBound : word.toNat < 2 ^ 32 := word.toNat_lt
  have spanBound : span.toNat < 2 ^ 32 := span.toNat_lt
  have half : word.toNat * span.toNat / 2 ^ 32 ≤ span.toNat - 1 := by
    rcases Nat.eq_zero_or_pos span.toNat with zero | positive
    · simp [zero]
    · have product : word.toNat * span.toNat < 2 ^ 32 * span.toNat :=
        Nat.mul_lt_mul_of_pos_right wordBound positive
      exact Nat.le_sub_one_of_lt (Nat.div_lt_of_lt_mul product)
  have fits : word.toNat * span.toNat < 2 ^ 64 := calc
    word.toNat * span.toNat < 2 ^ 32 * 2 ^ 32 := Nat.mul_lt_mul'' wordBound spanBound
    _ = 2 ^ 64 := by decide
  simp only [UInt64.toNat_toUInt32, UInt64.toNat_shiftRight, UInt64.toNat_mul,
    UInt32.toNat_toUInt64, UInt64.toNat_ofNat, Nat.mod_eq_of_lt fits]
  rw [Nat.shiftRight_eq_div_pow]
  exact Nat.le_trans (Nat.mod_le _ _) half

theorem drawInZone_le (span zone : UInt32) (tries : Nat) (stream : Stream) :
    (drawInZone span zone tries stream).1.toNat ≤ span.toNat - 1 := by
  induction tries generalizing stream with
  | zero => exact Nat.zero_le _
  | succ tries ih =>
      simp only [drawInZone]
      split
      · exact upperHalf_le _ span
      · exact ih _

/-- A number drawn from a range lies in it. -/
theorem range_bounds {low high : Nat} (ordered : low ≤ high) (stream : Stream) :
    low ≤ (stream.range low high).1 ∧ (stream.range low high).1 ≤ high := by
  have drawn := drawInZone_le (high - low + 1).toUInt32
    (((high - low + 1).toUInt32 <<< leadingZeros (high - low + 1).toUInt32) - 1) 1024 stream
  have span : (high - low + 1).toUInt32.toNat ≤ high - low + 1 := Nat.mod_le _ _
  simp only [range]
  omega

end Stream

/-! ## Drawing one by one -/

/-- Bounds that ascend from a start add one index each to indices below the start. -/
theorem isSample_drawUpTo {start drawnCount : Nat} {drawn : List Nat}
    (sample : IsSample start drawnCount drawn) (count : Nat) (stream : Stream) :
    IsSample (start + count) (drawnCount + count)
      (drawUpTo (List.range' start count) stream drawn) := by
  induction count generalizing start drawnCount drawn stream with
  | zero => exact sample
  | succ count ih =>
      rw [List.range'_succ, drawUpTo]
      have least := (Stream.range_bounds (Nat.zero_le start) stream).2
      generalize stream.range 0 start = found at least
      obtain ⟨index, rest⟩ := found
      have further : IsSample (start + 1) (drawnCount + 1)
          ((if drawn.contains index then start else index) :: drawn) := by
        refine ⟨congrArg (· + 1) sample.count, List.nodup_cons.mpr ⟨?_, sample.nodup⟩,
          List.forall_mem_cons.mpr ⟨?_, fun other inside => ?_⟩⟩
        · split
          · exact fun inside => Nat.lt_irrefl start (sample.below start inside)
          · rename_i fresh
            exact fun inside => fresh (List.contains_iff_mem.mpr inside)
        · split
          · exact Nat.lt_succ_self start
          · exact Nat.lt_succ_of_le least
        · exact Nat.lt_succ_of_lt (sample.below other inside)
      have all := ih further rest
      rwa [Nat.add_right_comm start, Nat.add_right_comm drawnCount] at all

/-! ## Shuffling -/

theorem swap_eq {indices : Array Nat} {left right : Nat} (leftInside : left < indices.size)
    (rightInside : right < indices.size) : swap indices left right = indices.swap left right := by
  simp only [swap, Array.swap_def, Array.setIfInBounds_def, Array.size_set, leftInside,
    rightInside, dite_true, Array.getD_eq_getD_getElem?, Array.getElem?_eq_getElem, Option.getD_some]

/-- Shuffling puts the indices into another order. -/
theorem perm_shuffleFront {places : List Nat} {indices : Array Nat}
    (inside : ∀ place ∈ places, place < indices.size) (stream : Stream) :
    (shuffleFront places stream indices).Perm indices := by
  induction places generalizing indices stream with
  | nil => exact .refl _
  | cons place rest ih =>
      obtain ⟨here, others⟩ := List.forall_mem_cons.mp inside
      have bounds := Stream.range_bounds (Nat.le_sub_one_of_lt here) stream
      simp only [shuffleFront]
      generalize stream.range place (indices.size - 1) = found at bounds
      obtain ⟨other, onwards⟩ := found
      have there : other < indices.size := Nat.lt_of_le_pred (Nat.zero_lt_of_lt here) bounds.2
      rw [swap_eq here there]
      refine (ih (fun other inside => ?_) onwards).trans (Array.swap_perm here there)
      rw [Array.size_swap]
      exact others other inside

/-! ## Samples -/

/-- **Samples are without repetition**, under every seed. -/
theorem isSample_sampleIndices (seed : UInt64) {length amount : Nat} (enough : amount ≤ length) :
    IsSample length amount (sampleIndices seed length amount) := by
  unfold sampleIndices
  split
  · have inside : ∀ place ∈ List.range amount, place < (Array.range length).size := by
      intro place member
      rw [Array.size_range]
      exact Nat.lt_of_lt_of_le (List.mem_range.mp member) enough
    have shuffled := Array.perm_iff_toList_perm.mp (perm_shuffleFront inside (Stream.ofSeed seed))
    rw [Array.toList_range] at shuffled
    have front : (List.take amount (shuffleFront (List.range amount) (Stream.ofSeed seed)
        (Array.range length)).toList).Sublist _ := List.take_sublist amount _
    rw [Array.toList_extract, List.extract_eq_take_drop, List.drop_zero, Nat.sub_zero]
    refine ⟨?_, front.nodup (shuffled.nodup_iff.mpr List.nodup_range), fun index member => ?_⟩
    · rw [List.length_take, shuffled.length_eq, List.length_range, Nat.min_eq_left enough]
    · exact List.mem_range.mp (shuffled.mem_iff.mp (front.mem member))
  · have none : IsSample (length - amount) 0 [] := ⟨rfl, List.nodup_nil, by simp⟩
    have drawn := isSample_drawUpTo none amount (Stream.ofSeed seed)
    have bounds : (List.range length).drop (length - amount)
        = List.range' (length - amount) amount := by
      rw [List.range_eq_range', List.drop_range', Nat.zero_add, Nat.mul_one,
        Nat.sub_sub_self enough]
    rwa [Nat.sub_add_cancel enough, Nat.zero_add, ← bounds] at drawn

end CollectiveChoice.Random
