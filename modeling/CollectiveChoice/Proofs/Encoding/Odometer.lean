import CollectiveChoice.Encoding

/-!
# Every position of the wheels has its values

The wheels of an odometer are set up with domains and turn on from there.  Turning them on moves
places only: names and values stay, and each wheel keeps standing at one of its values
(`Wheel.reads_of_advance?`).  So each position they come through gives every name of a domain one of
the values of that domain (`Wheel.Reads.exists_reading_eq`), as long as no domain was empty at the
start.
-/

namespace CollectiveChoice

set_option autoImplicit false

namespace Wheel

/-- The name of a wheel with its values. -/
def domain (wheel : Wheel) : String × List String :=
  (wheel.name, wheel.values)

/-- Wheels with the given domains that stand at one of their values each. -/
structure Reads (domains : List (String × List String)) (wheels : List Wheel) : Prop where
  domains : wheels.map domain = domains
  inRange : ∀ wheel ∈ wheels, wheel.place < wheel.values.length

variable {domains : List (String × List String)} {wheels turned : List Wheel}

theorem any_isEmpty_iff :
    (domains.any fun domain => domain.2.isEmpty) = true ↔ ∃ domain ∈ domains, domain.2 = [] := by
  simp only [List.any_eq_true, List.isEmpty_iff]

theorem nonempty_of_not_any (full : ¬(domains.any fun domain => domain.2.isEmpty) = true) :
    ∀ domain ∈ domains, domain.2 ≠ [] := by
  intro domain inside empty
  exact full (any_isEmpty_iff.mpr ⟨domain, inside, empty⟩)

theorem reads_start (nonempty : ∀ domain ∈ domains, domain.2 ≠ []) :
    Reads domains (domains.map start) where
  domains := by
    rw [List.map_map]
    exact List.map_id _
  inRange := by
    intro wheel inside
    obtain ⟨domain, present, rfl⟩ := List.mem_map.mp inside
    exact List.length_pos_iff.mpr (nonempty domain present)

theorem map_domain_rewind (wheels : List Wheel) :
    (wheels.map rewind).map domain = wheels.map domain := by
  rw [List.map_map]
  rfl

/-- Turning the wheels on keeps their domains and leaves each of them at one of its values. -/
theorem reads_of_advance? (reads : Reads domains wheels) (next : advance? wheels = some turned) :
    Reads domains turned := by
  obtain ⟨rfl, inRange⟩ := reads
  induction wheels generalizing turned with
  | nil => cases next
  | cons wheel rest ih =>
      obtain ⟨here, there⟩ := List.forall_mem_cons.mp inRange
      rw [advance?] at next
      cases behind : advance? rest with
      | some moved =>
          -- One of the wheels behind it turns, and this one stays.
          rw [behind] at next
          cases next
          obtain ⟨same, places⟩ := ih behind there
          exact ⟨congrArg (wheel.domain :: ·) same, List.forall_mem_cons.mpr ⟨here, places⟩⟩
      | none =>
          -- All wheels behind it have come back, so this one turns.
          simp only [behind] at next
          split at next
          case isFalse => cases next
          case isTrue room =>
            cases next
            refine ⟨congrArg (wheel.domain :: ·) (map_domain_rewind rest),
              List.forall_mem_cons.mpr ⟨room, ?_⟩⟩
            intro other inside
            obtain ⟨former, present, rfl⟩ := List.mem_map.mp inside
            exact Nat.zero_lt_of_lt (there former present)

/-- So it is at each position they come through. -/
theorem reads_of_mem_turns {count : Nat} {position : List Wheel} (reads : Reads domains wheels)
    (inside : position ∈ turns count wheels) : Reads domains position := by
  induction count generalizing wheels with
  | zero => cases inside
  | succ count ih =>
      rw [turns] at inside
      rcases List.mem_cons.mp inside with rfl | later
      · exact reads
      · cases next : advance? wheels with
        | none =>
            rw [next] at later
            cases later
        | some turned =>
            rw [next] at later
            exact ih (reads_of_advance? reads next) later

/-- A name of a domain is given one of its values. -/
theorem Reads.exists_reading_eq {name : String} (reads : Reads domains wheels)
    (known : name ∈ domains.map Prod.fst) :
    ∃ values value, (name, values) ∈ domains ∧ value ∈ values ∧
      reading wheels name = some value := by
  obtain ⟨rfl, inRange⟩ := reads
  have present : (wheels.find? fun wheel => wheel.name == name).isSome = true := by
    rw [List.find?_isSome]
    obtain ⟨domain, inside, rfl⟩ := List.mem_map.mp known
    obtain ⟨wheel, member, rfl⟩ := List.mem_map.mp inside
    exact ⟨wheel, member, beq_self_eq_true _⟩
  obtain ⟨wheel, found⟩ := Option.isSome_iff_exists.mp present
  have matched := List.find?_some found
  have named : wheel.name = name := beq_iff_eq.mp matched
  have member := List.mem_of_find?_eq_some found
  have place := inRange wheel member
  refine ⟨wheel.values, wheel.values[wheel.place], ?_, List.getElem_mem place, ?_⟩
  · exact List.mem_map.mpr ⟨wheel, member, congrArg (·, wheel.values) named⟩
  · rw [reading, found, Option.bind_some, List.getElem?_eq_getElem place]

end Wheel

end CollectiveChoice
