import CollectiveChoice.Digest.XxHash64
import CollectiveChoice.Json.Basic

/-!
# Pronounceable names for content

Content is named by words drawn from two fixed lists: the compact JSON text of the content is hashed
once per word, word `i` with seed `i`, and each hash picks an entry, adjectives and nouns in turn.
A longer name therefore extends a shorter one.  Names are labels: different content may share one.
-/

namespace CollectiveChoice.Digest

set_option autoImplicit false

/-! ## Digests -/

/-- The bytes that stand for a value: its compact text in UTF-8. -/
def contentBytes (value : Json) : List UInt8 :=
  value.write.toUTF8.toList

/-- The hash of a value. -/
def contentHash (value : Json) : UInt64 :=
  xxHash64 0 (contentBytes value)

/-- The words of a digest: one hash per seed, counted from zero. -/
def chunks (hash : UInt64 → UInt64) (count : Nat) : List UInt64 :=
  (List.range count).map fun seed => hash seed.toUInt64

/-- The digest of a value with a number of words. -/
def contentDigest (value : Json) (count : Nat) : List UInt64 :=
  let bytes := contentBytes value
  chunks (fun seed => xxHash64 seed bytes) count

/-! ## Word lists -/

/-- The words at even positions of a name. -/
def adjectives : Array String := #[
  "Adoptive", "Amber", "Ancient", "Anomalous", "Awesome", "Back", "Bitter", "Black", "Blue",
  "Bold", "Brave", "Brisk", "Broken", "Bronze", "Calm", "Candid", "Cheerful", "Clever",
  "Cloned", "Cold", "Cool", "Cosmic", "Crimson", "Crisp", "Curious", "Daring", "Deep", "Dizzy",
  "Dusty", "Eager", "Early", "Electric", "Emerald", "Endless", "Fancy", "Fierce", "Firing",
  "Flying", "Fluffy", "Foggy", "Frosty", "Gentle", "Giant", "Gilded", "Glad", "Golden", "Good",
  "Grand", "Green", "Grey", "Happy", "Hidden", "Holy", "Honest", "Hot", "Humble", "Hungry",
  "Icy", "Idle", "Jolly", "Keen", "Kind", "Lazy", "Little", "Lively", "Lonely", "Loud",
  "Lowcost", "Lucky", "Magnificent", "Majestic", "Malevolent", "Merry", "Mighty", "Misty",
  "Modern", "Mounted", "Narrow", "Ninja", "Noble", "Odd", "Orange", "Pale", "Patient", "Pink",
  "Polite", "Proofread", "Proud", "Pure", "Purple", "Quick", "Quiet", "Rapid", "Real", "Red",
  "Regular", "Rusty", "Secret", "Seismic", "Short", "Shy", "Silent", "Silver", "Simple",
  "Singing", "Sleepy", "Small", "Soft", "Solar", "Sunny", "Swift", "Tall", "Tiny", "Tormenting",
  "Twisted", "Urban", "Velvet", "Venomous", "Violet", "Vivid", "Walking", "Wandering", "Warm",
  "Wild", "Wise", "Witty", "Yellow", "Yodelling"]

/-- The words at odd positions of a name. -/
def nouns : Array String := #[
  "Anchor", "Apple", "Archetype", "Atom", "Badger", "Base", "Battery", "Bean", "Bear", "Bell",
  "Book", "Bridge", "Burger", "Bus", "Cactus", "Canyon", "Castle", "Cat", "Cloud", "Comet",
  "Compass", "Computer", "Course", "Cube", "Dog", "Dragon", "Dress", "Driver", "Eagle",
  "Engine", "Eye", "Falcon", "Feather", "Forest", "Fox", "Galaxy", "Garden", "Gears", "Glacier",
  "God", "Harbor", "Hawk", "Heart", "Horse", "Invasion", "Island", "Jean", "Jewelry", "Juice",
  "Kettle", "Lantern", "Lead", "Leaf", "Light", "Lighthouse", "Luck", "Meadow", "Meteor",
  "Micro", "Monday", "Moon", "Mountain", "Mustache", "Night", "Nitrite", "Nose", "Number",
  "Ocean", "Office", "Orchard", "Otter", "Owl", "Paper", "Paw", "Pebble", "Pepper", "Pine",
  "Plane", "Polder", "Predator", "Purity", "Queen", "Rain", "Ritual", "River", "Rock", "Roof",
  "Saint", "Santa", "Scream", "Sheep", "Shield", "Shock", "Spice", "Spouse", "Star", "Storm",
  "Submarine", "Sun", "Sunday", "Teapot", "Thief", "Thunder", "Tiger", "Tower", "Tree", "Trope",
  "Turtle", "Unicorn", "Valley", "Velvet", "Vessel", "Violin", "Volcano", "Walrus",
  "Watchtower", "Waters", "Well", "Whale", "Willow", "Window", "Wings", "Wizard", "Wolf",
  "Yodeler", "Zebra", "Zephyr", "Zeppelin"]

/-! ## Names -/

/-- The least number of words in a name. -/
def minWords : Nat := 1

/-- The greatest number of words in a name. -/
def maxWords : Nat := 6

/-- The number of words in a name unless another one is asked for. -/
def defaultWords : Nat := 3

/-- The number of words a name gets where some number is asked for. -/
def wordCount (asked : Nat) : Nat :=
  max minWords (min maxWords asked)

/-- The word at a position of a name. -/
def wordAt (position : Nat) (chunk : UInt64) : String :=
  let words := if position % 2 = 0 then adjectives else nouns
  words.getD (chunk.toNat % words.size) ""

/-- The words of the name of a value. -/
def nameWords (value : Json) (asked : Nat) : List String :=
  (contentDigest value (wordCount asked)).mapIdx wordAt

/-- The name of a value. -/
def name (value : Json) (asked : Nat) : String :=
  " ".intercalate (nameWords value asked)

end CollectiveChoice.Digest
