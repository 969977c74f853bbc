import RemoteGateway.Yaml.Node

/-!
# Texts in trees

A **place** of a tree is named by the branches that lead to it: keys of mappings and numbers of
items. Replacing the texts of a tree changes none of its places (`at?_mapTexts`), and a reading of
texts that undoes the replacement gives the tree back as a whole (`readTexts?_mapTexts`).
-/

namespace RemoteGateway.Yaml

/-- A branch of a tree. -/
inductive Branch where
  | key (name : String)
  | item (index : Nat)
  deriving DecidableEq

instance : Coe String Branch := ⟨.key⟩

namespace Node

/-! ### Places -/

/-- What stands at a branch. -/
def child? : Branch → Node → Option Node
  | .key name, mapping entries => entries.lookup name
  | .item index, sequence items => items[index]?
  | _, _ => none

/-- What stands at a place. -/
def at? (node : Node) : List Branch → Option Node
  | [] => some node
  | branch :: rest => (node.child? branch).bind fun inner => inner.at? rest

/-! ### Replacing every text -/

mutual

/-- The tree with every text in it replaced; keys stay. -/
def mapTexts (f : String → String) : Node → Node
  | text value => text (f value)
  | integer value => integer value
  | boolean value => boolean value
  | sequence items => sequence (mapItems f items)
  | mapping entries => mapping (mapEntries f entries)

/-- The items with every text in them replaced. -/
def mapItems (f : String → String) : List Node → List Node
  | [] => []
  | item :: rest => item.mapTexts f :: mapItems f rest

/-- The entries with every text in their values replaced. -/
def mapEntries (f : String → String) : List (String × Node) → List (String × Node)
  | [] => []
  | (key, value) :: rest => (key, value.mapTexts f) :: mapEntries f rest

end

theorem mapItems_eq_map (f : String → String) (items : List Node) :
    mapItems f items = items.map (mapTexts f) := by
  induction items with
  | nil => rfl
  | cons item items ih => rw [mapItems, ih, List.map_cons]

theorem lookup_mapEntries (f : String → String) (entries : List (String × Node)) (name : String) :
    (mapEntries f entries).lookup name = (entries.lookup name).map (mapTexts f) := by
  induction entries with
  | nil => rfl
  | cons entry entries ih =>
    obtain ⟨key, value⟩ := entry
    rw [mapEntries, List.lookup_cons, List.lookup_cons, ih]
    cases name == key <;> rfl

theorem child?_mapTexts (f : String → String) (branch : Branch) (node : Node) :
    (node.mapTexts f).child? branch = (node.child? branch).map (mapTexts f) := by
  cases node <;> cases branch <;> try rfl
  · rw [mapTexts, child?, child?, mapItems_eq_map, List.getElem?_map]
  · exact lookup_mapEntries f _ _

/-- Replacing texts leaves every place where it is. -/
theorem at?_mapTexts (f : String → String) (node : Node) (path : List Branch) :
    (node.mapTexts f).at? path = (node.at? path).map (mapTexts f) := by
  induction path generalizing node with
  | nil => rfl
  | cons branch path ih =>
    rw [at?, at?, child?_mapTexts, Option.bind_map, Option.map_bind]
    exact congrArg _ (funext fun inner => ih inner)

/-! ### Reading every text -/

mutual

/-- The tree with every text in it read; there is none when some text cannot be read. -/
def readTexts? (read : String → Option String) : Node → Option Node
  | text value => (read value).map text
  | integer value => some (integer value)
  | boolean value => some (boolean value)
  | sequence items => (readItems? read items).map sequence
  | mapping entries => (readEntries? read entries).map mapping

/-- The items with every text in them read. -/
def readItems? (read : String → Option String) : List Node → Option (List Node)
  | [] => some []
  | item :: rest => do return (← item.readTexts? read) :: (← readItems? read rest)

/-- The entries with every text in their values read. -/
def readEntries? (read : String → Option String) :
    List (String × Node) → Option (List (String × Node))
  | [] => some []
  | (key, value) :: rest => do
    return (key, ← value.readTexts? read) :: (← readEntries? read rest)

end

section

variable {read : String → Option String} {write : String → String}

mutual

/-- **A reading that undoes a replacement gives the tree back.** -/
theorem readTexts?_mapTexts (h : ∀ value, read (write value) = some value) (node : Node) :
    (node.mapTexts write).readTexts? read = some node := by
  cases node with
  | text value => rw [mapTexts, readTexts?, h]; rfl
  | integer value => rfl
  | boolean value => rfl
  | sequence items => rw [mapTexts, readTexts?, readItems?_mapItems h items]; rfl
  | mapping entries => rw [mapTexts, readTexts?, readEntries?_mapEntries h entries]; rfl

theorem readItems?_mapItems (h : ∀ value, read (write value) = some value) (items : List Node) :
    readItems? read (mapItems write items) = some items := by
  cases items with
  | nil => rfl
  | cons item rest =>
    rw [mapItems, readItems?, readTexts?_mapTexts h item, readItems?_mapItems h rest]
    rfl

theorem readEntries?_mapEntries (h : ∀ value, read (write value) = some value)
    (entries : List (String × Node)) :
    readEntries? read (mapEntries write entries) = some entries := by
  cases entries with
  | nil => rfl
  | cons entry rest =>
    obtain ⟨key, value⟩ := entry
    rw [mapEntries, readEntries?, readTexts?_mapTexts h value, readEntries?_mapEntries h rest]
    rfl

end

end

end Node

end RemoteGateway.Yaml
