import Mathlib.Tactic.SplitIfs
import RemoteGateway.FileTree.Step

/-!
# What changes keep

Walks through a tree follow directories, so what they find depends on directories only. A later
tree **keeps** an earlier one when all directories of it are still there and nothing changed at
the places where a walk can be without having entered a directory: the tops of the tree, and
what lies above them. Whatever could be reached in the earlier tree is then reached in the later
one as well.

Making a directory where nothing stands keeps a tree, and so does putting a file where no
directory stands (`Keeps.put`).
-/

namespace RemoteGateway.FileTree

/-! ### Directories that are reached -/

/-- The places that a walk reaches without entering a directory. -/
def IsTop (names : List String) : Prop :=
  names = ["/"] ∨ ∀ name ∈ names, name = ".."

/-- Every beginning of some names is a top or a directory. -/
def Stands (tree : FileTree) (names : List String) : Prop :=
  ∀ before, before <+: names → IsTop before ∨ ∃ mode, tree.find? before = some (.directory mode)

theorem isTop_nil : IsTop [] :=
  .inr fun _ h => absurd h List.not_mem_nil

theorem isTop_start (location : Location) : IsTop location.start := by
  rw [Location.start]
  split
  · exact .inl rfl
  · exact isTop_nil

variable {tree after : FileTree}

theorem IsTop.stands {names : List String} (h : IsTop names) : tree.Stands names := by
  intro before hbefore
  rcases h with rfl | h
  · rcases List.prefix_cons_iff.mp hbefore with rfl | ⟨rest, rfl, hrest⟩
    · exact .inl isTop_nil
    · rw [List.prefix_nil.mp hrest]
      exact .inl (.inl rfl)
  · exact .inl (.inr fun name hname => h name (hbefore.subset hname))

/-- What stands above a place that is reached is reached too. -/
theorem Stands.up {names : List String} (h : tree.Stands names) :
    tree.Stands (FileTree.up names) := by
  rw [FileTree.up]
  split
  · exact h
  · split
    · next hall =>
      refine IsTop.stands (.inr fun name hname => ?_)
      rcases List.mem_append.mp hname with hname | hname
      · simpa using List.all_eq_true.mp hall name hname
      · exact List.mem_singleton.mp hname
    · exact fun before hbefore => h before (hbefore.trans (List.dropLast_prefix names))

/-- A directory below a place that is reached is reached. -/
theorem Stands.enter {names : List String} {part : String} {mode : Nat} (h : tree.Stands names)
    (hpart : tree.find? (names ++ [part]) = some (.directory mode)) :
    tree.Stands (names ++ [part]) := by
  intro before hbefore
  rcases List.prefix_concat_iff.mp hbefore with rfl | hbefore
  · exact .inr ⟨mode, hpart⟩
  · exact h before hbefore

/-- A walk that succeeds ends at a place that is reached. -/
theorem Stands.walk {here there : List String} {parts : List String} (h : tree.Stands here)
    (hwalk : tree.walk here parts = .ok there) : tree.Stands there := by
  fun_induction FileTree.walk tree here parts with
  | case1 => cases hwalk; exact h
  | case2 here part rest hidle ih => exact ih h hwalk
  | case3 here rest hidle ih => exact ih h.up hwalk
  | case4 | case5 | case6 => cases hwalk
  -- The only step downwards enters a directory.
  | case7 here part rest hidle hup hlong mode hfind ih => exact ih (h.enter hfind) hwalk

/-! ### Keeping what is reached -/

/-- All directories of a tree are there in a later one, and the tops are the same. -/
structure Keeps (tree after : FileTree) : Prop where
  top : ∀ names, IsTop names → after.find? names = tree.find? names
  directory : ∀ names mode, tree.find? names = some (.directory mode) →
    after.find? names = some (.directory mode)

theorem Keeps.refl (tree : FileTree) : tree.Keeps tree :=
  ⟨fun _ _ => rfl, fun _ _ h => h⟩

theorem Keeps.trans {later : FileTree} (h : tree.Keeps after) (h' : after.Keeps later) :
    tree.Keeps later :=
  ⟨fun names hnames => (h'.top names hnames).trans (h.top names hnames),
    fun names mode hfind => h'.directory names mode (h.directory names mode hfind)⟩

/-- Putting something where no directory stands, and not at a top, keeps a tree. -/
theorem Keeps.put {names : List String} (node : Node) (htop : ¬ IsTop names)
    (hfree : ∀ mode, tree.find? names ≠ some (.directory mode)) :
    tree.Keeps (tree.put names node) := by
  constructor
  · intro other hother
    refine find?_put_of_ne tree node ?_
    rintro rfl
    exact htop hother
  · intro other mode hother
    rw [find?_put_of_ne tree node ?_]
    · exact hother
    · rintro rfl
      exact hfree mode hother

/-- A walk that succeeds does so in a tree that is kept. -/
theorem Keeps.walk (h : tree.Keeps after) {here there : List String} {parts : List String}
    (hwalk : tree.walk here parts = .ok there) : after.walk here parts = .ok there := by
  fun_induction FileTree.walk tree here parts with
  | case1 => exact hwalk
  | case2 here part rest hidle ih =>
    rw [FileTree.walk, if_pos hidle]
    exact ih hwalk
  | case3 here rest hidle ih =>
    rw [FileTree.walk, if_neg hidle, if_pos rfl]
    exact ih hwalk
  | case4 | case5 | case6 => cases hwalk
  | case7 here part rest hidle hup hlong mode hfind ih =>
    -- The directory that was entered is still there.
    rw [FileTree.walk, if_neg hidle, if_neg hup, if_neg hlong, h.directory _ _ hfind]
    exact ih hwalk

/-- A location leads to the same place in a tree that is kept. -/
theorem Keeps.locate (h : tree.Keeps after) {location : Location} {place : Place}
    (hlocate : tree.locate location = .ok place) : after.locate location = .ok place := by
  rw [FileTree.locate] at hlocate ⊢
  split_ifs at hlocate ⊢
  cases hlast : location.links.getLast? with
  | none =>
    rw [hlast] at hlocate
    exact hlocate
  | some link =>
    rw [hlast] at hlocate
    cases hwalk : tree.walk location.start location.links.dropLast with
    | error fault =>
      simp only [hwalk] at hlocate
      cases hlocate
    | ok directory =>
      simp only [hwalk] at hlocate
      simp only [h.walk hwalk]
      exact hlocate

/-- The directory of the place to which a location leads is reached, and an entry of it is
named by a part of the location, which does not lead upwards. -/
theorem locate_spec {location : Location} {place : Place}
    (hlocate : tree.locate location = .ok place) :
    tree.Stands place.directory ∧
      ∀ entry, place.entry = some entry → entry ∈ location.parts ∧ entry ≠ ".." := by
  rw [FileTree.locate] at hlocate
  split_ifs at hlocate
  have hstart : tree.Stands location.start := (isTop_start location).stands
  cases hlast : location.links.getLast? with
  | none =>
    rw [hlast] at hlocate
    cases hlocate
    exact ⟨hstart, fun entry hentry => by cases hentry⟩
  | some link =>
    rw [hlast] at hlocate
    cases hwalk : tree.walk location.start location.links.dropLast with
    | error fault =>
      simp only [hwalk] at hlocate
      cases hlocate
    | ok directory =>
      simp only [hwalk, Except.ok.injEq, Place.ofLink] at hlocate
      have hdirectory := hstart.walk hwalk
      split_ifs at hlocate with hdot hup
      · subst hlocate
        exact ⟨hdirectory, fun entry hentry => by cases hentry⟩
      · subst hlocate
        exact ⟨hdirectory.up, fun entry hentry => by cases hentry⟩
      · subst hlocate
        refine ⟨hdirectory, ?_⟩
        rintro entry ⟨⟩
        exact ⟨(List.mem_filter.mp (List.mem_of_getLast? hlast)).1, hup⟩

/-! ### Directories -/

/-- A directory stands at a location when the location leads to it. -/
theorem isDirectory_iff {location : Location} :
    tree.isDirectory location = true ↔
      ∃ place mode, tree.locate location = .ok place ∧
        tree.look place = .ok (some (.directory mode)) := by
  rw [FileTree.isDirectory, resolve]
  constructor
  · intro h
    cases hlocate : tree.locate location with
    | error fault =>
      simp only [hlocate] at h
      cases h
    | ok place =>
      cases hlook : tree.look place with
      | error fault =>
        simp only [hlocate, hlook] at h
        cases h
      | ok found =>
        rcases found with _ | content | mode
        · simp only [hlocate, hlook] at h
          cases h
        · simp only [hlocate, hlook] at h
          split at h
          · next heq =>
            split at heq <;> cases heq
          · cases h
        · exact ⟨place, mode, rfl, hlook⟩
  · rintro ⟨place, mode, hlocate, hlook⟩
    simp only [hlocate, hlook]

/-- A directory that is found is found in a tree that is kept. -/
theorem Keeps.look (h : tree.Keeps after) {place : Place} {mode : Nat}
    (hstands : tree.Stands place.directory)
    (hlook : tree.look place = .ok (some (.directory mode))) :
    after.look place = .ok (some (.directory mode)) := by
  rw [FileTree.look] at hlook ⊢
  cases hentry : place.entry with
  | none =>
    rw [hentry] at hlook
    -- A directory that is meant itself is either known or a top.
    cases hfind : tree.find? place.directory with
    | some node =>
      rw [hfind] at hlook
      cases hlook
      simp only [h.directory _ _ hfind]
      rfl
    | none =>
      rw [hfind] at hlook
      rcases hstands _ (List.prefix_refl _) with htop | ⟨_, hfind'⟩
      · simp only [h.top _ htop, hfind]
        exact hlook
      · rw [hfind] at hfind'
        cases hfind'
  | some name =>
    simp only [hentry] at hlook
    split_ifs at hlook with hlong
    simp only [if_neg hlong]
    rw [h.directory _ mode (Except.ok.inj hlook)]

/-- A directory stays one. -/
theorem Keeps.isDirectory (h : tree.Keeps after) {location : Location}
    (hdirectory : tree.isDirectory location = true) : after.isDirectory location = true := by
  obtain ⟨place, mode, hlocate, hlook⟩ := isDirectory_iff.mp hdirectory
  exact isDirectory_iff.mpr
    ⟨place, mode, h.locate hlocate, h.look (locate_spec hlocate).1 hlook⟩

end RemoteGateway.FileTree
