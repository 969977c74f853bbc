import RemoteGateway.Proofs.FileTree.Keeping
import RemoteGateway.Proofs.Text.Splitting

/-!
# Replacing a file again and again

A file that was replaced once can be replaced again, whatever its new content, and holds that
content then. `Holds` is what carries from one time to the next: the directories above the file
are there, the path leads to the file, and the file has its content. Replacing brings it about
(`holds_of_perform`) and never fails once it does (`Holds.perform`).
-/

namespace RemoteGateway.FileTree

variable {tree after : FileTree}

/-! ### Locations of path texts -/

/-- No part of a location is a slash. -/
def Location.IsCut (location : Location) : Prop :=
  ∀ part ∈ location.parts, part ≠ "/"

theorem isCut_ofText (path : String) : (Location.ofText path).IsCut := by
  have hcut : ∀ text, ∀ part ∈ Location.cut text, part ≠ "/" := by
    rintro text part hpart rfl
    obtain ⟨piece, hpiece, hslash⟩ := List.mem_map.mp hpart
    have hmem : '/' ∈ piece := by
      rw [← String.toList_ofList (l := piece), hslash]
      decide
    exact (Text.mem_of_mem_splitOn hpiece '/' hmem).2 rfl
  rw [Location.ofText]
  split
  · exact hcut _
  · exact hcut _

theorem mem_of_mem_beginnings {before parts beginning : List String}
    (h : beginning ∈ Location.beginnings before parts) {part : String} (hpart : part ∈ beginning) :
    part ∈ before ∨ part ∈ parts := by
  have hshift : ∀ before first rest, part ∈ before ++ [first] ∨ part ∈ rest →
      part ∈ before ∨ part ∈ first :: rest := by
    rintro before first rest (h | h)
    · rcases List.mem_append.mp h with h | h
      · exact .inl h
      · exact .inr (List.mem_singleton.mp h ▸ List.mem_cons_self)
    · exact .inr (List.mem_cons_of_mem _ h)
  induction parts generalizing before with
  | nil => exact absurd h List.not_mem_nil
  | cons first rest ih =>
    rw [Location.beginnings] at h
    split_ifs at h
    · exact hshift before first rest (ih h)
    · rcases List.mem_cons.mp h with rfl | h
      · exact hshift before first rest (.inl hpart)
      · exact hshift before first rest (ih h)

/-- The directories above a location are named by parts of it. -/
theorem Location.IsCut.above {location other : Location} (h : location.IsCut)
    (hother : other ∈ location.above) : other.IsCut := by
  rw [Location.above] at hother
  obtain ⟨parts, hparts, rfl⟩ := List.mem_map.mp hother
  intro part hpart
  rcases mem_of_mem_beginnings ((List.dropLast_prefix _).subset hparts) hpart with hnil | hpart
  · exact absurd hnil List.not_mem_nil
  · exact h part hpart

/-! ### Places that are free -/

/-- An entry that a location leads to is not at a top. -/
theorem not_isTop_names {location : Location} {place : Place} {entry : String}
    (hcut : location.IsCut) (hlocate : tree.locate location = .ok place)
    (hentry : place.entry = some entry) : ¬ IsTop place.names := by
  obtain ⟨hmem, hup⟩ := (locate_spec hlocate).2 entry hentry
  have hnames : place.names = place.directory ++ [entry] := by
    rw [Place.names, hentry]
    rfl
  have hlast : entry ∈ place.names := by
    rw [hnames]
    exact List.mem_append_right _ (List.mem_singleton_self _)
  rintro (hroot | hall)
  · rw [hroot, List.mem_singleton] at hlast
    exact hcut entry hmem hlast
  · exact hup (hall entry hlast)

/-- Where something can be made, an entry is free. -/
theorem vacancy_eq_ok {location : Location} {names : List String}
    (h : tree.vacancy location = .ok names) :
    ∃ place entry, tree.locate location = .ok place ∧ place.entry = some entry ∧
      isTooLong entry = false ∧ names = place.names ∧ tree.find? names = none := by
  rw [vacancy] at h
  cases hlocate : tree.locate location with
  | error fault =>
    simp only [hlocate] at h
    cases h
  | ok place =>
    cases hlook : tree.look place with
    | error fault =>
      simp only [hlocate, hlook] at h
      cases h
    | ok found =>
      cases found with
      | some node =>
        simp only [hlocate, hlook] at h
        cases h
      | none =>
        simp only [hlocate, hlook, Except.ok.injEq] at h
        subst h
        rw [FileTree.look] at hlook
        cases hentry : place.entry with
        | none =>
          rw [hentry] at hlook
          cases hlook
        | some entry =>
          simp only [hentry] at hlook
          split_ifs at hlook with hlong
          exact ⟨place, entry, rfl, hentry, Bool.eq_false_iff.mpr hlong, rfl,
            Except.ok.inj hlook⟩

/-- Nothing can be made where a directory stands. -/
theorem vacancy_of_isDirectory {location : Location} (h : tree.isDirectory location = true) :
    tree.vacancy location = .error .alreadyExists := by
  obtain ⟨place, mode, hlocate, hlook⟩ := isDirectory_iff.mp h
  simp only [vacancy, hlocate, hlook]

/-- A place at which an entry was put leads to it. -/
theorem look_put {place : Place} {entry : String} (hentry : place.entry = some entry)
    (hlong : isTooLong entry = false) (node : Node) :
    (tree.put place.names node).look place = .ok (some node) := by
  simp only [FileTree.look, hentry, hlong, Bool.false_eq_true, if_false, find?_put_self]

/-! ### Making directories -/

/-- Making sure of a directory keeps the tree, and then the directory is there. -/
theorem apply_directory {location : Location} (hcut : location.IsCut)
    (h : Step.apply tree (.directory location) = .ok after) :
    tree.Keeps after ∧ after.isDirectory location = true := by
  rw [Step.apply] at h
  cases hvacancy : tree.vacancy location with
  | ok names =>
    simp only [hvacancy, Except.ok.injEq] at h
    obtain ⟨place, entry, hlocate, hentry, hlong, rfl, hfind⟩ := vacancy_eq_ok hvacancy
    have hkeeps : tree.Keeps after := by
      rw [← h]
      refine .put _ (not_isTop_names hcut hlocate hentry) fun mode hmode => ?_
      rw [hfind] at hmode
      cases hmode
    -- The location leads to the same place as before, where the directory now stands.
    refine ⟨hkeeps, isDirectory_iff.mpr ⟨place, directoryMode, hkeeps.locate hlocate, ?_⟩⟩
    rw [← h]
    exact look_put hentry hlong _
  | error fault =>
    simp only [hvacancy] at h
    split_ifs at h with hdirectory
    cases h
    exact ⟨.refl tree, hdirectory⟩

/-- Making sure of directories one after the other keeps the tree, and then all of them are
there. -/
theorem perform_directories {locations : List Location} (hcut : ∀ l ∈ locations, l.IsCut)
    (h : tree.perform (locations.map .directory) = (.ok (), after)) :
    tree.Keeps after ∧ ∀ l ∈ locations, after.isDirectory l = true := by
  induction locations generalizing tree with
  | nil =>
    cases h
    exact ⟨.refl _, fun l hl => absurd hl List.not_mem_nil⟩
  | cons location locations ih =>
    rw [List.map_cons, perform] at h
    cases happly : Step.apply tree (.directory location) with
    | error fault =>
      simp only [happly] at h
      cases h
    | ok next =>
      simp only [happly] at h
      obtain ⟨hfirst, hlocation⟩ := apply_directory (hcut _ List.mem_cons_self) happly
      obtain ⟨hrest, hlocations⟩ := ih (fun l hl => hcut l (List.mem_cons_of_mem _ hl)) h
      -- The first directory was there when the others were made, and they kept it.
      refine ⟨hfirst.trans hrest, fun l hl => ?_⟩
      rcases List.mem_cons.mp hl with rfl | hl
      · exact hrest.isDirectory hlocation
      · exact hlocations l hl

theorem perform_makeAll {locations : List Location} (hcut : ∀ l ∈ locations, l.IsCut)
    (h : tree.perform (makeAll locations) = (.ok (), after)) :
    tree.Keeps after ∧ ∀ l ∈ locations, after.isDirectory l = true := by
  rw [makeAll, perform, Step.apply] at h
  cases hsurvey : tree.survey locations.reverse with
  | error fault =>
    rw [hsurvey] at h
    cases h
  | ok _ =>
    rw [hsurvey] at h
    exact perform_directories hcut h

/-- Making sure of directories that are there changes nothing. -/
theorem perform_makeAll_of_isDirectory {locations : List Location}
    (h : ∀ l ∈ locations, tree.isDirectory l = true) :
    tree.perform (makeAll locations) = (.ok (), tree) := by
  -- The survey stops at the first location, because a directory stands there.
  have hsurvey : tree.survey locations.reverse = .ok () := by
    cases hreverse : locations.reverse with
    | nil => rfl
    | cons location rest =>
      have hmem : location ∈ locations := by
        rw [← List.mem_reverse, hreverse]
        exact List.mem_cons_self
      simp only [survey, vacancy_of_isDirectory (h location hmem), h location hmem, if_true]
  have hdirectories : ∀ rest : List Location, (∀ l ∈ rest, l ∈ locations) →
      tree.perform (rest.map .directory) = (.ok (), tree) := by
    intro rest hrest
    induction rest with
    | nil => rfl
    | cons location rest ih =>
      have hlocation := h location (hrest location List.mem_cons_self)
      rw [List.map_cons, perform, Step.apply]
      simp only [vacancy_of_isDirectory hlocation, hlocation, if_true]
      exact ih fun l hl => hrest l (List.mem_cons_of_mem _ hl)
  rw [makeAll, perform, Step.apply, hsurvey]
  exact hdirectories locations fun l hl => hl

/-! ### Replacing a file -/

/-- The file at a path has some content, and the directories above it are there. -/
structure Holds (tree : FileTree) (path : String) (content : ByteArray) : Prop where
  above : ∀ l ∈ (Location.ofText path).above, tree.isDirectory l = true
  file : ∃ place entry mode, tree.locate (.ofText path) = .ok place ∧
    place.entry = some entry ∧ isTooLong entry = false ∧
    (Location.ofText path).endsInSlash = false ∧
    tree.find? place.names = some (.file content mode)

/-- What replacing does: it puts a file where no directory stands. -/
theorem apply_replace {location : Location} {content : ByteArray} {mode : Nat}
    (h : Step.apply tree (.replace location content mode) = .ok after) :
    ∃ place entry, tree.locate location = .ok place ∧ place.entry = some entry ∧
      isTooLong entry = false ∧ location.endsInSlash = false ∧
      (∀ bits, tree.find? place.names ≠ some (.directory bits)) ∧
      after = tree.put place.names (.file content mode) := by
  rw [Step.apply] at h
  cases hlocate : tree.locate location with
  | error fault =>
    simp only [hlocate] at h
    cases h
  | ok place =>
    simp only [hlocate] at h
    cases hentry : place.entry with
    | none =>
      simp only [hentry, Option.isNone_none, if_true] at h
      cases h
    | some entry =>
      simp only [hentry, Option.isNone_some, Bool.false_eq_true, if_false, FileTree.look] at h
      cases hlong : isTooLong entry with
      | true =>
        simp only [hlong, if_true] at h
        cases h
      | false =>
        simp only [hlong, Bool.false_eq_true, if_false] at h
        cases hslash : location.endsInSlash with
        | true =>
          simp only [hslash, if_true] at h
          cases h
        | false =>
          simp only [hslash, Bool.false_eq_true, if_false] at h
          refine ⟨place, entry, rfl, hentry, hlong, rfl, ?_⟩
          rcases hfind : tree.find? place.names with _ | _ | _
          · simp only [hfind, Except.ok.injEq] at h
            exact ⟨fun bits hbits => (by cases hbits), h.symm⟩
          · simp only [hfind, Except.ok.injEq] at h
            exact ⟨fun bits hbits => (by cases hbits), h.symm⟩
          · simp only [hfind] at h
            cases h

variable {path : String} {content : ByteArray}

/-- **A file that was replaced holds its content**, and could be replaced again. -/
theorem holds_of_perform (h : tree.perform (replaceFile path content) = (.ok (), after)) :
    after.Holds path content := by
  have hcut := isCut_ofText path
  rw [replaceFile, perform_append] at h
  cases hmake : tree.perform (makeAll (Location.ofText path).above) with
  | mk result next =>
    simp only [hmake] at h
    cases result with
    | error fault => cases h
    | ok _ =>
      obtain ⟨-, habove⟩ := perform_makeAll (fun l hl => hcut.above hl) hmake
      simp only [perform] at h
      cases hreplace : Step.apply next (.replace (.ofText path) content 0o600) with
      | error fault =>
        rw [hreplace] at h
        cases h
      | ok last =>
        rw [hreplace] at h
        cases h
        obtain ⟨place, entry, hlocate, hentry, hlong, hslash, hfree, rfl⟩ :=
          apply_replace hreplace
        -- The new file hides no directory, so those above it are still there.
        have hkeeps : next.Keeps (next.put place.names (.file content 0o600)) :=
          .put _ (not_isTop_names hcut hlocate hentry) hfree
        exact ⟨fun l hl => hkeeps.isDirectory (habove l hl), place, entry, 0o600,
          hkeeps.locate hlocate, hentry, hlong, hslash, find?_put_self _ _ _⟩

/-- **A file that was replaced can be replaced again.** -/
theorem Holds.perform (h : tree.Holds path content) (new : ByteArray) :
    ∃ after, tree.perform (replaceFile path new) = (.ok (), after) ∧ after.Holds path new := by
  obtain ⟨place, entry, mode, hlocate, hentry, hlong, hslash, hfind⟩ := h.file
  have hreplace : Step.apply tree (.replace (.ofText path) new 0o600) =
      .ok (tree.put place.names (.file new 0o600)) := by
    simp only [Step.apply, hlocate, hentry, Option.isNone_some, Bool.false_eq_true, if_false,
      FileTree.look, hlong, hslash, hfind]
  have hperform : tree.perform (replaceFile path new) =
      (.ok (), tree.put place.names (.file new 0o600)) := by
    rw [replaceFile, perform_append, perform_makeAll_of_isDirectory h.above]
    simp only [FileTree.perform, hreplace]
  exact ⟨_, hperform, holds_of_perform hperform⟩

/-- The content of a file is what is read. -/
theorem Holds.read (h : tree.Holds path content) : tree.read path = .ok content := by
  obtain ⟨place, entry, mode, hlocate, hentry, hlong, hslash, hfind⟩ := h.file
  have hresolve : tree.resolve (.ofText path) = .ok (place.names, .file content mode) := by
    simp only [resolve, hlocate, FileTree.look, hentry, hlong, Bool.false_eq_true, if_false,
      hfind, hslash]
  rw [FileTree.read, status, hresolve]
  rfl

end RemoteGateway.FileTree
