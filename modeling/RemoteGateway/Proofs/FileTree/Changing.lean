import RemoteGateway.Proofs.FileTree.Destinations
import RemoteGateway.Proofs.FileTree.Replacing
import RemoteGateway.Proofs.Outcome

/-!
# What changes reach

Whatever is written at some paths, and however that ends, a tree changes at their destinations and
nowhere else, except that directories are made on the way where nothing was. `Changes` is this
relation between two trees; it is reflexive and transitive, each step of a plan obeys it
(`changes_apply`), and so does every run of steps, also one that fails or is cut off
(`changes_perform`). A file at another destination is therefore found as it was
(`Changes.status_eq`).
-/

namespace RemoteGateway.FileTree

variable {tree after : FileTree} {path : String}

/-! ### Paths of files -/

/-- The last part of a path names an entry. -/
def IsEntryPath (path : String) : Prop :=
  ∃ before link, (Location.ofText path).links = before ++ [link] ∧ IsEntryName link

/-- A path leads somewhere, to what may be a file. -/
structure Reaches (tree : FileTree) (path : String) : Prop where
  place : ∃ place, tree.locate (.ofText path) = .ok place ∧
    ∀ entry, place.entry = some entry → isTooLong entry = false
  open_end : (Location.ofText path).endsInSlash = false

/-- A file can be put at a path. -/
structure Admits (tree : FileTree) (path : String) : Prop extends Reaches tree path where
  entry : IsEntryPath path
  free : ∀ mode, tree.find? (namesOf path) ≠ some (.directory mode)

theorem Keeps.reaches (h : tree.Keeps after) (hreaches : tree.Reaches path) :
    after.Reaches path := by
  obtain ⟨⟨place, hlocate, hshort⟩, hend⟩ := hreaches
  exact ⟨⟨place, h.locate hlocate, hshort⟩, hend⟩

/-- A location leads to an entry when its last part names one. -/
theorem isEntryPath_of_entry {place : Place} {entry : String}
    (h : tree.locate (.ofText path) = .ok place) (hentry : place.entry = some entry) :
    IsEntryPath path := by
  rcases locate_eq_ok h with ⟨-, rfl⟩ | ⟨before, link, directory, hlinks, -, rfl⟩
  · cases hentry
  · refine ⟨before, link, hlinks, ?_⟩
    have hmem : link ∈ (Location.ofText path).links := by
      rw [hlinks]
      exact List.mem_append_right _ (List.mem_singleton_self _)
    have hlink : link ≠ "" := by simpa using (List.mem_filter.mp hmem).2
    rw [Place.ofLink] at hentry
    split_ifs at hentry with hdot hup
    exact ⟨by simp [Location.isIdle, hlink, hdot], hup⟩

theorem IsEntryPath.entry (hpath : IsEntryPath path) {place : Place}
    (h : tree.locate (.ofText path) = .ok place) : ∃ entry, place.entry = some entry := by
  obtain ⟨before, link, hlinks, hidle, hup⟩ := hpath
  rcases locate_eq_ok h with ⟨hnone, -⟩ | ⟨before', link', directory, hlinks', -, rfl⟩
  · rw [hlinks] at hnone
    simp at hnone
  · rw [hlinks] at hlinks'
    obtain rfl : link = link' := (List.append_inj' hlinks' rfl).2 |> List.singleton_inj.mp
    have hdot : link ≠ "." := by
      rintro rfl
      cases hidle
    exact ⟨link, by rw [Place.ofLink, if_neg hdot, if_neg hup]⟩

/-- An entry that is put behind a directory is one. -/
theorem isEntryPath_join (directory : String) {entry : String} (h : IsEntryText entry) :
    IsEntryPath (join directory entry) := by
  obtain ⟨before, -, -, hjoin⟩ := ofText_join directory
  obtain ⟨parts, link, hparts⟩ := List.eq_nil_or_concat (entriesOf entry) |>.resolve_left
    (by simp [entriesOf, Location.cut, List.splitOn_ne_nil])
  have hlink : IsEntryName link := h.2 link (by simp [hparts])
  have hne : link ≠ "" := by
    rintro rfl
    exact absurd hlink.1 (by decide)
  refine ⟨(before ++ parts).filter (· ≠ ""), link, ?_, hlink⟩
  rw [hjoin entry h.1, Location.links, hparts]
  simp [hne]

/-- The destination of a file is below some directory. -/
theorem IsEntryPath.not_isTop (h : IsEntryPath path) : ¬ IsTop (namesOf path) := by
  obtain ⟨before, link, hlinks, hlink⟩ := h
  have hnames : namesOf path = follow (Location.ofText path).start before ++ [link] := by
    rw [namesOf, ← follow_links, ← Location.links, hlinks, follow_append,
      follow_eq_append (List.forall_mem_singleton.mpr hlink)]
  have hmem : link ∈ (Location.ofText path).parts := by
    refine (List.mem_filter.mp (?_ : link ∈ (Location.ofText path).links)).1
    rw [hlinks]
    exact List.mem_append_right _ (List.mem_singleton_self _)
  have hlast : link ∈ namesOf path := by
    rw [hnames]
    exact List.mem_append_right _ (List.mem_singleton_self _)
  rintro (hroot | hall)
  · rw [hroot, List.mem_singleton] at hlast
    exact isCut_ofText path link hmem hlast
  · exact hlink.2 (hall link hlast)

/-! ### Files at paths -/

/-- A file is seen at a place when it is known to stand there. -/
theorem look_eq_file {place : Place} {content : ByteArray} {mode : Nat} :
    tree.look place = .ok (some (.file content mode)) ↔
      (∀ entry, place.entry = some entry → isTooLong entry = false) ∧
        tree.find? place.names = some (.file content mode) := by
  rw [FileTree.look]
  cases hentry : place.entry with
  | none =>
    have hnames : place.names = place.directory := by
      rw [Place.names, hentry]
      exact List.append_nil _
    rw [hnames]
    cases tree.find? place.directory <;> simp
  | some entry =>
    simp only [Option.some.injEq, forall_eq']
    cases isTooLong entry <;> simp

theorem status_eq_file {content : ByteArray} {mode : Nat} :
    tree.status path = .ok (.file content mode) ↔
      tree.Reaches path ∧ tree.find? (namesOf path) = some (.file content mode) := by
  have hresolve : tree.status path = .ok (.file content mode) ↔
      ∃ place, tree.locate (.ofText path) = .ok place ∧
        tree.look place = .ok (some (.file content mode)) ∧
        (Location.ofText path).endsInSlash = false := by
    rw [status, resolve]
    cases hlocate : tree.locate (.ofText path) with
    | error fault => simp [Except.map]
    | ok place =>
      cases hlook : tree.look place with
      | error fault => simp [hlook, Except.map]
      | ok found =>
        rcases found with _ | ⟨_, _⟩ | _
        · simp [hlook, Except.map]
        · cases (Location.ofText path).endsInSlash <;> simp [hlook, Except.map]
        · simp [hlook, Except.map]
  rw [hresolve]
  constructor
  · rintro ⟨place, hlocate, hlook, hend⟩
    obtain ⟨hshort, hfind⟩ := look_eq_file.mp hlook
    rw [names_of_locate hlocate] at hfind
    exact ⟨⟨⟨place, hlocate, hshort⟩, hend⟩, hfind⟩
  · rintro ⟨⟨⟨place, hlocate, hshort⟩, hend⟩, hfind⟩
    rw [namesOf, ← names_of_locate hlocate] at hfind
    exact ⟨place, hlocate, look_eq_file.mpr ⟨hshort, hfind⟩, hend⟩

theorem isFile_iff :
    tree.isFile path = true ↔ ∃ content mode, tree.status path = .ok (.file content mode) := by
  rw [isFile]
  constructor
  · intro h
    split at h
    · next content mode hstatus => exact ⟨content, mode, hstatus⟩
    · cases h
  · rintro ⟨content, mode, hstatus⟩
    rw [hstatus]

/-- The path of a file admits another one. -/
theorem admits_of_status {content : ByteArray} {mode : Nat} (hpath : IsEntryPath path)
    (h : tree.status path = .ok (.file content mode)) : tree.Admits path := by
  obtain ⟨hreaches, hfind⟩ := status_eq_file.mp h
  refine ⟨hreaches, hpath, fun bits hbits => ?_⟩
  rw [hfind] at hbits
  cases hbits

/-! ### Changes -/

/-- From a tree to a later one something changed at the destinations of the `written` paths at
most, and directories were made on the way to the `sought` ones. -/
structure Changes (written sought : List String) (tree after : FileTree) : Prop where
  keeps : tree.Keeps after
  frame : ∀ names, (∀ path ∈ written, namesOf path ≠ names) →
    after.find? names = tree.find? names ∨
      tree.find? names = none ∧ after.find? names = some (.directory directoryMode) ∧
        ∃ path ∈ sought, IsOnWay path names

namespace Changes

variable {later : FileTree} {written sought written' sought' : List String}

protected theorem refl (tree : FileTree) : Changes written sought tree tree :=
  ⟨.refl tree, fun _ _ => .inl rfl⟩

theorem mono (h : Changes written sought tree after) (hwritten : written ⊆ written')
    (hsought : sought ⊆ sought') : Changes written' sought' tree after := by
  refine ⟨h.keeps, fun names hnames => ?_⟩
  rcases h.frame names fun path hpath => hnames path (hwritten hpath) with
    hsame | ⟨hbefore, hafter, path, hpath, hway⟩
  · exact .inl hsame
  · exact .inr ⟨hbefore, hafter, path, hsought hpath, hway⟩

protected theorem trans (h : Changes written sought tree after)
    (h' : Changes written sought after later) : Changes written sought tree later := by
  refine ⟨h.keeps.trans h'.keeps, fun names hnames => ?_⟩
  rcases h.frame names hnames with hfirst | ⟨hbefore, hmade, hway⟩
  · rcases h'.frame names hnames with hsecond | ⟨hnone, hmade, hway⟩
    · exact .inl (hsecond.trans hfirst)
    · exact .inr ⟨hfirst ▸ hnone, hmade, hway⟩
  -- A directory that was made stays one.
  · exact .inr ⟨hbefore, h'.keeps.directory _ _ hmade, hway⟩

/-- What stands at another destination stays. -/
theorem find?_eq (h : Changes written sought tree after) {names : List String} {node : Node}
    (hnames : ∀ path ∈ written, namesOf path ≠ names) (hfind : tree.find? names = some node) :
    after.find? names = some node := by
  rcases h.frame names hnames with hsame | ⟨hnone, -, -⟩
  · rw [hsame, hfind]
  · rw [hfind] at hnone
    cases hnone

/-- A file at another destination was there before. -/
theorem find?_eq_of_file (h : Changes written sought tree after) {names : List String}
    {content : ByteArray} {mode : Nat} (hnames : ∀ path ∈ written, namesOf path ≠ names)
    (hfind : after.find? names = some (.file content mode)) :
    tree.find? names = some (.file content mode) := by
  rcases h.frame names hnames with hsame | ⟨-, hmade, -⟩
  · rw [← hsame, hfind]
  · rw [hfind] at hmade
    cases hmade

/-- **A file at another path is found as it was.** -/
theorem status_eq (h : Changes written sought tree after) {content : ByteArray} {mode : Nat}
    (hpath : ∀ other ∈ written, namesOf other ≠ namesOf path)
    (hstatus : tree.status path = .ok (.file content mode)) :
    after.status path = .ok (.file content mode) := by
  obtain ⟨hreaches, hfind⟩ := status_eq_file.mp hstatus
  exact status_eq_file.mpr ⟨h.keeps.reaches hreaches, h.find?_eq hpath hfind⟩

end Changes

/-! ### Putting files -/

/-- A file that is put where one can be is found, and nothing else changes. -/
theorem Admits.put (h : tree.Admits path) (content : ByteArray) (mode : Nat) :
    Changes [path] [] tree (tree.put (namesOf path) (.file content mode)) ∧
      (tree.put (namesOf path) (.file content mode)).status path = .ok (.file content mode) := by
  have hkeeps := Keeps.put (.file content mode) h.entry.not_isTop h.free
  refine ⟨⟨hkeeps, fun names hnames => .inl ?_⟩, ?_⟩
  · exact find?_put_of_ne _ _ (hnames path (List.mem_singleton_self _)).symm
  · exact status_eq_file.mpr ⟨hkeeps.reaches h.toReaches, find?_put_self _ _ _⟩

/-- Taking a file away changes nothing else. -/
theorem changes_erase (hpath : IsEntryPath path)
    (hfree : ∀ mode, tree.find? (namesOf path) ≠ some (.directory mode)) :
    Changes [path] [] tree (tree.erase (namesOf path)) := by
  refine ⟨⟨fun names hnames => ?_, fun names mode hfind => ?_⟩, fun names hnames => .inl ?_⟩
  · refine find?_erase_of_ne _ fun h => ?_
    exact hpath.not_isTop (h ▸ hnames)
  · rw [find?_erase_of_ne, hfind]
    rintro rfl
    exact hfree mode hfind
  · exact find?_erase_of_ne _ (hnames path (List.mem_singleton_self _)).symm

/-! ### Steps -/

/-- A step that finds a file finds the one at the path. -/
theorem resolve_eq_file {names : List String} {content : ByteArray} {mode : Nat}
    (h : tree.resolve (.ofText path) = .ok (names, .file content mode)) :
    tree.status path = .ok (.file content mode) ∧ names = namesOf path := by
  refine ⟨by rw [status, h]; rfl, ?_⟩
  rw [resolve] at h
  cases hlocate : tree.locate (.ofText path) with
  | error fault =>
    simp only [hlocate] at h
    cases h
  | ok place =>
    rw [namesOf, ← names_of_locate hlocate]
    simp only [hlocate] at h
    split at h
    · cases h
    · cases h
    · cases h
    · split_ifs at h
      cases h
      rfl

theorem resolve_of_status {content : ByteArray} {mode : Nat}
    (h : tree.status path = .ok (.file content mode)) :
    tree.resolve (.ofText path) = .ok (namesOf path, .file content mode) := by
  obtain ⟨⟨names, node⟩, hresolve, rfl⟩ := Outcome.map_eq_ok.mp h
  rw [hresolve, (resolve_eq_file hresolve).2]

/-- What is seen at an entry is what is known to stand there. -/
theorem look_eq_ok {place : Place} {entry : String} {found : Option Node}
    (hentry : place.entry = some entry) :
    tree.look place = .ok found ↔ isTooLong entry = false ∧ tree.find? place.names = found := by
  rw [FileTree.look, hentry]
  cases hlong : isTooLong entry <;> simp [hlong]

/-- Where an entry is seen that is no directory, a file can be put. -/
theorem admits_of_look {place : Place} {entry : String} {found : Option Node}
    (hlocate : tree.locate (.ofText path) = .ok place) (hentry : place.entry = some entry)
    (hlook : tree.look place = .ok found) (hend : (Location.ofText path).endsInSlash = false)
    (hfound : ∀ mode, found ≠ some (.directory mode)) :
    tree.Admits path ∧ place.names = namesOf path := by
  obtain ⟨hshort, hfind⟩ := (look_eq_ok hentry).mp hlook
  have hnames := names_of_locate hlocate
  refine ⟨⟨⟨⟨place, hlocate, fun other hother => ?_⟩, hend⟩,
    isEntryPath_of_entry hlocate hentry, fun mode hmode => hfound mode ?_⟩, hnames⟩
  · rw [hentry] at hother
    cases hother
    exact hshort
  · rw [← hfind, hnames]
    exact hmode

/-- Opening a file empties one that can stand at the path. -/
theorem apply_create {mode : Nat}
    (h : Step.apply tree (.create (.ofText path) mode) = .ok after) :
    tree.Admits path ∧ ∃ bits, after = tree.put (namesOf path) (.file .empty bits) := by
  rw [Step.apply] at h
  cases hlocate : tree.locate (.ofText path) with
  | error fault =>
    simp only [hlocate] at h
    cases h
  | ok place =>
    simp only [hlocate] at h
    split_ifs at h with hkind
    obtain ⟨hentry, hend⟩ := Bool.or_eq_false_iff.mp (Bool.eq_false_iff.mpr hkind)
    obtain ⟨entry, hentry⟩ := Option.isSome_iff_exists.mp (by simpa using hentry)
    cases hlook : tree.look place with
    | error fault =>
      simp only [hlook] at h
      cases h
    | ok found =>
      rcases found with _ | ⟨_, bits⟩ | _
      · obtain ⟨hadmits, hnames⟩ := admits_of_look hlocate hentry hlook hend
          fun _ hmode => by cases hmode
        simp only [hlook, Except.ok.injEq, hnames] at h
        exact ⟨hadmits, _, h.symm⟩
      · obtain ⟨hadmits, hnames⟩ := admits_of_look hlocate hentry hlook hend
          fun _ hmode => by cases hmode
        simp only [hlook, Except.ok.injEq, hnames] at h
        exact ⟨hadmits, _, h.symm⟩
      · simp only [hlook] at h
        cases h

/-- Filling replaces the content of the file at the path. -/
theorem apply_fill {new : ByteArray} (hpath : IsEntryPath path)
    (h : Step.apply tree (.fill (.ofText path) new) = .ok after) :
    tree.Admits path ∧ ∃ bits, after = tree.put (namesOf path) (.file new bits) := by
  rw [Step.apply] at h
  split at h
  · cases h
  · cases h
  · next names content bits hresolve =>
    cases h
    obtain ⟨hstatus, rfl⟩ := resolve_eq_file hresolve
    exact ⟨admits_of_status hpath hstatus, bits, rfl⟩

/-- A file at the path can be filled. -/
theorem apply_fill_of_status {content new : ByteArray} {mode : Nat}
    (h : tree.status path = .ok (.file content mode)) :
    Step.apply tree (.fill (.ofText path) new) =
      .ok (tree.put (namesOf path) (.file new mode)) := by
  rw [Step.apply, resolve_of_status h]

/-- The mode bits of a file at the path can be set. -/
theorem apply_setMode_of_status {content : ByteArray} {mode bits : Nat}
    (h : tree.status path = .ok (.file content mode)) :
    Step.apply tree (.setMode (.ofText path) bits) =
      .ok (tree.put (namesOf path) (.file content bits)) := by
  rw [Step.apply, resolve_of_status h]
  rfl

/-- Removing takes away the file at the path. -/
theorem apply_remove (h : Step.apply tree (.remove (.ofText path)) = .ok after) :
    (∃ content mode, tree.status path = .ok (.file content mode)) ∧
      after = tree.erase (namesOf path) := by
  rw [Step.apply] at h
  split at h
  · cases h
  · cases h
  · next names content bits hresolve =>
    cases h
    obtain ⟨hstatus, rfl⟩ := resolve_eq_file hresolve
    exact ⟨⟨content, bits, hstatus⟩, rfl⟩

/-- A directory above a path that is made was on the way, and nothing was there. -/
theorem changes_directory {location : Location}
    (hlocation : location ∈ (Location.ofText path).above)
    (h : Step.apply tree (.directory location) = .ok after) : Changes [] [path] tree after := by
  have hkeeps := (apply_directory ((isCut_ofText path).above hlocation) h).1
  rw [Step.apply] at h
  cases hvacancy : tree.vacancy location with
  | error fault =>
    simp only [hvacancy] at h
    split_ifs at h
    cases h
    exact .refl tree
  | ok names =>
    simp only [hvacancy, Except.ok.injEq] at h
    subst h
    obtain ⟨place, entry, hlocate, -, -, rfl, hfind⟩ := vacancy_eq_ok hvacancy
    obtain ⟨back, hback, -⟩ := mem_above hlocation
    refine ⟨hkeeps, fun names _ => ?_⟩
    by_cases hnames : names = place.names
    · subst hnames
      refine .inr ⟨hfind, find?_put_self _ _ _, path, List.mem_singleton_self _, location.parts,
        ?_, ?_⟩
      · rw [hback]
        exact List.prefix_append _ _
      · rw [hback]
        exact (names_of_locate hlocate).symm
    · exact .inl (find?_put_of_ne _ _ hnames)

/-! ### Plans -/

/-- The steps that write a file at a path, apart from those that set mode bits. -/
inductive Step.IsFor (path : String) : Step → Prop
  | survey (locations : List Location) : IsFor path (.survey locations)
  | directory {location : Location} (h : location ∈ (Location.ofText path).above) :
      IsFor path (.directory location)
  | create (mode : Nat) : IsFor path (.create (.ofText path) mode)
  | fill (hpath : IsEntryPath path) (content : ByteArray) :
      IsFor path (.fill (.ofText path) content)

theorem changes_apply {step : Step} (hstep : step.IsFor path) (h : step.apply tree = .ok after) :
    Changes [path] [path] tree after := by
  cases hstep with
  | survey locations =>
    obtain ⟨-, -, rfl⟩ := Outcome.map_eq_ok.mp h
    exact .refl tree
  | directory hlocation =>
    exact (changes_directory hlocation h).mono (List.nil_subset _) (List.Subset.refl _)
  | create mode =>
    obtain ⟨hadmits, bits, rfl⟩ := apply_create h
    exact (hadmits.put _ _).1.mono (List.Subset.refl _) (List.nil_subset _)
  | fill hpath content =>
    obtain ⟨hadmits, bits, rfl⟩ := apply_fill hpath h
    exact (hadmits.put _ _).1.mono (List.Subset.refl _) (List.nil_subset _)

/-- However far steps get, they change no more than each of them does. -/
theorem changes_of_steps {steps : List Step} {written sought : List String}
    (h : ∀ step ∈ steps, ∀ tree after, step.apply tree = .ok after →
      Changes written sought tree after) (tree : FileTree) :
    Changes written sought tree (tree.perform steps).2 := by
  induction steps generalizing tree with
  | nil => exact .refl tree
  | cons step rest ih =>
    obtain ⟨hstep, hrest⟩ := List.forall_mem_cons.mp h
    rw [perform]
    cases happly : step.apply tree with
    | error fault => exact .refl tree
    | ok next => exact (hstep tree next happly).trans (ih hrest next)

/-- **However far steps get, they change nothing but what they are for.** -/
theorem changes_perform {steps : List Step} {paths : List String}
    (h : ∀ step ∈ steps, ∃ path ∈ paths, step.IsFor path) :
    Changes paths paths tree (tree.perform steps).2 := by
  refine changes_of_steps (fun step hstep before next happly => ?_) tree
  obtain ⟨path, hmem, hfor⟩ := h step hstep
  have hsingle : [path] ⊆ paths := List.cons_subset.mpr ⟨hmem, List.nil_subset _⟩
  exact (changes_apply hfor happly).mono hsingle hsingle

theorem isFor_of_mem_makeAll {step : Step} (h : step ∈ makeAll (Location.ofText path).above) :
    step.IsFor path := by
  rcases List.mem_cons.mp h with rfl | h
  · exact .survey _
  · obtain ⟨location, hlocation, rfl⟩ := List.mem_map.mp h
    exact .directory hlocation

theorem isFor_of_mem_writeFile {step : Step} {content : ByteArray} (hpath : IsEntryPath path)
    (h : step ∈ writeFile path content) : step.IsFor path := by
  rcases List.mem_append.mp h with h | h
  · exact isFor_of_mem_makeAll h
  · simp only [List.mem_cons, List.not_mem_nil, or_false] at h
    rcases h with rfl | rfl
    · exact .create _
    · exact .fill hpath _

end RemoteGateway.FileTree
