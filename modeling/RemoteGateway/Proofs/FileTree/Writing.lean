import RemoteGateway.Proofs.FileTree.Changing

/-!
# Files that were written

What each plan for a file leaves: a file that was written has its content, and a private one its
mode bits as well; a stale one is gone. However such a plan ends, nothing changes but its file and
the directories that were missing on the way (`Changes`).

A document is replaced in one step. Where it stands already no directory has to be made, so its
tree is the old one or the one with the new document, and nothing in between
(`perform_replaceFile`).
-/

namespace RemoteGateway.FileTree

variable {tree after : FileTree} {path : String} {content : ByteArray} {mode : Nat}

/-! ### Plans in parts -/

/-- Steps that succeed are taken one after the other. -/
theorem perform_cons_eq_ok {step : Step} {rest : List Step}
    (h : tree.perform (step :: rest) = (.ok (), after)) :
    ∃ next, step.apply tree = .ok next ∧ next.perform rest = (.ok (), after) := by
  rw [perform] at h
  cases happly : step.apply tree with
  | error fault =>
    simp only [happly] at h
    cases h
  | ok next =>
    simp only [happly] at h
    exact ⟨next, rfl, h⟩

theorem perform_append_eq_ok {steps more : List Step}
    (h : tree.perform (steps ++ more) = (.ok (), after)) :
    ∃ next, tree.perform steps = (.ok (), next) ∧ next.perform more = (.ok (), after) := by
  rw [perform_append] at h
  split at h
  · next next hperform => exact ⟨next, hperform, h⟩
  · cases h

/-! ### Opening and filling -/

/-- The steps that open a file at a path, in whatever state it was. -/
def openFile (path : String) (mode : Nat) : List Step :=
  makeAll (Location.ofText path).above ++ [.create (.ofText path) mode]

theorem changes_openFile (tree : FileTree) (path : String) (mode : Nat) :
    Changes [path] [path] tree (tree.perform (openFile path mode)).2 := by
  refine changes_perform fun step hstep => ⟨path, List.mem_singleton_self _, ?_⟩
  rcases List.mem_append.mp hstep with hstep | hstep
  · exact isFor_of_mem_makeAll hstep
  · rw [List.mem_singleton.mp hstep]
    exact .create mode

/-- A file that was opened is empty. -/
theorem status_of_openFile (h : tree.perform (openFile path mode) = (.ok (), after)) :
    IsEntryPath path ∧ ∃ bits, after.status path = .ok (.file .empty bits) := by
  obtain ⟨made, -, h⟩ := perform_append_eq_ok h
  obtain ⟨opened, hcreate, h⟩ := perform_cons_eq_ok h
  cases h
  obtain ⟨hadmits, bits, rfl⟩ := apply_create hcreate
  exact ⟨hadmits.entry, bits, (hadmits.put .empty bits).2⟩

/-- **A file that was written has its content**, and however far the writing gets, nothing else
changes. -/
theorem perform_writeFile {result : Except Fault Unit}
    (h : tree.perform (writeFile path content) = (result, after)) :
    Changes [path] [path] tree after ∧
      (result = .ok () → ∃ bits, after.status path = .ok (.file content bits)) := by
  have hplan : writeFile path content =
      openFile path 0o666 ++ [.fill (.ofText path) content] := by
    rw [writeFile, openFile, List.append_assoc]
    rfl
  have hchanges := changes_openFile tree path 0o666
  rw [hplan, perform_append] at h
  rcases hopen : tree.perform (openFile path 0o666) with ⟨fault | _, opened⟩
  · rw [hopen] at h hchanges
    cases h
    exact ⟨hchanges, nofun⟩
  · rw [hopen] at h hchanges
    -- The file that was opened is there, so nothing can go wrong any more.
    obtain ⟨hpath, bits, hopened⟩ := status_of_openFile hopen
    obtain ⟨hfilled, hfinal⟩ := (admits_of_status hpath hopened).put content bits
    simp only [perform, apply_fill_of_status hopened] at h
    cases h
    exact ⟨hchanges.trans (hfilled.mono (List.Subset.refl _) (List.nil_subset _)),
      fun _ => ⟨bits, hfinal⟩⟩

/-- **A private file that was written has its content and its mode bits**, and however far the
writing gets, nothing else changes. -/
theorem perform_writePrivate {result : Except Fault Unit}
    (h : tree.perform (writePrivate path content mode) = (result, after)) :
    Changes [path] [path] tree after ∧
      (result = .ok () → after.status path = .ok (.file content mode)) := by
  have hplan : writePrivate path content mode = openFile path mode ++
      [.setMode (.ofText path) mode, .fill (.ofText path) content] := by
    rw [writePrivate, openFile, List.append_assoc]
    rfl
  have hchanges := changes_openFile tree path mode
  rw [hplan, perform_append] at h
  rcases hopen : tree.perform (openFile path mode) with ⟨fault | _, opened⟩
  · rw [hopen] at h hchanges
    cases h
    exact ⟨hchanges, nofun⟩
  · rw [hopen] at h hchanges
    obtain ⟨hpath, bits, hopened⟩ := status_of_openFile hopen
    obtain ⟨hmoded, hstatus⟩ := (admits_of_status hpath hopened).put .empty mode
    obtain ⟨hfilled, hfinal⟩ := (admits_of_status hpath hstatus).put content mode
    simp only [perform, apply_setMode_of_status hopened, apply_fill_of_status hstatus] at h
    cases h
    refine ⟨hchanges.trans ?_, fun _ => hfinal⟩
    exact (hmoded.trans hfilled).mono (List.Subset.refl _) (List.nil_subset _)

/-! ### Finishing a script -/

/-- A file that is there can be made executable. -/
theorem perform_makeExecutable (hpath : IsEntryPath path)
    (h : tree.status path = .ok (.file content mode)) :
    ∃ after, tree.perform (makeExecutable path) = (.ok (), after) ∧
      Changes [path] [] tree after ∧ after.status path = .ok (.file content 0o755) := by
  obtain ⟨hchanges, hstatus⟩ := (admits_of_status hpath h).put content 0o755
  refine ⟨_, ?_, hchanges, hstatus⟩
  simp only [makeExecutable, perform, apply_setMode_of_status h]

/-- **What is stale is gone** once it was removed. -/
theorem removeStale_eq {result : Except Fault Bool} (hpath : IsEntryPath path)
    (h : tree.removeStale path = (result, after)) :
    Changes [path] [] tree after ∧
      ∀ found, result = .ok found → after.status path = .error .missing := by
  rw [removeStale] at h
  split at h
  · next next hremove =>
    cases h
    obtain ⟨⟨content, mode, hstatus⟩, rfl⟩ := apply_remove hremove
    have hchanges := changes_erase hpath (admits_of_status hpath hstatus).free
    refine ⟨hchanges, fun _ _ => ?_⟩
    -- The path still leads to where the file was.
    obtain ⟨⟨place, hlocate, hshort⟩, -⟩ := hchanges.keeps.reaches (status_eq_file.mp hstatus).1
    obtain ⟨entry, hentry⟩ := hpath.entry hlocate
    have hlook : (tree.erase (namesOf path)).look place = .ok none := by
      refine (look_eq_ok hentry).mpr ⟨hshort entry hentry, ?_⟩
      rw [names_of_locate hlocate]
      exact find?_erase_self _ _
    rw [status, resolve, hlocate]
    simp only [hlook]
    rfl
  · next hremove =>
    cases h
    refine ⟨.refl tree, fun _ _ => ?_⟩
    rw [Step.apply] at hremove
    split at hremove
    · next hresolve =>
      cases hremove
      rw [status, hresolve]
      rfl
    · cases hremove
    · cases hremove
  · cases h
    exact ⟨.refl tree, fun _ hok => by cases hok⟩

/-! ### Replacing a document -/

/-- Above a path that leads somewhere nothing can be made: all directories are there. -/
theorem vacancy_above_ne_ok {place : Place} (hlocate : tree.locate (.ofText path) = .ok place)
    {location : Location} (hlocation : location ∈ (Location.ofText path).above)
    (names : List String) : tree.vacancy location ≠ .ok names := by
  intro hvacancy
  obtain ⟨back, hback, part, hpart, hidle⟩ := mem_above hlocation
  obtain ⟨other, entry, hother, hentry, -, rfl, hfree⟩ := vacancy_eq_ok hvacancy
  rcases locate_eq_ok hother with ⟨-, rfl⟩ | ⟨before, link, directory, hlinks, hwalk, rfl⟩
  · cases hentry
  -- The whole path goes on behind the entry that would be made, so it walks through it.
  have hmore : back.filter (· ≠ "") ≠ [] := by
    refine List.ne_nil_of_mem (a := part) (List.mem_filter.mpr ⟨hpart, ?_⟩)
    rw [Location.isIdle, Bool.or_eq_false_iff] at hidle
    simpa using hidle.1
  obtain ⟨between, last, hlast⟩ :=
    List.eq_nil_or_concat (back.filter (· ≠ "")) |>.resolve_left hmore
  have hall : (Location.ofText path).links = (before ++ [link] ++ between) ++ [last] := by
    rw [hback, Location.links, List.filter_append, ← Location.links, hlinks, hlast]
    simp
  rcases locate_eq_ok hlocate with ⟨hnil, -⟩ | ⟨before', last', there, hlinks', hwalk', -⟩
  · rw [hall] at hnil
    simp at hnil
  rw [hall] at hlinks'
  obtain ⟨rfl, -⟩ := List.append_inj' hlinks' rfl
  have hstart : (Location.ofText path).start = location.start := by
    rw [hback]
    rfl
  rw [hstart, List.append_assoc, walk_append] at hwalk'
  obtain ⟨reached, hreached, hthrough⟩ := hwalk'
  rw [hwalk] at hreached
  cases hreached
  obtain ⟨entered, hentered, -⟩ := walk_append.mp hthrough
  rw [Place.ofLink] at hentry hfree
  split_ifs at hentry hfree with hdot hup
  have hempty : link ≠ "" := by
    have hmem : link ∈ location.links := by
      rw [hlinks]
      exact List.mem_append_right _ (List.mem_singleton_self _)
    simpa using (List.mem_filter.mp hmem).2
  have hnone : tree.find? (directory ++ [link]) = none := hfree
  rw [FileTree.walk, if_neg (by simp [Location.isIdle, hempty, hdot]), if_neg hup, hnone]
    at hentered
  split_ifs at hentered

/-- Making sure of directories of which none can be made changes nothing. -/
theorem perform_makeAll_eq {locations : List Location}
    (h : ∀ l ∈ locations, ∀ names, tree.vacancy l ≠ .ok names) :
    (tree.perform (makeAll locations)).2 = tree := by
  have hdirectories : ∀ rest : List Location, (∀ l ∈ rest, l ∈ locations) →
      (tree.perform (rest.map .directory)).2 = tree := by
    intro rest hrest
    induction rest with
    | nil => rfl
    | cons location rest ih =>
      rw [List.map_cons, perform, Step.apply]
      cases hvacancy : tree.vacancy location with
      | ok names => exact absurd hvacancy (h _ (hrest _ List.mem_cons_self) names)
      | error fault =>
        simp only
        split_ifs
        · exact ih fun l hl => hrest l (List.mem_cons_of_mem _ hl)
        · rfl
  rw [makeAll, perform, Step.apply]
  cases tree.survey locations.reverse with
  | error fault => rfl
  | ok _ => exact hdirectories locations fun l hl => hl

/-- What is put last at a place stands there. -/
theorem put_put (tree : FileTree) (names : List String) (node other : Node) :
    (tree.put names node).put names other = tree.put names other := by
  simp [put]

/-- **A document that is there is replaced as a whole or not at all.** -/
theorem perform_replaceFile (new : ByteArray) (h : tree.status path = .ok (.file content mode)) :
    (IsEntryPath path ∧ tree.perform (replaceFile path new) =
        (.ok (), tree.put (namesOf path) (.file new 0o600))) ∨
      ∃ fault, tree.perform (replaceFile path new) = (.error fault, tree) := by
  obtain ⟨⟨place, hlocate, -⟩, -⟩ := (status_eq_file.mp h).1
  have hmade := perform_makeAll_eq fun l hl => vacancy_above_ne_ok hlocate hl
  rw [replaceFile, perform_append]
  rcases hmake : tree.perform (makeAll (Location.ofText path).above) with ⟨fault | _, next⟩
  · rw [hmake] at hmade
    exact .inr ⟨fault, by rw [← hmade]⟩
  · rw [hmake] at hmade
    simp only at hmade
    subst hmade
    simp only [perform]
    cases hreplace : Step.apply next (.replace (.ofText path) new 0o600) with
    | error fault => exact .inr ⟨fault, rfl⟩
    | ok after =>
      obtain ⟨place', entry, hlocate', hentry, -, -, -, rfl⟩ := apply_replace hreplace
      refine .inl ⟨isEntryPath_of_entry hlocate' hentry, ?_⟩
      rw [namesOf, ← names_of_locate hlocate']

end RemoteGateway.FileTree
