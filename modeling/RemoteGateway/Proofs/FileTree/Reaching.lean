import RemoteGateway.Proofs.FileTree.Changing

/-!
# Files beside others

When one file below a directory can be reached, so can any other one there that is known together
with the directories above it, as long as its path is not longer (`reaches_join`): the directory
itself has been reached, and from there on the way goes through known directories.
-/

namespace RemoteGateway.FileTree

variable {tree : FileTree}

/-! ### Texts of locations -/

theorem text_ofText (path : String) : (Location.ofText path).text = path := by
  have hcut : ∀ text : List Char,
      (String.intercalate "/" (Location.cut text)).toList = text := by
    intro text
    rw [String.toList_intercalate, Location.cut, List.map_map]
    have hmap : (String.toList ∘ String.ofList) = id := funext fun _ => String.toList_ofList
    rw [hmap, List.map_id]
    exact List.intercalate_splitOn '/'
  rw [← String.toList_inj, Location.text, String.toList_append]
  by_cases hhead : path.toList.head? = some '/'
  · obtain ⟨rest, hrest⟩ : ∃ rest, path.toList = '/' :: rest := by
      cases hlist : path.toList with
      | nil =>
        rw [hlist] at hhead
        cases hhead
      | cons c rest =>
        rw [hlist] at hhead
        cases hhead
        exact ⟨rest, rfl⟩
    rw [ofText_of_absolute hrest, hcut, hrest, if_pos rfl]
    rfl
  · rw [ofText_of_relative hhead, hcut]
    rfl

/-- Paths below a directory begin in the same way. -/
theorem join_eq_append (directory : String) :
    ∃ before : String, ∀ entry : String, entry.toList.head? ≠ some '/' →
      join directory entry = before ++ entry := by
  by_cases hempty : directory = ""
  · exact ⟨"", fun entry _ => by rw [join, if_pos (.inl hempty)]; rfl⟩
  by_cases hslash : directory.toList.getLast? = some '/'
  · refine ⟨directory, fun entry hentry => ?_⟩
    rw [join, if_neg (not_or.mpr ⟨hempty, hentry⟩), if_pos hslash]
  · refine ⟨directory ++ "/", fun entry hentry => ?_⟩
    rw [join, if_neg (not_or.mpr ⟨hempty, hentry⟩), if_neg hslash]

/-! ### Walks -/

/-- Through known directories a walk goes on. -/
theorem walk_eq_append {parts : List String} (here : List String)
    (hparts : ∀ part ∈ parts, IsEntryName part ∧ isTooLong part = false)
    (hknown : ∀ before, before <+: parts → before ≠ [] →
      ∃ mode, tree.find? (here ++ before) = some (.directory mode)) :
    tree.walk here parts = .ok (here ++ parts) := by
  induction parts generalizing here with
  | nil => rw [FileTree.walk, List.append_nil]
  | cons part rest ih =>
    obtain ⟨⟨hname, hshort⟩, hrest⟩ := List.forall_mem_cons.mp hparts
    obtain ⟨mode, hfind⟩ := hknown [part] ⟨rest, rfl⟩ (List.cons_ne_nil _ _)
    rw [FileTree.walk, if_neg (by simp [hname.1]), if_neg hname.2, if_neg (by simp [hshort]), hfind]
    have hwalk := ih (here ++ [part]) hrest fun before hbefore hne => by
      rw [List.append_assoc]
      exact hknown (part :: before) (List.cons_prefix_cons.mpr ⟨rfl, hbefore⟩)
        (List.cons_ne_nil _ _)
    rw [hwalk, List.append_assoc]
    rfl

/-- A location leads somewhere when its text can be one and the directories before its last part
are there. -/
theorem locate_of_walk {location : Location} {before directory : List String} {link : String}
    (htext : location.text ≠ "") (hnul : location.text.toList.contains '\x00' = false)
    (hsize : location.text.utf8ByteSize ≤ maxPathSize)
    (hlinks : location.links = before ++ [link])
    (hwalk : tree.walk location.start before = .ok directory) :
    tree.locate location = .ok (.ofLink directory link) := by
  rw [FileTree.locate, if_neg htext, if_neg (Bool.eq_false_iff.mp hnul),
    if_neg (Nat.not_lt.mpr hsize),
    hlinks, List.getLast?_concat, List.dropLast_concat, hwalk]

/-- The text of a location that leads somewhere is neither empty nor too long, and holds no
character that ends texts. -/
theorem text_of_locate {location : Location} {place : Place}
    (h : tree.locate location = .ok place) :
    location.text ≠ "" ∧ location.text.toList.contains '\x00' = false ∧
      location.text.utf8ByteSize ≤ maxPathSize := by
  rw [FileTree.locate] at h
  split_ifs at h with hempty hnul hlong
  exact ⟨hempty, Bool.eq_false_iff.mpr hnul, Nat.not_lt.mp hlong⟩

/-- The parts of a path below a directory that are not empty are some that lead to the directory,
and the entries. -/
theorem links_join (directory : String) :
    ∃ links, follow (Location.ofText directory).start links = namesOf directory ∧
      ∀ entry, IsEntryText entry →
        (Location.ofText (join directory entry)).links = links ++ entriesOf entry := by
  obtain ⟨before, -, hfollow, hjoin⟩ := ofText_join directory
  refine ⟨before.filter (· ≠ ""), ?_, fun entry hentry => ?_⟩
  · rw [follow_links, hfollow]
    rfl
  · have hentries : (entriesOf entry).filter (· ≠ "") = entriesOf entry := by
      refine List.filter_eq_self.mpr fun part hpart => ?_
      have hidle := (hentry.2 part hpart).1
      rw [Location.isIdle, Bool.or_eq_false_iff] at hidle
      simpa using hidle.1
    rw [hjoin entry hentry.1, Location.links, List.filter_append, hentries]

theorem start_join (directory : String) {entry : String} (hentry : IsEntryText entry) :
    (Location.ofText (join directory entry)).start = (Location.ofText directory).start := by
  obtain ⟨before, -, -, hjoin⟩ := ofText_join directory
  rw [hjoin entry hentry.1]
  rfl

/-- A text that is put behind a directory has a last part. -/
theorem exists_entriesOf_eq_append (entry : String) :
    ∃ before link, entriesOf entry = before ++ [link] := by
  obtain ⟨before, link, hentries⟩ := List.eq_nil_or_concat (entriesOf entry) |>.resolve_left
    (by simp [entriesOf, Location.cut, List.splitOn_ne_nil])
  exact ⟨before, link, hentries.trans List.concat_eq_append⟩

/-- A directory is reached on the way to what is reached below it. -/
theorem walk_of_reaches_join {directory other : String} (hother : IsEntryText other)
    {links : List String} (hlinks : (Location.ofText (join directory other)).links =
      links ++ entriesOf other) (hreach : tree.Reaches (join directory other)) :
    ∃ there, tree.walk (Location.ofText directory).start links = .ok there := by
  obtain ⟨⟨place, hlocate, -⟩, -⟩ := hreach
  obtain ⟨parts, last, hparts⟩ := exists_entriesOf_eq_append other
  rw [hparts, ← List.append_assoc] at hlinks
  rcases locate_eq_ok hlocate with ⟨hnil, -⟩ | ⟨before, link, there, hlinks', hwalk, -⟩
  · rw [hlinks] at hnil
    simp at hnil
  · rw [hlinks] at hlinks'
    obtain ⟨rfl, -⟩ := List.append_inj' hlinks' rfl
    rw [start_join directory hother, walk_append] at hwalk
    obtain ⟨between, hbetween, -⟩ := hwalk
    exact ⟨between, hbetween⟩

/-- The path of an entry below a directory can be one when that of a longer entry leads
somewhere. -/
theorem text_join {directory entry other : String} {place : Place} (hentry : IsEntryText entry)
    (hother : IsEntryText other) (hsize : entry.utf8ByteSize ≤ other.utf8ByteSize)
    (hnul : entry.toList.contains '\x00' = false)
    (h : tree.locate (Location.ofText (join directory other)) = .ok place) :
    (Location.ofText (join directory entry)).text ≠ "" ∧
      (Location.ofText (join directory entry)).text.toList.contains '\x00' = false ∧
      (Location.ofText (join directory entry)).text.utf8ByteSize ≤ maxPathSize := by
  -- Both paths begin with the same text.
  obtain ⟨before, hbefore⟩ := join_eq_append directory
  obtain ⟨-, hotherNul, hotherSize⟩ := text_of_locate h
  rw [text_ofText, hbefore other hother.1] at hotherNul hotherSize
  rw [text_ofText, hbefore entry hentry.1]
  refine ⟨fun hempty => ?_, ?_, ?_⟩
  · rw [(String.append_eq_empty_iff.mp hempty).2] at hentry
    exact absurd hentry (by decide)
  · rw [String.toList_append] at hotherNul ⊢
    simp only [List.contains_eq_mem, List.mem_append, decide_eq_false_iff_not, not_or]
      at hotherNul hnul ⊢
    exact ⟨hotherNul.1, hnul⟩
  · rw [String.utf8ByteSize_append] at hotherSize ⊢
    omega

/-- **What is known below a directory is reached when something else below it is.** -/
theorem reaches_join {directory entry other : String} (hentry : IsEntryText entry)
    (hother : IsEntryText other) (hsize : entry.utf8ByteSize ≤ other.utf8ByteSize)
    (hnul : entry.toList.contains '\x00' = false)
    (hshort : ∀ part ∈ entriesOf entry, isTooLong part = false)
    (hreach : tree.Reaches (join directory other))
    (hknown : ∀ before, before <+: (entriesOf entry).dropLast → before ≠ [] →
      ∃ mode, tree.find? (namesOf directory ++ before) = some (.directory mode)) :
    tree.Reaches (join directory entry) := by
  obtain ⟨links, hfollow, hlinks⟩ := links_join directory
  obtain ⟨there, hwalk⟩ := walk_of_reaches_join hother (hlinks other hother) hreach
  obtain rfl : there = namesOf directory := by
    rw [← hfollow, follow_of_walk hwalk]
  obtain ⟨parts, link, hparts⟩ := exists_entriesOf_eq_append entry
  rw [hparts, List.dropLast_concat] at hknown
  have hmem : ∀ part ∈ parts, IsEntryName part ∧ isTooLong part = false := fun part hpart =>
    ⟨hentry.2 part (by simp [hparts, hpart]), hshort part (by simp [hparts, hpart])⟩
  have hthrough : tree.walk (Location.ofText (join directory entry)).start (links ++ parts) =
      .ok (namesOf directory ++ parts) := by
    rw [start_join directory hentry]
    exact walk_append.mpr ⟨_, hwalk, walk_eq_append _ hmem hknown⟩
  have hall := hlinks entry hentry
  rw [hparts, ← List.append_assoc] at hall
  obtain ⟨⟨place, hlocate, -⟩, -⟩ := hreach
  obtain ⟨hempty, hfree, hfits⟩ := text_join hentry hother hsize hnul hlocate
  have hlink : link ≠ "" := by
    rintro rfl
    exact absurd (hentry.2 "" (by simp [hparts])).1 (by decide)
  refine ⟨⟨_, locate_of_walk hempty hfree hfits hall hthrough, fun name hname => ?_⟩, ?_⟩
  · rw [Place.ofLink] at hname
    split_ifs at hname
    cases hname
    exact hshort _ (by simp [hparts])
  · obtain ⟨front, -, -, hjoin⟩ := ofText_join directory
    rw [hjoin entry hentry.1, Location.endsInSlash, hparts, ← List.append_assoc,
      List.getLast?_concat]
    simpa using hlink

end RemoteGateway.FileTree
