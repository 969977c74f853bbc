import RemoteGateway.Proofs.FileTree.Keeping

/-!
# Where paths lead

Nothing in a tree sends a walk elsewhere, so the **destination** of a path can be read off its
text: `namesOf` follows the parts as if every directory were there. A tree only decides whether
the destination is reached, and a location that leads somewhere leads to its destination
(`names_of_locate`). Two paths mean the same file in every tree exactly when their destinations
are the same, and below a directory the destination is that of the directory and the entry behind
it (`namesOf_join`).

On its way to a destination a path passes directories; those **on the way** are the destinations
of the beginnings of its text.
-/

namespace RemoteGateway.FileTree

/-! ### Following parts -/

/-- Where parts of a location lead from a directory when every directory on the way is there. -/
def follow (here : List String) : List String → List String
  | [] => here
  | part :: rest =>
    if Location.isIdle part then follow here rest
    else if part = ".." then follow (up here) rest
    else follow (here ++ [part]) rest

/-- The destination of a path. -/
def namesOf (path : String) : List String :=
  follow (Location.ofText path).start (Location.ofText path).parts

/-- A part that names an entry of the directory reached. -/
def IsEntryName (part : String) : Prop :=
  Location.isIdle part = false ∧ part ≠ ".."

instance : DecidablePred IsEntryName :=
  fun part => inferInstanceAs (Decidable (_ = false ∧ part ≠ ".."))

/-- The parts of a text that is put behind a directory. -/
def entriesOf (text : String) : List String :=
  Location.cut text.toList

/-- A text that leads downwards only, behind whatever directory it is put. -/
def IsEntryText (text : String) : Prop :=
  text.toList.head? ≠ some '/' ∧ ∀ part ∈ entriesOf text, IsEntryName part

instance : DecidablePred IsEntryText :=
  fun text => inferInstanceAs
    (Decidable (text.toList.head? ≠ some '/' ∧ ∀ part ∈ entriesOf text, IsEntryName part))

theorem follow_append (here parts more : List String) :
    follow here (parts ++ more) = follow (follow here parts) more := by
  fun_induction follow here parts with
  | case1 => rfl
  | case2 here part rest hidle ih => rw [List.cons_append, follow, if_pos hidle, ih]
  | case3 here rest hidle ih => rw [List.cons_append, follow, if_neg hidle, if_pos rfl, ih]
  | case4 here part rest hidle hup ih =>
    rw [List.cons_append, follow, if_neg hidle, if_neg hup, ih]

/-- Empty parts lead nowhere else. -/
theorem follow_links (here parts : List String) :
    follow here (parts.filter (· ≠ "")) = follow here parts := by
  induction parts generalizing here with
  | nil => rfl
  | cons part rest ih =>
    by_cases hempty : part = ""
    · subst hempty
      exact ih here
    · rw [List.filter_cons_of_pos (by simpa using hempty), follow, follow]
      split_ifs
      · exact ih here
      · exact ih (up here)
      · exact ih (here ++ [part])

/-- Names of entries are put behind the directory. -/
theorem follow_eq_append {parts : List String} (h : ∀ part ∈ parts, IsEntryName part)
    (here : List String) : follow here parts = here ++ parts := by
  induction parts generalizing here with
  | nil => rw [List.append_nil, follow]
  | cons part rest ih =>
    obtain ⟨⟨hidle, hup⟩, hrest⟩ := List.forall_mem_cons.mp h
    rw [follow, if_neg (by simp [hidle]), if_neg hup, ih hrest, List.append_assoc]
    rfl

/-! ### Walks and locations -/

variable {tree : FileTree}

theorem walk_append {here there : List String} {parts more : List String} :
    tree.walk here (parts ++ more) = .ok there ↔
      ∃ between, tree.walk here parts = .ok between ∧ tree.walk between more = .ok there := by
  fun_induction FileTree.walk tree here parts with
  | case1 => simp
  | case2 here part rest hidle ih => rw [List.cons_append, FileTree.walk, if_pos hidle, ih]
  | case3 here rest hidle ih => rw [List.cons_append, FileTree.walk, if_neg hidle, if_pos rfl, ih]
  | case4 here part rest hidle hup hlong =>
    rw [List.cons_append, FileTree.walk, if_neg hidle, if_neg hup, if_pos hlong]
    simp
  | case5 here part rest hidle hup hlong hfind | case6 here part rest hidle hup hlong _ _ hfind =>
    rw [List.cons_append, FileTree.walk, if_neg hidle, if_neg hup, if_neg hlong, hfind]
    simp
  | case7 here part rest hidle hup hlong mode hfind ih =>
    rw [List.cons_append, FileTree.walk, if_neg hidle, if_neg hup, if_neg hlong, hfind]
    exact ih

/-- A walk that succeeds follows its parts. -/
theorem follow_of_walk {here there : List String} {parts : List String}
    (h : tree.walk here parts = .ok there) : follow here parts = there := by
  fun_induction FileTree.walk tree here parts with
  | case1 => cases h; rfl
  | case2 here part rest hidle ih => rw [follow, if_pos hidle, ih h]
  | case3 here rest hidle ih => rw [follow, if_neg hidle, if_pos rfl, ih h]
  | case4 | case5 | case6 => cases h
  | case7 here part rest hidle hup hlong mode hfind ih =>
    rw [follow, if_neg hidle, if_neg hup, ih h]

/-- A location that leads somewhere leads to the directories before its last part. -/
theorem locate_eq_ok {location : Location} {place : Place}
    (h : tree.locate location = .ok place) :
    (location.links = [] ∧ place = ⟨location.start, none⟩) ∨
      ∃ before link directory, location.links = before ++ [link] ∧
        tree.walk location.start before = .ok directory ∧ place = .ofLink directory link := by
  rw [FileTree.locate] at h
  split_ifs at h
  rcases List.eq_nil_or_concat location.links with hlinks | ⟨before, link, hlinks⟩
  · rw [hlinks] at h
    cases h
    exact .inl ⟨hlinks, rfl⟩
  · rw [hlinks, List.concat_eq_append, List.getLast?_concat, List.dropLast_concat] at h
    rw [List.concat_eq_append] at hlinks
    cases hwalk : tree.walk location.start before with
    | error fault =>
      simp only [hwalk] at h
      cases h
    | ok directory =>
      simp only [hwalk, Except.ok.injEq] at h
      exact .inr ⟨before, link, directory, hlinks, hwalk, h.symm⟩

/-- The last part of a location leads on like any other. -/
theorem names_ofLink {link : String} (h : link ≠ "") (directory : List String) :
    (Place.ofLink directory link).names = follow directory [link] := by
  rw [Place.ofLink, follow, follow, follow, follow, Location.isIdle]
  by_cases hdot : link = "."
  · simp [hdot, Place.names]
  · by_cases hup : link = ".."
    · simp [hup, Place.names]
    · simp [h, hdot, hup, Place.names]

/-- **A location that leads somewhere leads to its destination.** -/
theorem names_of_locate {location : Location} {place : Place}
    (h : tree.locate location = .ok place) :
    place.names = follow location.start location.parts := by
  rw [← follow_links, ← Location.links]
  rcases locate_eq_ok h with ⟨hlinks, rfl⟩ | ⟨before, link, directory, hlinks, hwalk, rfl⟩
  · rw [hlinks]
    exact List.append_nil _
  · have hlink : link ≠ "" := by
      have hmem : link ∈ location.links := by
        rw [hlinks]
        exact List.mem_append_right _ (List.mem_singleton_self _)
      simpa using (List.mem_filter.mp hmem).2
    rw [hlinks, follow_append, follow_of_walk hwalk, names_ofLink hlink]

/-! ### Below a directory -/

theorem cut_append (text more : List Char) :
    Location.cut (text ++ '/' :: more) = Location.cut text ++ Location.cut more := by
  rw [Location.cut, List.splitOn_append_cons_self, List.map_append]
  rfl

theorem ofText_of_absolute {path : String} {rest : List Char} (h : path.toList = '/' :: rest) :
    Location.ofText path = ⟨true, Location.cut rest⟩ := by
  rw [Location.ofText, h]
  rfl

theorem ofText_of_relative {path : String} (h : path.toList.head? ≠ some '/') :
    Location.ofText path = ⟨false, Location.cut path.toList⟩ := by
  rw [Location.ofText]
  split
  · next rest hrest => exact absurd (by rw [hrest]; rfl) h
  · rfl

/-- The text of a path below a directory is that of the directory without a last slash, a slash,
and the entry. -/
theorem toList_join {directory : String} (hdirectory : directory ≠ "") :
    ∃ text, (directory.toList = text ∨ directory.toList = text ++ ['/']) ∧
      ∀ entry : String, entry.toList.head? ≠ some '/' →
        (join directory entry).toList = text ++ '/' :: entry.toList := by
  by_cases hslash : directory.toList.getLast? = some '/'
  · obtain ⟨text, htext⟩ := List.getLast?_eq_some_iff.mp hslash
    refine ⟨text, .inr htext, fun entry hentry => ?_⟩
    rw [join, if_neg (not_or.mpr ⟨hdirectory, hentry⟩), if_pos hslash, String.toList_append, htext,
      List.append_assoc]
    rfl
  · refine ⟨directory.toList, .inl rfl, fun entry hentry => ?_⟩
    rw [join, if_neg (not_or.mpr ⟨hdirectory, hentry⟩), if_neg hslash, String.toList_append,
      String.toList_append, List.append_assoc]
    rfl

/-- A slash at the end adds an empty part. -/
theorem follow_cut_slash {text rest : List Char} (h : rest = text ∨ rest = text ++ ['/']) :
    Location.cut text <+: Location.cut rest ∧
      ∀ here, follow here (Location.cut text) = follow here (Location.cut rest) := by
  rcases h with rfl | rfl
  · exact ⟨List.prefix_refl _, fun here => rfl⟩
  · rw [cut_append]
    refine ⟨List.prefix_append _ _, fun here => ?_⟩
    rw [follow_append]
    rfl

/-- The parts of a path below a directory are parts that lead where the directory is, and behind
them those of the entry. -/
theorem ofText_join (directory : String) :
    ∃ before, before <+: (Location.ofText directory).parts ∧
      (∀ here, follow here before = follow here (Location.ofText directory).parts) ∧
      ∀ entry : String, entry.toList.head? ≠ some '/' → Location.ofText (join directory entry) =
        ⟨(Location.ofText directory).absolute, before ++ entriesOf entry⟩ := by
  by_cases hne : directory = ""
  · subst hne
    refine ⟨[], List.nil_prefix, fun here => rfl, fun entry hentry => ?_⟩
    rw [join, if_pos (.inl rfl), ofText_of_relative hentry]
    rfl
  obtain ⟨text, hdirectory, hjoin⟩ := toList_join hne
  match text with
  | [] =>
    have habsolute : directory.toList = '/' :: [] :=
      hdirectory.resolve_left fun h => hne (String.toList_inj.mp h)
    refine ⟨[], List.nil_prefix, fun here => ?_, fun entry hentry => ?_⟩
    · rw [ofText_of_absolute habsolute]
      rfl
    · rw [ofText_of_absolute habsolute, ofText_of_absolute (hjoin entry hentry)]
      rfl
  | c :: text =>
    by_cases hslash : c = '/'
    · subst hslash
      obtain ⟨rest, hrest, hcases⟩ : ∃ rest, directory.toList = '/' :: rest ∧
          (rest = text ∨ rest = text ++ ['/']) := by
        rcases hdirectory with h | h
        · exact ⟨_, h, .inl rfl⟩
        · exact ⟨_, h, .inr rfl⟩
      obtain ⟨hbegins, hfollow⟩ := follow_cut_slash hcases
      rw [ofText_of_absolute hrest]
      refine ⟨_, hbegins, hfollow, fun entry hentry => ?_⟩
      have habsolute : (join directory entry).toList = '/' :: (text ++ '/' :: entry.toList) :=
        hjoin entry hentry
      rw [ofText_of_absolute habsolute, cut_append]
      rfl
    · have hhead : directory.toList.head? ≠ some '/' := by
        rcases hdirectory with h | h <;> simpa [h] using hslash
      obtain ⟨hbegins, hfollow⟩ := follow_cut_slash hdirectory
      rw [ofText_of_relative hhead]
      refine ⟨_, hbegins, hfollow, fun entry hentry => ?_⟩
      have hjoinhead : (join directory entry).toList.head? ≠ some '/' := by
        simpa [hjoin entry hentry] using hslash
      rw [ofText_of_relative hjoinhead, hjoin entry hentry, cut_append]
      rfl

/-- **Below a directory, the destination is that of the directory and the entry behind it.** -/
theorem namesOf_join (directory : String) {entry : String} (h : IsEntryText entry) :
    namesOf (join directory entry) = namesOf directory ++ entriesOf entry := by
  obtain ⟨before, -, hfollow, hjoin⟩ := ofText_join directory
  rw [namesOf, hjoin entry h.1, follow_append, hfollow, follow_eq_append h.2]
  rfl

/-! ### Directories on the way -/

/-- The directories that a path passes are the destinations of the beginnings of its text. -/
def IsOnWay (path : String) (names : List String) : Prop :=
  ∃ parts, parts <+: (Location.ofText path).parts ∧
    follow (Location.ofText path).start parts = names

/-- The way to an entry below a directory is that to the directory, and then goes down. -/
theorem isOnWay_join {directory entry : String} {names : List String} (hentry : IsEntryText entry)
    (h : IsOnWay (join directory entry) names) :
    IsOnWay directory names ∨
      ∃ parts, parts <+: entriesOf entry ∧ names = namesOf directory ++ parts := by
  obtain ⟨before, hbegins, hfollow, hjoin⟩ := ofText_join directory
  obtain ⟨parts, ⟨rest, hrest⟩, rfl⟩ := h
  rw [hjoin entry hentry.1] at hrest ⊢
  rcases List.append_eq_append_iff.mp hrest with ⟨more, rfl, -⟩ | ⟨more, rfl, hmore⟩
  · exact .inl ⟨parts, (List.prefix_append _ _).trans hbegins, rfl⟩
  · have hbegins : more <+: entriesOf entry := ⟨rest, hmore.symm⟩
    refine .inr ⟨more, hbegins, ?_⟩
    rw [follow_append, hfollow,
      follow_eq_append fun part hpart => hentry.2 part (hbegins.subset hpart)]
    rfl

theorem mem_beginnings {before parts beginning : List String}
    (h : beginning ∈ Location.beginnings before parts) :
    ∃ front back, parts = front ++ back ∧ beginning = before ++ front ∧
      ∃ part ∈ front, Location.isIdle part = false := by
  induction parts generalizing before with
  | nil => exact absurd h List.not_mem_nil
  | cons first rest ih =>
    rw [Location.beginnings] at h
    split_ifs at h with hidle
    · obtain ⟨front, back, rfl, rfl, part, hpart, hproper⟩ := ih h
      exact ⟨first :: front, back, rfl, by simp, part, List.mem_cons_of_mem _ hpart, hproper⟩
    · rcases List.mem_cons.mp h with rfl | h
      · exact ⟨[first], rest, rfl, rfl, first, List.mem_cons_self, by simpa using hidle⟩
      · obtain ⟨front, back, rfl, rfl, part, hpart, hproper⟩ := ih h
        exact ⟨first :: front, back, rfl, by simp, part, List.mem_cons_of_mem _ hpart, hproper⟩

/-- Behind each beginning but the last there is a part that leads on. -/
theorem mem_dropLast_beginnings {before parts beginning : List String}
    (h : beginning ∈ (Location.beginnings before parts).dropLast) :
    ∃ front back, parts = front ++ back ∧ beginning = before ++ front ∧
      ∃ part ∈ back, Location.isIdle part = false := by
  induction parts generalizing before with
  | nil => exact absurd h List.not_mem_nil
  | cons first rest ih =>
    have hlater : beginning ∈ (Location.beginnings (before ++ [first]) rest).dropLast →
        ∃ front back, first :: rest = front ++ back ∧ beginning = before ++ front ∧
          ∃ part ∈ back, Location.isIdle part = false := by
      intro h
      obtain ⟨front, back, rfl, rfl, hback⟩ := ih h
      exact ⟨first :: front, back, rfl, by simp, hback⟩
    rw [Location.beginnings] at h
    split_ifs at h with hidle
    · exact hlater h
    · cases hbeginnings : Location.beginnings (before ++ [first]) rest with
      | nil =>
        rw [hbeginnings] at h
        exact absurd h List.not_mem_nil
      | cons other others =>
        rw [hbeginnings] at h hlater
        rcases List.mem_cons.mp h with rfl | h
        · -- The first beginning has the others behind it.
          obtain ⟨front, back, rfl, -, part, hpart, hproper⟩ :=
            mem_beginnings (hbeginnings ▸ List.mem_cons_self : other ∈ _)
          exact ⟨[first], front ++ back, rfl, rfl, part, List.mem_append_left _ hpart, hproper⟩
        · exact hlater h

/-- A location above another one is a beginning of it, and a part that leads on follows. -/
theorem mem_above {location other : Location} (h : other ∈ location.above) :
    ∃ back, location = { other with parts := other.parts ++ back } ∧
      ∃ part ∈ back, Location.isIdle part = false := by
  rw [Location.above] at h
  obtain ⟨parts, hparts, rfl⟩ := List.mem_map.mp h
  obtain ⟨front, back, hsplit, rfl, hback⟩ := mem_dropLast_beginnings hparts
  exact ⟨back, congrArg (Location.mk location.absolute) hsplit, hback⟩

end RemoteGateway.FileTree
