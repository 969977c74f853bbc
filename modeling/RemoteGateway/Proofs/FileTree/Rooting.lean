import RemoteGateway.Proofs.FileTree.Replacing
import RemoteGateway.Proofs.Outcome

/-!
# Rooted trees

A tree is **rooted** when everything that is known stands in a directory. `Edit` says what one
step can make of any tree; it never takes a directory away, and it puts things only where a
directory is above them. So the empty tree is rooted, and a rooted tree stays so whatever steps
are taken on it (`IsRooted.perform`).
-/

namespace RemoteGateway.FileTree

variable {tree after : FileTree}

/-- Above everything that is known there are directories. -/
def IsRooted (tree : FileTree) : Prop :=
  ∀ names node, tree.find? names = some node → tree.Stands names.dropLast

/-! ### Single steps -/

/-- What one step can make of a tree: it puts something where a directory is above it, in place of
a directory only another one, or takes away a file. -/
inductive Edit (tree : FileTree) : FileTree → Prop
  | keep : Edit tree tree
  | put {names : List String} {node : Node} (habove : tree.Stands names.dropLast)
      (hkind : ∀ mode, tree.find? names = some (.directory mode) → ∃ bits, node = .directory bits) :
      Edit tree (tree.put names node)
  | erase {names : List String} {content : ByteArray} {mode : Nat}
      (hfile : tree.find? names = some (.file content mode)) : Edit tree (tree.erase names)

/-- What a location leads to stands in a directory. -/
theorem stands_of_locate {location : Location} {place : Place}
    (h : tree.locate location = .ok place) : tree.Stands place.names.dropLast := by
  have hstands := (locate_spec h).1
  rw [Place.names]
  cases place.entry with
  | none =>
    rw [Option.toList_none, List.append_nil]
    exact fun before hbefore => hstands before (hbefore.trans (List.dropLast_prefix _))
  | some entry =>
    rw [Option.toList_some, List.dropLast_concat]
    exact hstands

/-- What is seen at a place is known to stand there, or is a directory that is meant itself. -/
theorem find?_of_look {place : Place} {node : Node} (h : tree.look place = .ok (some node)) :
    tree.find? place.names = some node ∨
      tree.find? place.names = none ∧ node = .directory directoryMode := by
  rw [FileTree.look] at h
  cases hentry : place.entry with
  | none =>
    rw [Place.names, hentry, Option.toList_none, List.append_nil]
    simp only [hentry, Except.ok.injEq, Option.some.injEq] at h
    cases hfind : tree.find? place.directory with
    | none => exact .inr ⟨rfl, by rw [← h, hfind]; rfl⟩
    | some found => exact .inl (by rw [← h, hfind]; rfl)
  | some entry =>
    simp only [hentry] at h
    split_ifs at h
    exact .inl (Except.ok.inj h)

/-- Putting something of the same kind where a location leads is one step. -/
theorem edit_of_look {location : Location} {place : Place} {found : Option Node} {node : Node}
    (hlocate : tree.locate location = .ok place) (hlook : tree.look place = .ok found)
    (hkind : ∀ mode, found = some (.directory mode) → ∃ bits, node = .directory bits) :
    tree.Edit (tree.put place.names node) := by
  refine .put (stands_of_locate hlocate) fun mode hmode => ?_
  cases found with
  | none =>
    rw [FileTree.look] at hlook
    cases hentry : place.entry with
    | none =>
      simp only [hentry] at hlook
      cases hlook
    | some entry =>
      simp only [hentry] at hlook
      split_ifs at hlook
      rw [Except.ok.inj hlook] at hmode
      cases hmode
  | some found =>
    rcases find?_of_look hlook with hfind | ⟨hnone, -⟩
    · rw [hfind] at hmode
      exact hkind mode hmode
    · rw [hnone] at hmode
      cases hmode

/-- What is resolved was located and seen. -/
theorem resolve_eq_ok {location : Location} {names : List String} {node : Node}
    (h : tree.resolve location = .ok (names, node)) :
    ∃ place, tree.locate location = .ok place ∧ tree.look place = .ok (some node) ∧
      names = place.names := by
  rw [resolve] at h
  split at h
  · cases h
  next place hlocate =>
  refine ⟨place, hlocate, ?_⟩
  split at h
  · cases h
  · cases h
  · next mode hlook =>
    cases h
    exact ⟨hlook, rfl⟩
  · next content mode hlook =>
    split_ifs at h
    cases h
    exact ⟨hlook, rfl⟩

theorem edit_of_apply {step : Step} (h : step.apply tree = .ok after) : tree.Edit after := by
  cases step with
  | survey locations =>
    obtain ⟨-, -, rfl⟩ := Outcome.map_eq_ok.mp h
    exact .keep
  | directory location =>
    rw [Step.apply] at h
    split at h
    · next names hvacancy =>
      cases h
      obtain ⟨place, entry, hlocate, -, -, rfl, -⟩ := vacancy_eq_ok hvacancy
      exact .put (stands_of_locate hlocate) fun _ _ => ⟨_, rfl⟩
    · split_ifs at h
      cases h
      exact .keep
  | create location mode =>
    rw [Step.apply] at h
    split at h
    · cases h
    next place hlocate =>
    split_ifs at h
    split at h
    · cases h
    · next hlook =>
      cases h
      exact edit_of_look hlocate hlook fun _ hmode => by cases hmode
    · next hlook =>
      cases h
      exact edit_of_look hlocate hlook fun _ hmode => by cases hmode
    · cases h
  | fill location content =>
    rw [Step.apply] at h
    split at h
    · cases h
    · cases h
    · next names _ mode hresolve =>
      cases h
      obtain ⟨place, hlocate, hlook, rfl⟩ := resolve_eq_ok hresolve
      exact edit_of_look hlocate hlook fun _ hmode => by cases hmode
  | setMode location mode =>
    rw [Step.apply] at h
    split at h
    · cases h
    · next names node hresolve =>
      cases h
      obtain ⟨place, hlocate, hlook, rfl⟩ := resolve_eq_ok hresolve
      refine edit_of_look hlocate hlook fun bits hbits => ?_
      rw [Option.some.inj hbits]
      exact ⟨mode, rfl⟩
  | remove location =>
    rw [Step.apply] at h
    split at h
    · cases h
    · cases h
    · next names content mode hresolve =>
      cases h
      obtain ⟨place, -, hlook, rfl⟩ := resolve_eq_ok hresolve
      exact .erase ((find?_of_look hlook).resolve_right fun hnone => by cases hnone.2)
  | replace location content mode =>
    obtain ⟨place, entry, hlocate, -, -, -, hfree, rfl⟩ := apply_replace h
    exact .put (stands_of_locate hlocate) fun bits hbits => absurd hbits (hfree bits)

/-! ### Trees stay rooted -/

/-- Directories stay directories, so what stands goes on standing. -/
theorem Edit.stands (h : tree.Edit after) {names : List String} (hnames : tree.Stands names) :
    after.Stands names := by
  intro before hbefore
  rcases hnames before hbefore with htop | ⟨mode, hmode⟩
  · exact .inl htop
  refine .inr ?_
  cases h with
  | keep => exact ⟨mode, hmode⟩
  | @put other node _ hkind =>
    by_cases hother : before = other
    · subst hother
      obtain ⟨bits, rfl⟩ := hkind mode hmode
      exact ⟨bits, find?_put_self _ _ _⟩
    · exact ⟨mode, (find?_put_of_ne _ _ hother).trans hmode⟩
  | @erase other _ _ hfile =>
    refine ⟨mode, (find?_erase_of_ne _ ?_).trans hmode⟩
    rintro rfl
    rw [hfile] at hmode
    cases hmode

/-- **A step leaves a rooted tree rooted.** -/
theorem IsRooted.edit (hrooted : tree.IsRooted) (h : tree.Edit after) : after.IsRooted := by
  intro names node hfind
  refine h.stands ?_
  cases h with
  | keep => exact hrooted names node hfind
  | @put other new habove =>
    by_cases hother : names = other
    · exact hother ▸ habove
    · exact hrooted names node ((find?_put_of_ne _ _ hother).symm.trans hfind)
  | @erase other =>
    by_cases hother : names = other
    · rw [hother, find?_erase_self] at hfind
      cases hfind
    · exact hrooted names node ((find?_erase_of_ne _ hother).symm.trans hfind)

/-- **However far steps get, a rooted tree stays rooted.** -/
theorem IsRooted.perform (hrooted : tree.IsRooted) (steps : List Step) :
    (tree.perform steps).2.IsRooted := by
  induction steps generalizing tree with
  | nil => exact hrooted
  | cons step rest ih =>
    rw [FileTree.perform]
    cases happly : step.apply tree with
    | error fault => exact hrooted
    | ok next => exact ih (hrooted.edit (edit_of_apply happly))

/-- Above what stands in a named directory there is that one. -/
theorem IsRooted.find?_above (hrooted : tree.IsRooted) {names : List String} {part link : String}
    {node : Node} (hpart : part ≠ "/" ∧ part ≠ "..")
    (h : tree.find? (names ++ [part, link]) = some node) :
    ∃ mode, tree.find? (names ++ [part]) = some (.directory mode) := by
  have hstands := hrooted _ _ h
  rw [List.dropLast_append_of_ne_nil (List.cons_ne_nil _ _)] at hstands
  have hmem : part ∈ names ++ [part] := List.mem_append_right _ (List.mem_singleton_self _)
  rcases hstands (names ++ [part]) (List.prefix_refl _) with (htop | htop) | hdirectory
  · rw [htop, List.mem_singleton] at hmem
    exact absurd hmem hpart.1
  · exact absurd (htop part hmem) hpart.2
  · exact hdirectory

theorem isRooted_empty : empty.IsRooted :=
  fun _ _ hfind => by cases hfind

end RemoteGateway.FileTree
