import RemoteGateway.Proofs.FileTree.Staging

/-!
# Private files

A private file is opened, gets its mode bits and is filled, in this order. Opening a file that was
there before takes its content away and leaves its bits, which may be wider than those that are
asked for, so the bits have to be set before a byte of the new content is written.

A **moment** of a plan is a state that the tree can have while its steps are taken: each step may
fail, because of the tree or of the host, and a file may be filled in part only (`Moment`). At every
moment of writing a private file the bytes that were written are under the requested bits, and as
long as the file has other bits the tree does not depend on the new content (`writePrivate_guards`).
-/

namespace RemoteGateway.FileTree

variable {tree next now : FileTree} {path : String} {content : ByteArray} {mode : Nat}
  {steps more : List Step}

/-! ### Moments -/

/-- Some bytes are the first ones of others. -/
def Begins (piece content : ByteArray) : Prop :=
  piece.data.toList <+: content.data.toList

/-- What a tree can be while some steps are taken in order, however far that gets. -/
inductive Moment : FileTree → List Step → FileTree → Prop
  /-- No step has been taken yet, or the first one fails. -/
  | before (tree : FileTree) (steps : List Step) : Moment tree steps tree
  /-- A file is being filled, or the filling broke off. -/
  | amid {tree now : FileTree} {location : Location} {content piece : ByteArray} {rest : List Step}
      (hpiece : Begins piece content) (happly : Step.apply tree (.fill location piece) = .ok now) :
      Moment tree (.fill location content :: rest) now
  /-- The first step has been taken. -/
  | behind {tree next now : FileTree} {step : Step} {rest : List Step}
      (happly : step.apply tree = .ok next) (hrest : Moment next rest now) :
      Moment tree (step :: rest) now

/-- However steps end, the tree is one of their moments then. -/
theorem moment_perform (tree : FileTree) (steps : List Step) :
    Moment tree steps (tree.perform steps).2 := by
  induction steps generalizing tree with
  | nil => exact .before tree []
  | cons step rest ih =>
    rw [perform]
    cases happly : step.apply tree with
    | error fault => exact .before tree _
    | ok next => exact .behind happly (ih next)

theorem Moment.append (h : Moment tree steps now) (more : List Step) :
    Moment tree (steps ++ more) now := by
  induction h with
  | before tree steps => exact .before tree _
  | amid hpiece happly => exact .amid hpiece happly
  | behind happly _ ih => exact .behind happly ih

/-- The tree after the first steps is a moment of all of them. -/
theorem moment_take (tree : FileTree) (steps : List Step) (count : Nat) :
    Moment tree steps (tree.perform (steps.take count)).2 := by
  have h := (moment_perform tree (steps.take count)).append (steps.drop count)
  rwa [List.take_append_drop] at h

/-- A moment of steps in two parts is one of the first part, or one of the second part when all of
the first has happened. -/
theorem moment_append (h : Moment tree (steps ++ more) now) :
    Moment tree steps now ∨
      ∃ next, tree.perform steps = (.ok (), next) ∧ Moment next more now := by
  induction steps generalizing tree with
  | nil => exact .inr ⟨tree, rfl, h⟩
  | cons step rest ih =>
    cases h with
    | before => exact .inl (.before _ _)
    | amid hpiece happly => exact .inl (.amid hpiece happly)
    | @behind _ next _ _ _ happly hrest =>
      rcases ih hrest with hfirst | ⟨last, hperform, hmore⟩
      · exact .inl (.behind happly hfirst)
      · refine .inr ⟨last, ?_, hmore⟩
        rw [perform, happly]
        exact hperform

/-- While directories are made there is no other change. -/
theorem Moment.changes_makeAll (h : Moment tree steps now)
    (hsteps : steps ⊆ makeAll (Location.ofText path).above) : Changes [] [path] tree now := by
  induction h with
  | before => exact .refl _
  | amid =>
    -- No step towards the directories fills a file.
    have hmem := hsteps List.mem_cons_self
    simp [makeAll] at hmem
  | behind happly _ ih =>
    have hfirst := prepares_of_mem_makeAll (hsteps List.mem_cons_self) _ _ happly
    exact hfirst.trans (ih fun step hstep => hsteps (List.mem_cons_of_mem _ hstep))

theorem changes_perform_makeAll
    (h : tree.perform (makeAll (Location.ofText path).above) = (.ok (), next)) :
    Changes [] [path] tree next := by
  have hmoment := moment_perform tree (makeAll (Location.ofText path).above)
  rw [h] at hmoment
  exact hmoment.changes_makeAll (List.Subset.refl _)

/-! ### Up to the filling -/

/-- The steps of writing a private file before a byte of its content is written. -/
def guardFile (path : String) (mode : Nat) : List Step :=
  makeAll (Location.ofText path).above ++
    [.create (.ofText path) mode, .setMode (.ofText path) mode]

theorem writePrivate_eq (path : String) (content : ByteArray) (mode : Nat) :
    writePrivate path content mode = guardFile path mode ++ [.fill (.ofText path) content] := by
  rw [writePrivate, guardFile, List.append_assoc]
  rfl

/-- Before the filling the file is as it was or it is empty. -/
theorem moment_guardFile (h : Moment tree (guardFile path mode) now) :
    ∃ made, Changes [] [path] tree made ∧
      (now = made ∨
        made.Admits path ∧ ∃ bits, now = made.put (namesOf path) (.file .empty bits)) := by
  rcases moment_append h with hmaking | ⟨made, hmake, hmoment⟩
  · exact ⟨now, hmaking.changes_makeAll (List.Subset.refl _), .inl rfl⟩
  refine ⟨made, changes_perform_makeAll hmake, ?_⟩
  cases hmoment with
  | before => exact .inl rfl
  | behind hcreate hmoment =>
    obtain ⟨hadmits, bits, rfl⟩ := apply_create hcreate
    refine .inr ⟨hadmits, ?_⟩
    cases hmoment with
    | before => exact ⟨bits, rfl⟩
    | behind hmode hmoment =>
      rw [apply_setMode_of_status (hadmits.put .empty bits).2] at hmode
      cases hmode
      cases hmoment
      exact ⟨mode, put_put _ _ _ _⟩

/-- When all that has happened the file is empty and has its mode bits. -/
theorem perform_guardFile (h : tree.perform (guardFile path mode) = (.ok (), next)) :
    ∃ made, Changes [] [path] tree made ∧ made.Admits path ∧
      next = made.put (namesOf path) (.file .empty mode) := by
  obtain ⟨made, hmake, h⟩ := perform_append_eq_ok h
  obtain ⟨opened, hcreate, h⟩ := perform_cons_eq_ok h
  obtain ⟨guarded, hmode, h⟩ := perform_cons_eq_ok h
  cases h
  obtain ⟨hadmits, bits, rfl⟩ := apply_create hcreate
  rw [apply_setMode_of_status (hadmits.put .empty bits).2] at hmode
  cases hmode
  exact ⟨made, changes_perform_makeAll hmake, hadmits, put_put _ _ _ _⟩

/-! ### The whole plan -/

/-- What holds of a tree at a moment of writing a private file. -/
structure Guards (path : String) (content : ByteArray) (mode : Nat) (tree now : FileTree) :
    Prop where
  /-- Nothing but the file changes, and directories are made on the way where nothing was. -/
  changes : Changes [path] [path] tree now
  /-- A file that holds bytes, and is not the one that was there before, has the requested bits and
  holds the first bytes of the content. -/
  written : ∀ found bits, now.find? (namesOf path) = some (.file found bits) →
    found ≠ .empty → tree.find? (namesOf path) ≠ some (.file found bits) →
      bits = mode ∧ Begins found content
  /-- As long as the file has not got the requested bits, the tree is one that it could be whatever
  the content. -/
  blind : (∀ found, now.find? (namesOf path) ≠ some (.file found mode)) →
    ∀ other, Moment tree (writePrivate path other mode) now

/-- A file that stands at the destination of a path after directories were made was there. -/
theorem Changes.find?_file {made : FileTree} (h : Changes [] [path] tree made) {found : ByteArray}
    {bits : Nat} (hfind : made.find? (namesOf path) = some (.file found bits)) :
    tree.find? (namesOf path) = some (.file found bits) :=
  h.find?_eq_of_file (fun _ hmem => absurd hmem List.not_mem_nil) hfind

/-- Where a file can be put after directories were made, putting it changes nothing else. -/
theorem Changes.put {made : FileTree} (h : Changes [] [path] tree made) (hadmits : made.Admits path)
    (piece : ByteArray) (bits : Nat) :
    Changes [path] [path] tree (made.put (namesOf path) (.file piece bits)) :=
  (h.mono (List.nil_subset _) (List.Subset.refl _)).trans
    ((hadmits.put piece bits).1.mono (List.Subset.refl _) (List.nil_subset _))

theorem guards_of_moment (h : Moment tree (writePrivate path content mode) now) :
    Guards path content mode tree now := by
  rw [writePrivate_eq] at h
  rcases moment_append h with hguard | ⟨guarded, hperform, hmoment⟩
  · have hblind : ∀ other, Moment tree (writePrivate path other mode) now := fun other => by
      rw [writePrivate_eq]
      exact hguard.append _
    obtain ⟨made, hmade, rfl | ⟨hadmits, bits, rfl⟩⟩ := moment_guardFile hguard
    · exact ⟨hmade.mono (List.nil_subset _) (List.Subset.refl _),
        fun found bits hfind _ hold => absurd (hmade.find?_file hfind) hold, fun _ => hblind⟩
    · refine ⟨hmade.put hadmits .empty bits, fun found bits hfind hbytes _ => ?_, fun _ => hblind⟩
      rw [find?_put_self] at hfind
      cases hfind
      exact absurd rfl hbytes
  · obtain ⟨made, hmade, hadmits, rfl⟩ := perform_guardFile hperform
    -- From here on the file has its bits, however much of the content is in it.
    have hfilled : ∃ piece, Begins piece content ∧
        now = made.put (namesOf path) (.file piece mode) := by
      have hstatus := (hadmits.put .empty mode).2
      cases hmoment with
      | before => exact ⟨.empty, List.nil_prefix, rfl⟩
      | @amid _ _ _ _ piece _ hpiece happly =>
        rw [apply_fill_of_status hstatus] at happly
        cases happly
        exact ⟨piece, hpiece, put_put _ _ _ _⟩
      | behind happly hmoment =>
        rw [apply_fill_of_status hstatus] at happly
        cases happly
        cases hmoment
        exact ⟨content, List.prefix_refl _, put_put _ _ _ _⟩
    obtain ⟨piece, hpiece, rfl⟩ := hfilled
    refine ⟨hmade.put hadmits piece mode, fun found bits hfind _ _ => ?_, fun hbits => ?_⟩
    · rw [find?_put_self] at hfind
      cases hfind
      exact ⟨rfl, hpiece⟩
    · exact absurd (find?_put_self _ _ _) (hbits piece)

/-- **The content of a private file is never under other mode bits.** At every moment of writing it,
also when a later step fails or the filling breaks off, the bytes that were written are under the
requested bits, and nothing else changes but that missing directories are made on the way. Once it
has been written the file has its content and its bits, whatever was there before. -/
theorem writePrivate_guards (tree : FileTree) (path : String) (content : ByteArray) (mode : Nat) :
    (∀ now, Moment tree (writePrivate path content mode) now →
      Guards path content mode tree now) ∧
    ∀ result after, tree.perform (writePrivate path content mode) = (result, after) →
      Guards path content mode tree after ∧
        (result = .ok () → after.status path = .ok (.file content mode)) := by
  refine ⟨fun now => guards_of_moment, fun result after h => ⟨?_, (perform_writePrivate h).2⟩⟩
  have hmoment := moment_perform tree (writePrivate path content mode)
  rw [h] at hmoment
  exact guards_of_moment hmoment

/-- A tree with a key that everyone may read. -/
def openKeyTree : FileTree :=
  ⟨[(["tls"], .directory 0o755),
    (["tls", "key.pem"], .file "a much longer previous key".toUTF8 0o644)]⟩

/-- The key is emptied while everyone may still read it, and only its owner may read the new one. -/
theorem writePrivate_guards_openKey :
    ∃ opened after,
      opened.find? ["tls", "key.pem"] = some (.file .empty 0o644) ∧
      Guards "tls/key.pem" "new key".toUTF8 0o600 openKeyTree opened ∧
      openKeyTree.perform (writePrivate "tls/key.pem" "new key".toUTF8 0o600) = (.ok (), after) ∧
      Guards "tls/key.pem" "new key".toUTF8 0o600 openKeyTree after ∧
      after.status "tls/key.pem" = .ok (.file "new key".toUTF8 0o600) := by
  obtain ⟨hmoments, hend⟩ := writePrivate_guards openKeyTree "tls/key.pem" "new key".toUTF8 0o600
  obtain ⟨hguards, hstatus⟩ := hend (.ok ()) _ rfl
  -- The third step opens the file.
  exact ⟨_, _, rfl, hmoments _ (moment_take openKeyTree _ 3), rfl, hguards, hstatus rfl⟩

end RemoteGateway.FileTree
