import Mathlib.Data.Fintype.EquivFin
import RemoteGateway.Proofs.FileTree.Writing

/-!
# Replacing a file by way of another one

A plan replaces a document in a single step. What stands behind this step is a sequence of
**stages**: a temporary file is opened where nothing is, filled piece by piece, and moved over the
document; if anything goes wrong before that, it is taken away again. An **attempt** says where the
temporary file is, which pieces it holds on the way, and which stages the host lets fail.

An attempt either fails, and then no more than some directories were made, or it ends as the single
step does (`Attempt.replace_cases`). If nothing stands in its way it is the single step
(`Attempt.replace_eq`). At no moment is there a regular file that was not there before, or has
other bytes, apart from the temporary one and from the document once it is complete
(`Attempt.moment`).
-/

namespace RemoteGateway.FileTree

variable {tree after : FileTree} {path : String} {content : ByteArray}

/-! ### Regular files -/

/-- The bytes and the mode bits of the regular file at the end of some names. -/
def file? (tree : FileTree) (names : List String) : Option (ByteArray × Nat) :=
  match tree.find? names with
  | some (.file content mode) => some (content, mode)
  | _ => none

/-- The same regular files stand in two trees. -/
def SameFiles (tree after : FileTree) : Prop :=
  ∀ names, after.file? names = tree.file? names

theorem file?_put_self (tree : FileTree) (names : List String) (content : ByteArray) (mode : Nat) :
    (tree.put names (.file content mode)).file? names = some (content, mode) := by
  rw [file?, find?_put_self]

theorem file?_put_of_ne (tree : FileTree) {names other : List String} (node : Node)
    (h : other ≠ names) : (tree.put names node).file? other = tree.file? other := by
  rw [file?, find?_put_of_ne _ _ h, file?]

/-- Making directories changes no regular file. -/
theorem Changes.sameFiles {sought : List String} (h : Changes [] sought tree after) :
    SameFiles tree after := by
  intro names
  rcases h.frame names (fun _ hmem => absurd hmem List.not_mem_nil) with
    hsame | ⟨hbefore, hafter, -⟩
  · rw [file?, hsame, file?]
  · rw [file?, hafter, file?, hbefore]

/-- What is put where nothing is can be taken away again. -/
theorem erase_put {names : List String} (node : Node) (h : tree.find? names = none) :
    (tree.put names node).erase names = tree := by
  have hentries : ∀ entry ∈ tree.entries, (entry.1 != names) = true := by
    intro entry hentry
    have hne := List.lookup_eq_none_iff.mp h entry hentry
    rw [bne_iff_ne]
    rintro rfl
    exact absurd hne (by simp)
  have hkept : tree.entries.filter (fun entry => entry.1 != names) = tree.entries :=
    List.filter_eq_self.mpr hentries
  simp [put, erase, hkept]

/-! ### The single step -/

/-- A step that makes no more than directories on the way to a path. -/
def Step.Prepares (path : String) (step : Step) : Prop :=
  ∀ tree after, step.apply tree = .ok after → Changes [] [path] tree after

theorem prepares_of_mem_makeAll {step : Step} (h : step ∈ makeAll (Location.ofText path).above) :
    step.Prepares path := by
  intro tree after happly
  rcases List.mem_cons.mp h with rfl | h
  · obtain ⟨-, -, rfl⟩ := Outcome.map_eq_ok.mp happly
    exact .refl tree
  · obtain ⟨location, hlocation, rfl⟩ := List.mem_map.mp h
    exact changes_directory hlocation happly

/-- Replacing puts the file at the destination of its path. -/
theorem apply_replace_ofText {mode : Nat}
    (h : Step.apply tree (.replace (.ofText path) content mode) = .ok after) :
    after = tree.put (namesOf path) (.file content mode) := by
  obtain ⟨place, entry, hlocate, -, -, -, -, rfl⟩ := apply_replace h
  rw [namesOf, ← names_of_locate hlocate]

theorem perform_replaceFile_of_makeAll {made : FileTree}
    (h : tree.perform (makeAll (Location.ofText path).above) = (.ok (), made)) :
    tree.perform (replaceFile path content) =
      match Step.apply made (.replace (.ofText path) content 0o600) with
      | .ok after => (.ok (), after)
      | .error fault => (.error fault, made) := by
  rw [replaceFile, perform_append, h]
  rfl

/-- Replacing makes some directories, and then puts the file at its destination or fails. -/
theorem perform_replaceFile_cases (path : String) (content : ByteArray) (tree : FileTree) :
    (∃ fault made, tree.perform (replaceFile path content) = (.error fault, made) ∧
        Changes [] [path] tree made) ∨
      ∃ made, tree.perform (replaceFile path content) =
          (.ok (), made.put (namesOf path) (.file content 0o600)) ∧
        Changes [] [path] tree made := by
  have hprepares : ∀ step ∈ makeAll (Location.ofText path).above, step.Prepares path :=
    fun _ => prepares_of_mem_makeAll
  have hmade := changes_of_steps hprepares tree
  rcases hmake : tree.perform (makeAll (Location.ofText path).above) with ⟨fault | _, made⟩
  · rw [hmake] at hmade
    refine .inl ⟨fault, made, ?_, hmade⟩
    rw [replaceFile, perform_append, hmake]
  · rw [hmake] at hmade
    rw [perform_replaceFile_of_makeAll hmake]
    cases hreplace : Step.apply made (.replace (.ofText path) content 0o600) with
    | error fault => exact .inl ⟨fault, made, rfl, hmade⟩
    | ok after =>
      refine .inr ⟨made, ?_, hmade⟩
      rw [apply_replace_ofText hreplace]

/-! ### Stages -/

/-- A stage of replacing a file by way of a temporary one. -/
inductive Stage where
  /-- A step towards the directories above the file. -/
  | prepare (step : Step)
  /-- Opens the temporary file, where nothing may stand. -/
  | start (names : List String)
  /-- Brings the temporary file to the given bytes. -/
  | fill (names : List String) (content : ByteArray)
  /-- Moves the temporary file to a location, over a file that stands there. -/
  | move (names : List String) (location : Location)

/-- What a stage does to a tree. -/
def Stage.apply (tree : FileTree) : Stage → Except Fault FileTree
  | prepare step => step.apply tree
  | start names =>
    match tree.find? names with
    | none => .ok (tree.put names (.file .empty 0o600))
    | some _ => .error .alreadyExists
  | fill names content =>
    match tree.find? names with
    | some (.file _ mode) => .ok (tree.put names (.file content mode))
    | _ => .error .missing
  | move names location =>
    match tree.find? names with
    | some (.file content mode) => (Step.replace location content mode).apply (tree.erase names)
    | _ => .error .missing

/-- One attempt to replace a file. -/
structure Attempt where
  /-- The names at which the temporary file is opened. -/
  temporary : List String
  /-- What the temporary file holds before it is complete. -/
  pieces : List ByteArray
  /-- The fault with which the host lets a stage fail that could be taken. -/
  obstacle : Stage → Option Fault

namespace Attempt

/-- Takes one stage. -/
def take (attempt : Attempt) (tree : FileTree) (stage : Stage) : Except Fault FileTree :=
  match attempt.obstacle stage with
  | some fault => .error fault
  | none => stage.apply tree

/-- Takes stages in order until one fails. -/
def perform (attempt : Attempt) (tree : FileTree) : List Stage → Except Fault Unit × FileTree
  | [] => (.ok (), tree)
  | stage :: rest =>
    match attempt.take tree stage with
    | .ok next => attempt.perform next rest
    | .error fault => (.error fault, tree)

/-- The stages up to the opening of the temporary file. -/
def opening (attempt : Attempt) (path : String) : List Stage :=
  (makeAll (Location.ofText path).above).map .prepare ++ [.start attempt.temporary]

/-- The stages in which the temporary file is filled. -/
def filling (attempt : Attempt) (content : ByteArray) : List Stage :=
  (attempt.pieces ++ [content]).map (.fill attempt.temporary)

/-- The stages with the temporary file. -/
def closing (attempt : Attempt) (path : String) (content : ByteArray) : List Stage :=
  attempt.filling content ++ [.move attempt.temporary (.ofText path)]

/-- Replaces a file. A temporary file that was opened and could not be moved is taken away. -/
def replace (attempt : Attempt) (path : String) (content : ByteArray) (tree : FileTree) :
    Except Fault Unit × FileTree :=
  match attempt.perform tree (attempt.opening path) with
  | (.error fault, made) => (.error fault, made)
  | (.ok (), opened) =>
    match attempt.perform opened (attempt.closing path content) with
    | (.ok (), after) => (.ok (), after)
    | (.error fault, left) => (.error fault, left.erase attempt.temporary)

/-- The host lets no stage fail. -/
def IsUndisturbed (attempt : Attempt) : Prop :=
  ∀ stage, attempt.obstacle stage = none

/-- Nothing is at the names of the temporary file once the directories above the document are
made. -/
def IsFree (attempt : Attempt) (path : String) (tree : FileTree) : Prop :=
  (tree.perform (makeAll (Location.ofText path).above)).2.find? attempt.temporary = none

/-- In every directory there is a free name for a temporary file. -/
theorem exists_isFree (path : String) (tree : FileTree) (directory : List String) :
    ∃ name, ∀ attempt : Attempt, attempt.temporary = directory ++ [name] →
      attempt.IsFree path tree := by
  -- Only finitely many names are the last ones of something that is known.
  let made := (tree.perform (makeAll (Location.ofText path).above)).2
  obtain ⟨name, hname⟩ := Infinite.exists_notMem_finset
    (made.entries.map fun entry => entry.1.getLast?.getD "").toFinset
  refine ⟨name, fun attempt hattempt => ?_⟩
  have hfree : made.find? (directory ++ [name]) = none := by
    rw [find?, List.lookup_eq_none_iff]
    intro entry hentry
    rw [bne_iff_ne]
    intro hnames
    refine hname (List.mem_toFinset.mpr (List.mem_map.mpr ⟨entry, hentry, ?_⟩))
    rw [← hnames, List.getLast?_concat, Option.getD_some]
  rw [IsFree, hattempt]
  exact hfree

variable (attempt : Attempt)

theorem perform_append (tree : FileTree) (stages more : List Stage) :
    attempt.perform tree (stages ++ more) =
      match attempt.perform tree stages with
      | (.ok (), next) => attempt.perform next more
      | (.error fault, next) => (.error fault, next) := by
  induction stages generalizing tree with
  | nil => rfl
  | cons stage rest ih =>
    simp only [List.cons_append, perform]
    cases attempt.take tree stage with
    | error fault => rfl
    | ok next => exact ih next

/-- A stage that is not hindered is taken. -/
theorem take_cases (tree : FileTree) (stage : Stage) :
    (∃ fault, attempt.take tree stage = .error fault ∧
        (attempt.IsUndisturbed → stage.apply tree = .error fault)) ∨
      ∃ next, attempt.take tree stage = .ok next ∧ stage.apply tree = .ok next := by
  rw [take]
  cases hobstacle : attempt.obstacle stage with
  | some fault =>
    refine .inl ⟨fault, rfl, fun hundisturbed => ?_⟩
    rw [hundisturbed stage] at hobstacle
    cases hobstacle
  | none =>
    cases happly : stage.apply tree with
    | error fault => exact .inl ⟨fault, rfl, fun _ => rfl⟩
    | ok next => exact .inr ⟨next, rfl, rfl⟩

/-! ### Up to the opening -/

/-- Steps towards the directories are taken as in a plan, if the host lets them all happen, and make
no more than directories in any case. -/
theorem perform_prepare {steps : List Step} (hsteps : ∀ step ∈ steps, step.Prepares path)
    (tree : FileTree) :
    (∃ fault made, attempt.perform tree (steps.map .prepare) = (.error fault, made) ∧
        Changes [] [path] tree made ∧
        (attempt.IsUndisturbed → tree.perform steps = (.error fault, made))) ∨
      ∃ made, attempt.perform tree (steps.map .prepare) = (.ok (), made) ∧
        Changes [] [path] tree made ∧ tree.perform steps = (.ok (), made) := by
  induction steps generalizing tree with
  | nil => exact .inr ⟨tree, rfl, .refl tree, rfl⟩
  | cons step rest ih =>
    obtain ⟨hstep, hrest⟩ := List.forall_mem_cons.mp hsteps
    simp only [List.map_cons, perform, FileTree.perform]
    rcases attempt.take_cases tree (.prepare step) with
      ⟨fault, htake, hsame⟩ | ⟨next, htake, happly⟩
    · rw [htake]
      refine .inl ⟨fault, tree, rfl, .refl tree, fun hundisturbed => ?_⟩
      have happly : step.apply tree = .error fault := hsame hundisturbed
      rw [happly]
    · have happly : step.apply tree = .ok next := happly
      have hnext := hstep tree next happly
      rw [htake, happly]
      rcases ih hrest next with
        ⟨fault, made, hperform, hmade, hsame⟩ | ⟨made, hperform, hmade, hsame⟩
      · exact .inl ⟨fault, made, hperform, hnext.trans hmade, hsame⟩
      · exact .inr ⟨made, hperform, hnext.trans hmade, hsame⟩

/-- The opening ends with a temporary file where nothing was. -/
theorem perform_opening (path : String) (tree : FileTree) :
    (∃ fault made, attempt.perform tree (attempt.opening path) = (.error fault, made) ∧
        Changes [] [path] tree made ∧
        (attempt.IsUndisturbed → attempt.IsFree path tree →
          tree.perform (makeAll (Location.ofText path).above) = (.error fault, made))) ∨
      ∃ made, attempt.perform tree (attempt.opening path) =
          (.ok (), made.put attempt.temporary (.file .empty 0o600)) ∧
        Changes [] [path] tree made ∧ made.find? attempt.temporary = none ∧
        tree.perform (makeAll (Location.ofText path).above) = (.ok (), made) := by
  rw [opening, perform_append]
  rcases attempt.perform_prepare (fun _ => prepares_of_mem_makeAll) tree with
    ⟨fault, made, hperform, hmade, hsame⟩ | ⟨made, hperform, hmade, hsame⟩
  · rw [hperform]
    exact .inl ⟨fault, made, rfl, hmade, fun hundisturbed _ => hsame hundisturbed⟩
  · rw [hperform]
    simp only [perform]
    rcases attempt.take_cases made (.start attempt.temporary) with
      ⟨fault, htake, hfails⟩ | ⟨next, htake, happly⟩
    · rw [htake]
      refine .inl ⟨fault, made, rfl, hmade, fun hundisturbed hfree => ?_⟩
      -- Where nothing is the file can be opened.
      have happly := hfails hundisturbed
      rw [IsFree, hsame] at hfree
      rw [Stage.apply, hfree] at happly
      cases happly
    · rw [htake]
      rw [Stage.apply] at happly
      split at happly
      · next hfree =>
        cases happly
        exact .inr ⟨made, rfl, hmade, hfree, hsame⟩
      · cases happly

/-! ### With the temporary file -/

/-- Bringing the temporary file to other bytes. -/
theorem apply_fill (made : FileTree) (names : List String) (piece next : ByteArray) :
    Stage.apply (made.put names (.file piece 0o600)) (.fill names next) =
      .ok (made.put names (.file next 0o600)) := by
  rw [Stage.apply, find?_put_self]
  simp only [put_put]

/-- Moving the temporary file is the single step on the tree without it. -/
theorem apply_move {made : FileTree} {names : List String} (hfree : made.find? names = none)
    (piece : ByteArray) (location : Location) :
    Stage.apply (made.put names (.file piece 0o600)) (.move names location) =
      Step.apply made (.replace location piece 0o600) := by
  rw [Stage.apply, find?_put_self]
  simp only [erase_put _ hfree]

/-- As long as the document is not replaced the temporary file is the only change. -/
theorem perform_fill (made : FileTree) (pieces : List ByteArray) (piece : ByteArray) :
    (∃ fault part, ¬ attempt.IsUndisturbed ∧
        attempt.perform (made.put attempt.temporary (.file piece 0o600))
          (pieces.map (.fill attempt.temporary)) =
            (.error fault, made.put attempt.temporary (.file part 0o600))) ∨
      attempt.perform (made.put attempt.temporary (.file piece 0o600))
        (pieces.map (.fill attempt.temporary)) =
          (.ok (), made.put attempt.temporary (.file (pieces.getLast?.getD piece) 0o600)) := by
  induction pieces generalizing piece with
  | nil => exact .inr rfl
  | cons next rest ih =>
    simp only [List.map_cons, perform]
    rcases attempt.take_cases (made.put attempt.temporary (.file piece 0o600))
        (.fill attempt.temporary next) with ⟨fault, htake, hfails⟩ | ⟨filled, htake, happly⟩
    · rw [htake]
      refine .inl ⟨fault, piece, fun hundisturbed => ?_, rfl⟩
      have happly := hfails hundisturbed
      rw [apply_fill] at happly
      cases happly
    · rw [htake]
      rw [apply_fill] at happly
      cases happly
      rw [List.getLast?_cons, Option.getD_some]
      exact ih next

/-- The closing leaves the temporary file or does what the single step does. -/
theorem perform_closing {made : FileTree} (hfree : made.find? attempt.temporary = none)
    (path : String) (content piece : ByteArray) :
    (∃ fault part, attempt.perform (made.put attempt.temporary (.file piece 0o600))
          (attempt.closing path content) =
            (.error fault, made.put attempt.temporary (.file part 0o600)) ∧
        (attempt.IsUndisturbed →
          Step.apply made (.replace (.ofText path) content 0o600) = .error fault)) ∨
      ∃ after, attempt.perform (made.put attempt.temporary (.file piece 0o600))
          (attempt.closing path content) = (.ok (), after) ∧
        Step.apply made (.replace (.ofText path) content 0o600) = .ok after := by
  rw [closing, filling, perform_append]
  rcases attempt.perform_fill made (attempt.pieces ++ [content]) piece with
    ⟨fault, part, hdisturbed, hperform⟩ | hperform
  · rw [hperform]
    exact .inl ⟨fault, part, rfl, fun hundisturbed => absurd hundisturbed hdisturbed⟩
  · rw [hperform, List.getLast?_concat, Option.getD_some]
    simp only [perform]
    rcases attempt.take_cases (made.put attempt.temporary (.file content 0o600))
        (.move attempt.temporary (.ofText path)) with
      ⟨fault, htake, hfails⟩ | ⟨after, htake, happly⟩
    · rw [htake]
      rw [apply_move hfree] at hfails
      exact .inl ⟨fault, content, rfl, hfails⟩
    · rw [htake]
      rw [apply_move hfree] at happly
      exact .inr ⟨after, rfl, happly⟩

/-! ### Whole attempts -/

/-- **An attempt fails and has made some directories at most, or it ends as the single step
does.** -/
theorem replace_cases (path : String) (content : ByteArray) (tree : FileTree) :
    (∃ fault made, attempt.replace path content tree = (.error fault, made) ∧
        Changes [] [path] tree made) ∨
      ∃ after, attempt.replace path content tree = (.ok (), after) ∧
        tree.perform (replaceFile path content) = (.ok (), after) := by
  rw [replace]
  rcases attempt.perform_opening path tree with
    ⟨fault, made, hopening, hmade, -⟩ | ⟨made, hopening, hmade, hfree, hsame⟩
  · rw [hopening]
    exact .inl ⟨fault, made, rfl, hmade⟩
  · rw [hopening]
    rcases attempt.perform_closing hfree path content .empty with
      ⟨fault, part, hclosing, -⟩ | ⟨after, hclosing, hreplace⟩
    · simp only [hclosing, erase_put _ hfree]
      exact .inl ⟨fault, made, rfl, hmade⟩
    · simp only [hclosing]
      refine .inr ⟨after, rfl, ?_⟩
      rw [perform_replaceFile_of_makeAll hsame, hreplace]

/-- **An attempt that nothing hinders is the single step.** -/
theorem replace_eq (hundisturbed : attempt.IsUndisturbed) (hfree : attempt.IsFree path tree) :
    attempt.replace path content tree = tree.perform (replaceFile path content) := by
  rw [replace]
  rcases attempt.perform_opening path tree with
    ⟨fault, made, hopening, -, hfails⟩ | ⟨made, hopening, -, hnone, hsame⟩
  · have hmake := hfails hundisturbed hfree
    rw [hopening, replaceFile, FileTree.perform_append, hmake]
  · rw [hopening, perform_replaceFile_of_makeAll hsame]
    rcases attempt.perform_closing hnone path content .empty with
      ⟨fault, part, hclosing, hfails⟩ | ⟨after, hclosing, hreplace⟩
    · simp only [hclosing, erase_put _ hnone, hfails hundisturbed]
    · simp only [hclosing, hreplace]

/-! ### Moments -/

/-- All stages of an attempt, one after the other. -/
def stages (path : String) (content : ByteArray) : List Stage :=
  attempt.opening path ++ attempt.closing path content

/-- Stages that change no regular file but the temporary one do not do so together. -/
theorem perform_spares {names : List String} {stages : List Stage}
    (h : ∀ stage ∈ stages, ∀ tree next, stage.apply tree = .ok next →
      ∀ other, other ≠ names → next.file? other = tree.file? other) (tree : FileTree)
    {other : List String} (hother : other ≠ names) :
    (attempt.perform tree stages).2.file? other = tree.file? other := by
  induction stages generalizing tree with
  | nil => rfl
  | cons stage rest ih =>
    obtain ⟨hstage, hrest⟩ := List.forall_mem_cons.mp h
    rw [perform]
    rcases attempt.take_cases tree stage with ⟨fault, htake, -⟩ | ⟨next, htake, happly⟩
    · rw [htake]
    · rw [htake]
      exact (ih hrest next).trans (hstage tree next happly other hother)

/-- The stages before the moving change no regular file but the temporary one. -/
theorem spares_of_mem {content : ByteArray} {stage : Stage}
    (h : stage ∈ attempt.opening path ++ attempt.filling content) :
    ∀ tree next, stage.apply tree = .ok next →
      ∀ other, other ≠ attempt.temporary → next.file? other = tree.file? other := by
  intro tree next happly other hother
  rw [opening, List.append_assoc] at h
  rcases List.mem_append.mp h with h | h
  · obtain ⟨step, hstep, rfl⟩ := List.mem_map.mp h
    exact (prepares_of_mem_makeAll hstep tree next happly).sameFiles other
  rcases List.mem_append.mp h with h | h
  · rw [List.mem_singleton.mp h, Stage.apply] at happly
    split at happly
    · cases happly
      exact file?_put_of_ne _ _ hother
    · cases happly
  · obtain ⟨piece, -, rfl⟩ := List.mem_map.mp h
    rw [Stage.apply] at happly
    split at happly
    · cases happly
      exact file?_put_of_ne _ _ hother
    · cases happly

/-- **At every moment of an attempt** all regular files but the temporary one are as before, unless
the document has been replaced. -/
theorem moment (path : String) (content : ByteArray) (tree : FileTree) (count : Nat) :
    (∀ names, names ≠ attempt.temporary →
        (attempt.perform tree ((attempt.stages path content).take count)).2.file? names =
          tree.file? names) ∨
      tree.perform (replaceFile path content) =
        (.ok (), (attempt.perform tree ((attempt.stages path content).take count)).2) := by
  have hstages : attempt.stages path content = (attempt.opening path ++
      attempt.filling content) ++ [.move attempt.temporary (.ofText path)] := by
    rw [stages, closing, List.append_assoc]
  by_cases hcount : (attempt.stages path content).length ≤ count
  · rw [List.take_of_length_le hcount, stages, perform_append]
    rcases attempt.perform_opening path tree with
      ⟨fault, made, hopening, hmade, -⟩ | ⟨made, hopening, hmade, hfree, hsame⟩
    · rw [hopening]
      exact .inl fun names _ => hmade.sameFiles names
    · rw [hopening]
      simp only
      rcases attempt.perform_closing hfree path content .empty with
        ⟨fault, part, hclosing, -⟩ | ⟨after, hclosing, hreplace⟩
      · rw [hclosing]
        refine .inl fun names hnames => ?_
        rw [file?_put_of_ne _ _ hnames]
        exact hmade.sameFiles names
      · rw [hclosing, perform_replaceFile_of_makeAll hsame, hreplace]
        exact .inr rfl
  · -- The document is moved last, so that stage has not been taken.
    have hbefore : (attempt.stages path content).take count =
        (attempt.opening path ++ attempt.filling content).take count := by
      rw [hstages, List.length_append, List.length_singleton] at hcount
      rw [hstages]
      exact List.take_append_of_le_length (by omega)
    rw [hbefore]
    exact .inl fun names hnames => attempt.perform_spares
      (fun stage hstage => attempt.spares_of_mem (List.mem_of_mem_take hstage)) tree hnames

end Attempt

end RemoteGateway.FileTree
