import RemoteGateway.Document.Store
import RemoteGateway.Proofs.Document.Places
import RemoteGateway.Proofs.FileTree.Staging

/-!
# What the files of stores hold

Stores are created, opened and changed in any order, several of them perhaps at one path. A `State`
is what there is between two such actions: the tree, the stores in memory, and, for the record, the
stores as they were each time one was written. Any action can fail. It can do so by itself, where a
path or a key path does not allow it, or because the host lets some stage of the writing fail, of
which an action knows nothing (`Way`).

Every regular file is at all times what it was at the start, or the text of the store that was
last written at its path (`Reflects.step`, `Reflects.run`). A change whose writing fails stays in
memory only, until a later one is written. What an action does to the files is one of two things,
and all the rest is read off that (`stepped`): no regular file changes and nothing is recorded, or
one file gets the text of the store that is recorded.
-/

namespace RemoteGateway.Document

open FileTree (namesOf SameFiles Attempt)

/-! ### Ways to write a store -/

/-- How the text of a store gets into its file. -/
inductive Way where
  /-- In a single step. -/
  | whole
  /-- In stages, by way of a temporary file. -/
  | staged (attempt : Attempt)

namespace Store

/-- How a change of a tree ends for those who wanted to write a file. -/
def ending : Except FileTree.Fault Unit × FileTree → Except Fault Unit × FileTree
  | (.ok (), tree) => (.ok (), tree)
  | (.error fault, tree) => (.error (.io (.file fault)), tree)

/-- Writes the document to its file in some way. -/
def persistBy (way : Way) (store : Store) (tree : FileTree) : Except Fault Unit × FileTree :=
  match way with
  | .whole => store.persist tree
  | .staged attempt => ending (attempt.replace store.path store.text.toUTF8 tree)

/-- Creates an empty document and writes it in some way. -/
def createBy (way : Way) (path : String) (tree : FileTree) : Except Fault Store × FileTree :=
  if tree.isPresent path then (.error (.config (.invalid path .documentExists)), tree)
  else
    let store : Store := ⟨path, .object []⟩
    match store.persistBy way tree with
    | (.ok (), tree) => (.ok store, tree)
    | (.error fault, tree) => (.error fault, tree)

/-- Stores a value at a key path and writes the document in some way. -/
def setBy (way : Way) (store : Store) (key : String) (value : Value) (tree : FileTree) :
    Except Fault Unit × Store × FileTree :=
  if IsKeyPath key then
    let store := { store with document := store.document.store value (segments key) }
    match store.persistBy way tree with
    | (result, tree) => (result, store, tree)
  else (.error (.config (.invalid key .keyPath)), store, tree)

theorem persist_eq (store : Store) (tree : FileTree) :
    store.persist tree =
      ending (tree.perform (FileTree.replaceFile store.path store.text.toUTF8)) :=
  rfl

/-- The bytes and the mode bits of the file of a store that was written. -/
def image (store : Store) : ByteArray × Nat :=
  (store.text.toUTF8, 0o600)

/-- How writing a store ends: no regular file changes, or its own does. -/
inductive Persists (store : Store) (tree : FileTree) : Except Fault Unit × FileTree → Prop
  | failed (fault : Fault) {after : FileTree} (hfiles : SameFiles tree after) :
      Persists store tree (.error fault, after)
  | written {after : FileTree}
      (hfiles : ∀ names, after.file? names =
        if namesOf store.path = names then some store.image else tree.file? names) :
      Persists store tree (.ok (), after)

/-- A file that is put at the path of a store is the only one to change. -/
theorem file?_put (store : Store) {tree made : FileTree} (h : SameFiles tree made)
    (names : List String) :
    (made.put (namesOf store.path) (.file store.text.toUTF8 0o600)).file? names =
      if namesOf store.path = names then some store.image else tree.file? names := by
  split_ifs with hnames
  · rw [← hnames, FileTree.file?_put_self, image]
  · rw [FileTree.file?_put_of_ne _ _ (Ne.symm hnames)]
    exact h names

/-- **However a store is written**, it ends up in its file or no regular file changes. -/
theorem persists_persistBy (way : Way) (store : Store) (tree : FileTree) :
    store.Persists tree (store.persistBy way tree) := by
  have hwhole := FileTree.perform_replaceFile_cases store.path store.text.toUTF8 tree
  cases way with
  | whole =>
    rw [persistBy, persist_eq]
    rcases hwhole with ⟨fault, made, hperform, hmade⟩ | ⟨made, hperform, hmade⟩
    · rw [hperform]
      exact .failed _ hmade.sameFiles
    · rw [hperform]
      exact .written (store.file?_put hmade.sameFiles)
  | staged attempt =>
    rw [persistBy]
    rcases attempt.replace_cases store.path store.text.toUTF8 tree with
      ⟨fault, made, hreplace, hmade⟩ | ⟨after, hreplace, hperform⟩
    · rw [hreplace]
      exact .failed _ hmade.sameFiles
    · rw [hreplace]
      rcases hwhole with ⟨fault, made, hfails, -⟩ | ⟨made, hputs, hmade⟩
      · rw [hperform] at hfails
        cases hfails
      · rw [hperform] at hputs
        cases hputs
        exact .written (store.file?_put hmade.sameFiles)

/-- In stages that nothing hinders a store is written as in a single step. -/
theorem persistBy_staged {attempt : Attempt} (hundisturbed : attempt.IsUndisturbed)
    {store : Store} {tree : FileTree} (hfree : attempt.IsFree store.path tree) :
    store.persistBy (.staged attempt) tree = store.persist tree := by
  rw [persistBy, attempt.replace_eq hundisturbed hfree, persist_eq]

/-- What was written in some way could have been written in a single step. -/
theorem persist_of_persistBy {way : Way} {store : Store} {tree after : FileTree}
    (h : store.persistBy way tree = (.ok (), after)) : store.persist tree = (.ok (), after) := by
  cases way with
  | whole => exact h
  | staged attempt =>
    rw [persistBy] at h
    rcases attempt.replace_cases store.path store.text.toUTF8 tree with
      ⟨fault, made, hreplace, -⟩ | ⟨last, hreplace, hperform⟩
    · rw [hreplace] at h
      cases h
    · rw [hreplace] at h
      cases h
      rw [persist_eq, hperform]
      rfl

/-- A document that is created is empty. -/
theorem eq_of_createBy {way : Way} {path : String} {tree after : FileTree} {store : Store}
    (h : createBy way path tree = (.ok store, after)) : store = ⟨path, .object []⟩ := by
  rw [createBy] at h
  split_ifs at h
  · cases h
  · simp only at h
    split at h
    · cases h
      rfl
    · cases h

/-- What is stored is in memory, also when it could not be written. -/
theorem eq_of_setBy {way : Way} {store changed : Store} {key : String} {value : Value}
    {tree after : FileTree} {result : Except Fault Unit} (hkey : IsKeyPath key)
    (h : store.setBy way key value tree = (result, changed, after)) :
    changed = { store with document := store.document.store value (segments key) } := by
  rw [setBy, if_pos hkey] at h
  cases h
  rfl

section

variable {way : Way} {store changed : Store} {key : String} {value : Value}
  {tree after : FileTree}

/-- What is stored at one place changes nothing apart from it, whether it can be written or not. -/
theorem find?_of_setBy {result : Except Fault Unit} {path : List String}
    (hpath : Apart (segments key) path)
    (h : store.setBy way key value tree = (result, changed, after)) :
    changed.document.find? path = store.document.find? path := by
  by_cases hkey : IsKeyPath key
  · rw [eq_of_setBy hkey h]
    exact Value.find?_store_of_apart _ _ hpath
  · rw [setBy, if_neg hkey] at h
    cases h
    rfl

/-- A store stays with its file. -/
theorem path_of_setBy {result : Except Fault Unit}
    (h : store.setBy way key value tree = (result, changed, after)) :
    changed.path = store.path := by
  rw [setBy] at h
  split_ifs at h
  · cases h
    rfl
  · cases h
    rfl

/-- Where a value was stored in some way, the path is proper and the store that results could have
been written in a single step. -/
theorem persist_of_setBy (h : store.setBy way key value tree = (.ok (), changed, after)) :
    IsKeyPath key ∧ changed.persist tree = (.ok (), after) := by
  rw [setBy] at h
  split_ifs at h with hkey
  · rcases hpersist : persistBy way
      { store with document := store.document.store value (segments key) } tree with ⟨result, made⟩
    simp only [hpersist] at h
    cases h
    exact ⟨hkey, persist_of_persistBy hpersist⟩
  · cases h

/-- What was stored in some way could have been stored in a single step. -/
theorem set_of_setBy (h : store.setBy way key value tree = (.ok (), changed, after)) :
    store.set key value tree = (.ok (), changed, after) := by
  obtain ⟨hkey, hpersist⟩ := persist_of_setBy h
  obtain rfl := eq_of_setBy hkey h
  rw [set, if_pos hkey]
  simp only [hpersist]

end

end Store

/-! ### Actions -/

/-- What there is between two actions. -/
structure State where
  tree : FileTree
  /-- The stores in memory. -/
  stores : List Store
  /-- The stores as they were whenever one was written, the last one first. -/
  written : List Store

/-- What is done with stores. -/
inductive Action where
  | create (way : Way) (path : String)
  | load (path : String)
  /-- Stores a value at a key path of one of the stores in memory. -/
  | set (way : Way) (index : Nat) (key : String) (value : Value)

namespace State

/-- Nothing has been written yet. -/
def start (tree : FileTree) (stores : List Store) : State :=
  ⟨tree, stores, []⟩

/-- Takes one action. Without its store a change is no action at all. -/
def step (state : State) : Action → Except Fault Unit × State
  | .create way path =>
    match Store.createBy way path state.tree with
    | (.ok store, tree) => (.ok (), ⟨tree, state.stores ++ [store], store :: state.written⟩)
    | (.error fault, tree) => (.error fault, { state with tree })
  | .load path =>
    match Store.load path state.tree with
    | .ok store => (.ok (), { state with stores := state.stores ++ [store] })
    | .error fault => (.error fault, state)
  | .set way index key value =>
    match state.stores[index]? with
    | none => (.ok (), state)
    | some store =>
      match store.setBy way key value state.tree with
      | (.ok (), store, tree) =>
        (.ok (), ⟨tree, state.stores.set index store, store :: state.written⟩)
      | (.error fault, store, tree) =>
        (.error fault, ⟨tree, state.stores.set index store, state.written⟩)

/-- Takes actions one after the other, whether they fail or not. -/
def run (state : State) (actions : List Action) : State :=
  actions.foldl (fun state action => (state.step action).2) state

/-- The store that was written last at the end of some names. -/
def lastWritten? (state : State) (names : List String) : Option Store :=
  state.written.find? fun store => namesOf store.path = names

/-- What an action does to the files and to the record. -/
inductive Stepped (state : State) : Except Fault Unit × State → Prop
  | kept (result : Except Fault Unit) {next : State} (hfiles : SameFiles state.tree next.tree)
      (hwritten : next.written = state.written) : Stepped state (result, next)
  | wrote (store : Store) {next : State}
      (hfiles : ∀ names, next.tree.file? names =
        if namesOf store.path = names then some store.image else state.tree.file? names)
      (hwritten : next.written = store :: state.written) : Stepped state (.ok (), next)

/-- **An action changes no regular file, or writes one store and records it.** -/
theorem stepped (state : State) (action : Action) : state.Stepped (state.step action) := by
  cases action with
  | create way path =>
    rw [step, Store.createBy]
    split_ifs with hpresent
    · exact .kept _ (fun _ => rfl) rfl
    · cases hpersist : (Store.mk path (.object [])).persistBy way state.tree with
      | mk result after =>
        have hends := Store.persists_persistBy way ⟨path, .object []⟩ state.tree
        rw [hpersist] at hends
        simp only [hpersist]
        cases hends with
        | failed fault hfiles => exact .kept _ hfiles rfl
        | written hfiles => exact .wrote _ hfiles rfl
  | load path =>
    rw [step]
    cases Store.load path state.tree with
    | error fault => exact .kept _ (fun _ => rfl) rfl
    | ok store => exact .kept _ (fun _ => rfl) rfl
  | set way index key value =>
    rw [step]
    cases state.stores[index]? with
    | none => exact .kept _ (fun _ => rfl) rfl
    | some store =>
      simp only [Store.setBy]
      split_ifs with hkey
      · have hends := Store.persists_persistBy way
          { store with document := store.document.store value (segments key) } state.tree
        generalize hpersist : Store.persistBy way
          { store with document := store.document.store value (segments key) } state.tree = ends
          at hends ⊢
        cases hends with
        | failed fault hfiles => exact .kept _ hfiles rfl
        | written hfiles => exact .wrote _ hfiles rfl
      · exact .kept _ (fun _ => rfl) rfl

/-! ### Runs -/

/-- Every regular file is the one of a tree, or it has the text of the store that was last written
there. -/
def Reflects (initial : FileTree) (state : State) : Prop :=
  ∀ names, state.tree.file? names =
    match state.lastWritten? names with
    | some store => some store.image
    | none => initial.file? names

variable {initial : FileTree} {state : State}

theorem reflects_start (tree : FileTree) (stores : List Store) :
    Reflects tree (start tree stores) :=
  fun _ => rfl

theorem Reflects.step (h : Reflects initial state) (action : Action) :
    Reflects initial (state.step action).2 := by
  intro names
  rcases hstep : state.step action with ⟨result, next⟩
  have hstepped := state.stepped action
  rw [hstep] at hstepped
  cases hstepped with
  | kept _ hfiles hwritten =>
    simp only [lastWritten?, hwritten]
    exact (hfiles names).trans (h names)
  | wrote store hfiles hwritten =>
    simp only [lastWritten?, hwritten, List.find?_cons, hfiles]
    by_cases hnames : namesOf store.path = names
    · simp only [hnames, if_true, decide_true]
    · simp only [hnames, if_false, decide_false]
      exact h names

theorem Reflects.run (h : Reflects initial state) (actions : List Action) :
    Reflects initial (state.run actions) := by
  induction actions generalizing state with
  | nil => exact h
  | cons action rest ih => exact ih (h.step action)

/-- An action that fails changes no regular file, leaves no new one, and is not recorded. -/
theorem sameFiles_of_error {action : Action} {fault : Fault} {next : State}
    (h : state.step action = (.error fault, next)) :
    SameFiles state.tree next.tree ∧ next.written = state.written := by
  have hstepped := state.stepped action
  rw [h] at hstepped
  cases hstepped with
  | kept _ hfiles hwritten => exact ⟨hfiles, hwritten⟩

/-- What holds of the files in a state that was reached from a tree. -/
structure Upholds (initial : FileTree) (state : State) : Prop where
  /-- Every regular file is as at the start, or it has the text of the store that was last written
  there. -/
  files : Reflects initial state
  /-- What is created is an empty document, in memory and in its file. -/
  creates : ∀ way path next, state.step (.create way path) = (.ok (), next) →
    next.stores = state.stores ++ [⟨path, .object []⟩] ∧
      next.written = ⟨path, .object []⟩ :: state.written
  /-- What is opened is in memory, and no file changes. -/
  loads : ∀ path result next, state.step (.load path) = (result, next) →
    next.tree = state.tree ∧ next.written = state.written
  /-- What is stored is in memory, and in the file unless the action fails. -/
  sets : ∀ way index key value store result next, state.stores[index]? = some store →
    IsKeyPath key → state.step (.set way index key value) = (result, next) →
    ∃ changed : Store, changed =
        { store with document := store.document.store value (segments key) } ∧
      next.stores = state.stores.set index changed ∧
      (result = .ok () → next.written = changed :: state.written)
  /-- An action that fails changes no regular file and leaves no new one, and is not recorded. -/
  failing : ∀ action fault next, state.step action = (.error fault, next) →
    SameFiles state.tree next.tree ∧ next.written = state.written
  /-- Nothing is created where something stands. -/
  present : ∀ way path, state.tree.isPresent path = true →
    state.step (.create way path) = (.error (.config (.invalid path .documentExists)), state)
  /-- Under a key path with an empty key nothing is stored, in memory neither. -/
  keyPath : ∀ way index key value, index < state.stores.length → ¬ IsKeyPath key →
    state.step (.set way index key value) = (.error (.config (.invalid key .keyPath)), state)
  /-- At every moment of a writing the files are as before, save for the temporary one, or the store
  has been written. -/
  moments : ∀ (attempt : Attempt) (store : Store) (count : Nat) (now : FileTree),
    now = (attempt.perform state.tree
      ((attempt.stages store.path store.text.toUTF8).take count)).2 →
    (∀ names, names ≠ attempt.temporary → now.file? names = state.tree.file? names) ∨
      store.persist state.tree = (.ok (), now)
  /-- A writing in stages that nothing hinders is the single step. -/
  stages : ∀ (attempt : Attempt) (store : Store), attempt.IsUndisturbed →
    attempt.IsFree store.path state.tree →
    store.persistBy (.staged attempt) state.tree = store.persist state.tree
  /-- In every directory there is a name for the temporary file. -/
  names : ∀ (path : String) (directory : List String), ∃ name, ∀ attempt : Attempt,
    attempt.temporary = directory ++ [name] → attempt.IsFree path state.tree

theorem Reflects.upholds (h : Reflects initial state) : Upholds initial state where
  files := h
  creates way path next hstep := by
    rw [State.step] at hstep
    split at hstep
    · next store after hcreate =>
      cases hstep
      obtain rfl := Store.eq_of_createBy hcreate
      exact ⟨rfl, rfl⟩
    · cases hstep
  loads path result next hstep := by
    rw [State.step] at hstep
    split at hstep
    · cases hstep
      exact ⟨rfl, rfl⟩
    · cases hstep
      exact ⟨rfl, rfl⟩
  sets way index key value store result next hstore hkey hstep := by
    simp only [State.step, hstore] at hstep
    split at hstep
    · next changed after hset =>
      cases hstep
      refine ⟨changed, Store.eq_of_setBy hkey hset, rfl, fun _ => rfl⟩
    · next fault changed after hset =>
      cases hstep
      exact ⟨changed, Store.eq_of_setBy hkey hset, rfl, fun hok => by cases hok⟩
  failing action fault next hstep := sameFiles_of_error hstep
  present way path hpresent := by
    rw [State.step, Store.createBy, if_pos hpresent]
  keyPath way index key value hindex hkey := by
    rw [State.step, List.getElem?_eq_getElem hindex]
    simp only [Store.setBy, if_neg hkey, List.set_getElem_self]
  moments attempt store count now hnow := by
    rcases attempt.moment store.path store.text.toUTF8 state.tree count with hbefore | hafter
    · exact .inl (hnow ▸ hbefore)
    · refine .inr ?_
      rw [Store.persist_eq, hafter, hnow, Store.ending]
  stages attempt store hundisturbed hfree := Store.persistBy_staged hundisturbed hfree
  names path directory := Attempt.exists_isFree path state.tree directory

/-- **Files always hold what was last written to them.** Creating and changing in a single step is
what `Store.create` and `Store.set` do, and whatever actions are taken, in that way or in stages,
all of `Upholds` holds after each of them. -/
theorem run_upholds (tree : FileTree) (stores : List Store) (actions : List Action) :
    Store.createBy .whole = Store.create ∧ Store.setBy .whole = Store.set ∧
      Upholds tree ((start tree stores).run actions) := by
  have hreflects : Reflects tree ((start tree stores).run actions) :=
    (reflects_start tree stores).run actions
  exact ⟨rfl, rfl, hreflects.upholds⟩

/-- An attempt of which the host lets the moving fail. -/
def stuckAttempt : Attempt where
  temporary := [".tmp"]
  pieces := [.empty]
  obstacle
    | .move .. => some .busy
    | _ => none

/-- Actions that fail from the third on, save for the last one: for an empty key, because a document
is there, because its parent is a file, and because of the host. -/
def sampleActions : List Action :=
  [.create .whole "a.json", .set .whole 0 "x" (.bool true), .set .whole 0 "x..y" (.bool true),
    .create .whole "a.json", .create .whole "a.json/b.json",
    .set (.staged stuckAttempt) 0 "y" (.bool false), .set .whole 0 "z" (.bool true)]

/-- A change that could not be written is in the file once a later one is. -/
theorem run_upholds_sampleActions :
    ((start .empty []).run (sampleActions.take 6)).tree.file? ["a.json"] =
        some (Store.image ⟨"a.json", .object [("x", .bool true)]⟩) ∧
      ((start .empty []).run sampleActions).tree.file? ["a.json"] =
        some (Store.image
          ⟨"a.json", .object [("x", .bool true), ("y", .bool false), ("z", .bool true)]⟩) := by
  obtain ⟨-, -, hbefore⟩ := run_upholds .empty [] (sampleActions.take 6)
  obtain ⟨-, -, hafter⟩ := run_upholds .empty [] sampleActions
  exact ⟨hbefore.files ["a.json"], hafter.files ["a.json"]⟩

end State

end RemoteGateway.Document
