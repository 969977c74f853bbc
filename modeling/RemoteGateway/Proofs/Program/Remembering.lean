import RemoteGateway.Program.Execution
import RemoteGateway.Proofs.Document.Persistence

/-!
# What the program remembers

A document that was created is changed by one call of the program after the other, each of which
reads it from its file and writes it back. `Remembers` is the invariant of such calls: the file
has the text of the document that all changes so far have led to (`remembers_carryOutAll`). As
long as every key path had at most `maxDepth` keys, each change succeeds that has a proper key
path, and a later call shows the word that was stored. The first longer key path is stored just
as well, but then the document is too high for the reader, and no later call can open it again.
Both are part of `session_spec`.
-/

namespace RemoteGateway.Program

open Document (Apart IsKeyPath Saved Store Value maxDepth ofWord segments)

/-! ### Sessions -/

/-- Carries out commands one after the other, each on what the one before left, whether they
succeed or not: how each of them ended, and the run after all of them. -/
def carryOutAll (host : Host) (config : String) :
    List Command → Run → List (Except Fault Unit) × Run
  | [], run => ([], run)
  | command :: rest, run =>
    let first := carryOut host config command run
    let later := carryOutAll host config rest first.2
    (first.1 :: later.1, later.2)

/-- A key path and the word that is to be stored there. -/
abbrev Entry := String × String

/-- The commands that store some words. -/
def storing (entries : List Entry) : List Command :=
  entries.map fun entry => .set entry.1 entry.2

/-- The document at a path can be opened. -/
def Opens (config : String) (run : Run) : Prop :=
  ∃ store, Store.load config run.tree = .ok store

/-- The key path of an entry is no proper one, or short enough to be read back. -/
def IsShallow (entry : Entry) : Prop :=
  IsKeyPath entry.1 → (segments entry.1).length ≤ maxDepth

/-! ### One call -/

/-- The document that a run remembers is saved in its file. -/
def Remembers (config : String) (document : Value) (run : Run) : Prop :=
  Saved run.tree config document

/-- What becomes of a document when a word is to be stored. A document that is too high is not
opened, and left alone. -/
def stored (document : Value) (entry : Entry) : Value :=
  if document.height ≤ maxDepth ∧ IsKeyPath entry.1 then
    document.store (ofWord entry.2) (segments entry.1)
  else document

variable {config : String} {document : Value} {run : Run}

theorem Remembers.opens_iff (h : Remembers config document run) :
    Opens config run ↔ document.height ≤ maxDepth := by
  rw [Opens, Saved.load h]
  constructor
  · rintro ⟨store, hstore⟩
    split at hstore
    · next hheight => exact hheight
    · cases hstore
  · intro hheight
    exact ⟨_, if_pos hheight⟩

/-- How storing a word ends, as long as the document can be opened. -/
def ending (key : String) : Except Fault Unit :=
  if IsKeyPath key then .ok () else .error (.config (.invalid key .keyPath))

/-- One call leads to the document with the word stored, and succeeds when the document can be
opened and the key path is proper. -/
theorem Remembers.storeWord (h : Remembers config document run) (entry : Entry) :
    Remembers config (stored document entry) (storeWord config entry.1 entry.2 run).2 ∧
      (document.height ≤ maxDepth → (storeWord config entry.1 entry.2 run).1 = ending entry.1) := by
  rw [Program.storeWord, Activity.run_bind, openStore_eq, Saved.load h, stored, ending]
  by_cases hheight : document.height ≤ maxDepth
  · by_cases hkey : IsKeyPath entry.1
    · obtain ⟨after, hset, hsaved⟩ := Saved.set h hkey (Document.isLegible_ofWord entry.2)
      simp only [if_pos hheight, if_pos hkey, if_pos (And.intro hheight hkey),
        Activity.run_bind, Activity.withTree, hset]
      exact ⟨hsaved, fun _ => rfl⟩
    · have hset : (Store.mk config document).set entry.1 (ofWord entry.2) run.tree =
          (.error (.config (.invalid entry.1 .keyPath)), ⟨config, document⟩, run.tree) := by
        rw [Store.set, if_neg hkey]
      simp only [if_pos hheight, if_neg hkey, if_neg (fun hand : _ ∧ _ => hkey hand.2),
        Activity.run_bind, Activity.withTree, hset]
      exact ⟨h, fun _ => trivial⟩
  · simp only [if_neg hheight, if_neg (fun hand : _ ∧ _ => hheight hand.1)]
    exact ⟨h, fun hle => absurd hle hheight⟩

/-- A word is shown as it was given. -/
theorem shownValue_ofWord (word : String) : shownValue (ofWord word) = word := by
  rw [ofWord]
  split
  · next h =>
    subst h
    rfl
  · split
    · next h =>
      subst h
      rfl
    · rfl

/-- A document that can be opened shows the word that stands at a key path. -/
theorem Remembers.showValue (h : Remembers config document run) {key word : String}
    (hheight : document.height ≤ maxDepth)
    (hfind : document.find? (segments key) = some (ofWord word)) :
    showValue config key run =
      (.ok (), { run with notices := run.notices ++ [.value word] }) := by
  have hget : document.get? key = some (ofWord word) := by
    rw [Value.get?, hfind, Option.filter_some, Document.isNull_ofWord]
    rfl
  rw [Program.showValue, Activity.run_bind, openStore_eq, Saved.load h, if_pos hheight]
  simp only [hget, shownValue_ofWord]
  rfl

/-! ### Many calls -/

variable {host : Host}

/-- Calls that come after others find what those left. -/
theorem carryOutAll_append (host : Host) (config : String) (commands more : List Command)
    (run : Run) :
    carryOutAll host config (commands ++ more) run =
      ((carryOutAll host config commands run).1 ++
          (carryOutAll host config more (carryOutAll host config commands run).2).1,
        (carryOutAll host config more (carryOutAll host config commands run).2).2) := by
  induction commands generalizing run with
  | nil => rfl
  | cons command rest ih =>
    simp only [List.cons_append, carryOutAll, ih]

theorem length_carryOutAll (host : Host) (config : String) (commands : List Command)
    (run : Run) : (carryOutAll host config commands run).1.length = commands.length := by
  induction commands generalizing run with
  | nil => rfl
  | cons command rest ih =>
    simp only [carryOutAll, List.length_cons, ih]

/-- **The program remembers** what all changes have led to. -/
theorem remembers_carryOutAll (h : Remembers config document run) (entries : List Entry) :
    Remembers config (entries.foldl stored document)
      (carryOutAll host config (storing entries) run).2 := by
  -- The document that is remembered changes along with the run.
  induction entries generalizing document run with
  | nil => exact h
  | cons entry entries ih => exact ih (h.storeWord entry).1

/-- How the call for one entry ends depends on what the calls before it have left. -/
theorem getElem?_carryOutAll (host : Host) (config : String) (earlier later : List Entry)
    (entry : Entry) (run : Run) :
    (carryOutAll host config (storing (earlier ++ entry :: later)) run).1[earlier.length]? =
      some (storeWord config entry.1 entry.2
        (carryOutAll host config (storing earlier) run).2).1 := by
  have hlength := length_carryOutAll host config (storing earlier) run
  rw [storing, List.length_map] at hlength
  rw [storing, List.map_append, carryOutAll_append]
  dsimp only
  rw [List.getElem?_append_right (Nat.le_of_eq hlength), hlength, Nat.sub_self]
  rfl

/-! ### The document after many calls -/

/-- A short key path keeps a document low. -/
theorem height_stored_le {entry : Entry} (h : document.height ≤ maxDepth)
    (hentry : IsShallow entry) : (stored document entry).height ≤ maxDepth := by
  rw [stored]
  split
  · next hand =>
    have hstore := Value.height_store_le document (ofWord entry.2) (segments entry.1)
    have hlength := hentry hand.2
    rw [Document.height_ofWord] at hstore
    omega
  · exact h

/-- A long key path makes a document too high. -/
theorem lt_height_stored {entry : Entry} (hentry : ¬ IsShallow entry) :
    maxDepth < (stored document entry).height := by
  obtain ⟨hkey, hlength⟩ := Classical.not_imp.mp hentry
  rw [stored]
  split
  · have hstore :=
      Value.length_add_height_le_store document (ofWord entry.2) (segments entry.1)
    omega
  · next hand => exact Nat.lt_of_not_le fun hheight => hand ⟨hheight, hkey⟩

/-- A document that is too high stays as it is. -/
theorem foldl_stored_of_lt (h : maxDepth < document.height) (entries : List Entry) :
    entries.foldl stored document = document := by
  induction entries with
  | nil => rfl
  | cons entry entries ih =>
    have hstored : stored document entry = document :=
      if_neg fun hand => absurd hand.1 (Nat.not_le_of_lt h)
    rw [List.foldl_cons, hstored, ih]

/-- A document stays low exactly when all key paths are short. -/
theorem height_foldl_stored_le_iff (h : document.height ≤ maxDepth) (entries : List Entry) :
    (entries.foldl stored document).height ≤ maxDepth ↔ ∀ entry ∈ entries, IsShallow entry := by
  induction entries generalizing document with
  | nil => exact ⟨fun _ entry hentry => absurd hentry List.not_mem_nil, fun _ => h⟩
  | cons entry entries ih =>
    rw [List.foldl_cons, List.forall_mem_cons]
    by_cases hentry : IsShallow entry
    · rw [ih (height_stored_le h hentry), and_iff_right hentry]
    -- From the first long key path on, nothing is stored any more.
    · have hlt : maxDepth < (stored document entry).height := lt_height_stored hentry
      rw [foldl_stored_of_lt hlt]
      exact ⟨fun hle => absurd hle (Nat.not_le_of_lt hlt), fun hall => absurd hall.1 hentry⟩

/-- Nothing changes at a place that is apart from all that is stored. -/
theorem find?_foldl_stored {path : List String} {entries : List Entry}
    (h : ∀ entry ∈ entries, IsKeyPath entry.1 → Apart (segments entry.1) path) :
    (entries.foldl stored document).find? path = document.find? path := by
  induction entries generalizing document with
  | nil => rfl
  | cons entry entries ih =>
    obtain ⟨hentry, hentries⟩ := List.forall_mem_cons.mp h
    rw [List.foldl_cons, ih hentries, stored]
    split
    · next hand => exact Value.find?_store_of_apart document _ (hentry hand.2)
    · rfl

/-- What was stored last at a place is found there. -/
theorem find?_foldl_stored_append {key word : String} {earlier later : List Entry}
    (hkey : IsKeyPath key)
    (hheight : (earlier.foldl stored document).height ≤ maxDepth)
    (h : ∀ entry ∈ later, IsKeyPath entry.1 → Apart (segments entry.1) (segments key)) :
    ((earlier ++ (key, word) :: later).foldl stored document).find? (segments key) =
      some (ofWord word) := by
  rw [List.foldl_append, List.foldl_cons, find?_foldl_stored h, stored,
    if_pos ⟨hheight, hkey⟩, Value.find?_store_self]

/-! ### Sessions from the beginning -/

/-- Creating a document is remembered. -/
theorem remembers_of_init {before : Run}
    (h : carryOut host config .init before = (.ok (), run)) :
    Remembers config (.object []) run := by
  rw [carryOut, create, Activity.run_bind] at h
  simp only [Activity.withTree] at h
  cases hcreate : Store.create config before.tree with
  | mk result tree =>
    rw [hcreate] at h
    cases result with
    | error fault => cases h
    | ok store =>
      cases h
      exact Document.saved_of_create hcreate

/-- **A session remembers every word, up to a key path that is too long**. After a document was
created and words were stored in it, the document can be opened exactly when no proper key path
had more than `maxDepth` keys. Until the first one that has, storing succeeds exactly at proper
key paths. And a document that can be opened shows, at each key path, the word that was stored
there last, unless something was stored above or below it later. -/
theorem session_spec {before start : Run} (h : carryOut host config .init before = (.ok (), start))
    (entries : List Entry) :
    (Opens config (carryOutAll host config (storing entries) start).2 ↔
      ∀ entry ∈ entries, IsKeyPath entry.1 → (segments entry.1).length ≤ maxDepth) ∧
    (∀ earlier key word later, entries = earlier ++ (key, word) :: later →
      (∀ entry ∈ earlier, IsKeyPath entry.1 → (segments entry.1).length ≤ maxDepth) →
      (carryOutAll host config (storing entries) start).1[earlier.length]? =
        some (if IsKeyPath key then .ok () else .error (.config (.invalid key .keyPath)))) ∧
    (∀ earlier key word later, entries = earlier ++ (key, word) :: later → IsKeyPath key →
      (∀ entry ∈ later, IsKeyPath entry.1 →
        ¬ segments entry.1 <+: segments key ∧ ¬ segments key <+: segments entry.1) →
      Opens config (carryOutAll host config (storing entries) start).2 →
      carryOut host config (.get key) (carryOutAll host config (storing entries) start).2 =
        (.ok (), { (carryOutAll host config (storing entries) start).2 with
          notices := (carryOutAll host config (storing entries) start).2.notices ++
            [.value word] })) := by
  have hstart := remembers_of_init h
  have hempty : (Value.object []).height ≤ maxDepth := by decide
  refine ⟨?_, ?_, ?_⟩
  · rw [(remembers_carryOutAll hstart entries).opens_iff]
    exact height_foldl_stored_le_iff hempty entries
  · rintro earlier key word later rfl hearlier
    have hbefore : Remembers config (earlier.foldl stored (.object []))
        (carryOutAll host config (storing earlier) start).2 := remembers_carryOutAll hstart earlier
    have hheight := (height_foldl_stored_le_iff hempty earlier).mpr hearlier
    rw [getElem?_carryOutAll]
    exact congrArg some ((hbefore.storeWord (key, word)).2 hheight)
  · rintro earlier key word later rfl hkey hlater hopens
    have hafter : Remembers config ((earlier ++ (key, word) :: later).foldl stored (.object []))
        (carryOutAll host config (storing (earlier ++ (key, word) :: later)) start).2 :=
      remembers_carryOutAll hstart _
    have hheight := hafter.opens_iff.mp hopens
    -- A document that is low in the end was low all along.
    have hearlier : (earlier.foldl stored (.object [])).height ≤ maxDepth := by
      rw [height_foldl_stored_le_iff hempty] at hheight ⊢
      exact fun entry hentry => hheight entry (List.mem_append_left _ hentry)
    exact hafter.showValue hheight (find?_foldl_stored_append hkey hearlier hlater)

/-- A key path of 128 keys. -/
def longKey : String := String.intercalate "." (List.replicate 128 "a")

/-- Storing a word at a key path of 128 keys succeeds, and the document is lost. -/
theorem session_longKey :
    ∃ host start, carryOut host "stack.json" .init (.start .empty []) = (.ok (), start) ∧
      (carryOutAll host "stack.json" (storing [(longKey, "x")]) start).1 = [.ok ()] ∧
      ¬ Opens "stack.json" (carryOutAll host "stack.json" (storing [(longKey, "x")]) start).2 := by
  have hsegments : segments longKey = List.replicate 128 "a" := by
    refine Document.segments_intercalate (fun key hmem => ?_) (by simp)
    rw [List.eq_of_mem_replicate hmem]
    decide
  have hkey : IsKeyPath longKey := by
    intro key hmem
    rw [hsegments] at hmem
    rw [List.eq_of_mem_replicate hmem]
    decide
  have hinit : ∃ start, carryOut ⟨fun _ => none, fun _ _ => none⟩ "stack.json" .init
      (.start .empty []) = (.ok (), start) := ⟨_, rfl⟩
  obtain ⟨start, hinit⟩ := hinit
  obtain ⟨hopens, hresults, -⟩ := session_spec hinit [(longKey, "x")]
  refine ⟨_, start, hinit, ?_, fun h => ?_⟩
  · have hfirst := hresults [] longKey "x" [] rfl fun _ h => absurd h List.not_mem_nil
    rw [if_pos hkey] at hfirst
    exact congrArg (fun result => [result]) (Option.some.inj hfirst)
  · have hlength := hopens.mp h (longKey, "x") (List.mem_singleton_self _) hkey
    rw [hsegments, List.length_replicate] at hlength
    exact absurd hlength (by decide)

end RemoteGateway.Program
