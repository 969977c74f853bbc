import RemoteGateway.Proofs.Deployment.Generating
import RemoteGateway.Proofs.Deployment.Outputs
import RemoteGateway.Proofs.FileTree.Reaching
import RemoteGateway.Proofs.Settings.Footprint

/-!
# Generating again and again

Whatever was generated into a directory before, for whatever settings, and wherever that was broken
off: once the artifacts for some settings are written completely, the directory holds these
artifacts and no others, and everything else in the tree is as it was in the beginning
(`writeTo_of_history`).

Each attempt, however it ends, changes nothing but the destinations of artifacts
(`changes_attempt`), and so does a whole history of them (`changes_regenerateAll`). The last writing
settles what stands at all of these, and the files that are made once leave it alone
(`stands_of_changes`).
-/

namespace RemoteGateway.Deployment

open FileTree

/-! ### Attempts -/

/-- Where a writing is broken off: after so many steps, and, when a file is being filled then,
after so many bytes. -/
structure Break where
  steps : Nat
  bytes : Nat

/-- What is done of a step that is broken off. -/
def Break.partially (broken : Break) : Step → List Step
  | .fill location content => [.fill location (content.extract 0 broken.bytes)]
  | _ => []

/-- The steps that are taken until a plan is broken off. -/
def Break.until (broken : Break) (plan : List Step) : List Step :=
  plan.take broken.steps ++ plan[broken.steps]?.elim [] broken.partially

/-- What an attempt to write the artifacts leaves, which may be broken off. -/
def Artifacts.attempt (artifacts : Artifacts) (directory : String) (broken : Option Break)
    (tree : FileTree) : FileTree :=
  match broken with
  | none => (artifacts.writeTo directory tree).2
  | some broken => (tree.perform (broken.until (artifacts.steps directory))).2

/-- An attempt to generate the artifacts for some settings. -/
structure Attempt where
  settings : Settings
  broken : Option Break

/-- What an attempt leaves. Settings for which there are no artifacts change nothing. -/
def regenerate (directory : String) (tree : FileTree) (attempt : Attempt) : FileTree :=
  match synthesize attempt.settings with
  | .error _ => tree
  | .ok artifacts => artifacts.attempt directory attempt.broken tree

/-- What is left of a history of attempts. -/
def regenerateAll (directory : String) (tree : FileTree) (history : List Attempt) : FileTree :=
  history.foldl (regenerate directory) tree

/-! ### What attempts change -/

variable {directory : String} {tree after : FileTree} {artifacts : Artifacts}

/-- A step that is broken off is for the same file. -/
theorem isFor_of_mem_partially {broken : Break} {step done : Step} {path : String}
    (hstep : step.IsFor path) (h : done ∈ broken.partially step) : done.IsFor path := by
  cases hstep with
  | survey | directory | create => exact absurd h List.not_mem_nil
  | fill hpath content =>
    rw [List.mem_singleton.mp h]
    exact .fill hpath _

theorem isFor_of_mem_until {broken : Break} {step : Step}
    (h : step ∈ broken.until (artifacts.steps directory)) :
    ∃ path ∈ artifactPaths directory, step.IsFor path := by
  rcases List.mem_append.mp h with h | h
  · exact isFor_of_mem_steps (List.mem_of_mem_take h)
  · cases hnext : (artifacts.steps directory)[broken.steps]? with
    | none =>
      rw [hnext] at h
      exact absurd h List.not_mem_nil
    | some next =>
      rw [hnext] at h
      obtain ⟨path, hpath, hfor⟩ := isFor_of_mem_steps (List.mem_of_getElem? hnext)
      exact ⟨path, hpath, isFor_of_mem_partially hfor h⟩

theorem changes_attempt (artifacts : Artifacts) (directory : String) (broken : Option Break)
    (tree : FileTree) :
    Changes (artifactPaths directory) (artifactPaths directory) tree
      (artifacts.attempt directory broken tree) := by
  cases broken with
  | none => exact changes_writeTo artifacts directory tree
  | some broken => exact changes_perform fun step => isFor_of_mem_until

theorem changes_regenerate (tree : FileTree) (attempt : Attempt) :
    Changes (artifactPaths directory) (artifactPaths directory) tree
      (regenerate directory tree attempt) := by
  rw [regenerate]
  cases synthesize attempt.settings with
  | error fault => exact .refl tree
  | ok artifacts => exact changes_attempt artifacts directory attempt.broken tree

/-- A history of attempts changes nothing but the destinations of artifacts. -/
theorem changes_regenerateAll (tree : FileTree) (history : List Attempt) :
    Changes (artifactPaths directory) (artifactPaths directory) tree
      (regenerateAll directory tree history) := by
  induction history generalizing tree with
  | nil => exact .refl tree
  | cons attempt later ih => exact (changes_regenerate tree attempt).trans (ih _)

/-! ### What a complete writing leaves -/

/-- The artifacts that were written are there with their texts, and the script can be run or is
gone. -/
theorem holds_of_writeTo {written : List String}
    (h : artifacts.writeTo directory tree = (.ok written, after)) :
    (∀ file text, (file, text) ∈ artifacts.files →
      after.read (join directory file) = .ok text.toUTF8) ∧
      (∀ script, artifacts.bootstrap = some script →
        after.status (scriptPath directory) = .ok (.file script.toUTF8 0o755)) ∧
      (artifacts.bootstrap = none → after.status (scriptPath directory) = .error .missing) := by
  obtain ⟨-, next, hsteps, hfinish⟩ := writeTo_eq_ok h
  obtain ⟨hchanges, hscript, hgone⟩ := changes_finishScript hsteps hfinish
  refine ⟨fun file text hfile => ?_, hscript, fun hnone => hgone hnone rfl⟩
  obtain ⟨mode, hstatus⟩ : ∃ mode, after.status (join directory file) =
      .ok (.file text.toUTF8 mode) := by
    rcases List.mem_append.mp hfile with hplain | hmem
    · -- What is done about the script leaves the other artifacts alone.
      obtain ⟨mode, hstatus⟩ := status_of_steps hsteps hfile
      refine ⟨mode, hchanges.status_eq (fun other hother => ?_) hstatus⟩
      have hentries : ∀ file ∈ [composeFile, proxyMainFile, virtualHostFile],
          IsEntryText file ∧ entriesOf bootstrapScript ≠ entriesOf file := by
        decide
      obtain ⟨hentry, hapart⟩ := hentries file (List.mem_map_of_mem (f := Prod.fst) hplain)
      rw [List.mem_singleton.mp hother, scriptPath, namesOf_join directory hentry,
        namesOf_join directory (by decide)]
      exact fun heq => hapart (List.append_cancel_left heq)
    · obtain ⟨script, hbootstrap, heq⟩ := List.mem_map.mp hmem
      cases heq
      exact ⟨_, hscript text (Option.mem_toList.mp hbootstrap)⟩
  rw [FileTree.read, hstatus]

/-- A script is written exactly when the certificate is requested. -/
theorem bootstrap_isSome_iff {settings : Settings} (h : synthesize settings = .ok artifacts) :
    artifacts.bootstrap.isSome = true ↔ settings.tls.source = .letsEncrypt := by
  obtain ⟨compose, -, h⟩ := Outcome.bind_eq_ok.mp h
  obtain ⟨main, -, h⟩ := Outcome.bind_eq_ok.mp h
  obtain ⟨host, -, h⟩ := Outcome.bind_eq_ok.mp h
  obtain ⟨script, hscript, h⟩ := Outcome.bind_eq_ok.mp h
  cases h
  rw [bootstrap] at hscript
  cases hsource : settings.tls.source with
  | selfSigned =>
    rw [hsource] at hscript
    cases hscript
    constructor
    · intro h
      cases h
    · intro h
      cases h
  | letsEncrypt =>
    simp only [hsource] at hscript
    split at hscript
    · cases hscript
    · obtain ⟨text, -, rfl⟩ := Outcome.map_eq_ok.mp hscript
      exact ⟨fun _ => rfl, fun _ => rfl⟩

/-! ### What stands in the output directory -/

/-- From a tree to a later one some files were written below a directory, and they are all of the
artifacts that are there. The pair and the schema are the only other files that may have
changed. -/
structure Stands (files : List (String × String)) (directory : String) (tree after : FileTree) :
    Prop where
  artifacts : ∀ file ∈ artifactFiles, ∀ content,
    after.read (join directory file) = .ok content ↔
      ∃ text, (file, text) ∈ files ∧ content = text.toUTF8
  changes : Changes (writtenPaths directory) (writtenPaths directory) tree after

variable {next : FileTree}

/-- A file that is read is a file. -/
theorem read_eq_ok {path : String} {content : ByteArray} :
    tree.read path = .ok content ↔ ∃ mode, tree.status path = .ok (.file content mode) := by
  rw [FileTree.read]
  constructor
  · intro h
    split at h
    · cases h
    · cases h
    · next found mode hstatus =>
      cases h
      exact ⟨mode, hstatus⟩
  · rintro ⟨mode, hstatus⟩
    rw [hstatus]

/-- All artifacts that are there belong to those that were written last. -/
theorem mem_files_of_status {written : List String} {file : String} {content : ByteArray}
    {mode : Nat} (h : artifacts.writeTo directory tree = (.ok written, next))
    (hfile : file ∈ artifactFiles)
    (hstatus : next.status (join directory file) = .ok (.file content mode)) :
    ∃ text, (file, text) ∈ artifacts.files ∧ content = text.toUTF8 := by
  obtain ⟨hread, -, hgone⟩ := holds_of_writeTo h
  have hwritten : ∀ text, (file, text) ∈ artifacts.files →
      ∃ text, (file, text) ∈ artifacts.files ∧ content = text.toUTF8 := by
    intro text hmem
    have hcontent := hread file text hmem
    rw [read_eq_ok.mpr ⟨mode, hstatus⟩] at hcontent
    exact ⟨text, hmem, Except.ok.inj hcontent⟩
  simp only [artifactFiles, List.mem_cons, List.not_mem_nil, or_false] at hfile
  rcases hfile with rfl | rfl | rfl | rfl
  · exact hwritten artifacts.compose (by simp [Artifacts.files])
  · exact hwritten artifacts.proxyMain (by simp [Artifacts.files])
  · exact hwritten artifacts.virtualHost (by simp [Artifacts.files])
  · cases hbootstrap : artifacts.bootstrap with
    | some script => exact hwritten script (by simp [Artifacts.files, hbootstrap])
    | none =>
      -- A script of an earlier generation was taken away.
      rw [← scriptPath, hgone hbootstrap] at hstatus
      cases hstatus

/-- There is a way to the script, since there is one to the virtual host. -/
theorem reaches_scriptPath {written : List String}
    (h : artifacts.writeTo directory tree = (.ok written, next)) :
    next.Reaches (scriptPath directory) := by
  have hhost := (holds_of_writeTo h).1 virtualHostFile artifacts.virtualHost
    (by simp [Artifacts.files])
  obtain ⟨mode, hstatus⟩ := read_eq_ok.mp hhost
  refine reaches_join (by decide) (by decide) (by decide) (by decide) (by decide)
    (status_eq_file.mp hstatus).1 fun before hbefore hne => ?_
  have hentries : (entriesOf bootstrapScript).dropLast = [] := by
    decide
  rw [hentries] at hbefore
  exact absurd (List.prefix_nil.mp hbefore) hne

/-- What is made once leaves the artifacts alone. -/
theorem stands_of_changes {written : List String}
    (h : artifacts.writeTo directory tree = (.ok written, next))
    (hmade : Changes (pairPaths directory ++ [schemaPath directory])
      (pairPaths directory ++ [schemaPath directory]) next after) :
    Stands artifacts.files directory tree after := by
  have hchanges := changes_writeTo artifacts directory tree
  rw [h] at hchanges
  have hapart : ∀ file ∈ artifactFiles, ∀ other ∈ pairPaths directory ++ [schemaPath directory],
      namesOf other ≠ namesOf (join directory file) := fun file hfile other hother =>
    (artifactPaths_ne directory _ (List.mem_map_of_mem hfile) other hother).symm
  refine ⟨fun file hfile content => ⟨fun hread => ?_, ?_⟩, ?_⟩
  · obtain ⟨mode, hstatus⟩ := read_eq_ok.mp hread
    obtain ⟨hreaches, hfind⟩ := status_eq_file.mp hstatus
    have hbefore := hmade.find?_eq_of_file (hapart file hfile) hfind
    -- The way to the file was there before.
    have hway : next.Reaches (join directory file) := by
      by_cases hwritten : ∃ text, (file, text) ∈ artifacts.files
      · obtain ⟨text, hmem⟩ := hwritten
        obtain ⟨bits, hbits⟩ := read_eq_ok.mp ((holds_of_writeTo h).1 file text hmem)
        exact (status_eq_file.mp hbits).1
      · simp only [artifactFiles, List.mem_cons, List.not_mem_nil, or_false] at hfile
        rcases hfile with rfl | rfl | rfl | rfl
        · exact absurd ⟨artifacts.compose, by simp [Artifacts.files]⟩ hwritten
        · exact absurd ⟨artifacts.proxyMain, by simp [Artifacts.files]⟩ hwritten
        · exact absurd ⟨artifacts.virtualHost, by simp [Artifacts.files]⟩ hwritten
        · exact reaches_scriptPath h
    exact mem_files_of_status h hfile (status_eq_file.mpr ⟨hway, hbefore⟩)
  · rintro ⟨text, hmem, rfl⟩
    obtain ⟨mode, hstatus⟩ := read_eq_ok.mp ((holds_of_writeTo h).1 file text hmem)
    exact read_eq_ok.mpr ⟨mode, hmade.status_eq (hapart file hfile) hstatus⟩
  · have hall := List.subset_append_right (artifactPaths directory)
      (pairPaths directory ++ [schemaPath directory])
    have hartifacts := List.subset_append_left (artifactPaths directory)
      (pairPaths directory ++ [schemaPath directory])
    exact (hchanges.mono hartifacts hartifacts).trans (hmade.mono hall hall)

/-! ### Independence of the history -/

/-- **What is generated last does not depend on what was generated before**: the artifacts have
their texts, there is a script exactly when a certificate is requested, and it can be run. All else
is as in the beginning, save for missing directories on the way to artifacts. -/
theorem writeTo_of_history {directory : String} {tree after : FileTree} {history : List Attempt}
    {settings : Settings} {artifacts : Artifacts} {written : List String}
    (hsynthesize : synthesize settings = .ok artifacts)
    (h : artifacts.writeTo directory (regenerateAll directory tree history) =
      (.ok written, after)) :
    after.read (join directory composeFile) = .ok artifacts.compose.toUTF8 ∧
      after.read (join directory proxyMainFile) = .ok artifacts.proxyMain.toUTF8 ∧
      after.read (join directory virtualHostFile) = .ok artifacts.virtualHost.toUTF8 ∧
      (after.isPresent (join directory bootstrapScript) = true ↔
        settings.tls.source = .letsEncrypt) ∧
      (settings.tls.source = .letsEncrypt → ∃ script, artifacts.bootstrap = some script ∧
        after.status (join directory bootstrapScript) = .ok (.file script.toUTF8 0o755)) ∧
      written = (artifacts.files.map Prod.fst).map (join directory) ∧
      ∀ names, (∀ file ∈ artifactFiles, namesOf (join directory file) ≠ names) →
        after.find? names = tree.find? names ∨
          tree.find? names = none ∧ after.find? names = some (.directory directoryMode) ∧
            ∃ file ∈ artifactFiles, IsOnWay (join directory file) names := by
  obtain ⟨hread, hscript, hgone⟩ := holds_of_writeTo h
  have hsource := bootstrap_isSome_iff hsynthesize
  have hfiles : ∀ file ∈ [(composeFile, artifacts.compose), (proxyMainFile, artifacts.proxyMain),
      (virtualHostFile, artifacts.virtualHost)], after.read (join directory file.1) =
        .ok file.2.toUTF8 :=
    fun file hfile => hread file.1 file.2 (List.mem_append_left _ hfile)
  simp only [List.forall_mem_cons] at hfiles
  obtain ⟨hcompose, hmain, hhost, -⟩ := hfiles
  refine ⟨hcompose, hmain, hhost, ?_, fun hletsEncrypt => ?_, ?_, fun names hnames => ?_⟩
  · rw [← hsource, isPresent]
    cases hbootstrap : artifacts.bootstrap with
    | none =>
      rw [← scriptPath, hgone hbootstrap]
      decide
    | some script =>
      rw [← scriptPath, hscript script hbootstrap]
      exact ⟨fun _ => rfl, fun _ => rfl⟩
  · obtain ⟨script, hbootstrap⟩ := Option.isSome_iff_exists.mp (hsource.mpr hletsEncrypt)
    exact ⟨script, hbootstrap, hscript script hbootstrap⟩
  · rw [(writeTo_eq_ok h).1, written_eq]
  · have hlast := changes_writeTo artifacts directory (regenerateAll directory tree history)
    rw [h] at hlast
    have hall := (changes_regenerateAll tree history).trans hlast
    rcases hall.frame names (List.forall_mem_map.mpr hnames) with
      hsame | ⟨hnone, hmade, path, hpath, hway⟩
    · exact .inl hsame
    · obtain ⟨file, hfile, rfl⟩ := List.mem_map.mp hpath
      exact .inr ⟨hnone, hmade, file, hfile, hway⟩

/-- The sample site is generated twice with a requested certificate, the first time in part. -/
def sampleHistory : List Attempt :=
  [⟨Sample.settings, some ⟨7, 3⟩⟩, ⟨Sample.settings, none⟩]

theorem writeTo_of_sampleHistory :
    (regenerateAll "out" .empty sampleHistory).isPresent (join "out" bootstrapScript) = true ∧
      ∃ artifacts written after, synthesize Sample.localSettings = .ok artifacts ∧
        artifacts.writeTo "out" (regenerateAll "out" .empty sampleHistory) = (.ok written, after) ∧
        after.read (join "out" composeFile) = .ok artifacts.compose.toUTF8 ∧
        after.isPresent (join "out" bootstrapScript) = false := by
  refine ⟨by decide +kernel, ?_⟩
  have hwritten : ((synthesize Sample.localSettings).toOption.any fun artifacts =>
      (artifacts.writeTo "out" (regenerateAll "out" .empty sampleHistory)).1.toBool) = true := by
    decide +kernel
  cases hsynthesize : synthesize Sample.localSettings with
  | error fault =>
    rw [hsynthesize] at hwritten
    cases hwritten
  | ok artifacts =>
    rw [hsynthesize] at hwritten
    rcases hwrite : artifacts.writeTo "out" (regenerateAll "out" .empty sampleHistory) with
      ⟨fault | written, after⟩
    · simp [Except.toOption, hwrite, Except.toBool] at hwritten
    · obtain ⟨hcompose, -, -, hscript, -⟩ := writeTo_of_history hsynthesize hwrite
      refine ⟨artifacts, written, after, rfl, hwrite, hcompose, Bool.eq_false_iff.mpr fun h => ?_⟩
      exact absurd (hscript.mp h) (by decide)

end RemoteGateway.Deployment
