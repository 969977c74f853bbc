import RemoteGateway.Deployment.Artifacts
import RemoteGateway.Deployment.Provision
import RemoteGateway.Proofs.FileTree.Writing

/-!
# Where a deployment is written

The four artifacts, the certificate pair and the schema have seven destinations below the output
directory, whatever the path of that directory is, and no two of them are the same
(`writtenPaths_apart`). However the writing of the artifacts ends, nothing but their destinations
changes, save that missing directories are made (`changes_writeTo`).
-/

namespace RemoteGateway.Deployment

open FileTree

/-! ### Destinations -/

/-- The artifacts, the script among them even if there is none, in the order in which they are
written. -/
def artifactFiles : List String :=
  [composeFile, proxyMainFile, virtualHostFile, bootstrapScript]

/-- The paths of the artifacts below an output directory. -/
def artifactPaths (directory : String) : List String :=
  artifactFiles.map (join directory)

/-- The paths of the two files of a certificate pair. -/
def pairPaths (directory : String) : List String :=
  [certificatePath directory, keyPath directory]

/-- All paths that a deployment writes to. -/
def writtenPaths (directory : String) : List String :=
  artifactPaths directory ++ (pairPaths directory ++ [schemaPath directory])

/-- The places of all that is written, below the output directory. -/
def writtenNames : List (List String) :=
  [["docker-compose.yml"], ["nginx", "nginx.conf"], ["nginx", "conf.d", "guacamole.conf"],
    ["init-letsencrypt.sh"], ["nginx", "ssl", "cert.pem"], ["nginx", "ssl", "key.pem"],
    ["init", "initdb.sql"]]

theorem isEntryText_of_mem_artifactFiles : ∀ file ∈ artifactFiles, IsEntryText file := by
  decide

variable (directory : String)

theorem namesOf_pairDirectory :
    namesOf (pairDirectory directory) = namesOf directory ++ ["nginx", "ssl"] :=
  namesOf_join directory (by decide)

/-- What is written stands at fixed places below the output directory, whatever its path is. -/
theorem map_namesOf_writtenPaths :
    (writtenPaths directory).map namesOf = writtenNames.map (namesOf directory ++ ·) := by
  have hpair : ∀ file ∈ [localCertificateFile, localKeyFile],
      namesOf (join (pairDirectory directory) file) =
        namesOf directory ++ (["nginx", "ssl"] ++ entriesOf file) := by
    intro file hfile
    have hentry : ∀ file ∈ [localCertificateFile, localKeyFile], IsEntryText file := by decide
    rw [namesOf_join _ (hentry file hfile), namesOf_pairDirectory, List.append_assoc]
  have hfiles : ∀ file ∈ artifactFiles ++ [schemaFile],
      namesOf (join directory file) = namesOf directory ++ entriesOf file := by
    intro file hfile
    have hentry : ∀ file ∈ artifactFiles ++ [schemaFile], IsEntryText file := by decide
    exact namesOf_join directory (hentry file hfile)
  simp only [artifactFiles, List.cons_append, List.nil_append, List.forall_mem_cons] at hpair hfiles
  obtain ⟨hcertificate, hkey, -⟩ := hpair
  obtain ⟨hcompose, hmain, hhost, hscript, hschema, -⟩ := hfiles
  simp only [writtenPaths, artifactPaths, artifactFiles, pairPaths, certificatePath, keyPath,
    schemaPath, List.map_cons, List.map_nil, List.cons_append, List.nil_append, hcertificate, hkey,
    hcompose, hmain, hhost, hscript, hschema]
  rfl

/-- **No two things that are written have the same destination.** -/
theorem writtenPaths_apart :
    (writtenPaths directory).Pairwise fun path other => namesOf path ≠ namesOf other := by
  rw [← List.pairwise_map (f := namesOf) (R := (· ≠ ·)), map_namesOf_writtenPaths,
    List.pairwise_map]
  have hnames : writtenNames.Pairwise (· ≠ ·) := by
    decide
  exact hnames.imp fun hne heq => hne (List.append_cancel_left heq)

/-- The artifacts are apart from what is made once. -/
theorem artifactPaths_ne :
    ∀ other ∈ artifactPaths directory, ∀ path ∈ pairPaths directory ++ [schemaPath directory],
      namesOf other ≠ namesOf path :=
  (List.pairwise_append.mp (writtenPaths_apart directory)).2.2

/-- The pair is apart from the schema. -/
theorem pairPaths_ne :
    ∀ path ∈ pairPaths directory, namesOf path ≠ namesOf (schemaPath directory) := by
  have hmade := (List.pairwise_append.mp (writtenPaths_apart directory)).2.1
  exact fun path hpath => (List.pairwise_append.mp hmade).2.2 path hpath _
    (List.mem_singleton_self _)

/-- The destinations of the artifacts are below the output directory. -/
theorem namesOf_of_mem_artifactPaths {path : String} (h : path ∈ artifactPaths directory) :
    ∃ file ∈ artifactFiles, path = join directory file ∧
      namesOf path = namesOf directory ++ entriesOf file := by
  obtain ⟨file, hfile, rfl⟩ := List.mem_map.mp h
  exact ⟨file, hfile, rfl, namesOf_join directory (isEntryText_of_mem_artifactFiles file hfile)⟩

theorem isEntryPath_of_mem_artifactPaths {path : String} (h : path ∈ artifactPaths directory) :
    IsEntryPath path := by
  obtain ⟨file, hfile, rfl, -⟩ := namesOf_of_mem_artifactPaths directory h
  exact isEntryPath_join directory (isEntryText_of_mem_artifactFiles file hfile)

/-! ### Writing the artifacts -/

variable {directory} {tree after : FileTree} {artifacts : Artifacts}

theorem written_eq (artifacts : Artifacts) (directory : String) :
    artifacts.written directory = (artifacts.files.map Prod.fst).map (join directory) := by
  rw [List.map_map]
  rfl

/-- The script comes last and may be missing. -/
theorem written_sublist (artifacts : Artifacts) (directory : String) :
    (artifacts.written directory).Sublist (artifactPaths directory) := by
  have hfiles : (artifacts.files.map Prod.fst).Sublist artifactFiles := by
    rw [Artifacts.files, List.map_append]
    refine List.Sublist.append (List.Sublist.refl [composeFile, proxyMainFile, virtualHostFile]) ?_
    cases artifacts.bootstrap with
    | none => exact List.nil_sublist _
    | some script => exact List.Sublist.refl _
  rw [written_eq]
  exact hfiles.map _

/-- Every step of the writing is for one of the artifacts. -/
theorem isFor_of_mem_steps {step : Step} (h : step ∈ artifacts.steps directory) :
    ∃ path ∈ artifactPaths directory, step.IsFor path := by
  obtain ⟨⟨file, text⟩, hfile, hstep⟩ := List.mem_flatMap.mp h
  have hpath : join directory file ∈ artifactPaths directory :=
    (written_sublist artifacts directory).subset (List.mem_map.mpr ⟨(file, text), hfile, rfl⟩)
  exact ⟨_, hpath,
    isFor_of_mem_writeFile (isEntryPath_of_mem_artifactPaths directory hpath) hstep⟩

/-- Files that are written one after the other all have their contents in the end. -/
theorem status_of_writeFiles {files : List (String × String)}
    (hentry : ∀ file ∈ files, IsEntryPath file.1)
    (hapart : (files.map Prod.fst).Pairwise fun path other => namesOf path ≠ namesOf other)
    (h : tree.perform (files.flatMap fun (path, text) => writeFile path text.toUTF8) =
      (.ok (), after)) {path text : String} (hfile : (path, text) ∈ files) :
    ∃ mode, after.status path = .ok (.file text.toUTF8 mode) := by
  induction files generalizing tree with
  | nil => exact absurd hfile List.not_mem_nil
  | cons first rest ih =>
    obtain ⟨-, hentries⟩ := List.forall_mem_cons.mp hentry
    obtain ⟨hfirst, hrest⟩ := List.pairwise_cons.mp hapart
    rw [List.flatMap_cons] at h
    obtain ⟨next, hwrite, hlater⟩ := perform_append_eq_ok h
    rcases List.mem_cons.mp hfile with rfl | hfile
    · -- The later files have other destinations.
      obtain ⟨mode, hstatus⟩ := (perform_writeFile hwrite).2 rfl
      have hchanges : Changes (rest.map Prod.fst) (rest.map Prod.fst) next
          (next.perform (rest.flatMap fun (path, text) => writeFile path text.toUTF8)).2 := by
        refine changes_perform fun step hstep => ?_
        obtain ⟨file, hmem, hstep⟩ := List.mem_flatMap.mp hstep
        exact ⟨file.1, List.mem_map_of_mem hmem,
          isFor_of_mem_writeFile (hentries file hmem) hstep⟩
      rw [hlater] at hchanges
      exact ⟨mode, hchanges.status_eq (fun other hother => (hfirst other hother).symm) hstatus⟩
    · exact ih hentries hrest hlater hfile

/-- The artifacts that were written have their texts. -/
theorem status_of_steps (h : tree.perform (artifacts.steps directory) = (.ok (), after))
    {file text : String} (hfile : (file, text) ∈ artifacts.files) :
    ∃ mode, after.status (join directory file) = .ok (.file text.toUTF8 mode) := by
  have hsteps : artifacts.steps directory =
      (artifacts.files.map fun (file, text) => (join directory file, text)).flatMap
        fun (path, text) => writeFile path text.toUTF8 := by
    rw [List.flatMap_map]
    rfl
  have hpaths : (artifacts.files.map fun (file, text) => (join directory file, text)).map
      Prod.fst = artifacts.written directory := by
    rw [written_eq, List.map_map, List.map_map]
    rfl
  rw [hsteps] at h
  refine status_of_writeFiles (fun file hmem => ?_) ?_ h (List.mem_map.mpr ⟨_, hfile, rfl⟩)
  · have hwritten := hpaths ▸ List.mem_map_of_mem (f := Prod.fst) hmem
    exact isEntryPath_of_mem_artifactPaths directory
      ((written_sublist artifacts directory).subset hwritten)
  · rw [hpaths]
    exact (writtenPaths_apart directory).sublist
      ((written_sublist artifacts directory).trans (List.sublist_append_left _ _))

/-- The path of the script. -/
def scriptPath (directory : String) : String :=
  join directory bootstrapScript

theorem scriptPath_mem (directory : String) : scriptPath directory ∈ artifactPaths directory :=
  List.mem_map_of_mem (by decide : bootstrapScript ∈ artifactFiles)

/-- What is done about the script changes nothing else. -/
theorem changes_finishScript {result : Except FileTree.Fault Unit}
    (hsteps : tree.perform (artifacts.steps directory) = (.ok (), after)) {final : FileTree}
    (h : artifacts.finishScript directory after = (result, final)) :
    Changes [scriptPath directory] [] after final ∧
      (∀ script, artifacts.bootstrap = some script →
        final.status (scriptPath directory) = .ok (.file script.toUTF8 0o755)) ∧
      (artifacts.bootstrap = none → result = .ok () →
        final.status (scriptPath directory) = .error .missing) := by
  have hentry := isEntryPath_of_mem_artifactPaths directory (scriptPath_mem directory)
  rw [Artifacts.finishScript] at h
  cases hbootstrap : artifacts.bootstrap with
  | some script =>
    have hfile : (bootstrapScript, script) ∈ artifacts.files := by
      rw [Artifacts.files, hbootstrap]
      exact List.mem_append_right _ (List.mem_singleton_self _)
    obtain ⟨mode, hstatus⟩ := status_of_steps hsteps hfile
    obtain ⟨executable, hperform, hchanges, hfinal⟩ := perform_makeExecutable hentry hstatus
    rw [hbootstrap, Option.isSome_some, if_pos rfl, ← scriptPath, hperform] at h
    cases h
    refine ⟨hchanges, fun other hother => ?_, nofun⟩
    cases hother
    exact hfinal
  | none =>
    rw [hbootstrap, Option.isSome_none, if_neg (by decide)] at h
    rcases hremove : after.removeStale (join directory bootstrapScript) with ⟨fault | found, next⟩
    · obtain ⟨hchanges, -⟩ := removeStale_eq hentry hremove
      simp only [hremove] at h
      cases h
      exact ⟨hchanges, nofun, nofun⟩
    · obtain ⟨hchanges, hmissing⟩ := removeStale_eq hentry hremove
      simp only [hremove] at h
      cases h
      exact ⟨hchanges, nofun, fun _ _ => hmissing found rfl⟩

/-- **However the writing ends, nothing but the artifacts changes.** -/
theorem changes_writeTo (artifacts : Artifacts) (directory : String) (tree : FileTree) :
    Changes (artifactPaths directory) (artifactPaths directory) tree
      (artifacts.writeTo directory tree).2 := by
  have hsteps : Changes (artifactPaths directory) (artifactPaths directory) tree
      (tree.perform (artifacts.steps directory)).2 := changes_perform fun _ => isFor_of_mem_steps
  rw [Artifacts.writeTo]
  rcases hperform : tree.perform (artifacts.steps directory) with ⟨fault | ⟨⟩, next⟩
  · rw [hperform] at hsteps
    exact hsteps
  · rw [hperform] at hsteps
    rcases hfinish : artifacts.finishScript directory next with ⟨fault | ⟨⟩, final⟩
    all_goals
      have hscript := (changes_finishScript hperform hfinish).1.mono
        (List.cons_subset.mpr ⟨scriptPath_mem directory, List.nil_subset _⟩)
        (List.nil_subset (artifactPaths directory))
      simp only [hfinish]
      exact hsteps.trans hscript

/-- A writing that ends well does all its steps, and does something about the script. -/
theorem writeTo_eq_ok {written : List String}
    (h : artifacts.writeTo directory tree = (.ok written, after)) :
    written = artifacts.written directory ∧
      ∃ next, tree.perform (artifacts.steps directory) = (.ok (), next) ∧
        artifacts.finishScript directory next = (.ok (), after) := by
  rw [Artifacts.writeTo] at h
  split at h
  · cases h
  · next next hsteps =>
    split at h
    · cases h
    · next final hfinish =>
      cases h
      exact ⟨rfl, next, hsteps, hfinish⟩

end RemoteGateway.Deployment
