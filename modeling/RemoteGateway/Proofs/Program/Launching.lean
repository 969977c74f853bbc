import RemoteGateway.Proofs.Program.Deploying
import RemoteGateway.Proofs.Settings.Footprint

/-!
# Launches into one directory

A launch is a generation that writes, with whatever document, answers and external programs. Over
any number of launches into one directory, whether they succeed or fail, the files that are made
once stay as they are as soon as they are there, and the two halves of a certificate pair always
come from one issue when they are made (`launches_spec`).

What each stage of a generation keeps is combined by `relates_generate`, and what one launch keeps
is kept by all of them.
-/

namespace RemoteGateway.Program

open Deployment (artifactPaths pairPaths writtenPaths certificatePath keyPath schemaPath
  pairDirectory ensureCertificate ensureSchema artifactPaths_ne pairPaths_ne)
open FileTree (Changes IsOnWay namesOf directoryMode)

/-! ### Launches -/

/-- A generation that writes. -/
structure Launch where
  host : Host
  /-- The path of the document. -/
  config : String
  /-- What is put into the document's file before, if it is edited. -/
  document : Option ByteArray
  interactive : Bool
  pull : Bool
  answers : List Prompt.Line

namespace Launch

/-- The tree in which a launch begins. -/
def edited (launch : Launch) (tree : FileTree) : FileTree :=
  match launch.document with
  | none => tree
  | some content => (tree.perform (FileTree.writeFile launch.config content)).2

/-- How a launch begins. -/
def start (launch : Launch) (tree : FileTree) : Run :=
  Run.start (launch.edited tree) launch.answers

/-- What is generated in a launch into a directory. -/
def generation (launch : Launch) (directory : String) : Generation :=
  ⟨directory, launch.interactive, .write launch.pull⟩

/-- How a launch into a directory goes. -/
def outcome (launch : Launch) (directory : String) (tree : FileTree) : Except Fault Unit × Run :=
  generate launch.host launch.config (launch.generation directory) (launch.start tree)

/-- The settings that a launch reads, if it gets that far. -/
def settings (launch : Launch) (tree : FileTree) : Except Fault Settings :=
  (readSettings launch.config launch.interactive (launch.start tree)).1

/-- The document is none of the files that are made once. -/
def IsElsewhere (launch : Launch) (directory : String) : Prop :=
  ∀ path ∈ pairPaths directory ++ [schemaPath directory],
    namesOf launch.config ≠ namesOf path

end Launch

/-- The tree after some launches into a directory. -/
def launchAll (directory : String) (tree : FileTree) (launches : List Launch) : FileTree :=
  launches.foldl (fun tree launch => (launch.outcome directory tree).2.tree) tree

/-! ### What is kept -/

/-- A file at a path that is there in a tree is the same in a later one. -/
def KeepsFile (path : String) (tree after : FileTree) : Prop :=
  ∀ content mode, tree.status path = .ok (.file content mode) →
    after.status path = .ok (.file content mode)

/-- A pair of which both files are there in a tree is the same in a later one. -/
def KeepsPair (directory : String) (tree after : FileTree) : Prop :=
  ∀ certificate key mode bits,
    tree.status (certificatePath directory) = .ok (.file certificate mode) →
    tree.status (keyPath directory) = .ok (.file key bits) →
    after.status (certificatePath directory) = .ok (.file certificate mode) ∧
      after.status (keyPath directory) = .ok (.file key bits)

variable {directory path : String} {tree after : FileTree} {written sought : List String}

theorem KeepsFile.refl (tree : FileTree) : KeepsFile path tree tree :=
  fun _ _ h => h

theorem KeepsFile.trans {later : FileTree} (h : KeepsFile path tree after)
    (h' : KeepsFile path after later) : KeepsFile path tree later :=
  fun content mode hfile => h' content mode (h content mode hfile)

theorem KeepsPair.refl (tree : FileTree) : KeepsPair directory tree tree :=
  fun _ _ _ _ hcertificate hkey => ⟨hcertificate, hkey⟩

theorem KeepsPair.trans {later : FileTree} (h : KeepsPair directory tree after)
    (h' : KeepsPair directory after later) : KeepsPair directory tree later := by
  intro certificate key mode bits hcertificate hkey
  obtain ⟨hcertificate, hkey⟩ := h certificate key mode bits hcertificate hkey
  exact h' certificate key mode bits hcertificate hkey

theorem keepsFile_of_changes (h : Changes written sought tree after)
    (hapart : ∀ other ∈ written, namesOf other ≠ namesOf path) : KeepsFile path tree after :=
  fun _ _ hfile => h.status_eq hapart hfile

theorem keepsPair_of_changes (h : Changes written sought tree after)
    (hapart : ∀ other ∈ written, ∀ path ∈ pairPaths directory, namesOf other ≠ namesOf path) :
    KeepsPair directory tree after := by
  intro certificate key mode bits hcertificate hkey
  exact ⟨h.status_eq (fun other hother => hapart other hother _ (by simp [pairPaths])) hcertificate,
    h.status_eq (fun other hother => hapart other hother _ (by simp [pairPaths])) hkey⟩

/-! ### What a launch keeps -/

theorem mem_made_of_mem_pairPaths (h : path ∈ pairPaths directory) :
    path ∈ pairPaths directory ++ [schemaPath directory] :=
  List.mem_append_left _ h

theorem schemaPath_mem_made (directory : String) :
    schemaPath directory ∈ pairPaths directory ++ [schemaPath directory] :=
  List.mem_append_right _ (List.mem_singleton_self _)

/-- Editing the document changes no other file. -/
theorem changes_edited (launch : Launch) (tree : FileTree) :
    Changes [launch.config] [launch.config] tree (launch.edited tree) := by
  rw [Launch.edited]
  cases launch.document with
  | none => exact .refl tree
  | some content => exact (FileTree.perform_writeFile rfl).1

/-- What every stage of a launch obeys, the launch obeys. -/
theorem relates_outcome {R : FileTree → FileTree → Prop} (hrefl : ∀ tree, R tree tree)
    (htrans : ∀ {a b c}, R a b → R b c → R a c) (launch : Launch) (tree : FileTree)
    (hwrite : ∀ {tree after},
      Changes (artifactPaths directory) (artifactPaths directory) tree after → R tree after)
    (hconfig : ∀ {tree after}, Changes [launch.config] [] tree after → R tree after)
    (hcertificate : ∀ settings, launch.settings tree = .ok settings →
      settings.tls.source = .selfSigned → ∀ (settings : Settings) (run : Run),
      R run.tree (ensureCertificate launch.host settings directory run).2.tree)
    (hschema : ∀ (settings : Settings) (run : Run),
      R run.tree (ensureSchema launch.host settings directory run).2.tree) :
    R (launch.edited tree) (launch.outcome directory tree).2.tree :=
  relates_generate hrefl htrans hwrite (launch.generation directory) rfl (launch.start tree)
    hconfig hcertificate hschema

theorem keepsFile_outcome {launch : Launch} (h : launch.IsElsewhere directory) (tree : FileTree) :
    KeepsFile (schemaPath directory) tree (launch.outcome directory tree).2.tree := by
  have hconfig : ∀ other ∈ [launch.config], namesOf other ≠ namesOf (schemaPath directory) :=
    List.forall_mem_singleton.mpr (h _ (schemaPath_mem_made directory))
  refine (keepsFile_of_changes (changes_edited launch tree) hconfig).trans ?_
  refine relates_outcome (R := KeepsFile (schemaPath directory)) .refl .trans launch tree
    (fun hchanges => ?_) (fun hchanges => keepsFile_of_changes hchanges hconfig)
    (fun _ _ _ settings run => ?_) fun settings run => ?_
  · exact keepsFile_of_changes hchanges fun other hother =>
      artifactPaths_ne directory other hother _ (schemaPath_mem_made directory)
  · exact keepsFile_of_changes (Deployment.changes_ensureCertificate _ settings directory run)
      (pairPaths_ne directory)
  · -- A schema that is there is left alone.
    intro content mode hfile
    rw [Deployment.ensureSchema_of_present hfile]
    exact hfile

theorem keepsPair_outcome {launch : Launch} (h : launch.IsElsewhere directory) (tree : FileTree) :
    KeepsPair directory tree (launch.outcome directory tree).2.tree := by
  have hconfig : ∀ other ∈ [launch.config], ∀ path ∈ pairPaths directory,
      namesOf other ≠ namesOf path :=
    List.forall_mem_singleton.mpr fun path hpath => h path (mem_made_of_mem_pairPaths hpath)
  refine (keepsPair_of_changes (changes_edited launch tree) hconfig).trans ?_
  refine relates_outcome (R := KeepsPair directory) .refl .trans launch tree
    (fun hchanges => ?_) (fun hchanges => keepsPair_of_changes hchanges hconfig)
    (fun _ _ _ settings run => ?_) fun settings run => ?_
  · exact keepsPair_of_changes hchanges fun other hother path hpath =>
      artifactPaths_ne directory other hother path (mem_made_of_mem_pairPaths hpath)
  · -- A pair that is there is left alone.
    intro certificate key mode bits hcertificate hkey
    rw [Deployment.ensureCertificate_of_present hcertificate hkey]
    exact ⟨hcertificate, hkey⟩
  · refine keepsPair_of_changes (Deployment.changes_ensureSchema _ settings directory run) ?_
    exact List.forall_mem_singleton.mpr fun path hpath => (pairPaths_ne directory path hpath).symm

/-- What launches keep one by one they keep together. -/
theorem launchAll_induction {R : FileTree → FileTree → Prop} (hrefl : ∀ tree, R tree tree)
    (htrans : ∀ {a b c}, R a b → R b c → R a c) {launches : List Launch}
    (h : ∀ launch ∈ launches, ∀ tree, R tree (launch.outcome directory tree).2.tree)
    (tree : FileTree) : R tree (launchAll directory tree launches) := by
  induction launches generalizing tree with
  | nil => exact hrefl tree
  | cons launch later ih =>
    obtain ⟨hfirst, hlater⟩ := List.forall_mem_cons.mp h
    exact htrans (hfirst tree) (ih hlater _)

/-! ### Requested certificates -/

/-- Nothing but the pair is written in its directory. -/
theorem isOnWay_of_pairDirectory {file : String} {names : List String}
    (hfile : file ∈ Deployment.artifactFiles ++ [Deployment.schemaFile])
    (hnames : namesOf (pairDirectory directory) <+: names) :
    namesOf (FileTree.join directory file) ≠ names ∧
      (IsOnWay (FileTree.join directory file) names → IsOnWay directory names) := by
  have hfiles : ∀ file ∈ Deployment.artifactFiles ++ [Deployment.schemaFile],
      FileTree.IsEntryText file ∧ ¬ ["nginx", "ssl"] <+: FileTree.entriesOf file := by
    decide
  obtain ⟨hentry, hapart⟩ := hfiles file hfile
  rw [Deployment.namesOf_pairDirectory] at hnames
  refine ⟨?_, fun hway => ?_⟩
  · rintro rfl
    rw [FileTree.namesOf_join directory hentry] at hnames
    exact hapart ((List.prefix_append_right_inj _).mp hnames)
  · rcases FileTree.isOnWay_join hentry hway with hdirectory | ⟨parts, hparts, rfl⟩
    · exact hdirectory
    · exact absurd (((List.prefix_append_right_inj _).mp hnames).trans hparts) hapart

/-- A launch that requests a certificate writes no pair. -/
theorem changes_requested {launch : Launch} {settings : Settings}
    (hsettings : launch.settings tree = .ok settings)
    (hsource : settings.tls.source = .letsEncrypt) :
    Changes (launch.config :: (artifactPaths directory ++ [schemaPath directory]))
      (artifactPaths directory ++ [schemaPath directory]) (launch.edited tree)
      (launch.outcome directory tree).2.tree := by
  refine relates_outcome (R := Changes (launch.config ::
      (artifactPaths directory ++ [schemaPath directory]))
      (artifactPaths directory ++ [schemaPath directory])) .refl .trans launch tree
    (fun hchanges => ?_) (fun hchanges => ?_) (fun read hread hself => ?_) fun settings run => ?_
  · exact hchanges.mono
      (List.Subset.trans (List.subset_append_left _ _) (List.subset_cons_self _ _))
      (List.subset_append_left _ _)
  · exact hchanges.mono (by simp) (List.nil_subset _)
  · rw [hsettings] at hread
    cases hread
    rw [hsource] at hself
    cases hself
  · exact (Deployment.changes_ensureSchema _ settings directory run).mono (by simp) (by simp)

/-- **A launch that requests a certificate leaves the directory of the pair alone.** -/
theorem frame_of_requested {launch : Launch} {settings : Settings}
    (hsettings : launch.settings tree = .ok settings)
    (hsource : settings.tls.source = .letsEncrypt) {names : List String}
    (hnames : namesOf (pairDirectory directory) <+: names)
    (hconfig : names ≠ namesOf launch.config) :
    (launch.outcome directory tree).2.tree.find? names = (launch.edited tree).find? names ∨
      (launch.edited tree).find? names = none ∧
        (launch.outcome directory tree).2.tree.find? names = some (.directory directoryMode) ∧
        IsOnWay directory names := by
  have hpaths : ∀ path ∈ artifactPaths directory ++ [schemaPath directory],
      ∃ file ∈ Deployment.artifactFiles ++ [Deployment.schemaFile],
        path = FileTree.join directory file := by
    intro path hpath
    rcases List.mem_append.mp hpath with hpath | hpath
    · obtain ⟨file, hfile, rfl⟩ := List.mem_map.mp hpath
      exact ⟨file, List.mem_append_left _ hfile, rfl⟩
    · exact ⟨_, List.mem_append_right _ (List.mem_singleton_self _), List.mem_singleton.mp hpath⟩
  have hwritten : ∀ path ∈ launch.config :: (artifactPaths directory ++ [schemaPath directory]),
      namesOf path ≠ names := by
    refine List.forall_mem_cons.mpr ⟨hconfig.symm, fun path hpath => ?_⟩
    obtain ⟨file, hfile, rfl⟩ := hpaths path hpath
    exact (isOnWay_of_pairDirectory hfile hnames).1
  rcases (changes_requested hsettings hsource).frame names hwritten with
    hsame | ⟨hnone, hmade, path, hpath, hway⟩
  · exact .inl hsame
  · obtain ⟨file, hfile, rfl⟩ := hpaths path hpath
    exact .inr ⟨hnone, hmade, (isOnWay_of_pairDirectory hfile hnames).2 hway⟩

/-! ### Launches that fail -/

variable {settings : Settings} {next : Run}

/-- The regular file with some names is the same in both trees, or there is none in either. -/
def SameFile (names : List String) (tree after : FileTree) : Prop :=
  ∀ content mode, after.find? names = some (.file content mode) ↔
    tree.find? names = some (.file content mode)

theorem sameFile_of_changes {names : List String} (h : Changes written sought tree after)
    (hapart : ∀ other ∈ written, namesOf other ≠ names) : SameFile names tree after :=
  fun _ _ => ⟨h.find?_eq_of_file hapart, h.find?_eq hapart⟩

theorem SameFile.trans {later : FileTree} {names : List String} (h : SameFile names tree after)
    (h' : SameFile names after later) : SameFile names tree later :=
  fun content mode => (h' content mode).trans (h content mode)

/-- A launch fails before anything is written, or ends as its deployment does. -/
theorem outcome_cases {launch : Launch} {result : Except Fault Unit}
    (h : launch.outcome directory tree = (result, next)) :
    (∃ fault, result = .error fault) ∧ Changes [launch.config] [] (launch.edited tree) next.tree ∨
      ∃ prepared ready settings, launch.settings tree = .ok settings ∧
        prepared.settings.tls = settings.tls ∧
        Changes [launch.config] [] (launch.edited tree) ready.tree ∧
        deploy launch.host prepared directory launch.pull ready = (result, next) := by
  have hready := changes_getReady launch.host launch.config (launch.generation directory)
    (launch.start tree)
  rw [Launch.outcome, generate_eq] at h
  rcases Activity.bind_eq h with ⟨fault, hfault, hresult⟩ | ⟨prepared, ready, hprepared, h⟩
  · rw [hfault] at hready
    exact .inl ⟨⟨fault, hresult⟩, hready⟩
  · rw [hprepared] at hready
    obtain ⟨settings, hsettings, htls, -⟩ := getReady_eq_ok hprepared
    exact .inr ⟨prepared, ready, settings, hsettings, htls, hready, h⟩

/-- What a launch does before its deployment leaves all other files alone. -/
theorem sameFile_ready {launch : Launch} {ready : FileTree} {names : List String}
    (hconfig : namesOf launch.config ≠ names)
    (h : Changes [launch.config] [] (launch.edited tree) ready) : SameFile names tree ready :=
  (sameFile_of_changes (changes_edited launch tree) (List.forall_mem_singleton.mpr hconfig)).trans
    (sameFile_of_changes h (List.forall_mem_singleton.mpr hconfig))

theorem sameFile_of_certificate_fault {launch : Launch} (h : launch.IsElsewhere directory)
    {fault : CertificateFault}
    (houtcome : launch.outcome directory tree = (.error (.certificate fault), next))
    (hpath : path ∈ pairPaths directory) : SameFile (namesOf path) tree next.tree := by
  have hconfig := h path (mem_made_of_mem_pairPaths hpath)
  rcases outcome_cases houtcome with ⟨-, hready⟩ | ⟨prepared, ready, _, -, -, hready, hdeploy⟩
  · exact sameFile_ready hconfig hready
  · refine (sameFile_ready hconfig hready).trans
      (sameFile_of_changes (changes_of_certificate_fault hdeploy) fun other hother => ?_)
    exact artifactPaths_ne directory other hother path (mem_made_of_mem_pairPaths hpath)

theorem sameFile_of_schema_fault {launch : Launch} (h : launch.IsElsewhere directory)
    {image : String} {fault : CommandFault}
    (houtcome : launch.outcome directory tree =
      (.error (.command (Deployment.schemaCall image) fault), next)) :
    SameFile (namesOf (schemaPath directory)) tree next.tree := by
  have hconfig := h _ (schemaPath_mem_made directory)
  rcases outcome_cases houtcome with ⟨-, hready⟩ | ⟨prepared, ready, _, -, -, hready, hdeploy⟩
  · exact sameFile_ready hconfig hready
  · refine (sameFile_ready hconfig hready).trans
      (sameFile_of_changes (changes_of_schema_fault hdeploy) fun other hother => ?_)
    rcases List.mem_append.mp hother with hother | hother
    · exact artifactPaths_ne directory other hother _ (schemaPath_mem_made directory)
    · exact pairPaths_ne directory other hother

/-! ### Launches that end well -/

/-- Making sure of the schema leaves a pair alone. -/
theorem keepsPair_provideSchema {host : Host} {run : Run} {result : Except Fault Unit}
    (h : provideSchema host settings directory run = (result, next)) :
    KeepsPair directory run.tree next.tree := by
  obtain ⟨notices, heq⟩ := provideSchema_eq host settings directory run
  rw [heq] at h
  cases h
  refine keepsPair_of_changes (Deployment.changes_ensureSchema host settings directory run) ?_
  exact List.forall_mem_singleton.mpr fun path hpath => (pairPaths_ne directory path hpath).symm

/-- **After a launch with a certificate of its own that ends well, both files are there**: the pair
from before, or one that was issued for it. -/
theorem pair_of_outcome {launch : Launch} (helsewhere : launch.IsElsewhere directory)
    (hsettings : launch.settings tree = .ok settings)
    (hsource : settings.tls.source = .selfSigned)
    (h : launch.outcome directory tree = (.ok (), next)) :
    (∃ certificate key mode bits,
      tree.find? (namesOf (certificatePath directory)) = some (.file certificate mode) ∧
      tree.find? (namesOf (keyPath directory)) = some (.file key bits) ∧
      next.tree.status (certificatePath directory) = .ok (.file certificate mode) ∧
      next.tree.status (keyPath directory) = .ok (.file key bits)) ∨
      IssuedTogether launch.host directory next.tree := by
  rcases outcome_cases h with ⟨⟨_, hfault⟩, -⟩ | ⟨prepared, ready, read, hread, htls, hready, h⟩
  · cases hfault
  have hsame : read = settings := Except.ok.inj (hread.symm.trans hsettings)
  obtain ⟨written, certified, provided, hwrite, hcertificate, hschema, htree⟩ := deploy_eq_ok h
  rw [htree]
  have hkeeps := keepsPair_provideSchema hschema
  rcases pair_of_provideCertificate (by rw [htls, hsame, hsource]) hcertificate with
    ⟨hcertified, certificate, key, mode, bits, hfirst, hsecond⟩ |
      ⟨serial, request, pair, hissue, hfirst, hsecond⟩
  · left
    obtain ⟨hfirst', hsecond'⟩ :=
      hkeeps certificate key mode bits (hcertified ▸ hfirst) (hcertified ▸ hsecond)
    -- The files were there before anything was written.
    have hbefore : ∀ path ∈ pairPaths directory, SameFile (namesOf path) tree written.tree := by
      intro path hpath
      have hconfig := helsewhere path (mem_made_of_mem_pairPaths hpath)
      exact (sameFile_ready hconfig hready).trans (sameFile_of_changes
        (changes_writeArtifacts hwrite) fun other hother =>
          artifactPaths_ne directory other hother path (mem_made_of_mem_pairPaths hpath))
    exact ⟨certificate, key, mode, bits,
      (hbefore _ (by simp [pairPaths]) _ _).mp (FileTree.status_eq_file.mp hfirst).2,
      (hbefore _ (by simp [pairPaths]) _ _).mp (FileTree.status_eq_file.mp hsecond).2,
      hfirst', hsecond'⟩
  · right
    obtain ⟨hfirst', hsecond'⟩ := hkeeps _ _ _ _ hfirst hsecond
    exact ⟨serial, request, pair, hissue, hfirst', hsecond'⟩

/-! ### All launches -/

/-- **Files that are made once stay as they are, and a pair is never mixed.** -/
theorem launches_spec (directory : String) :
    (∀ (launches : List Launch) (tree : FileTree),
      (∀ launch ∈ launches, launch.IsElsewhere directory) →
      KeepsPair directory tree (launchAll directory tree launches) ∧
        KeepsFile (schemaPath directory) tree (launchAll directory tree launches)) ∧
    (∀ (launch : Launch) (tree : FileTree) (settings : Settings),
      launch.settings tree = .ok settings → settings.tls.source = .letsEncrypt →
      ∀ names, namesOf (pairDirectory directory) <+: names → names ≠ namesOf launch.config →
        (launch.outcome directory tree).2.tree.find? names = (launch.edited tree).find? names ∨
          (launch.edited tree).find? names = none ∧
            (launch.outcome directory tree).2.tree.find? names =
              some (.directory directoryMode) ∧
            IsOnWay directory names) ∧
    (∀ (host : Host) (settings : Settings) (run after : Run),
      ensureCertificate host settings directory run = (.ok true, after) →
      ∃ request pair, Certificate.Request.ofSettings settings = .ok request ∧
        host.issuer run.issued request = some pair ∧
        after.tree.status (certificatePath directory) =
          .ok (.file pair.certificateText.toUTF8 0o644) ∧
        after.tree.status (keyPath directory) = .ok (.file pair.keyText.toUTF8 0o600)) ∧
    (∀ (launch : Launch) (tree : FileTree) (settings : Settings) (after : Run),
      launch.IsElsewhere directory → launch.settings tree = .ok settings →
      settings.tls.source = .selfSigned → launch.outcome directory tree = (.ok (), after) →
      (∃ certificate key mode bits,
        tree.find? (namesOf (certificatePath directory)) = some (.file certificate mode) ∧
        tree.find? (namesOf (keyPath directory)) = some (.file key bits) ∧
        after.tree.status (certificatePath directory) = .ok (.file certificate mode) ∧
        after.tree.status (keyPath directory) = .ok (.file key bits)) ∨
        IssuedTogether launch.host directory after.tree) ∧
    (∀ (launch : Launch) (tree : FileTree) (fault : CertificateFault) (after : Run),
      launch.IsElsewhere directory →
      launch.outcome directory tree = (.error (.certificate fault), after) →
      ∀ path ∈ pairPaths directory, SameFile (namesOf path) tree after.tree) ∧
    ∀ (launch : Launch) (tree : FileTree) (image : String) (fault : CommandFault) (after : Run),
      launch.IsElsewhere directory →
      launch.outcome directory tree =
        (.error (.command (Deployment.schemaCall image) fault), after) →
      SameFile (namesOf (schemaPath directory)) tree after.tree := by
  refine ⟨fun launches tree helsewhere => ⟨?_, ?_⟩, fun launch tree settings hsettings hsource _ =>
    frame_of_requested hsettings hsource, fun host settings run after h =>
    Deployment.pair_of_ensureCertificate h, fun launch tree settings after helsewhere hsettings
      hsource h => pair_of_outcome helsewhere hsettings hsource h,
    fun launch tree fault after helsewhere h path hpath =>
      sameFile_of_certificate_fault helsewhere h hpath,
    fun launch tree image fault after helsewhere h => sameFile_of_schema_fault helsewhere h⟩
  · exact launchAll_induction .refl .trans
      (fun launch hlaunch => keepsPair_outcome (helsewhere launch hlaunch)) tree
  · exact launchAll_induction .refl .trans
      (fun launch hlaunch => keepsFile_outcome (helsewhere launch hlaunch)) tree

/-- A pair. -/
def samplePair : Certificate.Pair :=
  ⟨"certificate".toUTF8, "key".toUTF8⟩

/-- All programs are there, and the same pair is issued for all names. -/
def issuingHost (pair : Certificate.Pair) : Host where
  respond _ := some ⟨.empty, .empty, true⟩
  issuer _ _ := some pair

/-- What making sure of a pair leaves where nothing was. -/
def pairedRun : Run :=
  (ensureCertificate (issuingHost samplePair) Sample.localSettings "out" (.start .empty [])).2

/-- A launch for the sample site on a host that would issue another pair. -/
def otherLaunch : Launch where
  host := issuingHost ⟨.empty, .empty⟩
  config := "stack.json"
  document := some (Document.Store.text ⟨"stack.json", Sample.document⟩).toUTF8
  interactive := false
  pull := true
  answers := []

/-- A pair that was made is left alone by later launches. -/
theorem launches_spec_pairedRun :
    (launchAll "out" pairedRun.tree [otherLaunch, otherLaunch]).status (certificatePath "out") =
        .ok (.file samplePair.certificateText.toUTF8 0o644) ∧
      (launchAll "out" pairedRun.tree [otherLaunch, otherLaunch]).status (keyPath "out") =
        .ok (.file samplePair.keyText.toUTF8 0o600) := by
  obtain ⟨hkeeps, -, hissued, -⟩ := launches_spec "out"
  have hmade : ensureCertificate (issuingHost samplePair) Sample.localSettings "out"
      (.start .empty []) = (.ok true, pairedRun) := Prod.ext rfl rfl
  obtain ⟨request, pair, -, hpair, hcertificate, hkey⟩ := hissued _ _ _ _ hmade
  obtain rfl : samplePair = pair := Option.some.inj hpair
  have helsewhere : otherLaunch.IsElsewhere "out" := by
    rw [Launch.IsElsewhere]
    decide +kernel
  exact (hkeeps [otherLaunch, otherLaunch] pairedRun.tree (by simp [helsewhere])).1 _ _ _ _
    hcertificate hkey

end RemoteGateway.Program
