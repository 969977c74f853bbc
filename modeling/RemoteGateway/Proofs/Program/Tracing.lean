import RemoteGateway.Proofs.Document.Persistence
import RemoteGateway.Proofs.FileTree.Reaching
import RemoteGateway.Proofs.FileTree.Rooting
import RemoteGateway.Proofs.Program.Deploying
import RemoteGateway.Proofs.Settings.Footprint

/-!
# What a generation leaves behind

The external programs that a generation calls are determined by the document, the output
directory and the way in which it is asked for; they are called one after the other until one does
not succeed (`calls_generate`). A generation that does not get ready has touched nothing but the
document, and the document only ever gets the answers to its questions, so that the group that was
looked up is not among them (`generate_spec`).

Whether the schema is printed depends on the tree in which a generation begins: when the artifacts
were written, a schema that is known to stand below the output directory is reached
(`isFile_schemaPath_iff`).
-/

namespace RemoteGateway.Program

open Deployment (artifactPaths pairPaths writtenPaths schemaPath ensureSchema)
open Document (Store Value segments)
open FileTree (Changes namesOf)
open Prompt (Amends questions)

/-! ### Planned calls -/

/-- The call that looks up the group of the runtime's socket, unless a document configures it. -/
def lookupCalls (document : Value) : List (List String) :=
  if document.getText? "docker.gid" = none then [Host.groupCall runtimeGroup] else []

/-- The image of the application that a document configures. -/
def applicationImage? (document : Value) : Option String :=
  (readImage document .guacamole).toOption.bind Image.reference?

/-- A regular file is known to stand at the end of some names. -/
def HasFile (tree : FileTree) (names : List String) : Prop :=
  ∃ content mode, tree.find? names = some (.file content mode)

instance (tree : FileTree) (names : List String) : Decidable (HasFile tree names) :=
  match h : tree.find? names with
  | some (.file content mode) => isTrue ⟨content, mode, h⟩
  | some (.directory _) | none => isFalse fun ⟨_, _, hfile⟩ => by rw [h] at hfile; cases hfile

/-- The call that prints the schema with the image that a document configures, unless the schema is
there. -/
def schemaCalls (tree : FileTree) (directory : String) (document : Value) : List (List String) :=
  if HasFile tree (namesOf (schemaPath directory)) then []
  else (applicationImage? document).toList.map Deployment.schemaCall

/-- The call that pulls images, if that was asked for. -/
def pullCalls (directory : String) (pull : Bool) : List (List String) :=
  if pull then [Host.pullCall directory] else []

/-- The calls of a generation that writes, or of a preview, once it is ready. -/
def deliveryCalls (generation : Generation) (tree : FileTree) (document : Value) :
    List (List String) :=
  match generation.delivery with
  | .preview => []
  | .write pull =>
    schemaCalls tree generation.output document ++ pullCalls generation.output pull

/-- All calls of a generation. -/
def plannedCalls (generation : Generation) (tree : FileTree) (document : Value) :
    List (List String) :=
  toolCalls generation.delivery ++ lookupCalls document ++
    deliveryCalls generation tree document

variable {host : Host} {config : String} {generation : Generation} {run after : Run}
  {document : Value}

/-! ### The settings and the document -/

/-- Reading the settings leaves the tree as its questions do. -/
theorem tree_of_readSettings (run : Run)
    (hload : Store.load config run.tree = .ok ⟨config, document⟩) (interactive : Bool) :
    (readSettings config interactive run).2.tree = settledTree config document interactive run := by
  have houtcome := settingsOutcome config interactive run
  generalize readSettings config interactive run = outcome at houtcome ⊢
  obtain ⟨result, after⟩ := outcome
  cases houtcome with
  | unopened hfault =>
    rw [hload] at hfault
    cases hfault
  | opened hload' _ htree =>
    rw [hload] at hload'
    cases hload'
    exact htree

/-- A generation asks for neither the group nor the images. -/
theorem getText?_of_apart {tree later : FileTree} {written : Value} {key : String}
    (h : Amends config questions document tree later written)
    (hkey : ∀ question ∈ questions, Document.Apart (segments question.key) (segments key)) :
    written.getText? key = document.getText? key := by
  rw [Value.getText?, Value.getText?, Value.get?, Value.get?, h.find?_of_apart hkey]

theorem apart_of_mem_questions : ∀ key ∈ "docker.gid" :: imageKeys .guacamole,
    ∀ question ∈ questions, Document.Apart (segments question.key) (segments key) := by
  decide

/-- The settings that are read plan the same calls as the document does. -/
theorem calls_of_settings {written : Value} {tree later : FileTree} {settings : Settings}
    (hamends : Amends config questions document tree later written)
    (hsettings : Settings.ofDocument written = .ok settings) :
    groupCalls settings = lookupCalls document ∧
      (settings.images.get .guacamole).reference? = applicationImage? document := by
  have hagree : AgreeOn written document ("docker.gid" :: imageKeys .guacamole) :=
    fun key hkey => getText?_of_apart hamends (apart_of_mem_questions key hkey)
  have hreads := reads_of_ofDocument hsettings
  constructor
  · have hgroup := hreads.group_eq
    rw [readRuntimeGroup_congr (hagree _ List.mem_cons_self), readRuntimeGroup] at hgroup
    rw [groupCalls, lookupCalls]
    cases hgid : document.getText? "docker.gid" with
    | none =>
      simp only [hgid] at hgroup
      rw [← Except.ok.inj hgroup, if_pos rfl, if_pos rfl]
    | some text =>
      simp only [hgid] at hgroup
      obtain ⟨group, -, hgroup⟩ := Outcome.map_eq_ok.mp hgroup
      rw [← hgroup, if_neg (Option.some_ne_none _), if_neg (Option.some_ne_none _)]
  · have himage := hreads.images_eq .guacamole
    rw [readImage_congr (hagree.mono (List.subset_cons_self _ _))] at himage
    rw [applicationImage?, himage]
    rfl

/-! ### Calls before anything is written -/

theorem calls_checkTools (host : Host) (delivery : Delivery) (run : Run) :
    host.Calls (toolCalls delivery) (checkTools host delivery) run :=
  (onlyCalls_checkTools host delivery).calls run

/-- Reading the settings calls nothing. -/
theorem calls_eq_of_readSettings (config : String) (interactive : Bool) (run : Run) :
    (readSettings config interactive run).2.calls = run.calls := by
  have houtcome := settingsOutcome config interactive run
  generalize readSettings config interactive run = outcome at houtcome ⊢
  obtain ⟨result, after⟩ := outcome
  cases houtcome with
  | unopened => rfl
  | opened _ hcalls => exact hcalls

/-- What was read and what it planned. -/
theorem calls_of_readSettings {interactive : Bool} {settings : Settings}
    (hload : Store.load config run.tree = .ok ⟨config, document⟩)
    (h : (readSettings config interactive run).1 = .ok settings) :
    groupCalls settings = lookupCalls document ∧
      (settings.images.get .guacamole).reference? = applicationImage? document := by
  have houtcome := settingsOutcome config interactive run
  rw [h] at houtcome
  generalize (readSettings config interactive run).2 = after at houtcome
  cases houtcome with
  | opened hload' _ _ hamends hsettings =>
    rw [hload] at hload'
    cases hload'
    exact calls_of_settings hamends (hsettings settings rfl)

/-- Getting ready looks for the external programs and looks up the group. -/
theorem calls_getReady (host : Host) (generation : Generation)
    (hload : Store.load config run.tree = .ok ⟨config, document⟩) :
    host.Calls (toolCalls generation.delivery ++ lookupCalls document)
      (getReady host config generation) run := by
  rw [getReady]
  refine (calls_checkTools host generation.delivery run).bind fun _ checked hchecked => ?_
  refine .after_silent (calls_eq_of_readSettings config generation.interactive checked)
    fun settings read hsettings => ?_
  have hplanned : (readSettings config generation.interactive run).1 = .ok settings := by
    rw [← readSettings_of_checkTools hchecked, hsettings]
  have hcompile : compile host settings read = (_, _) := rfl
  obtain ⟨made, hcalls, hmade⟩ := (compile_spec hcompile).2.1
  rw [(calls_of_readSettings hload hplanned).1] at hmade
  exact ⟨made, hcalls, hmade⟩

/-! ### Calls of a deployment -/

variable {directory : String} {settings : Settings}

/-- Making sure of a pair calls nothing. -/
theorem calls_eq_of_provideCertificate (host : Host) (settings : Settings) (directory : String)
    (run : Run) : (provideCertificate host settings directory run).2.calls = run.calls := by
  rcases provideCertificate_eq host settings directory run with ⟨-, heq⟩ | ⟨-, notices, heq⟩
  · rw [heq]
  · rw [heq]
    have houtcome := Deployment.certificateOutcome host settings directory run
    generalize Deployment.ensureCertificate host settings directory run = outcome at houtcome ⊢
    obtain ⟨result, after⟩ := outcome
    cases houtcome with
    | present | unissued | unwritten | made => rfl

/-- Printing the schema is the only call for it, which is not made when the schema is there. -/
theorem calls_ensureSchema (host : Host) (settings : Settings) (directory : String) (run : Run) :
    host.Calls (if run.tree.isFile (schemaPath directory) then []
      else (settings.images.get .guacamole).reference?.toList.map Deployment.schemaCall)
      (ensureSchema host settings directory) run := by
  rw [Host.Calls]
  have houtcome := Deployment.schemaOutcome host settings directory run
  generalize ensureSchema host settings directory run = outcome at houtcome ⊢
  obtain ⟨result, after⟩ := outcome
  cases houtcome with
  | present hpresent =>
    rw [if_pos hpresent]
    exact ⟨[], (List.append_nil _).symm, .nil host _⟩
  | unversioned hpresent himage =>
    rw [if_neg (Bool.eq_false_iff.mp hpresent), himage]
    exact ⟨[], (List.append_nil _).symm, .nil host _⟩
  | unprinted hpresent himage hcall =>
    obtain ⟨made, hafter, hmade⟩ := host.onlyCalls_execute (Deployment.schemaCall _) run
    rw [if_neg (Bool.eq_false_iff.mp hpresent), himage]
    rw [hcall] at hafter hmade
    exact ⟨made, congrArg Run.calls hafter, hmade⟩
  | unwritten hpresent himage hcall hperform | made hpresent himage hcall hperform =>
    obtain ⟨made, hafter, hmade⟩ := host.onlyCalls_execute (Deployment.schemaCall _) run
    rw [if_neg (Bool.eq_false_iff.mp hpresent), himage]
    rw [hcall] at hafter hmade
    exact ⟨made, congrArg Run.calls hafter, hmade.mono fun _ => rfl⟩

/-- Telling that something was made calls nothing. -/
theorem calls_announce {planned : List (List String)} {activity : Activity Bool}
    (h : host.Calls planned activity run) (notice : Notice) :
    host.Calls planned (announce activity notice) run := by
  refine h.before_silent fun made next => ?_
  cases made with
  | true => rfl
  | false => rfl

theorem calls_pullIfAsked (host : Host) (directory : String) (pull : Bool) (run : Run) :
    host.Calls (pullCalls directory pull) (pullIfAsked host directory pull) run := by
  rw [pullCalls, pullIfAsked]
  cases pull with
  | false => exact .of_eq rfl
  | true =>
    exact ((host.onlyCalls_pullImages directory).calls run).before_silent fun _ _ => rfl

/-! ### The schema before and after -/

theorem entriesOf_schemaFile :
    FileTree.entriesOf Deployment.schemaFile = ["init", "initdb.sql"] := by
  decide

/-- Once the artifacts were written, the way to the schema only needs its own directory: the virtual
host has been reached below the output directory. -/
theorem reaches_schemaPath {ready written certified : FileTree} {artifacts : Deployment.Artifacts}
    {paths : List String} {mode : Nat}
    (hwrite : artifacts.writeTo directory ready = (.ok paths, written))
    (hkeeps : written.Keeps certified)
    (hdirectory : certified.find? (namesOf directory ++ ["init"]) = some (.directory mode)) :
    certified.Reaches (schemaPath directory) := by
  obtain ⟨-, next, hsteps, hfinish⟩ := Deployment.writeTo_eq_ok hwrite
  have hfile : (Deployment.virtualHostFile, artifacts.virtualHost) ∈ artifacts.files := by
    simp [Deployment.Artifacts.files]
  obtain ⟨bits, hhost⟩ := Deployment.status_of_steps hsteps hfile
  have hkept := (Deployment.changes_finishScript hsteps hfinish).1.keeps.trans hkeeps
  refine FileTree.reaches_join (by decide) (by decide) (by decide) (by decide) (by decide)
    (hkept.reaches (FileTree.status_eq_file.mp hhost).1) fun before hbefore hne => ?_
  rw [entriesOf_schemaFile, List.dropLast_cons_cons, List.dropLast_singleton] at hbefore
  obtain rfl : before = ["init"] := by
    rcases List.prefix_cons_iff.mp hbefore with rfl | ⟨rest, rfl, hrest⟩
    · exact absurd rfl hne
    · rw [List.prefix_nil.mp hrest]
  exact ⟨mode, hdirectory⟩

/-- **The schema is found once the artifacts were written exactly when it was known to stand there
before.** -/
theorem isFile_schemaPath_iff {tree ready written certified : FileTree}
    {artifacts : Deployment.Artifacts} {paths : List String} (hrooted : tree.IsRooted)
    (hconfig : namesOf config ≠ namesOf (schemaPath directory))
    (hready : Changes [config] [] tree ready)
    (hwrite : artifacts.writeTo directory ready = (.ok paths, written))
    (hcertified : Changes (pairPaths directory) (pairPaths directory) written certified) :
    certified.isFile (schemaPath directory) = true ↔
      HasFile tree (namesOf (schemaPath directory)) := by
  have hwritten := Deployment.changes_writeTo artifacts directory ready
  rw [hwrite] at hwritten
  have hchanges : Changes (config :: (artifactPaths directory ++ pairPaths directory))
      (artifactPaths directory ++ pairPaths directory) tree certified :=
    ((hready.mono (by simp) (List.nil_subset _)).trans (hwritten.mono (by simp) (by simp))).trans
      (hcertified.mono (by simp) (by simp))
  have hapart : ∀ other ∈ config :: (artifactPaths directory ++ pairPaths directory),
      namesOf other ≠ namesOf (schemaPath directory) := by
    refine List.forall_mem_cons.mpr ⟨hconfig, List.forall_mem_append.mpr ⟨fun other hother => ?_,
      Deployment.pairPaths_ne directory⟩⟩
    exact Deployment.artifactPaths_ne directory other hother _ (by simp)
  have hschema : namesOf (schemaPath directory) = namesOf directory ++ ["init", "initdb.sql"] := by
    rw [← entriesOf_schemaFile]
    exact FileTree.namesOf_join directory (by decide)
  rw [FileTree.isFile_iff]
  constructor
  · rintro ⟨content, mode, hstatus⟩
    exact ⟨content, mode,
      hchanges.find?_eq_of_file hapart (FileTree.status_eq_file.mp hstatus).2⟩
  · rintro ⟨content, mode, hfind⟩
    obtain ⟨bits, hdirectory⟩ := hrooted.find?_above (by decide) (hschema ▸ hfind)
    have hreaches := reaches_schemaPath hwrite hcertified.keeps
      (hchanges.keeps.directory _ _ hdirectory)
    exact ⟨content, mode, FileTree.status_eq_file.mpr ⟨hreaches, hchanges.find?_eq hapart hfind⟩⟩

/-- A deployment prints the schema and pulls images. -/
theorem calls_deploy {tree : FileTree} {prepared : Prepared} (pull : Bool) (hrooted : tree.IsRooted)
    (hconfig : namesOf config ≠ namesOf (schemaPath directory))
    (hready : Changes [config] [] tree run.tree)
    (himage : (prepared.settings.images.get .guacamole).reference? = applicationImage? document) :
    host.Calls (schemaCalls tree directory document ++ pullCalls directory pull)
      (deploy host prepared directory pull) run := by
  rw [deploy_eq]
  obtain ⟨notices, hartifacts⟩ := writeArtifacts_eq prepared.artifacts directory run
  refine .after_silent (by rw [hartifacts]) fun _ written hwrite => ?_
  refine .after_silent (calls_eq_of_provideCertificate host prepared.settings directory written)
    fun _ certified hcertificate => ?_
  have hpresent : certified.tree.isFile (schemaPath directory) = true ↔
      HasFile tree (namesOf (schemaPath directory)) := by
    rw [hartifacts, Prod.mk.injEq] at hwrite
    obtain ⟨hresult, rfl⟩ := hwrite
    obtain ⟨paths, hpaths, -⟩ := Outcome.map_eq_ok.mp (Outcome.mapError_eq_ok.mp hresult)
    exact isFile_schemaPath_iff hrooted hconfig hready (Prod.ext hpaths rfl)
      (changes_provideCertificate hcertificate)
  have hschema := calls_ensureSchema host prepared.settings directory certified
  simp only [hpresent, himage] at hschema
  refine (calls_announce hschema _).bind fun _ provided _ => ?_
  exact (calls_pullIfAsked host directory pull provided).before_silent fun _ _ => rfl

/-- **All calls of a generation are planned by its document**, and made one after the other until
one does not succeed. -/
theorem calls_generate (host : Host) (generation : Generation) (hrooted : run.tree.IsRooted)
    (hconfig : namesOf config ≠ namesOf (schemaPath generation.output))
    (hload : Store.load config run.tree = .ok ⟨config, document⟩) :
    host.Calls (plannedCalls generation run.tree document) (generate host config generation)
      run := by
  rw [generate_eq]
  refine (calls_getReady host generation hload).bind fun prepared ready hready => ?_
  obtain ⟨settings, hsettings, -, himages, -⟩ := getReady_eq_ok hready
  have hchanges := changes_getReady host config generation run
  rw [hready] at hchanges
  rw [finish, deliveryCalls]
  cases generation.delivery with
  | preview => exact .of_eq rfl
  | write pull =>
    refine calls_deploy pull hrooted hconfig hchanges ?_
    rw [himages, (calls_of_readSettings hload hsettings).2]

/-! ### The document in the end -/

/-- Getting ready leaves the tree as the questions do, if the external programs are there. -/
theorem tree_of_getReady (host : Host) (generation : Generation)
    (hload : Store.load config run.tree = .ok ⟨config, document⟩) :
    (getReady host config generation run).2.tree =
      if (checkTools host generation.delivery run).1.isOk then
        settledTree config document generation.interactive run
      else run.tree := by
  rw [getReady, Activity.run_bind]
  rcases htools : checkTools host generation.delivery run with ⟨fault | ⟨⟩, checked⟩
  · rw [eq_of_checkTools htools]
    rfl
  · rw [eq_of_checkTools htools]
    have htree := tree_of_readSettings { run with calls := checked.calls } hload
      generation.interactive
    simp only [Activity.run_bind]
    rcases hread : readSettings config generation.interactive { run with calls := checked.calls }
      with ⟨fault | settings, read⟩
    · rw [hread] at htree
      exact htree
    · rw [hread] at htree
      rcases hcompile : compile host settings read with ⟨result, ready⟩
      simp only [hcompile]
      exact (compile_spec hcompile).1.trans htree

/-- What a document lacks is asked for and written to it. -/
theorem amends_settledTree (hload : Store.load config run.tree = .ok ⟨config, document⟩)
    (interactive : Bool) :
    ∃ written, Amends config questions document run.tree
      (settledTree config document interactive run) written := by
  rw [← tree_of_readSettings run hload interactive]
  have houtcome := settingsOutcome config interactive run
  generalize readSettings config interactive run = outcome at houtcome ⊢
  obtain ⟨result, after⟩ := outcome
  cases houtcome with
  | unopened hfault =>
    rw [hload] at hfault
    cases hfault
  | opened hload' _ _ hamends =>
    rw [hload] at hload'
    cases hload'
    exact ⟨_, hamends⟩

/-- Asking what a document lacks leaves a file where the document is. -/
theorem find?_settledTree {tree later : FileTree} {written : Value}
    (h : Amends config questions document tree later written)
    (hfile : HasFile tree (namesOf config)) : HasFile later (namesOf config) := by
  obtain ⟨asked, keys, -, -, rfl⟩ := h.collected
  split_ifs with hkeys
  · exact hfile
  · exact ⟨_, _, FileTree.find?_put_self _ _ _⟩

/-- Nothing that is written, or shown, replaces what is known to stand elsewhere. -/
theorem find?_of_finish {prepared : Prepared} {node : FileTree.Node}
    (hconfig : ∀ path ∈ writtenPaths generation.output, namesOf config ≠ namesOf path)
    (h : run.tree.find? (namesOf config) = some node) :
    (finish host generation prepared run).2.tree.find? (namesOf config) = some node := by
  have hstays : ∀ {written sought : List String} {tree after : FileTree},
      written ⊆ writtenPaths generation.output → Changes written sought tree after →
      ∀ node, tree.find? (namesOf config) = some node →
        after.find? (namesOf config) = some node := fun hwritten hchanges node hnode =>
    hchanges.find?_eq (fun path hpath => (hconfig path (hwritten hpath)).symm) hnode
  rw [finish]
  cases generation.delivery with
  | preview => exact h
  | write pull =>
    refine relates_deploy (R := fun tree after => ∀ node, tree.find? (namesOf config) = some node →
      after.find? (namesOf config) = some node) (fun _ _ hnode => hnode)
      (fun hfirst hsecond node hnode => hsecond node (hfirst node hnode))
      (fun hchanges => hstays (by simp [writtenPaths]) hchanges) prepared pull run
      (fun _ run => ?_) (fun run => ?_) node h
    · exact hstays (by simp [writtenPaths]) (Deployment.changes_ensureCertificate _ _ _ run)
    · exact hstays (by simp [writtenPaths]) (Deployment.changes_ensureSchema _ _ _ run)

/-! ### Whole generations -/

/-- A generation that does not get ready has ended. -/
theorem generate_of_unready {fault : Fault} {ready : Run}
    (h : getReady host config generation run = (.error fault, ready)) :
    generate host config generation run = (.error fault, ready) := by
  rw [generate_eq, Activity.run_bind, h]

/-- The document gets the answers to its questions and nothing else. -/
theorem find?_generate (generation : Generation)
    (hconfig : ∀ path ∈ writtenPaths generation.output, namesOf config ≠ namesOf path)
    (hload : Store.load config run.tree = .ok ⟨config, document⟩) :
    (generate host config generation run).2.tree.find? (namesOf config) =
      (if (checkTools host generation.delivery run).1.isOk then
        settledTree config document generation.interactive run
      else run.tree).find? (namesOf config) := by
  have hready := tree_of_getReady host generation hload
  obtain ⟨-, content, mode, hstatus⟩ := file_of_load hload
  have hfile : HasFile run.tree (namesOf config) :=
    ⟨content, mode, (FileTree.status_eq_file.mp hstatus).2⟩
  obtain ⟨written, hamends⟩ := amends_settledTree hload generation.interactive
  have hsettled : HasFile (getReady host config generation run).2.tree (namesOf config) := by
    rw [hready]
    split_ifs
    · exact find?_settledTree hamends hfile
    · exact hfile
  rw [← hready, generate_eq, Activity.run_bind]
  generalize getReady host config generation run = outcome at hsettled ⊢
  obtain ⟨fault | prepared, ready⟩ := outcome
  · rfl
  · obtain ⟨content, mode, hfind⟩ := hsettled
    rw [hfind]
    exact find?_of_finish hconfig hfind

/-- Without a document nothing but looking for the external programs is done. -/
theorem unready_of_unopened {fault : Fault} (host : Host) (generation : Generation)
    (hload : Store.load config run.tree = .error fault) :
    ∃ fault ready made, getReady host config generation run = (.error fault, ready) ∧
      ready = { run with calls := run.calls ++ made } ∧
      host.Made (toolCalls generation.delivery) made False := by
  obtain ⟨made, hchecked, hmade⟩ := onlyCalls_checkTools host generation.delivery run
  rw [getReady, Activity.run_bind]
  rcases htools : checkTools host generation.delivery run with ⟨fault | ⟨⟩, checked⟩
  · rw [htools] at hchecked
    exact ⟨fault, checked, made, rfl, hchecked, hmade.mono False.elim⟩
  · rw [htools] at hchecked
    simp only at hchecked
    subst hchecked
    refine ⟨fault, _, made, ?_, rfl, hmade.mono False.elim⟩
    have hopen : openStore config { run with calls := run.calls ++ made } =
        (.error fault, { run with calls := run.calls ++ made }) := by
      rw [openStore_eq, hload]
    simp only [readSettings, Activity.run_bind, hopen]

/-- A generation that does not get ready, or that only shows what it would write, touches nothing
but the document. -/
theorem find?_of_unwritten
    (h : (getReady host config generation run).1.isOk = false ∨ generation.delivery = .preview)
    {names : List String} (hnames : names ≠ namesOf config) :
    (generate host config generation run).2.tree.find? names = run.tree.find? names := by
  have hchanges := changes_getReady host config generation run
  have htree : (generate host config generation run).2.tree =
      (getReady host config generation run).2.tree := by
    rw [generate_eq, Activity.run_bind]
    rcases hready : getReady host config generation run with ⟨fault | prepared, ready⟩
    · rfl
    · rw [hready] at h
      rcases h with h | h
      · cases h
      · simp only [finish, h]
        rfl
  rw [htree]
  rcases hchanges.frame names (List.forall_mem_singleton.mpr hnames.symm) with
    hsame | ⟨-, -, path, hpath, -⟩
  · exact hsame
  · exact absurd hpath List.not_mem_nil

/-- **What a generation does to the world.** Its calls are a beginning of those that its document
plans, and none follows one that does not succeed. Until it is ready it touches nothing but the
document, and so does a preview. The document gets the answers to its questions, so that a group
that was looked up is not remembered. -/
theorem generate_spec {result : Except Fault Unit}
    (h : generate host config generation run = (result, after)) (hrooted : run.tree.IsRooted)
    (hconfig : ∀ path ∈ writtenPaths generation.output, namesOf config ≠ namesOf path) :
    (∀ document, Store.load config run.tree = .ok ⟨config, document⟩ →
      (∃ made, after.calls = run.calls ++ made ∧
        host.Made (plannedCalls generation run.tree document) made (result.isOk = true) ∧
        ((getReady host config generation run).1.isOk = false →
          made <+: toolCalls generation.delivery ++ lookupCalls document)) ∧
      ∃ written, Amends config questions document run.tree
          (settledTree config document generation.interactive run) written ∧
        written.find? (segments "docker.gid") = document.find? (segments "docker.gid") ∧
        after.tree.find? (namesOf config) =
          (if (checkTools host generation.delivery run).1.isOk then
            settledTree config document generation.interactive run
          else run.tree).find? (namesOf config)) ∧
    (∀ fault, Store.load config run.tree = .error fault →
      ∃ made, after = { run with calls := run.calls ++ made } ∧
        host.Made (toolCalls generation.delivery) made False) ∧
    (∀ fault ready, getReady host config generation run = (.error fault, ready) →
      result = .error fault ∧ after = ready) ∧
    ((getReady host config generation run).1.isOk = false ∨ generation.delivery = .preview →
      ∀ names, names ≠ namesOf config → after.tree.find? names = run.tree.find? names) := by
  have hafter : (generate host config generation run).2 = after := congrArg Prod.snd h
  have hschema : namesOf config ≠ namesOf (schemaPath generation.output) :=
    hconfig _ (by simp [writtenPaths])
  refine ⟨fun document hload => ⟨?_, ?_⟩, fun fault hload => ?_, fun fault ready hready => ?_,
    fun hunwritten names hnames => ?_⟩
  · obtain ⟨made, hcalls, hmade⟩ := calls_generate host generation hrooted hschema hload
    rw [h] at hcalls hmade
    refine ⟨made, hcalls, hmade, fun hunready => ?_⟩
    -- What was called until then is all that was called.
    obtain ⟨early, hearly, hmadeEarly⟩ := calls_getReady host generation hload
    rcases hready : getReady host config generation run with ⟨fault | prepared, ready⟩
    · rw [hready] at hearly
      rw [generate_of_unready hready] at h
      cases h
      rw [List.append_cancel_left (hcalls.symm.trans hearly)]
      exact hmadeEarly.initial
    · rw [hready] at hunready
      cases hunready
  · obtain ⟨written, hamends⟩ := amends_settledTree hload generation.interactive
    refine ⟨written, hamends, ?_, hafter ▸ find?_generate generation hconfig hload⟩
    exact hamends.find?_of_apart (apart_of_mem_questions _ List.mem_cons_self)
  · obtain ⟨fault, ready, made, hready, heq, hmade⟩ :=
      unready_of_unopened host generation hload
    rw [generate_of_unready hready] at h
    cases h
    exact ⟨made, heq, hmade⟩
  · rw [generate_of_unready hready] at h
    cases h
    exact ⟨rfl, rfl⟩
  · exact hafter ▸ find?_of_unwritten hunwritten hnames

/-! ### A sample generation -/

/-- The sample site without the group of the runtime's socket. -/
def grouplessDocument : Value :=
  .object
    [("database", .object [("password", .text "db secret")]),
      ("guacamole", .object [("admin_password", .text "admin secret")]),
      ("ssl", .object
        [("domain", .text "https://www.example.org/"), ("mode", .text "letsencrypt")]),
      ("versions", .object
        [("broker", .text "1.4.0"), ("certbot", .text "v4.0.0"), ("guacamole", .text "1.6.0"),
          ("guacd", .text "1.6.0"), ("nginx", .text "1.28"), ("postgres", .text "17")])]

/-- The tree in which only that document is. -/
def documentTree : FileTree :=
  (FileTree.empty.perform
    (FileTree.replaceFile "stack.json" (Store.text ⟨"stack.json", grouplessDocument⟩).toUTF8)).2

/-- All programs are there, and the group has an id. -/
def willingHost : Host where
  respond call :=
    some ⟨if call = Host.groupCall runtimeGroup then "docker:x:998:".toUTF8 else .empty, .empty,
      true⟩
  issuer _ _ := none

/-- The settings that the document stands for. -/
def grouplessSettings : Settings :=
  { Sample.settings with runtime := { Sample.settings.runtime with group := none } }

/-- A run in which the external programs were looked for. -/
def checkedRun : Run :=
  ⟨documentTree, [], [["docker", "--version"]], [], 0⟩

theorem load_documentTree :
    Store.load "stack.json" documentTree = .ok ⟨"stack.json", grouplessDocument⟩ := by
  have hlegible : grouplessDocument.IsLegible := by
    simp only [grouplessDocument, Value.IsLegible, Value.AreLegibleMembers,
      Document.Members.IsOrdered]
    decide
  have hpersist : (Store.mk "stack.json" grouplessDocument).persist .empty =
      (.ok (), documentTree) := rfl
  rw [(Document.saved_of_persist hlegible rfl hpersist).load, if_pos (by decide)]

/-- Four calls: every kind of call once. -/
def documentCalls : List (List String) :=
  [["docker", "--version"], ["getent", "group", "docker"],
    ["docker", "run", "--rm", "guacamole/guacamole:1.6.0", "/opt/guacamole/bin/initdb.sh",
      "--postgresql"],
    ["docker", "compose", "-f", "out/docker-compose.yml", "pull"]]

/-- All four calls are planned and made. -/
theorem generate_documentTree :
    (generate willingHost "stack.json" ⟨"out", false, .write true⟩
      (.start documentTree [])).2.calls = documentCalls := by
  have hplanned : plannedCalls ⟨"out", false, .write true⟩ documentTree grouplessDocument =
      documentCalls := by
    decide +kernel
  have hok : (generate willingHost "stack.json" ⟨"out", false, .write true⟩
      (.start documentTree [])).1.isOk = true := by
    have hchecked : checkTools willingHost (.write true) (.start documentTree []) =
        (.ok (), checkedRun) := rfl
    have hopen : openStore "stack.json" checkedRun =
        (.ok ⟨"stack.json", grouplessDocument⟩, checkedRun) := by
      change (Store.load "stack.json" documentTree, checkedRun) = _
      rw [load_documentTree]
    have hread : readSettings "stack.json" false checkedRun =
        (.ok grouplessSettings, checkedRun) := by
      rw [readSettings, Activity.bind_of_ok hopen]
      rfl
    rw [generate_eq, getReady, bind_assoc, Activity.bind_of_ok hchecked, bind_assoc,
      Activity.bind_of_ok hread]
    decide +kernel
  rcases hgenerate : generate willingHost "stack.json" ⟨"out", false, .write true⟩
    (.start documentTree []) with ⟨result, after⟩
  rw [hgenerate] at hok
  obtain ⟨hopened, -⟩ := generate_spec hgenerate (FileTree.isRooted_empty.perform _)
    (by decide +kernel)
  obtain ⟨⟨made, hcalls, hmade, -⟩, -⟩ := hopened grouplessDocument load_documentTree
  rw [(hmade.complete hok).1] at hcalls
  exact hcalls.trans hplanned

end RemoteGateway.Program
