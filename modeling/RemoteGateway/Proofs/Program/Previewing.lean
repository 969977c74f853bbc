import RemoteGateway.Proofs.Deployment.Regenerating
import RemoteGateway.Proofs.Program.Tracing

/-!
# Previews

A preview and a generation that writes get ready in the same way, but for the calls that look for
the external programs. What was called before does not matter to anything that happens then
(`ignoresCalls_getReady`), so a generation that finds its programs gets ready exactly as its preview
does (`getReady_of_provides`).

What stands in the output directory once the artifacts were written is therefore what the preview
shows, and what is done afterwards leaves it alone (`stands_of_deploy`). A preview itself calls
nothing but the lookup of the group, and the document is the only file that it may change
(`preview_faithful`).
-/

namespace RemoteGateway.Program

open Deployment (pairPaths schemaPath Stands)
open Document (Store)
open FileTree (Changes namesOf)
open Prompt (Amends questions)

variable {host : Host} {config : String} {run : Run}

/-! ### Getting ready for both -/

theorem ignoresCalls_openStore (path : String) : (openStore path).IgnoresCalls :=
  .of_silent fun _ _ => rfl

theorem ignoresCalls_converse (store : Store) : (converse store).IgnoresCalls := by
  refine .of_silent fun run earlier => ?_
  rw [converse, converse]
  rcases Prompt.Session.collect ⟨store, run.tree, run.answers, ""⟩ with ⟨_ | _ | _, session⟩
  · rfl
  · rfl
  · rfl

theorem ignoresCalls_readSettings (config : String) (interactive : Bool) :
    (readSettings config interactive).IgnoresCalls := by
  refine (ignoresCalls_openStore config).bind fun store => ?_
  cases interactive with
  | false =>
    exact (Activity.ignoresCalls_pure store).bind fun _ => Activity.ignoresCalls_ofExcept _
  | true => exact (ignoresCalls_converse store).bind fun _ => Activity.ignoresCalls_ofExcept _

theorem ignoresCalls_withGroup (host : Host) (settings : Settings) :
    (withGroup host settings).IgnoresCalls := by
  rw [withGroup]
  split
  · exact Activity.ignoresCalls_pure settings
  · exact (host.ignoresCalls_groupId _).bind fun _ => Activity.ignoresCalls_pure _

theorem ignoresCalls_compile (host : Host) (settings : Settings) :
    (compile host settings).IgnoresCalls := by
  refine (ignoresCalls_withGroup host settings).bind fun settings => ?_
  refine (Activity.ignoresCalls_notify _).bind fun _ => ?_
  exact (Activity.ignoresCalls_ofExcept _).bind fun _ => Activity.ignoresCalls_pure _

/-- **A preview gets ready the same way whatever was called before.** -/
theorem ignoresCalls_getReady (host : Host) (config output : String) (interactive : Bool) :
    (getReady host config ⟨output, interactive, .preview⟩).IgnoresCalls := by
  refine (Activity.ignoresCalls_pure ()).bind fun _ => ?_
  exact (ignoresCalls_readSettings config interactive).bind fun settings =>
    ignoresCalls_compile host settings

/-- **A generation that finds its programs gets ready as its preview does.** -/
theorem getReady_of_provides (h : host.Provides requiredTools) (config output : String)
    (interactive pull : Bool) (run : Run) :
    ∃ calls, getReady host config ⟨output, interactive, .write pull⟩ run =
      ((getReady host config ⟨output, interactive, .preview⟩ run).1,
        { (getReady host config ⟨output, interactive, .preview⟩ run).2 with calls }) := by
  obtain ⟨made, hmade⟩ := ignoresCalls_getReady host config output interactive run
  have htools : checkTools host (.write pull) run =
      (.ok (), { run with calls := run.calls ++ Host.versionCalls requiredTools }) :=
    Host.ensureTools_of_provides h run
  refine ⟨run.calls ++ Host.versionCalls requiredTools ++ made, ?_⟩
  rw [← hmade, getReady, Activity.bind_of_ok htools]
  rfl

/-! ### What a preview shows -/

/-- The artifact that a notice shows, by its path and its text. -/
def artifact? : Notice → Option (String × String)
  | .preview path content => some (path, content)
  | _ => none

/-- Getting ready shows no artifact. -/
theorem tells_getReady (host : Host) (config : String) (generation : Generation) :
    (getReady host config generation).Tells fun notice => artifact? notice = none := by
  refine .bind (.of_eq fun run => ?_) fun _ => .bind ?_ fun settings => ?_
  · obtain ⟨made, hafter, -⟩ := onlyCalls_checkTools host generation.delivery run
    rw [hafter]
  · refine .bind (.of_eq fun _ => rfl) fun store => ?_
    cases generation.interactive with
    | false => exact .of_eq fun _ => rfl
    | true =>
      refine .bind (fun run => ?_) fun _ => .of_eq fun _ => rfl
      rw [converse]
      rcases Prompt.Session.collect ⟨store, run.tree, run.answers, ""⟩ with
        ⟨_ | _ | ⟨key, keys⟩, session⟩
      · exact ⟨[.dialogue session.shown], rfl, List.forall_mem_singleton.mpr rfl⟩
      · exact ⟨[.dialogue session.shown], rfl, List.forall_mem_singleton.mpr rfl⟩
      · refine ⟨[.dialogue session.shown, .saved (key :: keys) store.path],
          List.append_assoc _ _ _, ?_⟩
        exact List.forall_mem_cons.mpr ⟨rfl, List.forall_mem_singleton.mpr rfl⟩
  · refine .bind (.of_eq fun run => ?_) fun settings => ?_
    · obtain ⟨made, hafter, -⟩ := onlyCalls_withGroup host settings run
      rw [hafter]
    · exact .bind (Activity.tells_notify rfl) fun _ => .of_eq fun run => by
        rw [Activity.run_bind, Activity.run_ofExcept]
        cases Deployment.synthesize settings with
        | error fault => rfl
        | ok artifacts => rfl

/-! ### What a generation writes -/

/-- What is done once the artifacts are written leaves all but the pair and the schema alone. -/
theorem changes_afterArtifacts (host : Host) (settings : Settings) (directory : String)
    (pull : Bool) (notice : Notice) (run : Run) :
    Changes (pairPaths directory ++ [schemaPath directory])
      (pairPaths directory ++ [schemaPath directory]) run.tree
      ((do
        provideCertificate host settings directory
        provideSchema host settings directory
        pullIfAsked host directory pull
        Activity.notify notice : Activity Unit) run).2.tree := by
  have hpair := List.subset_append_left (pairPaths directory) [schemaPath directory]
  have hschema := List.subset_append_right (pairPaths directory) [schemaPath directory]
  refine relates_bind .trans ((changes_provideCertificate rfl).mono hpair hpair)
    fun _ certified _ => ?_
  refine relates_bind .trans ?_ fun _ provided _ => relates_bind .trans ?_ fun _ _ _ => .refl _
  · obtain ⟨notices, heq⟩ := provideSchema_eq host settings directory certified
    rw [heq]
    exact (Deployment.changes_ensureSchema host settings directory certified).mono hschema hschema
  · rw [tree_of_pullIfAsked]
    exact .refl _

/-- A deployment ends with the artifacts that could not be written. -/
theorem deploy_of_unwritten (host : Host) {prepared : Prepared} {directory : String}
    {fault : FileTree.Fault} {next : FileTree} (pull : Bool)
    (h : prepared.artifacts.writeTo directory run.tree = (.error fault, next)) :
    (deploy host prepared directory pull run).1 = .error (.io (.file fault)) ∧
      (deploy host prepared directory pull run).2.tree = next := by
  obtain ⟨notices, heq⟩ := writeArtifacts_eq prepared.artifacts directory run
  rw [h] at heq
  rw [deploy_eq, Activity.run_bind, heq]
  exact ⟨rfl, rfl⟩

/-- **The artifacts that were written stand there in the end**, however a deployment goes on. -/
theorem stands_of_deploy (host : Host) {prepared : Prepared} {directory : String}
    {written : List String} {next : FileTree} (pull : Bool)
    (h : prepared.artifacts.writeTo directory run.tree = (.ok written, next)) :
    Stands prepared.artifacts.files directory run.tree
      (deploy host prepared directory pull run).2.tree := by
  obtain ⟨notices, heq⟩ := writeArtifacts_eq prepared.artifacts directory run
  rw [h] at heq
  refine Deployment.stands_of_changes h ?_
  rw [deploy_eq, Activity.bind_of_ok heq]
  exact changes_afterArtifacts host prepared.settings directory pull _
    { run with tree := next, notices }

/-! ### Previews and generations -/

variable {output : String} {interactive : Bool} {shown done : Run} {result : Except Fault Unit}

/-- A preview fails in getting ready, or shows all artifacts. -/
theorem preview_cases
    (h : generate host config ⟨output, interactive, .preview⟩ run = (result, shown)) :
    (∃ fault, getReady host config ⟨output, interactive, .preview⟩ run = (.error fault, shown) ∧
        result = .error fault) ∨
      ∃ prepared ready,
        getReady host config ⟨output, interactive, .preview⟩ run = (.ok prepared, ready) ∧
          result = .ok () ∧
          shown = { ready with notices :=
            ready.notices ++ prepared.artifacts.files.map fun file => .preview file.1 file.2 } := by
  rw [generate_eq] at h
  rcases Activity.bind_eq h with ⟨fault, hready, hresult⟩ | ⟨prepared, ready, hready, h⟩
  · exact .inl ⟨fault, hready, hresult⟩
  · cases h
    exact .inr ⟨prepared, ready, hready, rfl, rfl⟩

/-- A preview gets ready with one call at most, and leaves the tree as its questions do. -/
theorem getReady_preview (host : Host) (config output : String) (interactive : Bool) (run : Run) :
    (∃ made, made <+: [Host.groupCall runtimeGroup] ∧
      (getReady host config ⟨output, interactive, .preview⟩ run).2.calls = run.calls ++ made) ∧
      (getReady host config ⟨output, interactive, .preview⟩ run).2.tree =
        (readSettings config interactive run).2.tree := by
  have hready : getReady host config ⟨output, interactive, .preview⟩ run =
      (readSettings config interactive >>= compile host) run := rfl
  have hcalls := calls_eq_of_readSettings config interactive run
  rw [hready, Activity.run_bind]
  generalize readSettings config interactive run = outcome at hcalls ⊢
  obtain ⟨fault | settings, read⟩ := outcome
  · refine ⟨⟨[], List.nil_prefix, ?_⟩, rfl⟩
    rw [List.append_nil]
    exact hcalls
  · rcases hcompile : compile host settings read with ⟨result, ready⟩
    obtain ⟨htree, ⟨made, hmade, hplanned⟩, -⟩ := compile_spec hcompile
    refine ⟨⟨made, hplanned.initial.trans ?_, ?_⟩, ?_⟩
    · rw [groupCalls]
      split_ifs
      · exact List.prefix_refl _
      · exact List.nil_prefix
    · simp only [hcompile, hmade]
      exact congrArg (· ++ made) hcalls
    · simp only [hcompile]
      exact htree

/-- A generation that does not find its programs fails, and has asked nothing. -/
theorem generate_of_not_provides (h : ¬ host.Provides requiredTools) (config output : String)
    (interactive pull : Bool) (run : Run) :
    (∃ tool ∈ requiredTools, (generate host config ⟨output, interactive, .write pull⟩ run).1 =
      .error (.missingTool tool)) ∧
      (generate host config ⟨output, interactive, .write pull⟩ run).2.tree = run.tree := by
  obtain ⟨tool, hmem, htool⟩ := Host.ensureTools_of_not_provides h run
  rcases htools : checkTools host (.write pull) run with ⟨fault | ⟨⟩, checked⟩
  · have hfault : fault = .missingTool tool := by
      rw [checkTools] at htools
      rw [htools] at htool
      exact Except.error.inj htool
    have hready : getReady host config ⟨output, interactive, .write pull⟩ run =
        (.error fault, checked) := by
      rw [getReady, Activity.run_bind, htools]
    rw [generate_of_unready hready, eq_of_checkTools htools, hfault]
    exact ⟨⟨tool, hmem, rfl⟩, rfl⟩
  · rw [checkTools] at htools
    rw [htools] at htool
    cases htool

/-- A generation that finds its programs fails as its preview does. -/
theorem generate_of_fault {fault : Fault} (h : host.Provides requiredTools) (pull : Bool)
    (hready : getReady host config ⟨output, interactive, .preview⟩ run = (.error fault, shown)) :
    ∃ calls, generate host config ⟨output, interactive, .write pull⟩ run =
      (.error fault, { shown with calls }) := by
  obtain ⟨calls, heq⟩ := getReady_of_provides h config output interactive pull run
  rw [hready] at heq
  exact ⟨calls, generate_of_unready heq⟩

/-- A generation that finds its programs deploys what its preview has ready. -/
theorem generate_of_ready {prepared : Prepared} {ready : Run} (h : host.Provides requiredTools)
    (pull : Bool)
    (hready : getReady host config ⟨output, interactive, .preview⟩ run = (.ok prepared, ready)) :
    ∃ calls, generate host config ⟨output, interactive, .write pull⟩ run =
      deploy host prepared output pull { ready with calls } := by
  obtain ⟨calls, heq⟩ := getReady_of_provides h config output interactive pull run
  rw [hready] at heq
  refine ⟨calls, ?_⟩
  rw [generate_eq, Activity.bind_of_ok heq]
  rfl

/-- **A preview tells the truth and does nothing else.** It looks up the group at most, and changes
no file but the document, which gets the answers to its questions. When it ends well, it shows the
artifacts that a generation from the same run with the same answers writes, if that finds its
programs: when they can be written, they stand in the output directory, and when not, that is how
the generation ends. When it fails, so does the generation, in the same way if it finds its
programs. -/
theorem preview_faithful {pull : Bool} {outcome : Except Fault Unit}
    (hpreview : generate host config ⟨output, interactive, .preview⟩ run = (result, shown))
    (hwrite : generate host config ⟨output, interactive, .write pull⟩ run = (outcome, done)) :
    (∃ made, made <+: [Host.groupCall runtimeGroup] ∧ shown.calls = run.calls ++ made) ∧
    (∀ names, names ≠ namesOf config → shown.tree.find? names = run.tree.find? names) ∧
    (∀ fault, Store.load config run.tree = .error fault → shown.tree = run.tree) ∧
    (∀ document, Store.load config run.tree = .ok ⟨config, document⟩ →
      (∃ written, Amends config questions document run.tree shown.tree written) ∧
        (interactive = false → shown.tree = run.tree)) ∧
    (result = .ok () → ∃ (artifacts : Deployment.Artifacts) (told : List Notice),
      shown.notices = run.notices ++ told ++
        (artifacts.files.map fun file => .preview file.1 file.2) ∧
      (∀ notice ∈ told, artifact? notice = none) ∧
      (host.Provides requiredTools →
        (∀ fault next, artifacts.writeTo output shown.tree = (.error fault, next) →
          outcome = .error (.io (.file fault)) ∧ done.tree = next) ∧
        ∀ paths next, artifacts.writeTo output shown.tree = (.ok paths, next) →
          Stands artifacts.files output shown.tree done.tree)) ∧
    (∀ fault, result = .error fault →
      (host.Provides requiredTools → outcome = .error fault ∧ done.tree = shown.tree) ∧
      (¬ host.Provides requiredTools →
        (∃ tool ∈ requiredTools, outcome = .error (.missingTool tool)) ∧
          done.tree = run.tree)) := by
  have hdone : done = (generate host config ⟨output, interactive, .write pull⟩ run).2 :=
    (congrArg Prod.snd hwrite).symm
  have houtcome : outcome = (generate host config ⟨output, interactive, .write pull⟩ run).1 :=
    (congrArg Prod.fst hwrite).symm
  obtain ⟨⟨made, hinitial, hmade⟩, htree⟩ :=
    getReady_preview host config output interactive run
  have hshown : shown.calls = (getReady host config ⟨output, interactive, .preview⟩ run).2.calls ∧
      shown.tree = (readSettings config interactive run).2.tree := by
    rw [← htree]
    rcases preview_cases hpreview with ⟨fault, hready, -⟩ | ⟨prepared, ready, hready, -, rfl⟩
    · rw [hready]
      exact ⟨rfl, rfl⟩
    · rw [hready]
      exact ⟨rfl, rfl⟩
  refine ⟨⟨made, hinitial, hshown.1.trans hmade⟩, fun names hnames => ?_, fun fault hload => ?_,
    fun document hload => ⟨?_, fun hquiet => ?_⟩, fun hok => ?_, fun fault hfault => ?_⟩
  · have hafter : (generate host config ⟨output, interactive, .preview⟩ run).2 = shown :=
      congrArg Prod.snd hpreview
    exact hafter ▸ find?_of_unwritten (.inr rfl) hnames
  · rw [hshown.2, readSettings, Activity.run_bind, openStore_eq, hload]
  · rw [hshown.2, tree_of_readSettings run hload interactive]
    exact amends_settledTree hload interactive
  · rw [hshown.2, tree_of_readSettings run hload interactive, hquiet]
    rfl
  · rcases preview_cases hpreview with ⟨fault, -, hresult⟩ | ⟨prepared, ready, hready, -, rfl⟩
    · rw [hok] at hresult
      cases hresult
    obtain ⟨told, htold, hplain⟩ :=
      tells_getReady host config ⟨output, interactive, .preview⟩ run
    rw [hready] at htold
    refine ⟨prepared.artifacts, told, congrArg (· ++ _) htold, hplain, fun hprovides => ?_⟩
    obtain ⟨calls, hdeploy⟩ := generate_of_ready hprovides pull hready
    rw [hdone, houtcome, hdeploy]
    refine ⟨fun fault next hfails => ?_, fun paths next hwritten => ?_⟩
    · have hrun : prepared.artifacts.writeTo output { ready with calls }.tree =
          (.error fault, next) := hfails
      exact deploy_of_unwritten host pull hrun
    · have hrun : prepared.artifacts.writeTo output { ready with calls }.tree =
          (.ok paths, next) := hwritten
      have hstands := stands_of_deploy host pull hrun
      exact hstands
  · rcases preview_cases hpreview with ⟨_, hready, hresult⟩ | ⟨prepared, ready, -, hresult, -⟩
    · rw [hfault] at hresult
      cases hresult
      rw [hdone, houtcome]
      refine ⟨fun hprovides => ?_, fun hmissing => ?_⟩
      · obtain ⟨calls, hgenerate⟩ := generate_of_fault hprovides pull hready
        rw [hgenerate]
        exact ⟨rfl, rfl⟩
      · exact generate_of_not_provides hmissing config output interactive pull run
    · rw [hfault] at hresult
      cases hresult

/-- What is read from the sample document. -/
theorem readSettings_documentTree (hrun : run.tree = documentTree) :
    readSettings "stack.json" false run = (.ok grouplessSettings, run) := by
  have hopen : openStore "stack.json" run = (.ok ⟨"stack.json", grouplessDocument⟩, run) := by
    rw [openStore_eq, hrun, load_documentTree]
  rw [readSettings, Activity.bind_of_ok hopen]
  rfl

/-- The sample document is previewed and then generated from; both end well. -/
theorem preview_documentTree :
    ∃ (artifacts : Deployment.Artifacts) (told : List Notice),
      (generate willingHost "stack.json" ⟨"out", false, .preview⟩
        (.start documentTree [])).2.notices =
          told ++ (artifacts.files.map fun file => .preview file.1 file.2) ∧
      Stands artifacts.files "out" documentTree
        (generate willingHost "stack.json" ⟨"out", false, .write true⟩
          (.start documentTree [])).2.tree := by
  have hprovides : willingHost.Provides requiredTools :=
    List.forall_mem_singleton.mpr ⟨by decide, _, rfl, rfl⟩
  have hpreview : (generate willingHost "stack.json" ⟨"out", false, .preview⟩
      (.start documentTree [])).1.isOk = true := by
    have htools : checkTools willingHost .preview (.start documentTree []) =
        (.ok (), .start documentTree []) := rfl
    rw [generate_eq, getReady, bind_assoc, Activity.bind_of_ok htools, bind_assoc,
      Activity.bind_of_ok (readSettings_documentTree rfl)]
    decide +kernel
  have hwrite : (generate willingHost "stack.json" ⟨"out", false, .write true⟩
      (.start documentTree [])).1.isOk = true := by
    have htools : checkTools willingHost (.write true) (.start documentTree []) =
        (.ok (), checkedRun) := rfl
    rw [generate_eq, getReady, bind_assoc, Activity.bind_of_ok htools, bind_assoc,
      Activity.bind_of_ok (readSettings_documentTree rfl)]
    decide +kernel
  rcases hshown : generate willingHost "stack.json" ⟨"out", false, .preview⟩
    (.start documentTree []) with ⟨fault | ⟨⟩, shown⟩
  · rw [hshown] at hpreview
    cases hpreview
  rcases hdone : generate willingHost "stack.json" ⟨"out", false, .write true⟩
    (.start documentTree []) with ⟨fault | ⟨⟩, done⟩
  · rw [hdone] at hwrite
    cases hwrite
  obtain ⟨-, -, -, hopened, hends, -⟩ := preview_faithful hshown hdone
  obtain ⟨artifacts, told, hnotices, -, hstands⟩ := hends rfl
  have htree : shown.tree = documentTree := (hopened _ load_documentTree).2 rfl
  obtain ⟨hfails, hholds⟩ := hstands hprovides
  rw [htree] at hfails hholds
  refine ⟨artifacts, told, hnotices, ?_⟩
  rcases hwritten : artifacts.writeTo "out" documentTree with ⟨fault | paths, next⟩
  · cases (hfails fault next hwritten).1
  · exact hholds paths next hwritten

end RemoteGateway.Program
