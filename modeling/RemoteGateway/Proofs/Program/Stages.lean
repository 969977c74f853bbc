import RemoteGateway.Program.Generate
import RemoteGateway.Proofs.Deployment.Provisioning
import RemoteGateway.Proofs.Prompt.Amending

/-!
# The stages of a generation

A generation gets ready first: it looks for the external programs, reads the settings from the
document, and generates all texts. Only then it writes: the artifacts, the certificate pair and the
schema, one after the other, and pulls images in the end (`generate_eq`, `deploy_eq`).

What becomes of the file tree is told stage by stage. A preorder between trees that every stage
obeys holds between the beginning and the end of a generation, however that ends
(`relates_generate`).
-/

namespace RemoteGateway.Program

open Deployment (Artifacts)
open Document (Store Value)
open FileTree (Changes namesOf)
open Prompt (Amends questions)

/-! ### The stages -/

/-- Looks for the external programs, unless nothing is to be written. -/
def checkTools (host : Host) : Delivery → Activity Unit
  | .preview => pure ()
  | .write _ => host.ensureTools requiredTools

/-- The settings in the document at a path, once what is missing was asked for. -/
def readSettings (config : String) (interactive : Bool) : Activity Settings := do
  let store ← openStore config
  let store ← if interactive then converse store else pure store
  Activity.ofExcept ((Settings.ofDocument store.document).mapError .config)

/-- Generates all texts for some settings. -/
def compile (host : Host) (settings : Settings) : Activity Prepared := do
  let settings ← withGroup host settings
  Activity.notify (.generating settings.tls.source settings.proxy.exposure.mode)
  let artifacts ← Activity.ofExcept (Deployment.synthesize settings)
  return ⟨settings, artifacts⟩

/-- All that happens before anything is shown or written. -/
def getReady (host : Host) (config : String) (generation : Generation) : Activity Prepared := do
  checkTools host generation.delivery
  let settings ← readSettings config generation.interactive
  compile host settings

/-- Does something and tells if it was done. -/
def announce (activity : Activity Bool) (notice : Notice) : Activity Unit := do
  if ← activity then Activity.notify notice

/-- Writes the artifacts. -/
def writeArtifacts (artifacts : Artifacts) (directory : String) : Activity Unit := do
  let written ← Activity.onTree (artifacts.writeTo directory)
  Activity.notifyAll (written.map .wrote)

/-- Makes sure of a certificate pair, if the certificate is not requested. -/
def provideCertificate (host : Host) (settings : Settings) (directory : String) :
    Activity Unit :=
  if settings.tls.source = .selfSigned then
    announce (Deployment.ensureCertificate host settings directory)
      (.certified (Deployment.pairDirectory directory))
  else pure ()

/-- Makes sure of the schema. -/
def provideSchema (host : Host) (settings : Settings) (directory : String) : Activity Unit :=
  announce (Deployment.ensureSchema host settings directory)
    (.wrote (Deployment.schemaPath directory))

/-- Pulls the images, if that was asked for. -/
def pullIfAsked (host : Host) (directory : String) (pull : Bool) : Activity Unit :=
  if pull then do
    host.pullImages directory
    Activity.notify .pulled
  else pure ()

/-- Shows what was generated, or writes it. -/
def finish (host : Host) (generation : Generation) (prepared : Prepared) : Activity Unit :=
  match generation.delivery with
  | .preview => preview prepared
  | .write pull => deploy host prepared generation.output pull

theorem prepare_eq (host : Host) (config : String) (interactive : Bool) :
    prepare host config interactive = readSettings config interactive >>= compile host := by
  unfold prepare readSettings compile
  cases interactive with
  | true => simp only [if_true, bind_assoc]
  | false => simp only [Bool.false_eq_true, if_false, bind_assoc]

theorem generate_eq (host : Host) (config : String) (generation : Generation) :
    generate host config generation =
      getReady host config generation >>= finish host generation := by
  rw [generate, getReady]
  simp only [← prepare_eq]
  unfold finish
  cases generation.delivery with
  | preview => simp only [checkTools, pure_bind]
  | write pull => simp only [checkTools, bind_assoc]

theorem ite_bind {α β : Type} {p : Prop} [Decidable p] (first second : Activity α)
    (rest : α → Activity β) :
    (if p then first else second) >>= rest =
      if p then first >>= rest else second >>= rest := by
  split_ifs
  · rfl
  · rfl

theorem deploy_eq (host : Host) (prepared : Prepared) (directory : String) (pull : Bool) :
    deploy host prepared directory pull = (do
      writeArtifacts prepared.artifacts directory
      provideCertificate host prepared.settings directory
      provideSchema host prepared.settings directory
      pullIfAsked host directory pull
      Activity.notify (.complete prepared.settings.publicUrl prepared.settings.tls.source
        Deployment.bootstrapScript)) := by
  obtain ⟨settings, artifacts⟩ := prepared
  unfold deploy writeArtifacts provideCertificate provideSchema pullIfAsked announce
  simp only [bind_assoc, ite_bind, pure_bind]

/-! ### Getting ready -/

variable {host : Host} {config : String} {run after : Run}

/-- A preorder that both parts of an activity obey is obeyed by the whole. -/
theorem relates_bind {α β : Type} {R : FileTree → FileTree → Prop}
    (htrans : ∀ {a b c}, R a b → R b c → R a c)
    {first : Activity α} {rest : α → Activity β} {run : Run}
    (hfirst : R run.tree (first run).2.tree)
    (hrest : ∀ value next, first run = (.ok value, next) → R next.tree (rest value next).2.tree) :
    R run.tree ((first >>= rest) run).2.tree := by
  rw [Activity.run_bind]
  rcases hresult : first run with ⟨fault | value, next⟩
  · rw [hresult] at hfirst
    exact hfirst
  · rw [hresult] at hfirst
    exact htrans hfirst (hrest value next hresult)

/-- The calls that look for the external programs. -/
def toolCalls : Delivery → List (List String)
  | .preview => []
  | .write _ => Host.versionCalls requiredTools

theorem onlyCalls_checkTools (host : Host) (delivery : Delivery) :
    host.OnlyCalls (toolCalls delivery) (checkTools host delivery) := by
  cases delivery with
  | preview => exact host.onlyCalls_pure ()
  | write pull => exact host.onlyCalls_ensureTools requiredTools

/-- Looking for programs leaves the tree and the answers alone. -/
theorem eq_of_checkTools {delivery : Delivery} {result : Except Fault Unit}
    (h : checkTools host delivery run = (result, after)) :
    after = { run with calls := after.calls } := by
  obtain ⟨made, hafter, -⟩ := onlyCalls_checkTools host delivery run
  rw [h] at hafter
  simp only at hafter
  rw [hafter]

/-- A document is opened where its file is. -/
theorem file_of_load {tree : FileTree} {store : Store} (h : Store.load config tree = .ok store) :
    store.path = config ∧ ∃ content mode, tree.status config = .ok (.file content mode) := by
  rw [Store.load, Store.readDocument, FileTree.read] at h
  cases hstatus : tree.status config with
  | error fault =>
    simp only [hstatus] at h
    cases h
  | ok node =>
    cases node with
    | directory mode =>
      simp only [hstatus] at h
      cases h
    | file content mode =>
      refine ⟨?_, content, mode, rfl⟩
      split at h
      · cases h
      · cases h
        rfl

/-- The tree once a document was asked about what it lacks. -/
def settledTree (config : String) (document : Value) (interactive : Bool) (run : Run) : FileTree :=
  if interactive then
    (Prompt.Session.collect ⟨⟨config, document⟩, run.tree, run.answers, ""⟩).2.tree
  else run.tree

/-- A conversation that ends well gives the document that is in the file then. -/
theorem amends_of_converse {result : Except Fault Store} {content : ByteArray} {mode : Nat}
    {document : Value} (h : converse ⟨config, document⟩ run = (result, after))
    (hfile : run.tree.status config = .ok (.file content mode)) :
    after.calls = run.calls ∧ after.tree = settledTree config document true run ∧
      ∃ written, Amends config questions document run.tree after.tree written ∧
        ∀ final, result = .ok final → final = ⟨config, written⟩ := by
  rw [converse] at h
  rw [settledTree, if_pos rfl]
  rcases hcollect : Prompt.Session.collect ⟨⟨config, document⟩, run.tree, run.answers, ""⟩ with
    ⟨fault | keys, session⟩
  · obtain ⟨written, hamends, -⟩ := Prompt.amends_of_collectAll hcollect hfile
    simp only [hcollect] at h
    cases h
    exact ⟨rfl, rfl, written, hamends, nofun⟩
  · obtain ⟨written, hamends, hstore⟩ := Prompt.amends_of_collectAll hcollect hfile
    have hfinal := hstore keys rfl
    simp only [hcollect] at h
    cases keys with
    | nil =>
      cases h
      exact ⟨rfl, rfl, written, hamends, fun final hok => by cases hok; exact hfinal⟩
    | cons key keys =>
      cases h
      exact ⟨rfl, rfl, written, hamends, fun final hok => by cases hok; exact hfinal⟩

/-- How the settings are read from the document at a path, and what that leaves. -/
inductive SettingsOutcome (config : String) (interactive : Bool) (run : Run) :
    Except Fault Settings → Run → Prop
  | unopened {fault : Fault} (hload : Store.load config run.tree = .error fault) :
      SettingsOutcome config interactive run (.error fault) run
  | opened {document written : Value} {result : Except Fault Settings} {after : Run}
      (hload : Store.load config run.tree = .ok ⟨config, document⟩)
      (hcalls : after.calls = run.calls)
      (htree : after.tree = settledTree config document interactive run)
      (hamends : Amends config questions document run.tree after.tree written)
      (hsettings : ∀ settings, result = .ok settings → Settings.ofDocument written = .ok settings) :
      SettingsOutcome config interactive run result after

theorem settingsOutcome (config : String) (interactive : Bool) (run : Run) :
    SettingsOutcome config interactive run (readSettings config interactive run).1
      (readSettings config interactive run).2 := by
  cases hload : Store.load config run.tree with
  | error fault =>
    have hopen : openStore config run = (.error fault, run) := by
      rw [openStore_eq, hload]
    rw [readSettings, Activity.run_bind, hopen]
    exact .unopened hload
  | ok store =>
    have hopen : openStore config run = (.ok store, run) := by
      rw [openStore_eq, hload]
    obtain ⟨path, document⟩ := store
    obtain ⟨rfl, content, mode, hfile⟩ := file_of_load hload
    rw [readSettings, Activity.bind_of_ok hopen]
    cases interactive with
    | false =>
      have hkeep : (pure ⟨path, document⟩ : Activity Store) run = (.ok ⟨path, document⟩, run) := rfl
      simp only [Bool.false_eq_true, if_false]
      rw [Activity.bind_of_ok hkeep, Activity.run_ofExcept]
      exact .opened hload rfl rfl (.refl _ _ _ _)
        fun settings hok => Outcome.mapError_eq_ok.mp hok
    | true =>
      simp only [if_true]
      rw [Activity.run_bind]
      rcases hconverse : converse ⟨path, document⟩ run with ⟨fault | final, after⟩
      · obtain ⟨hcalls, htree, written, hamends, -⟩ := amends_of_converse hconverse hfile
        exact .opened hload hcalls htree hamends fun _ hok => by cases hok
      · obtain ⟨hcalls, htree, written, hamends, hfinal⟩ := amends_of_converse hconverse hfile
        obtain rfl := hfinal final rfl
        simp only [Activity.run_ofExcept]
        exact .opened hload hcalls htree hamends fun settings hok => Outcome.mapError_eq_ok.mp hok

/-- The settings do not depend on what was called before. -/
theorem readSettings_calls (config : String) (interactive : Bool) (run : Run)
    (calls : List (List String)) :
    (readSettings config interactive { run with calls }).1 =
      (readSettings config interactive run).1 := by
  rw [readSettings, Activity.run_bind, Activity.run_bind, openStore_eq, openStore_eq]
  cases Store.load config run.tree with
  | error fault => rfl
  | ok store =>
    cases interactive with
    | false => rfl
    | true =>
      simp only [if_true, Activity.run_bind, converse]
      rcases Prompt.Session.collect ⟨store, run.tree, run.answers, ""⟩ with
        ⟨_ | _ | _, session⟩
      · rfl
      · rfl
      · rfl

theorem readSettings_of_checkTools {delivery : Delivery} {interactive : Bool} {checked : Run}
    (h : checkTools host delivery run = (.ok (), checked)) :
    (readSettings config interactive checked).1 = (readSettings config interactive run).1 := by
  rw [eq_of_checkTools h, readSettings_calls]

theorem changes_readSettings (config : String) (interactive : Bool) (run : Run) :
    Changes [config] [] run.tree (readSettings config interactive run).2.tree := by
  have houtcome := settingsOutcome config interactive run
  generalize readSettings config interactive run = outcome at houtcome ⊢
  obtain ⟨result, after⟩ := outcome
  cases houtcome with
  | unopened => exact .refl _
  | opened _ _ _ hamends => exact hamends.changes

/-- The call that looks up the group of the runtime's socket, unless it is configured. -/
def groupCalls (settings : Settings) : List (List String) :=
  if settings.runtime.group = none then [Host.groupCall runtimeGroup] else []

theorem onlyCalls_withGroup (host : Host) (settings : Settings) :
    host.OnlyCalls (groupCalls settings) (withGroup host settings) := by
  rw [groupCalls, withGroup]
  cases hgroup : settings.runtime.group with
  | some group => exact host.onlyCalls_pure settings
  | none =>
    rw [if_pos rfl]
    exact (host.onlyCalls_groupId runtimeGroup).bind_pure _

/-- Looking up the group changes nothing else in the settings. -/
theorem settings_of_withGroup {settings final : Settings}
    (h : withGroup host settings run = (.ok final, after)) :
    ∃ group, final = { settings with runtime := { settings.runtime with group } } := by
  rw [withGroup] at h
  cases hgroup : settings.runtime.group with
  | some group =>
    simp only [hgroup] at h
    cases h
    exact ⟨some group, by rw [← hgroup]⟩
  | none =>
    simp only [hgroup] at h
    rcases Activity.bind_eq h with ⟨fault, -, hfault⟩ | ⟨group, next, -, hrest⟩
    · cases hfault
    · cases hrest
      exact ⟨some group, rfl⟩

/-- Generating the texts calls a program at most, and touches no file. -/
theorem compile_spec {settings : Settings} {result : Except Fault Prepared}
    (h : compile host settings run = (result, after)) :
    after.tree = run.tree ∧
      (∃ made, after.calls = run.calls ++ made ∧
        host.Made (groupCalls settings) made (result.isOk = true)) ∧
      ∀ prepared, result = .ok prepared →
        prepared.settings.tls = settings.tls ∧ prepared.settings.images = settings.images ∧
          Deployment.synthesize prepared.settings = .ok prepared.artifacts := by
  obtain ⟨made, hnext, hmade⟩ := onlyCalls_withGroup host settings run
  rcases Activity.bind_eq h with ⟨fault, hgroup, rfl⟩ | ⟨final, next, hgroup, h⟩
  · rw [hgroup] at hnext hmade
    simp only at hnext
    subst hnext
    exact ⟨rfl, ⟨made, rfl, hmade⟩, fun _ hok => by cases hok⟩
  obtain ⟨group, rfl⟩ := settings_of_withGroup hgroup
  rw [hgroup] at hnext hmade
  simp only at hnext
  subst hnext
  rcases Activity.bind_eq h with ⟨fault, hnotify, -⟩ | ⟨⟨⟩, told, hnotify, h⟩
  · cases hnotify
  cases hnotify
  rcases Activity.bind_eq h with ⟨fault, hsynthesize, rfl⟩ | ⟨artifacts, next, hsynthesize, h⟩
  · rw [Activity.run_ofExcept, Prod.mk.injEq] at hsynthesize
    obtain ⟨-, rfl⟩ := hsynthesize
    exact ⟨rfl, ⟨made, rfl, hmade.mono fun _ => rfl⟩, fun _ hok => by cases hok⟩
  · rw [Activity.run_ofExcept, Prod.mk.injEq] at hsynthesize
    obtain ⟨hsynthesize, rfl⟩ := hsynthesize
    cases h
    refine ⟨rfl, ⟨made, rfl, hmade.mono fun _ => rfl⟩, fun prepared hok => ?_⟩
    cases hok
    exact ⟨rfl, rfl, hsynthesize⟩

/-- **Getting ready touches the document at most**, however that ends. -/
theorem changes_getReady (host : Host) (config : String) (generation : Generation) (run : Run) :
    Changes [config] [] run.tree (getReady host config generation run).2.tree := by
  obtain ⟨made, htools, -⟩ := onlyCalls_checkTools host generation.delivery run
  rw [getReady]
  refine relates_bind .trans (by rw [htools]; exact .refl _) fun _ checked _ => ?_
  refine relates_bind .trans (changes_readSettings _ _ _) fun settings read _ => ?_
  rcases hcompile : compile host settings read with ⟨result, ready⟩
  rw [(compile_spec hcompile).1]
  exact .refl _

/-- What is ready to be written comes from the settings that were read. -/
theorem getReady_eq_ok {generation : Generation} {prepared : Prepared}
    (h : getReady host config generation run = (.ok prepared, after)) :
    ∃ settings, (readSettings config generation.interactive run).1 = .ok settings ∧
      prepared.settings.tls = settings.tls ∧ prepared.settings.images = settings.images ∧
      Deployment.synthesize prepared.settings = .ok prepared.artifacts := by
  rcases Activity.bind_eq h with ⟨fault, -, hfault⟩ | ⟨_, checked, hchecked, h⟩
  · cases hfault
  rcases Activity.bind_eq h with ⟨fault, -, hfault⟩ | ⟨settings, read, hread, h⟩
  · cases hfault
  refine ⟨settings, ?_, (compile_spec h).2.2 prepared rfl⟩
  rw [← readSettings_of_checkTools hchecked, hread]

/-! ### Writing -/

/-- Telling what was done changes nothing but the notices. -/
theorem announce_eq (activity : Activity Bool) (notice : Notice) (run : Run) :
    ∃ notices, announce activity notice run =
      ((activity run).1.map fun _ => (), { (activity run).2 with notices }) := by
  rw [announce, Activity.run_bind]
  rcases activity run with ⟨fault | done, next⟩
  · exact ⟨next.notices, rfl⟩
  · cases done with
    | true => exact ⟨next.notices ++ [notice], rfl⟩
    | false => exact ⟨next.notices, rfl⟩

/-- Making sure of the schema tells whether it was made. -/
theorem provideSchema_eq (host : Host) (settings : Settings) (directory : String) (run : Run) :
    ∃ notices, provideSchema host settings directory run =
      ((Deployment.ensureSchema host settings directory run).1.map fun _ => (),
        { (Deployment.ensureSchema host settings directory run).2 with notices }) :=
  announce_eq _ _ _

/-- A pair is made sure of if the certificate is not requested. -/
theorem provideCertificate_eq (host : Host) (settings : Settings) (directory : String)
    (run : Run) :
    settings.tls.source = .letsEncrypt ∧
        provideCertificate host settings directory run = (.ok (), run) ∨
      settings.tls.source = .selfSigned ∧
        ∃ notices, provideCertificate host settings directory run =
          ((Deployment.ensureCertificate host settings directory run).1.map fun _ => (),
            { (Deployment.ensureCertificate host settings directory run).2 with notices }) := by
  rw [provideCertificate]
  cases settings.tls.source with
  | selfSigned =>
    rw [if_pos rfl]
    exact .inr ⟨rfl, announce_eq _ _ _⟩
  | letsEncrypt =>
    rw [if_neg (by decide)]
    exact .inl ⟨rfl, rfl⟩

theorem writeArtifacts_eq (artifacts : Artifacts) (directory : String) (run : Run) :
    ∃ notices, writeArtifacts artifacts directory run =
      (((artifacts.writeTo directory run.tree).1.map fun _ => ()).mapError
          fun fault => .io (.file fault),
        { run with tree := (artifacts.writeTo directory run.tree).2, notices }) := by
  rw [writeArtifacts, Activity.run_bind, Activity.onTree, Activity.withTree]
  rcases artifacts.writeTo directory run.tree with ⟨fault | written, tree⟩
  · exact ⟨run.notices, rfl⟩
  · exact ⟨run.notices ++ written.map .wrote, rfl⟩

/-- Pulling images touches no file. -/
theorem tree_of_pullIfAsked (host : Host) (directory : String) (pull : Bool) (run : Run) :
    (pullIfAsked host directory pull run).2.tree = run.tree := by
  rw [pullIfAsked]
  cases pull with
  | false => rfl
  | true =>
    obtain ⟨made, hafter, -⟩ := host.onlyCalls_pullImages directory run
    rw [if_pos rfl, Activity.run_bind]
    rcases hpull : host.pullImages directory run with ⟨fault | ⟨⟩, next⟩
    all_goals
      rw [hpull] at hafter
      simp only at hafter
      subst hafter
      rfl

section Relations

/-! ### What every stage keeps -/

variable {R : FileTree → FileTree → Prop}

variable (hrefl : ∀ tree, R tree tree) (htrans : ∀ {a b c}, R a b → R b c → R a c)
  {directory : String}
  (hwrite : ∀ {tree after}, Changes (Deployment.artifactPaths directory)
    (Deployment.artifactPaths directory) tree after → R tree after)

include hrefl htrans hwrite

/-- What the writing of artifacts and the making of the other files obey, a deployment obeys. -/
theorem relates_deploy (prepared : Prepared) (pull : Bool) (run : Run)
    (hcertificate : prepared.settings.tls.source = .selfSigned → ∀ run : Run,
      R run.tree (Deployment.ensureCertificate host prepared.settings directory run).2.tree)
    (hschema : ∀ run : Run,
      R run.tree (Deployment.ensureSchema host prepared.settings directory run).2.tree) :
    R run.tree (deploy host prepared directory pull run).2.tree := by
  rw [deploy_eq]
  refine relates_bind (R := R) htrans ?_ fun _ written _ => ?_
  · obtain ⟨notices, hwritten⟩ := writeArtifacts_eq prepared.artifacts directory run
    rw [hwritten]
    exact hwrite (Deployment.changes_writeTo _ _ _)
  refine relates_bind (R := R) htrans ?_ fun _ certified _ => ?_
  · rcases provideCertificate_eq host prepared.settings directory written with
      ⟨-, heq⟩ | ⟨hsource, notices, heq⟩
    · rw [heq]
      exact hrefl _
    · rw [heq]
      exact hcertificate hsource written
  refine relates_bind (R := R) htrans ?_ fun _ provided _ => ?_
  · obtain ⟨notices, heq⟩ := provideSchema_eq host prepared.settings directory certified
    rw [heq]
    exact hschema certified
  refine relates_bind (R := R) htrans ?_ fun _ pulled _ => hrefl _
  rw [tree_of_pullIfAsked]
  exact hrefl _

/-- **What every stage obeys, a generation obeys, however it ends.** -/
theorem relates_generate (generation : Generation) (hdirectory : generation.output = directory)
    (run : Run) (hconfig : ∀ {tree after}, Changes [config] [] tree after → R tree after)
    (hcertificate : ∀ settings, (readSettings config generation.interactive run).1 = .ok settings →
      settings.tls.source = .selfSigned → ∀ (settings : Settings) (run : Run),
      R run.tree (Deployment.ensureCertificate host settings directory run).2.tree)
    (hschema : ∀ (settings : Settings) (run : Run),
      R run.tree (Deployment.ensureSchema host settings directory run).2.tree) :
    R run.tree (generate host config generation run).2.tree := by
  subst hdirectory
  rw [generate_eq]
  refine relates_bind (R := R) htrans (hconfig (changes_getReady _ _ _ _))
    fun prepared ready hready => ?_
  obtain ⟨settings, hsettings, htls, -⟩ := getReady_eq_ok hready
  rw [finish]
  cases generation.delivery with
  | preview => exact hrefl _
  | write pull =>
    exact relates_deploy hrefl htrans hwrite prepared pull ready
      (fun hsource => hcertificate settings hsettings (htls ▸ hsource) prepared.settings)
      (hschema prepared.settings)

end Relations

end RemoteGateway.Program
