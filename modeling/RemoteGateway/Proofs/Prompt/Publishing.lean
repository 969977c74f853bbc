import RemoteGateway.Proofs.Deployment.Generating
import RemoteGateway.Proofs.Prompt.Repeating
import RemoteGateway.Proofs.Proxy.Published
import RemoteGateway.Proofs.Settings.SiteNames
import RemoteGateway.Proofs.Site.Cores

/-!
# From an answer to the site

The base path that is answered in a session is read once, and what is stored is its text. From then
on this text stands for the path wherever it is read: in the document that the session leaves, in
every later one that has it at its key, and in the location below which the virtual host that is
generated from such a document hands requests to the application (`basePath_normalForm`).
-/

namespace RemoteGateway.Prompt

open Document (IsKeyPath Value getText?_of_find? segments)
open Proxy (Directive IsSpelled Publishes ReadsAs VirtualHost)
open Site (BasePath IsCoreOf)

/-! ### Answers that were read -/

section

variable {question : Question} {answers : List Line} {asked : Asked} {text : String}

/-- A question reads its answers from the front. -/
theorem Question.rest_ask_suffix (question : Question) (answers : List Line) :
    (question.ask answers).rest <:+ answers := by
  induction answers with
  | nil => exact List.suffix_refl []
  | cons line answers ih =>
    cases line with
    | none => exact List.suffix_cons none answers
    | some line =>
      rw [Question.ask]
      split
      · exact List.suffix_cons _ answers
      · exact ih.trans (List.suffix_cons _ answers)

/-- A text that is taken is the reading of one of the answers, or stands for the end of them. -/
theorem Question.exists_line (h : (question.ask answers).result = .ok text) :
    (∃ line, some line ∈ answers ∧
        question.form.accept (String.ofList (Text.trim line.toList)) = .ok text) ∨
      question.form.closed = some text := by
  induction answers with
  | nil =>
    have hnone : question.Declines [] := fun line hline => absurd hline List.not_mem_nil
    exact .inr (question.closed_of_declines hnone h)
  | cons line answers ih =>
    cases line with
    | none => cases h
    | some line =>
      rw [Question.ask] at h
      split at h
      · next value haccept =>
        cases h
        exact .inl ⟨line, List.mem_cons_self, haccept⟩
      · refine (ih h).imp_left ?_
        rintro ⟨later, hmem, haccept⟩
        exact ⟨later, List.mem_cons_of_mem _ hmem, haccept⟩

theorem Question.Asks.rest_suffix (h : question.Asks answers asked) : asked.rest <:+ answers := by
  cases h with
  | whole => exact question.rest_ask_suffix answers
  | cut _ _ hrest => exact hrest

/-- However a question is asked, only an answer that was read ends it well. -/
theorem Question.Asks.exists_line (h : question.Asks answers asked)
    (htext : asked.result = .ok text) :
    (∃ line, some line ∈ answers ∧
        question.form.accept (String.ofList (Text.trim line.toList)) = .ok text) ∨
      question.form.closed = some text := by
  cases h with
  | whole => exact Question.exists_line htext
  | cut hresult =>
    rw [hresult] at htext
    cases htext

end

namespace Course

variable {questions : List Question} {session after : Session} {exchanges : List Exchange}
  {result : Except Fault (List String)}

/-- **Every answer was given**: what a session stores is the reading of one of its answers, unless
it stands for the end of them. -/
theorem exists_line (h : Course questions session exchanges result after) {exchange : Exchange}
    (hmem : exchange ∈ exchanges) {text : String} (htext : exchange.asked.result = .ok text) :
    (∃ line, some line ∈ session.answers ∧
        exchange.question.form.accept (String.ofList (Text.trim line.toList)) = .ok text) ∨
      exchange.question.form.closed = some text := by
  induction h with
  | nil => exact absurd hmem List.not_mem_nil
  | skip _ _ ih => exact ih hmem
  | unanswered _ hasks _ =>
    obtain rfl := List.mem_singleton.mp hmem
    exact hasks.exists_line htext
  | unwritten _ _ hasks _ _ =>
    obtain rfl := List.mem_singleton.mp hmem
    exact hasks.exists_line htext
  | answered _ _ hasks _ _ _ ih =>
    rcases List.mem_cons.mp hmem with rfl | hmem
    · exact hasks.exists_line htext
    · -- What later questions read is left of the answers that this one had.
      refine (ih hmem).imp_left ?_
      rintro ⟨line, hline, haccept⟩
      exact ⟨line, hasks.rest_suffix.subset hline, haccept⟩

/-- In a session that ends well, every question was answered. -/
theorem exists_text (h : Course questions session exchanges result after) {keys : List String}
    (hresult : result = .ok keys) :
    ∀ exchange ∈ exchanges, ∃ text, exchange.asked.result = .ok text := by
  induction h generalizing keys with
  | nil => exact fun exchange hmem => absurd hmem List.not_mem_nil
  | skip _ _ ih => exact ih hresult
  | unanswered => cases hresult
  | unwritten => cases hresult
  | answered _ _ _ hask _ _ ih =>
    obtain ⟨later, hlater, -⟩ := Outcome.map_eq_ok.mp hresult
    exact List.forall_mem_cons.mpr ⟨⟨_, hask⟩, ih hlater⟩

end Course

/-! ### The base path -/

/-- The text of which the base path is read that an answer stands for. -/
def statedPath (line : String) : String :=
  let answer := String.ofList (Text.trim line.toList)
  if answer = "" then Site.applicationPath else answer

/-- A document says that the application is published below a path. -/
structure StatesPath (document : Value) (text : String) : Prop where
  mode : document.getTextD "nginx.url_mode" "path" = "path"
  path : document.getText? "nginx.base_path" = some text

section

variable {document : Value} {settings : Settings} {path : BasePath}

/-- The text of a path that was read stands for it in every document. -/
theorem readExposure_of_statesPath (hparse : BasePath.parse path.text = .ok path)
    (h : StatesPath document path.text) : readExposure document = .ok (.path path) := by
  have htext : document.getTextD "nginx.base_path" Site.applicationPath = path.text := by
    rw [Value.getTextD, h.path]
    rfl
  rw [readExposure, h.mode, readKey, htext, hparse]
  rfl

/-- How a document that states a path is read, and what is generated from it. -/
structure StandsFor (document : Value) (path : BasePath) : Prop where
  exposure : readExposure document = .ok (.path path)
  settings : ∀ settings, Settings.ofDocument document = .ok settings →
    settings.proxy.exposure = .path path
  /-- The only location that hands requests to the application is the one with the path, as the
  virtual host is written and as its text is read. -/
  virtualHost : ∀ settings text, Settings.ofDocument document = .ok settings →
    Deployment.virtualHost settings = .ok text →
      (∃ configuration, text = Directive.write configuration ∧
        Directive.applicationPaths configuration = [path.text]) ∧
      (IsSpelled settings → ∃ origin,
        ReadsAs text fun configuration => Publishes configuration origin path.text)

theorem standsFor_of_statesPath (hparse : BasePath.parse path.text = .ok path)
    (h : StatesPath document path.text) : StandsFor document path := by
  have hexposure := readExposure_of_statesPath hparse h
  have hsettings : ∀ settings, Settings.ofDocument document = .ok settings →
      settings.proxy.exposure = .path path := by
    intro settings hread
    exact Except.ok.inj ((exposure_of_ofDocument hread).1.symm.trans hexposure)
  refine ⟨hexposure, hsettings, fun settings text hread htext => ?_⟩
  obtain ⟨host, hhost, rfl⟩ := Deployment.exists_host_of_virtualHost htext
  have hpath : host.exposure.basePath = path.text := by
    rw [VirtualHost.exposure_of_ofSettings hhost, hsettings settings hread]
    rfl
  rw [← hpath]
  exact ⟨⟨host.configuration, rfl, host.applicationPaths_configuration⟩, fun hspelled =>
    ⟨host.origin, hspelled.readsAs hhost
      (host.publishes_configuration (hspelled.isSolid_origin hhost))⟩⟩

end

/-- A base path that is taken is read from what the answer states. -/
theorem exists_path_of_accept {line text : String}
    (h : Form.accept (.basePath Site.applicationPath) (String.ofList (Text.trim line.toList)) =
      .ok text) :
    ∃ path, BasePath.parse (statedPath line) = .ok path ∧ text = path.text := by
  rw [Form.accept, ← statedPath] at h
  split at h
  · next path hparse =>
    cases h
    exact ⟨path, hparse, rfl⟩
  · cases h

/-- What a session does with the base path that is answered. -/
theorem exists_path_of_collect {session after : Session} {answered : List String}
    (h : session.collect = (.ok answered, after)) (hkey : "nginx.base_path" ∈ answered) :
    ∃ line path, some line ∈ session.answers ∧ BasePath.parse (statedPath line) = .ok path ∧
      StatesPath after.store.document path.text := by
  obtain ⟨exchanges, hcourse⟩ := course_of_collect h
  have hmode := (collected_of_collectAll h).urlMode_of_mem_keys
    [databasePassword, adminPassword, certificateSource, urlMode, domain, email] basePath
    [subdomain] rfl rfl (by decide) hkey
  have hanswered := hkey
  rw [hcourse.keys_eq rfl] at hanswered
  obtain ⟨exchange, hmem, hname⟩ := List.mem_map.mp hanswered
  obtain ⟨text, htext⟩ := hcourse.exists_text rfl exchange hmem
  have hforms : ∀ q ∈ questions, q.key = "nginx.base_path" →
      q.form = .basePath Site.applicationPath := by decide
  have hform := hforms exchange.question (hcourse.of_mem_exchanges hmem).1 hname
  have hkeys : ∀ question ∈ questions, IsKeyPath question.key := by decide
  have hfind := hcourse.find?_of_mem_exchanges apart_questions hkeys hmem htext
  have hline := hcourse.exists_line hmem htext
  rw [hform] at hline
  rcases hline with ⟨line, hline, haccept⟩ | hclosed
  · obtain ⟨path, hparse, rfl⟩ := exists_path_of_accept haccept
    rw [hname] at hfind
    exact ⟨line, path, hline, hparse, hmode, getText?_of_find? hfind path.text_ne_empty⟩
  · cases hclosed

/-- **A base path has one text.** A text is read by its core alone, and what is read is the core
between slashes, which is read as itself. So the text that a session stores for an answer stands for
the same path in all that follows: in every document that states it, in the settings that are read
from such a document, and in the virtual host that is generated for them. -/
theorem basePath_normalForm :
    (∀ raw, (∃! core, IsCoreOf raw core) ∧
      ∀ core, IsCoreOf raw core → BasePath.ReadsCore raw core) ∧
    ∀ (session after : Session) (answered : List String),
      session.collect = (.ok answered, after) → "nginx.base_path" ∈ answered →
        ∃ line path, some line ∈ session.answers ∧ BasePath.parse (statedPath line) = .ok path ∧
          StatesPath after.store.document path.text ∧
          ∀ document, StatesPath document path.text → StandsFor document path := by
  refine ⟨fun raw => ⟨?_, fun core => BasePath.readsCore⟩, fun session after answered h hkey => ?_⟩
  · refine ⟨BasePath.coreOf raw, Site.isCoreOf_iff.mpr rfl, fun other hother => ?_⟩
    exact (Site.isCoreOf_iff.mp hother).symm
  · obtain ⟨line, path, hline, hparse, hstates⟩ := exists_path_of_collect h hkey
    refine ⟨line, path, hline, hparse, hstates, fun document hdocument => ?_⟩
    exact standsFor_of_statesPath (BasePath.parse_text hparse) hdocument

/-- The first session of a site states the path that was answered without its closing slash. -/
theorem basePath_normalForm_firstSession :
    ∃ after, firstSession.collect = (.ok (leadingKeys ++ ["nginx.base_path"]), after) ∧
      StatesPath after.store.document "/remote/" ∧
      ∃ path, path.text = "/remote/" ∧ StandsFor after.store.document path := by
  obtain ⟨after, hcollect, hstored⟩ : ∃ after,
      firstSession.collect = (.ok (leadingKeys ++ ["nginx.base_path"]), after) ∧
        after.store.document.getText? "nginx.base_path" = some "/remote/" := ⟨_, rfl, rfl⟩
  obtain ⟨line, path, -, -, hstates, hstands⟩ :=
    basePath_normalForm.2 firstSession after _ hcollect (by decide)
  have htext : path.text = "/remote/" := Option.some.inj (hstates.path.symm.trans hstored)
  exact ⟨after, hcollect, htext ▸ hstates, path, htext, hstands _ hstates⟩

end RemoteGateway.Prompt
