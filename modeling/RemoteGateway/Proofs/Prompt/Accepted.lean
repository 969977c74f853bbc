import RemoteGateway.Proofs.Prompt.Collecting
import RemoteGateway.Proofs.Settings.Faults
import RemoteGateway.Proofs.Site.BasePaths

/-!
# What a session accepts and what the settings accept

A session takes an answer when the form of its question does, and the settings are later read
from what it stored. For the two choices and the base path the form and the reader agree, so
their keys are never blamed after they were answered, and after a session both passwords are
there. A domain and the label of a subdomain are taken however they read: a domain of which
nothing is left (`LacksDomain`) and a label that is none (`HasBadLabel`) pass the session and
stop the settings. `settings_blame_iff` says that nothing else can.
-/

namespace RemoteGateway

open Document (Apart Value getTextD_of_find? getText?_of_find? getText?_of_find?_eq segments)

/-- A fault blames a session: it names a key that was answered, or it misses a key that the
session had to see to. -/
def ConfigFault.Blames (answered : List String) : ConfigFault → Prop
  | unreadable .. => False
  | missing key =>
    key ∈ answered ∨ key ∈ ["database.password", "guacamole.admin_password", "ssl.domain"]
  | invalid key _ => key ∈ answered

namespace Prompt

/-- The label of a subdomain was answered and is none, and nothing else stops the settings
before they get to it. -/
def HasBadLabel (answered : List String) (document : Value) : Prop :=
  "nginx.subdomain" ∈ answered ∧ SettlesDomain document ∧
    ∃ reason, readLabel (document.getTextD "nginx.subdomain" "guacamole") = .error reason

/-! ### What the forms take -/

section

variable {question : Question} {text : String}

/-- A question that needs an answer takes no empty one. -/
theorem Question.Takes.ne_empty (h : question.Takes text) (hform : question.form = .required) :
    text ≠ "" := by
  rcases h with ⟨answer, haccept⟩ | hclosed
  · rw [hform, Form.accept] at haccept
    split at haccept
    · cases haccept
    · next hne =>
      cases haccept
      exact hne
  · rw [hform] at hclosed
    cases hclosed

/-- A choice is one of its names. -/
theorem Question.Takes.mem_choices {first : String} {others : List String}
    (h : question.Takes text) (hform : question.form = .choice first others) :
    text ∈ first :: others := by
  rcases h with ⟨answer, haccept⟩ | hclosed
  · rw [hform, Form.accept] at haccept
    split at haccept
    · cases haccept
      exact List.mem_cons_self
    · split at haccept
      · next hmem =>
        cases haccept
        exact hmem
      · cases haccept
  · rw [hform] at hclosed
    cases hclosed

/-- A base path that is taken is the text of one that was read. -/
theorem Question.Takes.exists_basePath {proposal : String} (h : question.Takes text)
    (hform : question.form = .basePath proposal) :
    ∃ path : Site.BasePath, text = path.text ∧ Site.BasePath.parse text = .ok path := by
  rcases h with ⟨answer, haccept⟩ | hclosed
  · rw [hform, Form.accept] at haccept
    split at haccept
    · next path hparse =>
      cases haccept
      exact ⟨path, rfl, Site.BasePath.parse_text hparse⟩
    · cases haccept
  · rw [hform] at hclosed
    cases hclosed

end

/-! ### What the document says after a session -/

/-- No question asks for what another one stored. -/
theorem apart_questions :
    questions.Pairwise fun p q => Apart (segments p.key) (segments q.key) := by
  decide

namespace Collected

variable {document after : Value} {keys : List String}

/-- The turn of a question among all of them. -/
theorem turn_of_questions (h : Collected questions document keys after)
    (before : List Question) (question : Question) (later : List Question)
    (hsplit : questions = before ++ question :: later) :
    ∃ turn, Turn question keys turn after ∧
      ∀ path, (∀ q ∈ question :: later, Apart (segments q.key) path) →
        after.find? path = turn.find? path := by
  have hapart := apart_questions
  rw [hsplit, List.pairwise_append] at hapart
  obtain ⟨-, hlater, hbefore⟩ := hapart
  rw [hsplit] at h
  refine h.turn (fun q hq => hbefore q hq question List.mem_cons_self) fun q hq => ?_
  exact (List.rel_of_pairwise_cons hlater hq).symm

/-- **A password is there** after a session, whether it was asked for or not. -/
theorem requireKey_ne_error {fault : ConfigFault} (h : Collected questions document keys after)
    (before : List Question) (question : Question) (later : List Question)
    (hsplit : questions = before ++ question :: later) (hform : question.form = .required)
    (hrelevant : ∀ turn, question.relevant turn = true) :
    requireKey after question.key ≠ .error fault := by
  intro herror
  obtain ⟨hnone, -⟩ := requireKey_eq_error.mp herror
  obtain ⟨turn, hturn, -⟩ := h.turn_of_questions before question later hsplit
  -- A question that needs an answer is left out only when its key has a text.
  rcases hturn with ⟨-, hclosed, hfind⟩ | ⟨-, -, htakes, hfind⟩
  · rw [Question.isOpen, hrelevant, hform, Bool.true_and] at hclosed
    simp only at hclosed
    rw [Value.isUnset, ← getText?_of_find?_eq hfind, hnone] at hclosed
    cases hclosed
  · rw [getText?_of_find? hfind (htakes.ne_empty hform)] at hnone
    cases hnone

/-- A choice that was answered is one of the names. -/
theorem getTextD_mem_choices {first : String} {others : List String}
    (h : Collected questions document keys after)
    (before : List Question) (question : Question) (later : List Question) (default : String)
    (hsplit : questions = before ++ question :: later)
    (hform : question.form = .choice first others) (hnames : "" ∉ first :: others)
    (hkey : question.key ∈ keys) :
    after.getTextD question.key default ∈ first :: others := by
  obtain ⟨turn, hturn, -⟩ := h.turn_of_questions before question later hsplit
  rcases hturn with ⟨hnot, -, -⟩ | ⟨-, -, htakes, hfind⟩
  · exact absurd hkey hnot
  · have hmem := htakes.mem_choices hform
    rw [getTextD_of_find? hfind fun hempty => hnames (hempty ▸ hmem)]
    exact hmem

/-- A base path that was answered can be read. -/
theorem parse_basePath (h : Collected questions document keys after)
    (hkey : "nginx.base_path" ∈ keys) (default : String) :
    ∃ path, Site.BasePath.parse (after.getTextD "nginx.base_path" default) = .ok path := by
  obtain ⟨turn, hturn, -⟩ := h.turn_of_questions
    [databasePassword, adminPassword, certificateSource, urlMode, domain, email] basePath
    [subdomain] rfl
  rcases hturn with ⟨hnot, -, -⟩ | ⟨-, -, htakes, hfind⟩
  · exact absurd hkey hnot
  · obtain ⟨path, htext, hparse⟩ := htakes.exists_basePath rfl
    have hfound : after.getTextD "nginx.base_path" default = _ :=
      getTextD_of_find? hfind (htext ▸ path.text_ne_empty)
    exact ⟨path, by rw [hfound, hparse]⟩

/-- What is asked for because the application is published in some way is only asked for when it
still is in the end. -/
theorem urlMode_of_mem_keys (h : Collected questions document keys after) {mode : String}
    (before : List Question) (question : Question) (later : List Question)
    (hsplit : questions = before ++ question :: later)
    (hrelevant : question.relevant = publishesBy mode)
    (hmode : ∀ q ∈ question :: later, Apart (segments q.key) (segments "nginx.url_mode"))
    (hkey : question.key ∈ keys) : after.getTextD "nginx.url_mode" "path" = mode := by
  obtain ⟨turn, hturn, hsame⟩ := h.turn_of_questions before question later hsplit
  rcases hturn with ⟨hnot, -, -⟩ | ⟨-, hopen, -, -⟩
  · exact absurd hkey hnot
  · have hpublishes : publishesBy mode turn = true := by
      rw [Question.isOpen, Bool.and_eq_true, hrelevant] at hopen
      exact hopen.1
    rw [publishesBy, beq_iff_eq, Value.getTextD] at hpublishes
    -- The mode was asked for before, so it is the same in the end.
    rw [Value.getTextD, getText?_of_find?_eq (hsame _ hmode)]
    exact hpublishes

/-- The label is asked for only when the application is published below one. -/
theorem urlMode_of_subdomain (h : Collected questions document keys after)
    (hkey : "nginx.subdomain" ∈ keys) :
    after.getTextD "nginx.url_mode" "path" = "subdomain" :=
  h.urlMode_of_mem_keys
    [databasePassword, adminPassword, certificateSource, urlMode, domain, email, basePath]
    subdomain [] rfl rfl (by decide) hkey

/-- The mode of the certificate is not blamed when it was answered. -/
theorem not_blames_certificateSource (h : Collected questions document keys after)
    {fault : ConfigFault}
    (hfault : readKey after "ssl.mode" "selfsigned" CertificateSource.ofText = .error fault) :
    ¬ fault.Blames keys := by
  obtain ⟨reason, hread, rfl⟩ := readKey_eq_error.mp hfault
  intro hkey
  have hmem := h.getTextD_mem_choices [databasePassword, adminPassword] certificateSource
    [urlMode, domain, email, basePath, subdomain] "selfsigned" rfl rfl (by decide) hkey
  change CertificateSource.ofText (after.getTextD certificateSource.key "selfsigned") = _ at hread
  simp only [List.mem_cons, List.not_mem_nil, or_false] at hmem
  rcases hmem with hmode | hmode
  · rw [hmode] at hread
    cases hread
  · rw [hmode] at hread
    cases hread

/-- What is wrong with the exposure blames a session only for a label that is none. -/
theorem readLabel_of_blames (h : Collected questions document keys after) {fault : ConfigFault}
    (hfault : readExposure after = .error fault) (hblames : fault.Blames keys) :
    "nginx.subdomain" ∈ keys ∧
      ∃ reason, readLabel (after.getTextD "nginx.subdomain" "guacamole") = .error reason := by
  rw [readExposure] at hfault
  split at hfault
  · obtain ⟨reason, hread, rfl⟩ := readKey_eq_error.mp (Outcome.map_eq_error.mp hfault)
    obtain ⟨path, hpath⟩ := h.parse_basePath hblames Site.applicationPath
    rw [hpath] at hread
    cases hread
  · cases hfault
  · obtain ⟨reason, hread, rfl⟩ := readKey_eq_error.mp (Outcome.map_eq_error.mp hfault)
    exact ⟨hblames, reason, hread⟩
  · next hpath hroot hsubdomain =>
    cases hfault
    have hmem := h.getTextD_mem_choices [databasePassword, adminPassword, certificateSource]
      urlMode [domain, email, basePath, subdomain] "path" rfl rfl (by decide) hblames
    simp only [List.mem_cons, List.not_mem_nil, or_false] at hmem
    rcases hmem with h | h | h
    · exact absurd h hpath
    · exact absurd h hroot
    · exact absurd h hsubdomain

/-- A key that no session asks for is not blamed. -/
theorem not_blames_of_isUnasked (h : Collected questions document keys after)
    {fault : ConfigFault} (hfault : fault.IsUnasked) : ¬ fault.Blames keys := by
  obtain ⟨key, hkey, hname⟩ := hfault
  have hunasked : ∀ q ∈ questions, q.key ∉ unaskedKeys := by decide
  have hnot : key ∉ keys := by
    intro hmem
    obtain ⟨q, hq, rfl⟩ := h.exists_of_mem_keys hmem
    exact hunasked q hq hkey
  have hsecrets : ∀ k ∈ ["database.password", "guacamole.admin_password", "ssl.domain"],
      k ∉ unaskedKeys := by decide
  cases fault with
  | unreadable path fault => exact id
  | invalid other reason =>
    cases hname
    exact hnot
  | missing other =>
    cases hname
    rintro (hmem | hmem)
    · exact hnot hmem
    · exact hsecrets _ hmem hkey

end Collected

/-! ### Sessions and settings -/

/-- **What stops the settings after a session.** When a session ends well, the settings blame it
exactly if nothing is left of the domain that a certificate is to be requested for, or if the
label of a subdomain was answered and is none. -/
theorem settings_blame_iff {session after : Session} {answered : List String}
    (h : session.collect = (.ok answered, after)) :
    (∃ fault, Settings.ofDocument after.store.document = .error fault ∧
        fault.Blames answered) ↔
      LacksDomain after.store.document ∨ HasBadLabel answered after.store.document := by
  have hcollected := collected_of_collectAll h
  constructor
  -- Only two of the six kinds of faults are left for a session to be blamed for.
  · rintro ⟨fault, hfault, hblames⟩
    rcases ofDocument_eq_error hfault with hmode | ⟨hlacks, -⟩ | ⟨hsettles, hexposure⟩ |
      hpassword | hpassword | hunasked
    · exact absurd hblames (hcollected.not_blames_certificateSource hmode)
    · exact .inl hlacks
    · obtain ⟨hkey, hlabel⟩ := hcollected.readLabel_of_blames hexposure hblames
      exact .inr ⟨hkey, hsettles, hlabel⟩
    · exact absurd hpassword (hcollected.requireKey_ne_error [] databasePassword _ rfl rfl
        fun _ => rfl)
    · exact absurd hpassword (hcollected.requireKey_ne_error [databasePassword]
        adminPassword _ rfl rfl fun _ => rfl)
    · exact absurd hblames (hcollected.not_blames_of_isUnasked hunasked)
  · rintro (hlacks | ⟨hkey, hsettles, reason, hlabel⟩)
    · exact ⟨_, ofDocument_of_lacksDomain hlacks, .inr (by decide)⟩
    · have hexposure : readExposure after.store.document =
          .error (.invalid "nginx.subdomain" reason) := by
        rw [readExposure, hcollected.urlMode_of_subdomain hkey]
        refine Outcome.map_eq_error.mpr (readKey_eq_error.mpr ⟨reason, hlabel, rfl⟩)
      exact ⟨_, ofDocument_of_readExposure hsettles hexposure, hkey⟩

/-- A session that is to publish the application below a label of two words. -/
def spacedLabel : Session where
  store :=
    { path := "stack.json"
      document := .object
        [("database", .object [("password", .text "db secret")]),
          ("guacamole", .object [("admin_password", .text "admin secret")]),
          ("nginx", .object [("url_mode", .text "subdomain")]),
          ("ssl", .object [("mode", .text "selfsigned")])] }
  tree := .empty
  answers := [some "a b\n"]
  shown := ""

theorem settings_blame_spacedLabel :
    ∃ after, spacedLabel.collect = (.ok ["nginx.subdomain"], after) ∧
      ∃ fault, Settings.ofDocument after.store.document = .error fault ∧
        fault.Blames ["nginx.subdomain"] := by
  have hcollect : ∃ after, spacedLabel.collect = (.ok ["nginx.subdomain"], after) ∧
      after.store.document.getTextD "nginx.subdomain" "guacamole" = "a b" ∧
      after.store.document.getTextD "ssl.mode" "selfsigned" = "selfsigned" :=
    ⟨_, rfl, rfl, rfl⟩
  obtain ⟨after, hcollect, hlabel, hmode⟩ := hcollect
  refine ⟨after, hcollect, (settings_blame_iff hcollect).mpr (.inr ⟨by decide, ?_, ?_⟩)⟩
  · have hsource : readKey after.store.document "ssl.mode" "selfsigned" CertificateSource.ofText =
        .ok .selfSigned := by
      rw [readKey_eq_ok, hmode]
      rfl
    refine ⟨⟨_, hsource⟩, fun hlacks => ?_⟩
    have hsame := hsource.symm.trans hlacks.1
    cases hsame
  · rw [hlabel]
    exact ⟨_, rfl⟩

end Prompt

end RemoteGateway
