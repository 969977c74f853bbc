import RemoteGateway.Proofs.Settings.Faults
import RemoteGateway.Proofs.Settings.Footprint
import RemoteGateway.Proofs.Site.BasePaths
import RemoteGateway.Proofs.Text.Numerals

/-!
# What a document has to say

The settings can be read from a document exactly when it meets a list of requirements, each of
which says what the text at one key has to be. A **requirement** says when it is met, which fault is
reported when it is not, and which keys decide that; that the fault names the key of the requirement
and that no other keys count is part of it. Some requirements are made only under a **condition**
on keys that come earlier.

The requirements are gone through in a fixed order, and the first that is not met is reported
(`enforces_ofDocument`). What the keys of later requirements say does not matter then
(`ofDocument_requirements`).
-/

namespace RemoteGateway

open Document (Value)

/-! ### Texts that are accepted -/

/-- A reader of texts, and which texts it accepts. -/
structure Grammar (α : Type) where
  read : String → Except Invalid α
  Accepts : String → Prop
  accepts_iff : ∀ text, Accepts text ↔ ∃ value, read text = .ok value

namespace Grammar

/-- The name of one of some choices. -/
def choice {α : Type} (choices : List (String × α)) : Grammar α where
  read := readChoice choices
  Accepts text := text ∈ choices.map Prod.fst
  accepts_iff text := by
    rw [readChoice]
    cases hlookup : choices.lookup text with
    | some value =>
      refine iff_of_true ?_ ⟨value, rfl⟩
      obtain ⟨before, after, rfl, -⟩ := List.lookup_eq_some_iff.mp hlookup
      simp
    | none =>
      refine iff_of_false (fun hmem => ?_) nofun
      obtain ⟨⟨name, value⟩, hchoice, rfl⟩ := List.mem_map.mp hmem
      have hne := List.lookup_eq_none_iff.mp hlookup _ hchoice
      simp at hne

def source : Grammar CertificateSource :=
  choice [("selfsigned", .selfSigned), ("letsencrypt", .letsEncrypt)]

def profile : Grammar TlsProfile :=
  choice [("modern", .modern), ("intermediate", .intermediate)]

/-- How the application is reached. -/
def exposureMode : Grammar String :=
  choice (["path", "root", "subdomain"].map fun name => (name, name))

def boolean : Grammar Bool where
  read := readBoolean
  Accepts text := text ∈ ["true", "false"]
  accepts_iff text := by
    rw [readBoolean]
    split_ifs with htrue hfalse
    · exact iff_of_true (by simp [htrue]) ⟨true, rfl⟩
    · exact iff_of_true (by simp [hfalse]) ⟨false, rfl⟩
    · exact iff_of_false (by simp [htrue, hfalse]) nofun

/-- A number of 16 bits. -/
def port : Grammar Nat where
  read := readPort
  Accepts text := Text.IsNumeral maxPort text.toList
  accepts_iff text := by
    simp only [Text.isNumeral_iff, readPort, Outcome.mapError_eq_ok]

/-- A number of 32 bits. -/
def group : Grammar Nat where
  read := readGroup
  Accepts text := Text.IsNumeral maxGroup text.toList
  accepts_iff text := by
    simp only [Text.isNumeral_iff, readGroup, Outcome.mapError_eq_ok]

/-- A text of which the core of a base path is left between the slashes. -/
def basePath : Grammar Site.BasePath where
  read text := (Site.BasePath.parse text).mapError .basePath
  Accepts text := ∃ path : Site.BasePath, Site.BasePath.coreOf text = path.core
  accepts_iff text := by
    simp only [Outcome.mapError_eq_ok]
    constructor
    · rintro ⟨path, hcore⟩
      exact ⟨path, Site.BasePath.parse_eq_ok path hcore⟩
    · rintro ⟨path, hparse⟩
      exact ⟨path, (Site.BasePath.core_of_parse hparse).symm⟩

/-- The label that a text stands for, without surrounding blanks and trailing dots. -/
def labelOf (text : String) : List Char :=
  Text.dropEndWhile (· == '.') (Text.trim text.toList)

/-- A label that is not empty and consists of the characters of host names. -/
def label : Grammar String where
  read := readLabel
  Accepts text := labelOf text ≠ [] ∧ ∀ c ∈ labelOf text, isHostChar c = true
  accepts_iff text := by
    rw [readLabel, ← labelOf, ← List.all_eq_true]
    split_ifs with hlabel
    · exact iff_of_true hlabel ⟨_, rfl⟩
    · exact iff_of_false hlabel nofun

/-- An image tag of 128 characters at most. -/
def tag : Grammar String where
  read text := if isImageTag text.toList then .ok text else .error (.imageTag text)
  Accepts text := ∃ first rest, text.toList = first :: rest ∧ isTagStart first = true ∧
    (∀ c ∈ rest, isTagPart c = true) ∧ rest.length ≤ 127
  accepts_iff text := by
    have htag : isImageTag text.toList = true ↔ ∃ first rest, text.toList = first :: rest ∧
        isTagStart first = true ∧ (∀ c ∈ rest, isTagPart c = true) ∧ rest.length ≤ 127 := by
      cases text.toList with
      | nil => exact ⟨nofun, nofun⟩
      | cons first rest => simp [isImageTag, and_assoc]
    rw [← htag]
    split_ifs with hvalid
    · exact iff_of_true hvalid ⟨text, rfl⟩
    · exact iff_of_false hvalid nofun

end Grammar

/-! ### Conditions and requirements -/

/-- Something that the texts at some keys decide. -/
structure Condition where
  keys : List String
  holds : Value → Bool
  congr : ∀ {first second}, AgreeOn first second keys → holds first = holds second

namespace Condition

/-- The text at a key, or its default, is a certain one. -/
def isText (key default text : String) : Condition where
  keys := [key]
  holds document := document.getTextD key default == text
  congr h := by rw [getTextD_congr (h key List.mem_cons_self)]

/-- There is a text at a key. -/
def isSet (key : String) : Condition where
  keys := [key]
  holds document := (document.getText? key).isSome
  congr h := by rw [h key List.mem_cons_self]

/-- There is no text at a key. -/
def isUnset (key : String) : Condition where
  keys := [key]
  holds document := (document.getText? key).isNone
  congr h := by rw [h key List.mem_cons_self]

end Condition

/-- What the text at a key has to be, and what is reported when it is not. -/
structure Requirement where
  key : String
  /-- What is said of the key when it is not met. -/
  blame : Blame
  /-- The keys that decide whether it is met. -/
  keys : List String
  Met : Value → Prop
  fault? : Value → Option ConfigFault
  met_iff : ∀ document, Met document ↔ fault? document = none
  key?_eq : ∀ {document fault}, fault? document = some fault → fault.key? = some key
  blame?_eq : ∀ {document fault}, fault? document = some fault → fault.blame? = some blame
  congr : ∀ {first second}, AgreeOn first second keys → fault? first = fault? second

namespace Requirement

variable {α : Type}

/-- The text at a key, or its default, is accepted. -/
def reads (key default : String) (grammar : Grammar α) : Requirement where
  key := key
  blame := .invalid
  keys := [key]
  Met document := grammar.Accepts (document.getTextD key default)
  fault? document := Outcome.fault? (readKey document key default grammar.read)
  met_iff document := by
    simp only [grammar.accepts_iff, Outcome.fault?_eq_none, readKey_eq_ok]
  key?_eq h := key?_of_readKey (Outcome.fault?_eq_some.mp h)
  blame?_eq h := by
    obtain ⟨reason, -, rfl⟩ := readKey_eq_error.mp (Outcome.fault?_eq_some.mp h)
    rfl
  congr h := by rw [readKey_congr (h key List.mem_cons_self)]

/-- The text at a key is accepted, if there is one. -/
def readsIfSet (key : String) (grammar : Grammar α) : Requirement where
  key := key
  blame := .invalid
  keys := [key]
  Met document := ∀ text, document.getText? key = some text → grammar.Accepts text
  fault? document := (document.getText? key).bind fun text =>
    Outcome.fault? ((grammar.read text).mapError (.invalid key))
  met_iff document := by
    simp only [grammar.accepts_iff, Option.bind_eq_none_iff, Outcome.fault?_eq_none,
      Outcome.mapError_eq_ok]
  key?_eq h := by
    obtain ⟨text, -, hfault⟩ := Option.bind_eq_some_iff.mp h
    obtain ⟨reason, -, rfl⟩ := Outcome.mapError_eq_error.mp (Outcome.fault?_eq_some.mp hfault)
    rfl
  blame?_eq h := by
    obtain ⟨text, -, hfault⟩ := Option.bind_eq_some_iff.mp h
    obtain ⟨reason, -, rfl⟩ := Outcome.mapError_eq_error.mp (Outcome.fault?_eq_some.mp hfault)
    rfl
  congr h := by rw [h key List.mem_cons_self]

/-- There is a text at a key, of which something is left when it is cleaned. -/
def has (key : String) (clean : String → Option α) : Requirement where
  key := key
  blame := .missing
  keys := [key]
  Met document := ∃ text value, document.getText? key = some text ∧ clean text = some value
  fault? document :=
    if ((document.getText? key).bind clean).isSome then none else some (.missing key)
  met_iff document := by
    rw [ite_eq_left_iff, Option.isSome_iff_exists]
    simp only [Option.bind_eq_some_iff, reduceCtorEq, imp_false, Classical.not_not]
    exact exists_comm
  key?_eq h := by
    split_ifs at h
    cases h
    rfl
  blame?_eq h := by
    split_ifs at h
    cases h
    rfl
  congr h := by rw [h key List.mem_cons_self]

/-- A requirement that is made only under a condition. -/
def onlyIf (requirement : Requirement) (condition : Condition) : Requirement where
  key := requirement.key
  blame := requirement.blame
  keys := condition.keys ++ requirement.keys
  Met document := condition.holds document = true → requirement.Met document
  fault? document := if condition.holds document then requirement.fault? document else none
  met_iff document := by
    rw [requirement.met_iff]
    split_ifs with hholds
    · exact ⟨fun h => h hholds, fun h _ => h⟩
    · exact iff_of_true (fun h => absurd h hholds) rfl
  key?_eq h := by
    split_ifs at h
    exact requirement.key?_eq h
  blame?_eq h := by
    split_ifs at h
    exact requirement.blame?_eq h
  congr h := by
    rw [condition.congr (h.mono (List.subset_append_left _ _)),
      requirement.congr (h.mono (List.subset_append_right _ _))]

variable {document : Value}

theorem fault?_reads (key default : String) (grammar : Grammar α) :
    (reads key default grammar).fault? document =
      Outcome.fault? (readKey document key default grammar.read) := rfl

theorem fault?_readsIfSet (key : String) (grammar : Grammar α) :
    (readsIfSet key grammar).fault? document = (document.getText? key).bind fun text =>
      Outcome.fault? ((grammar.read text).mapError (.invalid key)) := rfl

theorem fault?_has (key : String) (clean : String → Option α) :
    (has key clean).fault? document =
      if ((document.getText? key).bind clean).isSome then none else some (.missing key) := rfl

theorem fault?_onlyIf (requirement : Requirement) (condition : Condition) :
    (requirement.onlyIf condition).fault? document =
      if condition.holds document then requirement.fault? document else none := rfl

end Requirement

/-! ### The requirements, in order -/

/-- What is required for the exposure. -/
def exposureRequirements : List Requirement :=
  [.reads "nginx.url_mode" "path" .exposureMode,
    (Requirement.reads "nginx.base_path" Site.applicationPath .basePath).onlyIf
      (.isText "nginx.url_mode" "path" "path"),
    (Requirement.reads "nginx.subdomain" "guacamole" .label).onlyIf
      (.isText "nginx.url_mode" "path" "subdomain")]

/-- What is required for the images. -/
def imageRequirements : List Requirement :=
  Component.all.map fun component => .readsIfSet ("versions." ++ component.key) .tag

/-- What is required for a vault that is enabled. -/
def vaultRequirements : List Requirement :=
  [(Requirement.has "vault.secret_id" some).onlyIf (.isSet "vault.role_id"),
    (Requirement.has "vault.token" some).onlyIf (.isUnset "vault.role_id"),
    Requirement.has "vault.addr" some]

/-- All that is required of a document, in the order in which it is looked at. -/
def requirements : List Requirement :=
  [.reads "ssl.mode" "selfsigned" .source,
    (Requirement.has "ssl.domain" cleanDomain).onlyIf
      (.isText "ssl.mode" "selfsigned" "letsencrypt")] ++
  exposureRequirements ++
  [.readsIfSet "docker.gid" .group, .reads "database.port" "5432" .port,
    Requirement.has "database.password" some, Requirement.has "guacamole.admin_password" some,
    .reads "ssl.profile" "intermediate" .profile, .reads "ssl.staging" "false" .boolean,
    .reads "nginx.http_port" "80" .port, .reads "nginx.https_port" "443" .port] ++
  imageRequirements ++
  .reads "vault.enabled" "false" .boolean ::
    vaultRequirements.map (·.onlyIf (.isText "vault.enabled" "false" "true"))

example : (requirements.map fun requirement => (requirement.key, requirement.blame)) =
    [("ssl.mode", .invalid), ("ssl.domain", .missing), ("nginx.url_mode", .invalid),
      ("nginx.base_path", .invalid), ("nginx.subdomain", .invalid), ("docker.gid", .invalid),
      ("database.port", .invalid), ("database.password", .missing),
      ("guacamole.admin_password", .missing), ("ssl.profile", .invalid), ("ssl.staging", .invalid),
      ("nginx.http_port", .invalid), ("nginx.https_port", .invalid),
      ("versions.postgres", .invalid), ("versions.guacd", .invalid),
      ("versions.guacamole", .invalid), ("versions.broker", .invalid),
      ("versions.nginx", .invalid), ("versions.certbot", .invalid), ("vault.enabled", .invalid),
      ("vault.secret_id", .missing), ("vault.token", .missing), ("vault.addr", .missing)] := rfl

/-! ### Gone through in order -/

variable {document first second : Value}

/-- The fault of the first of some requirements that a document does not meet. -/
def firstFault? (requirements : List Requirement) (document : Value) : Option ConfigFault :=
  (requirements.map fun requirement => requirement.fault? document).findSome? id

theorem firstFault?_nil : firstFault? [] document = none := rfl

theorem firstFault?_append (before after : List Requirement) :
    firstFault? (before ++ after) document =
      (firstFault? before document).or (firstFault? after document) := by
  rw [firstFault?, List.map_append, List.findSome?_append, firstFault?, firstFault?]

theorem firstFault?_cons (requirement : Requirement) (rest : List Requirement) :
    firstFault? (requirement :: rest) document =
      (requirement.fault? document).or (firstFault? rest document) := by
  rw [← List.singleton_append, firstFault?_append, firstFault?, List.map_singleton,
    List.findSome?_singleton, id]

theorem firstFault?_eq_none {requirements : List Requirement} :
    firstFault? requirements document = none ↔
      ∀ requirement ∈ requirements, requirement.Met document := by
  simp only [firstFault?, List.findSome?_eq_none_iff, List.forall_mem_map, Requirement.met_iff, id]

/-- Requirements under the same condition count together or not at all. -/
theorem firstFault?_onlyIf (requirements : List Requirement) (condition : Condition) :
    firstFault? (requirements.map (·.onlyIf condition)) document =
      if condition.holds document then firstFault? requirements document else none := by
  induction requirements with
  | nil => exact (ite_self _).symm
  | cons requirement rest ih =>
    rw [List.map_cons, firstFault?_cons, ih, Requirement.fault?_onlyIf, firstFault?_cons]
    split_ifs
    · rfl
    · rfl

/-- A reading fails with the fault of the first requirement that is not met, and only then. -/
def Enforces {α : Type} (requirements : List Requirement) (document : Value)
    (result : Except ConfigFault α) : Prop :=
  Outcome.FailsFirst (requirements.map fun requirement => requirement.fault? document) result

namespace Enforces

variable {α β : Type} {requirement : Requirement} {requirements more : List Requirement}
  {step : Except ConfigFault α} {next : α → Except ConfigFault β}

theorem bind (hstep : Enforces requirements document step)
    (hnext : ∀ value, step = .ok value → Enforces more document (next value)) :
    Enforces (requirements ++ more) document (step >>= next) := by
  rw [Enforces, List.map_append]
  exact Outcome.FailsFirst.bind hstep hnext

/-- A step that enforces one requirement. -/
theorem cons (hstep : Outcome.fault? step = requirement.fault? document)
    (hnext : ∀ value, step = .ok value → Enforces more document (next value)) :
    Enforces (requirement :: more) document (step >>= next) :=
  Outcome.FailsFirst.cons hstep hnext

/-- A check that enforces one requirement. -/
theorem guard {condition : Prop} [Decidable condition] {fault : ConfigFault}
    {rest : Except ConfigFault α}
    (hfault : requirement.fault? document = if condition then some fault else none)
    (hrest : ¬ condition → Enforces more document rest) :
    Enforces (requirement :: more) document (if condition then .error fault else rest) := by
  rw [Enforces, List.map_cons, hfault, Outcome.FailsFirst]
  split_ifs with hcondition
  · rfl
  · exact hrest hcondition

end Enforces

/-- Of the three modes, at most one has a key of its own. -/
theorem enforces_readExposure (document : Value) :
    Enforces exposureRequirements document (readExposure document) := by
  have hmode : (Requirement.reads "nginx.url_mode" "path" .exposureMode).fault? document =
      if document.getTextD "nginx.url_mode" "path" ∈ ["path", "root", "subdomain"] then none
      else some (.invalid "nginx.url_mode" (.notAmong ["path", "root", "subdomain"]
        (document.getTextD "nginx.url_mode" "path"))) := by
    split_ifs with hmem
    · exact (Requirement.met_iff _ document).mp hmem
    · have hlookup : (["path", "root", "subdomain"].map fun name => (name, name)).lookup
          (document.getTextD "nginx.url_mode" "path") = none := by
        refine List.lookup_eq_none_iff.mpr fun choice hchoice => ?_
        obtain ⟨name, hname, rfl⟩ := List.mem_map.mp hchoice
        exact bne_iff_ne.mpr fun heq => hmem (heq ▸ hname)
      simp only [Requirement.fault?_reads, readKey, Grammar.exposureMode, Grammar.choice,
        readChoice, hlookup]
      rfl
  change Outcome.fault? _ = firstFault? exposureRequirements document
  rw [exposureRequirements]
  simp only [firstFault?_cons, firstFault?_nil, Requirement.fault?_onlyIf, Condition.isText, hmode,
    Option.or_none]
  rw [readExposure]
  split
  · next hpath =>
    simp only [hpath, Outcome.fault?_map]
    rw [if_pos (by decide), if_pos (by decide), if_neg (by decide), Option.none_or, Option.or_none,
      Requirement.fault?_reads, Grammar.basePath]
  · next hroot =>
    simp only [hroot]
    rfl
  · next hsubdomain =>
    simp only [hsubdomain, Outcome.fault?_map]
    rw [if_pos (by decide), if_neg (by decide), if_pos (by decide), Option.none_or, Option.none_or,
      Requirement.fault?_reads, Grammar.label]
  · next hpath hroot hsubdomain =>
    have hmem : ¬ document.getTextD "nginx.url_mode" "path" ∈ ["path", "root", "subdomain"] := by
      simp only [List.mem_cons, List.not_mem_nil, or_false]
      rintro (h | h | h)
      · exact hpath h
      · exact hroot h
      · exact hsubdomain h
    rw [if_neg hmem]
    rfl

theorem fault?_readRuntimeGroup (document : Value) :
    Outcome.fault? (readRuntimeGroup document) =
      (Requirement.readsIfSet "docker.gid" .group).fault? document := by
  rw [readRuntimeGroup, Requirement.fault?_readsIfSet]
  cases document.getText? "docker.gid" with
  | none => rfl
  | some text => exact Outcome.fault?_map _ _

theorem fault?_readImage (document : Value) (component : Component) :
    Outcome.fault? (readImage document component) =
      (Requirement.readsIfSet ("versions." ++ component.key) .tag).fault? document := by
  simp only [readImage, Requirement.fault?_readsIfSet, Grammar.tag]
  cases document.getText? ("versions." ++ component.key) with
  | none => rfl
  | some tag =>
    cases htag : isImageTag tag.toList with
    | true => simp [Option.filter, htag, Except.mapError, Outcome.fault?]
    | false => simp [Option.filter, htag, Except.mapError, Outcome.fault?]

theorem enforces_readImages (document : Value) :
    Enforces imageRequirements document (readImages document) := by
  change Enforces [_, _, _, _, _, _] document _
  refine .cons (fault?_readImage document .postgres) fun _ _ => ?_
  refine .cons (fault?_readImage document .guacd) fun _ _ => ?_
  refine .cons (fault?_readImage document .guacamole) fun _ _ => ?_
  refine .cons (fault?_readImage document .broker) fun _ _ => ?_
  refine .cons (fault?_readImage document .nginx) fun _ _ => ?_
  exact .cons (fault?_readImage document .certbot) fun _ _ => rfl

theorem fault?_requireKey (document : Value) (key : String) :
    Outcome.fault? (requireKey document key) = (Requirement.has key some).fault? document := by
  rw [requireKey, Requirement.fault?_has]
  cases document.getText? key with
  | none => rfl
  | some text => rfl

/-- A vault that is not enabled is not looked at. -/
theorem enforces_readVault (document : Value) :
    Enforces (.reads "vault.enabled" "false" .boolean ::
      vaultRequirements.map (·.onlyIf (.isText "vault.enabled" "false" "true"))) document
      (readVault document) := by
  refine .cons rfl fun enabled henabled => ?_
  have henables : (Condition.isText "vault.enabled" "false" "true").holds document = enabled := by
    have hread : readBoolean (document.getTextD "vault.enabled" "false") = .ok enabled :=
      readKey_eq_ok.mp henabled
    simp only [Condition.isText]
    generalize document.getTextD "vault.enabled" "false" = text at hread ⊢
    rw [readBoolean] at hread
    split_ifs at hread with htrue hfalse
    · cases hread
      rw [htrue]
      rfl
    · cases hread
      rw [hfalse]
      rfl
  change Outcome.fault? _ = firstFault? (vaultRequirements.map _) document
  rw [firstFault?_onlyIf, henables]
  cases enabled with
  | false => rfl
  | true =>
    have hauth : Enforces (vaultRequirements.take 2) document (readVaultAuth document) := by
      change Outcome.fault? _ = firstFault? (vaultRequirements.take 2) document
      rw [readVaultAuth]
      simp only [vaultRequirements, List.take_succ_cons, List.take_zero, firstFault?_cons,
        firstFault?_nil, Option.or_none, Requirement.fault?_onlyIf, Condition.isSet,
        Condition.isUnset, Requirement.fault?_has]
      split
      · next role secret hrole hsecret =>
        simp only [hrole, hsecret]
        rfl
      · next role hrole hsecret =>
        simp only [hrole, hsecret]
        rfl
      · next hrole =>
        simp only [hrole, Outcome.fault?_map, fault?_requireKey, Requirement.fault?_has]
        cases document.getText? "vault.token" with
        | none => rfl
        | some token => rfl
    exact hauth.bind fun auth _ => .cons (fault?_requireKey document "vault.addr") fun _ _ => rfl

/-- A source is read from its name. -/
theorem name_of_ofText {text : String} {source : CertificateSource}
    (h : CertificateSource.ofText text = .ok source) : text = source.name := by
  have hmem : text ∈ ["selfsigned", "letsencrypt"] :=
    (Grammar.source.accepts_iff text).mpr ⟨source, h⟩
  simp only [List.mem_cons, List.not_mem_nil, or_false] at hmem
  rcases hmem with rfl | rfl
  · cases h
    rfl
  · cases h
    rfl

/-- A domain is required for a certificate that is requested. -/
theorem fault?_domain {source : CertificateSource}
    (h : readKey document "ssl.mode" "selfsigned" CertificateSource.ofText = .ok source) :
    ((Requirement.has "ssl.domain" cleanDomain).onlyIf
      (.isText "ssl.mode" "selfsigned" "letsencrypt")).fault? document =
      if source = .letsEncrypt ∧ (document.getText? "ssl.domain").bind cleanDomain = none then
        some (.missing "ssl.domain") else none := by
  have hname := name_of_ofText (readKey_eq_ok.mp h)
  simp only [Requirement.fault?_onlyIf, Requirement.fault?_has, Condition.isText, hname]
  cases source with
  | selfSigned => rfl
  | letsEncrypt =>
    cases (document.getText? "ssl.domain").bind cleanDomain with
    | none => rfl
    | some domain => rfl

/-- **A document is refused for the first requirement that it does not meet.** -/
theorem enforces_ofDocument (document : Value) :
    Enforces requirements document (Settings.ofDocument document) := by
  refine .cons rfl fun source hsource => ?_
  refine .guard (fault?_domain hsource) fun _ => ?_
  refine (enforces_readExposure document).bind fun exposure _ => ?_
  refine .cons (fault?_readRuntimeGroup document) fun _ _ => ?_
  refine .cons rfl fun _ _ => ?_
  refine .cons (fault?_requireKey document _) fun _ _ => ?_
  refine .cons (fault?_requireKey document _) fun _ _ => ?_
  refine .cons rfl fun _ _ => ?_
  refine .cons rfl fun _ _ => ?_
  refine .cons rfl fun _ _ => ?_
  refine .cons rfl fun _ _ => ?_
  refine (enforces_readImages document).bind fun images _ => ?_
  exact Outcome.FailsFirst.bind_pure (enforces_readVault document) _

/-- Of documents that agree on the keys of some requirements, each meets the same ones. -/
theorem firstFault?_congr {requirements : List Requirement}
    (h : AgreeOn first second (requirements.flatMap Requirement.keys)) :
    firstFault? requirements first = firstFault? requirements second := by
  induction requirements with
  | nil => rfl
  | cons requirement rest ih =>
    rw [List.flatMap_cons] at h
    rw [firstFault?_cons, firstFault?_cons,
      requirement.congr (h.mono (List.subset_append_left _ _)),
      ih (h.mono (List.subset_append_right _ _))]

/-- **Which documents the settings can be read from, and why not from the others.** They can be
read exactly when all requirements are met. Otherwise the fault is that of the first one that is not
met: it names its key, as one without a value or with one that is refused. Every document that
agrees on the keys up to that one is refused for the same reason. -/
theorem ofDocument_requirements (document : Value) :
    ((∃ settings, Settings.ofDocument document = .ok settings) ↔
      ∀ requirement ∈ requirements, requirement.Met document) ∧
    ∀ before requirement after, requirements = before ++ requirement :: after →
      (∀ earlier ∈ before, earlier.Met document) → ¬ requirement.Met document →
      ∃ fault : ConfigFault, requirement.fault? document = some fault ∧
        fault.key? = some requirement.key ∧ fault.blame? = some requirement.blame ∧
        ∀ other, AgreeOn document other ((before ++ [requirement]).flatMap Requirement.keys) →
          Settings.ofDocument other = .error fault := by
  constructor
  · have hall : Outcome.fault? (Settings.ofDocument document) =
        firstFault? requirements document := enforces_ofDocument document
    rw [← Outcome.fault?_eq_none, ← firstFault?_eq_none, hall]
  · intro before requirement after heq hbefore hunmet
    obtain ⟨fault, hfault⟩ :=
      Option.ne_none_iff_exists'.mp (mt (requirement.met_iff document).mpr hunmet)
    refine ⟨fault, hfault, requirement.key?_eq hfault, requirement.blame?_eq hfault,
      fun other hagree => ?_⟩
    -- The requirements up to this one decide, also in the other document.
    have hother : firstFault? (before ++ [requirement]) other = some fault := by
      rw [← firstFault?_congr hagree, firstFault?_append, firstFault?_eq_none.mpr hbefore,
        Option.none_or, firstFault?_cons, hfault, Option.some_or]
    have hall : Outcome.fault? (Settings.ofDocument other) = firstFault? requirements other :=
      enforces_ofDocument other
    rw [heq, ← List.singleton_append, ← List.append_assoc, firstFault?_append, hother,
      Option.some_or] at hall
    exact Outcome.fault?_eq_some.mp hall

/-- The sample site with a profile and a port that are none. -/
def unacceptableDocument : Value :=
  (Sample.document.store (.text "old") (Document.segments "ssl.profile")).store (.text "http")
    (Document.segments "nginx.http_port")

/-- The profile is blamed for what it is, and not the port, which comes later. -/
theorem ofDocument_unacceptableDocument :
    ∃ fault : ConfigFault, fault.key? = some "ssl.profile" ∧ fault.blame? = some .invalid ∧
      Settings.ofDocument unacceptableDocument = .error fault := by
  have hbefore : firstFault? (requirements.take 9) unacceptableDocument = none := by
    decide +kernel
  have hunmet : ¬ (Requirement.reads "ssl.profile" "intermediate" .profile).Met
      unacceptableDocument := by
    intro hmet
    cases (Requirement.met_iff _ _).mp hmet
  obtain ⟨-, hfirst⟩ := ofDocument_requirements unacceptableDocument
  obtain ⟨fault, -, hkey, hblame, hrefused⟩ := hfirst (requirements.take 9)
    (.reads "ssl.profile" "intermediate" .profile) (requirements.drop 10) rfl
    (firstFault?_eq_none.mp hbefore) hunmet
  exact ⟨fault, hkey, hblame, hrefused unacceptableDocument fun _ _ => rfl⟩

end RemoteGateway
