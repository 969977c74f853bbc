import RemoteGateway.Proofs.Outcome
import RemoteGateway.Settings.Reader

/-!
# What is wrong with a document

Every fault of a document names the key that is to blame. This module says which keys the
reading of the settings can blame, and for those that a session asks for also why
(`ofDocument_eq_error`).
-/

namespace RemoteGateway

open Document (Value)

/-- The key that a fault of a document names. -/
def ConfigFault.key? : ConfigFault → Option String
  | unreadable .. => none
  | missing key => some key
  | invalid key _ => some key

/-- What a fault says of the key that it names: nothing is there, or what is there is refused. -/
inductive Blame where
  | missing
  | invalid

/-- What a fault of a document says of its key. -/
def ConfigFault.blame? : ConfigFault → Option Blame
  | unreadable .. => none
  | missing _ => some .missing
  | invalid .. => some .invalid

variable {document : Value} {fault : ConfigFault}

/-! ### Single keys -/

section

variable {α : Type} {key default : String} {read : String → Except Invalid α}

theorem readKey_eq_ok {value : α} :
    readKey document key default read = .ok value ↔
      read (document.getTextD key default) = .ok value := by
  rw [readKey, Outcome.mapError_eq_ok]

/-- A key is blamed when its text is refused. -/
theorem readKey_eq_error :
    readKey document key default read = .error fault ↔
      ∃ reason, read (document.getTextD key default) = .error reason ∧
        fault = .invalid key reason := by
  rw [readKey, Outcome.mapError_eq_error]
  constructor
  · rintro ⟨reason, h, rfl⟩
    exact ⟨reason, h, rfl⟩
  · rintro ⟨reason, h, rfl⟩
    exact ⟨reason, h, rfl⟩

theorem key?_of_readKey (h : readKey document key default read = .error fault) :
    fault.key? = some key := by
  obtain ⟨reason, -, rfl⟩ := readKey_eq_error.mp h
  rfl

/-- A key without a default is blamed when it has no text. -/
theorem requireKey_eq_error :
    requireKey document key = .error fault ↔
      document.getText? key = none ∧ fault = .missing key := by
  rw [requireKey]
  cases document.getText? key with
  | some text => exact ⟨fun h => (by cases h), fun h => (by cases h.1)⟩
  | none =>
    constructor
    · intro h
      cases h
      exact ⟨rfl, rfl⟩
    · rintro ⟨-, rfl⟩
      rfl

theorem key?_of_requireKey (h : requireKey document key = .error fault) :
    fault.key? = some key := by
  obtain ⟨-, rfl⟩ := requireKey_eq_error.mp h
  rfl

end

/-! ### Keys that no session asks for -/

/-- The keys that can be blamed although no session asks for them. -/
def unaskedKeys : List String :=
  ["docker.gid", "database.port", "ssl.profile", "ssl.staging", "nginx.http_port",
    "nginx.https_port", "versions.postgres", "versions.guacd", "versions.guacamole",
    "versions.broker", "versions.nginx", "versions.certbot", "vault.enabled", "vault.secret_id",
    "vault.token", "vault.addr"]

/-- A fault names some key that no session asks for. -/
def ConfigFault.IsUnasked (fault : ConfigFault) : Prop :=
  ∃ key ∈ unaskedKeys, fault.key? = some key

theorem isUnasked_of_readRuntimeGroup (h : readRuntimeGroup document = .error fault) :
    fault.IsUnasked := by
  rw [readRuntimeGroup] at h
  split at h
  · cases h
  · rw [Outcome.map_eq_error, Outcome.mapError_eq_error] at h
    obtain ⟨reason, -, rfl⟩ := h
    exact ⟨"docker.gid", by decide, rfl⟩

theorem key?_of_readImage {component : Component}
    (h : readImage document component = .error fault) :
    fault.key? = some ("versions." ++ component.key) := by
  rw [readImage] at h
  split at h
  · cases h
    rfl
  · cases h

theorem isUnasked_of_readImages (h : readImages document = .error fault) : fault.IsUnasked := by
  have himage : ∀ component, readImage document component = .error fault →
      fault.IsUnasked := by
    intro component h
    refine ⟨"versions." ++ component.key, ?_, key?_of_readImage h⟩
    cases component <;> decide
  rcases Outcome.bind_eq_error.mp h with h | ⟨_, -, h⟩
  · exact himage _ h
  rcases Outcome.bind_eq_error.mp h with h | ⟨_, -, h⟩
  · exact himage _ h
  rcases Outcome.bind_eq_error.mp h with h | ⟨_, -, h⟩
  · exact himage _ h
  rcases Outcome.bind_eq_error.mp h with h | ⟨_, -, h⟩
  · exact himage _ h
  rcases Outcome.bind_eq_error.mp h with h | ⟨_, -, h⟩
  · exact himage _ h
  rcases Outcome.bind_eq_error.mp h with h | ⟨_, -, h⟩
  · exact himage _ h
  cases h

theorem isUnasked_of_readVault (h : readVault document = .error fault) : fault.IsUnasked := by
  rcases Outcome.bind_eq_error.mp h with h | ⟨enabled, -, h⟩
  · exact ⟨"vault.enabled", by decide, key?_of_readKey h⟩
  · split at h
    · rcases Outcome.bind_eq_error.mp h with h | ⟨auth, -, h⟩
      · rw [readVaultAuth] at h
        split at h
        · cases h
        · cases h
          exact ⟨"vault.secret_id", by decide, rfl⟩
        · rw [Outcome.map_eq_error] at h
          exact ⟨"vault.token", by decide, key?_of_requireKey h⟩
      · rcases Outcome.bind_eq_error.mp h with h | ⟨address, -, h⟩
        · exact ⟨"vault.addr", by decide, key?_of_requireKey h⟩
        · cases h
    · cases h

/-! ### The domain and the exposure -/

/-- A certificate is to be requested, but the document leaves no domain to request it for. -/
def LacksDomain (document : Value) : Prop :=
  readKey document "ssl.mode" "selfsigned" CertificateSource.ofText = .ok .letsEncrypt ∧
    (document.getText? "ssl.domain").bind cleanDomain = none

/-- The document says where the certificate comes from, and a domain if one is needed. -/
def SettlesDomain (document : Value) : Prop :=
  (∃ source, readKey document "ssl.mode" "selfsigned" CertificateSource.ofText = .ok source) ∧
    ¬ LacksDomain document

theorem ofDocument_of_lacksDomain (h : LacksDomain document) :
    Settings.ofDocument document = .error (.missing "ssl.domain") := by
  rw [Settings.ofDocument, h.1, h.2]
  rfl

theorem ofDocument_of_readExposure (hsettles : SettlesDomain document)
    (h : readExposure document = .error fault) : Settings.ofDocument document = .error fault := by
  obtain ⟨⟨source, hsource⟩, hdomain⟩ := hsettles
  have hne : ¬ (source = .letsEncrypt ∧
      (document.getText? "ssl.domain").bind cleanDomain = none) :=
    fun hlacks => hdomain ⟨by rw [hsource, hlacks.1], hlacks.2⟩
  rw [Settings.ofDocument, hsource, h]
  change (if source = .letsEncrypt ∧ _ then _ else _) = _
  rw [if_neg hne]
  rfl

/-- **What is wrong with a document.** Either the mode of the certificate, the domain or the
exposure is at fault, or a password is missing, or the fault is at a key that no session asks
for. -/
theorem ofDocument_eq_error (h : Settings.ofDocument document = .error fault) :
    readKey document "ssl.mode" "selfsigned" CertificateSource.ofText = .error fault ∨
      (LacksDomain document ∧ fault = .missing "ssl.domain") ∨
      (SettlesDomain document ∧ readExposure document = .error fault) ∨
      requireKey document "database.password" = .error fault ∨
      requireKey document "guacamole.admin_password" = .error fault ∨ fault.IsUnasked := by
  have unasked : ∀ {key : String}, key ∈ unaskedKeys → fault.key? = some key → fault.IsUnasked :=
    fun hmem hkey => ⟨_, hmem, hkey⟩
  -- The readers are gone through in order, and the first one that fails decides.
  rcases Outcome.bind_eq_error.mp h with h | ⟨source, hsource, h⟩
  · exact .inl h
  dsimp only at h
  split at h
  · next hlacks =>
    cases h
    exact .inr (.inl ⟨⟨by rw [hsource, hlacks.1], hlacks.2⟩, rfl⟩)
  next hdomain =>
  have hsettles : SettlesDomain document := by
    refine ⟨⟨source, hsource⟩, fun hlacks => hdomain ⟨?_, hlacks.2⟩⟩
    have hmode := hsource.symm.trans hlacks.1
    cases hmode
    rfl
  refine .inr (.inr ?_)
  rcases Outcome.bind_eq_error.mp h with h | ⟨_, -, h⟩
  · exact .inl ⟨hsettles, h⟩
  refine .inr ?_
  rcases Outcome.bind_eq_error.mp h with h | ⟨_, -, h⟩
  · exact .inr (.inr (isUnasked_of_readRuntimeGroup h))
  rcases Outcome.bind_eq_error.mp h with h | ⟨_, -, h⟩
  · exact .inr (.inr (unasked (by decide) (key?_of_readKey h)))
  rcases Outcome.bind_eq_error.mp h with h | ⟨_, -, h⟩
  · exact .inl h
  refine .inr ?_
  rcases Outcome.bind_eq_error.mp h with h | ⟨_, -, h⟩
  · exact .inl h
  refine .inr ?_
  rcases Outcome.bind_eq_error.mp h with h | ⟨_, -, h⟩
  · exact unasked (by decide) (key?_of_readKey h)
  rcases Outcome.bind_eq_error.mp h with h | ⟨_, -, h⟩
  · exact unasked (by decide) (key?_of_readKey h)
  rcases Outcome.bind_eq_error.mp h with h | ⟨_, -, h⟩
  · exact unasked (by decide) (key?_of_readKey h)
  rcases Outcome.bind_eq_error.mp h with h | ⟨_, -, h⟩
  · exact unasked (by decide) (key?_of_readKey h)
  rcases Outcome.bind_eq_error.mp h with h | ⟨_, -, h⟩
  · exact isUnasked_of_readImages h
  rcases Outcome.bind_eq_error.mp h with h | ⟨_, -, h⟩
  · exact isUnasked_of_readVault h
  cases h

end RemoteGateway
