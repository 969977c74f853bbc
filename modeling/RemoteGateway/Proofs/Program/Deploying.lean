import RemoteGateway.Proofs.Program.Stages

/-!
# How a deployment ends

A deployment that fails does so in one of its stages (`failedAt_of_deploy`). When it fails for want
of a certificate, or because the schema cannot be printed, no pair or no schema was written
(`changes_of_certificate_fault`, `changes_of_schema_fault`).

A deployment that ends well went through all its stages (`deploy_eq_ok`), and both files of the
certificate pair are there if the certificate is not requested: those from before, or two that were
issued together (`pair_of_provideCertificate`).
-/

namespace RemoteGateway.Program

open Deployment (artifactPaths pairPaths certificatePath keyPath ensureCertificate ensureSchema)
open FileTree (Changes)

variable {host : Host} {settings : Settings} {directory : String} {run next : Run}

/-! ### Faults -/

theorem changes_writeArtifacts {artifacts : Deployment.Artifacts} {result : Except Fault Unit}
    (h : writeArtifacts artifacts directory run = (result, next)) :
    Changes (artifactPaths directory) (artifactPaths directory) run.tree next.tree := by
  obtain ⟨notices, heq⟩ := writeArtifacts_eq artifacts directory run
  rw [heq] at h
  cases h
  exact Deployment.changes_writeTo artifacts directory run.tree

theorem changes_provideCertificate {result : Except Fault Unit}
    (h : provideCertificate host settings directory run = (result, next)) :
    Changes (pairPaths directory) (pairPaths directory) run.tree next.tree := by
  rcases provideCertificate_eq host settings directory run with ⟨-, heq⟩ | ⟨-, notices, heq⟩
  · rw [heq] at h
    cases h
    exact .refl _
  · rw [heq] at h
    cases h
    exact Deployment.changes_ensureCertificate host settings directory run

/-- A pair that cannot be issued is the only reason for such a fault, and changes nothing. -/
theorem tree_of_certificate_fault {fault : CertificateFault}
    (h : provideCertificate host settings directory run = (.error (.certificate fault), next)) :
    next.tree = run.tree := by
  rcases provideCertificate_eq host settings directory run with ⟨-, heq⟩ | ⟨-, notices, heq⟩
  · rw [heq] at h
    cases h
  · rw [heq, Prod.mk.injEq] at h
    obtain ⟨hfault, rfl⟩ := h
    have hensure : ensureCertificate host settings directory run =
        (.error (.certificate fault), (ensureCertificate host settings directory run).2) :=
      Prod.ext (Outcome.map_eq_error.mp hfault) rfl
    simp only [Deployment.eq_of_unissued hensure]

/-- Making sure of the schema never fails for want of a certificate. -/
theorem provideSchema_ne_certificate {fault : CertificateFault} :
    (provideSchema host settings directory run).1 ≠ .error (.certificate fault) := by
  intro h
  obtain ⟨notices, heq⟩ := provideSchema_eq host settings directory run
  rw [heq] at h
  have houtcome := Deployment.schemaOutcome host settings directory run
  rw [Outcome.map_eq_error.mp h] at houtcome
  generalize (ensureSchema host settings directory run).2 = after at houtcome
  cases houtcome with
  | unprinted _ _ hcall =>
    obtain ⟨reason, hreason⟩ := Host.fault_of_execute hcall
    cases hreason

/-- A schema that cannot be printed changes nothing. -/
theorem tree_of_schema_fault {call : List String} {fault : CommandFault}
    (h : provideSchema host settings directory run = (.error (.command call fault), next)) :
    next.tree = run.tree := by
  obtain ⟨notices, heq⟩ := provideSchema_eq host settings directory run
  rw [heq, Prod.mk.injEq] at h
  obtain ⟨hfault, rfl⟩ := h
  have hensure : ensureSchema host settings directory run =
      (.error (.command call fault), (ensureSchema host settings directory run).2) :=
    Prod.ext (Outcome.map_eq_error.mp hfault) rfl
  change (ensureSchema host settings directory run).2.tree = run.tree
  exact Deployment.tree_of_unprinted hensure

/-- Pulling images fails because of its own call. -/
theorem fault_of_pullIfAsked {pull : Bool} {fault : Fault}
    (h : pullIfAsked host directory pull run = (.error fault, next)) :
    ∃ reason, fault = .command (Host.pullCall directory) reason := by
  rw [pullIfAsked] at h
  cases pull with
  | false => cases h
  | true =>
    rw [if_pos rfl] at h
    rcases Activity.bind_eq h with ⟨fault, hpull, hfault⟩ | ⟨⟨⟩, pulled, -, h⟩
    · cases hfault
      rcases Activity.bind_eq hpull with ⟨fault, hexecute, hfault⟩ | ⟨response, after, -, h⟩
      · cases hfault
        exact Host.fault_of_execute hexecute
      · cases h
    · cases h

/-- The stage in which a deployment failed. -/
inductive FailedAt (host : Host) (prepared : Prepared) (directory : String) (pull : Bool)
    (run : Run) (fault : Fault) (next : Run) : Prop
  | artifacts (h : writeArtifacts prepared.artifacts directory run = (.error fault, next))
  | certificate {written : Run}
      (hwrite : writeArtifacts prepared.artifacts directory run = (.ok (), written))
      (h : provideCertificate host prepared.settings directory written = (.error fault, next))
  | schema {written certified : Run}
      (hwrite : writeArtifacts prepared.artifacts directory run = (.ok (), written))
      (hcertificate :
        provideCertificate host prepared.settings directory written = (.ok (), certified))
      (h : provideSchema host prepared.settings directory certified = (.error fault, next))
  | images {provided : Run}
      (h : pullIfAsked host directory pull provided = (.error fault, next))

theorem failedAt_of_deploy {prepared : Prepared} {pull : Bool} {fault : Fault}
    (h : deploy host prepared directory pull run = (.error fault, next)) :
    FailedAt host prepared directory pull run fault next := by
  rw [deploy_eq] at h
  rcases Activity.bind_eq h with ⟨_, hwrite, hfault⟩ | ⟨⟨⟩, written, hwrite, h⟩
  · cases hfault
    exact .artifacts hwrite
  rcases Activity.bind_eq h with ⟨_, hcertificate, hfault⟩ | ⟨⟨⟩, certified, hcertificate, h⟩
  · cases hfault
    exact .certificate hwrite hcertificate
  rcases Activity.bind_eq h with ⟨_, hschema, hfault⟩ | ⟨⟨⟩, provided, -, h⟩
  · cases hfault
    exact .schema hwrite hcertificate hschema
  rcases Activity.bind_eq h with ⟨_, hpull, hfault⟩ | ⟨⟨⟩, pulled, -, h⟩
  · cases hfault
    exact .images hpull
  · cases h

/-- A deployment that fails for want of a certificate has written artifacts at most. -/
theorem changes_of_certificate_fault {prepared : Prepared} {pull : Bool} {fault : CertificateFault}
    (h : deploy host prepared directory pull run = (.error (.certificate fault), next)) :
    Changes (artifactPaths directory) (artifactPaths directory) run.tree next.tree := by
  cases failedAt_of_deploy h with
  | artifacts h => exact changes_writeArtifacts h
  | certificate hwrite h =>
    rw [tree_of_certificate_fault h]
    exact changes_writeArtifacts hwrite
  -- No later stage fails in this way.
  | schema _ _ h => exact absurd (congrArg Prod.fst h) provideSchema_ne_certificate
  | images h =>
    obtain ⟨reason, hreason⟩ := fault_of_pullIfAsked h
    cases hreason

/-- A deployment that fails because the schema cannot be printed has not written it. -/
theorem changes_of_schema_fault {prepared : Prepared} {pull : Bool} {image : String}
    {fault : CommandFault}
    (h : deploy host prepared directory pull run =
      (.error (.command (Deployment.schemaCall image) fault), next)) :
    Changes (artifactPaths directory ++ pairPaths directory)
      (artifactPaths directory ++ pairPaths directory) run.tree next.tree := by
  have hartifacts : artifactPaths directory ⊆ artifactPaths directory ++ pairPaths directory :=
    List.subset_append_left _ _
  have hpair : pairPaths directory ⊆ artifactPaths directory ++ pairPaths directory :=
    List.subset_append_right _ _
  cases failedAt_of_deploy h with
  | artifacts h => exact (changes_writeArtifacts h).mono hartifacts hartifacts
  | certificate hwrite h =>
    exact ((changes_writeArtifacts hwrite).mono hartifacts hartifacts).trans
      ((changes_provideCertificate h).mono hpair hpair)
  | schema hwrite hcertificate h =>
    rw [tree_of_schema_fault h]
    exact ((changes_writeArtifacts hwrite).mono hartifacts hartifacts).trans
      ((changes_provideCertificate hcertificate).mono hpair hpair)
  | images h =>
    -- Pulling is another call.
    obtain ⟨reason, hreason⟩ := fault_of_pullIfAsked h
    simp [Deployment.schemaCall, Host.pullCall] at hreason

/-! ### Good endings -/

/-- The files of a pair were issued together. -/
def IssuedTogether (host : Host) (directory : String) (tree : FileTree) : Prop :=
  ∃ serial request pair, host.issuer serial request = some pair ∧
    tree.status (certificatePath directory) =
      .ok (.file pair.certificateText.toUTF8 Deployment.certificateMode) ∧
    tree.status (keyPath directory) = .ok (.file pair.keyText.toUTF8 Deployment.keyMode)

/-- A deployment that ends well went through all its stages. -/
theorem deploy_eq_ok {prepared : Prepared} {pull : Bool}
    (h : deploy host prepared directory pull run = (.ok (), next)) :
    ∃ written certified provided,
      writeArtifacts prepared.artifacts directory run = (.ok (), written) ∧
      provideCertificate host prepared.settings directory written = (.ok (), certified) ∧
      provideSchema host prepared.settings directory certified = (.ok (), provided) ∧
      next.tree = provided.tree := by
  rw [deploy_eq] at h
  rcases Activity.bind_eq h with ⟨_, -, hfault⟩ | ⟨⟨⟩, written, hwrite, h⟩
  · cases hfault
  rcases Activity.bind_eq h with ⟨_, -, hfault⟩ | ⟨⟨⟩, certified, hcertificate, h⟩
  · cases hfault
  rcases Activity.bind_eq h with ⟨_, -, hfault⟩ | ⟨⟨⟩, provided, hschema, h⟩
  · cases hfault
  rcases Activity.bind_eq h with ⟨_, -, hfault⟩ | ⟨⟨⟩, pulled, hpull, h⟩
  · cases hfault
  cases h
  have htree := tree_of_pullIfAsked host directory pull provided
  rw [hpull] at htree
  exact ⟨written, certified, provided, hwrite, hcertificate, hschema, htree⟩

/-- After making sure of a pair, both files are there: those from before, or two that were issued
together. -/
theorem pair_of_provideCertificate (hsource : settings.tls.source = .selfSigned)
    (h : provideCertificate host settings directory run = (.ok (), next)) :
    (next.tree = run.tree ∧ ∃ certificate key mode bits,
      run.tree.status (certificatePath directory) = .ok (.file certificate mode) ∧
      run.tree.status (keyPath directory) = .ok (.file key bits)) ∨
      IssuedTogether host directory next.tree := by
  obtain ⟨-, notices, heq⟩ := (provideCertificate_eq host settings directory run).resolve_left
    fun hrequested => by simp [hsource] at hrequested
  rw [heq, Prod.mk.injEq] at h
  obtain ⟨hresult, rfl⟩ := h
  obtain ⟨done, hdone, -⟩ := Outcome.map_eq_ok.mp hresult
  have houtcome := Deployment.certificateOutcome host settings directory run
  rw [hdone] at houtcome
  cases done with
  | true =>
    have hensure : ensureCertificate host settings directory run =
        (.ok true, (ensureCertificate host settings directory run).2) := Prod.ext hdone rfl
    obtain ⟨request, pair, -, hissue, hcertificate, hkey⟩ :=
      Deployment.pair_of_ensureCertificate hensure
    exact .inr ⟨_, request, pair, hissue, hcertificate, hkey⟩
  | false =>
    generalize hafter : (ensureCertificate host settings directory run).2 = after at houtcome
    cases houtcome with
    | present hpresent =>
      refine .inl ⟨rfl, ?_⟩
      simp only [FileTree.allPresent, pairPaths, List.all_cons, List.all_nil, Bool.and_true,
        Bool.and_eq_true] at hpresent
      obtain ⟨certificate, mode, hcertificate⟩ := FileTree.isFile_iff.mp hpresent.1
      obtain ⟨key, bits, hkey⟩ := FileTree.isFile_iff.mp hpresent.2
      exact ⟨certificate, key, mode, bits, hcertificate, hkey⟩

end RemoteGateway.Program
