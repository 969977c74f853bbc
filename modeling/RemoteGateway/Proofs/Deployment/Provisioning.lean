import RemoteGateway.Proofs.Deployment.Outputs
import RemoteGateway.Proofs.Host.Calling

/-!
# Files that are made once

The certificate pair is left alone when both its files are there, and otherwise made as a whole:
when that was done, both files belong to one pair that was issued for the names of the site
(`certificateOutcome`). The schema is left alone when it is there, and otherwise made of what the
program in the application's image prints (`schemaOutcome`). Neither touches any other file, and
as long as there is no pair, or no schema, to be written, nothing changes at all.
-/

namespace RemoteGateway.Deployment

open FileTree

variable {host : Host} {settings : Settings} {directory : String} {run after : Run}

/-! ### Writing a pair -/

theorem namesOf_certificatePath_ne (directory : String) :
    namesOf (certificatePath directory) ≠ namesOf (keyPath directory) := by
  have hapart := (List.pairwise_append.mp (writtenPaths_apart directory)).2.1
  exact (List.pairwise_cons.mp hapart).1 _ (by simp)

/-- However the writing of a pair ends, nothing but its two files changes. -/
theorem perform_pairSteps {tree final : FileTree} {pair : Certificate.Pair}
    {result : Except FileTree.Fault Unit}
    (h : tree.perform (pairSteps directory pair) = (result, final)) :
    Changes (pairPaths directory) (pairPaths directory) tree final ∧
      (result = .ok () →
        final.status (certificatePath directory) =
            .ok (.file pair.certificateText.toUTF8 certificateMode) ∧
          final.status (keyPath directory) = .ok (.file pair.keyText.toUTF8 keyMode)) := by
  have hfirst : [certificatePath directory] ⊆ pairPaths directory := by simp [pairPaths]
  have hsecond : [keyPath directory] ⊆ pairPaths directory := by simp [pairPaths]
  rw [pairSteps, perform_append] at h
  rcases hcertificate : tree.perform (writePrivate (certificatePath directory)
    pair.certificateText.toUTF8 certificateMode) with ⟨fault | ⟨⟩, next⟩
  · obtain ⟨hchanges, -⟩ :=
      perform_writePrivate hcertificate
    rw [hcertificate] at h
    cases h
    exact ⟨hchanges.mono hfirst hfirst, fun hok => by cases hok⟩
  · obtain ⟨hchanges, hstatus⟩ :=
      perform_writePrivate hcertificate
    rw [hcertificate] at h
    obtain ⟨hkey, hkeyStatus⟩ := perform_writePrivate h
    refine ⟨(hchanges.mono hfirst hfirst).trans (hkey.mono hsecond hsecond), fun hok => ?_⟩
    -- Writing the key leaves the certificate alone.
    refine ⟨hkey.status_eq (fun other hother => ?_) (hstatus rfl), hkeyStatus hok⟩
    rw [List.mem_singleton.mp hother]
    exact (namesOf_certificatePath_ne directory).symm

/-! ### Making sure of a pair -/

/-- How making sure of a pair ends, and what it leaves. -/
inductive CertificateOutcome (host : Host) (settings : Settings) (directory : String) (run : Run) :
    Except Fault Bool → Run → Prop
  | present (h : run.tree.allPresent (pairPaths directory) = true) :
      CertificateOutcome host settings directory run (.ok false) run
  | unissued (h : run.tree.allPresent (pairPaths directory) = false)
      (fault : CertificateFault) :
      CertificateOutcome host settings directory run (.error (.certificate fault)) run
  | unwritten {pair : Certificate.Pair} {fault : FileTree.Fault} {tree : FileTree}
      (h : run.tree.allPresent (pairPaths directory) = false)
      (hperform : run.tree.perform (pairSteps directory pair) = (.error fault, tree)) :
      CertificateOutcome host settings directory run (.error (.io (.file fault)))
        { run with tree, issued := run.issued + 1 }
  | made {request : Certificate.Request} {pair : Certificate.Pair} {tree : FileTree}
      (h : run.tree.allPresent (pairPaths directory) = false)
      (hrequest : Certificate.Request.ofSettings settings = .ok request)
      (hissue : host.issuer run.issued request = some pair)
      (hperform : run.tree.perform (pairSteps directory pair) = (.ok (), tree)) :
      CertificateOutcome host settings directory run (.ok true)
        { run with tree, issued := run.issued + 1 }

theorem certificateOutcome (host : Host) (settings : Settings) (directory : String) (run : Run) :
    CertificateOutcome host settings directory run
      (ensureCertificate host settings directory run).1
      (ensureCertificate host settings directory run).2 := by
  have hget : (get : Activity Run) run = (.ok run, run) := rfl
  rw [ensureCertificate, Activity.bind_of_ok hget]
  cases hpresent : run.tree.allPresent (pairPaths directory) with
  | true =>
    rw [pairPaths] at hpresent
    simp only [hpresent, if_true]
    exact .present hpresent
  | false =>
    rw [pairPaths] at hpresent
    simp only [hpresent, Bool.false_eq_true, if_false]
    cases hrequest : Certificate.Request.ofSettings settings with
    | error fault => exact .unissued hpresent fault
    | ok request =>
      have hask : Activity.ofExcept ((Except.ok request : Except CertificateFault _).mapError
          Fault.certificate) run = (.ok request, run) := rfl
      rw [Activity.bind_of_ok hask]
      cases hissue : host.issuer run.issued request with
      | none =>
        have hnone : issue host request run = (.error (.certificate .unavailable), run) := by
          rw [issue, hissue]
        rw [Activity.run_bind, hnone]
        exact .unissued hpresent .unavailable
      | some pair =>
        have hsome : issue host request run =
            (.ok pair, { run with issued := run.issued + 1 }) := by
          rw [issue, hissue]
        rw [Activity.bind_of_ok hsome, Activity.run_bind, Activity.perform, Activity.onTree,
          Activity.withTree]
        rcases hperform : run.tree.perform (pairSteps directory pair) with ⟨fault | ⟨⟩, tree⟩
        · exact .unwritten hpresent hperform
        · exact .made hpresent hrequest hissue hperform

/-- **A pair is left alone when both its files are there.** -/
theorem ensureCertificate_of_present {certificate key : ByteArray} {mode bits : Nat}
    (hcertificate : run.tree.status (certificatePath directory) = .ok (.file certificate mode))
    (hkey : run.tree.status (keyPath directory) = .ok (.file key bits)) :
    ensureCertificate host settings directory run = (.ok false, run) := by
  have hpresent : run.tree.allPresent [certificatePath directory, keyPath directory] = true := by
    rw [allPresent]
    simp only [List.all_cons, List.all_nil, isFile, hcertificate, hkey, Bool.and_self]
  have hget : (get : Activity Run) run = (.ok run, run) := rfl
  rw [ensureCertificate, Activity.bind_of_ok hget]
  simp only [hpresent, if_true]
  rfl

theorem changes_ensureCertificate (host : Host) (settings : Settings) (directory : String)
    (run : Run) :
    Changes (pairPaths directory) (pairPaths directory) run.tree
      (ensureCertificate host settings directory run).2.tree := by
  have houtcome := certificateOutcome host settings directory run
  generalize ensureCertificate host settings directory run = outcome at houtcome ⊢
  obtain ⟨result, after⟩ := outcome
  cases houtcome with
  | present | unissued => exact .refl _
  | unwritten _ hperform => exact (perform_pairSteps hperform).1
  | made _ _ _ hperform => exact (perform_pairSteps hperform).1

/-- **A pair that is made is one**: certificate and key were issued together, and each file has
its own mode bits. -/
theorem pair_of_ensureCertificate
    (h : ensureCertificate host settings directory run = (.ok true, after)) :
    ∃ request pair, Certificate.Request.ofSettings settings = .ok request ∧
      host.issuer run.issued request = some pair ∧
      after.tree.status (certificatePath directory) =
        .ok (.file pair.certificateText.toUTF8 certificateMode) ∧
      after.tree.status (keyPath directory) = .ok (.file pair.keyText.toUTF8 keyMode) := by
  have houtcome := certificateOutcome host settings directory run
  rw [h] at houtcome
  cases houtcome with
  | made _ hrequest hissue hperform =>
    obtain ⟨hcertificate, hkey⟩ := (perform_pairSteps hperform).2 rfl
    exact ⟨_, _, hrequest, hissue, hcertificate, hkey⟩

/-- A pair that cannot be issued leaves everything as it was. -/
theorem eq_of_unissued {fault : CertificateFault}
    (h : ensureCertificate host settings directory run = (.error (.certificate fault), after)) :
    after = run := by
  have houtcome := certificateOutcome host settings directory run
  rw [h] at houtcome
  cases houtcome with
  | unissued => rfl

/-! ### Making sure of the schema -/

/-- How making sure of the schema ends, and what it leaves. -/
inductive SchemaOutcome (host : Host) (settings : Settings) (directory : String) (run : Run) :
    Except Fault Bool → Run → Prop
  | present (h : run.tree.isFile (schemaPath directory) = true) :
      SchemaOutcome host settings directory run (.ok false) run
  | unversioned (h : run.tree.isFile (schemaPath directory) = false)
      (himage : (settings.images.get .guacamole).reference? = none) :
      SchemaOutcome host settings directory run
        (.error (.generation (.missingVersion .guacamole))) run
  | unprinted {image : String} {fault : Fault} {after : Run}
      (h : run.tree.isFile (schemaPath directory) = false)
      (himage : (settings.images.get .guacamole).reference? = some image)
      (hcall : host.execute (schemaCall image) run = (.error fault, after)) :
      SchemaOutcome host settings directory run (.error fault) after
  | unwritten {image : String} {response : Response} {next : Run} {fault : FileTree.Fault}
      {tree : FileTree} (h : run.tree.isFile (schemaPath directory) = false)
      (himage : (settings.images.get .guacamole).reference? = some image)
      (hcall : host.execute (schemaCall image) run = (.ok response, next))
      (hperform : next.tree.perform (writeFile (schemaPath directory)
        (Text.decodeLossy response.output).toUTF8) = (.error fault, tree)) :
      SchemaOutcome host settings directory run (.error (.io (.file fault)))
        { next with tree }
  | made {image : String} {response : Response} {next : Run} {tree : FileTree}
      (h : run.tree.isFile (schemaPath directory) = false)
      (himage : (settings.images.get .guacamole).reference? = some image)
      (hcall : host.execute (schemaCall image) run = (.ok response, next))
      (hperform : next.tree.perform (writeFile (schemaPath directory)
        (Text.decodeLossy response.output).toUTF8) = (.ok (), tree)) :
      SchemaOutcome host settings directory run (.ok true) { next with tree }

theorem schemaOutcome (host : Host) (settings : Settings) (directory : String) (run : Run) :
    SchemaOutcome host settings directory run
      (ensureSchema host settings directory run).1
      (ensureSchema host settings directory run).2 := by
  have hget : (get : Activity Run) run = (.ok run, run) := rfl
  rw [ensureSchema, Activity.bind_of_ok hget]
  cases hpresent : run.tree.isFile (schemaPath directory) with
  | true =>
    simp only [if_true]
    exact .present hpresent
  | false =>
    simp only [Bool.false_eq_true, if_false]
    cases himage : (settings.images.get .guacamole).reference? with
    | none => exact .unversioned hpresent himage
    | some image =>
      simp only
      rw [Activity.run_bind]
      rcases hcall : host.execute (schemaCall image) run with ⟨fault | response, next⟩
      · exact .unprinted hpresent himage hcall
      · simp only
        rw [Activity.run_bind, Activity.perform, Activity.onTree, Activity.withTree]
        rcases hperform : next.tree.perform (writeFile (schemaPath directory)
          (Text.decodeLossy response.output).toUTF8) with ⟨fault | ⟨⟩, tree⟩
        · simp only
          exact .unwritten hpresent himage hcall hperform
        · simp only
          exact .made hpresent himage hcall hperform

/-- **A schema is left alone when it is there.** -/
theorem ensureSchema_of_present {content : ByteArray} {mode : Nat}
    (h : run.tree.status (schemaPath directory) = .ok (.file content mode)) :
    ensureSchema host settings directory run = (.ok false, run) := by
  have hpresent : run.tree.isFile (schemaPath directory) = true := by
    rw [isFile, h]
  have hget : (get : Activity Run) run = (.ok run, run) := rfl
  rw [ensureSchema, Activity.bind_of_ok hget]
  simp only [hpresent, if_true]
  rfl

/-- A program that prints the schema does not touch the tree. -/
theorem tree_of_execute {call : List String} {result : Except Fault Response}
    (h : host.execute call run = (result, after)) : after.tree = run.tree := by
  obtain ⟨made, hafter, -⟩ := host.onlyCalls_execute call run
  rw [h] at hafter
  rw [show after = _ from hafter]

theorem changes_ensureSchema (host : Host) (settings : Settings) (directory : String) (run : Run) :
    Changes [schemaPath directory] [schemaPath directory] run.tree
      (ensureSchema host settings directory run).2.tree := by
  have houtcome := schemaOutcome host settings directory run
  generalize ensureSchema host settings directory run = outcome at houtcome ⊢
  obtain ⟨result, after⟩ := outcome
  cases houtcome with
  | present | unversioned => exact .refl _
  | unprinted _ _ hcall =>
    rw [tree_of_execute hcall]
    exact .refl _
  | unwritten _ _ hcall hperform | made _ _ hcall hperform =>
    exact tree_of_execute hcall ▸ (perform_writeFile hperform).1

/-- A schema that cannot be printed leaves the tree as it was. -/
theorem tree_of_unprinted {call : List String} {fault : CommandFault}
    (h : ensureSchema host settings directory run = (.error (.command call fault), after)) :
    after.tree = run.tree := by
  have houtcome := schemaOutcome host settings directory run
  rw [h] at houtcome
  cases houtcome with
  | unprinted _ _ hcall => exact tree_of_execute hcall

end RemoteGateway.Deployment
