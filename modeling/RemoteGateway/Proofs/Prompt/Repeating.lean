import RemoteGateway.Proofs.Document.Recovery
import RemoteGateway.Proofs.Prompt.Amending
import RemoteGateway.Proofs.Prompt.Preserving

/-!
# Sessions that need not be repeated

After a session that ended well no question is open: each one was answered or skipped, and it
ignores what the questions behind it stored (`Collected.isOpen_eq_false`). Another session with the
document that results therefore asks nothing, whatever it could be answered, and so does one with
the document that is opened from the file. `collect_suffices` is about both, and about the keys that
the first session gives in the end: they are the ones that it has stored, in the order of the
questions.
-/

namespace RemoteGateway.Prompt

open Document (Store Value segments)

/-! ### Questions in the end -/

namespace Collected

variable {questions : List Question} {document after : Value} {keys : List String}

/-- A question that ignores others is as open behind them as in front of them. -/
theorem isOpen_eq (h : Collected questions document keys after) {question : Question}
    (hignores : ∀ other ∈ questions, question.Ignores other) :
    question.isOpen after = question.isOpen document := by
  induction h with
  | nil => rfl
  | skip _ _ ih => exact ih fun other hother => hignores other (List.mem_cons_of_mem _ hother)
  | answer _ _ _ ih =>
    rw [ih fun other hother => hignores other (List.mem_cons_of_mem _ hother)]
    exact hignores _ List.mem_cons_self _ _

/-- **In the end no question is open.** -/
theorem isOpen_eq_false (h : Collected questions document keys after)
    (hignores : questions.Pairwise Question.Ignores)
    (hstated : ∀ question ∈ questions, question.form.IsStated) :
    ∀ question ∈ questions, question.isOpen after = false := by
  induction h with
  | nil => exact fun question hmem => absurd hmem List.not_mem_nil
  | skip hclosed hrest ih =>
    obtain ⟨hquestion, hignores⟩ := List.pairwise_cons.mp hignores
    obtain ⟨-, hstated⟩ := List.forall_mem_cons.mp hstated
    have hfirst := (hrest.isOpen_eq hquestion).trans hclosed
    exact List.forall_mem_cons.mpr ⟨hfirst, ih hignores hstated⟩
  | answer _ htakes hrest ih =>
    obtain ⟨hquestion, hignores⟩ := List.pairwise_cons.mp hignores
    obtain ⟨hform, hstated⟩ := List.forall_mem_cons.mp hstated
    have hfirst := (hrest.isOpen_eq hquestion).trans (Question.isOpen_store_self htakes hform)
    exact List.forall_mem_cons.mpr ⟨hfirst, ih hignores hstated⟩

/-- The keys are given in the order of the questions. -/
theorem keys_sublist (h : Collected questions document keys after) :
    keys.Sublist (questions.map Question.key) := by
  induction h with
  | nil => exact List.Sublist.slnil
  | skip _ _ ih => exact ih.cons _
  | answer _ _ _ ih => exact ih.cons_cons _

/-! ### The document in the end -/

theorem isLegible (h : Collected questions document keys after) (hlegible : document.IsLegible) :
    after.IsLegible := by
  induction h with
  | nil => exact hlegible
  | skip _ _ ih => exact ih hlegible
  | @answer _ _ _ _ _ text _ _ _ ih =>
    have htext : (Value.text text).IsLegible := trivial
    exact ih (hlegible.store htext _)

/-- No document becomes higher than the keys of the questions lie deep. -/
theorem height_le {bound : Nat} (h : Collected questions document keys after)
    (hkeys : ∀ question ∈ questions, (segments question.key).length ≤ bound)
    (hheight : document.height ≤ bound) : after.height ≤ bound := by
  induction h with
  | nil => exact hheight
  | skip _ _ ih => exact ih (List.forall_mem_cons.mp hkeys).2 hheight
  | @answer question _ document _ _ text _ _ _ ih =>
    obtain ⟨hkey, hkeys⟩ := List.forall_mem_cons.mp hkeys
    have hstored := Value.height_store_le document (.text text) (segments question.key)
    have hflat : (Value.text text).height = 0 := rfl
    exact ih hkeys (by omega)

/-- A document to which anything was stored is an object. -/
theorem isObject (h : Collected questions document keys after) (hkeys : keys ≠ []) :
    after.isObject = true := by
  induction h with
  | nil => exact absurd rfl hkeys
  | skip _ _ ih => exact ih hkeys
  | @answer question _ document _ later _ _ _ hrest ih =>
    by_cases hlater : later = []
    · rw [hrest.eq_of_keys_eq_nil hlater]
      exact Value.isObject_store document _ (Document.segments_ne_nil question.key)
    · exact ih hlater

end Collected

/-- Where no question is open, none is asked. -/
theorem Session.collectAll_of_closed {questions : List Question} {session : Session}
    (h : ∀ question ∈ questions, question.isOpen session.store.document = false) :
    session.collectAll questions = (.ok [], session) := by
  induction questions with
  | nil => rfl
  | cons question rest ih =>
    obtain ⟨hclosed, hrest⟩ := List.forall_mem_cons.mp h
    rw [collectAll_skip hclosed, ih hrest]

/-! ### What was stored -/

/-- Stores some texts, one after the other, until one of them cannot be stored. -/
def storeAll : List (String × String) → Store → FileTree → Except Fault Unit × Store × FileTree
  | [], store, tree => (.ok (), store, tree)
  | (key, text) :: rest, store, tree =>
    match store.set key (.text text) tree with
    | (.ok (), store, tree) => storeAll rest store tree
    | (.error fault, store, tree) => (.error fault, store, tree)

namespace Course

variable {questions : List Question} {session after : Session} {exchanges : List Exchange}
  {result : Except Fault (List String)} {keys : List String}

/-- A session that ends well has stored a text for each key that it gives, and nothing else. -/
theorem exists_entries (h : Course questions session exchanges result after)
    (hresult : result = .ok keys) :
    ∃ entries : List (String × String), entries.map Prod.fst = keys ∧
      storeAll entries session.store session.tree = (.ok (), after.store, after.tree) := by
  induction h generalizing keys with
  | nil =>
    cases hresult
    exact ⟨[], rfl, rfl⟩
  | skip _ _ ih => exact ih hresult
  | unanswered => cases hresult
  | unwritten => cases hresult
  | @answered question _ _ _ _ _ _ text _ _ _ _ _ _ hset _ ih =>
    obtain ⟨later, hlater, rfl⟩ := Outcome.map_eq_ok.mp hresult
    obtain ⟨entries, hkeys, hstored⟩ := ih hlater
    refine ⟨(question.key, text) :: entries, ?_, ?_⟩
    · rw [List.map_cons, hkeys]
    · rw [storeAll, Store.set_of_setBy hset]
      exact hstored

/-- In a session that ends well every answer was written. -/
theorem writing_eq (h : Course questions session exchanges result after)
    (hresult : result = .ok keys) :
    ∀ exchange ∈ exchanges, exchange.writing = some (.ok ()) := by
  induction h generalizing keys with
  | nil => exact fun exchange hmem => absurd hmem List.not_mem_nil
  | skip _ _ ih => exact ih hresult
  | unanswered => cases hresult
  | unwritten => cases hresult
  | answered _ _ _ _ _ _ ih =>
    obtain ⟨later, hlater, -⟩ := Outcome.map_eq_ok.mp hresult
    exact List.forall_mem_cons.mpr ⟨rfl, ih hlater⟩

end Course

/-! ### All questions -/

/-- The keys that are asked for in front of the base path and the label of a subdomain. -/
def leadingKeys : List String :=
  ["database.password", "guacamole.admin_password", "ssl.mode", "nginx.url_mode", "ssl.domain",
    "ssl.email"]

/-- A document that is recovered from its file: its numbers are integers, and at most 127 containers
stand inside each other. -/
def IsRecoverable (document : Value) : Prop :=
  document.IsIntegral ∧ document.height ≤ 127

section

variable {session after : Session} {keys : List String}

/-- A session asks for the base path or for the label of a subdomain, or for neither, and does so in
the end. -/
theorem Collected.order {document after : Value} (h : Collected questions document keys after) :
    keys.Sublist (leadingKeys ++ ["nginx.base_path"]) ∨
      keys.Sublist (leadingKeys ++ ["nginx.subdomain"]) := by
  -- What is not among the keys can be left out of the questions.
  have hwithout : ∀ key ∉ keys,
      keys.Sublist ((questions.map Question.key).filter (· ≠ key)) := by
    intro key hkey
    have hall : keys.filter (· ≠ key) = keys := by
      refine List.filter_eq_self.mpr fun other hother => decide_eq_true ?_
      rintro rfl
      exact hkey hother
    rw [← hall]
    exact h.keys_sublist.filter _
  by_cases hlabel : "nginx.subdomain" ∈ keys
  · have hpath : "nginx.base_path" ∉ keys := by
      intro hpath
      have hmode := h.urlMode_of_mem_keys
        [databasePassword, adminPassword, certificateSource, urlMode, domain, email] basePath
        [subdomain] rfl rfl (by decide) hpath
      rw [h.urlMode_of_subdomain hlabel] at hmode
      exact absurd hmode (by decide)
    exact .inr (hwithout _ hpath)
  · exact .inl (hwithout _ hlabel)

/-- A session with the document of one that ended well asks nothing and changes nothing. -/
theorem collect_again (h : session.collect = (.ok keys, after)) {later : Session}
    (hlater : later.store.document = after.store.document) : later.collect = (.ok [], later) := by
  have hcollected : Collected questions session.store.document keys after.store.document :=
    collected_of_collectAll h
  have hclosed := hcollected.isOpen_eq_false pairwise_ignores (by decide)
  exact Session.collectAll_of_closed (hlater ▸ hclosed)

/-- A session that ends well follows a course. -/
theorem course_of_collect (h : session.collect = (.ok keys, after)) :
    ∃ exchanges, Course questions session exchanges (.ok keys) after := by
  obtain ⟨exchanges, hcourse⟩ := course_collectAll questions session
  rw [← Session.collect, h] at hcourse
  exact ⟨exchanges, hcourse⟩

/-- The file of a session that has stored anything is in step with its document. -/
theorem holds_of_collect (h : session.collect = (.ok keys, after)) (hkeys : keys ≠ []) :
    after.tree.Holds after.store.path after.store.text.toUTF8 := by
  obtain ⟨exchanges, hcourse⟩ := course_of_collect h
  have hwritten := hcourse.writing_eq rfl
  refine hcourse.holds (fun exchange hmem fault hfault => ?_) (.inr ?_)
  · rw [hwritten exchange hmem] at hfault
    cases hfault
  · cases exchanges with
    | nil => exact absurd (hcourse.keys_eq rfl) hkeys
    | cons exchange rest => exact ⟨exchange, List.mem_cons_self, hwritten _ List.mem_cons_self⟩

/-- What was stored is opened from the file again. -/
theorem load_of_collect (h : session.collect = (.ok keys, after)) (hkeys : keys ≠ [])
    (hrecoverable : IsRecoverable session.store.document ∨ IsRecoverable after.store.document) :
    Store.load after.store.path after.tree = .ok after.store := by
  have hcollected : Collected questions session.store.document keys after.store.document :=
    collected_of_collectAll h
  -- The answers are texts below keys of two parts, so the document stays as it should be.
  have hafter : after.store.document.IsLegible ∧ after.store.document.height ≤ 127 := by
    rcases hrecoverable with ⟨hintegral, hheight⟩ | ⟨hintegral, hheight⟩
    · exact ⟨hcollected.isLegible hintegral.isLegible,
        hcollected.height_le (by decide) hheight⟩
    · exact ⟨hintegral.isLegible, hheight⟩
  rw [Document.load_of_read (holds_of_collect h hkeys).read hafter.1 (hcollected.isObject hkeys)]
  exact if_pos hafter.2

/-- Where nothing was stored, the store and the files are what they were. -/
theorem eq_of_collect (h : session.collect = (.ok [], after)) :
    after.store = session.store ∧ after.tree = session.tree := by
  obtain ⟨exchanges, hcourse⟩ := course_of_collect h
  obtain ⟨entries, hentries, hall⟩ := hcourse.exists_entries rfl
  obtain rfl := List.map_eq_nil_iff.mp hentries
  rw [storeAll, Prod.mk.injEq, Prod.mk.injEq] at hall
  exact ⟨hall.2.1.symm, hall.2.2.symm⟩

/-- What holds after a session that has given some keys. -/
structure Suffices (session : Session) (keys : List String) (after : Session) : Prop where
  /-- A session with the document that results asks nothing and changes nothing. -/
  again : ∀ later : Session, later.store.document = after.store.document →
    later.collect = (.ok [], later)
  /-- That document is opened from the file. If nothing was stored, this must have been so
  before. -/
  reopened : keys ≠ [] ∨ Store.load session.store.path session.tree = .ok session.store →
    IsRecoverable session.store.document ∨ IsRecoverable after.store.document →
    Store.load after.store.path after.tree = .ok after.store
  /-- The keys are those to which a text was stored, and nothing else was changed. -/
  stored : ∃ entries : List (String × String), entries.map Prod.fst = keys ∧
    storeAll entries session.store session.tree = (.ok (), after.store, after.tree)
  nodup : keys.Nodup
  order : keys.Sublist (leadingKeys ++ ["nginx.base_path"]) ∨
    keys.Sublist (leadingKeys ++ ["nginx.subdomain"])

/-- **One session is enough**, and the keys that it gives are those that it has stored. -/
theorem collect_suffices (h : session.collect = (.ok keys, after)) :
    Suffices session keys after where
  again _ := collect_again h
  reopened hfile hrecoverable := by
    by_cases hkeys : keys = []
    · subst hkeys
      obtain ⟨hstore, htree⟩ := eq_of_collect h
      rw [hstore, htree]
      exact hfile.resolve_left fun hne => hne rfl
    · exact load_of_collect h hkeys hrecoverable
  stored := by
    obtain ⟨exchanges, hcourse⟩ := course_of_collect h
    exact hcourse.exists_entries rfl
  nodup := by
    have hall : (questions.map Question.key).Nodup := by decide
    exact (collected_of_collectAll h).keys_sublist.nodup hall
  order := (collected_of_collectAll h).order

end

/-- A session that starts from nothing and is to request a certificate without an address. -/
def firstSession : Session where
  store := ⟨"stack.json", .object []⟩
  tree := .empty
  answers := [some "db secret\n", some "admin secret\n", some "letsencrypt\n", some "\n",
    some "example.org\n", some "\n", some "/remote\n"]
  shown := ""

theorem collect_suffices_firstSession :
    ∃ after, firstSession.collect = (.ok (leadingKeys ++ ["nginx.base_path"]), after) ∧
      Store.load "stack.json" after.tree = .ok after.store ∧
      Session.collect ⟨after.store, after.tree, [], ""⟩ =
        (.ok [], ⟨after.store, after.tree, [], ""⟩) := by
  obtain ⟨after, hcollect, hpath⟩ : ∃ after,
      firstSession.collect = (.ok (leadingKeys ++ ["nginx.base_path"]), after) ∧
        after.store.path = "stack.json" := ⟨_, rfl, rfl⟩
  have hsuffices := collect_suffices hcollect
  have hrecoverable : IsRecoverable firstSession.store.document :=
    ⟨⟨List.Pairwise.nil, trivial⟩, by decide⟩
  have hload := hsuffices.reopened (.inl (by decide)) (.inl hrecoverable)
  exact ⟨after, hcollect, hpath ▸ hload, hsuffices.again _ rfl⟩

end RemoteGateway.Prompt
