import Mathlib.Tactic.SplitIfs
import RemoteGateway.Host.Tools

/-!
# Calls of external programs

A run makes its calls in a planned order and stops at the first that does not succeed. `Made` says
this of the calls that were made: they are an initial part of those planned, all but the last one
succeeded, and if the run got through, so did all of them (`Made.append`, `Made.broken`). What is
planned for the parts of an activity is planned for the whole (`Calls.bind`).

The activities that only call programs leave all of the run but the list of calls alone. What was
called before does not matter to any activity (`Activity.IgnoresCalls`), and programs that are
available are found (`ensureTools_of_provides`).
-/

namespace RemoteGateway

namespace Activity

/-- An activity in two parts ends with the fault of the first one, or as the second one does. -/
theorem bind_eq {α β : Type} {first : Activity α} {rest : α → Activity β} {run after : Run}
    {result : Except Fault β} (h : (first >>= rest) run = (result, after)) :
    (∃ fault, first run = (.error fault, after) ∧ result = .error fault) ∨
      ∃ value next, first run = (.ok value, next) ∧ rest value next = (result, after) := by
  rw [run_bind] at h
  rcases hfirst : first run with ⟨fault | value, next⟩
  · rw [hfirst] at h
    cases h
    exact .inl ⟨fault, rfl, rfl⟩
  · rw [hfirst] at h
    exact .inr ⟨value, next, rfl, h⟩

theorem run_ofExcept {α : Type} (result : Except Fault α) (run : Run) :
    ofExcept result run = (result, run) := rfl

/-- A part that succeeds is followed by the rest. -/
theorem bind_of_ok {α β : Type} {first : Activity α} {rest : α → Activity β} {run next : Run}
    {value : α} (h : first run = (.ok value, next)) : (first >>= rest) run = rest value next := by
  rw [run_bind, h]

end Activity

namespace Host

variable {host : Host} {call : List String} {run after : Run}

/-! ### Calls that were made -/

/-- A program is there, can be given the words of a call, and succeeds. -/
def Succeeds (host : Host) (call : List String) : Prop :=
  hasNul call = false ∧ ∃ response, host.respond call = some response ∧ response.success = true

/-- The calls that were made of those planned, by a run that got through them or not. -/
structure Made (host : Host) (planned made : List (List String)) (through : Prop) : Prop where
  initial : made <+: planned
  succeeded : ∀ call ∈ made.dropLast, host.Succeeds call
  complete : through → made = planned ∧ ∀ call ∈ made, host.Succeeds call

namespace Made

variable {planned made later more : List (List String)} {through : Prop}

theorem nil (host : Host) (through : Prop) : Made host [] [] through :=
  ⟨List.prefix_refl _, nofun, fun _ => ⟨rfl, nofun⟩⟩

/-- After calls that were all made, the next ones may be. -/
theorem append (h : Made host planned made True) (h' : Made host later more through) :
    Made host (planned ++ later) (made ++ more) through := by
  obtain ⟨rfl, hall⟩ := h.complete trivial
  refine ⟨List.prefix_append_right_inj _ |>.mpr h'.initial, fun call hcall => ?_,
    fun hthrough => ?_⟩
  · cases more with
    | nil => exact hall call ((List.dropLast_prefix _).subset (List.append_nil made ▸ hcall))
    | cons first rest =>
      rw [List.dropLast_append_of_ne_nil (List.cons_ne_nil _ _)] at hcall
      rcases List.mem_append.mp hcall with hcall | hcall
      · exact hall call hcall
      · exact h'.succeeded call hcall
  · obtain ⟨rfl, hmore⟩ := h'.complete hthrough
    refine ⟨rfl, fun call hcall => ?_⟩
    rcases List.mem_append.mp hcall with hcall | hcall
    · exact hall call hcall
    · exact hmore call hcall

/-- A run that broke off makes none of the calls that were planned behind. -/
theorem broken (h : Made host planned made through) (later : List (List String)) :
    Made host (planned ++ later) made False :=
  ⟨h.initial.trans (List.prefix_append _ _), h.succeeded, False.elim⟩

theorem mono {through' : Prop} (h : Made host planned made through)
    (himp : through' → through) : Made host planned made through' :=
  ⟨h.initial, h.succeeded, fun hthrough => h.complete (himp hthrough)⟩

end Made

/-- One call, which succeeded if the run goes on. -/
theorem Made.single {through : Prop} (h : through → host.Succeeds call) :
    Made host [call] [call] through :=
  ⟨List.prefix_refl _, nofun, fun hthrough => ⟨rfl, List.forall_mem_singleton.mpr (h hthrough)⟩⟩

/-- A call that was not made. -/
theorem Made.unmade (host : Host) (planned : List (List String)) : Made host planned [] False :=
  ⟨List.nil_prefix, nofun, False.elim⟩

/-! ### Activities that only call programs -/

/-- An activity makes planned calls as long as they succeed, and does nothing else. -/
def OnlyCalls {α : Type} (host : Host) (planned : List (List String)) (activity : Activity α) :
    Prop :=
  ∀ run, ∃ made, (activity run).2 = { run with calls := run.calls ++ made } ∧
    host.Made planned made ((activity run).1.isOk = true)

theorem onlyCalls_pure {α : Type} (host : Host) (value : α) :
    host.OnlyCalls [] (pure value : Activity α) :=
  fun run => ⟨[], by rw [List.append_nil]; rfl, .nil host _⟩

/-- What is made of a value later does not matter. -/
theorem OnlyCalls.bind_pure {α β : Type} {planned : List (List String)} {activity : Activity α}
    (h : host.OnlyCalls planned activity) (f : α → β) :
    host.OnlyCalls planned (activity >>= fun value => pure (f value)) := by
  intro run
  obtain ⟨made, hafter, hmade⟩ := h run
  refine ⟨made, ?_⟩
  rw [Activity.run_bind]
  rcases hresult : activity run with ⟨fault | value, next⟩
  all_goals
    rw [hresult] at hafter hmade
    exact ⟨hafter, hmade⟩

/-- In a run, an activity makes planned calls as long as they succeed. -/
def Calls {α : Type} (host : Host) (planned : List (List String)) (activity : Activity α)
    (run : Run) : Prop :=
  ∃ made, (activity run).2.calls = run.calls ++ made ∧
    host.Made planned made ((activity run).1.isOk = true)

theorem OnlyCalls.calls {α : Type} {planned : List (List String)} {activity : Activity α}
    (h : host.OnlyCalls planned activity) (run : Run) : host.Calls planned activity run := by
  obtain ⟨made, hafter, hmade⟩ := h run
  exact ⟨made, by rw [hafter], hmade⟩

/-- An activity that calls nothing. -/
theorem Calls.of_eq {α : Type} {activity : Activity α}
    (h : (activity run).2.calls = run.calls) : host.Calls [] activity run :=
  ⟨[], by rw [h, List.append_nil], .nil host _⟩

/-- **The calls of a second part come after those of the first one, if that succeeds.** -/
theorem Calls.bind {α β : Type} {planned later : List (List String)} {first : Activity α}
    {rest : α → Activity β} (hfirst : host.Calls planned first run)
    (hrest : ∀ value next, first run = (.ok value, next) → host.Calls later (rest value) next) :
    host.Calls (planned ++ later) (first >>= rest) run := by
  obtain ⟨made, hcalls, hmade⟩ := hfirst
  rcases hresult : first run with ⟨fault | value, next⟩
  · rw [hresult] at hcalls
    refine ⟨made, ?_, ?_⟩
    · rw [Activity.run_bind, hresult]
      exact hcalls
    · exact (hmade.broken later).mono fun hok => by
        rw [Activity.run_bind, hresult] at hok
        cases hok
  · obtain ⟨more, hmore, hmadeMore⟩ := hrest value next hresult
    rw [hresult] at hcalls hmade
    rw [Calls, Activity.bind_of_ok hresult]
    refine ⟨made ++ more, ?_, (hmade.mono fun _ => rfl).append hmadeMore⟩
    rw [hmore, ← List.append_assoc]
    exact congrArg (· ++ more) hcalls

/-- A first part that calls nothing. -/
theorem Calls.after_silent {α β : Type} {planned : List (List String)} {first : Activity α}
    {rest : α → Activity β} (hfirst : (first run).2.calls = run.calls)
    (hrest : ∀ value next, first run = (.ok value, next) → host.Calls planned (rest value) next) :
    host.Calls planned (first >>= rest) run :=
  (Calls.of_eq hfirst).bind hrest

/-- A second part that calls nothing. -/
theorem Calls.before_silent {α β : Type} {planned : List (List String)} {first : Activity α}
    {rest : α → Activity β} (hfirst : host.Calls planned first run)
    (hrest : ∀ value next, (rest value next).2.calls = next.calls) :
    host.Calls planned (first >>= rest) run := by
  have h := hfirst.bind fun value next _ => Calls.of_eq (hrest value next)
  rwa [List.append_nil] at h

/-- A call leaves a trace when there is such a program. -/
theorem call_cases (host : Host) (call : List String) (run : Run) :
    (∃ response, host.respond call = some response ∧ hasNul call = false ∧
      host.call call run = (.ok (some response), { run with calls := run.calls ++ [call] })) ∨
      host.call call run = (.ok none, run) := by
  rw [Host.call]
  cases hrespond : host.respond call with
  | none => exact .inr rfl
  | some response =>
    cases hnul : hasNul call with
    | true => exact .inr (by simp [Option.filter])
    | false => exact .inl ⟨response, rfl, rfl, by simp [Option.filter]⟩

theorem onlyCalls_execute (host : Host) (call : List String) :
    host.OnlyCalls [call] (host.execute call) := by
  intro run
  rcases host.call_cases call run with ⟨response, hrespond, hnul, hcall⟩ | hcall
  · refine ⟨[call], ?_⟩
    rw [execute, Activity.bind_of_ok hcall]
    cases hsuccess : response.success with
    | true =>
      simp only [hsuccess, if_true]
      exact ⟨rfl, .single fun _ => ⟨hnul, response, hrespond, hsuccess⟩⟩
    | false =>
      simp only [hsuccess, Bool.false_eq_true, if_false]
      exact ⟨rfl, .single fun hok => absurd hok Bool.false_ne_true⟩
  · refine ⟨[], ?_⟩
    rw [execute, Activity.bind_of_ok hcall]
    exact ⟨by rw [List.append_nil]; rfl, (Made.unmade host [call]).mono nofun⟩

/-- A call that does not succeed is reported. -/
theorem fault_of_execute {fault : Fault} (h : host.execute call run = (.error fault, after)) :
    ∃ reason, fault = .command call reason := by
  rcases Activity.bind_eq h with ⟨fault, hcall, -⟩ | ⟨response, next, -, h⟩
  · rcases host.call_cases call run with ⟨response, -, -, hcall'⟩ | hcall'
    all_goals
      rw [hcall'] at hcall
      cases hcall
  · cases response with
    | none =>
      cases h
      exact ⟨_, rfl⟩
    | some response =>
      simp only at h
      split_ifs at h
      · cases h
      · cases h
        exact ⟨_, rfl⟩

/-- The calls that look whether some programs are available. -/
def versionCalls (tools : List String) : List (List String) :=
  tools.map fun tool => [tool, "--version"]

theorem onlyCalls_ensureTools (host : Host) (tools : List String) :
    host.OnlyCalls (versionCalls tools) (host.ensureTools tools) := by
  induction tools with
  | nil => exact onlyCalls_pure host ()
  | cons tool rest ih =>
    intro run
    have hplanned : versionCalls (tool :: rest) = [[tool, "--version"]] ++ versionCalls rest := rfl
    rw [hplanned]
    rcases host.call_cases [tool, "--version"] run with ⟨response, hrespond, hnul, hcall⟩ | hcall
    · have havailable : host.isAvailable tool run =
          (.ok response.success, { run with calls := run.calls ++ [[tool, "--version"]] }) := by
        rw [isAvailable, Activity.bind_of_ok hcall]
        rfl
      rw [ensureTools, Activity.bind_of_ok havailable]
      cases hsuccess : response.success with
      | true =>
        obtain ⟨made, hrest, hmade⟩ :=
          ih { run with calls := run.calls ++ [[tool, "--version"]] }
        refine ⟨[[tool, "--version"]] ++ made, ?_, .append (.single fun _ => ?_) hmade⟩
        · rw [← List.append_assoc]
          exact hrest
        · exact ⟨hnul, response, hrespond, hsuccess⟩
      | false =>
        have hsingle : host.Made [[tool, "--version"]] [[tool, "--version"]] False :=
          .single False.elim
        exact ⟨[[tool, "--version"]], rfl, (hsingle.broken _).mono nofun⟩
    · have havailable : host.isAvailable tool run = (.ok false, run) := by
        rw [isAvailable, Activity.bind_of_ok hcall]
        rfl
      rw [ensureTools, Activity.bind_of_ok havailable]
      exact ⟨[], by rw [List.append_nil]; rfl, (Made.unmade host _).mono nofun⟩

/-- The call that looks up a group. -/
def groupCall (group : String) : List String :=
  ["getent", "group", group]

theorem onlyCalls_groupId (host : Host) (group : String) :
    host.OnlyCalls [groupCall group] (host.groupId group) := by
  intro run
  rcases host.call_cases (groupCall group) run with ⟨response, hrespond, hnul, hcall⟩ | hcall
  · refine ⟨[groupCall group], ?_⟩
    rw [groupId, ← groupCall, Activity.bind_of_ok hcall]
    cases hsuccess : response.success with
    | true =>
      have hsucceeds : host.Succeeds (groupCall group) := ⟨hnul, response, hrespond, hsuccess⟩
      generalize (Option.filter Response.success (some response)).bind _ = id
      cases id with
      | some id => exact ⟨rfl, .single fun _ => hsucceeds⟩
      | none => exact ⟨rfl, .single fun _ => hsucceeds⟩
    | false =>
      simp only [Option.filter, hsuccess]
      exact ⟨rfl, .single fun hok => absurd hok Bool.false_ne_true⟩
  · refine ⟨[], ?_⟩
    rw [groupId, ← groupCall, Activity.bind_of_ok hcall]
    exact ⟨by rw [List.append_nil]; rfl, (Made.unmade host _).mono nofun⟩

/-- The call that pulls the images of a compose file. -/
def pullCall (directory : String) : List String :=
  ["docker", "compose", "-f", FileTree.join directory Deployment.composeFile, "pull"]

theorem onlyCalls_pullImages (host : Host) (directory : String) :
    host.OnlyCalls [pullCall directory] (host.pullImages directory) :=
  (host.onlyCalls_execute (pullCall directory)).bind_pure fun _ => ()

end Host

namespace Activity

variable {α β : Type}

/-! ### Earlier calls -/

/-- An activity goes the same way whatever was called before, and adds the same calls. -/
def IgnoresCalls (activity : Activity α) : Prop :=
  ∀ run, ∃ made, ∀ earlier, activity { run with calls := earlier } =
    ((activity run).1, { (activity run).2 with calls := earlier ++ made })

/-- An activity that calls nothing and does not look at what was called. -/
theorem IgnoresCalls.of_silent {activity : Activity α}
    (h : ∀ run earlier, activity { run with calls := earlier } =
      ((activity run).1, { (activity run).2 with calls := earlier })) :
    IgnoresCalls activity := by
  intro run
  refine ⟨[], fun earlier => ?_⟩
  rw [h, List.append_nil]

theorem ignoresCalls_pure (value : α) : IgnoresCalls (pure value) :=
  .of_silent fun _ _ => rfl

theorem ignoresCalls_throw (fault : Fault) : IgnoresCalls (throw fault : Activity α) :=
  .of_silent fun _ _ => rfl

theorem ignoresCalls_ofExcept (result : Except Fault α) : IgnoresCalls (ofExcept result) :=
  .of_silent fun _ _ => rfl

theorem ignoresCalls_notify (notice : Notice) : IgnoresCalls (notify notice) :=
  .of_silent fun _ _ => rfl

/-- **Two parts that do not look at earlier calls do not look at them together.** -/
theorem IgnoresCalls.bind {first : Activity α} {rest : α → Activity β}
    (hfirst : IgnoresCalls first) (hrest : ∀ value, IgnoresCalls (rest value)) :
    IgnoresCalls (first >>= rest) := by
  intro run
  obtain ⟨made, hmade⟩ := hfirst run
  rcases hresult : first run with ⟨fault | value, next⟩
  · refine ⟨made, fun earlier => ?_⟩
    rw [run_bind, run_bind, hmade, hresult]
  · obtain ⟨more, hmore⟩ := hrest value next
    refine ⟨made ++ more, fun earlier => ?_⟩
    rw [run_bind, run_bind, hmade, hresult, ← List.append_assoc]
    exact hmore (earlier ++ made)

/-! ### Notices on the way -/

/-- An activity only adds notices of one kind. -/
def Tells (kind : Notice → Prop) (activity : Activity α) : Prop :=
  ∀ run, ∃ told, (activity run).2.notices = run.notices ++ told ∧ ∀ notice ∈ told, kind notice

variable {kind : Notice → Prop}

theorem Tells.of_eq {activity : Activity α}
    (h : ∀ run, (activity run).2.notices = run.notices) : Tells kind activity :=
  fun run => ⟨[], by rw [h, List.append_nil], nofun⟩

theorem tells_notify {notice : Notice} (h : kind notice) : Tells kind (notify notice) :=
  fun _ => ⟨[notice], rfl, List.forall_mem_singleton.mpr h⟩

theorem Tells.bind {first : Activity α} {rest : α → Activity β} (hfirst : Tells kind first)
    (hrest : ∀ value, Tells kind (rest value)) : Tells kind (first >>= rest) := by
  intro run
  obtain ⟨told, hnotices, htold⟩ := hfirst run
  rw [run_bind]
  rcases hresult : first run with ⟨fault | value, next⟩
  · rw [hresult] at hnotices
    exact ⟨told, hnotices, htold⟩
  · rw [hresult] at hnotices
    obtain ⟨more, hmore, hall⟩ := hrest value next
    refine ⟨told ++ more, ?_, List.forall_mem_append.mpr ⟨htold, hall⟩⟩
    rw [← List.append_assoc, ← hnotices]
    exact hmore

end Activity

namespace Host

variable {host : Host} {run : Run}

/-! ### External programs -/

/-- All of some programs are available. -/
def Provides (host : Host) (tools : List String) : Prop :=
  ∀ call ∈ versionCalls tools, host.Succeeds call

/-- A call that succeeds is made. -/
theorem call_of_succeeds {call : List String} (h : host.Succeeds call) (run : Run) :
    ∃ response, response.success = true ∧
      host.call call run = (.ok (some response), { run with calls := run.calls ++ [call] }) := by
  obtain ⟨hnul, response, hrespond, hsuccess⟩ := h
  refine ⟨response, hsuccess, ?_⟩
  simp [Host.call, hrespond, hnul, Option.filter]

/-- Programs that are available are found. -/
theorem ensureTools_of_provides {tools : List String} (h : host.Provides tools) (run : Run) :
    host.ensureTools tools run =
      (.ok (), { run with calls := run.calls ++ versionCalls tools }) := by
  induction tools generalizing run with
  | nil =>
    rw [ensureTools, versionCalls, List.map_nil, List.append_nil]
    rfl
  | cons tool rest ih =>
    obtain ⟨hfirst, hrest⟩ := List.forall_mem_cons.mp h
    obtain ⟨response, hsuccess, hcall⟩ := call_of_succeeds hfirst run
    have havailable : host.isAvailable tool run =
        (.ok true, { run with calls := run.calls ++ [[tool, "--version"]] }) := by
      rw [isAvailable, Activity.bind_of_ok hcall, ← hsuccess]
      rfl
    rw [ensureTools, Activity.bind_of_ok havailable, if_pos rfl, ih hrest]
    simp only [versionCalls, List.map_cons, List.append_assoc, List.singleton_append]

/-- A program that is not available is reported. -/
theorem ensureTools_of_not_provides {tools : List String} (h : ¬ host.Provides tools) (run : Run) :
    ∃ tool ∈ tools, (host.ensureTools tools run).1 = .error (.missingTool tool) := by
  induction tools generalizing run with
  | nil => exact absurd nofun h
  | cons tool rest ih =>
    rcases havailable : host.isAvailable tool run with ⟨fault | ⟨_ | _⟩, next⟩
    · -- Looking for a program does not fail.
      rcases Activity.bind_eq havailable with ⟨fault, hcall, -⟩ | ⟨response, after, -, hpure⟩
      · rcases host.call_cases [tool, "--version"] run with ⟨response, -, -, heq⟩ | heq
        all_goals
          rw [heq] at hcall
          cases hcall
      · cases hpure
    · refine ⟨tool, List.mem_cons_self, ?_⟩
      rw [ensureTools, Activity.bind_of_ok havailable]
      rfl
    · have hrest : ¬ host.Provides rest := by
        intro hprovides
        refine h (List.forall_mem_cons.mpr ⟨?_, hprovides⟩)
        rcases Activity.bind_eq havailable with ⟨fault, -, hfault⟩ | ⟨response, after, hcall, hpure⟩
        · cases hfault
        rcases host.call_cases [tool, "--version"] run with ⟨found, hrespond, hnul, heq⟩ | heq
        · rw [heq] at hcall
          cases hcall
          exact ⟨hnul, found, hrespond, Except.ok.inj (congrArg Prod.fst hpure)⟩
        · rw [heq] at hcall
          cases hcall
          cases hpure
      obtain ⟨missing, hmem, herror⟩ := ih hrest next
      refine ⟨missing, List.mem_cons_of_mem _ hmem, ?_⟩
      rw [ensureTools, Activity.bind_of_ok havailable, if_pos rfl]
      exact herror

theorem ignoresCalls_call (host : Host) (call : List String) :
    Activity.IgnoresCalls (host.call call) := by
  intro run
  unfold Host.call
  cases (host.respond call).filter fun _ => !hasNul call with
  | none => exact ⟨[], fun earlier => by rw [List.append_nil]⟩
  | some response => exact ⟨[call], fun earlier => rfl⟩

theorem ignoresCalls_groupId (host : Host) (group : String) :
    Activity.IgnoresCalls (host.groupId group) := by
  refine (ignoresCalls_call host _).bind fun response => ?_
  split
  · exact Activity.ignoresCalls_pure _
  · exact Activity.ignoresCalls_throw _

end Host

end RemoteGateway
