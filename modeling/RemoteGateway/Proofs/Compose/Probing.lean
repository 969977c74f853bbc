import RemoteGateway.Proofs.Compose.Values
import RemoteGateway.Proofs.Shell.Plain

/-!
# How the database is probed

The runtime asks the database whether it is healthy with a command that names the configured user
and database. The command is read twice: by whoever reads the compose file, and then by the shell
of the container. For the first reader the probe escapes it. For the second nothing is done: the
values stand in the command as they are, although a text can always be quoted
(`Shell.words?_quote`). The probe therefore asks for the configured user and database exactly when
both of them are plain (`probe_words_iff`).
-/

namespace RemoteGateway.Compose

open Yaml (Node)

variable {settings : Settings} {topology : Topology}

/-- The words that the command is meant to have. -/
def probeWords (settings : Settings) : List String :=
  ["pg_isready", "-U", settings.database.user, "-d", settings.database.name]

/-- The command has its words with one blank between them. -/
theorem databaseProbe_eq (settings : Settings) :
    databaseProbe settings.database = " ".intercalate (probeWords settings) := by
  have hbefore : "pg_isready -U " = "pg_isready" ++ " " ++ ("-U" ++ " ") := rfl
  have hbetween : " -d " = " " ++ ("-d" ++ " ") := rfl
  simp only [databaseProbe, probeWords, String.intercalate_cons_cons, String.intercalate_singleton,
    hbefore, hbetween, String.append_assoc]

/-- The probe stands at its place in the compose file, with its command escaped. -/
theorem at?_test (h : build settings = .ok topology) :
    topology.node.at? ["services", "postgres", "healthcheck", "test"] =
      some (texts ["CMD-SHELL", escape (databaseProbe settings.database)]) := by
  have hplace : (Intended.topology settings).node.at?
      ["services", "postgres", "healthcheck", "test"] =
        some (texts ["CMD-SHELL", databaseProbe settings.database]) := rfl
  have hshell : escape "CMD-SHELL" = "CMD-SHELL" := escape_eq_self (by decide)
  rw [node_of_build h, Node.at?_mapTexts, hplace, Option.map_some, mapTexts_texts, List.map_cons,
    hshell]
  rfl

/-- **The database is probed as configured exactly when user and name are plain.** In every
environment the probe of the database is one and the same command of the shell, and its words are
the program and its two options with the configured values, each of them one word, if and only if
neither value has a character that is special to the shell. -/
theorem probe_words_iff (h : build settings = .ok topology) :
    ∃ text command,
      topology.node.at? ["services", "postgres", "healthcheck", "test"] =
        some (texts ["CMD-SHELL", text]) ∧
      (∀ environment, interpolate environment text = some command) ∧
      (Shell.words? command =
          some ["pg_isready", "-U", settings.database.user, "-d", settings.database.name] ↔
        Shell.IsPlain settings.database.user ∧ Shell.IsPlain settings.database.name) := by
  refine ⟨escape (databaseProbe settings.database), databaseProbe settings.database, at?_test h,
    fun environment => interpolate_escape environment _, ?_⟩
  have hprogram : Shell.IsPlain "pg_isready" := by decide
  have huser : Shell.IsPlain "-U" := by decide
  have hname : Shell.IsPlain "-d" := by decide
  rw [databaseProbe_eq, ← probeWords, Shell.words?_intercalate_iff, probeWords]
  simp only [List.forall_mem_cons, hprogram, huser, hname, true_and, List.not_mem_nil,
    false_imp_iff, implies_true, and_true]

/-- The sample site with a user of the database whose name has a blank in it. -/
def spacedSettings : Settings :=
  { Sample.settings with database := { Sample.settings.database with user := "guac user" } }

/-- The name of that user is taken for two words. -/
theorem probe_words_spacedUser :
    ∃ topology, build spacedSettings = .ok topology ∧
      ∃ text command,
        topology.node.at? ["services", "postgres", "healthcheck", "test"] =
          some (texts ["CMD-SHELL", text]) ∧
        (∀ environment, interpolate environment text = some command) ∧
        Shell.words? command ≠ some ["pg_isready", "-U", "guac user", "-d", "guacamole"] := by
  obtain ⟨topology, h⟩ : ∃ topology, build spacedSettings = .ok topology := ⟨_, rfl⟩
  obtain ⟨text, command, hplace, hinterpolate, hwords⟩ := probe_words_iff h
  refine ⟨topology, h, text, command, hplace, hinterpolate, fun hread => ?_⟩
  obtain ⟨⟨-, hinert, -⟩, -⟩ := hwords.mp hread
  -- The blank in the name is not inert.
  cases hinert ' ' (List.elem_iff.mp rfl)

end RemoteGateway.Compose
