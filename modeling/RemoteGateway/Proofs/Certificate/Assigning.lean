import RemoteGateway.Proofs.Certificate.Script
import RemoteGateway.Proofs.Settings.Footprint
import RemoteGateway.Proofs.Shell.Assigning

/-!
# What the script is told about the site

Domain and address of a site may be any texts, and the script that requests the certificate is
run by a shell. The shell is between two commands where the lines in front of the assignments
end, and again behind each assignment, whatever its value is (`Shell.Assigns`). The lines behind
the assignments are therefore read as if they stood alone: no value can end its assignment or add
to the script (`bootstrap_assigns`).
-/

namespace RemoteGateway.Certificate

open Shell (Assigns Content Scan)

/-! ### The lines in front -/

/-- Where a reader stands behind some lines. -/
def behindLines (scan : Scan) (lines : List String) : Scan :=
  lines.foldl (fun scan line => (scan.run (line ++ "\n").toList).2) scan

theorem run_joinLines (scan : Scan) (lines : List String) :
    (scan.run (joinLines lines).toList).2 = behindLines scan lines := by
  induction lines generalizing scan with
  | nil => rfl
  | cons line lines ih =>
    rw [joinLines, List.map_cons, String.join_cons, String.toList_append, Scan.run_append,
      behindLines, List.foldl_cons]
    exact ih _

/-- The lines in front of the assignments leave nothing open, and end with the end of a line. -/
theorem exists_run_linesBefore :
    ∃ opening, Scan.start.run (joinLines linesBefore).toList =
      (opening ++ [.mark '\n'], Scan.start) := by
  obtain ⟨front, hlines, hfront⟩ : ∃ front, linesBefore = front ++ [""] ∧
      behindLines Scan.start front = Scan.start :=
    ⟨openingLines.dropLast.map fixedText, rfl, by decide +kernel⟩
  refine ⟨(Scan.start.run (joinLines front).toList).1, ?_⟩
  rw [hlines, joinLines_append, String.toList_append, Scan.run_append, run_joinLines, hfront]
  rfl

/-! ### The assignments -/

/-- What the variables are given for a site. -/
def contents (settings : Settings) (names : Site.Names) : List (String × Content) :=
  [("CERT_NAME", .text names.certificateDirectory),
    ("DOMAINS", .list [names.canonical, names.aliasName]),
    ("EMAIL", .text (settings.tls.email.getD "")),
    ("STAGING", .text (if settings.tls.staging then "1" else "0"))]

variable (settings : Settings) (names : Site.Names)

/-- **Each of the four lines assigns its value**, whatever the value is. -/
theorem assigns_assignments :
    List.Forall₂ Assigns (assignments settings names) (contents settings names) := by
  have hname : Assigns ("CERT_NAME" ++ "=" ++ Shell.quote names.canonical)
      ("CERT_NAME", .text names.canonical) := Shell.assigns_quote (by decide) _
  have hdomains : Assigns ("DOMAINS" ++ "=(" ++ (" ".intercalate
        [Shell.quote names.canonical, Shell.quote names.aliasName] ++ ")"))
      ("DOMAINS", .list [names.canonical, names.aliasName]) :=
    Shell.assigns_list (by decide)
      (.cons (Shell.isWordOf_quote _) (.cons (Shell.isWordOf_quote _) .nil))
  have hemail : Assigns ("EMAIL" ++ "=" ++ Shell.quote (settings.tls.email.getD ""))
      ("EMAIL", .text (settings.tls.email.getD "")) := Shell.assigns_quote (by decide) _
  have hstaging : Assigns ("STAGING" ++ "=" ++ (if settings.tls.staging then "1" else "0"))
      ("STAGING", .text (if settings.tls.staging then "1" else "0")) := by
    -- The digits are not quoted, but nothing is special about them.
    have hno : Shell.text? [.plain '0'] = some "0" := rfl
    have hyes : Shell.text? [.plain '1'] = some "1" := rfl
    cases settings.tls.staging
    · exact Shell.assigns_of_run (by decide) (fun word => rfl) hno
    · exact Shell.assigns_of_run (by decide) (fun word => rfl) hyes
  exact .cons hname (.cons hdomains (.cons hemail (.cons hstaging .nil)))

/-- **The script gets exactly what is configured.** A quoted text is one word that is that text,
all of it quoted, and quoted texts with blanks between them are read one by one. The script of
every site with a requested certificate therefore consists of two texts that are the same for all
sites and of what stands between them. The shell reads that as four assignments, which give the
variables the directory of the certificate, the two names of the site, the configured address, or
nothing, and one digit; and it reads the two texts around them as if they stood alone. -/
theorem bootstrap_assigns :
    (∀ text : String, Shell.read? (Shell.quote text) =
        some [.word (text.toList.map Shell.Piece.quoted)]) ∧
      (∀ texts : List String, Shell.words? (" ".intercalate (texts.map Shell.quote)) =
        some texts) ∧
      ∃ before behind opening closing last,
        Scan.start.run before.toList = (opening ++ [.mark '\n'], Scan.start) ∧
        Scan.start.run behind.toList = (closing, last) ∧
        ∀ (settings : Settings) (domain : String),
          settings.tls.source = .letsEncrypt → settings.tls.domain = some domain →
          ∃ names between tokens,
            settings.siteNames = some names ∧
            Deployment.bootstrap settings = .ok (some (before ++ between ++ behind)) ∧
            Scan.start.run (before ++ between ++ behind).toList =
              (opening ++ [.mark '\n'] ++ tokens, last) ∧
            Shell.assignments? 4 tokens =
              some ([("CERT_NAME", .text names.certificateDirectory),
                ("DOMAINS", .list [names.canonical, names.aliasName]),
                ("EMAIL", .text (settings.tls.email.getD "")),
                ("STAGING", .text (if settings.tls.staging then "1" else "0"))], closing) := by
  obtain ⟨opening, hopening⟩ := exists_run_linesBefore
  rcases hclosing : Scan.start.run (joinLines linesBehind).toList with ⟨closing, last⟩
  refine ⟨Shell.read?_quote, Shell.words?_quote, joinLines linesBefore, joinLines linesBehind,
    opening, closing, last, hopening, hclosing, ?_⟩
  intro settings domain hsource hdomain
  obtain ⟨names, hnames⟩ : ∃ names, settings.siteNames = some names :=
    ⟨_, congrArg (Option.map _) hdomain⟩
  obtain ⟨assigned, hassigned, hread⟩ :=
    Shell.exists_assignments? (assigns_assignments settings names)
  refine ⟨names, joinLines (assignments settings names), assigned ++ closing, hnames, ?_, ?_,
    hread closing⟩
  · rw [Deployment.bootstrap_eq hsource, hnames, ← joinLines_append, ← joinLines_append]
    rfl
  · rw [String.toList_append, String.toList_append, Scan.run_append, Scan.run_append, hopening,
      joinLines, hassigned, hclosing, List.append_assoc]

/-- The sample site with an address that would run a command if it were not quoted. -/
def quotingSettings : Settings :=
  { Sample.settings with
    tls := { Sample.settings.tls with email := some "o'brien$(reboot)@example.org" } }

/-- That address reaches its variable. -/
theorem bootstrap_assigns_quoting :
    ∃ script opening tokens closing last,
      Deployment.bootstrap quotingSettings = .ok (some script) ∧
      Scan.start.run script.toList = (opening ++ tokens, last) ∧
      Shell.assignments? 4 tokens =
        some ([("CERT_NAME", .text "example.org"),
          ("DOMAINS", .list ["example.org", "www.example.org"]),
          ("EMAIL", .text "o'brien$(reboot)@example.org"), ("STAGING", .text "0")], closing) := by
  obtain ⟨-, -, before, behind, opening, closing, last, -, -, hsites⟩ := bootstrap_assigns
  obtain ⟨names, between, tokens, hnames, hscript, hread, hassigned⟩ :=
    hsites quotingSettings "example.org" rfl rfl
  cases hnames
  exact ⟨_, _, tokens, closing, last, hscript, hread, hassigned⟩

end RemoteGateway.Certificate
