import Mathlib.Data.List.Forall2
import RemoteGateway.Deployment.Artifacts
import RemoteGateway.Proofs.Template.Phrases

/-!
# The script, line by line

The script that requests the first certificate consists of lines that are the same for every
site, and of four **assignments** in between that hold whatever depends on the settings.
`scriptLines` writes it out in this form, and `Deployment.bootstrap_eq` says that the script of
a deployment is never anything else.

Because the other lines are fixed, what they do with the variables can be read off them.
`Shell.expand` puts the values of variables in place of their names, as a shell does inside
double quotes.
-/

namespace RemoteGateway.Certificate

open Document (Members)
open Template (Phrase Part fill_append fill_cons fill_single valueText)

/-! ### Lines that are the same for every site -/

/-- The members that do not depend on the site. -/
def fixedContext : Members :=
  [("certbot_data", .text Deployment.certbotDirectory),
    ("certbot_service", .text Deployment.renewalService),
    ("proxy_service", .text Deployment.proxyService),
    ("acme_webroot", .text Deployment.webrootMount)]

/-- The text of a part that does not depend on the site. -/
def fixedPart : Part → String
  | .literal text => text
  | .slot name => ((fixedContext.lookup name).map valueText).getD ""

/-- The text of a line that does not depend on the site. -/
def fixedText (line : Phrase) : String :=
  String.join (line.map fixedPart)

/-- Whether a part can be filled in without knowing the site. -/
def IsFixed : Part → Prop
  | .literal _ => True
  | .slot name => name ∈ fixedContext.map Prod.fst

instance : DecidablePred IsFixed
  | .literal _ => inferInstanceAs (Decidable True)
  | .slot name => inferInstanceAs (Decidable (name ∈ fixedContext.map Prod.fst))

variable (settings : Settings) (names : Site.Names)

theorem fill_fixedPart {part : Part} (h : IsFixed part) :
    part.fill (bootstrapContext settings names) = .ok (fixedPart part) := by
  rcases part with text | name
  · rfl
  · have hname : name = "certbot_data" ∨ name = "certbot_service" ∨ name = "proxy_service" ∨
        name = "acme_webroot" := by
      simpa [IsFixed, fixedContext] using h
    rcases hname with rfl | rfl | rfl | rfl <;> rfl

theorem fill_fixedText {line : Phrase} (h : ∀ part ∈ line, IsFixed part) :
    Template.fill (bootstrapContext settings names) line = .ok (fixedText line) := by
  induction line with
  | nil => rw [fixedText, List.map_nil, String.join_nil, Template.fill]
  | cons part line ih =>
    rw [fixedText, List.map_cons, String.join_cons]
    exact fill_cons (fill_fixedPart settings names (h part List.mem_cons_self))
      (ih fun part hpart => h part (List.mem_cons_of_mem _ hpart))

/-! ### The whole script -/

/-- Lines as a text, each ended by a line break. -/
def joinLines (lines : List String) : String :=
  String.join (lines.map fun line => line ++ "\n")

theorem joinLines_append (lines more : List String) :
    joinLines (lines ++ more) = joinLines lines ++ joinLines more := by
  rw [joinLines, List.map_append, String.join_append]
  rfl

/-- A line that fills with a text stands in the whole with that text. -/
theorem fill_ofLines {context : Members} {lines : List Phrase} {texts : List String}
    (h : List.Forall₂ (fun line text => Template.fill context line = .ok text) lines texts) :
    Template.fill context (ofLines lines) = .ok (joinLines texts) := by
  induction h with
  | nil => rfl
  | @cons line text lines texts hline _ ih =>
    rw [ofLines, List.flatMap_cons, joinLines, List.map_cons, String.join_cons]
    exact fill_append (fill_append hline (fill_single rfl)) ih

/-- The values of the four variables. -/
def assignments : List String :=
  ["CERT_NAME=" ++ Shell.quote names.canonical,
    "DOMAINS=(" ++ (Shell.quote names.canonical ++ " " ++ Shell.quote names.aliasName ++ ")"),
    "EMAIL=" ++ Shell.quote (settings.tls.email.getD ""),
    "STAGING=" ++ (if settings.tls.staging then "1" else "0")]

/-- The lines in front of the assignments. -/
def linesBefore : List String :=
  openingLines.map fixedText

/-- The lines behind the assignments. -/
def linesBehind : List String :=
  (temporaryLines ++ requestLines).map fixedText

/-- The lines of the script for a site. -/
def scriptLines : List String :=
  linesBefore ++ assignments settings names ++ linesBehind

theorem fill_ofLines_fixed {lines : List Phrase} (h : ∀ line ∈ lines, ∀ part ∈ line, IsFixed part) :
    Template.fill (bootstrapContext settings names) (ofLines lines) =
      .ok (joinLines (lines.map fixedText)) := by
  refine fill_ofLines ?_
  rw [List.forall₂_map_right_iff, List.forall₂_same]
  exact fun line hline => fill_fixedText settings names (h line hline)

theorem fill_assignmentLines :
    Template.fill (bootstrapContext settings names) (ofLines assignmentLines) =
      .ok (joinLines (assignments settings names)) := by
  have hname : Template.fill (bootstrapContext settings names) ["CERT_NAME=", .slot "cert_name"] =
      .ok ("CERT_NAME=" ++ Shell.quote names.canonical) := fill_cons rfl (fill_single rfl)
  have hdomains : Template.fill (bootstrapContext settings names)
      ["DOMAINS=(", .slot "domains", ")"] =
      .ok ("DOMAINS=(" ++
        (Shell.quote names.canonical ++ " " ++ Shell.quote names.aliasName ++ ")")) :=
    fill_cons rfl (fill_cons rfl (fill_single rfl))
  have hemail : Template.fill (bootstrapContext settings names) ["EMAIL=", .slot "email"] =
      .ok ("EMAIL=" ++ Shell.quote (settings.tls.email.getD "")) := fill_cons rfl (fill_single rfl)
  have hstaging : Template.fill (bootstrapContext settings names) ["STAGING=", .slot "staging"] =
      .ok ("STAGING=" ++ (if settings.tls.staging then "1" else "0")) := by
    refine fill_cons rfl (fill_single ?_)
    change Except.ok (toString (if settings.tls.staging then (1 : Int) else 0)) = _
    cases settings.tls.staging <;> rfl
  exact fill_ofLines (.cons hname (.cons hdomains (.cons hemail (.cons hstaging .nil))))

/-- **The script can always be written**, and consists of the given lines. -/
theorem fill_bootstrapPhrase :
    Template.fill (bootstrapContext settings names) bootstrapPhrase =
      .ok (joinLines (scriptLines settings names)) := by
  -- Outside the assignments no line names a slot of the site.
  have hbefore : ∀ line ∈ openingLines, ∀ part ∈ line, IsFixed part := by decide
  have htemporary : ∀ line ∈ temporaryLines, ∀ part ∈ line, IsFixed part := by decide
  have hrequest : ∀ line ∈ requestLines, ∀ part ∈ line, IsFixed part := by decide
  rw [scriptLines, linesBehind, List.map_append, joinLines_append, joinLines_append,
    joinLines_append, ← String.append_assoc]
  refine fill_append (fill_append (fill_append ?_ (fill_assignmentLines settings names)) ?_) ?_
  · exact fill_ofLines_fixed settings names hbefore
  · exact fill_ofLines_fixed settings names htemporary
  · exact fill_ofLines_fixed settings names hrequest

/-! ### What the script does with its variables -/

/-- A character of the name of a variable. -/
def isVariableChar (c : Char) : Bool :=
  c.isAlphanum || c == '_'

/-- Reads a text behind the part that has been read so far. -/
def expansionFrom : Part → List Char → Phrase
  | part, [] => [part]
  | part, '$' :: rest => part :: expansionFrom (.slot "") rest
  | .literal text, c :: rest => expansionFrom (.literal (text.push c)) rest
  | .slot name, c :: rest =>
    if isVariableChar c then expansionFrom (.slot (name.push c)) rest
    else .slot name :: expansionFrom (.literal (String.singleton c)) rest

/-- A text in double quotes, as the shell reads it: each dollar sign begins the name of a
variable, and the value of the variable takes its place. -/
def expansion (text : String) : Phrase :=
  expansionFrom (.literal "") text.toList

/-- The word by which the script names the directory that it makes for the certificate. -/
def filledDirectory : String := "$DATA_PATH/conf/live/$CERT_NAME"

/-- The script makes the directory. -/
theorem mkdir_mem_linesBehind :
    "mkdir -p \"" ++ filledDirectory ++ "\" \"$DATA_PATH/www\"" ∈ linesBehind := by
  have hline : [.literal "mkdir -p \"$DATA_PATH/conf/live/$CERT_NAME\" \"$DATA_PATH/www\""] ∈
      temporaryLines ++ requestLines := by decide
  exact List.mem_map.mpr ⟨_, hline, rfl⟩

/-- The script keeps everything below one directory. -/
theorem dataPath_mem_linesBehind :
    "DATA_PATH=\"./" ++ Deployment.certbotDirectory ++ "\"" ∈ linesBehind := by
  have hline : [.literal "DATA_PATH=\"./", .slot "certbot_data", .literal "\""] ∈
      temporaryLines ++ requestLines := by decide
  exact List.mem_map.mpr ⟨_, hline, rfl⟩

/-- The values of the variables by which the directory is named. -/
def directoryVariables (names : Site.Names) : Members :=
  [("DATA_PATH", .text ("./" ++ Deployment.certbotDirectory)),
    ("CERT_NAME", .text names.canonical)]

/-- The directory that the script makes is named after the site. -/
theorem fill_filledDirectory :
    Template.fill (directoryVariables names) (expansion filledDirectory) =
      .ok ("./" ++ Deployment.issuedDirectory ++ "/live/" ++ names.canonical) := by
  -- A slash ends the name of a variable, so each name is read as meant.
  have hparts : expansion filledDirectory =
      [.literal "", .slot "DATA_PATH", .literal "/conf/live/", .slot "CERT_NAME"] := by
    decide
  rw [hparts]
  refine (fill_cons rfl (fill_cons rfl (fill_cons rfl (fill_single rfl)))).trans ?_
  rw [← String.append_assoc, ← String.append_assoc]
  rfl

end RemoteGateway.Certificate

namespace RemoteGateway.Deployment

/-- The script of a deployment consists of its lines. It can only be missing because the site
has no domain. -/
theorem bootstrap_eq {settings : Settings} (h : settings.tls.source = .letsEncrypt) :
    bootstrap settings =
      match settings.siteNames with
      | none => .error (.config (.missing "ssl.domain"))
      | some names =>
        .ok (some (Certificate.joinLines (Certificate.scriptLines settings names))) := by
  rw [bootstrap, h]
  rcases settings.siteNames with _ | names
  · rfl
  · have htext : Template.bootstrap.text (Certificate.bootstrapContext settings names) =
        .ok (Certificate.joinLines (Certificate.scriptLines settings names)) :=
      Certificate.fill_bootstrapPhrase settings names
    change ((Template.bootstrap.render _).mapError _).map some = _
    rw [Template.render, htext]
    rfl

end RemoteGateway.Deployment
