import RemoteGateway.Document.KeyPath
import RemoteGateway.Fault

/-!
# Questions

A **question** asks for the value of one key. Its form says which answers are taken, what an
empty answer means, and what the end of the answers means; an answer that is not taken is
complained about and the question is asked again. A question is open while the document does
not say what it asks for and what the document does say makes it relevant.

The questions stand in a fixed order, and each may depend on what the ones before it stored.
-/

namespace RemoteGateway.Prompt

open Document (Value)

/-- A line of answers, or nothing when its bytes are not well-formed text. -/
abbrev Line := Option String

/-- Why an answer is not taken. -/
inductive Complaint where
  | required
  | notAmong (choices : List String) (answer : String)
  | basePath (fault : Site.BasePath.Fault)
  deriving DecidableEq

/-- The wording of a complaint. -/
def Complaint.message : Complaint → String
  | required => "A value is required."
  | notAmong choices answer =>
    "'" ++ answer ++ "' is not one of " ++ String.intercalate ", " choices
  | basePath fault => fault.message

/-- Which answers a question takes. -/
inductive Form where
  /-- Any answer that is not empty. -/
  | required
  /-- Any answer; the end of the answers counts as an empty one, and an empty one is
  remembered. -/
  | free
  /-- One of some names; an empty answer stands for the first. -/
  | choice (first : String) (others : List String)
  /-- Any answer; an empty one stands for a given text. -/
  | proposed (proposal : String)
  /-- A base path; an empty answer stands for a given one. -/
  | basePath (proposal : String)
  deriving DecidableEq

namespace Form

/-- What is shown after the label of a question. -/
def hint : Form → String
  | required | free => ""
  | choice first others =>
    " (" ++ String.intercalate "/" (first :: others) ++ ") [" ++ first ++ "]"
  | proposed proposal | basePath proposal => " [" ++ proposal ++ "]"

/-- Reads an answer without surrounding blanks: the text to store, or why it is not taken. -/
def accept (form : Form) (answer : String) : Except Complaint String :=
  match form with
  | required => if answer = "" then .error .required else .ok answer
  | free => .ok answer
  | choice first others =>
    if answer = "" then .ok first
    else if answer ∈ first :: others then .ok answer
    else .error (.notAmong (first :: others) answer)
  | proposed proposal => .ok (if answer = "" then proposal else answer)
  | basePath proposal =>
    match Site.BasePath.parse (if answer = "" then proposal else answer) with
    | .ok path => .ok path.text
    | .error fault => .error (.basePath fault)

/-- What to store when there are no more answers, if the form can do without one. -/
def closed : Form → Option String
  | free => some ""
  | _ => none

end Form

/-- A question for the value of a key. -/
structure Question where
  key : String
  label : String
  form : Form
  /-- Whether a document makes the question relevant. -/
  relevant : Value → Bool := fun _ => true

namespace Question

/-- What is shown each time the question is asked. -/
def text (question : Question) : String :=
  question.label ++ question.form.hint ++ ": "

/-- Whether the question is to be asked about a document. A free answer is there as soon as
the key has any value, every other one when the key has a text. -/
def isOpen (question : Question) (document : Value) : Bool :=
  question.relevant document &&
    match question.form with
    | .free => (document.get? question.key).isNone
    | _ => document.isUnset question.key

end Question

/-! ### The questions in their order -/

/-- Whether the certificate is to be requested from Let's Encrypt. -/
def requestsCertificate (document : Value) : Bool :=
  document.getTextD "ssl.mode" "selfsigned" == "letsencrypt"

/-- Whether the application is published in a given way. -/
def publishesBy (mode : String) (document : Value) : Bool :=
  document.getTextD "nginx.url_mode" "path" == mode

def databasePassword : Question where
  key := "database.password"
  label := "Database password"
  form := .required

def adminPassword : Question where
  key := "guacamole.admin_password"
  label := "Guacamole admin password"
  form := .required

def certificateSource : Question where
  key := "ssl.mode"
  label := "SSL mode"
  form := .choice "selfsigned" ["letsencrypt"]

def urlMode : Question where
  key := "nginx.url_mode"
  label := "URL mode"
  form := .choice "path" ["root", "subdomain"]

def domain : Question where
  key := "ssl.domain"
  label := "Domain name (e.g. example.com)"
  form := .required
  relevant := requestsCertificate

def email : Question where
  key := "ssl.email"
  label := "Contact email for Let's Encrypt (optional)"
  form := .free
  relevant := requestsCertificate

def basePath : Question where
  key := "nginx.base_path"
  label := "Base path"
  form := .basePath "/guacamole/"
  relevant := publishesBy "path"

def subdomain : Question where
  key := "nginx.subdomain"
  label := "Subdomain label"
  form := .proposed "guacamole"
  relevant := publishesBy "subdomain"

/-- All questions, in the order in which they are asked. -/
def questions : List Question :=
  [databasePassword, adminPassword, certificateSource, urlMode, domain, email, basePath,
    subdomain]

end RemoteGateway.Prompt
