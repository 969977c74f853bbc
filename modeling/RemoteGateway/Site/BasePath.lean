import RemoteGateway.Text.Blank

/-!
# Base paths

A base path is the part of a URL path below which the application is published: one or more
segments between two slashes, such as `/remote/desktop/`. It is held as its **core**, the
text between the outer slashes, together with what makes it usable: the core is not empty,
holds no blank and none of the characters that end or nest a proxy directive, and the path
neither contains the broker's prefix nor is contained in it, so the two never answer for
the same request.
-/

namespace RemoteGateway.Site

/-- The path below which the session broker is published. -/
def brokerPrefix : String := "/broker/api/"

/-- The path below which the application serves itself. -/
def applicationPath : String := "/guacamole/"

/-- Characters that cannot stand in a base path. -/
def isUnusable (c : Char) : Bool :=
  Text.isBlank c || c == ';' || c == '\x7b' || c == '\x7d'

/-- A core between slashes. -/
def slashed (core : List Char) : List Char :=
  '/' :: (core ++ ['/'])

/-- Whether the broker's prefix and the path with a given core begin with one another. -/
def meetsBroker (core : List Char) : Bool :=
  (slashed core).isPrefixOf brokerPrefix.toList || brokerPrefix.toList.isPrefixOf (slashed core)

/-- A path below which the application can be published. -/
structure BasePath where
  /-- The text between the outer slashes. -/
  core : List Char
  core_ne_nil : core ≠ []
  usable : ∀ c ∈ core, isUnusable c = false
  apart : meetsBroker core = false
  deriving DecidableEq

namespace BasePath

/-- Why a text is no base path. -/
inductive Fault where
  /-- Nothing but blanks and slashes. -/
  | empty
  /-- A character that cannot stand in a base path. -/
  | unusable (raw : String)
  /-- The path and the broker's prefix begin with one another. -/
  | meetsBroker (path : String)
  deriving DecidableEq

/-- The wording of a fault. -/
def Fault.message : Fault → String
  | empty => "path mode needs a non-root base path; use url_mode=root"
  | unusable raw => "'" ++ raw ++ "' is not a usable URL path"
  | meetsBroker path => "'" ++ path ++ "' collides with the broker API prefix"

/-- The path itself, with a slash at either end. -/
def text (path : BasePath) : String :=
  String.ofList (slashed path.core)

/-- What is left of a text without surrounding blanks, and then without surrounding
slashes. -/
def coreOf (raw : String) : List Char :=
  Text.trimWhere (· == '/') (Text.trim raw.toList)

/-- Reads a base path; slashes at either end may be missing. -/
def parse (raw : String) : Except Fault BasePath :=
  let core := coreOf raw
  if hn : core = [] then .error .empty
  else if hu : core.any isUnusable = true then .error (.unusable raw)
  else if hb : Site.meetsBroker core = true then
    .error (.meetsBroker (String.ofList (slashed core)))
  else .ok ⟨core, hn, by simpa using hu, by simpa using hb⟩

end BasePath

end RemoteGateway.Site
