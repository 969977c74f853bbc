/-!
# Site names

A site has two names: a **canonical** one, under which its certificate is stored, and the
same name with `www.` in front, which redirects to it. `normalize` takes every leading
`www.` off a configured domain, so that the two names come out the same whichever of them,
and however often prefixed, was configured. No other rule of host names is enforced here.
-/

namespace RemoteGateway.Site

/-- A text without its leading run of `www.`. -/
def dropWww : List Char → List Char
  | 'w' :: 'w' :: 'w' :: '.' :: rest => dropWww rest
  | s => s

/-- A domain without its leading `www.` labels. -/
def normalize (domain : String) : String :=
  String.ofList (dropWww domain.toList)

/-- The two names of a site. -/
structure Names where
  canonical : String
  aliasName : String
  deriving DecidableEq

namespace Names

/-- The names of the site with a given base name. -/
def ofBase (base : String) : Names :=
  ⟨base, "www." ++ base⟩

/-- The names in the order in which a certificate is requested for them. -/
def list (names : Names) : List String :=
  [names.canonical, names.aliasName]

/-- The directory that holds the certificate of the site is named after the first name that
the certificate is requested for. -/
def certificateDirectory (names : Names) : String :=
  names.canonical

end Names

end RemoteGateway.Site
