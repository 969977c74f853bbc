import RemoteGateway.Site.BasePath
import RemoteGateway.Site.Domain

/-!
# How a site is reached

The application is published below a path of the domain, at the root of the domain, or at
the root of a subdomain of its own. Only the last one changes the names of the site, and
only the first one the path.
-/

namespace RemoteGateway.Site

/-- How the application is reached from outside. -/
inductive Exposure where
  | path (base : BasePath)
  | root
  | subdomain (label : String)
  deriving DecidableEq

namespace Exposure

/-- The path below which the application answers. -/
def basePath : Exposure → String
  | path base => base.text
  | root | subdomain _ => "/"

/-- The name of the mode. -/
def mode : Exposure → String
  | path _ => "path"
  | root => "root"
  | subdomain _ => "subdomain"

end Exposure

/-- The names of the site for a configured domain: those of the domain itself, or of the
label in front of it. -/
def names (domain : String) : Exposure → Names
  | .path _ | .root => .ofBase (normalize domain)
  | .subdomain label => .ofBase (label ++ "." ++ normalize domain)

end RemoteGateway.Site
