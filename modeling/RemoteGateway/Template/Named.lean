import RemoteGateway.Certificate.Bootstrap
import RemoteGateway.Proxy.MainFile
import RemoteGateway.Proxy.VirtualHost

/-!
# The templates of the artifacts

Three artifacts are written from templates, which go by the names of the files. `render` fills
in a template with the members of a context.
-/

namespace RemoteGateway

/-- An artifact that is written from a template. -/
inductive Template where
  | proxyMain
  | virtualHost
  | bootstrap
  deriving DecidableEq

namespace Template

open Document (Members Value)

/-- The name of a template. -/
def name : Template → String
  | proxyMain => "nginx.conf"
  | virtualHost => "guacamole.conf"
  | bootstrap => "init-letsencrypt.sh"

/-- The template with a name. -/
def ofName? (name : String) : Option Template :=
  [proxyMain, virtualHost, bootstrap].find? fun template => template.name == name

/-- The text of a template for a context, or its first slot that is not filled. -/
def text (context : Members) : Template → Except String String
  | proxyMain => (Proxy.Pattern.fillAll context Proxy.mainPattern).map Proxy.Directive.write
  | virtualHost =>
    (Proxy.Pattern.fillAll context Proxy.virtualHostPattern).map Proxy.Directive.write
  | bootstrap => fill context Certificate.bootstrapPhrase

/-- Fills in a template. -/
def render (template : Template) (context : Members) : Except TemplateFault String :=
  (template.text context).mapError (.missingVariable template.name)

/-- Fills in the template with a name from a value, which has to be an object. -/
def renderNamed (name : String) (context : Value) : Except TemplateFault String :=
  match context with
  | .object members =>
    match ofName? name with
    | some template => template.render members
    | none => .error (.unknownTemplate name)
  | _ => .error .contextNotObject

end Template

end RemoteGateway
