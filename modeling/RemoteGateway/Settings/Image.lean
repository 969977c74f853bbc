/-!
# Images

The deployment consists of six components, each of which runs from an image. An image has a
repository, which has a default, and a tag, which has none: a component whose tag was not
chosen cannot be referred to, and no `latest` is ever assumed.
-/

namespace RemoteGateway

/-- A component of the deployment that runs from an image. -/
inductive Component where
  | postgres
  | guacd
  | guacamole
  | broker
  | nginx
  | certbot
  deriving DecidableEq

namespace Component

/-- All components, in the order in which their settings are read. -/
def all : List Component :=
  [postgres, guacd, guacamole, broker, nginx, certbot]

/-- The key of a component in the document. -/
def key : Component → String
  | postgres => "postgres"
  | guacd => "guacd"
  | guacamole => "guacamole"
  | broker => "broker"
  | nginx => "nginx"
  | certbot => "certbot"

/-- The repository that a component runs from unless another one is configured. -/
def defaultRepository : Component → String
  | postgres => "postgres"
  | guacd => "guacamole/guacd"
  | guacamole => "guacamole/guacamole"
  | broker => "ghcr.io/maximewewer/guacamole-session-broker"
  | nginx => "nginx"
  | certbot => "certbot/certbot"

end Component

/-- The characters that a tag may begin with. -/
def isTagStart (c : Char) : Bool :=
  c.isAlphanum || c == '_'

/-- The characters of a tag after the first. -/
def isTagPart (c : Char) : Bool :=
  isTagStart c || c == '.' || c == '-'

/-- Whether a text is a tag: up to 128 ASCII letters, digits, underscores, dots and hyphens,
of which a dot or a hyphen may not come first. -/
def isImageTag : List Char → Bool
  | [] => false
  | c :: rest => isTagStart c && rest.all isTagPart && rest.length ≤ 127

/-- A repository and, when it was chosen, a tag. -/
structure Image where
  repository : String
  tag : Option String
  deriving DecidableEq

/-- The text that refers to an image with a chosen tag. -/
def Image.reference? (image : Image) : Option String :=
  image.tag.map fun tag => image.repository ++ ":" ++ tag

/-- The image of each component. -/
structure Images where
  postgres : Image
  guacd : Image
  guacamole : Image
  broker : Image
  nginx : Image
  certbot : Image
  deriving DecidableEq

/-- The image of a component. -/
def Images.get (images : Images) : Component → Image
  | .postgres => images.postgres
  | .guacd => images.guacd
  | .guacamole => images.guacamole
  | .broker => images.broker
  | .nginx => images.nginx
  | .certbot => images.certbot

end RemoteGateway
