import RemoteGateway.Settings.Basic

/-!
# Notices

Everything that a run shows is a **notice**. A notice says what happened; its text is what is
written for it. Most notices are whole lines, and the questions of a session are shown as they
were asked.
-/

namespace RemoteGateway

/-- Something that a run shows. -/
inductive Notice where
  /-- A document was created at a path. -/
  | created (path : String)
  /-- The value at a key path, as text. -/
  | value (text : String)
  /-- The value at a key path was changed. -/
  | updated (key : String)
  /-- The questions that were asked. -/
  | dialogue (shown : String)
  /-- The answers for some keys were written to the document at a path. -/
  | saved (keys : List String) (path : String)
  /-- The artifacts are about to be generated. -/
  | generating (source : CertificateSource) (mode : String)
  /-- An artifact that is shown and not written. -/
  | preview (path content : String)
  /-- A file was written. -/
  | wrote (path : String)
  /-- A certificate pair was written below a directory. -/
  | certified (directory : String)
  | pulled
  /-- Everything is done; the application will be at a URL. -/
  | complete (url : String) (source : CertificateSource) (script : String)
  /-- The version of the program. -/
  | version (name number : String)
  /-- How the program is used. -/
  | usage
  deriving DecidableEq

namespace Notice

/-- What is left to do once everything is written. -/
def nextStep (source : CertificateSource) (script : String) : String :=
  match source with
  | .letsEncrypt => "💡 Next: run ./" ++ script ++ " once, then `docker compose up -d`.\n"
  | .selfSigned => "💡 Next: `docker compose up -d`.\n"

/-- How the program is used. -/
def usageText : String :=
  "Usage: guac-stack [OPTIONS] <COMMAND>\n\nCommands:\n" ++
  "  init      Create an empty configuration document\n" ++
  "  get       Print the value stored at a dotted key path\n" ++
  "  set       Store a value at a dotted key path\n" ++
  "  generate  Generate the deployment artifacts\n"

/-- What is written for a notice. -/
def text : Notice → String
  | created path =>
    "✅ Created " ++ path ++ "\n💡 Pin image versions with " ++
      "`guac-stack set versions.<component> <tag>`, then run `guac-stack generate`.\n"
  | value text => text ++ "\n"
  | updated key => "✅ " ++ key ++ " updated\n"
  | dialogue shown => shown
  | saved keys path => "💾 Saved " ++ String.intercalate ", " keys ++ " to " ++ path ++ "\n"
  | generating source mode =>
    "🔧 Generating deployment (" ++ source.name ++ ", " ++ mode ++ " mode)...\n"
  | preview path content => "--- " ++ path ++ " (dry run) ---\n" ++ content ++ "\n"
  | wrote path => "  ✓ " ++ path ++ "\n"
  | certified directory => "  ✓ " ++ directory ++ "/ (self-signed certificate)\n"
  | pulled => "  ✓ images pulled\n"
  | complete url source script =>
    "\n🎉 Generation complete. Guacamole will be served at " ++ url ++ "\n" ++
      nextStep source script
  | version name number => name ++ " " ++ number ++ "\n"
  | usage => usageText

end Notice

end RemoteGateway
