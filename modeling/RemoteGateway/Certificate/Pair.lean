import RemoteGateway.Certificate.Pem
import RemoteGateway.Fault
import RemoteGateway.Settings.Basic

/-!
# Certificate pairs

A site whose certificate is not requested from elsewhere gets one that is issued on the host
and signed with its own key. What is issued depends on the request and on a serial number, so
that two issues need not agree even for the same names.
-/

namespace RemoteGateway.Certificate

/-- A certificate and the key that belongs to it. -/
structure Pair where
  certificate : ByteArray
  key : ByteArray

/-- The text of the certificate's file. -/
def Pair.certificateText (pair : Pair) : String :=
  armour "CERTIFICATE" pair.certificate

/-- The text of the key's file. -/
def Pair.keyText (pair : Pair) : String :=
  armour "PRIVATE KEY" pair.key

/-- The names that a certificate is issued for. -/
structure Request where
  commonName : String
  names : List String
  deriving DecidableEq

/-- The pair that a host issues for a request under a serial number, if it can issue any. -/
abbrev Issuer := Nat → Request → Option Pair

/-- Whether a name can stand in a certificate, which holds ASCII names only. -/
def isCertifiable (name : String) : Bool :=
  name.toList.all fun c => c.toNat < 128

/-- The request for the names of a site, or for the host itself when it has no name. -/
def Request.ofNames : Option Site.Names → Request
  | some names => ⟨names.canonical, names.list⟩
  | none => ⟨"localhost", ["localhost"]⟩

/-- The request that some settings lead to; the first name that cannot stand in a certificate
is reported. -/
def Request.ofSettings (settings : Settings) : Except CertificateFault Request :=
  let request := ofNames settings.siteNames
  match request.names.find? fun name => !isCertifiable name with
  | some name => .error (.notAscii name)
  | none => .ok request

end RemoteGateway.Certificate
