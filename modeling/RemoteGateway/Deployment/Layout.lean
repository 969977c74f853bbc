/-!
# Where things are

The paths of the artifacts relative to the output directory, the places at which containers
see them, and the names and ports under which the services of the deployment know each
other. Every artifact takes them from here, which is why they agree.
-/

namespace RemoteGateway.Deployment

/-! ### Files and mounts -/

def composeFile : String := "docker-compose.yml"
def proxyMainFile : String := "nginx/nginx.conf"
def proxySiteDirectory : String := "nginx/conf.d"
def virtualHostFile : String := "nginx/conf.d/guacamole.conf"
def bootstrapScript : String := "init-letsencrypt.sh"

/-- Holds the pair generated on this host. -/
def localTlsDirectory : String := "nginx/ssl"
def localTlsMount : String := "/etc/nginx/ssl"
def localCertificateFile : String := "cert.pem"
def localKeyFile : String := "key.pem"

/-- Holds what the certificate client keeps, requested certificates among it. -/
def certbotDirectory : String := "certbot"
def issuedDirectory : String := "certbot/conf"
def issuedMount : String := "/etc/letsencrypt"
def webrootDirectory : String := "certbot/www"
def webrootMount : String := "/var/www/certbot"

def initDirectory : String := "init"
def schemaFile : String := "init/initdb.sql"
def brokerConfigDirectory : String := "broker/config"

/-- All files, directories and mounts. -/
def paths : List String :=
  [composeFile, proxyMainFile, proxySiteDirectory, virtualHostFile, bootstrapScript,
    localTlsDirectory, localTlsMount, localCertificateFile, localKeyFile,
    certbotDirectory, issuedDirectory, issuedMount, webrootDirectory, webrootMount,
    initDirectory, schemaFile, brokerConfigDirectory]

/-! ### Services -/

/-- The name of the deployment, which the runtime puts in front of its networks and volumes. -/
def projectName : String := "guacamole"

def postgresService : String := "postgres"
def guacdService : String := "guacd"
def applicationService : String := "guacamole"
def brokerService : String := "session-broker"
def proxyService : String := "nginx"
def renewalService : String := "certbot"

def guacdPort : Nat := 4822
def applicationPort : Nat := 8080
def brokerPort : Nat := 5000

/-- The names of the deployment and of its services. -/
def serviceNames : List String :=
  [projectName, postgresService, guacdService, applicationService, brokerService, proxyService,
    renewalService]

/-- The first line of every artifact, without the comment mark. -/
def generatedNotice : String :=
  "Generated by guac-stack. Changes are overwritten on the next run."

end RemoteGateway.Deployment
