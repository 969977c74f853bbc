import RemoteGateway.Deployment.Layout
import RemoteGateway.Fault
import RemoteGateway.Settings.Basic
import RemoteGateway.Shell.Word
import RemoteGateway.Template.Phrase

/-!
# Requesting the first certificate

A deployment whose certificate is requested needs a script that is run once: it lets the proxy
start with a certificate of its own making, requests the real one and reloads the proxy. From
then on a service of the deployment renews it. All that varies is assigned to four variables
at the top, each value as a word that the shell takes literally.
-/

namespace RemoteGateway.Certificate

open Document (Members)
open Template (Phrase Part)

/-- What stands before the assignments: the shell is told to stop at the first failure, and the
script works in its own directory. -/
def openingLines : List Phrase :=
  [["#!/usr/bin/env bash"],
    ["# ", Deployment.generatedNotice],
    ["#"],
    ["# Requests the Let's Encrypt certificate for this deployment once, then"],
    ["# leaves renewal to the certbot service."],
    ["set -euo pipefail"],
    [],
    ["cd \"$(dirname \"$0\")\""],
    []]

/-- The assignments of what varies between sites. -/
def assignmentLines : List Phrase :=
  [["CERT_NAME=", .slot "cert_name"],
    ["DOMAINS=(", .slot "domains", ")"],
    ["EMAIL=", .slot "email"],
    ["STAGING=", .slot "staging"]]

/-- Nothing is done when there is a certificate already. Otherwise the proxy is started with a
temporary one, which is removed again. -/
def temporaryLines : List Phrase :=
  [["RSA_KEY_SIZE=4096"],
    ["DATA_PATH=\"./", .slot "certbot_data", "\""],
    [],
    ["if [ -e \"$DATA_PATH/conf/renewal/$CERT_NAME.conf\" ]; then"],
    ["  echo \"Certificate for $CERT_NAME already issued, nothing to do.\""],
    ["  exit 0"],
    ["fi"],
    [],
    ["mkdir -p \"$DATA_PATH/conf/live/$CERT_NAME\" \"$DATA_PATH/www\""],
    [],
    ["echo \"### Creating temporary certificate for $CERT_NAME ...\""],
    ["docker compose run --rm --no-deps --entrypoint sh ", .slot "certbot_service", " -c \"\\"],
    ["  openssl req -x509 -nodes -newkey rsa:2048 -days 1 \\"],
    ["    -keyout /etc/letsencrypt/live/$CERT_NAME/privkey.pem \\"],
    ["    -out /etc/letsencrypt/live/$CERT_NAME/fullchain.pem \\"],
    ["    -subj /CN=localhost \\"],
    ["  && cp /etc/letsencrypt/live/$CERT_NAME/fullchain.pem ",
      "/etc/letsencrypt/live/$CERT_NAME/chain.pem\""],
    [],
    ["echo \"### Starting ", .slot "proxy_service", " ...\""],
    ["docker compose up --force-recreate -d ", .slot "proxy_service"],
    [],
    ["echo \"### Removing temporary certificate for $CERT_NAME ...\""],
    ["docker compose run --rm --no-deps --entrypoint sh ", .slot "certbot_service", " -c \"\\"],
    ["  rm -rf /etc/letsencrypt/live/$CERT_NAME \\"],
    ["    /etc/letsencrypt/archive/$CERT_NAME \\"],
    ["    /etc/letsencrypt/renewal/$CERT_NAME.conf\""],
    []]

/-- The certificate is requested for all domains, and the proxy reloaded. -/
def requestLines : List Phrase :=
  [["echo \"### Requesting certificate for $\x7bDOMAINS[*]\x7d ...\""],
    ["DOMAIN_ARGS=()"],
    ["for domain in \"$\x7bDOMAINS[@]\x7d\"; do"],
    ["  DOMAIN_ARGS+=(-d \"$domain\")"],
    ["done"],
    [],
    ["if [ -n \"$EMAIL\" ]; then"],
    ["  EMAIL_ARGS=(--email \"$EMAIL\")"],
    ["else"],
    ["  EMAIL_ARGS=(--register-unsafely-without-email)"],
    ["fi"],
    [],
    ["STAGING_ARGS=()"],
    ["if [ \"$STAGING\" != \"0\" ]; then"],
    ["  STAGING_ARGS=(--staging)"],
    ["fi"],
    [],
    ["docker compose run --rm --no-deps --entrypoint certbot ", .slot "certbot_service", " \\"],
    ["  certonly --webroot -w ", .slot "acme_webroot", " \\"],
    ["  --cert-name \"$CERT_NAME\" \\"],
    ["  \"$\x7bDOMAIN_ARGS[@]\x7d\" \\"],
    ["  \"$\x7bEMAIL_ARGS[@]\x7d\" \\"],
    ["  $\x7bSTAGING_ARGS[@]+\"$\x7bSTAGING_ARGS[@]\x7d\"\x7d \\"],
    ["  --rsa-key-size \"$RSA_KEY_SIZE\" \\"],
    ["  --agree-tos --no-eff-email --non-interactive"],
    [],
    ["echo \"### Reloading ", .slot "proxy_service", " ...\""],
    ["docker compose exec ", .slot "proxy_service", " nginx -s reload"]]

/-- Lines as one phrase. -/
def ofLines (lines : List Phrase) : Phrase :=
  lines.flatMap fun line => line ++ [.literal "\n"]

/-- The whole script as one phrase. -/
def bootstrapPhrase : Phrase :=
  ofLines openingLines ++ ofLines assignmentLines ++ ofLines temporaryLines ++
    ofLines requestLines

/-- What fills the script for a site. -/
def bootstrapContext (settings : Settings) (names : Site.Names) : Members :=
  [("cert_name", .text (Shell.quote names.certificateDirectory)),
    ("domains", .text (String.intercalate " " (names.list.map Shell.quote))),
    ("email", .text (Shell.quote (settings.tls.email.getD ""))),
    ("staging", .number (.integer (if settings.tls.staging then 1 else 0))),
    ("certbot_data", .text Deployment.certbotDirectory),
    ("certbot_service", .text Deployment.renewalService),
    ("proxy_service", .text Deployment.proxyService),
    ("acme_webroot", .text Deployment.webrootMount)]

end RemoteGateway.Certificate
