import RemoteGateway.Certificate.Bootstrap
import RemoteGateway.Certificate.Pair
import RemoteGateway.Certificate.Pem
import RemoteGateway.Command
import RemoteGateway.CommandLine.Invocation
import RemoteGateway.CommandLine.Reading
import RemoteGateway.CommandLine.Switch
import RemoteGateway.Compose.Build
import RemoteGateway.Compose.Interpolation
import RemoteGateway.Compose.Topology
import RemoteGateway.Decimal.Double
import RemoteGateway.Decimal.Layout
import RemoteGateway.Decimal.Shortest
import RemoteGateway.Deployment.Artifacts
import RemoteGateway.Deployment.Layout
import RemoteGateway.Deployment.Provision
import RemoteGateway.Document.KeyPath
import RemoteGateway.Document.Parser
import RemoteGateway.Document.Printer
import RemoteGateway.Document.Store
import RemoteGateway.Document.Token
import RemoteGateway.Document.Value
import RemoteGateway.Fault
import RemoteGateway.FileTree.Basic
import RemoteGateway.FileTree.Changes
import RemoteGateway.FileTree.Location
import RemoteGateway.FileTree.Step
import RemoteGateway.Host.Activity
import RemoteGateway.Host.Notice
import RemoteGateway.Host.Tools
import RemoteGateway.Main
import RemoteGateway.Program.Execution
import RemoteGateway.Program.Generate
import RemoteGateway.Prompt.Question
import RemoteGateway.Prompt.Session
import RemoteGateway.Proofs.Certificate.Assigning
import RemoteGateway.Proofs.Certificate.Script
import RemoteGateway.Proofs.Compose.Interpolating
import RemoteGateway.Proofs.Compose.Legible
import RemoteGateway.Proofs.Compose.Meaning
import RemoteGateway.Proofs.Compose.Mounts
import RemoteGateway.Proofs.Compose.Probing
import RemoteGateway.Proofs.Compose.Reading
import RemoteGateway.Proofs.Compose.Services
import RemoteGateway.Proofs.Compose.Values
import RemoteGateway.Proofs.Deployment.CertificateDirectory
import RemoteGateway.Proofs.Deployment.Footprints
import RemoteGateway.Proofs.Deployment.Generating
import RemoteGateway.Proofs.Deployment.Outputs
import RemoteGateway.Proofs.Deployment.Ports
import RemoteGateway.Proofs.Deployment.Provisioning
import RemoteGateway.Proofs.Deployment.PublicUrls
import RemoteGateway.Proofs.Deployment.Regenerating
import RemoteGateway.Proofs.Deployment.Secrets
import RemoteGateway.Proofs.Deployment.Succeeding
import RemoteGateway.Proofs.Document.Integers
import RemoteGateway.Proofs.Document.Persistence
import RemoteGateway.Proofs.Document.Places
import RemoteGateway.Proofs.Document.Reading
import RemoteGateway.Proofs.Document.Recovery
import RemoteGateway.Proofs.Document.Reflecting
import RemoteGateway.Proofs.Document.Restating
import RemoteGateway.Proofs.Document.RoundTrip
import RemoteGateway.Proofs.Document.Shape
import RemoteGateway.Proofs.Document.Storing
import RemoteGateway.Proofs.FileTree.Changing
import RemoteGateway.Proofs.FileTree.Destinations
import RemoteGateway.Proofs.FileTree.Guarding
import RemoteGateway.Proofs.FileTree.Keeping
import RemoteGateway.Proofs.FileTree.Reaching
import RemoteGateway.Proofs.FileTree.Replacing
import RemoteGateway.Proofs.FileTree.Rooting
import RemoteGateway.Proofs.FileTree.Staging
import RemoteGateway.Proofs.FileTree.Writing
import RemoteGateway.Proofs.Host.Calling
import RemoteGateway.Proofs.Host.Groups
import RemoteGateway.Proofs.Outcome
import RemoteGateway.Proofs.Program.Deploying
import RemoteGateway.Proofs.Program.Launching
import RemoteGateway.Proofs.Program.Previewing
import RemoteGateway.Proofs.Program.Remembering
import RemoteGateway.Proofs.Program.Stages
import RemoteGateway.Proofs.Program.Tracing
import RemoteGateway.Proofs.Prompt.Accepted
import RemoteGateway.Proofs.Prompt.Amending
import RemoteGateway.Proofs.Prompt.Asking
import RemoteGateway.Proofs.Prompt.Collecting
import RemoteGateway.Proofs.Prompt.Course
import RemoteGateway.Proofs.Prompt.Ending
import RemoteGateway.Proofs.Prompt.Preserving
import RemoteGateway.Proofs.Prompt.Publishing
import RemoteGateway.Proofs.Prompt.Repeating
import RemoteGateway.Proofs.Prompt.Resuming
import RemoteGateway.Proofs.Proxy.Filling
import RemoteGateway.Proofs.Proxy.Intruding
import RemoteGateway.Proofs.Proxy.Locations
import RemoteGateway.Proofs.Proxy.Published
import RemoteGateway.Proofs.Proxy.Reading
import RemoteGateway.Proofs.Proxy.Routes
import RemoteGateway.Proofs.Proxy.Routing
import RemoteGateway.Proofs.Proxy.Servers
import RemoteGateway.Proofs.Proxy.Serving
import RemoteGateway.Proofs.Proxy.Spelling
import RemoteGateway.Proofs.Proxy.Surveys
import RemoteGateway.Proofs.Proxy.Tables
import RemoteGateway.Proofs.Settings.Cleaning
import RemoteGateway.Proofs.Settings.Faults
import RemoteGateway.Proofs.Settings.Footprint
import RemoteGateway.Proofs.Settings.Numbers
import RemoteGateway.Proofs.Settings.PublicUrl
import RemoteGateway.Proofs.Settings.Requirements
import RemoteGateway.Proofs.Settings.Restating
import RemoteGateway.Proofs.Settings.SiteNames
import RemoteGateway.Proofs.Settings.Subdomains
import RemoteGateway.Proofs.Shell.Assigning
import RemoteGateway.Proofs.Shell.Plain
import RemoteGateway.Proofs.Shell.Reading
import RemoteGateway.Proofs.Site.BasePaths
import RemoteGateway.Proofs.Site.Cores
import RemoteGateway.Proofs.Site.Domains
import RemoteGateway.Proofs.Site.HostNames
import RemoteGateway.Proofs.Site.Prefixes
import RemoteGateway.Proofs.Template.Phrases
import RemoteGateway.Proofs.Text.Canonical
import RemoteGateway.Proofs.Text.Decoding
import RemoteGateway.Proofs.Text.Numerals
import RemoteGateway.Proofs.Text.Splitting
import RemoteGateway.Proofs.Text.Trimming
import RemoteGateway.Proofs.Yaml.Blocks
import RemoteGateway.Proofs.Yaml.Flow
import RemoteGateway.Proofs.Yaml.Legible
import RemoteGateway.Proofs.Yaml.Lines
import RemoteGateway.Proofs.Yaml.Reading
import RemoteGateway.Proofs.Yaml.Resolving
import RemoteGateway.Proofs.Yaml.RoundTrip
import RemoteGateway.Proofs.Yaml.Scalars
import RemoteGateway.Proofs.Yaml.Texts
import RemoteGateway.Proxy.Configuration
import RemoteGateway.Proxy.MainFile
import RemoteGateway.Proxy.VirtualHost
import RemoteGateway.Settings.Basic
import RemoteGateway.Settings.Image
import RemoteGateway.Settings.Reader
import RemoteGateway.Shell.Word
import RemoteGateway.Site.BasePath
import RemoteGateway.Site.Domain
import RemoteGateway.Site.Exposure
import RemoteGateway.Template.Named
import RemoteGateway.Template.Phrase
import RemoteGateway.Text.Blank
import RemoteGateway.Text.Numeral
import RemoteGateway.Text.Utf8
import RemoteGateway.Yaml.Character
import RemoteGateway.Yaml.Node
import RemoteGateway.Yaml.Resolution
import RemoteGateway.Yaml.Scalar
