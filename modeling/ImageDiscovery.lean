import ImageDiscovery.Main
import ImageDiscovery.Proofs.App.Grammar
import ImageDiscovery.Proofs.App.Namespaces
import ImageDiscovery.Proofs.App.Notation
import ImageDiscovery.Proofs.App.Outward
import ImageDiscovery.Proofs.Client.Breakdown
import ImageDiscovery.Proofs.Client.Fallback
import ImageDiscovery.Proofs.Client.Headers
import ImageDiscovery.Proofs.Client.PageRequests
import ImageDiscovery.Proofs.Client.Plaintext
import ImageDiscovery.Proofs.Client.Policy
import ImageDiscovery.Proofs.Client.Secrecy
import ImageDiscovery.Proofs.Client.TagAnswers
import ImageDiscovery.Proofs.CommandLine.Discover
import ImageDiscovery.Proofs.Declaration.OnePass
import ImageDiscovery.Proofs.HostHeaders.Options
import ImageDiscovery.Proofs.Identifier.Runs
import ImageDiscovery.Proofs.Log.Settings
import ImageDiscovery.Proofs.Log.Setup
import ImageDiscovery.Proofs.Page.Declarations
import ImageDiscovery.Proofs.Resolution.Valid
import ImageDiscovery.Proofs.Template.Occurrences
import ImageDiscovery.Proofs.Template.Pieces
import ImageDiscovery.Proofs.Template.Resolved
import ImageDiscovery.Proofs.Template.TwoPasses
import ImageDiscovery.Proofs.Url.Hidden
import ImageDiscovery.Proofs.Url.Resource
import ImageDiscovery.Proofs.Walk.Order
import ImageDiscovery.Site
import ImageDiscovery.Proofs.Html.Progress
import ImageDiscovery.Proofs.Page.Truncated
import ImageDiscovery.Proofs.Client.PortHeaders
import ImageDiscovery.Proofs.Log.Redaction
import ImageDiscovery.Proofs.Text.Lowered
import ImageDiscovery.Proofs.Url.KeptParts
