import NodeClient.Client.Calls
import NodeClient.Proofs.Client.Session
import NodeClient.Proofs.Client.ErrorReply
import NodeClient.Proofs.Client.Exchange
import NodeClient.Proofs.Encoding.Idempotence
import NodeClient.Proofs.Encoding.Upgrade
import NodeClient.Proofs.Encoding.Agreement
import NodeClient.Proofs.Encoding.Choice
import NodeClient.Proofs.Projection.Availability
import NodeClient.Proofs.Projection.Mirror
import NodeClient.Proofs.Shape.Answers
import NodeClient.Proofs.Projection.Shared
import NodeClient.Proofs.Projection.Restriction
import NodeClient.Proofs.Projection.Compatibility
import NodeClient.Proofs.Projection.Failures
import NodeClient.Proofs.Client.Escape
import NodeClient.Proofs.Binding.Selection
import NodeClient.Proofs.Number.Rounding
import NodeClient.Proofs.Shape.Conformance
import NodeClient.Proofs.Shape.Rearrangement
import NodeClient.Proofs.Projection.Arrangement
import NodeClient.Proofs.Json.Number
import NodeClient.Proofs.Json.Text
import NodeClient.Proofs.Json.RoundTrip
import NodeClient.Proofs.Json.Names
import NodeClient.Proofs.Settings.Escape
import NodeClient.Proofs.Client.Secrecy
import NodeClient.Proofs.Frame.RoundTrip
import NodeClient.Proofs.Frame.Acceptance
import NodeClient.Proofs.Address.RoundTrip
import NodeClient.Proofs.Binding.Rearrangement
import NodeClient.Proofs.Client.Decoding
import NodeClient.Proofs.Json.Integers
import NodeClient.Proofs.Client.Correlation
import NodeClient.Proofs.Client.Returned
import NodeClient.Proofs.Instant.Calendar
import NodeClient.Proofs.Instant.Timestamp
import NodeClient.Proofs.Number.Precision
import NodeClient.Proofs.Amount
import NodeClient.Proofs.Settings.KeyPath
import NodeClient.Proofs.Settings.Credential
import NodeClient.Proofs.Projection.Recovery
import NodeClient.Proofs.Instant.Milliseconds
import NodeClient.Proofs.CookieFile.Lookahead
import NodeClient.Proofs.Encoding.Keywords
import NodeClient.Proofs.Client.ReportedVersion
import NodeClient.Proofs.Settings.FixedPoint
