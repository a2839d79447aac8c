import Axiam.Lib.Run
import Axiam.Lib.Prog
import Axiam.Core.Http
import Axiam.Reactor.Replay
import Axiam.Core.Base64
import Axiam.Core.Origin
import Axiam.Core.Status
import Axiam.Ssf.Keys
import Axiam.Ssf.Verify
import Axiam.Ssf.Bound
import Axiam.Ssf.Verdict
import Axiam.Jwks.Total
import Axiam.Client.Impl
import Axiam.Client.Login
import Axiam.Client.Access
import Axiam.Management.Send
import Axiam.Client.Session
import Axiam.Client.Interleaving
import Axiam.Client.MemoSafety
import Axiam.Management.Manifest
import Axiam.Management.Validate
import Axiam.Management.Calls
import Axiam.Management.Plan
import Axiam.Management.Perform
import Axiam.Lib.Log
import Axiam.Management.Logic
import Axiam.Management.Report
import Axiam.Management.Wire
import Axiam.Management.Order
import Axiam.Management.Planned
import Axiam.Management.Dependency
import Axiam.Management.Stability
import Axiam.Management.ApplyReport
import Axiam.Management.Refresh
import Axiam.Client.Account
import Axiam.Client.Exclusivity
import Axiam.Client.Taxonomy
import Axiam.Jwks.Rate
import Axiam.Client.RefreshGuard
import Axiam.Client.SingleFlight
import Axiam.Oidc.DeviceGrant
import Axiam.Oidc.Polling
import Axiam.Auth.Authenticator
import Axiam.Oidc.IdToken
import Axiam.Oidc.Logout
import Axiam.Lib.Journal
import Axiam.Oidc.Ciba
import Axiam.Oidc.CibaAwait
import Axiam.Lib.Record
import Axiam.Retry.Accounting
import Axiam.Ssf.Exchange
import Axiam.Retry.Loops
import Axiam.Ssf.ReplayStore
import Axiam.Ssf.Sorting
import Axiam.Client.ActingTenant
import Axiam.Client.Principal
import Axiam.Auth.FeedContents
import Axiam.Auth.FeedRate
import Axiam.Core.Digits
import Axiam.Core.JsonText
import Axiam.Core.Uri
import Axiam.Lib.Code
import Axiam.Lib.Ownership
import Axiam.Memo.Keys
import Axiam.Memo.Upkeep
import Axiam.Oidc.RefreshFlight
import Axiam.Oidc.RefreshOnce
import Axiam.Opaque.Exchange
import Axiam.Opaque.Ownership
import Axiam.Reactor.Binding
import Axiam.Reactor.Endpoint
import Axiam.Reactor.Serve
import Axiam.Client.OpaqueLogin
import Axiam.Core.Path
import Axiam.Management.Addressing
import Axiam.Management.Paging
import Axiam.Oidc.UmaChallenge
import Axiam.Management.Rebinding
import Axiam.Management.Replacing
import Axiam.Management.ReasonCode
import Axiam.Auth.TokenTimes
import Axiam.Oidc.PollArithmetic
import Axiam.Management.Versions
import Axiam.Core.JsonDump
import Axiam.Core.OriginReading
import Axiam.Lib.Assoc
import Axiam.Oidc.IdpHint
import Axiam.Oidc.Registration
import Axiam.Oidc.RegistrationBearer
import Axiam.Ssf.Steps
import Axiam.Core.AuthParam
import Axiam.Mcp.AbsoluteUri
import Axiam.Mcp.Challenge
import Axiam.Mcp.Metadata
import Axiam.Webhook.Acceptance
import Axiam.Core.JsonGrammar
import Axiam.Core.JsonReading
import Axiam.Core.JsonWritten
import Axiam.Webauthn.FinishBody
import Axiam.Jose.Base64
import Axiam.Lib.Lending
import Axiam.Management.SsfStreams
import Axiam.Transport.Cookies
import Axiam.Transport.Pools
import Axiam.Client.Builder
import Axiam.Client.Decisions
import Axiam.Client.Guard
import Axiam.Oidc.CodeFlow
import Axiam.Oidc.CibaRequest
import Axiam.Transport.Jar
