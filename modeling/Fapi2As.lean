import Fapi2As.Async.Prog
import Fapi2As.Async.Run
import Fapi2As.Async.BigStep
import Fapi2As.Async.Trace
import Fapi2As.Async.Linearize
import Fapi2As.Async.RelyGuarantee
import Fapi2As.Async.LostAnswers
import Fapi2As.Replay.Guard
import Fapi2As.Quota.Windows
import Fapi2As.Quota.Spacing
import Fapi2As.Markup.Entities
import Fapi2As.Markup.Tags
import Fapi2As.Txn.Db
import Fapi2As.Web.Url
import Fapi2As.Web.Query
import Fapi2As.Js.Map
import Fapi2As.Sql.Table
import Fapi2As.Js.Text
import Fapi2As.Js.Encoding
import Fapi2As.Js.Utf16
import Fapi2As.Js.Value
import Fapi2As.Platform
import Fapi2As.Config
import Fapi2As.Domain.Errors
import Fapi2As.Crypto.Jwks
import Fapi2As.Db.Types
import Fapi2As.Db.Store
import Fapi2As.Db.Memory
import Fapi2As.Db.JtiReplay
import Fapi2As.Db.Pg
import Fapi2As.Db.Migrate
import Fapi2As.Db.Effects
import Fapi2As.Db.Texts
import Fapi2As.Calls
import Fapi2As.Domain.Clients
import Fapi2As.Domain.AuthzRequest
import Fapi2As.Domain.Pkce
import Fapi2As.Crypto.Jws
import Fapi2As.Domain.Dpop
import Fapi2As.Domain.ClientAuth
import Fapi2As.Domain.Sessions
import Fapi2As.Domain.Interaction
import Fapi2As.Domain.Par
import Fapi2As.Domain.Grant
import Fapi2As.Domain.Tokens
import Fapi2As.Domain.TokenLookup
import Fapi2As.Endpoints.Http
import Fapi2As.Endpoints.Views
import Fapi2As.Endpoints.Form
import Fapi2As.Endpoints.Backchannel
import Fapi2As.Endpoints.Frontchannel
import Fapi2As.Endpoints.Routes
import Fapi2As.Endpoints.RateLimit
import Fapi2As.LoadConfig
import Fapi2As.Server.System
import Fapi2As.Server.Justified
import Fapi2As.Server.Backchannel
import Fapi2As.Server.Frontchannel
import Fapi2As.Server.Rows
import Fapi2As.Server.Runs
import Fapi2As.Server.TokenReplies
import Fapi2As.Server.Alone
import Fapi2As.Server.TokenQueries
import Fapi2As.Server.Statements
import Fapi2As.Server.Clock
import Fapi2As.Server.Handed
import Fapi2As.Server.Timely
import Fapi2As.Server.LostAnswers
import Fapi2As.Sample
import Fapi2As.Readiness
import Fapi2As.Properties.Adapters
import Fapi2As.Properties.AuthContext
import Fapi2As.Properties.ClientAuthentication
import Fapi2As.Properties.Outages
import Fapi2As.Properties.Pages
import Fapi2As.Properties.CodeReplay
import Fapi2As.Properties.OneTime
import Fapi2As.Properties.Lineage
import Fapi2As.Properties.GrantTypes
import Fapi2As.Properties.Isolation
import Fapi2As.Properties.ClientWrites
import Fapi2As.Properties.SenderConstraint
import Fapi2As.Properties.Revocation
import Fapi2As.Properties.Presentations
import Fapi2As.Properties.EndToEnd
import Fapi2As.Properties.Reuse
import Fapi2As.Properties.Ownership
import Fapi2As.Properties.Exchanges
import Fapi2As.Properties.Lifetimes
import Fapi2As.Properties.Records
import Fapi2As.Properties.Admissions
import Fapi2As.Properties.Probes
import Fapi2As.Properties.StatementRuns
import Fapi2As.Properties.LoginFlow
import Fapi2As.Properties.MaxAge
import Fapi2As.Properties.Migrations
import Fapi2As.Properties.Issuers
import Fapi2As.Properties.RateLimits
import Fapi2As.Properties.NonceRetry
import Fapi2As.Properties.NonceWindows
import Fapi2As.Properties.ReplayGuard
import Fapi2As.Properties.Provenance
import Fapi2As.Properties.Redirects
import Fapi2As.Properties.Repeats
import Fapi2As.Properties.Responses
import Fapi2As.Properties.TokenAgreement
import Fapi2As.Properties.Hints
import Fapi2As.Properties.RoundTrip
import Fapi2As.Properties.Pushes
import Fapi2As.Properties.SessionTokens
import Fapi2As.Properties.SingleUse
import Fapi2As.Properties.StoredTexts
import Fapi2As.Keys.Store
import Fapi2As.Keys.Spec
import Fapi2As.Keys.Runs
import Fapi2As.Properties.SigningKeys
import Fapi2As.Properties.FirstBoot
import Fapi2As.Properties.KeysInUse
import Fapi2As.Properties.Rotations
import Fapi2As.Properties.Instances
