import BigSkies.Topic.Matcher
import BigSkies.Topic.Semantics
import BigSkies.Json.Value
import BigSkies.Json.Decode
import BigSkies.Json.Encode
import BigSkies.Json.RoundTrip
import BigSkies.Client.Registry
import BigSkies.Client.Client
import BigSkies.Client.Dispatch
import BigSkies.Client.Lifecycle
import BigSkies.Client.Threads
import BigSkies.Widgets.Handlers
import BigSkies.Widgets.Routing
import BigSkies.App.Wiring
import BigSkies.App.Delivery
import BigSkies.App.MainLoop
import BigSkies.App.Runtime
import BigSkies.App.Configuration
import BigSkies.App.HealthRows
import BigSkies.App.ConfigList
import BigSkies.App.Session
