import BigSkies.Client.Dispatch
import BigSkies.Client.Lifecycle
import BigSkies.Json.Decode
import BigSkies.Json.Encode
import BigSkies.Widgets.Routing

/-!
# The application's client

`BigSkiesApp` (app.py) builds one client after the login dialog, sets its connection
callbacks, connects, and then builds the three panels, whose constructors subscribe their
handlers and whose `ControlPanel` asks the ASCOM plugin for its configurations.  `startup`
is that sequence of calls, and `python` the codecs of CPython that the client calls on
payloads.  Running the client on them gives the registry the application really has, and
what `_on_message` hands each panel.

`onMessage_schedules_list` is the decoded payload of a message reaching a handler without a
check that it is a `dict`: the plugin's response topic with the payload `[]` schedules
`ControlPanel._on_config_response` with the empty list, on which its first
`payload.get(...)` raises.
-/

namespace BigSkies.App

open BigSkies.Json BigSkies.Topic BigSkies.Client BigSkies.Widgets BigSkiesMQTTClient

/-- The CPython library functions the client calls on payloads.  `json.dumps` raises
    `ValueError` on an `int` of more than `intMaxStrDigits` digits.  It also raises
    `RecursionError` on a value nested deeper than the interpreter's recursion limit allows,
    which depends on the version and on the stack at the call; the model does not decide
    that, so a result that needs `json.dumps` to return takes `dumps` returning as a
    hypothesis about the codec. -/
def python : Codec :=
  ⟨fun payload => String.mk <$> decodeUtf8 payload, loads,
    fun v => if v.intsFit then .ok (dumps v) else .error intMaxStrDigitsError⟩

/-- The handlers the panels register, by the bound method each one is. -/
inductive AppHandler where
  | healthMessage
  | controlTelescopeState
  | controlConfigResponse
  | controlConfigEvent
  | previewTelescopeState
deriving DecidableEq, Repr

/-- The connection callbacks of `BigSkiesApp`. -/
inductive AppCallback where
  | mqttConnected
  | mqttDisconnected
deriving DecidableEq, Repr

/-- `ControlPanel.plugin_id`, the ASCOM Alpaca simulator plugin (control_panel.py:23). -/
def pluginId : String := "f7e8d9c6-b5a4-3210-9876-543210fedcba"

/-- `f"bigskies/plugin/{self.plugin_id}/config/{kind}"`. -/
def configTopic (kind : String) : String := "bigskies/plugin/" ++ pluginId ++ "/config/" ++ kind

/-- The calls the application makes on its client once the login succeeds and `connect()`
    returns `True`: `set_callbacks` and `connect` (app.py:63-68), then the constructors of
    `HealthPanel`, `ControlPanel` (its three subscriptions and `_request_configurations`)
    and `TelescopePreview` (app.py:110-116).  `requestMs` is `int(time.time() * 1000)`. -/
def startup (requestMs : Nat) : List (Event AppHandler AppCallback) :=
  [.setCallbacks (some .mqttConnected) (some .mqttDisconnected),
   .connect true,
   .subscribe healthStatusPattern .healthMessage,
   .subscribe telescopeStatePattern .controlTelescopeState,
   .subscribe (configTopic "response") .controlConfigResponse,
   .subscribe (configTopic "event") .controlConfigEvent,
   .publish (configTopic "list")
     (.obj [("command", .str "list_configs"), ("request_id", .str ("gui-request-" ++ toString requestMs))]) 1,
   .subscribe telescopeStatePattern .previewTelescopeState]

/-- The application's client after `startup`, on the broker `host`. -/
def started (host : String) (requestMs : Nat) : BigSkiesMQTTClient AppHandler AppCallback :=
  run python (init host 1883) (startup requestMs)

/-- The registry of the running application: four patterns, the telescope state pattern
    holding the control panel's handler before the preview's. -/
theorem started_registry (host : String) (requestMs : Nat) :
    (started host requestMs).messageHandlers.keys =
      [healthStatusPattern, telescopeStatePattern, configTopic "response", configTopic "event"] ∧
    (started host requestMs).messageHandlers.handlers telescopeStatePattern =
      [.controlTelescopeState, .previewTelescopeState] := by
  constructor
  · rw [started, keys_run]; simp [startup, subscriptions, Event.subscription?]; decide
  · rw [started, handlers_run, if_pos (by decide)]
    simp [startup, subscribedHandlers, subscriptions, Event.subscription?]; decide

/-- A list payload on the plugin's response topic reaches `_on_config_response` as a list,
    and there `payload.get("command", "")` raises `AttributeError`. -/
theorem onMessage_schedules_list :
    (step python (started "localhost" 0) (.onMessage (configTopic "response") [0x5B, 0x5D])).2 =
      [.idleAddHandler .controlConfigResponse (configTopic "response") (.arr [])] ∧
    ControlPanel.onConfigResponse (.arr []) = .error (.attributeError "list" "get") :=
  ⟨rfl, rfl⟩

end BigSkies.App
