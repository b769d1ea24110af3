import BigSkies.App.Delivery
import BigSkies.App.MainLoop

/-!
# What the running application shows

The main loop of `BigSkies.App.MainLoop` over the application's own subscriptions: what the
window shows over every run.

* `telescope_panels_frozen`: both telescope panels subscribe `bigskies/telescope/0/state/#`
  and read the state name from the fourth segment, which on that pattern is always `state`
  (`onTelescopeState_ignores_stateTopics`).  So over every run, whatever arrives, the preview
  keeps its initial pose, makes no GTK call, and the control panel's `connected` stays
  `False`.
* `health_message_updates_row`: after `startup`, a coordinator's health status, published as
  JSON on its health topic, reaches the health panel's handler alone.  The next iteration of
  the main loop writes the lowered status into the coordinator's row, shows the message and
  the time, and redraws the indicator.
* `status_label_settles`: once the main loop has run every pending source, the header's
  status label reads `● Connected` exactly when the client is connected, or when no link
  event has happened yet.
-/

namespace BigSkies.App

open BigSkies.Json BigSkies.Topic BigSkies.Client BigSkies.Widgets BigSkiesMQTTClient

/-! ### The window, source by source -/

section Dispatch

variable (lower : String → String)

/-- Only the preview's handler writes the preview, and it writes nothing on a topic that the
    preview's pattern admits. -/
theorem Ui.preview_dispatch (now : String) (ui : Ui) (src : Source)
    (hsrc : ∀ topic payload, src = .handler .previewTelescopeState topic payload →
      topicMatches topic telescopeStatePattern = true) :
    (ui.dispatch lower now src).1.preview = ui.preview := by
  cases src with
  | handler h topic payload =>
    cases h with
    | previewTelescopeState =>
      simp [Ui.dispatch, TelescopePreview.onTelescopeState_of_matches payload (hsrc _ _ rfl)]
    | controlConfigResponse => simp only [Ui.dispatch]; split <;> rfl
    | _ => rfl
  | callback c => cases c <;> rfl

/-- Only the control panel's state handler writes the control panel, and it writes nothing
    on a topic that the panel's state pattern admits. -/
theorem Ui.control_dispatch (now : String) (ui : Ui) (src : Source)
    (hsrc : ∀ topic payload, src = .handler .controlTelescopeState topic payload →
      topicMatches topic telescopeStatePattern = true) :
    (ui.dispatch lower now src).1.control = ui.control := by
  cases src with
  | handler h topic payload =>
    cases h with
    | controlTelescopeState =>
      simp [Ui.dispatch, ControlPanel.onTelescopeState_of_matches payload (hsrc _ _ rfl)]
    | controlConfigResponse => simp only [Ui.dispatch]; split <;> rfl
    | _ => rfl
  | callback c => cases c <;> rfl

/-- No source adds or removes a row of the health panel. -/
theorem Ui.healthKeys_dispatch (now : String) (ui : Ui) (src : Source) :
    (ui.dispatch lower now src).1.health.attrs.statuses.map Prod.fst =
      ui.health.attrs.statuses.map Prod.fst := by
  cases src with
  | handler h topic payload =>
    cases h with
    | healthMessage => exact HealthPanel.keys_onHealthMessage lower now topic payload _
    | controlConfigResponse => simp only [Ui.dispatch]; split <;> rfl
    | _ => rfl
  | callback c => cases c <;> rfl

/-- A view of the window that every source leaves alone, except a source of `h` on a topic
    outside `p`, is kept by every event while `h` is confined to `p`. -/
theorem view_loopStep {α : Type} (view : Ui → α) {h : AppHandler} {p : String}
    (hview : ∀ now ui src, (∀ topic payload, src = Source.handler h topic payload →
      topicMatches topic p = true) → view (ui.dispatch lower now src).1 = view ui)
    (m : MainLoop) (e : LoopEvent) (hc : ConfinedTo h p m) :
    view (loopStep lower m e).ui = view m.ui := by
  cases e with
  | call e => rfl
  | idle now =>
    cases hp : m.pending with
    | nil => rw [loopStep_idle_nil lower m now hp]
    | cons src rest =>
      rw [loopStep_idle_cons lower m now hp]
      refine hview now m.ui src fun topic payload hsrc => hc.2.1 topic payload ?_
      rw [hp, ← hsrc]
      exact List.mem_cons_self _ _

/-- The health panel keeps its rows over every run. -/
theorem healthKeys_loopRun (m : MainLoop) (evs : List LoopEvent) :
    (loopRun lower m evs).ui.health.attrs.statuses.map Prod.fst =
      m.ui.health.attrs.statuses.map Prod.fst :=
  loopRun_invariant lower m
    (fun m' => m'.ui.health.attrs.statuses.map Prod.fst = m.ui.health.attrs.statuses.map Prod.fst)
    (fun _ => True)
    (fun m' e _ h => by
      rw [loopStep.eq_def]
      cases e with
      | call e => exact h
      | idle now =>
        dsimp only
        split
        · exact h
        · exact (Ui.healthKeys_dispatch lower now m'.ui _).trans h)
    evs (fun _ _ => trivial) rfl

end Dispatch

/-! ### The telescope panels -/

/-- **The telescope panels never move.**  Over every run of the application in which both
    telescope handlers are subscribed only with `bigskies/telescope/0/state/#` (as `startup`
    does), whatever the broker delivers and whatever the main loop runs: the preview keeps
    the pose it is built with (azimuth 0.0, altitude 45.0, not connected, not slewing) and
    makes no GTK call, and the control panel's `connected` stays `False`. -/
theorem telescope_panels_frozen (lower : String → String) (host : String) (evs : List LoopEvent)
    (hsub : ∀ q ∈ subscriptions (clientCalls evs),
      (q.2 = .previewTelescopeState ∨ q.2 = .controlTelescopeState) → q.1 = telescopeStatePattern) :
    (loopRun lower (MainLoop.init host) evs).ui.preview = ⟨TelescopePreview.init, []⟩ ∧
    (loopRun lower (MainLoop.init host) evs).ui.control.attrs = ControlPanel.init := by
  have hinv := loopRun_invariant lower (MainLoop.init host)
    (fun m => ConfinedTo .previewTelescopeState telescopeStatePattern m ∧
      ConfinedTo .controlTelescopeState telescopeStatePattern m ∧
      m.ui.preview = ⟨TelescopePreview.init, []⟩ ∧ m.ui.control = ⟨ControlPanel.init, []⟩)
    (fun q => (q.2 = .previewTelescopeState ∨ q.2 = .controlTelescopeState) →
      q.1 = telescopeStatePattern)
    (fun m e he ⟨hp, hc, hpv, hcv⟩ =>
      ⟨confinedTo_loopStep lower m e (fun q hq h => he q hq (.inl h)) hp,
        confinedTo_loopStep lower m e (fun q hq h => he q hq (.inr h)) hc,
        (view_loopStep lower Ui.preview (Ui.preview_dispatch lower) m e hp).trans hpv,
        (view_loopStep lower Ui.control (Ui.control_dispatch lower) m e hc).trans hcv⟩)
    evs hsub ⟨confinedTo_init _ _ host, confinedTo_init _ _ host, rfl, rfl⟩
  exact ⟨hinv.2.2.1, by rw [hinv.2.2.2]⟩

/-- `startup`, the broker's acknowledgement, an azimuth of 90.0 on the preview's topic, and
    three iterations of the main loop. -/
theorem telescope_panels_frozen_azimuth :
    (∀ q ∈ subscriptions (clientCalls ((startup 0).map .call ++
        [.call (.onConnect 0),
         .call (.onMessage "bigskies/telescope/0/state/azimuth"
           [0x7B, 0x22, 0x76, 0x61, 0x6C, 0x75, 0x65, 0x22, 0x3A, 0x20, 0x39, 0x30, 0x2E, 0x30, 0x7D]),
         .idle "12:00:00", .idle "12:00:00", .idle "12:00:00"])),
      (q.2 = .previewTelescopeState ∨ q.2 = .controlTelescopeState) →
        q.1 = telescopeStatePattern) ∧
    (loopRun String.toLower (MainLoop.init "localhost") ((startup 0).map .call ++
        [.call (.onConnect 0),
         .call (.onMessage "bigskies/telescope/0/state/azimuth"
           [0x7B, 0x22, 0x76, 0x61, 0x6C, 0x75, 0x65, 0x22, 0x3A, 0x20, 0x39, 0x30, 0x2E, 0x30, 0x7D]),
         .idle "12:00:00", .idle "12:00:00", .idle "12:00:00"])).ui.preview =
      ⟨TelescopePreview.init, []⟩ ∧
    (loopRun String.toLower (MainLoop.init "localhost") ((startup 0).map .call ++
        [.call (.onConnect 0),
         .call (.onMessage "bigskies/telescope/0/state/azimuth"
           [0x7B, 0x22, 0x76, 0x61, 0x6C, 0x75, 0x65, 0x22, 0x3A, 0x20, 0x39, 0x30, 0x2E, 0x30, 0x7D]),
         .idle "12:00:00", .idle "12:00:00", .idle "12:00:00"])).ui.control.attrs =
      ControlPanel.init :=
  ⟨by decide, telescope_panels_frozen String.toLower "localhost" _ (by decide)⟩

/-! ### A coordinator's health status -/

/-- A topic that a pattern admits begins with the pattern's first two segments, when both
    are literals. -/
theorem split_of_matches_literals {topic pattern a b : String} {ps : List String}
    (hsplit : strSplit pattern '/' = a :: b :: ps) (hwf : "#" ∉ (a :: b :: ps).dropLast)
    (ha : a ≠ "+" ∧ a ≠ "#") (hb : b ≠ "+" ∧ b ≠ "#") (h : topicMatches topic pattern = true) :
    ∃ ts, strSplit topic '/' = a :: b :: ts := by
  have hm := mqttMatch_of_topicMatches (by rw [hsplit]; exact hwf) h
  rw [hsplit] at hm
  obtain ⟨_, h₁, hm⟩ := (mqttMatch_lit_iff _ _ ha.1 ha.2).1 hm
  obtain ⟨ts, h₂, -⟩ := (mqttMatch_lit_iff _ _ hb.1 hb.2).1 hm
  exact ⟨ts, by rw [h₁, h₂]⟩

/-- A health topic is admitted by no other pattern of the application. -/
theorem topicMatches_eq_false_of_health {topic : String}
    (hmatch : topicMatches topic healthStatusPattern = true) :
    topicMatches topic telescopeStatePattern = false ∧
    topicMatches topic (configTopic "response") = false ∧
    topicMatches topic (configTopic "event") = false := by
  obtain ⟨seg, hsplit⟩ := split_of_matches_healthStatus hmatch
  have htel : strSplit telescopeStatePattern '/' = ["bigskies", "telescope", "0", "state", "#"] := by
    decide
  have hresp : strSplit (configTopic "response") '/' =
      ["bigskies", "plugin", pluginId, "config", "response"] := by decide
  have hevent : strSplit (configTopic "event") '/' =
      ["bigskies", "plugin", pluginId, "config", "event"] := by decide
  refine ⟨Bool.eq_false_iff.2 fun h => ?_, Bool.eq_false_iff.2 fun h => ?_,
    Bool.eq_false_iff.2 fun h => ?_⟩
  · obtain ⟨ts, hts⟩ := split_of_matches_literals htel (by decide) (by decide) (by decide) h
    simp [hsplit] at hts
  · obtain ⟨ts, hts⟩ := split_of_matches_literals hresp (by decide) (by decide) (by decide) h
    simp [hsplit] at hts
  · obtain ⟨ts, hts⟩ := split_of_matches_literals hevent (by decide) (by decide) (by decide) h
    simp [hsplit] at hts

theorem subscriptions_startup (requestMs : Nat) :
    subscriptions (startup requestMs) =
      [(healthStatusPattern, .healthMessage), (telescopeStatePattern, .controlTelescopeState),
       (configTopic "response", .controlConfigResponse),
       (configTopic "event", .controlConfigEvent),
       (telescopeStatePattern, .previewTelescopeState)] := rfl

/-- After `startup` and calls that subscribe nothing, a health topic reaches the health
    panel's handler alone. -/
theorem handlersFor_startup_health (host : String) (requestMs : Nat)
    (calls : List (Event AppHandler AppCallback)) (hsub : subscriptions calls = [])
    {topic : String} (hmatch : topicMatches topic healthStatusPattern = true) :
    handlersFor (run python (init host 1883) (startup requestMs ++ calls)).messageHandlers topic =
      [.healthMessage] := by
  have hsubs : subscriptions (startup requestMs ++ calls) = subscriptions (startup requestMs) := by
    rw [subscriptions, List.filterMap_append]
    exact (congrArg _ hsub).trans (List.append_nil _)
  obtain ⟨htel, hresp, hevent⟩ := topicMatches_eq_false_of_health hmatch
  have hkeys : ((subscriptions (startup requestMs)).map Prod.fst).eraseDups =
      [healthStatusPattern, telescopeStatePattern, configTopic "response", configTopic "event"] := by
    rw [subscriptions_startup]; decide
  rw [handlersFor, keys_run, hsubs, hkeys]
  simp only [List.filter_cons, hmatch, htel, hresp, hevent, List.filter_nil, if_true,
    Bool.false_eq_true, if_false, List.flatMap_cons, List.flatMap_nil, List.append_nil]
  rw [handlers_run, if_pos (by decide), subscribedHandlers, hsubs, subscriptions_startup]
  decide

theorem clientCalls_map_call (calls : List (Event AppHandler AppCallback)) :
    clientCalls (calls.map .call) = calls := by
  induction calls with
  | nil => rfl
  | cons e calls ih => simp [ih]

theorem healthKeys_init : Ui.init.health.attrs.statuses.map Prod.fst = coordinators := by
  simp [Ui.init, HealthPanel.init, List.map_map, Function.comp_def]

/-- **A coordinator's health status reaches its row.**  Take any run of the application
    after `startup` that subscribes nothing more and leaves nothing pending.  A known
    coordinator then publishes `{"payload": {"status": status, "message": message}}` on a
    topic that the health pattern admits.  The message schedules the health panel's handler
    alone, and the next iteration of the main loop runs it without raising.  The handler
    writes `status.lower()` into the coordinator's row, shows the message and the time, and
    redraws the indicator. -/
theorem health_message_updates_row (lower : String → String) (host : String) (requestMs : Nat)
    (evs : List LoopEvent) (hsub : subscriptions (clientCalls evs) = [])
    (hidle : (loopRun lower (MainLoop.init host) ((startup requestMs).map .call ++ evs)).pending = [])
    (topic coordId status message now : String)
    (hmatch : topicMatches topic healthStatusPattern = true) (hid : coordIdOf topic = some coordId)
    (hknown : coordId ∈ coordinators) :
    let m := loopRun lower (MainLoop.init host) ((startup requestMs).map .call ++ evs)
    let payload : JsonValue :=
      .obj [("payload", .obj [("status", .str status), ("message", .str message)])]
    let m' := loopRun lower m [.call (.onMessage topic (encodeUtf8 (dumps payload).data)), .idle now]
    m'.ran = m.ran ++ [(.handler .healthMessage topic payload, .ok ())] ∧ m'.pending = [] ∧
    m'.ui.health.attrs.statuses.lookup coordId = some (lower status) ∧
    m'.ui.health.calls = m.ui.health.calls ++
      [.setText (coordId ++ ".status_label") message, .setText (coordId ++ ".time_label") now,
        .connectDraw (coordId ++ ".indicator") (lower status), .queueDraw (coordId ++ ".indicator")] := by
  intro m payload m'
  have hclient : m.client = run python (init host 1883) (startup requestMs ++ clientCalls evs) := by
    rw [client_loopRun, clientCalls_append, clientCalls_map_call]; rfl
  have hdecode : decodePayload python (encodeUtf8 (dumps payload).data) = .ok payload :=
    decodePayload_python payload rfl rfl
  have hschedule : (step python m.client (.onMessage topic (encodeUtf8 (dumps payload).data))).2 =
      [.idleAddHandler .healthMessage topic payload] := by
    rw [step, onMessage_of_decode python _ topic hdecode, hclient,
      handlersFor_startup_health host requestMs _ hsub hmatch]
    rfl
  have hrow : coordId ∈ m.ui.health.attrs.statuses.map Prod.fst := by
    rw [healthKeys_loopRun]
    exact healthKeys_init ▸ hknown
  have hbody : (HealthPanel.onHealthMessage lower now topic payload).exec m.ui.health.attrs =
      (.ok (), m.ui.health.attrs.setStatus coordId (lower status),
        [.setText (coordId ++ ".status_label") message, .setText (coordId ++ ".time_label") now,
          .connectDraw (coordId ++ ".indicator") (lower status),
          .queueDraw (coordId ++ ".indicator")]) := by
    rw [HealthPanel.onHealthMessage, hid]
    exact HealthPanel.updateRow_status lower now coordId status message _ hrow
  have hpending : (loopStep lower m (.call (.onMessage topic (encodeUtf8 (dumps payload).data)))).pending =
      [.handler .healthMessage topic payload] := by
    rw [loopStep_call, hschedule, hidle]; rfl
  have hm' : m' = loopStep lower (loopStep lower m
      (.call (.onMessage topic (encodeUtf8 (dumps payload).data)))) (.idle now) := rfl
  rw [hm', loopStep_idle_cons lower _ now hpending]
  simp only [Ui.dispatch, Panel.apply, hbody, loopStep_call,
    HealthPanel.lookup_setStatus _ _ hrow, and_self]

/-- The message coordinator reports `HEALTHY` right after `startup`. -/
theorem health_message_updates_row_message :
    subscriptions (clientCalls []) = [] ∧
    (loopRun String.toLower (MainLoop.init "localhost") ((startup 0).map .call ++ [])).pending = [] ∧
    topicMatches "bigskies/coordinator/message/health/status" healthStatusPattern = true ∧
    coordIdOf "bigskies/coordinator/message/health/status" = some "message-coordinator" ∧
    "message-coordinator" ∈ coordinators ∧
    let m := loopRun String.toLower (MainLoop.init "localhost") ((startup 0).map .call ++ [])
    let payload : JsonValue :=
      .obj [("payload", .obj [("status", .str "HEALTHY"), ("message", .str "ok")])]
    let m' := loopRun String.toLower m
      [.call (.onMessage "bigskies/coordinator/message/health/status"
        (encodeUtf8 (dumps payload).data)), .idle "12:00:00"]
    m'.ran = m.ran ++
        [(.handler .healthMessage "bigskies/coordinator/message/health/status" payload, .ok ())] ∧
      m'.pending = [] ∧
      m'.ui.health.attrs.statuses.lookup "message-coordinator" = some (String.toLower "HEALTHY") ∧
      m'.ui.health.calls = m.ui.health.calls ++
        [.setText ("message-coordinator" ++ ".status_label") "ok",
          .setText ("message-coordinator" ++ ".time_label") "12:00:00",
          .connectDraw ("message-coordinator" ++ ".indicator") (String.toLower "HEALTHY"),
          .queueDraw ("message-coordinator" ++ ".indicator")] :=
  ⟨rfl, rfl, by decide, by decide, by decide,
    health_message_updates_row String.toLower "localhost" 0 [] rfl rfl
      "bigskies/coordinator/message/health/status" "message-coordinator" "HEALTHY" "ok" "12:00:00"
      (by decide) (by decide) (by decide)⟩

/-! ### The connection status label -/

/-- The status label after a source runs. -/
def Source.status (label : String) : Source → String
  | .callback .mqttConnected => connectedMarkup
  | .callback .mqttDisconnected => disconnectedMarkup
  | .handler _ _ _ => label

/-- The label once every pending source has run. -/
def MainLoop.settledStatus (m : MainLoop) : String := m.pending.foldl Source.status m.ui.mqttStatus

theorem Ui.mqttStatus_dispatch (lower : String → String) (now : String) (ui : Ui) (src : Source) :
    (ui.dispatch lower now src).1.mqttStatus = Source.status ui.mqttStatus src := by
  cases src with
  | handler h topic payload =>
    cases h with
    | controlConfigResponse => simp only [Ui.dispatch]; split <;> rfl
    | _ => rfl
  | callback c => cases c <;> rfl

theorem callbacks_step (codec : Codec) (s : BigSkiesMQTTClient AppHandler AppCallback)
    (e : Event AppHandler AppCallback) (he : ∀ c d, e ≠ .setCallbacks c d) :
    (step codec s e).1.connectCallback = s.connectCallback ∧
      (step codec s e).1.disconnectCallback = s.disconnectCallback := by
  cases e with
  | setCallbacks c d => exact absurd rfl (he c d)
  | subscribe topic callback => simp [step]
  | onConnect rc => by_cases h : rc = 0 <;> simp [step, onConnect, h]
  | _ => exact ⟨rfl, rfl⟩

theorem foldl_status_handlers (label : String) (l : List Source)
    (h : ∀ src ∈ l, ∃ h t p, src = .handler h t p) : l.foldl Source.status label = label := by
  induction l with
  | nil => rfl
  | cons src l ih =>
    obtain ⟨h', t, p, rfl⟩ := h src (List.mem_cons_self _ _)
    exact ih fun s hs => h s (List.mem_cons_of_mem _ hs)

section Settle

variable (lower : String → String)

theorem settledStatus_call (m : MainLoop) (e : Event AppHandler AppCallback)
    (hcb : m.client.connectCallback = some .mqttConnected ∧
      m.client.disconnectCallback = some .mqttDisconnected)
    (hkeys : ∀ p ∈ m.client.messageHandlers.keys, filterWildcardLenCheck p = true)
    (he : ∀ c d, e ≠ .setCallbacks c d) :
    (loopStep lower m (.call e)).settledStatus =
      if e.isLink then (if e.isOnConnect then connectedMarkup else disconnectedMarkup)
      else m.settledStatus := by
  simp only [MainLoop.settledStatus, loopStep_call, List.foldl_append]
  cases e with
  | setCallbacks c d => exact absurd rfl (he c d)
  | onConnect rc =>
    by_cases h : rc = 0
    · subst h
      rw [onConnect_of_valid python _ hkeys, hcb.1]
      simp [Event.isLink, Event.isOnConnect, Source.ofEffect, Source.status, List.filterMap_map,
        Function.comp_def]
    · simp [step, onConnect, h, Event.isLink]
  | onDisconnect rc => simp [step, onDisconnect, hcb.2, Event.isLink, Event.isOnConnect, Source.ofEffect, Source.status]
  | onMessage topic payload =>
    simp only [Event.isLink, Bool.false_eq_true, if_false]
    apply foldl_status_handlers
    intro src hsrc
    obtain ⟨eff, heff, hof⟩ := List.mem_filterMap.1 hsrc
    cases eff with
    | idleAddHandler h t p => exact ⟨h, t, p, by simpa [Source.ofEffect, eq_comm] using hof⟩
    | idleAddCallback c =>
      simp only [step, onMessage] at heff
      split at heff <;> simp [List.mem_flatMap] at heff
    | _ => simp [Source.ofEffect] at hof
  | connect ok => cases ok <;> simp [step, connect, Source.ofEffect, Event.isLink]
  | subscribe topic callback =>
    simp only [step, subscribe_effects, Event.isLink, Bool.false_eq_true, if_false]
    split <;> (try split) <;> simp [Source.ofEffect]
  | publish topic payload qos => simp [step, Event.isLink]
  | _ => simp [step, disconnect, Source.ofEffect, Event.isLink]

theorem settledStatus_idle (m : MainLoop) (now : String) :
    (loopStep lower m (.idle now)).settledStatus = m.settledStatus := by
  cases h : m.pending with
  | nil => rw [loopStep_idle_nil lower m now h]
  | cons src rest =>
    rw [loopStep_idle_cons lower m now h, MainLoop.settledStatus, MainLoop.settledStatus, h]
    simp only [Ui.mqttStatus_dispatch, List.foldl_cons]

theorem callbacks_run (codec : Codec) (s : BigSkiesMQTTClient AppHandler AppCallback)
    (calls : List (Event AppHandler AppCallback)) (he : ∀ e ∈ calls, ∀ c d, e ≠ .setCallbacks c d) :
    (run codec s calls).connectCallback = s.connectCallback ∧
      (run codec s calls).disconnectCallback = s.disconnectCallback := by
  induction calls generalizing s with
  | nil => exact ⟨rfl, rfl⟩
  | cons e calls ih =>
    obtain ⟨h1, h2⟩ := callbacks_step codec s e (he e (List.mem_cons_self _ _))
    obtain ⟨h3, h4⟩ := ih (step codec s e).1 fun e' he' => he e' (List.mem_cons_of_mem _ he')
    exact ⟨h3.trans h1, h4.trans h2⟩

theorem settledStatus_loopRun (m : MainLoop)
    (hcb : m.client.connectCallback = some .mqttConnected ∧
      m.client.disconnectCallback = some .mqttDisconnected)
    (hkeys : ∀ p ∈ m.client.messageHandlers.keys, filterWildcardLenCheck p = true)
    (evs : List LoopEvent) (he : ∀ e ∈ clientCalls evs, ∀ c d, e ≠ .setCallbacks c d)
    (hvalid : ∀ p ∈ (subscriptions (clientCalls evs)).map Prod.fst,
      filterWildcardLenCheck p = true) :
    (loopRun lower m evs).settledStatus =
      match ((clientCalls evs).filter Event.isLink).getLast? with
      | some e => if e.isOnConnect then connectedMarkup else disconnectedMarkup
      | none => m.settledStatus := by
  induction evs using List.reverseRecOn with
  | nil => rfl
  | append_singleton evs e ih =>
    rw [clientCalls_append] at he
    have hvalid' : ∀ p ∈ (subscriptions (clientCalls evs)).map Prod.fst,
        filterWildcardLenCheck p = true := fun p hp => hvalid p (by
      rw [clientCalls_append, subscriptions, List.filterMap_append, List.map_append]
      exact List.mem_append_left _ hp)
    have hkeys' : ∀ p ∈ (loopRun lower m evs).client.messageHandlers.keys,
        filterWildcardLenCheck p = true := fun p hp => by
      rw [client_loopRun] at hp
      exact (mem_keys_run_subscriptions python _ _ hp).elim (hkeys p) (hvalid' p)
    have hcb' : (loopRun lower m evs).client.connectCallback = some .mqttConnected ∧
        (loopRun lower m evs).client.disconnectCallback = some .mqttDisconnected := by
      rw [client_loopRun, (callbacks_run python _ _ fun e' h' => he e' (List.mem_append_left _ h')).1,
        (callbacks_run python _ _ fun e' h' => he e' (List.mem_append_left _ h')).2]
      exact hcb
    rw [loopRun_append, loopRun_cons, loopRun_nil, clientCalls_append]
    cases e with
    | idle now =>
      rw [settledStatus_idle, ih (fun e' h' => he e' (List.mem_append_left _ h')) hvalid']
      simp
    | call c =>
      rw [settledStatus_call lower _ c hcb' hkeys' (he c (by simp)),
        ih (fun e' h' => he e' (List.mem_append_left _ h')) hvalid']
      by_cases hc : c.isLink <;> simp [hc]

end Settle

/-- **The status label settles on the connection state.**  Take the client once
    `set_callbacks` has given it the application's two status callbacks, and any run after that
    which calls `set_callbacks` no more and subscribes only patterns paho accepts.  The client's
    calls are whole calls, as in the serial runs of the two threads (`serial_refines`).
    Whenever the main loop has run every pending source,
    the label reads `● Connected` exactly when the client is connected or no link event
    (`_on_connect` with `rc = 0`, `_on_disconnect`) has happened yet, and `● Disconnected`
    otherwise.  Before the first link event the label still shows the `● Connected` that
    `_build_main_window` set, although `connected` is `False`. -/
theorem status_label_settles (lower : String → String) (host : String) (evs : List LoopEvent)
    (hcb : ∀ e ∈ clientCalls evs, ∀ c d, e ≠ .setCallbacks c d)
    (hvalid : ∀ p ∈ (subscriptions (clientCalls evs)).map Prod.fst,
      filterWildcardLenCheck p = true)
    (hidle : (loopRun lower (MainLoop.init host)
      (.call (.setCallbacks (some .mqttConnected) (some .mqttDisconnected)) :: evs)).pending = []) :
    let m := loopRun lower (MainLoop.init host)
      (.call (.setCallbacks (some .mqttConnected) (some .mqttDisconnected)) :: evs)
    (m.ui.mqttStatus = connectedMarkup ↔
      m.client.connected = true ∨ (clientCalls evs).filter Event.isLink = []) ∧
    (m.ui.mqttStatus ≠ connectedMarkup → m.ui.mqttStatus = disconnectedMarkup) := by
  intro m
  have hsettled : m.settledStatus = m.ui.mqttStatus := by
    rw [MainLoop.settledStatus, hidle]; rfl
  have hlabel := settledStatus_loopRun lower
    (loopStep lower (MainLoop.init host) (.call (.setCallbacks (some .mqttConnected) (some .mqttDisconnected))))
    ⟨rfl, rfl⟩ (fun _ hp => by simp [loopStep_call, step, MainLoop.init, init, setCallbacks] at hp)
    evs hcb hvalid
  have hconn : m.client.connected = true ↔
      ((clientCalls evs).filter Event.isLink).getLast? = some (.onConnect 0) := by
    rw [client_loopRun, clientCalls_call]
    exact connected_run python host 1883 _
  have hne : connectedMarkup ≠ disconnectedMarkup := by decide
  change m.settledStatus = _ at hlabel
  rw [hsettled] at hlabel
  cases hlast : ((clientCalls evs).filter Event.isLink).getLast? with
  | none =>
    rw [hlast] at hlabel hconn
    have hnil : (clientCalls evs).filter Event.isLink = [] := List.getLast?_eq_none_iff.1 hlast
    exact ⟨iff_of_true hlabel (.inr hnil), fun h => absurd hlabel h⟩
  | some e =>
    rw [hlast] at hlabel hconn
    have hlink : e.isLink = true := (List.mem_filter.1 (List.mem_of_getLast?_eq_some hlast)).2
    have hnil : (clientCalls evs).filter Event.isLink ≠ [] := fun h => by simp [h] at hlast
    by_cases ho : e.isOnConnect
    · simp only [ho, if_true] at hlabel
      exact ⟨iff_of_true hlabel (.inl (hconn.2 (by rw [(Event.isOnConnect_iff hlink).1 ho]))),
        fun h => absurd hlabel h⟩
    · simp only [ho, Bool.false_eq_true, if_false] at hlabel
      have hoff : m.client.connected = false := by
        rw [← Bool.not_eq_true, hconn]
        intro h
        exact ho ((Event.isOnConnect_iff hlink).2 (Option.some.inj h))
      rw [hlabel, hoff]
      exact ⟨iff_of_false (Ne.symm hne) (by simp [hnil]), fun _ => rfl⟩

/-- `connect()`, the broker's acknowledgement, one iteration, a dropped connection, one more
    iteration: the label ends on `● Disconnected`. -/
theorem status_label_settles_dropped :
    (∀ e ∈ clientCalls [.call (.connect true), .call (.onConnect 0), .idle "12:00:00",
        .call (.onDisconnect 1), .idle "12:00:01"], ∀ c d, e ≠ .setCallbacks c d) ∧
    (∀ p ∈ (subscriptions (clientCalls [.call (.connect true), .call (.onConnect 0),
        .idle "12:00:00", .call (.onDisconnect 1), .idle "12:00:01"])).map Prod.fst,
      filterWildcardLenCheck p = true) ∧
    (loopRun String.toLower (MainLoop.init "localhost")
      (.call (.setCallbacks (some .mqttConnected) (some .mqttDisconnected)) ::
        [.call (.connect true), .call (.onConnect 0), .idle "12:00:00",
          .call (.onDisconnect 1), .idle "12:00:01"])).pending = [] ∧
    let m := loopRun String.toLower (MainLoop.init "localhost")
      (.call (.setCallbacks (some .mqttConnected) (some .mqttDisconnected)) ::
        [.call (.connect true), .call (.onConnect 0), .idle "12:00:00",
          .call (.onDisconnect 1), .idle "12:00:01"])
    (m.ui.mqttStatus = connectedMarkup ↔
      m.client.connected = true ∨ (clientCalls [.call (.connect true), .call (.onConnect 0),
        .idle "12:00:00", .call (.onDisconnect 1), .idle "12:00:01"]).filter Event.isLink = []) ∧
    (m.ui.mqttStatus ≠ connectedMarkup → m.ui.mqttStatus = disconnectedMarkup) :=
  ⟨by simp, by simp [subscriptions, Event.subscription?], rfl,
    status_label_settles String.toLower "localhost" _ (by simp)
      (by simp [subscriptions, Event.subscription?]) rfl⟩

end BigSkies.App
