import BigSkies.App.ConfigList
import BigSkies.App.Runtime

/-!
# The configuration round trip

**The control panel asks the plugin to load only what the plugin listed.**  This module puts
the configuration section of `BigSkies.App.Configuration` into the running application of
`BigSkies.App.MainLoop`.  A `Session` is the main loop, the section, and the requests the
panel has published.  Its events are those of the loop and the user's actions on the
panel, which GTK delivers on the GUI thread between two idle sources.  When the loop runs
`_on_config_response`, the section runs the helper it calls before the source returns.  A
request the user's click makes is a `publish` call into the client.

`load_requests_listed_by_plugin` then follows a load request back through every layer:

* the button publishes only the rows the combos show (`activeIds_of_loadRequest`);
* each row came from a list response that the section received (`RowsFrom`);
* that response is a config action that a run of `_on_config_response` returned
  (`ActionsRan`);
* that run got a payload decoded from a message the broker delivered (`Delivered`);
* and on a topic that the response pattern covers (`ConfinedTo`).

`load_requests_name_latest_response` carries `BigSkies.App.ConfigList` into the same runs:
whatever the broker delivers in between, if `listedRows` accepts the latest list response
that reached the panel, the user's next click requests rows of that response
(`LatestShown`).
-/

namespace BigSkies.App

open BigSkies.Json BigSkies.Topic BigSkies.Client BigSkies.Widgets BigSkiesMQTTClient

/-! ### The session -/

/-- What the user does on the control panel: pick a row of a combo, or click a button. -/
inductive UserAction where
  | pick (w : ComboName) (row : Nat)
  | clickLoad (ms : Nat)
  | clickRefresh (ms : Nat)
  | clickConnect

/-- The action as the section receives it. -/
def UserAction.event : UserAction → SectionEvent
  | .pick w row => .pick w row
  | .clickLoad ms => .clickLoad ms
  | .clickRefresh ms => .clickRefresh ms
  | .clickConnect => .clickConnect

/-- What happens next in the running application: an event of the main loop, or an action
    of the user. -/
inductive AppEvent where
  | loop (e : LoopEvent)
  | user (a : UserAction)

/-- The running application with the configuration section of its control panel, and the
    requests the user's actions made the panel publish, oldest first. -/
structure Session where
  loop : MainLoop
  config : ConfigSection
  published : List (Event AppHandler AppCallback)

variable (lower : String → String)

/-- The session once `_build_main_window` has returned: the client has had the calls of
    `startup`, and the section is as `ControlPanel.__init__` leaves it. -/
def Session.start (host : String) (requestMs : Nat) : Session :=
  ⟨loopRun lower (MainLoop.init host) ((startup requestMs).map .call), .init, []⟩

/-- One event.  An iteration of the loop that runs `_on_config_response` hands the section
    the config action it returned; an action of the user runs the section, whose requests go
    to the client as `publish` calls. -/
def sessionStep (s : Session) : AppEvent → Session
  | .loop e =>
    let m := loopStep lower s.loop e
    ⟨m, sectionRun s.config ((m.ui.configActions.drop s.loop.ui.configActions.length).map .response),
      s.published⟩
  | .user a =>
    let r := sectionStep s.config a.event
    ⟨loopRun lower s.loop (r.2.map .call), r.1, s.published ++ r.2⟩

/-- The session after a sequence of events. -/
def sessionRun (s : Session) (evs : List AppEvent) : Session := evs.foldl (sessionStep lower) s

@[simp] theorem sessionRun_nil (s : Session) : sessionRun lower s [] = s := rfl

@[simp] theorem sessionRun_cons (s : Session) (e : AppEvent) (evs : List AppEvent) :
    sessionRun lower s (e :: evs) = sessionRun lower (sessionStep lower s e) evs := rfl

theorem sessionStep_loop (s : Session) (e : LoopEvent) :
    (sessionStep lower s (.loop e)).loop = loopStep lower s.loop e ∧
    (sessionStep lower s (.loop e)).config = sectionRun s.config
      (((loopStep lower s.loop e).ui.configActions.drop s.loop.ui.configActions.length).map .response) ∧
    (sessionStep lower s (.loop e)).published = s.published :=
  ⟨rfl, rfl, rfl⟩

/-- The calls into the client that the broker and the application make, the panel's own
    requests apart. -/
def envCalls (evs : List AppEvent) : List (Event AppHandler AppCallback) :=
  evs.filterMap fun
    | .loop (.call e) => some e
    | _ => none

/-- The `data` of the list responses among config actions, in order. -/
def listsOf (actions : List ConfigAction) : List JsonValue := listResponses (actions.map .response)

theorem listsOf_append (actions actions' : List ConfigAction) :
    listsOf (actions ++ actions') = listsOf actions ++ listsOf actions' := by
  rw [listsOf, List.map_append]
  exact List.filterMap_append _ _ _

theorem mem_listsOf {actions : List ConfigAction} {data : JsonValue} (h : data ∈ listsOf actions) :
    .handleConfigList data ∈ actions := by
  obtain ⟨e, he, hdata⟩ := List.mem_filterMap.1 h
  obtain ⟨a, ha, rfl⟩ := List.mem_map.1 he
  match a, hdata with
  | .handleConfigList _, rfl => exact ha

/-! ### The loop, step by step -/

/-- A `publish` call changes neither the client nor the loop. -/
theorem loopStep_publish (m : MainLoop) (topic : String) (payload : JsonValue) (qos : Nat) :
    loopStep lower m (.call (.publish topic payload qos)) = m := by
  simp only [loopStep_call, step, sources_publish, List.append_nil]

theorem loopRun_publishes (m : MainLoop) (calls : List (Event AppHandler AppCallback))
    (h : ∀ e ∈ calls, ∃ topic payload qos, e = .publish topic payload qos) :
    loopRun lower m (calls.map .call) = m := by
  induction calls with
  | nil => rfl
  | cons e calls ih =>
    obtain ⟨topic, payload, qos, rfl⟩ := h e (List.mem_cons_self _ _)
    rw [List.map_cons, loopRun_cons, loopStep_publish]
    exact ih fun e he => h e (List.mem_cons_of_mem _ he)

/-- Whether a call may hand GLib a source: the paho callbacks may. -/
def schedulesSources : Event AppHandler AppCallback → Bool
  | .onConnect _ | .onDisconnect _ | .onMessage _ _ => true
  | _ => false

theorem sources_step_of_not_schedules (c : BigSkiesMQTTClient AppHandler AppCallback)
    {e : Event AppHandler AppCallback} (he : schedulesSources e = false) :
    (step python c e).2.filterMap Source.ofEffect = [] := by
  cases e with
  | subscribe topic callback => rw [step, subscribe_effects]; split_ifs <;> rfl
  | connect ok => cases ok <;> rfl
  | publish _ _ _ => simp only [step, sources_publish]
  | setCallbacks _ _ | disconnect => rfl
  | onConnect _ | onDisconnect _ | onMessage _ _ => cases he

/-- Calls that schedule nothing leave the sources and the window as they are. -/
theorem loopRun_not_schedules (m : MainLoop) (calls : List (Event AppHandler AppCallback))
    (h : ∀ e ∈ calls, schedulesSources e = false) :
    (loopRun lower m (calls.map .call)).pending = m.pending ∧
    (loopRun lower m (calls.map .call)).ran = m.ran ∧
    (loopRun lower m (calls.map .call)).ui = m.ui := by
  induction calls generalizing m with
  | nil => exact ⟨rfl, rfl, rfl⟩
  | cons e calls ih =>
    rw [List.map_cons, loopRun_cons]
    obtain ⟨h1, h2, h3⟩ := ih (loopStep lower m (.call e)) fun e' he' => h e' (List.mem_cons_of_mem _ he')
    rw [h1, h2, h3, loopStep_call, sources_step_of_not_schedules _ (h e (List.mem_cons_self _ _)),
      List.append_nil]
    exact ⟨rfl, rfl, rfl⟩

/-- The section publishes nothing but `publish` calls. -/
theorem publishes_sectionStep (s : ConfigSection) (e : SectionEvent) :
    ∀ c ∈ (sectionStep s e).2, ∃ topic payload qos, c = .publish topic payload qos := by
  intro c hc
  match e, hc with
  | .clickLoad ms, hc =>
    simp only [sectionStep] at hc
    split_ifs at hc
    · simp only [ConfigSection.onLoadConfigClicked] at hc
      split at hc
      · split_ifs at hc
        · cases hc
        · exact ⟨_, _, _, List.mem_singleton.1 hc⟩
      · cases hc
    · cases hc
  | .clickRefresh _, hc | .clickConnect, hc => exact ⟨_, _, _, List.mem_singleton.1 hc⟩
  | .response (.handleConfigList _), hc | .response (.handleConfigLoaded _), hc
  | .response .ignore, hc | .pick _ _, hc => cases hc

/-- Only `_on_message` schedules a handler, on a payload it decoded from the message. -/
theorem onMessage_of_idleAddHandler (codec : Codec) (s : BigSkiesMQTTClient AppHandler AppCallback)
    (e : Event AppHandler AppCallback) {h : AppHandler} {topic : String} {d : JsonValue}
    (he : .idleAddHandler h topic d ∈ (step codec s e).2) :
    ∃ bytes, e = .onMessage topic bytes ∧ decodePayload codec bytes = .ok d := by
  cases e with
  | onMessage topic' payload =>
    cases hd : decodePayload codec payload with
    | error err => simp [step, onMessage_of_decode_error codec s topic' hd] at he
    | ok d' =>
      simp only [step, onMessage_of_decode codec s topic' hd, List.mem_map,
        Effect.idleAddHandler.injEq] at he
      obtain ⟨_, -, -, rfl, rfl⟩ := he
      exact ⟨payload, rfl, hd⟩
  | onConnect rc => by_cases hrc : rc = 0 <;> simp [step, onConnect, hrc] at he
  | subscribe topic' callback =>
    rw [step, subscribe_effects] at he
    split_ifs at he <;> simp at he
  | publish _ _ _ =>
    rw [step] at he
    obtain ⟨_, -, -, he⟩ := mem_publish he
    cases he
  | connect ok => cases ok <;> simp [step, connect] at he
  | _ => simp [step, disconnect, onDisconnect] at he

/-- A source adds at most one config action: the one `_on_config_response` returned, and
    then the source ran without raising. -/
theorem Ui.configActions_dispatch (now : String) (ui : Ui) (src : Source) :
    (ui.dispatch lower now src).1.configActions = ui.configActions ∨
    ∃ topic payload a, src = .handler .controlConfigResponse topic payload ∧
      ControlPanel.onConfigResponse payload = .ok a ∧ (ui.dispatch lower now src).2 = .ok () ∧
      (ui.dispatch lower now src).1.configActions = ui.configActions ++ [a] := by
  cases src with
  | handler h topic payload =>
    cases h with
    | controlConfigResponse =>
      simp only [Ui.dispatch]
      split
      · rename_i a ha
        exact .inr ⟨topic, payload, a, rfl, ha, rfl, rfl⟩
      · exact .inl rfl
    | _ => exact .inl rfl
  | callback c => cases c <;> exact .inl rfl

/-- One event appends to the config actions only actions that a run of
    `_on_config_response`, logged as run without raising, returned. -/
theorem configActions_loopStep (m : MainLoop) (e : LoopEvent) :
    ∃ δ, (loopStep lower m e).ui.configActions = m.ui.configActions ++ δ ∧
      ∀ a ∈ δ, ∃ topic payload,
        (Source.handler .controlConfigResponse topic payload, .ok ()) ∈ (loopStep lower m e).ran ∧
        ControlPanel.onConfigResponse payload = .ok a := by
  cases e with
  | call e => exact ⟨[], (List.append_nil _).symm, fun _ h => nomatch h⟩
  | idle now =>
    cases hp : m.pending with
    | nil => exact ⟨[], by rw [loopStep_idle_nil lower m now hp, List.append_nil], fun _ h => nomatch h⟩
    | cons src rest =>
      rw [loopStep_idle_cons lower m now hp]
      rcases Ui.configActions_dispatch lower now m.ui src with h | ⟨topic, payload, a, rfl, ha, hok, h⟩
      · exact ⟨[], by rw [h, List.append_nil], fun _ h => nomatch h⟩
      · refine ⟨[a], h, fun a' ha' => ⟨topic, payload, ?_, List.mem_singleton.1 ha' ▸ ha⟩⟩
        rw [← hok]
        exact List.mem_append_right _ (List.mem_singleton_self _)

theorem ran_loopStep (m : MainLoop) (e : LoopEvent) : ∃ δ, (loopStep lower m e).ran = m.ran ++ δ := by
  cases e with
  | call e => exact ⟨[], (List.append_nil _).symm⟩
  | idle now =>
    cases hp : m.pending with
    | nil => exact ⟨[], by rw [loopStep_idle_nil lower m now hp, List.append_nil]⟩
    | cons src rest => exact ⟨_, by rw [loopStep_idle_cons lower m now hp]⟩

/-! ### Where what the loop holds came from -/

/-- The broker delivered, among `calls`, a message on `topic` whose bytes decode to
    `payload`. -/
def FromMessage (calls : List (Event AppHandler AppCallback)) (topic : String) (payload : JsonValue) :
    Prop :=
  ∃ bytes, Event.onMessage topic bytes ∈ calls ∧ decodePayload python bytes = .ok payload

/-- Every source pending or run carries a payload the broker delivered among `calls`. -/
def Delivered (calls : List (Event AppHandler AppCallback)) (m : MainLoop) : Prop :=
  (∀ h topic payload, Source.handler h topic payload ∈ m.pending → FromMessage calls topic payload) ∧
  (∀ h topic payload r, (Source.handler h topic payload, r) ∈ m.ran → FromMessage calls topic payload)

/-- Every config action was returned by a run of `_on_config_response` that raised
    nothing. -/
def ActionsRan (m : MainLoop) : Prop :=
  ∀ a ∈ m.ui.configActions, ∃ topic payload,
    (Source.handler .controlConfigResponse topic payload, .ok ()) ∈ m.ran ∧
    ControlPanel.onConfigResponse payload = .ok a

theorem FromMessage.mono {calls calls' : List (Event AppHandler AppCallback)} {topic : String}
    {payload : JsonValue} (h : FromMessage calls topic payload) (hsub : calls ⊆ calls') :
    FromMessage calls' topic payload :=
  let ⟨bytes, hmem, hd⟩ := h; ⟨bytes, hsub hmem, hd⟩

theorem Delivered.loopStep {calls : List (Event AppHandler AppCallback)} {m : MainLoop}
    (h : Delivered calls m) (e : LoopEvent) :
    Delivered (calls ++ clientCalls [e]) (loopStep lower m e) := by
  have hmono := fun {topic payload} (hf : FromMessage calls topic payload) =>
    hf.mono (List.subset_append_left calls (clientCalls [e]))
  cases e with
  | call e =>
    rw [loopStep_call]
    refine ⟨fun h' topic payload hsrc => ?_, fun h' topic payload r hr => hmono (h.2 h' topic payload r hr)⟩
    rcases List.mem_append.1 hsrc with hsrc | hsrc
    · exact hmono (h.1 h' topic payload hsrc)
    · obtain ⟨eff, heff, hof⟩ := List.mem_filterMap.1 hsrc
      cases eff with
      | idleAddHandler h'' topic' payload' =>
        simp only [Source.ofEffect, Option.some.injEq, Source.handler.injEq] at hof
        obtain ⟨rfl, rfl, rfl⟩ := hof
        obtain ⟨bytes, rfl, hd⟩ := onMessage_of_idleAddHandler python m.client e heff
        exact ⟨bytes, by simp, hd⟩
      | idleAddCallback c => simp [Source.ofEffect] at hof
      | _ => simp [Source.ofEffect] at hof
  | idle now =>
    cases hp : m.pending with
    | nil => rw [loopStep_idle_nil lower m now hp]; exact ⟨fun h' t p hs => hmono (h.1 h' t p hs),
        fun h' t p r hs => hmono (h.2 h' t p r hs)⟩
    | cons src rest =>
      rw [loopStep_idle_cons lower m now hp]
      have hpend := h.1
      rw [hp] at hpend
      refine ⟨fun h' t p hs => hmono (hpend h' t p (List.mem_cons_of_mem _ hs)), ?_⟩
      intro h' t p r hs
      rcases List.mem_append.1 hs with hs | hs
      · exact hmono (h.2 h' t p r hs)
      · obtain ⟨rfl, -⟩ := Prod.mk.inj (List.mem_singleton.1 hs)
        exact hmono (hpend h' t p (List.mem_cons_self _ _))

theorem ActionsRan.loopStep {m : MainLoop} (h : ActionsRan m) (e : LoopEvent) :
    ActionsRan (loopStep lower m e) := by
  obtain ⟨δ, hδ, hnew⟩ := configActions_loopStep lower m e
  obtain ⟨ρ, hρ⟩ := ran_loopStep lower m e
  intro a ha
  rw [hδ] at ha
  rcases List.mem_append.1 ha with ha | ha
  · obtain ⟨topic, payload, hran, hresp⟩ := h a ha
    exact ⟨topic, payload, hρ ▸ List.mem_append_left _ hran, hresp⟩
  · exact hnew a ha

/-! ### The session invariant -/

/-- What holds of every session the application can reach, given the calls `calls` the
    broker and the application have made. -/
structure SessionInv (calls : List (Event AppHandler AppCallback)) (s : Session) : Prop where
  delivered : Delivered calls s.loop
  actionsRan : ActionsRan s.loop
  confined : ConfinedTo .controlConfigResponse (configTopic "response") s.loop
  agrees : SelectionAgrees s.config
  rows : RowsFrom (listsOf s.loop.ui.configActions) s.config
  requests : ∀ model mountType ms, loadRequest model mountType ms ∈ s.published →
    ListedIn (listsOf s.loop.ui.configActions) .model model ∧
    ListedIn (listsOf s.loop.ui.configActions) .mount mountType

theorem ListedIn.mono {lists lists' : List JsonValue} {w : ComboName} {x : String}
    (h : ListedIn lists w x) (hsub : lists ⊆ lists') : ListedIn lists' w x :=
  let ⟨data, hd, hl⟩ := h; ⟨data, hsub hd, hl⟩

theorem SessionInv.loop {calls : List (Event AppHandler AppCallback)} {s : Session}
    (h : SessionInv calls s) (e : LoopEvent)
    (he : ∀ q ∈ subscriptions (clientCalls [e]), q.2 = .controlConfigResponse → q.1 = configTopic "response") :
    SessionInv (calls ++ clientCalls [e]) (sessionStep lower s (.loop e)) := by
  obtain ⟨δ, hδ, -⟩ := configActions_loopStep lower s.loop e
  have hlists : listsOf (loopStep lower s.loop e).ui.configActions =
      listsOf s.loop.ui.configActions ++ listResponses (δ.map .response) := by
    rw [hδ, listsOf_append]; rfl
  have hnew : (loopStep lower s.loop e).ui.configActions.drop s.loop.ui.configActions.length = δ := by
    rw [hδ, List.drop_left]
  refine ⟨h.delivered.loopStep lower e, h.actionsRan.loopStep lower e,
    confinedTo_loopStep lower s.loop e he h.confined, ?_, ?_, ?_⟩
  · show SelectionAgrees (sectionRun _ _)
    rw [hnew]
    exact h.agrees.sectionRun _
  · show RowsFrom (listsOf (loopStep lower s.loop e).ui.configActions) (sectionRun s.config _)
    rw [hnew, hlists]
    exact h.rows.sectionRun _
  · intro model mountType ms hreq
    show ListedIn (listsOf (loopStep lower s.loop e).ui.configActions) _ _ ∧
      ListedIn (listsOf (loopStep lower s.loop e).ui.configActions) _ _
    rw [hlists]
    obtain ⟨hm, ht⟩ := h.requests model mountType ms hreq
    exact ⟨hm.mono (List.subset_append_left _ _), ht.mono (List.subset_append_left _ _)⟩

theorem SessionInv.user {calls : List (Event AppHandler AppCallback)} {s : Session}
    (h : SessionInv calls s) (a : UserAction) : SessionInv calls (sessionStep lower s (.user a)) := by
  have hloop : loopRun lower s.loop ((sectionStep s.config a.event).2.map .call) = s.loop :=
    loopRun_publishes lower s.loop _ (publishes_sectionStep s.config a.event)
  have hnone : listResponses [a.event] = [] := by cases a <;> rfl
  have hrows := h.rows.sectionStep a.event
  rw [hnone, List.append_nil] at hrows
  refine ⟨?_, ?_, ?_, h.agrees.sectionStep a.event, ?_, ?_⟩ <;> simp only [sessionStep, hloop]
  · exact h.delivered
  · exact h.actionsRan
  · exact h.confined
  · exact hrows
  · intro model mountType ms hreq
    rcases List.mem_append.1 hreq with hreq | hreq
    · exact h.requests model mountType ms hreq
    · obtain ⟨hm, ht⟩ := activeIds_of_loadRequest h.agrees hreq
      exact ⟨h.rows .model model (Combo.activeId_mem hm), h.rows .mount mountType (Combo.activeId_mem ht)⟩

/-! ### A list response, end to end -/

/-- After `startup`, the plugin's response topic reaches `_on_config_response` alone. -/
theorem handlersFor_started_response (host : String) (requestMs : Nat) :
    handlersFor (started host requestMs).messageHandlers (configTopic "response") =
      [.controlConfigResponse] := by
  simp only [handlersFor, started, keys_run, subscriptions_startup]
  simp only [List.map_cons, List.map_nil]
  rw [show [healthStatusPattern, telescopeStatePattern, configTopic "response", configTopic "event",
      telescopeStatePattern].eraseDups.filter (topicMatches (configTopic "response")) =
      [configTopic "response"] by decide]
  rw [List.flatMap_singleton, handlers_run, if_pos (by decide), subscribedHandlers,
    subscriptions_startup]
  decide

theorem sessionStep_user (s : Session) (a : UserAction) :
    (sessionStep lower s (.user a)).config = (sectionStep s.config a.event).1 ∧
    (sessionStep lower s (.user a)).published = s.published ++ (sectionStep s.config a.event).2 :=
  ⟨rfl, rfl⟩

theorem sessionStep_user_loop (s : Session) (a : UserAction) :
    (sessionStep lower s (.user a)).loop = loopRun lower s.loop ((sectionStep s.config a.event).2.map .call) :=
  rfl

/-- After `startup`, a successful `list_configs` response on the plugin's response topic and
    one iteration of the main loop leave the section as `_handle_config_list` leaves it on
    the response's data. -/
theorem config_after_list_response (host : String) (requestMs : Nat) (bytes : List UInt8)
    (payload data : JsonValue) (now : String) (hdecode : decodePayload python bytes = .ok payload)
    (hresp : ControlPanel.onConfigResponse payload = .ok (.handleConfigList data)) :
    (sessionRun lower (Session.start lower host requestMs)
      [.loop (.call (.onMessage (configTopic "response") bytes)), .loop (.idle now)]).config =
      (handleConfigList data).exec .init ∧
    (sessionRun lower (Session.start lower host requestMs)
      [.loop (.call (.onMessage (configTopic "response") bytes)), .loop (.idle now)]).published = [] ∧
    (sessionRun lower (Session.start lower host requestMs)
      [.loop (.call (.onMessage (configTopic "response") bytes)), .loop (.idle now)]).loop.ui.configActions =
      [.handleConfigList data] := by
  obtain ⟨hpending, -, hui⟩ : (Session.start lower host requestMs).loop.pending = [] ∧
      (Session.start lower host requestMs).loop.ran = [] ∧
      (Session.start lower host requestMs).loop.ui = Ui.init :=
    loopRun_not_schedules lower (MainLoop.init host) (startup requestMs)
      (by simp [startup, schedulesSources])
  have hclient : (Session.start lower host requestMs).loop.client = started host requestMs := by
    rw [Session.start, client_loopRun, clientCalls_map_call]
    rfl
  have hm1 : (loopStep lower (Session.start lower host requestMs).loop
      (.call (.onMessage (configTopic "response") bytes))).pending =
      [.handler .controlConfigResponse (configTopic "response") payload] := by
    rw [loopStep_call]
    dsimp only
    rw [hpending, hclient, List.nil_append]
    simp only [step, onMessage_of_decode python _ _ hdecode, handlersFor_started_response,
      List.map_cons, List.map_nil, List.filterMap_cons, Source.ofEffect, List.filterMap_nil]
  have hui1 : (loopStep lower (Session.start lower host requestMs).loop
      (.call (.onMessage (configTopic "response") bytes))).ui = Ui.init := by
    rw [loopStep_call]
    dsimp only
    exact hui
  have hactions : (loopStep lower (loopStep lower (Session.start lower host requestMs).loop
      (.call (.onMessage (configTopic "response") bytes))) (.idle now)).ui.configActions =
      [.handleConfigList data] := by
    rw [loopStep_idle_cons lower _ now hm1]
    dsimp only
    rw [hui1]
    simp only [Ui.dispatch, hresp, Ui.init, List.nil_append]
  simp only [sessionRun_cons, sessionRun_nil, (sessionStep_loop _ _ _).1, (sessionStep_loop _ _ _).2.1,
    (sessionStep_loop _ _ _).2.2]
  rw [hactions, hui1, hui]
  exact ⟨rfl, rfl, rfl⟩

/-! ### The round trip -/

/-- The plugin listed `x` for combo `w`: the broker delivered a message, on a topic the
    response pattern covers, whose payload decodes to a successful `list_configs` response
    whose data lists `x`. -/
def PluginListed (calls : List (Event AppHandler AppCallback)) (w : ComboName) (x : String) : Prop :=
  ∃ topic bytes payload data, Event.onMessage topic bytes ∈ calls ∧
    topicMatches topic (configTopic "response") = true ∧ decodePayload python bytes = .ok payload ∧
    ControlPanel.onConfigResponse payload = .ok (.handleConfigList data) ∧ Listed data w x

theorem SessionInv.pluginListed {calls : List (Event AppHandler AppCallback)} {s : Session}
    (h : SessionInv calls s) {w : ComboName} {x : String}
    (hx : ListedIn (listsOf s.loop.ui.configActions) w x) : PluginListed calls w x := by
  obtain ⟨data, hdata, hlisted⟩ := hx
  obtain ⟨topic, payload, hran, hresp⟩ := h.actionsRan _ (mem_listsOf hdata)
  obtain ⟨bytes, hmsg, hdecode⟩ := h.delivered.2 _ topic payload _ hran
  exact ⟨topic, bytes, payload, data, hmsg, h.confined.2.2 topic payload _ hran, hdecode, hresp, hlisted⟩

theorem sessionInv_start (host : String) (requestMs : Nat) :
    SessionInv [] (Session.start lower host requestMs) := by
  obtain ⟨hpending, hran, hui⟩ : (Session.start lower host requestMs).loop.pending = [] ∧
      (Session.start lower host requestMs).loop.ran = [] ∧
      (Session.start lower host requestMs).loop.ui = Ui.init :=
    loopRun_not_schedules lower (MainLoop.init host) (startup requestMs)
      (by simp [startup, schedulesSources])
  have hactions : (Session.start lower host requestMs).loop.ui.configActions = [] :=
    congrArg Ui.configActions hui
  refine ⟨⟨fun _ _ _ h => ?_, fun _ _ _ _ h => ?_⟩, fun _ h => ?_, ?_, selectionAgrees_init, ?_,
    fun _ _ _ h => nomatch h⟩
  · rw [hpending] at h; cases h
  · rw [hran] at h; cases h
  · rw [hactions] at h; cases h
  · exact loopRun_invariant lower _ _
      (fun q => q.2 = .controlConfigResponse → q.1 = configTopic "response")
      (fun m e he hm => confinedTo_loopStep lower m e he hm) _
      (by rw [clientCalls_map_call, subscriptions_startup]; decide) (confinedTo_init _ _ host)
  · rw [hactions]
    exact rowsFrom_init

theorem SessionInv.step {calls : List (Event AppHandler AppCallback)} {s : Session}
    (h : SessionInv calls s) (e : AppEvent)
    (he : ∀ q ∈ subscriptions (envCalls [e]), q.2 = .controlConfigResponse → q.1 = configTopic "response") :
    SessionInv (calls ++ envCalls [e]) (sessionStep lower s e) := by
  cases e with
  | loop e =>
    rw [show envCalls [.loop e] = clientCalls [e] by cases e <;> rfl] at he ⊢
    exact h.loop lower e he
  | user a =>
    rw [show envCalls [.user a] = [] from rfl, List.append_nil]
    exact h.user lower a

theorem SessionInv.sessionRun {calls : List (Event AppHandler AppCallback)} {s : Session}
    (h : SessionInv calls s) (evs : List AppEvent)
    (hsub : ∀ q ∈ subscriptions (envCalls evs), q.2 = .controlConfigResponse → q.1 = configTopic "response") :
    SessionInv (calls ++ envCalls evs) (sessionRun lower s evs) := by
  induction evs generalizing s calls with
  | nil => rw [show envCalls [] = [] from rfl, List.append_nil]; exact h
  | cons e evs ih =>
    have hsplit : envCalls (e :: evs) = envCalls [e] ++ envCalls evs := List.filterMap_append [e] evs _
    have hsubs : subscriptions (envCalls (e :: evs)) =
        subscriptions (envCalls [e]) ++ subscriptions (envCalls evs) := by
      rw [hsplit]; exact List.filterMap_append _ _ _
    rw [hsubs] at hsub
    rw [hsplit, ← List.append_assoc]
    exact ih (h.step lower e fun q hq => hsub q (List.mem_append_left _ hq))
      fun q hq => hsub q (List.mem_append_right _ hq)

/-- **The control panel asks the plugin to load only what the plugin listed.**  Take any run
    of the application after `startup` whose calls register `_on_config_response` under no
    pattern but the plugin's response topic, with any messages from the broker and any
    actions of the user.  Every `load_config` request the panel publishes names a model and
    a mount type that the plugin listed: each is in the data of a successful `list_configs`
    response that the broker delivered on a topic the response pattern covers. -/
theorem load_requests_listed_by_plugin (host : String) (requestMs : Nat) (evs : List AppEvent)
    (hsub : ∀ q ∈ subscriptions (envCalls evs),
      q.2 = .controlConfigResponse → q.1 = configTopic "response")
    {model mountType : String} {ms : Nat}
    (hreq : loadRequest model mountType ms ∈
      (sessionRun lower (Session.start lower host requestMs) evs).published) :
    PluginListed (envCalls evs) .model model ∧ PluginListed (envCalls evs) .mount mountType := by
  have h := (sessionInv_start lower host requestMs).sessionRun lower evs hsub
  rw [List.nil_append] at h
  obtain ⟨hmodel, hmount⟩ := h.requests model mountType ms hreq
  exact ⟨h.pluginListed hmodel, h.pluginListed hmount⟩

/-- The plugin lists the S50 on an Alt-Az mount; the user picks both rows and clicks load. -/
theorem load_requests_listed_by_plugin_s50 :
    let data : JsonValue := .obj [("available_configs",
        .arr [.obj [("model", .str "s50"), ("description", .str "Seestar S50")]]),
      ("mount_types", .obj [("altaz", .str "Alt-Az")])]
    let evs : List AppEvent :=
      [.loop (.call (.onMessage (configTopic "response") (encodeUtf8 (dumps (.obj
        [("command", .str "list_configs"), ("success", .bool true), ("data", data)])).data))),
       .loop (.idle "12:00:00"), .user (.pick .model 1), .user (.pick .mount 1), .user (.clickLoad 0)]
    (∀ q ∈ subscriptions (envCalls evs), q.2 = .controlConfigResponse → q.1 = configTopic "response") ∧
    loadRequest "s50" "altaz" 0 ∈
      (sessionRun String.toLower (Session.start String.toLower "localhost" 0) evs).published ∧
    PluginListed (envCalls evs) .model "s50" ∧ PluginListed (envCalls evs) .mount "altaz" := by
  intro data evs
  have hsub : ∀ q ∈ subscriptions (envCalls evs),
      q.2 = .controlConfigResponse → q.1 = configTopic "response" := fun _ h => nomatch h
  obtain ⟨hconfig, hpub, -⟩ := config_after_list_response String.toLower "localhost" 0 _ _ data "12:00:00"
    (decodePayload_python (.obj [("command", .str "list_configs"), ("success", .bool true), ("data", data)])
      (by decide) (by decide)) rfl
  simp only [sessionRun_cons, sessionRun_nil] at hconfig hpub
  have hclick : (sectionStep (sectionStep (sectionStep ((handleConfigList data).exec .init)
      (.pick .model 1)).1 (.pick .mount 1)).1 (.clickLoad 0)).2 = [loadRequest "s50" "altaz" 0] :=
    sectionStep_clickLoad (selectionAgrees_sectionRun
      [.response (.handleConfigList data), .pick .model 1, .pick .mount 1]) (by decide) (by decide)
      (by decide) 0
  have hreq : loadRequest "s50" "altaz" 0 ∈
      (sessionRun String.toLower (Session.start String.toLower "localhost" 0) evs).published := by
    simp only [evs, sessionRun_cons, sessionRun_nil, (sessionStep_user _ _ _).1,
      (sessionStep_user _ _ _).2, hconfig, hpub, UserAction.event, hclick]
    exact List.mem_append_right _ (List.mem_singleton_self _)
  exact ⟨hsub, hreq, load_requests_listed_by_plugin String.toLower "localhost" 0 evs hsub hreq⟩

/-! ### The latest list, end to end -/

/-- The section's button agrees with its selection, and its rows are those of the latest
    list response that `_on_config_response` passed on. -/
def LatestShown (s : Session) : Prop :=
  SelectionAgrees s.config ∧ RowsLatest (listsOf s.loop.ui.configActions).getLast? s.config

theorem LatestShown.step {s : Session} (h : LatestShown s) : ∀ e, LatestShown (sessionStep lower s e)
  | .loop e => by
    obtain ⟨δ, hδ, -⟩ := configActions_loopStep lower s.loop e
    have hnew : (loopStep lower s.loop e).ui.configActions.drop s.loop.ui.configActions.length = δ := by
      rw [hδ, List.drop_left]
    refine ⟨?_, ?_⟩
    · show SelectionAgrees (sectionRun _ _)
      rw [hnew]
      exact h.1.sectionRun _
    · show RowsLatest (listsOf (loopStep lower s.loop e).ui.configActions).getLast? (sectionRun s.config _)
      rw [hnew, hδ, listsOf_append, List.getLast?_append]
      exact h.2.sectionRun _
  | .user a => by
    have hloop : loopRun lower s.loop ((sectionStep s.config a.event).2.map .call) = s.loop :=
      loopRun_publishes lower s.loop _ (publishes_sectionStep s.config a.event)
    have hnone : listResponses [a.event] = [] := by cases a <;> rfl
    have hrows := h.2.sectionStep a.event
    rw [hnone] at hrows
    refine ⟨h.1.sectionStep a.event, ?_⟩
    simp only [sessionStep, hloop]
    exact hrows

theorem LatestShown.sessionRun {s : Session} (h : LatestShown s) (evs : List AppEvent) :
    LatestShown (sessionRun lower s evs) := by
  induction evs generalizing s with
  | nil => exact h
  | cons e evs ih => exact ih (h.step lower e)

theorem latestShown_start (host : String) (requestMs : Nat) :
    LatestShown (Session.start lower host requestMs) := by
  obtain ⟨-, -, hui⟩ := loopRun_not_schedules lower (MainLoop.init host) (startup requestMs)
    (by simp [startup, schedulesSources])
  refine ⟨selectionAgrees_init, ?_⟩
  rw [show (Session.start lower host requestMs).loop.ui.configActions = [] from
    congrArg Ui.configActions hui]
  exact ⟨rfl, rfl⟩

/-- **Load requests name the plugin's latest list.**  In every run of the application after
    `startup`, whatever the broker delivers and whatever the user does, if `listedRows`
    accepts the data of the latest list response that `_on_config_response` passed on, a
    load request that the user's next action publishes names one of its models and one of
    its mount types. -/
theorem load_requests_name_latest_response (host : String) (requestMs : Nat) (evs : List AppEvent)
    (a : UserAction) {data configs : JsonValue} {models : List (Option String)}
    {mounts : List String}
    (hlast : (listsOf (sessionRun lower (Session.start lower host requestMs) evs).loop.ui.configActions
      ).getLast? = some data)
    (hrows : listedRows data = .ok (configs, models, mounts))
    {model mountType : String} {ms : Nat}
    (hreq : loadRequest model mountType ms ∈
      (sectionStep (sessionRun lower (Session.start lower host requestMs) evs).config a.event).2) :
    some model ∈ models ∧ mountType ∈ mounts := by
  obtain ⟨hagrees, hlatest⟩ := (latestShown_start lower host requestMs).sessionRun lower evs
  rw [hlast] at hlatest
  exact rows_of_loadRequest hlatest hagrees hrows hreq

/-- The plugin lists the S50 on an Alt-Az mount and the user picks both rows: a click then
    requests them. -/
theorem load_requests_name_latest_response_s50 :
    let data : JsonValue := .obj [("available_configs",
        .arr [.obj [("model", .str "s50"), ("description", .str "Seestar S50")]]),
      ("mount_types", .obj [("altaz", .str "Alt-Az")])]
    let evs : List AppEvent :=
      [.loop (.call (.onMessage (configTopic "response") (encodeUtf8 (dumps (.obj
        [("command", .str "list_configs"), ("success", .bool true), ("data", data)])).data))),
       .loop (.idle "12:00:00"), .user (.pick .model 1), .user (.pick .mount 1)]
    (listsOf (sessionRun String.toLower (Session.start String.toLower "localhost" 0) evs
      ).loop.ui.configActions).getLast? = some data ∧
    listedRows data = .ok (.arr [.obj [("model", .str "s50"), ("description", .str "Seestar S50")]],
      [some "s50"], ["altaz"]) ∧
    loadRequest "s50" "altaz" 0 ∈ (sectionStep (sessionRun String.toLower
      (Session.start String.toLower "localhost" 0) evs).config (UserAction.clickLoad 0).event).2 ∧
    some "s50" ∈ [some "s50"] ∧ "altaz" ∈ ["altaz"] := by
  intro data evs
  obtain ⟨hconfig, -, hactions⟩ := config_after_list_response String.toLower "localhost" 0 _ _ data
    "12:00:00" (decodePayload_python (.obj [("command", .str "list_configs"), ("success", .bool true),
      ("data", data)]) (by decide) (by decide)) rfl
  simp only [sessionRun_cons, sessionRun_nil] at hconfig hactions
  have hs : (sessionRun String.toLower (Session.start String.toLower "localhost" 0) evs).config =
        (sectionStep (sectionStep ((handleConfigList data).exec .init) (.pick .model 1)).1
          (.pick .mount 1)).1 ∧
      (sessionRun String.toLower (Session.start String.toLower "localhost" 0) evs).loop.ui.configActions =
        [.handleConfigList data] := by
    simp only [evs, sessionRun_cons, sessionRun_nil, (sessionStep_user _ _ _).1,
      sessionStep_user_loop, hconfig, UserAction.event, sectionStep, List.map_nil, loopRun_nil, true_and]
    exact hactions
  have hclick : (sectionStep (sectionStep (sectionStep ((handleConfigList data).exec .init)
      (.pick .model 1)).1 (.pick .mount 1)).1 (.clickLoad 0)).2 = [loadRequest "s50" "altaz" 0] :=
    sectionStep_clickLoad (selectionAgrees_sectionRun
      [.response (.handleConfigList data), .pick .model 1, .pick .mount 1]) (by decide) (by decide)
      (by decide) 0
  have hreq : loadRequest "s50" "altaz" 0 ∈ (sectionStep (sessionRun String.toLower
      (Session.start String.toLower "localhost" 0) evs).config (UserAction.clickLoad 0).event).2 := by
    rw [hs.1, UserAction.event, hclick]
    exact List.mem_singleton_self _
  have hlast : (listsOf (sessionRun String.toLower (Session.start String.toLower "localhost" 0) evs
      ).loop.ui.configActions).getLast? = some data := by
    rw [hs.2]
    rfl
  have hrows : listedRows data = .ok (.arr [.obj [("model", .str "s50"),
      ("description", .str "Seestar S50")]], [some "s50"], ["altaz"]) := rfl
  exact ⟨hlast, hrows, hreq, load_requests_name_latest_response String.toLower "localhost" 0 evs
    (.clickLoad 0) hlast hrows hreq⟩

end BigSkies.App
