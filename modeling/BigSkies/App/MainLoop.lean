import BigSkies.App.Wiring

/-!
# The GTK main loop

`BigSkiesMQTTClient` never calls a handler itself: every handler and connection callback goes
to `GLib.idle_add` (client.py:111, 122, 138), and the GTK main loop of `BigSkiesApp` calls it
later on the GUI thread.  This module closes the system.  A `MainLoop` holds the client, the
idle sources GLib holds, the window, and the log of sources already run.  `loopStep` runs one
`LoopEvent`: either a call into the client (from the paho network thread, or from a button
handler on the GUI thread), or one iteration of the main loop.

GLib runs idle sources of one priority in the order they were added.  After calling a
source's callable it keeps the source attached if the callable returned a true value, and
removes it otherwise; PyGObject prints the traceback of a callable that raises and counts it
as one that returned `False` (`keepsSource`).  Every handler and callback here ends without
`return`, so returns `None`, and every source is removed after its first call
(`keepsSource_eq_false`).  An `idle` event here runs the oldest pending source: GLib's
iteration runs every ready source in one go, in the same order.  What the source wrote
before raising stays written (`PyM`).

The window is as `_build_main_window` leaves it from the start.  No source can run earlier:
`_show_login` builds the window inside `do_activate`, before the main loop gets control
back.

The results are over every run of the loop:

* `idle_sources_fifo`: since no source stays attached, every scheduled source is run exactly
  once, in scheduling order;
* `idle_runs_oldest`: `k` iterations run the `k` oldest pending sources, whatever they raise;
* `handler_runs_only_on_matches`: a handler runs only on topics that match the patterns it
  was subscribed under.
-/

namespace BigSkies.App

open BigSkies.Json BigSkies.Topic BigSkies.Client BigSkies.Widgets BigSkiesMQTTClient

/-! ### Idle sources and the window -/

/-- A callable GLib holds, with its arguments: either a panel's bound handler, called as
    `handler(topic, payload)`, or a connection callback of the application. -/
inductive Source where
  | handler (h : AppHandler) (topic : String) (payload : JsonValue)
  | callback (c : AppCallback)

/-- The source that an effect of the client adds to the main loop, when the effect is a
    `GLib.idle_add`. -/
def Source.ofEffect : Effect AppHandler AppCallback → Option Source
  | .idleAddHandler h topic payload => some (.handler h topic payload)
  | .idleAddCallback c => some (.callback c)
  | _ => none

/-- A panel: the attributes its handlers write, and the GTK calls they have made. -/
structure Panel (S : Type) where
  attrs : S
  calls : List GtkCall

/-- Run a handler body on a panel.  The attributes it wrote before any raise stay written,
    and its GTK calls are appended to the panel's. -/
def Panel.apply {S : Type} (p : Panel S) (body : PyM S Unit) : Panel S × Except PyError Unit :=
  let r := body.exec p.attrs
  (⟨r.2.1, p.calls ++ r.2.2⟩, r.1)

@[simp] theorem Panel.apply_pure {S : Type} (p : Panel S) : p.apply (pure ()) = (p, .ok ()) := by
  simp [Panel.apply, PyM.exec]

/-- The markup of `mqtt_status_label` that `_build_main_window` and `_on_mqtt_connected` set
    (app.py:94, 214). -/
def connectedMarkup : String := "<span color='green'>● Connected</span>"

/-- The markup that `_on_mqtt_disconnected` sets (app.py:220). -/
def disconnectedMarkup : String := "<span color='red'>● Disconnected</span>"

/-- The window of the running application: the three panels, what `_on_config_response`
    went on to do, and the markup of the status label in the header bar. -/
structure Ui where
  health : Panel HealthPanel
  control : Panel ControlPanel
  preview : Panel TelescopePreview
  configActions : List ConfigAction
  mqttStatus : String

/-- The window as `_build_main_window` leaves it (app.py:78-128). -/
def Ui.init : Ui :=
  ⟨⟨HealthPanel.init, []⟩, ⟨ControlPanel.init, []⟩, ⟨TelescopePreview.init, []⟩, [],
    connectedMarkup⟩

/-- One call of a source on the GUI thread: the window after it, and what it raised.
    `lower` is `str.lower`, and `now` is the clock reading `datetime.now()` would take.
    `_on_mqtt_connected` and `_on_mqtt_disconnected` (app.py:210-220) find the status label
    built. -/
def Ui.dispatch (lower : String → String) (now : String) (ui : Ui) :
    Source → Ui × Except PyError Unit
  | .handler .healthMessage topic payload =>
    let r := ui.health.apply (HealthPanel.onHealthMessage lower now topic payload)
    ({ ui with health := r.1 }, r.2)
  | .handler .controlTelescopeState topic payload =>
    let r := ui.control.apply (ControlPanel.onTelescopeState topic payload)
    ({ ui with control := r.1 }, r.2)
  | .handler .controlConfigResponse _ payload =>
    match ControlPanel.onConfigResponse payload with
    | .ok a => ({ ui with configActions := ui.configActions ++ [a] }, .ok ())
    | .error e => (ui, .error e)
  | .handler .controlConfigEvent _ payload => (ui, ControlPanel.onConfigEvent payload)
  | .handler .previewTelescopeState topic payload =>
    let r := ui.preview.apply (TelescopePreview.onTelescopeState topic payload)
    ({ ui with preview := r.1 }, r.2)
  | .callback .mqttConnected => ({ ui with mqttStatus := connectedMarkup }, .ok ())
  | .callback .mqttDisconnected => ({ ui with mqttStatus := disconnectedMarkup }, .ok ())

/-- Whether GLib keeps an idle source attached after calling it: when the callable returned a
    true value.  A callable that raised counts as one that returned `False`; one that
    returned normally here returned `None`. -/
def keepsSource : Except PyError Unit → Bool
  | .ok () => JsonValue.null.truthy
  | .error _ => false

/-- No source here stays attached: `bool(None)` is false. -/
@[simp] theorem keepsSource_eq_false (r : Except PyError Unit) : keepsSource r = false := by
  cases r <;> rfl

/-- `publish` hands nothing to `GLib.idle_add`. -/
@[simp] theorem sources_publish (codec : Codec) (topic : String) (payload : JsonValue) (qos : Nat) :
    (publish codec topic payload qos : List (Effect AppHandler AppCallback)).filterMap
      Source.ofEffect = [] :=
  List.filterMap_eq_nil_iff.2 fun _ he => by obtain ⟨_, -, -, rfl⟩ := mem_publish he; rfl

/-! ### The loop -/

/-- The running application. -/
structure MainLoop where
  client : BigSkiesMQTTClient AppHandler AppCallback
  /-- The sources GLib holds, oldest first. -/
  pending : List Source
  ui : Ui
  /-- The sources run so far, oldest first, each with what it raised. -/
  ran : List (Source × Except PyError Unit)

/-- The application once the login dialog has closed: the client that `_show_login` builds
    for the broker `host` (app.py:57-60), nothing pending, nothing run. -/
def MainLoop.init (host : String) : MainLoop :=
  ⟨BigSkiesMQTTClient.init host 1883, [], Ui.init, []⟩

/-- What happens next in the application. -/
inductive LoopEvent where
  /-- A call into the client: a paho callback on the network thread, or a method call. -/
  | call (e : Event AppHandler AppCallback)
  /-- One iteration of the main loop, at the clock reading `now`. -/
  | idle (now : String)

/-- The call into the client, if the event is one. -/
def LoopEvent.call? : LoopEvent → Option (Event AppHandler AppCallback)
  | .call e => some e
  | .idle _ => none

/-- The calls into the client of a sequence of events, in order. -/
def clientCalls (evs : List LoopEvent) : List (Event AppHandler AppCallback) :=
  evs.filterMap LoopEvent.call?

section Loop

variable (lower : String → String)

/-- One event.  A call steps the client and appends the sources it hands to
    `GLib.idle_add`.  An iteration runs the oldest pending source once, and keeps it in its
    place only if `keepsSource` says so; with nothing pending it does nothing. -/
def loopStep (m : MainLoop) : LoopEvent → MainLoop
  | .call e =>
    let r := step python m.client e
    { m with client := r.1, pending := m.pending ++ r.2.filterMap Source.ofEffect }
  | .idle now =>
    match m.pending with
    | [] => m
    | src :: rest =>
      let r := m.ui.dispatch lower now src
      { m with pending := if keepsSource r.2 then src :: rest else rest, ui := r.1,
               ran := m.ran ++ [(src, r.2)] }

/-- The loop after a sequence of events. -/
def loopRun (m : MainLoop) (evs : List LoopEvent) : MainLoop := evs.foldl (loopStep lower) m

variable (m : MainLoop)

@[simp] theorem loopRun_nil : loopRun lower m [] = m := rfl

@[simp] theorem loopRun_cons (e : LoopEvent) (evs : List LoopEvent) :
    loopRun lower m (e :: evs) = loopRun lower (loopStep lower m e) evs := rfl

theorem loopRun_append (evs evs' : List LoopEvent) :
    loopRun lower m (evs ++ evs') = loopRun lower (loopRun lower m evs) evs' :=
  List.foldl_append _ _ _ _

@[simp] theorem clientCalls_nil : clientCalls [] = [] := rfl

@[simp] theorem clientCalls_call (e : Event AppHandler AppCallback) (evs : List LoopEvent) :
    clientCalls (.call e :: evs) = e :: clientCalls evs := rfl

@[simp] theorem clientCalls_idle (now : String) (evs : List LoopEvent) :
    clientCalls (.idle now :: evs) = clientCalls evs := rfl

theorem clientCalls_append (evs evs' : List LoopEvent) :
    clientCalls (evs ++ evs') = clientCalls evs ++ clientCalls evs' :=
  List.filterMap_append _ _ _

theorem loopStep_call (e : Event AppHandler AppCallback) :
    loopStep lower m (.call e) =
      { m with client := (step python m.client e).1,
               pending := m.pending ++ (step python m.client e).2.filterMap Source.ofEffect } :=
  rfl

theorem loopStep_idle_nil (now : String) (h : m.pending = []) : loopStep lower m (.idle now) = m := by
  simp [loopStep, h]

theorem loopStep_idle_cons (now : String) {src : Source} {rest : List Source}
    (h : m.pending = src :: rest) :
    loopStep lower m (.idle now) =
      { m with pending := rest, ui := (m.ui.dispatch lower now src).1,
               ran := m.ran ++ [(src, (m.ui.dispatch lower now src).2)] } := by
  simp [loopStep, h]

/-- An iteration of the main loop leaves the client alone. -/
@[simp] theorem client_loopStep_idle (now : String) :
    (loopStep lower m (.idle now)).client = m.client := by
  cases h : m.pending
  · rw [loopStep_idle_nil lower m now h]
  · rw [loopStep_idle_cons lower m now h]

/-- The client of the loop is the client run on the calls alone. -/
theorem client_loopRun (evs : List LoopEvent) :
    (loopRun lower m evs).client = run python m.client (clientCalls evs) := by
  induction evs generalizing m with
  | nil => rfl
  | cons e evs ih =>
    cases e with
    | call e => rw [loopRun_cons, ih, loopStep_call]; rfl
    | idle now => rw [loopRun_cons, ih, clientCalls_idle, client_loopStep_idle]

/-! ### Every scheduled source runs once, in order -/

/-- One event keeps the sources run and pending, in order, and appends those it schedules. -/
theorem scheduled_loopStep (e : LoopEvent) :
    (loopStep lower m e).ran.map Prod.fst ++ (loopStep lower m e).pending =
      m.ran.map Prod.fst ++ m.pending ++
        (trace python m.client (clientCalls [e])).filterMap Source.ofEffect := by
  cases e with
  | call e => simp [loopStep_call]
  | idle now =>
    cases h : m.pending with
    | nil => simp [loopStep_idle_nil lower m now h, h]
    | cons src rest => simp [loopStep_idle_cons lower m now h]

/-- **GLib runs every scheduled source exactly once, in scheduling order.**  Over every run
    of the loop, the sources run so far followed by those still pending are exactly the
    sources the client handed to `GLib.idle_add` along the run, in order.  No source is lost
    or run twice, whatever the sources raise, and the sources not yet run are the newest
    ones. -/
theorem idle_sources_fifo (evs : List LoopEvent) :
    (loopRun lower m evs).ran.map Prod.fst ++ (loopRun lower m evs).pending =
      m.ran.map Prod.fst ++ m.pending ++
        (trace python m.client (clientCalls evs)).filterMap Source.ofEffect := by
  induction evs generalizing m with
  | nil => simp
  | cons e evs ih =>
    have hcalls : clientCalls (e :: evs) = clientCalls [e] ++ clientCalls evs :=
      clientCalls_append [e] evs
    have hclient : (loopStep lower m e).client = run python m.client (clientCalls [e]) :=
      client_loopRun lower m [e]
    rw [loopRun_cons, ih, scheduled_loopStep, hcalls, trace_append, ← hclient,
      List.filterMap_append, List.append_assoc]

/-- **Iterations run the oldest sources, whatever they raise.**  From every state, `k`
    iterations of the main loop run the `k` oldest pending sources, in order, and leave the
    others pending.  A source that raises does not hold up the ones behind it. -/
theorem idle_runs_oldest (nows : List String) :
    (loopRun lower m (nows.map .idle)).ran.map Prod.fst =
        m.ran.map Prod.fst ++ m.pending.take nows.length ∧
      (loopRun lower m (nows.map .idle)).pending = m.pending.drop nows.length := by
  induction nows generalizing m with
  | nil => simp
  | cons now nows ih =>
    rw [List.map_cons, loopRun_cons]
    cases h : m.pending with
    | nil =>
      rw [loopStep_idle_nil lower m now h]
      simpa [h] using ih m
    | cons src rest =>
      rw [loopStep_idle_cons lower m now h, (ih _).1, (ih _).2]
      simp

/-! ### Invariants over runs -/

/-- An invariant that every event keeps, as long as the event's `subscribe` calls satisfy
    `ok`, holds after every run whose `subscribe` calls all satisfy `ok`. -/
theorem loopRun_invariant (inv : MainLoop → Prop) (ok : String × AppHandler → Prop)
    (hstep : ∀ m e, (∀ q ∈ subscriptions (clientCalls [e]), ok q) → inv m →
      inv (loopStep lower m e))
    (evs : List LoopEvent) (hevs : ∀ q ∈ subscriptions (clientCalls evs), ok q)
    (hm : inv m) : inv (loopRun lower m evs) := by
  induction evs generalizing m with
  | nil => exact hm
  | cons e evs ih =>
    have hsplit : subscriptions (clientCalls (e :: evs)) =
        subscriptions (clientCalls [e]) ++ subscriptions (clientCalls evs) := by
      rw [show e :: evs = [e] ++ evs from rfl, clientCalls_append]
      exact List.filterMap_append _ _ _
    rw [hsplit] at hevs
    exact ih _ (fun q hq => hevs q (List.mem_append_right _ hq))
      (hstep m e (fun q hq => hevs q (List.mem_append_left _ hq)) hm)

/-- The handler `h` is registered under no pattern but `p`, and every source of `h` pending
    or run carries a topic that `p` admits. -/
def ConfinedTo (h : AppHandler) (p : String) (m : MainLoop) : Prop :=
  (∀ k, h ∈ m.client.messageHandlers.handlers k → k = p) ∧
  (∀ topic payload, Source.handler h topic payload ∈ m.pending → topicMatches topic p = true) ∧
  (∀ topic payload r, (Source.handler h topic payload, r) ∈ m.ran → topicMatches topic p = true)

theorem confinedTo_init (h : AppHandler) (p host : String) : ConfinedTo h p (MainLoop.init host) :=
  ⟨fun _ hk => by simp [MainLoop.init, BigSkiesMQTTClient.init] at hk, fun _ _ hs => by simp [MainLoop.init] at hs,
    fun _ _ _ hs => by simp [MainLoop.init] at hs⟩

/-- A `subscribe` call that registers `h` only under `p` keeps the registry confined. -/
theorem handlers_step_confined (s : BigSkiesMQTTClient AppHandler AppCallback)
    (e : Event AppHandler AppCallback) {h : AppHandler} {p : String}
    (he : ∀ q ∈ e.subscription?.toList, q.2 = h → q.1 = p)
    (hs : ∀ k, h ∈ s.messageHandlers.handlers k → k = p) :
    ∀ k, h ∈ (step python s e).1.messageHandlers.handlers k → k = p := by
  intro k hk
  rw [messageHandlers_step] at hk
  cases e with
  | subscribe topic callback =>
    simp only [Event.subscription?, Option.toList_some, List.mem_singleton, forall_eq] at he
    simp only [Event.subscription?, subscribe_handlers] at hk
    rcases List.mem_append.1 hk with hk | hk
    · exact hs k hk
    · split_ifs at hk with hkt
      · rw [hkt.1]; exact he (List.mem_singleton.1 hk).symm
      · simp at hk
  | _ => exact hs k hk

/-- A source that one call schedules for `h` carries a topic a pattern of `h` admits. -/
theorem confined_of_scheduled (s : BigSkiesMQTTClient AppHandler AppCallback)
    (e : Event AppHandler AppCallback) {h : AppHandler} {p topic : String} {payload : JsonValue}
    (hs : ∀ k, h ∈ s.messageHandlers.handlers k → k = p)
    (hsrc : Source.handler h topic payload ∈ (step python s e).2.filterMap Source.ofEffect) :
    topicMatches topic p = true := by
  obtain ⟨eff, heff, hof⟩ := List.mem_filterMap.1 hsrc
  cases eff with
  | idleAddHandler h' topic' payload' =>
    simp only [Source.ofEffect, Option.some.injEq, Source.handler.injEq] at hof
    obtain ⟨rfl, rfl, rfl⟩ := hof
    obtain ⟨k, -, hmatch, hk⟩ := mem_handlersFor_of_idleAddHandler python s e heff
    rwa [← hs k hk]
  | idleAddCallback c => simp [Source.ofEffect] at hof
  | _ => simp [Source.ofEffect] at hof

/-- Every event whose `subscribe` calls register `h` only under `p` keeps `ConfinedTo h p`. -/
theorem confinedTo_loopStep {h : AppHandler} {p : String} (e : LoopEvent)
    (he : ∀ q ∈ subscriptions (clientCalls [e]), q.2 = h → q.1 = p) (hm : ConfinedTo h p m) :
    ConfinedTo h p (loopStep lower m e) := by
  obtain ⟨hreg, hpend, hran⟩ := hm
  cases e with
  | call e =>
    rw [loopStep_call]
    refine ⟨handlers_step_confined m.client e (by simpa [subscriptions] using he) hreg, ?_, hran⟩
    intro topic payload hsrc
    rcases List.mem_append.1 hsrc with hsrc | hsrc
    · exact hpend topic payload hsrc
    · exact confined_of_scheduled m.client e hreg hsrc
  | idle now =>
    cases hp : m.pending with
    | nil => rw [loopStep_idle_nil lower m now hp]; exact ⟨hreg, hpend, hran⟩
    | cons src rest =>
      rw [loopStep_idle_cons lower m now hp]
      rw [hp] at hpend
      refine ⟨hreg, fun topic payload hs => hpend topic payload (List.mem_cons_of_mem _ hs), ?_⟩
      intro topic payload r hs
      rcases List.mem_append.1 hs with hs | hs
      · exact hran topic payload r hs
      · obtain ⟨rfl, -⟩ := Prod.mk.inj (List.mem_singleton.1 hs)
        exact hpend topic payload (List.mem_cons_self _ _)

/-- **A handler runs only on topics its patterns admit.**  Over every run of the application
    in which every `subscribe` call for the handler `h` is made with the pattern `p`, every
    call of `h` that the main loop has made was on a topic that `_topic_matches` says `p`
    covers. -/
theorem handler_runs_only_on_matches (h : AppHandler) (p host : String) (evs : List LoopEvent)
    (hsub : ∀ q ∈ subscriptions (clientCalls evs), q.2 = h → q.1 = p) :
    ∀ topic payload r, (Source.handler h topic payload, r) ∈ (loopRun lower (MainLoop.init host) evs).ran →
      topicMatches topic p = true :=
  (loopRun_invariant lower _ (ConfinedTo h p) (fun q => q.2 = h → q.1 = p)
    (fun m e he hm => confinedTo_loopStep lower m e he hm) evs hsub (confinedTo_init h p host)).2.2

end Loop

/-- The application's startup calls, then a health message and one iteration: the health
    panel's handler is subscribed only under its pattern. -/
theorem handler_runs_only_on_matches_startup :
    (∀ q ∈ subscriptions (clientCalls ((startup 0).map .call ++
        [.call (.onMessage "bigskies/coordinator/message/health/status" [0x7B, 0x7D]),
         .idle "12:00:00"])),
      q.2 = .healthMessage → q.1 = healthStatusPattern) ∧
    ∀ topic payload r, (Source.handler .healthMessage topic payload, r) ∈
      (loopRun String.toLower (MainLoop.init "localhost") ((startup 0).map .call ++
        [.call (.onMessage "bigskies/coordinator/message/health/status" [0x7B, 0x7D]),
         .idle "12:00:00"])).ran →
      topicMatches topic healthStatusPattern = true :=
  ⟨by decide, handler_runs_only_on_matches String.toLower .healthMessage healthStatusPattern
    "localhost" _ (by decide)⟩

end BigSkies.App
