import BigSkies.Client.Registry
import BigSkies.Json.Value
import BigSkies.Topic.Matcher

/-!
# `BigSkiesMQTTClient`

The class of `mqtt/client.py` as a state record and one function per method.  A method
returns the new state together with what it does to the world, as a list of `Effect`s: the
calls it makes on the paho transport `self.client`, and the callbacks it hands to
`GLib.idle_add`.  The transport and the GTK main loop are the two collaborators the class
talks to; both stay outside the model, which records only the calls made on them.

The paho callbacks (`_on_connect`, `_on_disconnect`, `_on_message`) and the methods the
application calls (`subscribe`, `publish`, ...) are the `Event`s of one state machine:
`step` runs one of them, `run` a sequence, and `trace` collects the effects of a sequence.
Each call is one step, so a run is an interleaving of whole calls.

The payload codecs the class calls (`bytes.decode`, `json.loads`, `json.dumps`) are a
parameter `Codec`; every result of this part holds for all codecs.

paho's `Client.subscribe` and `Client.publish` check their arguments before they send
anything and raise `ValueError` on a bad one (`filterWildcardLenCheck`, `publishChecks`).
`subscribe` and `_on_connect` do not catch it: the method stops where paho raised, with what
it wrote before kept, and the error goes to its caller.  `publish` catches it and logs it.
When `_on_connect` raises, paho passes the error on out of its network loop, which ends the
thread `loop_start` started; the model does not record that, so its runs after such a raise
include some that paho cannot produce.
-/

namespace BigSkies.Client

open BigSkies.Json BigSkies.Topic

/-- The library functions the client applies to payloads. -/
structure Codec where
  /-- `bytes.decode('utf-8')`. -/
  decodeUtf8 : List UInt8 → Except String String
  /-- `json.loads`. -/
  loads : String → Except String JsonValue
  /-- `json.dumps`: the text, or the error it raises. -/
  dumps : JsonValue → Except String String

/-! ### paho's checks -/

/-- `b'#/' in sub`. -/
def hashSlash : List Char → Bool
  | '#' :: '/' :: _ => true
  | _ :: cs => hashSlash cs
  | [] => false

/-- paho's `Client._filter_wildcard_len_check` on a subscription filter (as UTF-8 bytes), true
    when it returns `MQTT_ERR_SUCCESS`: the filter is not empty and at most 65535 bytes long,
    no segment longer than one byte holds `+` or `#`, and no `#` is followed by `/`.
    `Client.subscribe` raises `ValueError` when it fails. -/
def filterWildcardLenCheck (sub : String) : Bool :=
  0 < sub.utf8ByteSize && sub.utf8ByteSize ≤ 65535 &&
    (strSplit sub '/').all (fun p => p.utf8ByteSize ≤ 1 || !('+' ∈ p.data || '#' ∈ p.data)) &&
    !hashSlash sub.data

/-- paho's `Client._topic_wildcard_len_check` on a topic name, true when it returns
    `MQTT_ERR_SUCCESS`: no `+`, no `#`, and at most 65535 bytes. -/
def topicWildcardLenCheck (topic : String) : Bool :=
  !('+' ∈ topic.data || '#' ∈ topic.data) && topic.utf8ByteSize ≤ 65535

/-- The checks paho's `Client.publish` makes (MQTT 3.1.1) before it queues a message, each
    failure a `ValueError`: the topic is not empty and passes `_topic_wildcard_len_check`,
    the QoS is 0, 1 or 2, and the payload is at most 268435455 bytes. -/
def publishChecks (topic payload : String) (qos : Nat) : Bool :=
  topic ≠ "" && topicWildcardLenCheck topic && qos ≤ 2 && payload.utf8ByteSize ≤ 268435455

/-- A call on the paho transport, or a callable handed to `GLib.idle_add` together with its
    arguments.  No constructor stands for calling a handler or a callback: the client only
    ever schedules them on the GTK main loop. -/
inductive Effect (H C : Type) where
  | brokerConnect (host : String) (port keepalive : Nat)
  | loopStart
  | loopStop
  | brokerDisconnect
  | brokerSubscribe (topic : String)
  | brokerPublish (topic payload : String) (qos : Nat)
  | idleAddHandler (handler : H) (topic : String) (payload : JsonValue)
  | idleAddCallback (callback : C)

/-- The attributes of a `BigSkiesMQTTClient` that its methods read or write; `H` is the type
    of message handlers, `C` that of the connection callbacks. -/
structure BigSkiesMQTTClient (H C : Type) where
  brokerHost : String
  brokerPort : Nat
  connected : Bool
  messageHandlers : Registry H
  connectCallback : Option C
  disconnectCallback : Option C

namespace BigSkiesMQTTClient

variable {H C : Type}

/-- `__init__` (client.py:18-37): disconnected, no handlers, no callbacks.  The random
    `client_id` only names the paho client and is not modelled. -/
def init (brokerHost : String) (brokerPort : Nat) : BigSkiesMQTTClient H C :=
  ⟨brokerHost, brokerPort, false, .empty, none, none⟩

/-- `set_callbacks` (client.py:39-44). -/
def setCallbacks (s : BigSkiesMQTTClient H C) (onConnect onDisconnect : Option C) :
    BigSkiesMQTTClient H C :=
  { s with connectCallback := onConnect, disconnectCallback := onDisconnect }

/-- `connect` (client.py:46-60): the effects and the returned flag.  `transportOk` says
    whether `self.client.connect` returned rather than raised; on a raise the error is
    logged, `loop_start` is skipped and the method returns `False`. -/
def connect (s : BigSkiesMQTTClient H C) (transportOk : Bool) : List (Effect H C) × Bool :=
  if transportOk then ([.brokerConnect s.brokerHost s.brokerPort 60, .loopStart], true)
  else ([.brokerConnect s.brokerHost s.brokerPort 60], false)

/-- `disconnect` (client.py:62-66). -/
def disconnect : List (Effect H C) := [.loopStop, .brokerDisconnect]

/-- `subscribe` (client.py:68-81).  A pattern seen for the first time gets an empty handler
    list (line 77) and goes to paho's `Client.subscribe` (line 78); the callback is then
    appended (line 81).  When paho raises on a filter that fails `filterWildcardLenCheck`,
    the method stops there: the pattern stays registered with no handler, and this callback
    is not appended. -/
def subscribe (s : BigSkiesMQTTClient H C) (topic : String) (callback : H) :
    BigSkiesMQTTClient H C × List (Effect H C) :=
  if topic ∈ s.messageHandlers.keys then
    ({ s with messageHandlers := s.messageHandlers.append topic callback }, [])
  else if filterWildcardLenCheck topic then
    ({ s with messageHandlers := (s.messageHandlers.setItem topic []).append topic callback },
     [.brokerSubscribe topic])
  else ({ s with messageHandlers := s.messageHandlers.setItem topic [] }, [])

/-- `publish` (client.py:83-97): `json.dumps` the payload and hand the text to paho's
    `Client.publish`.  A `ValueError` from either is caught at line 96 and logged, and nothing
    is sent. -/
def publish (codec : Codec) (topic : String) (payload : JsonValue) (qos : Nat) :
    List (Effect H C) :=
  match codec.dumps payload with
  | .ok payloadStr =>
    if publishChecks topic payloadStr qos then [.brokerPublish topic payloadStr qos] else []
  | .error _ => []

/-- `_on_connect` (client.py:99-113): on `rc == 0`, mark connected and resubscribe the
    registered patterns in registration order, then schedule the connect callback.  paho
    raises at the first pattern that fails `filterWildcardLenCheck`, which ends the loop and
    the method: the patterns before it are resubscribed, and the callback is not scheduled. -/
def onConnect (s : BigSkiesMQTTClient H C) (rc : Nat) :
    BigSkiesMQTTClient H C × List (Effect H C) :=
  if rc = 0 then
    ({ s with connected := true },
     (s.messageHandlers.keys.takeWhile filterWildcardLenCheck).map .brokerSubscribe ++
       if s.messageHandlers.keys.all filterWildcardLenCheck then
         s.connectCallback.toList.map .idleAddCallback
       else [])
  else (s, [])

/-- `_on_disconnect` (client.py:115-122). -/
def onDisconnect (s : BigSkiesMQTTClient H C) (_rc : Nat) :
    BigSkiesMQTTClient H C × List (Effect H C) :=
  ({ s with connected := false }, s.disconnectCallback.toList.map .idleAddCallback)

/-- Lines 128-129 of `_on_message`: decode the bytes as UTF-8, then parse the text with
    `json.loads` unless it is empty, which stands for `{}`. -/
def decodePayload (codec : Codec) (payload : List UInt8) : Except String JsonValue := do
  let payloadStr ← codec.decodeUtf8 payload
  if payloadStr = "" then pure (.obj []) else codec.loads payloadStr

/-- `_on_message` (client.py:124-143): on a decoded payload, schedule every handler of every
    registered pattern that matches the topic, iterating `message_handlers.items()`; a
    decoding error is logged and nothing is scheduled.  The state is never written. -/
def onMessage (codec : Codec) (s : BigSkiesMQTTClient H C) (topic : String)
    (payload : List UInt8) : List (Effect H C) :=
  match decodePayload codec payload with
  | .ok payloadDict =>
    s.messageHandlers.entries.flatMap fun (topicPattern, handlers) =>
      if topicMatches topic topicPattern then
        handlers.map fun handler => .idleAddHandler handler topic payloadDict
      else []
  | .error _ => []

section Subscribe

variable (s : BigSkiesMQTTClient H C) (topic : String) (callback : H)

@[simp] theorem subscribe_connected : (s.subscribe topic callback).1.connected = s.connected := by
  unfold subscribe; split <;> (try split) <;> rfl

@[simp] theorem subscribe_connectCallback :
    (s.subscribe topic callback).1.connectCallback = s.connectCallback := by
  unfold subscribe; split <;> (try split) <;> rfl

@[simp] theorem subscribe_disconnectCallback :
    (s.subscribe topic callback).1.disconnectCallback = s.disconnectCallback := by
  unfold subscribe; split <;> (try split) <;> rfl

end Subscribe

/-- A `subscribe` call sends a broker-level subscribe exactly for a new pattern that paho
    accepts. -/
theorem subscribe_effects (s : BigSkiesMQTTClient H C) (topic : String) (callback : H) :
    (s.subscribe topic callback).2 =
      if topic ∈ s.messageHandlers.keys then []
      else if filterWildcardLenCheck topic then [.brokerSubscribe topic] else [] := by
  unfold subscribe; split <;> (try split) <;> rfl

/-- `publish` sends at most one message: the text `json.dumps` returned, once paho's checks
    pass. -/
theorem mem_publish {codec : Codec} {topic : String} {payload : JsonValue} {qos : Nat}
    {e : Effect H C} (he : e ∈ publish codec topic payload qos) :
    ∃ text, codec.dumps payload = .ok text ∧ publishChecks topic text qos = true ∧
      e = .brokerPublish topic text qos := by
  unfold publish at he
  split at he
  · rename_i text htext
    split at he
    · exact ⟨text, htext, ‹_›, List.mem_singleton.1 he⟩
    · cases he
  · cases he

end BigSkiesMQTTClient

/-! ### The client as a state machine -/

/-- A call into the client: a method the application calls, or a paho callback. -/
inductive Event (H C : Type) where
  | setCallbacks (onConnect onDisconnect : Option C)
  | connect (transportOk : Bool)
  | disconnect
  | subscribe (topic : String) (callback : H)
  | publish (topic : String) (payload : JsonValue) (qos : Nat)
  | onConnect (rc : Nat)
  | onDisconnect (rc : Nat)
  | onMessage (topic : String) (payload : List UInt8)

open BigSkiesMQTTClient

variable {H C : Type}

/-- One call: the state after it and its effects. -/
def step (codec : Codec) (s : BigSkiesMQTTClient H C) :
    Event H C → BigSkiesMQTTClient H C × List (Effect H C)
  | .setCallbacks onConnect onDisconnect => (s.setCallbacks onConnect onDisconnect, [])
  | .connect transportOk => (s, (s.connect transportOk).1)
  | .disconnect => (s, disconnect)
  | .subscribe topic callback => s.subscribe topic callback
  | .publish topic payload qos => (s, publish codec topic payload qos)
  | .onConnect rc => s.onConnect rc
  | .onDisconnect rc => s.onDisconnect rc
  | .onMessage topic payload => (s, s.onMessage codec topic payload)

/-- The state after a sequence of calls. -/
def run (codec : Codec) (s : BigSkiesMQTTClient H C) (evs : List (Event H C)) :
    BigSkiesMQTTClient H C :=
  evs.foldl (fun s e => (step codec s e).1) s

/-- The effects of a sequence of calls, in order. -/
def trace (codec : Codec) : BigSkiesMQTTClient H C → List (Event H C) → List (Effect H C)
  | _, [] => []
  | s, e :: evs => (step codec s e).2 ++ trace codec (step codec s e).1 evs

section Runs

variable (codec : Codec) (s : BigSkiesMQTTClient H C)

@[simp] theorem run_nil : run codec s [] = s := rfl

@[simp] theorem run_cons (e : Event H C) (evs : List (Event H C)) :
    run codec s (e :: evs) = run codec (step codec s e).1 evs := rfl

theorem run_append (evs evs' : List (Event H C)) :
    run codec s (evs ++ evs') = run codec (run codec s evs) evs' := List.foldl_append _ _ _ _

@[simp] theorem trace_nil : trace codec s [] = [] := rfl

@[simp] theorem trace_cons (e : Event H C) (evs : List (Event H C)) :
    trace codec s (e :: evs) = (step codec s e).2 ++ trace codec (step codec s e).1 evs := rfl

theorem trace_append (evs evs' : List (Event H C)) :
    trace codec s (evs ++ evs') = trace codec s evs ++ trace codec (run codec s evs) evs' := by
  induction evs generalizing s with
  | nil => rfl
  | cons e evs ih => simp [ih]

end Runs

end BigSkies.Client
