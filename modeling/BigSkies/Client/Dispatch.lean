import BigSkies.Client.Client

/-!
# The dispatch contract of `_on_message`

The spec describes dispatch through `handlers_for(topic)`: the handlers of every registered
pattern that covers the topic, patterns in registration order and the handlers of one
pattern in registration order.  `handlersFor` states that with the registry's keys and its
lookup.  `_on_message` instead walks `message_handlers.items()`; the two agree because a
`dict` stores one list per key (`Registry.handlers_of_mem`), which is where the distinct
keys of the registry are used.

`onMessage_schedules` is the whole contract: a call never changes the client; on a payload
that decodes to `d` (the empty payload standing for `{}`) it schedules exactly
`handler(topic, d)` for the handlers of `handlersFor`, each through `GLib.idle_add`; on a
payload that does not decode it schedules nothing.
-/

namespace BigSkies.Client

open BigSkies.Json BigSkies.Topic BigSkiesMQTTClient

variable {H C : Type}

/-- The spec's `handlers_for(topic)` over a registry. -/
def handlersFor (r : Registry H) (topic : String) : List H :=
  (r.keys.filter (topicMatches topic)).flatMap r.handlers

/-- Walking the entries of a `dict` is walking its keys and looking each one up. -/
theorem flatMap_entries (r : Registry H) {β : Type} (g : String → List H → List β) :
    r.entries.flatMap (fun e => g e.1 e.2) = r.keys.flatMap fun k => g k (r.handlers k) := by
  simp only [Registry.keys, List.flatMap_map]
  simp only [List.flatMap_def]
  congr 1
  exact List.map_congr_left fun e he => by rw [Registry.handlers_of_mem he]

/-- The loop of lines 134-138 schedules, in order, the handlers of `handlersFor`. -/
theorem onMessage_of_decode (codec : Codec) (s : BigSkiesMQTTClient H C) (topic : String)
    {payload : List UInt8} {d : JsonValue} (h : decodePayload codec payload = .ok d) :
    s.onMessage codec topic payload =
      (handlersFor s.messageHandlers topic).map fun handler => .idleAddHandler handler topic d := by
  simp only [onMessage, h, handlersFor, List.map_flatMap]
  rw [flatMap_entries s.messageHandlers (g := fun p hs =>
    if topicMatches topic p then hs.map fun handler => (.idleAddHandler handler topic d : Effect H C)
    else [])]
  induction s.messageHandlers.keys with
  | nil => rfl
  | cons k ks ih => by_cases hk : topicMatches topic k <;> simp [hk, ih]

theorem onMessage_of_decode_error (codec : Codec) (s : BigSkiesMQTTClient H C) (topic : String)
    {payload : List UInt8} {e : String} (h : decodePayload codec payload = .error e) :
    s.onMessage codec topic payload = [] := by
  simp [onMessage, h]

/-- Only `_on_message` schedules a handler, and only one registered under a pattern that
    covers the message's topic. -/
theorem mem_handlersFor_of_idleAddHandler (codec : Codec) (s : BigSkiesMQTTClient H C)
    (e : Event H C) {h : H} {topic : String} {d : JsonValue}
    (he : .idleAddHandler h topic d ∈ (step codec s e).2) :
    ∃ k ∈ s.messageHandlers.keys, topicMatches topic k = true ∧
      h ∈ s.messageHandlers.handlers k := by
  cases e with
  | onMessage topic' payload =>
    cases hd : decodePayload codec payload with
    | error err => simp [step, onMessage_of_decode_error codec s topic' hd] at he
    | ok d' =>
      simp only [step, onMessage_of_decode codec s topic' hd, List.mem_map,
        Effect.idleAddHandler.injEq] at he
      obtain ⟨h', hh', rfl, rfl, -⟩ := he
      simpa [handlersFor, List.mem_flatMap, and_assoc] using hh'
  | onConnect rc => by_cases hrc : rc = 0 <;> simp [step, onConnect, hrc] at he
  | subscribe topic' callback =>
    rw [step, subscribe_effects] at he
    split at he <;> (try split at he) <;> simp at he
  | publish topic' payload qos => obtain ⟨_, -, -, ⟨⟩⟩ := mem_publish he
  | connect ok => cases ok <;> simp [step, connect] at he
  | _ => simp [step, disconnect, onDisconnect] at he

theorem decodePayload_empty {codec : Codec} {payload : List UInt8}
    (h : codec.decodeUtf8 payload = .ok "") : decodePayload codec payload = .ok (.obj []) := by
  simp [decodePayload, h, bind, Except.bind, pure, Except.pure]

theorem decodePayload_text {codec : Codec} {payload : List UInt8} {text : String}
    (h : codec.decodeUtf8 payload = .ok text) (hne : text ≠ "") :
    decodePayload codec payload = codec.loads text := by
  simp [decodePayload, h, hne, bind, Except.bind]

theorem decodePayload_utf8_error {codec : Codec} {payload : List UInt8} {e : String}
    (h : codec.decodeUtf8 payload = .error e) : decodePayload codec payload = .error e := by
  simp [decodePayload, h, bind, Except.bind]

/-- **The dispatch contract.**  For every client state, topic and payload: `_on_message`
    leaves the state unchanged; when the bytes decode as UTF-8 to a text that is empty (then
    `d = {}`) or parses as JSON to `d`, it schedules through `GLib.idle_add` exactly one
    call `handler(topic, d)` per handler of `handlersFor`, in that order; when decoding or
    parsing fails it schedules nothing. -/
theorem onMessage_schedules (codec : Codec) (s : BigSkiesMQTTClient H C) (topic : String)
    (payload : List UInt8) :
    (step codec s (.onMessage topic payload)).1 = s ∧
    (∀ text d, codec.decodeUtf8 payload = .ok text →
        (text = "" ∧ d = .obj [] ∨ text ≠ "" ∧ codec.loads text = .ok d) →
        (step codec s (.onMessage topic payload)).2 =
          (handlersFor s.messageHandlers topic).map fun h => .idleAddHandler h topic d) ∧
    (∀ e, (codec.decodeUtf8 payload = .error e ∨
          ∃ text, codec.decodeUtf8 payload = .ok text ∧ text ≠ "" ∧ codec.loads text = .error e) →
        (step codec s (.onMessage topic payload)).2 = []) := by
  refine ⟨rfl, fun text d htext hd => onMessage_of_decode codec s topic ?_,
    fun e he => onMessage_of_decode_error codec s topic (e := e) ?_⟩
  · rcases hd with ⟨rfl, rfl⟩ | ⟨hne, hd⟩
    · exact decodePayload_empty htext
    · rw [decodePayload_text htext hne, hd]
  · rcases he with he | ⟨text, htext, hne, he⟩
    · exact decodePayload_utf8_error he
    · rw [decodePayload_text htext hne, he]

end BigSkies.Client
