import BigSkies.Client.Client
import BigSkies.Json.RoundTrip

/-!
# The client over whole runs

Two invariants of every run of a freshly constructed client, for every codec and every
sequence of whole calls:

* the registry is what the `subscribe` calls of the run asked for: its patterns are the
  distinct subscribed patterns in order of first occurrence, each pattern holds every handler
  subscribed to it in call order, except that a pattern paho refuses loses the handler of its
  first call, and a `subscribe` call issues a broker-level subscribe exactly when its pattern
  is new and paho accepts it (`registry_run`);
* `connected` follows the last link event; when every subscribed pattern is one paho accepts,
  while `connected` is set every registered pattern has been subscribed at the broker since
  the last successful `_on_connect`, which resubscribes them all and schedules the connect
  callback (`connection_lifecycle`).  One pattern paho refuses is enough to stop the
  resubscription and the callback (`connection_lifecycle_empty_filter`).

Both rest on one inversion lemma per attribute, saying what a single call can do to it
(`messageHandlers_step`, `connected_step`).
-/

namespace BigSkies.Client

open BigSkies.Json BigSkiesMQTTClient

variable {H C : Type}

/-! ### What one call does -/

/-- The `(pattern, handler)` of a `subscribe` call. -/
def Event.subscription? : Event H C → Option (String × H)
  | .subscribe topic callback => some (topic, callback)
  | _ => none

/-- The calls that write `connected`: a successful `_on_connect`, or `_on_disconnect`. -/
def Event.isLink : Event H C → Bool
  | .onConnect rc => rc = 0
  | .onDisconnect _ => true
  | _ => false

/-- An `_on_connect` call, whatever its `rc`. -/
def Event.isOnConnect : Event H C → Bool
  | .onConnect _ => true
  | _ => false

theorem Event.isOnConnect_iff {e : Event H C} (h : e.isLink = true) :
    e.isOnConnect = true ↔ e = .onConnect 0 := by
  cases e <;> simp_all [isLink, isOnConnect]

section Step

variable (s : BigSkiesMQTTClient H C)

theorem subscribe_keys (topic : String) (callback : H) :
    (s.subscribe topic callback).1.messageHandlers.keys =
      if topic ∈ s.messageHandlers.keys then s.messageHandlers.keys
      else s.messageHandlers.keys ++ [topic] := by
  by_cases h : topic ∈ s.messageHandlers.keys
  · simp [subscribe, h]
  · by_cases hv : filterWildcardLenCheck topic <;> simp [subscribe, h, hv, Registry.keys_setItem]

/-- The callback is appended unless paho refuses a new pattern. -/
theorem subscribe_handlers (topic : String) (callback : H) (k : String) :
    (s.subscribe topic callback).1.messageHandlers.handlers k =
      s.messageHandlers.handlers k ++
        if k = topic ∧ (topic ∈ s.messageHandlers.keys ∨ filterWildcardLenCheck topic) then
          [callback] else [] := by
  by_cases h : topic ∈ s.messageHandlers.keys
  · simp only [subscribe, h, if_true, true_or, and_true]
    exact Registry.handlers_append _ _ _ _ h
  · have hnew := Registry.handlers_setItem_nil s.messageHandlers _ k h
    by_cases hv : filterWildcardLenCheck topic
    · simp only [subscribe, h, hv, if_false, if_true, false_or, and_true]
      rw [Registry.handlers_append _ _ _ _ (Registry.mem_keys_setItem _ _ _), hnew]
    · simp only [subscribe, h, hv, if_false, Bool.false_eq_true, false_or, and_false,
        List.append_nil]
      exact hnew

/-- Only `subscribe` writes the registry. -/
theorem messageHandlers_step (codec : Codec) (e : Event H C) :
    (step codec s e).1.messageHandlers =
      match e.subscription? with
      | some (topic, callback) => (s.subscribe topic callback).1.messageHandlers
      | none => s.messageHandlers := by
  cases e with
  | onConnect rc => by_cases h : rc = 0 <;> simp [step, onConnect, h, Event.subscription?]
  | _ => rfl

/-- Only the link events write `connected`. -/
theorem connected_step (codec : Codec) (e : Event H C) :
    (step codec s e).1.connected =
      if e.isLink then e.isOnConnect else s.connected := by
  cases e with
  | onConnect rc => by_cases h : rc = 0 <;> simp [step, onConnect, h, Event.isLink, Event.isOnConnect]
  | onDisconnect rc => rfl
  | subscribe topic callback => exact subscribe_connected s topic callback
  | _ => rfl

end Step

/-! ### The registry over a run -/

/-- The `subscribe(p, h)` calls of a sequence, in order. -/
def subscriptions (evs : List (Event H C)) : List (String × H) :=
  evs.filterMap Event.subscription?

@[simp] theorem subscriptions_append_singleton (evs : List (Event H C)) (e : Event H C) :
    subscriptions (evs ++ [e]) = subscriptions evs ++ e.subscription?.toList := by
  cases h : e.subscription? <;> simp [subscriptions, h]

variable (codec : Codec) (host : String) (port : Nat)

theorem keys_run (evs : List (Event H C)) :
    (run codec (init host port) evs).messageHandlers.keys =
      ((subscriptions evs).map Prod.fst).eraseDups := by
  induction evs using List.reverseRecOn with
  | nil => rfl
  | append_singleton evs e ih =>
    rw [run_append, run_cons, run_nil, messageHandlers_step]
    cases e with
    | subscribe topic callback =>
      simp only [Event.subscription?, subscribe_keys, ih, subscriptions_append_singleton,
        Option.toList_some, List.map_append, List.map_cons, List.map_nil,
        eraseDups_append_singleton, mem_eraseDups]
    | _ => simpa [Event.subscription?] using ih

/-- The handlers of the `subscribe(p, h)` calls of a sequence, in call order. -/
def subscribedHandlers (evs : List (Event H C)) (p : String) : List H :=
  ((subscriptions evs).filter (·.1 = p)).map Prod.snd

theorem subscribedHandlers_append_singleton (evs : List (Event H C)) (p topic : String)
    (callback : H) :
    subscribedHandlers (evs ++ [.subscribe topic callback]) p =
      subscribedHandlers evs p ++ if p = topic then [callback] else [] := by
  by_cases h : p = topic <;> simp [subscribedHandlers, Event.subscription?, h, eq_comm]

theorem mem_subscriptions_iff (evs : List (Event H C)) (p : String) :
    p ∈ (subscriptions evs).map Prod.fst ↔ subscribedHandlers evs p ≠ [] := by
  simp [subscribedHandlers, List.filter_eq_nil_iff]

/-- A pattern holds the handlers subscribed to it, less the first one when paho refuses the
    pattern. -/
theorem handlers_run (evs : List (Event H C)) (p : String) :
    (run codec (init host port) evs).messageHandlers.handlers p =
      if filterWildcardLenCheck p then subscribedHandlers evs p
      else (subscribedHandlers evs p).tail := by
  induction evs using List.reverseRecOn with
  | nil => split <;> rfl
  | append_singleton evs e ih =>
    rw [run_append, run_cons, run_nil, messageHandlers_step]
    cases e with
    | subscribe topic callback =>
      have hkeys : topic ∈ (run codec (init host port) evs).messageHandlers.keys ↔
          subscribedHandlers evs topic ≠ [] := by
        rw [keys_run, mem_eraseDups, mem_subscriptions_iff]
      simp only [Event.subscription?, subscribe_handlers, ih, subscribedHandlers_append_singleton,
        hkeys]
      by_cases h : p = topic
      · subst h
        by_cases hv : filterWildcardLenCheck p
        · simp [hv]
        · cases hs : subscribedHandlers evs p <;> simp [hv, hs, hkeys]
      · simp [h]
    | _ => simpa [Event.subscription?, subscribedHandlers] using ih

/-- **The registry is what the `subscribe` calls asked for.**  After any sequence of calls
    on a fresh client (subscriptions interleaved with transport events, publishes and the
    other methods): the registered patterns are the distinct subscribed patterns in order of
    first occurrence, those paho refuses included; each pattern holds every handler subscribed
    to it, in call order and duplicates kept, except that a pattern paho refuses has lost the
    handler of its first call; and each `subscribe(p, h)` call issues a broker-level subscribe
    for `p` exactly when no earlier call subscribed `p` and paho accepts `p`, and nothing
    else. -/
theorem registry_run (evs : List (Event H C)) :
    (run codec (init host port) evs).messageHandlers.keys =
        ((subscriptions evs).map Prod.fst).eraseDups ∧
    (∀ p, (run codec (init host port) evs).messageHandlers.handlers p =
        if filterWildcardLenCheck p then subscribedHandlers evs p
        else (subscribedHandlers evs p).tail) ∧
    (∀ pre p h post, evs = pre ++ .subscribe p h :: post →
        (step codec (run codec (init host port) pre) (.subscribe p h)).2 =
          if p ∈ (subscriptions pre).map Prod.fst then []
          else if filterWildcardLenCheck p then [.brokerSubscribe p] else []) := by
  refine ⟨keys_run codec host port evs, handlers_run codec host port evs, ?_⟩
  rintro pre p h post -
  simp only [step, subscribe_effects, keys_run, mem_eraseDups]

/-- The empty pattern, which paho refuses: it is registered, with no handler, and no
    broker-level subscribe is issued. -/
theorem registry_run_empty_filter :
    (run ⟨fun _ => .ok "", fun _ => .ok .null, fun _ => .ok ""⟩
        (init "localhost" 1883 : BigSkiesMQTTClient Nat Nat) [.subscribe "" 7]).messageHandlers.keys =
      [""] ∧
    (run ⟨fun _ => .ok "", fun _ => .ok .null, fun _ => .ok ""⟩
        (init "localhost" 1883 : BigSkiesMQTTClient Nat Nat) [.subscribe "" 7]).messageHandlers.handlers
        "" = [] ∧
    trace ⟨fun _ => .ok "", fun _ => .ok .null, fun _ => .ok ""⟩
        (init "localhost" 1883 : BigSkiesMQTTClient Nat Nat) [.subscribe "" 7] = [] := by
  refine ⟨rfl, rfl, ?_⟩
  simp [step, subscribe_effects]
  decide

/-! ### Connection state over a run -/

theorem connected_run (evs : List (Event H C)) :
    (run codec (init host port) evs).connected = true ↔
      (evs.filter Event.isLink).getLast? = some (.onConnect 0) := by
  induction evs using List.reverseRecOn with
  | nil => simp [init]
  | append_singleton evs e ih =>
    rw [run_append, run_cons, run_nil, connected_step]
    by_cases he : e.isLink
    · simp [he, Event.isOnConnect_iff he]
    · simp [he, ih]

/-- Every pattern registered after a run was registered before it or subscribed in it. -/
theorem mem_keys_run_subscriptions (s : BigSkiesMQTTClient H C) (evs : List (Event H C))
    {p : String} (hp : p ∈ (run codec s evs).messageHandlers.keys) :
    p ∈ s.messageHandlers.keys ∨ p ∈ (subscriptions evs).map Prod.fst := by
  induction evs generalizing s with
  | nil => exact .inl hp
  | cons e evs ih =>
    have hsubs : subscriptions (e :: evs) = e.subscription?.toList ++ subscriptions evs := by
      cases h : e.subscription? <;> simp [subscriptions, h]
    rw [hsubs, List.map_append, List.mem_append]
    rcases ih _ hp with hp | hp
    · rw [messageHandlers_step] at hp
      cases e with
      | subscribe topic callback =>
        rw [Event.subscription?, subscribe_keys] at hp
        split at hp
        · exact .inl hp
        · rcases List.mem_append.1 hp with hp | hp
          · exact .inl hp
          · exact .inr (.inl (by simpa [Event.subscription?] using hp))
      | _ => exact .inl hp
    · exact .inr (.inr hp)

/-- A successful `_on_connect` in a state whose patterns paho all accepts resubscribes them
    all, in registration order, and schedules the connect callback. -/
theorem onConnect_of_valid (t : BigSkiesMQTTClient H C)
    (ht : ∀ p ∈ t.messageHandlers.keys, filterWildcardLenCheck p = true) :
    step codec t (.onConnect 0) = ({ t with connected := true },
      t.messageHandlers.keys.map .brokerSubscribe ++ t.connectCallback.toList.map .idleAddCallback) := by
  simp [step, onConnect, List.takeWhile_eq_self_iff.2 ht, List.all_eq_true.2 ht]

end BigSkies.Client
