import BigSkies.Client.Dispatch
import Mathlib.Data.List.Infix

/-!
# The paho thread against the GUI thread

**What `_on_message` schedules while the GUI thread subscribes.**  `connect` starts paho's
network thread (`loop_start`), which runs `_on_message` and `_on_connect`; the application
calls `subscribe` on the GUI thread.  Both threads use `message_handlers`, and no lock
guards it: the paho thread iterates the `dict` while the GUI thread may insert a pattern or
append a callback.  `BigSkies.Client.Client` runs each call as one step.  This module takes
the steps of the two threads, at the points where one can observe the other:

* the GUI thread's `subscribe` in two steps, lines 76-79 (a new pattern gets its empty list
  and its broker-level subscribe) and line 81 (the append);
* the paho thread's loops, `_on_message` (lines 134-138) and `_on_connect` (lines 106-107),
  one `next` at a time;
* every other method in one step (`Call`), since none of them reads `message_handlers`.

CPython's `dict` iterator raises `RuntimeError: dictionary changed size during iteration`
at the first `next` after an insertion (`DictIter.next`).  In `_on_message` the `except
Exception` of line 142 catches it and the rest of the message is dropped; in `_on_connect`
it escapes into paho before the connect callback is scheduled.  A `list` iterator has no
such check: it yields what was appended before it reached the end.  paho's `ValueError` on a
pattern it refuses ends `subscribe` after line 77, and ends the loop of `_on_connect` at that
pattern, as in the whole-call model.

CPython hands the interpreter to another thread only after a call or at a backward jump,
never between making an iterator and its first step.  The model lets the GUI thread run at
every step of the paho thread, so its interleavings include all of CPython's.

The results, over every interleaving of the two threads:

* `serial_refines`: the threads making the calls one at a time end where `run` and `trace`
  of the whole-call model end, so what is proved of those is proved of such runs;
* `dispatch_atomic` and `connect_atomic`: a message or a `CONNACK` handled with no step of
  the GUI thread in between does exactly what `onMessage` or `onConnect` does, so the
  whole-call model is this one without interference;
* `scheduled_registered`: a handler is only ever scheduled for a message delivered on a topic
  that one of its patterns covers;
* `dispatch_complete` and `connect_complete`: when no pattern is added while a message is
  dispatched, every handler registered before the message arrived is scheduled for it, and
  when none is added while `_on_connect` runs, every pattern registered before is subscribed
  to again.  Both come from one run lemma, `Running.threadRun`, instantiated with each
  loop's invariant;
* `dispatch_exactly_once`: when moreover no other message is delivered meanwhile, the
  handler calls scheduled are one per registration, in order, each with the message's topic
  and payload, between those registered when the message arrived and those registered at the
  end (`List.Sublist` both ways);
* `dispatch_loses_message` and `connect_loses_callback`: why the two ask that no pattern be
  added.  A pattern added after a call inside a loop makes the loop's next step raise, and
  the rest of the message, or the remaining resubscriptions and the connect callback, are
  lost.
-/

namespace BigSkies.Client

open BigSkies.Json BigSkies.Topic BigSkiesMQTTClient

/-! ### CPython's `dict` iterator -/

/-- An iterator over `message_handlers` (its `items()` or its `keys()`): the size of the
    `dict` when the iterator was made (`di_used`), and the index of the entry it yields next
    (`di_pos`). -/
structure DictIter where
  used : Nat
  pos : Nat
deriving DecidableEq

/-- What a call of `next` on a `DictIter` does. -/
inductive DictNext where
  | runtimeError
  | stop
  | yield (key : String) (it : DictIter)
deriving DecidableEq

variable {H C : Type}

/-- `next(it)` (CPython's `dictiter_iternextkey` and `dictiter_iternextitem`): a
    `RuntimeError` once the `dict` has a size other than the one the iterator was made with,
    else the entry at `pos`, else `StopIteration`.  `message_handlers` never loses an entry,
    so an entry keeps its index. -/
def DictIter.next (it : DictIter) (r : Registry H) : DictNext :=
  if r.keys.length ≠ it.used then .runtimeError
  else match r.keys[it.pos]? with
    | some k => .yield k ⟨it.used, it.pos + 1⟩
    | none => .stop

/-- `next` yields only keys of the `dict`. -/
theorem DictIter.mem_keys_of_next {it it' : DictIter} {r : Registry H} {k : String}
    (h : it.next r = .yield k it') : k ∈ r.keys := by
  simp only [DictIter.next] at h
  split_ifs at h
  split at h
  · cases h; exact List.getElem?_mem ‹_›
  · cases h

/-! ### The two threads -/

/-- Where the paho network thread is. -/
inductive Paho where
  /-- Outside the client's callbacks. -/
  | idle
  /-- In the loop of `_on_message` on a message on `topic` whose payload decoded to
      `payload`, about to call `next` on the iterator `it` of `message_handlers.items()`. -/
  | items (topic : String) (payload : JsonValue) (it : DictIter)
  /-- In `for handler in handlers` for the pattern `key`, about to take its handler `i`. -/
  | handlers (topic : String) (payload : JsonValue) (it : DictIter) (key : String) (i : Nat)
  /-- In the loop of `_on_connect`, about to call `next` on the iterator `it` of
      `message_handlers.keys()`. -/
  | keys (it : DictIter)

/-- The client with its two threads, and the calls made so far on paho and on
    `GLib.idle_add`, oldest first. -/
structure Threads (H C : Type) where
  client : BigSkiesMQTTClient H C
  /-- The GUI thread between line 79 and line 81 of `subscribe(topic, callback)`. -/
  subscribing : Option (String × H)
  paho : Paho
  effects : List (Effect H C)

/-- A method of the client that does not read or write `message_handlers`: those the GUI
    thread calls, and `_on_disconnect`, which the paho thread calls. -/
inductive Call (C : Type) where
  | setCallbacks (onConnect onDisconnect : Option C)
  | connect (transportOk : Bool)
  | disconnect
  | publish (topic : String) (payload : JsonValue) (qos : Nat)
  | onDisconnect (rc : Nat)

/-- The call as a call into the whole-call model. -/
def Call.toEvent : Call C → Event H C
  | .setCallbacks connectCb disconnectCb => .setCallbacks connectCb disconnectCb
  | .connect transportOk => .connect transportOk
  | .disconnect => .disconnect
  | .publish topic payload qos => .publish topic payload qos
  | .onDisconnect rc => .onDisconnect rc

/-- A step of one of the threads. -/
inductive ThreadEvent (H C : Type) where
  /-- The GUI thread runs lines 76-79 of `subscribe(topic, callback)`; when paho refuses a
      new pattern, its `ValueError` ends the method there. -/
  | subscribe (topic : String) (callback : H)
  /-- The GUI thread runs line 81 of the `subscribe` it is in. -/
  | append
  /-- The paho thread enters `_on_message` with a message and reaches its loop. -/
  | message (topic : String) (payload : List UInt8)
  /-- The paho thread enters `_on_connect(rc)`. -/
  | connack (rc : Nat)
  /-- The paho thread takes one step of the loop it is in: one `FOR_ITER` and the call
      after it (`_topic_matches`, `GLib.idle_add` or `client.subscribe`). -/
  | next
  /-- A thread makes a call that does not read `message_handlers`, in one step. -/
  | call (e : Call C)

namespace Threads

/-- The client with both threads outside its methods. -/
def init (c : BigSkiesMQTTClient H C) : Threads H C := ⟨c, none, .idle, []⟩

/-- One step of the paho thread in the loop it is in. -/
def pahoNext (t : Threads H C) : Threads H C :=
  match t.paho with
  | .idle => t
  | .items topic d it =>
    match it.next t.client.messageHandlers with
    | .runtimeError | .stop => { t with paho := .idle }
    | .yield k it' =>
      { t with paho := if topicMatches topic k then .handlers topic d it' k 0 else .items topic d it' }
  | .handlers topic d it k i =>
    match (t.client.messageHandlers.handlers k)[i]? with
    | some h => { t with paho := .handlers topic d it k (i + 1),
                         effects := t.effects ++ [.idleAddHandler h topic d] }
    | none => { t with paho := .items topic d it }
  | .keys it =>
    match it.next t.client.messageHandlers with
    | .runtimeError => { t with paho := .idle }
    | .stop => { t with paho := .idle,
                        effects := t.effects ++ t.client.connectCallback.toList.map .idleAddCallback }
    | .yield k it' =>
      if filterWildcardLenCheck k then
        { t with paho := .keys it', effects := t.effects ++ [.brokerSubscribe k] }
      else { t with paho := .idle }

/-- Whether the thread that makes the call is outside the client's methods: the paho thread for
    `_on_disconnect`, the GUI thread for the others. -/
def free (t : Threads H C) : Call C → Bool
  | .onDisconnect _ => (t.paho matches .idle)
  | _ => t.subscribing.isNone

end Threads

/-- One step of one thread.  A step of a thread that is elsewhere changes nothing. -/
def threadStep (codec : Codec) (t : Threads H C) : ThreadEvent H C → Threads H C
  | .subscribe topic callback =>
    match t.subscribing with
    | some _ => t
    | none =>
      if topic ∈ t.client.messageHandlers.keys then { t with subscribing := some (topic, callback) }
      else if filterWildcardLenCheck topic then
        { t with client := { t.client with
                               messageHandlers := t.client.messageHandlers.setItem topic [] },
                 subscribing := some (topic, callback),
                 effects := t.effects ++ [.brokerSubscribe topic] }
      else { t with client := { t.client with
                                  messageHandlers := t.client.messageHandlers.setItem topic [] } }
  | .append =>
    match t.subscribing with
    | some (topic, callback) =>
      { t with client := { t.client with
                             messageHandlers := t.client.messageHandlers.append topic callback },
               subscribing := none }
    | none => t
  | .message topic payload =>
    match t.paho, decodePayload codec payload with
    | .idle, .ok d => { t with paho := .items topic d ⟨t.client.messageHandlers.keys.length, 0⟩ }
    | _, _ => t
  | .connack rc =>
    match t.paho with
    | .idle =>
      if rc = 0 then { t with client := { t.client with connected := true },
                              paho := .keys ⟨t.client.messageHandlers.keys.length, 0⟩ }
      else t
    | _ => t
  | .next => t.pahoNext
  | .call e =>
    if t.free e then
      { t with client := (step codec t.client e.toEvent).1,
               effects := t.effects ++ (step codec t.client e.toEvent).2 }
    else t

/-- The threads after a sequence of steps. -/
def threadRun (codec : Codec) (t : Threads H C) (evs : List (ThreadEvent H C)) : Threads H C :=
  evs.foldl (threadStep codec) t

section Runs

variable (codec : Codec)

/-- A call leaves `message_handlers` as it is. -/
@[simp] theorem messageHandlers_call (s : BigSkiesMQTTClient H C) (e : Call C) :
    (step codec s (e.toEvent : Event H C)).1.messageHandlers = s.messageHandlers := by
  cases e <;> rfl

/-- A call schedules no handler. -/
theorem idleAddHandler_not_mem_call (s : BigSkiesMQTTClient H C) (e : Call C) {h : H}
    {topic : String} {d : JsonValue} : .idleAddHandler h topic d ∉ (step codec s e.toEvent).2 := by
  cases e with
  | connect ok => cases ok <;> simp [step, Call.toEvent, BigSkiesMQTTClient.connect]
  | publish topic' payload qos => intro he; obtain ⟨_, -, -, ⟨⟩⟩ := mem_publish he
  | _ => simp [step, Call.toEvent, disconnect, onDisconnect]

@[simp] theorem threadRun_nil (t : Threads H C) : threadRun codec t [] = t := rfl

@[simp] theorem threadRun_cons (t : Threads H C) (e : ThreadEvent H C) (evs : List (ThreadEvent H C)) :
    threadRun codec t (e :: evs) = threadRun codec (threadStep codec t e) evs := rfl

theorem threadRun_append (t : Threads H C) (evs evs' : List (ThreadEvent H C)) :
    threadRun codec t (evs ++ evs') = threadRun codec (threadRun codec t evs) evs' :=
  List.foldl_append _ _ _ _

end Runs

/-! ### Without interference: the whole-call model -/

/-- The number of `next` steps the loop of `_on_message` takes over the patterns `ks`: one
    to yield each pattern, and for a pattern that covers `topic` one per handler and one to
    leave its list. -/
def loopLength (r : Registry H) (topic : String) : List String → Nat
  | [] => 0
  | k :: ks => (if topicMatches topic k then (r.handlers k).length + 2 else 1) + loopLength r topic ks

section Atomic

variable (codec : Codec)

/-- Growing a list at its end leaves its first `i` elements alone. -/
theorem prefix_take_eq {α : Type} {l l' : List α} (h : l <+: l') {i : Nat} (hi : i ≤ l.length) :
    l'.take i = l.take i :=
  ((h.take i).eq_of_length (by simp only [List.length_take]; have := h.length_le; omega)).symm

theorem getElem?_of_drop_eq_nil {α : Type} {l : List α} {p : Nat} (h : l.drop p = []) : l[p]? = none :=
  List.getElem?_eq_none_iff.2 (List.drop_eq_nil_iff.1 h)

theorem getElem?_of_drop_eq_cons {α : Type} {l ks : List α} {p : Nat} {k : α} (h : l.drop p = k :: ks) :
    l[p]? = some k ∧ l.drop (p + 1) = ks := by
  rw [← List.head?_drop, ← List.tail_drop, h]; exact ⟨rfl, rfl⟩

/-- Left alone, the inner loop schedules the handlers it has not reached, then returns to
    the items iterator. -/
theorem threadRun_handlers (c : BigSkiesMQTTClient H C) (sub : Option (String × H))
    {topic : String} {d : JsonValue} {it : DictIter} {k : String} :
    ∀ (hs : List H) (i : Nat) (eff : List (Effect H C)), (c.messageHandlers.handlers k).drop i = hs →
      threadRun codec ⟨c, sub, .handlers topic d it k i, eff⟩ (List.replicate (hs.length + 1) .next) =
        ⟨c, sub, .items topic d it, eff ++ hs.map fun h => .idleAddHandler h topic d⟩
  | [], i, eff, hdrop => by simp [threadStep, Threads.pahoNext, getElem?_of_drop_eq_nil hdrop]
  | h :: hs, i, eff, hdrop => by
    obtain ⟨hsome, hrest⟩ := getElem?_of_drop_eq_cons hdrop
    rw [List.length_cons, List.replicate_succ, threadRun_cons]
    simp only [threadStep, Threads.pahoNext, hsome]
    rw [threadRun_handlers c sub hs (i + 1) _ hrest]
    simp

/-- Left alone, the loop of `_on_message` goes through the patterns it has not reached,
    schedules the handlers of those that cover the topic, and ends. -/
theorem threadRun_items (c : BigSkiesMQTTClient H C) (sub : Option (String × H)) {topic : String}
    {d : JsonValue} :
    ∀ (ks : List String) (p : Nat) (eff : List (Effect H C)), c.messageHandlers.keys.drop p = ks →
      threadRun codec ⟨c, sub, .items topic d ⟨c.messageHandlers.keys.length, p⟩, eff⟩
          (List.replicate (loopLength c.messageHandlers topic ks + 1) .next) =
        ⟨c, sub, .idle, eff ++ ks.flatMap fun k =>
          if topicMatches topic k then (c.messageHandlers.handlers k).map fun h => .idleAddHandler h topic d
          else []⟩
  | [], p, eff, hdrop => by
    simp [loopLength, threadStep, Threads.pahoNext, DictIter.next, getElem?_of_drop_eq_nil hdrop]
  | k :: ks, p, eff, hdrop => by
    obtain ⟨hsome, hrest⟩ := getElem?_of_drop_eq_cons hdrop
    have hlen : loopLength c.messageHandlers topic (k :: ks) + 1 =
        1 + ((if topicMatches topic k then (c.messageHandlers.handlers k).length + 1 else 0) +
          (loopLength c.messageHandlers topic ks + 1)) := by
      simp only [loopLength]
      split <;> omega
    rw [hlen, List.replicate_add, threadRun_append, List.replicate_one, threadRun_cons, threadRun_nil]
    simp only [threadStep, Threads.pahoNext, DictIter.next, hsome, ne_eq, not_true_eq_false,
      if_false]
    by_cases hk : topicMatches topic k
    · rw [if_pos hk, if_pos hk, List.replicate_add, threadRun_append,
        threadRun_handlers codec c sub _ 0 eff (List.drop_zero _), threadRun_items c sub ks (p + 1) _ hrest]
      simp [hk]
    · rw [if_neg hk, if_neg hk, Nat.zero_add, threadRun_items c sub ks (p + 1) _ hrest]
      simp [hk]

theorem threadRun_onMessage (c : BigSkiesMQTTClient H C) (sub : Option (String × H))
    (eff : List (Effect H C)) (topic : String) (payload : List UInt8) {d : JsonValue}
    (hd : decodePayload codec payload = .ok d) :
    threadRun codec ⟨c, sub, .idle, eff⟩ (.message topic payload :: List.replicate
        (loopLength c.messageHandlers topic c.messageHandlers.keys + 1) .next) =
      ⟨c, sub, .idle, eff ++ c.onMessage codec topic payload⟩ := by
  rw [threadRun_cons]
  simp only [threadStep, hd]
  rw [threadRun_items codec c sub _ 0 eff (List.drop_zero _)]
  simp only [onMessage, hd]
  rw [flatMap_entries c.messageHandlers (g := fun p hs =>
    if topicMatches topic p then hs.map fun handler => (.idleAddHandler handler topic d : Effect H C)
    else [])]

/-- **Without interference, a dispatch is the whole call.**  A message that the paho thread
    dispatches with no step of the GUI thread in between schedules exactly what `onMessage`
    schedules, and leaves everything else as it was. -/
theorem dispatch_atomic (t : Threads H C) (ht : t.paho = .idle) (topic : String)
    (payload : List UInt8) {d : JsonValue} (hd : decodePayload codec payload = .ok d) :
    threadRun codec t (.message topic payload :: List.replicate
        (loopLength t.client.messageHandlers topic t.client.messageHandlers.keys + 1) .next) =
      { t with effects := t.effects ++ t.client.onMessage codec topic payload } := by
  obtain ⟨c, sub, paho, eff⟩ := t
  subst ht
  exact threadRun_onMessage codec c sub eff topic payload hd

/-- Outside its callbacks, the paho thread has no loop to step. -/
theorem threadRun_next_idle (t : Threads H C) (ht : t.paho = .idle) (n : Nat) :
    threadRun codec t (List.replicate n .next) = t := by
  induction n with
  | zero => rfl
  | succ n ih => rw [List.replicate_succ, threadRun_cons, show threadStep codec t .next = t by
      simp only [threadStep, Threads.pahoNext, ht], ih]

/-- Left alone, the loop of `_on_connect` subscribes again to the patterns it has not reached,
    up to the first one paho refuses, then schedules the connect callback if paho refused
    none. -/
theorem threadRun_keys (c : BigSkiesMQTTClient H C) (sub : Option (String × H)) :
    ∀ (ks : List String) (p : Nat) (eff : List (Effect H C)), c.messageHandlers.keys.drop p = ks →
      threadRun codec ⟨c, sub, .keys ⟨c.messageHandlers.keys.length, p⟩, eff⟩
          (List.replicate (ks.length + 1) .next) =
        ⟨c, sub, .idle, eff ++ (ks.takeWhile filterWildcardLenCheck).map .brokerSubscribe ++
          if ks.all filterWildcardLenCheck then c.connectCallback.toList.map .idleAddCallback
          else []⟩
  | [], p, eff, hdrop => by
    simp [threadStep, Threads.pahoNext, DictIter.next, getElem?_of_drop_eq_nil hdrop]
  | k :: ks, p, eff, hdrop => by
    obtain ⟨hsome, hrest⟩ := getElem?_of_drop_eq_cons hdrop
    rw [List.length_cons, List.replicate_succ, threadRun_cons]
    simp only [threadStep, Threads.pahoNext, DictIter.next, hsome, ne_eq, not_true_eq_false,
      if_false]
    by_cases hk : filterWildcardLenCheck k
    · rw [if_pos hk, threadRun_keys c sub ks (p + 1) _ hrest]
      simp [hk]
    · rw [if_neg hk, threadRun_next_idle codec _ rfl]
      simp [hk]

theorem threadRun_onConnect (c : BigSkiesMQTTClient H C) (sub : Option (String × H))
    (eff : List (Effect H C)) :
    threadRun codec ⟨c, sub, .idle, eff⟩
        (.connack 0 :: List.replicate (c.messageHandlers.keys.length + 1) .next) =
      ⟨(c.onConnect 0).1, sub, .idle, eff ++ (c.onConnect 0).2⟩ := by
  rw [threadRun_cons]
  simp only [threadStep, if_true]
  rw [threadRun_keys codec { c with connected := true } sub _ 0 eff (List.drop_zero _)]
  simp [onConnect]

/-- **Without interference, a connection is the whole call.**  A successful `CONNACK` that
    the paho thread handles with no step of the GUI thread in between does what `onConnect`
    does: the client is marked connected, the patterns are subscribed again in registration
    order up to the first one paho refuses, and the connect callback is scheduled when paho
    refused none. -/
theorem connect_atomic (t : Threads H C) (ht : t.paho = .idle) :
    threadRun codec t (.connack 0 :: List.replicate (t.client.messageHandlers.keys.length + 1) .next) =
      { t with client := (t.client.onConnect 0).1, effects := t.effects ++ (t.client.onConnect 0).2 } := by
  obtain ⟨c, sub, paho, eff⟩ := t
  subst ht
  exact threadRun_onConnect codec c sub eff

/-- A pattern subscribed before the `CONNACK`: it is subscribed again, then the connect
    callback is scheduled. -/
theorem connect_atomic_subscribed :
    (threadRun ⟨fun _ => .ok "", fun _ => .ok .null, fun _ => .ok ""⟩
        (threadRun ⟨fun _ => .ok "", fun _ => .ok .null, fun _ => .ok ""⟩
          (Threads.init ((BigSkiesMQTTClient.init "localhost" 1883 : BigSkiesMQTTClient Nat Nat).setCallbacks
            (some 0) none))
          [.subscribe "a" 0, .append])
        [.connack 0, .next, .next]).effects =
      [.brokerSubscribe "a", .brokerSubscribe "a", .idleAddCallback 0] :=
  (congrArg Threads.effects (connect_atomic ⟨fun _ => .ok "", fun _ => .ok .null, fun _ => .ok ""⟩
    (threadRun ⟨fun _ => .ok "", fun _ => .ok .null, fun _ => .ok ""⟩
      (Threads.init ((BigSkiesMQTTClient.init "localhost" 1883).setCallbacks (some 0) none))
      [.subscribe "a" 0, .append])
    (by rfl))).trans (by rfl)

/-- A registry with the patterns `a` and `#`, one handler each: the message on `a` schedules
    both, in registration order. -/
theorem dispatch_atomic_two_patterns :
    (threadRun ⟨fun _ => .ok "", fun _ => .ok .null, fun _ => .ok ""⟩
        (threadRun ⟨fun _ => .ok "", fun _ => .ok .null, fun _ => .ok ""⟩
          (Threads.init (BigSkiesMQTTClient.init "localhost" 1883 : BigSkiesMQTTClient Nat Nat))
          [.subscribe "a" 0, .append, .subscribe "#" 1, .append])
        [.message "a" [], .next, .next, .next, .next, .next, .next, .next]).effects =
      [.brokerSubscribe "a", .brokerSubscribe "#", .idleAddHandler 0 "a" (.obj []),
        .idleAddHandler 1 "a" (.obj [])] :=
  (congrArg Threads.effects (dispatch_atomic ⟨fun _ => .ok "", fun _ => .ok .null, fun _ => .ok ""⟩
    (threadRun ⟨fun _ => .ok "", fun _ => .ok .null, fun _ => .ok ""⟩
      (Threads.init (BigSkiesMQTTClient.init "localhost" 1883)) [.subscribe "a" 0, .append, .subscribe "#" 1, .append])
    (by rfl) "a" [] (by rfl))).trans (by rfl)

end Atomic

/-! ### The whole-call model as a run of the two threads -/

/-- The steps by which the threads make the call `e` on the client `s` with nothing in
    between: `subscribe` in its two steps, `_on_connect` and `_on_message` with their loops run
    to the end, every other call in one step. -/
def callSteps (s : BigSkiesMQTTClient H C) : Event H C → List (ThreadEvent H C)
  | .setCallbacks connectCb disconnectCb => [.call (.setCallbacks connectCb disconnectCb)]
  | .connect transportOk => [.call (.connect transportOk)]
  | .disconnect => [.call .disconnect]
  | .subscribe topic callback => [.subscribe topic callback, .append]
  | .publish topic payload qos => [.call (.publish topic payload qos)]
  | .onConnect rc => .connack rc :: List.replicate (s.messageHandlers.keys.length + 1) .next
  | .onDisconnect rc => [.call (.onDisconnect rc)]
  | .onMessage topic payload =>
    .message topic payload ::
      List.replicate (loopLength s.messageHandlers topic s.messageHandlers.keys + 1) .next

/-- The calls `evs`, made one after another from the client `s`. -/
def serial (codec : Codec) : BigSkiesMQTTClient H C → List (Event H C) → List (ThreadEvent H C)
  | _, [] => []
  | s, e :: evs => callSteps s e ++ serial codec (step codec s e).1 evs

section Serial

variable (codec : Codec)

/-- One call made with nothing in between does what `step` says. -/
theorem threadRun_callSteps (c : BigSkiesMQTTClient H C) (eff : List (Effect H C)) (e : Event H C) :
    threadRun codec ⟨c, none, .idle, eff⟩ (callSteps c e) =
      ⟨(step codec c e).1, none, .idle, eff ++ (step codec c e).2⟩ := by
  cases e with
  | subscribe topic callback =>
    by_cases hk : topic ∈ c.messageHandlers.keys
    · simp [callSteps, threadStep, step, BigSkiesMQTTClient.subscribe, hk]
    · by_cases hv : filterWildcardLenCheck topic <;>
        simp [callSteps, threadStep, step, BigSkiesMQTTClient.subscribe, hk, hv]
  | onConnect rc =>
    by_cases hrc : rc = 0
    · subst hrc; exact threadRun_onConnect codec c none eff
    · rw [callSteps, threadRun_cons]
      simp only [threadStep, hrc, if_false]
      rw [threadRun_next_idle codec _ rfl]
      simp [step, onConnect, hrc]
  | onMessage topic payload =>
    rcases hd : decodePayload codec payload with _ | d
    · rw [callSteps, threadRun_cons]
      simp only [threadStep, hd]
      rw [threadRun_next_idle codec _ rfl]
      simp [step, onMessage, hd]
    · exact threadRun_onMessage codec c none eff topic payload hd
  | _ => rfl

/-- **The whole-call model is the two threads making one call at a time.**  From a client
    whose threads are outside its methods, the threads that make the calls `evs` one after
    another, each with nothing in between, end with the client and the effects that `run` and
    `trace` give: every run of the whole-call model is a run of the two threads. -/
theorem serial_refines (c : BigSkiesMQTTClient H C) (eff : List (Effect H C)) (evs : List (Event H C)) :
    threadRun codec ⟨c, none, .idle, eff⟩ (serial codec c evs) =
      ⟨run codec c evs, none, .idle, eff ++ trace codec c evs⟩ := by
  induction evs generalizing c eff with
  | nil => simp [serial]
  | cons e evs ih => rw [serial, threadRun_append, threadRun_callSteps, ih]; simp

end Serial

/-! ### What the GUI thread writes -/

/-- `r'` is `r` with patterns added at the end and handlers appended to lists, which is all
    `subscribe` ever does to `message_handlers`. -/
def Registry.Extends (r r' : Registry H) : Prop :=
  r.keys <+: r'.keys ∧ ∀ k, r.handlers k <+: r'.handlers k

namespace Registry.Extends

variable {r r' r'' : Registry H}

theorem refl (r : Registry H) : r.Extends r := ⟨List.prefix_refl _, fun _ => List.prefix_refl _⟩

theorem trans (h : r.Extends r') (h' : r'.Extends r'') : r.Extends r'' :=
  ⟨h.1.trans h'.1, fun k => (h.2 k).trans (h'.2 k)⟩

theorem mem_keys (h : r.Extends r') {k : String} (hk : k ∈ r.keys) : k ∈ r'.keys := h.1.subset hk

theorem mem_handlers (h : r.Extends r') {k : String} {x : H} (hx : x ∈ r.handlers k) :
    x ∈ r'.handlers k :=
  (h.2 k).subset hx

/-- Once no pattern is added, the patterns are the same. -/
theorem keys_eq (h : r.Extends r') (hlen : r'.keys.length = r.keys.length) : r'.keys = r.keys :=
  (h.1.eq_of_length hlen.symm).symm

end Registry.Extends

theorem Registry.extends_setItem_nil (r : Registry H) {k : String} (hk : k ∉ r.keys) :
    r.Extends (r.setItem k []) :=
  ⟨by simp only [Registry.keys_setItem, if_neg hk, List.prefix_append],
   fun k' => by simp only [Registry.handlers_setItem_nil r k k' hk, List.prefix_refl]⟩

theorem Registry.extends_append (r : Registry H) {k : String} (hk : k ∈ r.keys) (x : H) :
    r.Extends (r.append k x) :=
  ⟨by simp only [Registry.keys_append, List.prefix_refl], fun k' => by
    rw [Registry.handlers_append r k k' x hk]; exact List.prefix_append _ _⟩

/-! ### Over every interleaving: only registered handlers, only delivered messages -/

/-- One of the steps `evs` delivered a message on `topic` whose payload decodes to `d`. -/
def MessageIn (codec : Codec) (evs : List (ThreadEvent H C)) (topic : String) (d : JsonValue) :
    Prop :=
  ∃ payload, ThreadEvent.message topic payload ∈ evs ∧ decodePayload codec payload = .ok d

/-- `h` is registered under a pattern that covers `topic`. -/
def Registered (r : Registry H) (topic : String) (h : H) : Prop :=
  ∃ k ∈ r.keys, topicMatches topic k = true ∧ h ∈ r.handlers k

/-- What the paho thread's position says about the message it dispatches. -/
def PahoFrom (codec : Codec) (evs : List (ThreadEvent H C)) (r : Registry H) : Paho → Prop
  | .items topic d _ => MessageIn codec evs topic d
  | .handlers topic d _ k _ => MessageIn codec evs topic d ∧ k ∈ r.keys ∧ topicMatches topic k = true
  | _ => True

/-- What holds of the threads after the steps `evs`: the GUI thread is only ever inside a
    `subscribe` whose pattern is registered, every handler scheduled was registered for a
    delivered message, and so is the message the paho thread dispatches. -/
structure Safe (codec : Codec) (evs : List (ThreadEvent H C)) (t : Threads H C) : Prop where
  subscribing : ∀ topic cb, t.subscribing = some (topic, cb) → topic ∈ t.client.messageHandlers.keys
  scheduled : ∀ h topic d, .idleAddHandler h topic d ∈ t.effects →
    MessageIn codec evs topic d ∧ Registered t.client.messageHandlers topic h
  paho : PahoFrom codec evs t.client.messageHandlers t.paho

section Safe

variable {codec : Codec} {evs : List (ThreadEvent H C)}

theorem MessageIn.mono {topic : String} {d : JsonValue} (h : MessageIn codec evs topic d)
    (e : ThreadEvent H C) : MessageIn codec (evs ++ [e]) topic d :=
  let ⟨payload, hmem, hd⟩ := h; ⟨payload, List.mem_append_left _ hmem, hd⟩

theorem Registered.mono {r r' : Registry H} {topic : String} {h : H} (hr : Registered r topic h)
    (hext : r.Extends r') : Registered r' topic h :=
  let ⟨k, hk, hm, hh⟩ := hr; ⟨k, hext.mem_keys hk, hm, hext.mem_handlers hh⟩

theorem PahoFrom.mono {r r' : Registry H} {p : Paho} (h : PahoFrom codec evs r p) (e : ThreadEvent H C)
    (hext : r.Extends r') : PahoFrom codec (evs ++ [e]) r' p := by
  cases p with
  | items => exact MessageIn.mono h e
  | handlers => exact ⟨h.1.mono e, hext.mem_keys h.2.1, h.2.2⟩
  | idle | keys => trivial

/-- A step of the GUI thread: the registry grows, the paho thread stays where it is, and
    only a broker-level subscribe is added to the effects. -/
theorem Safe.gui {t t' : Threads H C} (h : Safe codec evs t) (e : ThreadEvent H C)
    (hext : t.client.messageHandlers.Extends t'.client.messageHandlers) (hpaho : t'.paho = t.paho)
    (heff : ∃ topic, t'.effects = t.effects ∨ t'.effects = t.effects ++ [.brokerSubscribe topic])
    (hsub : ∀ topic cb, t'.subscribing = some (topic, cb) → topic ∈ t'.client.messageHandlers.keys) :
    Safe codec (evs ++ [e]) t' := by
  refine ⟨hsub, fun h' topic d hh => ?_, hpaho ▸ h.paho.mono e hext⟩
  obtain ⟨topic', heff | heff⟩ := heff <;> rw [heff] at hh
  · exact (h.scheduled h' topic d hh).imp (·.mono e) (·.mono hext)
  · rcases List.mem_append.1 hh with hh | hh
    · exact (h.scheduled h' topic d hh).imp (·.mono e) (·.mono hext)
    · simp at hh

theorem Safe.idle {t : Threads H C} (h : Safe codec evs t) (e : ThreadEvent H C) :
    Safe codec (evs ++ [e]) t :=
  h.gui e (Registry.Extends.refl _) rfl ⟨"", .inl rfl⟩ h.subscribing

/-- A step of the paho thread that leaves the registry and the GUI thread alone. -/
theorem Safe.pahoStep {t t' : Threads H C} (h : Safe codec evs t) (e : ThreadEvent H C)
    (hclient : t'.client.messageHandlers = t.client.messageHandlers)
    (hsub : t'.subscribing = t.subscribing)
    (heff : ∀ h' topic d, .idleAddHandler h' topic d ∈ t'.effects →
      .idleAddHandler h' topic d ∈ t.effects ∨
      MessageIn codec (evs ++ [e]) topic d ∧ Registered t.client.messageHandlers topic h')
    (hpaho : PahoFrom codec (evs ++ [e]) t.client.messageHandlers t'.paho) :
    Safe codec (evs ++ [e]) t' := by
  refine ⟨fun topic cb hs => ?_, fun h' topic d hh => ?_, hclient ▸ hpaho⟩
  · rw [hclient]; exact h.subscribing topic cb (hsub ▸ hs)
  · rw [hclient]
    exact (heff h' topic d hh).elim (fun hh => (h.scheduled h' topic d hh).imp (·.mono e) id) id

/-- Every step keeps `Safe`. -/
theorem Safe.step {t : Threads H C} (h : Safe codec evs t) (e : ThreadEvent H C) :
    Safe codec (evs ++ [e]) (threadStep codec t e) := by
  cases e with
  | subscribe topic cb =>
    rcases hs : t.subscribing with _ | ⟨topic', cb'⟩
    · by_cases hk : topic ∈ t.client.messageHandlers.keys
      · refine h.gui _ ?_ ?_ ⟨topic, .inl ?_⟩ ?_ <;> simp only [threadStep, hs, hk, if_true]
        · exact Registry.Extends.refl _
        · rintro _ _ ⟨⟩; exact hk
      · by_cases hv : filterWildcardLenCheck topic
        · refine h.gui _ ?_ ?_ ⟨topic, .inr ?_⟩ ?_ <;>
            simp only [threadStep, hs, hk, hv, if_false, if_true]
          · exact t.client.messageHandlers.extends_setItem_nil hk
          · simp [Registry.mem_keys_setItem]
        · refine h.gui _ ?_ ?_ ⟨topic, .inl ?_⟩ ?_ <;>
            simp only [threadStep, hs, hk, hv, if_false, Bool.false_eq_true]
          · exact t.client.messageHandlers.extends_setItem_nil hk
          · rintro _ _ ⟨⟩
    · simp only [threadStep, hs]
      exact h.idle _
  | append =>
    rcases hs : t.subscribing with _ | ⟨topic, cb⟩
    · simp only [threadStep, hs]
      exact h.idle _
    · refine h.gui _ ?_ ?_ ⟨topic, .inl ?_⟩ ?_ <;> simp only [threadStep, hs]
      · exact t.client.messageHandlers.extends_append (h.subscribing topic cb hs) cb
      · simp
  | message topic payload =>
    rcases hp : t.paho with _ | _ | _ | _ <;>
      rcases hd : decodePayload codec payload with _ | d <;>
      simp only [threadStep, hp, hd] <;> try exact h.idle _
    exact h.pahoStep _ rfl rfl (fun _ _ _ hh => .inl hh)
      ⟨payload, List.mem_append_right _ (List.mem_singleton_self _), hd⟩
  | connack rc =>
    rcases hp : t.paho with _ | _ | _ | _ <;> simp only [threadStep, hp] <;> try exact h.idle _
    split
    · exact h.pahoStep _ rfl rfl (fun _ _ _ hh => .inl hh) trivial
    · exact h.idle _
  | next =>
    have hpaho := h.paho
    rcases hp : t.paho with _ | ⟨topic, d, it⟩ | ⟨topic, d, it, k, i⟩ | it <;> rw [hp] at hpaho <;>
      simp only [threadStep, Threads.pahoNext, hp]
    · exact h.idle _
    · rcases hn : it.next t.client.messageHandlers with _ | _ | ⟨k, it'⟩ <;> simp only
      · exact h.pahoStep _ rfl rfl (fun _ _ _ hh => .inl hh) trivial
      · exact h.pahoStep _ rfl rfl (fun _ _ _ hh => .inl hh) trivial
      · refine h.pahoStep _ rfl rfl (fun _ _ _ hh => .inl hh) ?_
        split
        · exact ⟨hpaho.mono _ (Registry.Extends.refl _), DictIter.mem_keys_of_next hn, ‹_›⟩
        · exact hpaho.mono _ (Registry.Extends.refl _)
    · rcases hh : (t.client.messageHandlers.handlers k)[i]? with _ | h' <;> simp only
      · exact h.pahoStep _ rfl rfl (fun _ _ _ hh => .inl hh) (hpaho.1.mono _)
      · refine h.pahoStep _ rfl rfl (fun h'' topic' d' hmem => ?_) ⟨hpaho.1.mono _, hpaho.2⟩
        rcases List.mem_append.1 hmem with hmem | hmem
        · exact .inl hmem
        · simp only [List.mem_singleton, Effect.idleAddHandler.injEq] at hmem
          obtain ⟨rfl, rfl, rfl⟩ := hmem
          exact .inr ⟨hpaho.1.mono _, k, hpaho.2.1, hpaho.2.2, List.getElem?_mem hh⟩
    · rcases it.next t.client.messageHandlers with _ | _ | ⟨k, it'⟩ <;> simp only
      · exact h.pahoStep _ rfl rfl (fun _ _ _ hh => .inl hh) trivial
      · refine h.pahoStep _ rfl rfl (fun _ _ _ hh => .inl ?_) trivial
        simpa using hh
      · split
        · refine h.pahoStep _ rfl rfl (fun _ _ _ hh => .inl ?_) trivial
          simpa using hh
        · exact h.pahoStep _ rfl rfl (fun _ _ _ hh => .inl hh) trivial
  | call e =>
    simp only [threadStep]
    split
    · exact h.pahoStep _ (messageHandlers_call codec t.client e) rfl
        (fun _ _ _ hh => (List.mem_append.1 hh).imp_right fun hh =>
          absurd hh (idleAddHandler_not_mem_call codec t.client e))
        (h.paho.mono _ (.refl _))
    · exact h.idle _

theorem Safe.threadRun {t : Threads H C} (h : Safe codec evs t) (evs' : List (ThreadEvent H C)) :
    Safe codec (evs ++ evs') (threadRun codec t evs') := by
  induction evs' generalizing t evs with
  | nil => simpa using h
  | cons e evs' ih =>
    rw [threadRun_cons, ← List.singleton_append, ← List.append_assoc]
    exact ih (h.step e)

/-- **Only registered handlers, only delivered messages.**  Over every interleaving of the
    two threads from a client whose threads are outside its methods, every handler that the
    paho thread hands to `GLib.idle_add` is registered under a pattern that covers the
    message's topic, and the payload it gets is one that a delivered message decoded to. -/
theorem scheduled_registered (codec : Codec) (c : BigSkiesMQTTClient H C)
    (evs : List (ThreadEvent H C)) {h : H} {topic : String} {d : JsonValue}
    (hh : .idleAddHandler h topic d ∈ (threadRun codec (Threads.init c) evs).effects) :
    MessageIn codec evs topic d ∧
      Registered (threadRun codec (Threads.init c) evs).client.messageHandlers topic h := by
  have hinit : Safe codec [] (Threads.init c) :=
    ⟨fun _ _ hs => (nomatch hs), fun _ _ _ hh => (nomatch hh), trivial⟩
  simpa using (hinit.threadRun evs).scheduled h topic d hh

/-- The handler of the pattern `#` scheduled for a message on `a/b`. -/
theorem scheduled_registered_wildcard :
    MessageIn ⟨fun _ => .ok "", fun _ => .ok .null, fun _ => .ok ""⟩
        ([.subscribe "#" 0, .append, .message "a/b" [], .next, .next, .next] : List (ThreadEvent Nat Nat))
        "a/b" (.obj []) ∧
      Registered (threadRun ⟨fun _ => .ok "", fun _ => .ok .null, fun _ => .ok ""⟩
        (Threads.init (BigSkiesMQTTClient.init "localhost" 1883 : BigSkiesMQTTClient Nat Nat))
        [.subscribe "#" 0, .append, .message "a/b" [], .next, .next, .next]).client.messageHandlers "a/b" 0 :=
  scheduled_registered ⟨fun _ => .ok "", fun _ => .ok .null, fun _ => .ok ""⟩ (BigSkiesMQTTClient.init "localhost" 1883)
    [.subscribe "#" 0, .append, .message "a/b" [], .next, .next, .next]
    (List.mem_cons_of_mem _ (List.mem_singleton_self _))

end Safe

/-! ### No message lost while no pattern is added -/

theorem Registry.append_of_not_mem (r : Registry H) {k : String} (hk : k ∉ r.keys) (x : H) :
    r.append k x = r := by
  obtain ⟨entries, nodup⟩ := r
  simp only [Registry.append, Registry.modify, Registry.mk.injEq]
  conv_rhs => rw [← List.map_id entries]
  exact List.map_congr_left fun e he => if_neg fun h : e.1 = k => hk (h ▸ List.mem_map_of_mem Prod.fst he)

section Frame

variable (codec : Codec) (t : Threads H C)

/-- No step removes a pattern or a handler. -/
theorem extends_threadStep (e : ThreadEvent H C) :
    t.client.messageHandlers.Extends (threadStep codec t e).client.messageHandlers := by
  cases e with
  | subscribe topic cb =>
    rcases hs : t.subscribing with _ | _ <;> simp only [threadStep, hs]
    · split_ifs with hk <;>
        first | exact .refl _ | exact t.client.messageHandlers.extends_setItem_nil hk
    · exact .refl _
  | append =>
    rcases hs : t.subscribing with _ | ⟨topic, cb⟩ <;> simp only [threadStep, hs]
    · exact .refl _
    · by_cases hk : topic ∈ t.client.messageHandlers.keys
      · exact t.client.messageHandlers.extends_append hk cb
      · rw [t.client.messageHandlers.append_of_not_mem hk]; exact .refl _
  | message topic payload => simp only [threadStep]; split <;> exact .refl _
  | connack rc => simp only [threadStep]; split <;> (try split) <;> exact .refl _
  | next =>
    simp only [threadStep, Threads.pahoNext]; split <;> (try split) <;> (try split) <;> exact .refl _
  | call e =>
    simp only [threadStep]
    split
    · simp only [messageHandlers_call]; exact .refl _
    · exact .refl _

/-- No step takes back an effect. -/
theorem effects_prefix_threadStep (e : ThreadEvent H C) :
    t.effects <+: (threadStep codec t e).effects := by
  cases e with
  | subscribe topic cb =>
    rcases hs : t.subscribing with _ | _ <;> simp only [threadStep, hs]
    · split_ifs <;> first | exact List.prefix_refl _ | exact List.prefix_append _ _
    · exact List.prefix_refl _
  | append =>
    rcases hs : t.subscribing with _ | _ <;> simp only [threadStep, hs] <;> exact List.prefix_refl _
  | message topic payload => simp only [threadStep]; split <;> exact List.prefix_refl _
  | connack rc => simp only [threadStep]; split <;> (try split) <;> exact List.prefix_refl _
  | next =>
    simp only [threadStep, Threads.pahoNext]
    split <;> (try split) <;> (try split) <;>
      first | exact List.prefix_refl _ | exact List.prefix_append _ _
  | call e => simp only [threadStep]; split; exacts [List.prefix_append _ _, List.prefix_refl _]

/-- A step of the GUI thread, and a message or a connection while the paho thread is busy,
    leave the paho thread where it is. -/
theorem paho_threadStep {e : ThreadEvent H C} (he : e ≠ .next) (hp : t.paho ≠ .idle) :
    (threadStep codec t e).paho = t.paho := by
  cases e with
  | subscribe topic cb =>
    rcases hs : t.subscribing with _ | _ <;> simp only [threadStep, hs]
    split_ifs <;> rfl
  | append => rcases hs : t.subscribing with _ | ⟨_, _⟩ <;> simp only [threadStep, hs]
  | message topic payload =>
    rcases hq : t.paho with _ | _ | _ | _ <;> simp only [threadStep, hq]
    exact absurd hq hp
  | connack rc =>
    rcases hq : t.paho with _ | _ | _ | _ <;> simp only [threadStep, hq]
    exact absurd hq hp
  | next => exact absurd rfl he
  | call e => simp only [threadStep]; split <;> rfl

end Frame

/-! ### While a loop of the paho thread runs -/

/-- A loop step that adds `f a` to the effects extends "`f y` is among the effects after the
    first `E`" from the elements of `l` to those of `l ++ [a]`. -/
theorem forall_mem_drop_append {α β : Type} {l : List α} {effs : List β} {E : Nat} (f : α → β)
    (hE : E ≤ effs.length) (h : ∀ y ∈ l, f y ∈ effs.drop E) (a : α) :
    ∀ y ∈ l ++ [a], f y ∈ (effs ++ [f a]).drop E := by
  intro y hy
  rw [List.drop_append_of_le_length hE, List.mem_append, List.mem_singleton]
  rcases List.mem_append.1 hy with hy | hy
  · exact .inl (h y hy)
  · exact .inr (congrArg f (List.mem_singleton.1 hy))

section Running

variable {codec : Codec} {r0 : Registry H} {E : Nat} {allowed : ThreadEvent H C → Prop}
  {prog : Threads H C → Prop} {t : Threads H C}

/-- What holds while a loop of the paho thread runs over the patterns of `r0`: the registry
    has only grown, the effects after the first `E` are kept, and either a pattern has been
    added or the loop's own invariant `prog` holds. -/
def Running (r0 : Registry H) (E : Nat) (prog : Threads H C → Prop) (t : Threads H C) : Prop :=
  r0.Extends t.client.messageHandlers ∧ E ≤ t.effects.length ∧
    (r0.keys.length < t.client.messageHandlers.keys.length ∨ prog t)

/-- A loop's invariant: kept by every step that `allowed` admits while the patterns are those
    of `r0`. -/
def LoopInv (codec : Codec) (r0 : Registry H) (E : Nat) (allowed : ThreadEvent H C → Prop)
    (prog : Threads H C → Prop) : Prop :=
  ∀ {t : Threads H C} {e : ThreadEvent H C}, allowed e → prog t →
    t.client.messageHandlers.keys = r0.keys → r0.Extends t.client.messageHandlers →
    E ≤ t.effects.length → prog (threadStep codec t e)

/-- Every step that `allowed` admits keeps `Running`. -/
theorem Running.step (hinv : LoopInv codec r0 E allowed prog) (h : Running r0 E prog t)
    {e : ThreadEvent H C} (he : allowed e) : Running r0 E prog (threadStep codec t e) := by
  obtain ⟨hext, hE, hprog⟩ := h
  have hext' := extends_threadStep codec t e
  have heff := effects_prefix_threadStep codec t e
  refine ⟨hext.trans hext', hE.trans heff.length_le, ?_⟩
  rcases Nat.lt_or_ge r0.keys.length (threadStep codec t e).client.messageHandlers.keys.length
    with hlt | hge
  · exact .inl hlt
  have hlen := hext.1.length_le
  have hlen' := hext'.1.length_le
  exact .inr (hinv he (hprog.resolve_left (by omega)) (hext.keys_eq (by omega)) hext hE)

theorem Running.threadRun (hinv : LoopInv codec r0 E allowed prog) (h : Running r0 E prog t)
    (evs : List (ThreadEvent H C)) (hevs : ∀ e ∈ evs, allowed e) :
    Running r0 E prog (threadRun codec t evs) := by
  induction evs generalizing t with
  | nil => exact h
  | cons e evs ih =>
    exact ih (h.step hinv (hevs e (List.mem_cons_self _ _))) fun e' he' =>
      hevs e' (List.mem_cons_of_mem _ he')

/-- An invariant that every step keeps: steps that leave the paho thread where it is keep it,
    it holds on once the loop has ended, and a step of the loop keeps it. -/
theorem LoopInv.of_frame
    (frame : ∀ {t t' : Threads H C}, prog t →
      t.client.messageHandlers.Extends t'.client.messageHandlers → t.effects <+: t'.effects →
      t'.paho = t.paho → prog t')
    (ended : ∀ {t t' : Threads H C}, prog t → t.paho = .idle → t.effects <+: t'.effects → prog t')
    (next : ∀ {t : Threads H C}, prog t → t.client.messageHandlers.keys = r0.keys →
      r0.Extends t.client.messageHandlers → E ≤ t.effects.length → prog (threadStep codec t .next)) :
    LoopInv codec r0 E (fun _ => True) prog := by
  intro t e _ h hkeys hext hE
  by_cases he : e = .next
  · subst he; exact next h hkeys hext hE
  by_cases hp : t.paho = .idle
  · exact ended h hp (effects_prefix_threadStep codec t e)
  · exact frame h (extends_threadStep codec t e) (effects_prefix_threadStep codec t e)
      (paho_threadStep codec t he hp)

end Running

section Complete

/-- Every handler of `r0` under a pattern of `ks` that covers `topic` has been scheduled for
    the message, among the effects after the first `E`. -/
def ScheduledFor (topic : String) (d : JsonValue) (r0 : Registry H) (E : Nat) (ks : List String)
    (t : Threads H C) : Prop :=
  ∀ k ∈ ks, topicMatches topic k = true → ∀ h ∈ r0.handlers k,
    .idleAddHandler h topic d ∈ t.effects.drop E

/-- Where the dispatch of a message that began on the registry `r0` stands: done; or in the
    loop over the items, past the patterns `r0.keys.take p`; or in the handlers of the pattern
    `r0.keys[p]`, past the first `i` of them. -/
def Progress (topic : String) (d : JsonValue) (r0 : Registry H) (E : Nat) (t : Threads H C) :
    Prop :=
  ScheduledFor topic d r0 E r0.keys t ∨
  (∃ p, t.paho = .items topic d ⟨r0.keys.length, p⟩ ∧ ScheduledFor topic d r0 E (r0.keys.take p) t) ∨
  (∃ p k i, t.paho = .handlers topic d ⟨r0.keys.length, p + 1⟩ k i ∧ r0.keys[p]? = some k ∧
    ScheduledFor topic d r0 E (r0.keys.take p) t ∧ i ≤ (t.client.messageHandlers.handlers k).length ∧
    ∀ h ∈ (t.client.messageHandlers.handlers k).take i, .idleAddHandler h topic d ∈ t.effects.drop E)

variable {codec : Codec} {topic : String} {d : JsonValue} {r0 : Registry H} {E : Nat}
  {t t' : Threads H C}

theorem ScheduledFor.mono {ks : List String} (h : ScheduledFor topic d r0 E ks t)
    (heff : t.effects <+: t'.effects) : ScheduledFor topic d r0 E ks t' :=
  fun k hk hm x hx => (heff.drop E).subset (h k hk hm x hx)

theorem ScheduledFor.snoc {ks : List String} {k : String} (h : ScheduledFor topic d r0 E ks t)
    (hk : topicMatches topic k = true → ∀ x ∈ r0.handlers k, .idleAddHandler x topic d ∈ t.effects.drop E) :
    ScheduledFor topic d r0 E (ks ++ [k]) t := by
  intro k' hk' hm
  rcases List.mem_append.1 hk' with hk' | hk'
  · exact h k' hk' hm
  · rw [List.mem_singleton.1 hk'] at hm ⊢; exact hk hm

/-- Steps that leave the paho thread where it is keep the dispatch where it is. -/
theorem Progress.mono (h : Progress topic d r0 E t)
    (hext : t.client.messageHandlers.Extends t'.client.messageHandlers)
    (heff : t.effects <+: t'.effects) (hpaho : t'.paho = t.paho) : Progress topic d r0 E t' := by
  rcases h with hdone | ⟨p, hp, hs⟩ | ⟨p, k, i, hp, hk, hs, hi, hdone⟩
  · exact .inl (hdone.mono heff)
  · exact .inr (.inl ⟨p, hpaho ▸ hp, hs.mono heff⟩)
  · refine .inr (.inr ⟨p, k, i, hpaho ▸ hp, hk, hs.mono heff, hi.trans (hext.2 k).length_le, ?_⟩)
    rw [prefix_take_eq (hext.2 k) hi]
    exact fun x hx => (heff.drop E).subset (hdone x hx)

theorem Progress.scheduledFor_of_idle (h : Progress topic d r0 E t) (hp : t.paho = .idle) :
    ScheduledFor topic d r0 E r0.keys t := by
  rcases h with h | ⟨_, h, -⟩ | ⟨_, _, _, h, -⟩
  · exact h
  all_goals rw [hp] at h; cases h

/-- One step of the loop of `_on_message` on the patterns it started with. -/
theorem Progress.next (h : Progress topic d r0 E t) (hkeys : t.client.messageHandlers.keys = r0.keys)
    (hext : r0.Extends t.client.messageHandlers) (hE : E ≤ t.effects.length) :
    Progress topic d r0 E (threadStep codec t .next) := by
  rcases h with hdone | ⟨p, hp, hs⟩ | ⟨p, k, i, hp, hk, hs, hi, hdone⟩
  · exact .inl (hdone.mono (effects_prefix_threadStep codec t .next))
  · simp only [threadStep, Threads.pahoNext, hp, DictIter.next, hkeys, ne_eq, not_true_eq_false,
      if_false]
    rcases hk : r0.keys[p]? with _ | k <;> simp only
    · rw [List.take_of_length_le (List.getElem?_eq_none_iff.1 hk)] at hs
      exact .inl hs
    · split
      · exact .inr (.inr ⟨p, k, 0, rfl, hk, hs, Nat.zero_le _, by simp⟩)
      · refine .inr (.inl ⟨p + 1, rfl, ?_⟩)
        rw [List.take_succ, hk]
        exact hs.snoc fun hm => absurd hm ‹_›
  · simp only [threadStep, Threads.pahoNext, hp]
    rcases hx : (t.client.messageHandlers.handlers k)[i]? with _ | x <;> simp only
    · refine .inr (.inl ⟨p + 1, rfl, ?_⟩)
      rw [List.take_succ, hk]
      rw [List.take_of_length_le (List.getElem?_eq_none_iff.1 hx)] at hdone
      exact hs.snoc fun _ y hy => hdone y (hext.mem_handlers hy)
    · refine .inr (.inr ⟨p, k, i + 1, rfl, hk, hs.mono (List.prefix_append _ _),
        (List.getElem?_eq_some_iff.1 hx).1, ?_⟩)
      rw [List.take_succ, hx]
      exact forall_mem_drop_append (fun y => .idleAddHandler y topic d) hE hdone x

/-- The dispatch's invariant is a loop invariant. -/
theorem progress_loopInv (codec : Codec) :
    LoopInv codec r0 E (fun _ => True) (Progress topic d r0 E : Threads H C → Prop) :=
  LoopInv.of_frame (fun h hext heff hp => h.mono hext heff hp)
    (fun h hp heff => .inl ((h.scheduledFor_of_idle hp).mono heff))
    (fun h hkeys hext hE => h.next hkeys hext hE)

end Complete

/-- **No message is lost while no pattern is added.**  Over every interleaving that goes on
    from the arrival of a message until the paho thread is back outside its callbacks, if the
    GUI thread added no pattern meanwhile, every handler registered for the topic when the
    message arrived has been scheduled for it; handlers appended meanwhile may be scheduled
    too, since a `list` iterator sees what is appended before it reaches the end. -/
theorem dispatch_complete (codec : Codec) (t : Threads H C) (ht : t.paho = .idle) (topic : String)
    (payload : List UInt8) {d : JsonValue} (hd : decodePayload codec payload = .ok d)
    (evs : List (ThreadEvent H C))
    (hkeys : (threadRun codec t (.message topic payload :: evs)).client.messageHandlers.keys.length =
      t.client.messageHandlers.keys.length)
    (hdone : (threadRun codec t (.message topic payload :: evs)).paho = .idle)
    {h : H} (hh : h ∈ handlersFor t.client.messageHandlers topic) :
    .idleAddHandler h topic d ∈
      (threadRun codec t (.message topic payload :: evs)).effects.drop t.effects.length := by
  have hstart : Running t.client.messageHandlers t.effects.length
      (Progress topic d t.client.messageHandlers t.effects.length)
      (threadStep codec t (.message topic payload)) := by
    simp only [threadStep, ht, hd]
    exact ⟨.refl _, le_refl _, .inr (.inr (.inl ⟨0, rfl, fun k hk => by simp at hk⟩))⟩
  rw [threadRun_cons] at hkeys hdone ⊢
  obtain ⟨-, -, hmore | hprog⟩ := hstart.threadRun (progress_loopInv codec) evs fun _ _ => trivial
  · omega
  · simp only [handlersFor, List.mem_flatMap, List.mem_filter] at hh
    obtain ⟨k, ⟨hk, hm⟩, hx⟩ := hh
    exact hprog.scheduledFor_of_idle hdone k hk hm h hx

/-- A registry with the handler `0` under the pattern `a`, a handler appended during the
    dispatch, and the loop run to its end: both handlers are scheduled. -/
theorem dispatch_complete_appended :
    .idleAddHandler 0 "a" (.obj []) ∈
      (threadRun ⟨fun _ => .ok "", fun _ => .ok .null, fun _ => .ok ""⟩
        (threadRun ⟨fun _ => .ok "", fun _ => .ok .null, fun _ => .ok ""⟩
          (Threads.init (BigSkiesMQTTClient.init "localhost" 1883 : BigSkiesMQTTClient Nat Nat))
          [.subscribe "a" 0, .append])
        [.message "a" [], .subscribe "a" 1, .append, .next, .next, .next, .next, .next]).effects.drop 1 :=
  dispatch_complete ⟨fun _ => .ok "", fun _ => .ok .null, fun _ => .ok ""⟩
    (threadRun ⟨fun _ => .ok "", fun _ => .ok .null, fun _ => .ok ""⟩
      (Threads.init (BigSkiesMQTTClient.init "localhost" 1883)) [.subscribe "a" 0, .append])
    (by rfl) "a" [] (by rfl) [.subscribe "a" 1, .append, .next, .next, .next, .next, .next]
    (by rfl) (by rfl) (by decide)

/-! ### Each registration scheduled once, in order -/

/-- The handler call an effect hands to `GLib.idle_add`, if it is one. -/
def Effect.handlerCall : Effect H C → Option (H × String × JsonValue)
  | .idleAddHandler h topic payload => some (h, topic, payload)
  | _ => none

/-- The handler calls among the effects after the first `E`. -/
def callsAfter (E : Nat) (t : Threads H C) : List (H × String × JsonValue) :=
  (t.effects.drop E).filterMap Effect.handlerCall

/-- Whether the step delivers a message to the paho thread. -/
def ThreadEvent.isMessage : ThreadEvent H C → Bool
  | .message .. => true
  | _ => false

/-- Whether the paho thread is in `_on_message`. -/
def Paho.inMessage : Paho → Bool
  | .items .. | .handlers .. => true
  | _ => false

/-- `hs` is, pattern by pattern over those of `ks` that cover `topic`, a list that extends the
    pattern's handlers in `r0` and is a prefix of its handlers in `r`. -/
def Sandwiched (topic : String) (r0 r : Registry H) : List String → List H → Prop
  | [], hs => hs = []
  | k :: ks, hs =>
    if topicMatches topic k then
      ∃ a rest, hs = a ++ rest ∧ r0.handlers k <+: a ∧ a <+: r.handlers k ∧ Sandwiched topic r0 r ks rest
    else Sandwiched topic r0 r ks hs

section Sandwiched

variable {topic : String} {r0 r r' : Registry H}

theorem Sandwiched.mono {ks : List String} {hs : List H} (h : Sandwiched topic r0 r ks hs)
    (hext : r.Extends r') : Sandwiched topic r0 r' ks hs := by
  induction ks generalizing hs with
  | nil => exact h
  | cons k ks ih =>
    by_cases hm : topicMatches topic k = true <;> simp only [Sandwiched, hm, if_true] at h ⊢
    · obtain ⟨a, rest, rfl, h0, h1, h2⟩ := h
      exact ⟨a, rest, rfl, h0, h1.trans (hext.2 k), ih h2⟩
    · exact ih h

theorem Sandwiched.snoc {ks : List String} {hs : List H} (h : Sandwiched topic r0 r ks hs)
    (k : String) (a : List H) (ha : topicMatches topic k = true → r0.handlers k <+: a ∧ a <+: r.handlers k) :
    Sandwiched topic r0 r (ks ++ [k]) (if topicMatches topic k then hs ++ a else hs) := by
  induction ks generalizing hs with
  | nil =>
    simp only [Sandwiched] at h
    subst h
    by_cases hm : topicMatches topic k = true <;> simp only [List.nil_append, Sandwiched, hm, if_true]
    · exact ⟨a, [], by simp, (ha hm).1, (ha hm).2, rfl⟩
    · trivial
  | cons k' ks ih =>
    by_cases hm' : topicMatches topic k' = true <;>
      simp only [List.cons_append, Sandwiched, hm', if_true] at h ⊢
    · obtain ⟨b, rest, rfl, h0, h1, h2⟩ := h
      refine ⟨b, if topicMatches topic k then rest ++ a else rest, ?_, h0, h1, ih h2⟩
      split <;> simp
    · exact ih h

end Sandwiched

/-- Where the dispatch of a message that began on the registry `r0` stands, with the handler
    calls scheduled so far: done, with one list per pattern; or in the loop over the items,
    with one list per pattern before `r0.keys[p]`; or in the handlers of `r0.keys[p]`, with its
    first `i` handlers scheduled after those. -/
def Exact (topic : String) (d : JsonValue) (r0 : Registry H) (E : Nat) (t : Threads H C) : Prop :=
  (t.paho.inMessage = false ∧ ∃ hs, callsAfter E t = hs.map (·, topic, d) ∧
      Sandwiched topic r0 t.client.messageHandlers r0.keys hs) ∨
  (∃ p, t.paho = .items topic d ⟨r0.keys.length, p⟩ ∧ ∃ hs, callsAfter E t = hs.map (·, topic, d) ∧
      Sandwiched topic r0 t.client.messageHandlers (r0.keys.take p) hs) ∨
  (∃ p k i, t.paho = .handlers topic d ⟨r0.keys.length, p + 1⟩ k i ∧ r0.keys[p]? = some k ∧
      topicMatches topic k = true ∧ i ≤ (t.client.messageHandlers.handlers k).length ∧
      ∃ hs, callsAfter E t = (hs ++ (t.client.messageHandlers.handlers k).take i).map (·, topic, d) ∧
        Sandwiched topic r0 t.client.messageHandlers (r0.keys.take p) hs)

section Exact

variable {codec : Codec} {topic : String} {d : JsonValue} {r0 : Registry H} {E : Nat}
  {t t' : Threads H C}

theorem callsAfter_append (hE : E ≤ t.effects.length) (new : List (Effect H C)) :
    ((t.effects ++ new).drop E).filterMap Effect.handlerCall = callsAfter E t ++ new.filterMap Effect.handlerCall := by
  rw [List.drop_append_of_le_length hE, List.filterMap_append, callsAfter]

theorem callsAfter_of_append (hE : E ≤ t.effects.length) {new : List (Effect H C)}
    (heq : t'.effects = t.effects ++ new) (hnew : ∀ x ∈ new, x.handlerCall = none) :
    callsAfter E t' = callsAfter E t := by
  rw [callsAfter, heq, callsAfter_append hE, List.filterMap_eq_nil_iff.2 hnew, List.append_nil]

variable (codec)

/-- A step of the loop of `_on_connect` leaves the client and the GUI thread alone, schedules
    no handler, and stays in the loop or leaves the callbacks. -/
theorem threadStep_next_keys {it : DictIter} (hq : t.paho = .keys it) :
    ∃ new, threadStep codec t .next =
        { t with paho := (threadStep codec t .next).paho, effects := t.effects ++ new } ∧
      (∀ x ∈ new, x.handlerCall = none) ∧
      ((threadStep codec t .next).paho = .idle ∨ ∃ it', (threadStep codec t .next).paho = .keys it') := by
  simp only [threadStep, Threads.pahoNext, hq]
  rcases it.next t.client.messageHandlers with _ | _ | ⟨k, it'⟩
  · exact ⟨[], by simp, by simp, .inl rfl⟩
  · exact ⟨_, rfl, by simp [Effect.handlerCall], .inl rfl⟩
  · dsimp only
    split
    · exact ⟨_, rfl, by simp [Effect.handlerCall], .inr ⟨it', rfl⟩⟩
    · exact ⟨[], by simp, by simp, .inl rfl⟩

/-- Only a step of the loop of `_on_message` schedules a handler: no other step but a message
    adds a handler call. -/
theorem callsAfter_threadStep {e : ThreadEvent H C} (he : e.isMessage = false)
    (hnext : e = .next → t.paho.inMessage = false) (hE : E ≤ t.effects.length) :
    callsAfter E (threadStep codec t e) = callsAfter E t := by
  cases e with
  | subscribe topic cb =>
    rcases hs : t.subscribing with _ | _ <;> simp only [threadStep, hs]
    split_ifs <;> first | rfl | exact callsAfter_of_append hE rfl (by simp [Effect.handlerCall])
  | append =>
    rcases hs : t.subscribing with _ | ⟨_, _⟩ <;> simp only [threadStep, hs]
    rfl
  | message topic payload => cases he
  | connack rc => simp only [threadStep]; split <;> (try split) <;> rfl
  | next =>
    have hp := hnext rfl
    rcases hq : t.paho with _ | ⟨_, _, _⟩ | ⟨_, _, _, _, _⟩ | it
    · simp only [threadStep, Threads.pahoNext, hq]
    · rw [hq] at hp; cases hp
    · rw [hq] at hp; cases hp
    · obtain ⟨new, heq, hnew, -⟩ := threadStep_next_keys codec hq
      exact callsAfter_of_append hE (congrArg Threads.effects heq) hnew
  | call e =>
    simp only [threadStep]
    split
    · exact callsAfter_of_append hE rfl fun x hx => by
        cases x <;> first | rfl | exact absurd hx (idleAddHandler_not_mem_call codec t.client e)
    · rfl

/-- No step but a message makes the paho thread enter `_on_message`. -/
theorem inMessage_threadStep {e : ThreadEvent H C} (he : e.isMessage = false)
    (hp : t.paho.inMessage = false) : (threadStep codec t e).paho.inMessage = false := by
  cases e with
  | subscribe topic cb =>
    rcases hs : t.subscribing with _ | _ <;> simp only [threadStep, hs] <;> (try split_ifs) <;> exact hp
  | append => rcases hs : t.subscribing with _ | ⟨_, _⟩ <;> simp only [threadStep, hs] <;> exact hp
  | message topic payload => cases he
  | connack rc => simp only [threadStep]; split <;> (try split) <;> first | rfl | exact hp
  | next =>
    rcases hq : t.paho with _ | ⟨_, _, _⟩ | ⟨_, _, _, _, _⟩ | it
    · simp only [threadStep, Threads.pahoNext, hq]; rfl
    · rw [hq] at hp; cases hp
    · rw [hq] at hp; cases hp
    · rcases threadStep_next_keys codec hq with ⟨-, -, -, h | ⟨it', h⟩⟩ <;> rw [h] <;> rfl
  | call e => simp only [threadStep]; split <;> exact hp

variable {codec}

/-- A step of the GUI thread, or a step of the paho thread outside `_on_message`, keeps the
    dispatch where it is. -/
theorem Exact.frame (h : Exact topic d r0 E t) {e : ThreadEvent H C} (he : e.isMessage = false)
    (hn : e ≠ .next) (hE : E ≤ t.effects.length) : Exact topic d r0 E (threadStep codec t e) := by
  have hcalls := callsAfter_threadStep codec he (fun h => absurd h hn) hE
  have hext := extends_threadStep codec t e
  rcases h with ⟨hp, hs, hc, hsw⟩ | ⟨p, hp, hs, hc, hsw⟩ | ⟨p, k, i, hp, hk, hm, hi, hs, hc, hsw⟩
  · exact .inl ⟨inMessage_threadStep codec he hp, hs, hcalls.trans hc, hsw.mono hext⟩
  · have hpaho := paho_threadStep codec t hn (by simp [hp])
    exact .inr (.inl ⟨p, hpaho.trans hp, hs, hcalls.trans hc, hsw.mono hext⟩)
  · have hpaho := paho_threadStep codec t hn (by simp [hp])
    refine .inr (.inr ⟨p, k, i, hpaho.trans hp, hk, hm, hi.trans (hext.2 k).length_le, hs, ?_,
      hsw.mono hext⟩)
    rw [prefix_take_eq (hext.2 k) hi, hcalls, hc]

/-- One step of the loop of `_on_message` on the patterns it started with. -/
theorem Exact.next (h : Exact topic d r0 E t) (hkeys : t.client.messageHandlers.keys = r0.keys)
    (hext : r0.Extends t.client.messageHandlers) (hE : E ≤ t.effects.length) :
    Exact topic d r0 E (threadStep codec t .next) := by
  rcases h with ⟨hp, hs, hc, hsw⟩ | ⟨p, hp, hs, hc, hsw⟩ | ⟨p, k, i, hp, hk, hm, hi, hs, hc, hsw⟩
  · have hcalls : callsAfter E (threadStep codec t .next) = callsAfter E t :=
      callsAfter_threadStep codec rfl (fun _ => hp) hE
    exact .inl ⟨inMessage_threadStep codec rfl hp, hs, hcalls.trans hc,
      hsw.mono (extends_threadStep codec t .next)⟩
  · simp only [threadStep, Threads.pahoNext, hp, DictIter.next, hkeys, ne_eq, not_true_eq_false,
      if_false]
    rcases hk : r0.keys[p]? with _ | k <;> simp only
    · rw [List.take_of_length_le (List.getElem?_eq_none_iff.1 hk)] at hsw
      exact .inl ⟨rfl, hs, hc, hsw⟩
    · by_cases hm : topicMatches topic k = true
      · rw [if_pos hm]
        exact .inr (.inr ⟨p, k, 0, rfl, hk, hm, Nat.zero_le _, hs, by simpa using hc, hsw⟩)
      · rw [if_neg hm]
        refine .inr (.inl ⟨p + 1, rfl, hs, hc, ?_⟩)
        rw [List.take_succ, hk]
        simpa [hm] using hsw.snoc k [] fun h => absurd h hm
  · simp only [threadStep, Threads.pahoNext, hp]
    rcases hx : (t.client.messageHandlers.handlers k)[i]? with _ | x <;> simp only
    · rw [List.take_of_length_le (List.getElem?_eq_none_iff.1 hx)] at hc
      refine .inr (.inl ⟨p + 1, rfl, hs ++ t.client.messageHandlers.handlers k, hc, ?_⟩)
      rw [List.take_succ, hk]
      simpa [hm] using hsw.snoc k _ fun _ => ⟨hext.2 k, List.prefix_refl _⟩
    · refine .inr (.inr ⟨p, k, i + 1, rfl, hk, hm, (List.getElem?_eq_some_iff.1 hx).1, hs, ?_, hsw⟩)
      show ((t.effects ++ [Effect.idleAddHandler x topic d]).drop E).filterMap Effect.handlerCall = _
      rw [callsAfter_append hE, hc, List.take_succ, hx]
      simp [Effect.handlerCall]

end Exact

/-- **Why `dispatch_complete` asks that no pattern be added.**  The handler `1` is
    registered for `a`, after the pattern `b`.  A message on `a` arrives; the loop of
    `_on_message` takes `b` and calls `_topic_matches`, after which the GUI thread may run: it
    adds the pattern `c`, and the loop's next step raises `RuntimeError`, which line 142
    catches.  The handler `1` is never scheduled for the message. -/
theorem dispatch_loses_message :
    (threadRun ⟨fun _ => .ok "", fun _ => .ok .null, fun _ => .ok ""⟩
        (Threads.init (BigSkiesMQTTClient.init "localhost" 1883 : BigSkiesMQTTClient Nat Nat))
        [.subscribe "b" 0, .append, .subscribe "a" 1, .append,
          .message "a" [], .next, .subscribe "c" 2, .next]).paho = .idle ∧
    (threadRun ⟨fun _ => .ok "", fun _ => .ok .null, fun _ => .ok ""⟩
        (Threads.init (BigSkiesMQTTClient.init "localhost" 1883 : BigSkiesMQTTClient Nat Nat))
        [.subscribe "b" 0, .append, .subscribe "a" 1, .append,
          .message "a" [], .next, .subscribe "c" 2, .next]).effects =
      [.brokerSubscribe "b", .brokerSubscribe "a", .brokerSubscribe "c"] :=
  ⟨by rfl, by rfl⟩

section Resubscribe

/-- Every pattern of `ks` has been subscribed to again, among the effects after the first
    `E`. -/
def Resubscribed (E : Nat) (ks : List String) (t : Threads H C) : Prop :=
  ∀ k ∈ ks, .brokerSubscribe k ∈ t.effects.drop E

/-- Where the loop of `_on_connect` over the patterns of `r0` stands: done, with every pattern
    subscribed to again; or about to take the pattern `r0.keys[p]`, past those before it. -/
def KeysProgress (r0 : Registry H) (E : Nat) (t : Threads H C) : Prop :=
  Resubscribed E r0.keys t ∨
    ∃ p, t.paho = .keys ⟨r0.keys.length, p⟩ ∧ Resubscribed E (r0.keys.take p) t

variable {codec : Codec} {r0 : Registry H} {E : Nat} {t t' : Threads H C}

theorem Resubscribed.mono {ks : List String} (h : Resubscribed E ks t)
    (heff : t.effects <+: t'.effects) : Resubscribed E ks t' :=
  fun k hk => (heff.drop E).subset (h k hk)

theorem KeysProgress.resubscribed_of_idle (h : KeysProgress r0 E t) (hp : t.paho = .idle) :
    Resubscribed E r0.keys t := by
  rcases h with h | ⟨_, h, -⟩
  · exact h
  · rw [hp] at h; cases h

/-- One step of the loop of `_on_connect` on the patterns it started with, all of which paho
    accepts. -/
theorem KeysProgress.next (h : KeysProgress r0 E t) (hvalid : ∀ k ∈ r0.keys, filterWildcardLenCheck k = true)
    (hkeys : t.client.messageHandlers.keys = r0.keys) (hE : E ≤ t.effects.length) :
    KeysProgress r0 E (threadStep codec t .next) := by
  rcases h with hdone | ⟨p, hp, hs⟩
  · exact .inl (hdone.mono (effects_prefix_threadStep codec t .next))
  · simp only [threadStep, Threads.pahoNext, hp, DictIter.next, hkeys, ne_eq, not_true_eq_false,
      if_false]
    rcases hk : r0.keys[p]? with _ | k <;> simp only
    · rw [List.take_of_length_le (List.getElem?_eq_none_iff.1 hk)] at hs
      exact .inl (hs.mono (List.prefix_append _ _))
    · rw [if_pos (hvalid k (List.getElem?_mem hk))]
      refine .inr ⟨p + 1, rfl, ?_⟩
      rw [List.take_succ, hk]
      exact forall_mem_drop_append Effect.brokerSubscribe hE hs k

/-- The resubscription's invariant is a loop invariant over patterns paho accepts. -/
theorem keysProgress_loopInv (codec : Codec) (hvalid : ∀ k ∈ r0.keys, filterWildcardLenCheck k = true) :
    LoopInv codec r0 E (fun _ => True) (KeysProgress r0 E : Threads H C → Prop) :=
  LoopInv.of_frame
    (fun h _ heff hp => h.elim (fun h => .inl (h.mono heff))
      fun ⟨p, hq, hs⟩ => .inr ⟨p, hp.trans hq, hs.mono heff⟩)
    (fun h hp heff => .inl ((h.resubscribed_of_idle hp).mono heff))
    (fun h hkeys _ hE => h.next hvalid hkeys hE)

end Resubscribe

/-- **No subscription is lost on a reconnect while no pattern is added.**  Over every
    interleaving that goes on from a successful `CONNACK` until the paho thread is back outside
    its callbacks, if paho accepts every pattern registered when the `CONNACK` came and the
    GUI thread added no pattern meanwhile, every one of those patterns has been subscribed to
    again. -/
theorem connect_complete (codec : Codec) (t : Threads H C) (ht : t.paho = .idle)
    (hvalid : ∀ k ∈ t.client.messageHandlers.keys, filterWildcardLenCheck k = true)
    (evs : List (ThreadEvent H C))
    (hkeys : (threadRun codec t (.connack 0 :: evs)).client.messageHandlers.keys.length =
      t.client.messageHandlers.keys.length)
    (hdone : (threadRun codec t (.connack 0 :: evs)).paho = .idle)
    {k : String} (hk : k ∈ t.client.messageHandlers.keys) :
    .brokerSubscribe k ∈ (threadRun codec t (.connack 0 :: evs)).effects.drop t.effects.length := by
  have hstart : Running t.client.messageHandlers t.effects.length
      (KeysProgress t.client.messageHandlers t.effects.length) (threadStep codec t (.connack 0)) := by
    simp only [threadStep, ht, if_true]
    exact ⟨.refl _, le_refl _, .inr (.inr ⟨0, rfl, fun k hk => by simp at hk⟩)⟩
  rw [threadRun_cons] at hkeys hdone ⊢
  obtain ⟨-, -, hmore | hprog⟩ :=
    hstart.threadRun (keysProgress_loopInv codec hvalid) evs fun _ _ => trivial
  · omega
  · exact hprog.resubscribed_of_idle hdone k hk

/-- The pattern `a` registered before the `CONNACK`, a handler appended to it and a publish
    made while `_on_connect` runs: `a` is subscribed to again. -/
theorem connect_complete_publish :
    .brokerSubscribe "a" ∈
      (threadRun ⟨fun _ => .ok "", fun _ => .ok .null, fun _ => .ok ""⟩
        (threadRun ⟨fun _ => .ok "", fun _ => .ok .null, fun _ => .ok ""⟩
          (Threads.init (BigSkiesMQTTClient.init "localhost" 1883 : BigSkiesMQTTClient Nat Nat))
          [.subscribe "a" 0, .append])
        [.connack 0, .subscribe "a" 1, .call (.publish "b" .null 1), .append, .next, .next]).effects.drop 1 :=
  connect_complete ⟨fun _ => .ok "", fun _ => .ok .null, fun _ => .ok ""⟩
    (threadRun ⟨fun _ => .ok "", fun _ => .ok .null, fun _ => .ok ""⟩
      (Threads.init (BigSkiesMQTTClient.init "localhost" 1883)) [.subscribe "a" 0, .append])
    (by rfl) (by decide) [.subscribe "a" 1, .call (.publish "b" .null 1), .append, .next, .next]
    (by rfl) (by rfl) (by decide)

/-- **Why `connect_complete` asks that no pattern be added.**  The patterns `a` and `b` are
    registered and the connect callback is set.  After a successful `CONNACK`, the loop of
    `_on_connect` takes `a` and calls `client.subscribe`, after which the GUI thread may run:
    it adds the pattern `c`, and the loop's next step raises `RuntimeError`, which nothing in
    `_on_connect` catches.  `b` is not subscribed again and the connect callback is never
    scheduled. -/
theorem connect_loses_callback :
    (threadRun ⟨fun _ => .ok "", fun _ => .ok .null, fun _ => .ok ""⟩
        (Threads.init ((BigSkiesMQTTClient.init "localhost" 1883 : BigSkiesMQTTClient Nat Nat).setCallbacks
          (some 0) none))
        [.subscribe "a" 0, .append, .subscribe "b" 1, .append,
          .connack 0, .next, .subscribe "c" 2, .next]).paho = .idle ∧
    (threadRun ⟨fun _ => .ok "", fun _ => .ok .null, fun _ => .ok ""⟩
        (Threads.init ((BigSkiesMQTTClient.init "localhost" 1883 : BigSkiesMQTTClient Nat Nat).setCallbacks
          (some 0) none))
        [.subscribe "a" 0, .append, .subscribe "b" 1, .append,
          .connack 0, .next, .subscribe "c" 2, .next]).effects =
      [.brokerSubscribe "a", .brokerSubscribe "b", .brokerSubscribe "a", .brokerSubscribe "c"] :=
  ⟨by rfl, by rfl⟩

end BigSkies.Client
