import BigSkies.Topic.Semantics
import BigSkies.Widgets.Handlers

/-!
# What a subscription delivers to its handler

Each panel subscribes one pattern and, in its handler, reads a key back from the topic by
position.  The matcher fixes the shape of every topic a pattern admits, so the key a handler
reads is decided by the pattern alone:

* `bigskies/coordinator/+/health/status` admits exactly the five-segment topics with any
  segment in third place, and `HealthPanel` reads that segment, the one `+` binds
  (`onHealthMessage_coordId`);
* `bigskies/telescope/0/state/#` admits only topics whose fourth segment is `state`, and
  both telescope handlers read the fourth segment, not the fifth that `#` binds: on every
  admitted topic their `if state_type == ...` chains take no branch
  (`onTelescopeState_ignores_stateTopics`).
-/

namespace BigSkies.Widgets

open BigSkies.Json BigSkies.Topic

/-- The pattern both telescope panels subscribe (telescope_preview.py:31,
    control_panel.py:43). -/
def telescopeStatePattern : String := "bigskies/telescope/0/state/#"

/-- The pattern `HealthPanel` subscribes (health_panel.py:58). -/
def healthStatusPattern : String := "bigskies/coordinator/+/health/status"

/-- The segments of every topic `bigskies/telescope/0/state/#` admits. -/
theorem split_of_matches_telescopeState {topic : String}
    (h : topicMatches topic telescopeStatePattern = true) :
    ∃ rest, strSplit topic '/' = "bigskies" :: "telescope" :: "0" :: "state" :: rest := by
  have hsplit : strSplit telescopeStatePattern '/' =
      ["bigskies", "telescope", "0", "state", "#"] := by decide
  have hm := mqttMatch_of_topicMatches (by rw [hsplit]; decide) h
  rw [hsplit] at hm
  obtain ⟨_, h₁, hm⟩ := (mqttMatch_lit_iff _ _ (by decide) (by decide)).1 hm
  obtain ⟨_, h₂, hm⟩ := (mqttMatch_lit_iff _ _ (by decide) (by decide)).1 hm
  obtain ⟨_, h₃, hm⟩ := (mqttMatch_lit_iff _ _ (by decide) (by decide)).1 hm
  obtain ⟨rest, h₄, -⟩ := (mqttMatch_lit_iff _ _ (by decide) (by decide)).1 hm
  exact ⟨rest, by rw [h₁, h₂, h₃, h₄]⟩

/-- The segments of every topic `bigskies/coordinator/+/health/status` admits. -/
theorem split_of_matches_healthStatus {topic : String}
    (h : topicMatches topic healthStatusPattern = true) :
    ∃ seg, strSplit topic '/' = ["bigskies", "coordinator", seg, "health", "status"] := by
  have hsplit : strSplit healthStatusPattern '/' =
      ["bigskies", "coordinator", "+", "health", "status"] := by decide
  have hm := mqttMatch_of_topicMatches (by rw [hsplit]; decide) h
  rw [hsplit] at hm
  obtain ⟨_, h₁, hm⟩ := (mqttMatch_lit_iff _ _ (by decide) (by decide)).1 hm
  obtain ⟨_, h₂, hm⟩ := (mqttMatch_lit_iff _ _ (by decide) (by decide)).1 hm
  obtain ⟨seg, _, h₃, hm⟩ := (mqttMatch_plus_iff _ _).1 hm
  obtain ⟨_, h₄, hm⟩ := (mqttMatch_lit_iff _ _ (by decide) (by decide)).1 hm
  obtain ⟨_, h₅, hm⟩ := (mqttMatch_lit_iff _ _ (by decide) (by decide)).1 hm
  rw [(mqttMatch_nil_iff _).1 hm] at h₅
  exact ⟨seg, by rw [h₁, h₂, h₃, h₄, h₅]⟩

theorem TelescopePreview.applyState_state (payload : JsonValue) :
    TelescopePreview.applyState "state" payload = pure () := by
  simp [TelescopePreview.applyState]

theorem ControlPanel.applyState_state (payload : JsonValue) :
    ControlPanel.applyState "state" payload = pure () := by
  simp [ControlPanel.applyState]

/-- Both telescope handlers take `state` as the state name of every admitted topic. -/
theorem stateTypeOf_of_matches {topic : String}
    (h : topicMatches topic telescopeStatePattern = true) : stateTypeOf topic = some "state" := by
  obtain ⟨rest, hsplit⟩ := split_of_matches_telescopeState h
  simp [stateTypeOf, hsplit]

theorem TelescopePreview.onTelescopeState_of_matches {topic : String} (payload : JsonValue)
    (h : topicMatches topic telescopeStatePattern = true) :
    TelescopePreview.onTelescopeState topic payload = pure () := by
  rw [TelescopePreview.onTelescopeState, stateTypeOf_of_matches h]
  exact TelescopePreview.applyState_state _

theorem ControlPanel.onTelescopeState_of_matches {topic : String} (payload : JsonValue)
    (h : topicMatches topic telescopeStatePattern = true) :
    ControlPanel.onTelescopeState topic payload = pure () := by
  rw [ControlPanel.onTelescopeState, stateTypeOf_of_matches h]
  exact ControlPanel.applyState_state _

/-- **The telescope panels never act on their own subscription.**  Every topic the pattern
    `bigskies/telescope/0/state/#` admits has `state` as the segment both handlers take as
    the state name (index 3), so for every payload both handler bodies do nothing: no
    attribute is written and no widget is called. -/
theorem onTelescopeState_ignores_stateTopics (topic : String) (payload : JsonValue)
    (h : topicMatches topic telescopeStatePattern = true) :
    stateTypeOf topic = some "state" ∧
    TelescopePreview.onTelescopeState topic payload = pure () ∧
    ControlPanel.onTelescopeState topic payload = pure () :=
  ⟨stateTypeOf_of_matches h, TelescopePreview.onTelescopeState_of_matches payload h,
    ControlPanel.onTelescopeState_of_matches payload h⟩

/-- The topic `bigskies/telescope/0/state/azimuth`, with an azimuth of 90. -/
theorem onTelescopeState_ignores_azimuth :
    topicMatches "bigskies/telescope/0/state/azimuth" telescopeStatePattern = true ∧
    (stateTypeOf "bigskies/telescope/0/state/azimuth" = some "state" ∧
      TelescopePreview.onTelescopeState "bigskies/telescope/0/state/azimuth"
        (.obj [("value", .float (.decimal 900 (-1)))]) = pure () ∧
      ControlPanel.onTelescopeState "bigskies/telescope/0/state/azimuth"
        (.obj [("value", .float (.decimal 900 (-1)))]) = pure ()) :=
  ⟨by decide, onTelescopeState_ignores_stateTopics _ _ (by decide)⟩

/-- **`HealthPanel` reads the segment `+` binds.**  Every topic the pattern
    `bigskies/coordinator/+/health/status` admits has five segments with a free third one;
    the handler's coordinator id is that segment followed by `-coordinator`, and the handler
    is the row update for that id. -/
theorem onHealthMessage_coordId (lower : String → String) (now topic : String)
    (payload : JsonValue) (h : topicMatches topic healthStatusPattern = true) :
    ∃ seg, strSplit topic '/' = ["bigskies", "coordinator", seg, "health", "status"] ∧
      coordIdOf topic = some (seg ++ "-coordinator") ∧
      HealthPanel.onHealthMessage lower now topic payload =
        HealthPanel.updateRow lower now (seg ++ "-coordinator") payload := by
  obtain ⟨seg, hsplit⟩ := split_of_matches_healthStatus h
  have hid : coordIdOf topic = some (seg ++ "-coordinator") := by simp [coordIdOf, hsplit]
  exact ⟨seg, hsplit, hid, by rw [HealthPanel.onHealthMessage, hid]⟩

/-- The topic of the message coordinator, with an empty payload. -/
theorem onHealthMessage_coordId_message :
    topicMatches "bigskies/coordinator/message/health/status" healthStatusPattern = true ∧
    ∃ seg, strSplit "bigskies/coordinator/message/health/status" '/' =
        ["bigskies", "coordinator", seg, "health", "status"] ∧
      coordIdOf "bigskies/coordinator/message/health/status" = some (seg ++ "-coordinator") ∧
      HealthPanel.onHealthMessage String.toLower "12:00:00"
          "bigskies/coordinator/message/health/status" (.obj []) =
        HealthPanel.updateRow String.toLower "12:00:00" (seg ++ "-coordinator") (.obj []) :=
  ⟨by decide, onHealthMessage_coordId String.toLower "12:00:00" _ (.obj []) (by decide)⟩

end BigSkies.Widgets
