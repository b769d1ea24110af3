import BigSkies.Json.Value
import BigSkies.Topic.Matcher

/-!
# The widget handlers

The three panels of `bigskies_gtk/widgets` register message handlers on the client; the GTK
main loop later calls each scheduled one as `handler(topic, payload)`.  A handler body is a
sequence of Python statements over the panel's attributes and its GTK widgets, any of which
may raise: `PyM` runs such a body, keeping the attributes written before a raise (as Python
does) and recording the calls made on GTK widgets.

Each handler first reads a key from the topic (`stateTypeOf`, `coordIdOf`) and then acts on
the key and the payload; the two halves are separate definitions so that what a topic
selects can be stated on its own.  Drawing is not modelled: a call such as `queue_draw()` is
recorded, and a value shown with `f"{v:.2f}"` is recorded unformatted.
-/

namespace BigSkies.Widgets

open BigSkies.Json BigSkies.Topic

/-- A call on one of a panel's GTK widgets, named by the attribute that holds it. -/
inductive GtkCall where
  | queueDraw (widget : String)
  | setLabel (widget text : String)
  | setText (widget text : String)
  | setMarkup (widget markup : String)
  /-- `set_text(f"{value:.2f}째")`. -/
  | setTextFixed2 (widget : String) (value : JsonValue)
  /-- `connect("draw", self._draw_indicator, status)`. -/
  | connectDraw (widget status : String)

/-- A handler body over attributes `S`: it may raise a `PyError`; what it wrote before
    raising stays written. -/
abbrev PyM (S : Type) := ExceptT PyError (StateM (S × List GtkCall))

variable {S : Type}

/-- Run a body from the attributes `s`: its result, the attributes after it and its calls. -/
def PyM.exec (body : PyM S Unit) (s : S) : Except PyError Unit × S × List GtkCall :=
  body.run.run (s, [])

/-- Assign attributes. -/
def setAttr (f : S → S) : PyM S Unit := modify fun (s, calls) => (f s, calls)

/-- Call a GTK widget. -/
def gtk (c : GtkCall) : PyM S Unit := modify fun (s, calls) => (s, calls ++ [c])

/-- An expression that may raise. -/
def eval {α : Type} : Except PyError α → PyM S α
  | .ok a => pure a
  | .error e => throw e

/-- `Gtk.Label.set_text(value)` accepts only a `str`. -/
def strArg : JsonValue → Except PyError String
  | .str s => .ok s
  | v => .error (.typeError "set_text" v.typeName)

/-- `format(value, ".2f")` accepts a number (a `bool` is one); a `str` has no `f` format and
    the other objects no format spec at all. -/
def fixed2Arg : JsonValue → Except PyError JsonValue
  | .int n => .ok (.int n)
  | .float f => .ok (.float f)
  | .bool b => .ok (.bool b)
  | .str _ => .error (.valueError "format" "str")
  | v => .error (.typeError "format" v.typeName)

/-! ### Running a body, one statement at a time -/

section Run

variable {α β : Type} (st : S × List GtkCall)

@[simp] theorem PyM.run_bind (x : PyM S α) (f : α → PyM S β) :
    (x >>= f).run.run st =
      match x.run.run st with
      | (.ok a, st') => (f a).run.run st'
      | (.error e, st') => (.error e, st') := by
  simp only [ExceptT.run_bind, StateT.run_bind]
  show (do let p ← x.run.run st; _) = _
  rcases x.run.run st with ⟨_ | _, _⟩ <;> rfl

@[simp] theorem PyM.run_get : (get : PyM S (S × List GtkCall)).run.run st = (.ok st, st) := rfl

@[simp] theorem PyM.run_eval (x : Except PyError α) : (eval x : PyM S α).run.run st = (x, st) := by
  cases x <;> rfl

@[simp] theorem PyM.run_setAttr (f : S → S) (s : S) (calls : List GtkCall) :
    (setAttr f).run.run (s, calls) = (.ok (), (f s, calls)) := rfl

@[simp] theorem PyM.run_gtk (c : GtkCall) (s : S) (calls : List GtkCall) :
    (gtk c : PyM S Unit).run.run (s, calls) = (.ok (), (s, calls ++ [c])) := rfl

end Run

/-! ### Telescope state topics -/

/-- Lines 35-37 of both `_on_telescope_state`: `parts = topic.split('/')`, then
    `state_type = parts[3]` when `len(parts) >= 4`. -/
def stateTypeOf (topic : String) : Option String := (strSplit topic '/')[3]?

/-- The attributes of `TelescopePreview` (telescope_preview.py:21-25). -/
structure TelescopePreview where
  azimuth : JsonValue
  altitude : JsonValue
  connected : JsonValue
  slewing : JsonValue

/-- `azimuth = 0.0`, `altitude = 45.0`, `connected = False`, `slewing = False`. -/
def TelescopePreview.init : TelescopePreview :=
  ⟨.float (.decimal 0 (-1)), .float (.decimal 450 (-1)), .bool false, .bool false⟩

/-- The `if state_type == ...` chain of `TelescopePreview._on_telescope_state`
    (telescope_preview.py:39-53). -/
def TelescopePreview.applyState (stateType : String) (payload : JsonValue) :
    PyM TelescopePreview Unit :=
  if stateType = "connected" then do
    let v ← eval (payload.get "value" (.bool false))
    setAttr fun w => { w with connected := v }
    gtk (.queueDraw "self")
  else if stateType = "azimuth" then do
    let v ← eval (payload.get "value" (.float (.decimal 0 (-1))))
    setAttr fun w => { w with azimuth := v }
    gtk (.queueDraw "self")
  else if stateType = "altitude" then do
    let v ← eval (payload.get "value" (.float (.decimal 450 (-1))))
    setAttr fun w => { w with altitude := v }
    gtk (.queueDraw "self")
  else if stateType = "slewing" then do
    let v ← eval (payload.get "value" (.bool false))
    setAttr fun w => { w with slewing := v }
    gtk (.queueDraw "self")
  else pure ()

/-- `TelescopePreview._on_telescope_state` (telescope_preview.py:33-53). -/
def TelescopePreview.onTelescopeState (topic : String) (payload : JsonValue) :
    PyM TelescopePreview Unit :=
  match stateTypeOf topic with
  | some stateType => applyState stateType payload
  | none => pure ()

/-- The attribute of `ControlPanel` its message handlers write (control_panel.py:19). -/
structure ControlPanel where
  connected : JsonValue

def ControlPanel.init : ControlPanel := ⟨.bool false⟩

/-- The `if state_type == ...` chain of `ControlPanel._on_telescope_state`
    (control_panel.py:264-291). -/
def ControlPanel.applyState (stateType : String) (payload : JsonValue) : PyM ControlPanel Unit :=
  if stateType = "connected" then do
    let v ← eval (payload.get "value" (.bool false))
    setAttr fun _ => ⟨v⟩
    gtk (.setLabel "connect_button" (if v.truthy then "Disconnect" else "Connect"))
    gtk (.queueDraw "status_indicator")
  else if stateType = "lst" then do
    let v ← eval (payload.get "value" (.str "00:00:00") >>= strArg)
    gtk (.setText "lst_value" v)
  else if stateType = "ra" then do
    let v ← eval (payload.get "value" (.str "00:00:00") >>= strArg)
    gtk (.setText "ra_value" v)
  else if stateType = "dec" then do
    let v ← eval (payload.get "value" (.str "+00:00:00") >>= strArg)
    gtk (.setText "dec_value" v)
  else if stateType = "azimuth" then do
    let az ← eval (payload.get "value" (.float (.decimal 0 (-1))) >>= fixed2Arg)
    gtk (.setTextFixed2 "az_value" az)
  else if stateType = "altitude" then do
    let alt ← eval (payload.get "value" (.float (.decimal 0 (-1))) >>= fixed2Arg)
    gtk (.setTextFixed2 "alt_value" alt)
  else if stateType = "slewing" then do
    let slewing ← eval (payload.get "value" (.bool false))
    if slewing.truthy then gtk (.setMarkup "slew_label" "<span color='orange'><b>SLEWING</b></span>")
    else gtk (.setText "slew_label" "Idle")
  else pure ()

/-- `ControlPanel._on_telescope_state` (control_panel.py:257-291). -/
def ControlPanel.onTelescopeState (topic : String) (payload : JsonValue) :
    PyM ControlPanel Unit :=
  match stateTypeOf topic with
  | some stateType => applyState stateType payload
  | none => pure ()

/-- What `ControlPanel._on_config_response` goes on to do with a successful response. -/
inductive ConfigAction where
  | handleConfigList (data : JsonValue)
  | handleConfigLoaded (data : JsonValue)
  | ignore

/-- The dispatch of `ControlPanel._on_config_response` (control_panel.py:304-318): the
    fields it reads, and the helper it hands `data` to.  A failed response is logged and
    ignored.  The helpers fill GTK combo boxes and are not modelled. -/
def ControlPanel.onConfigResponse (payload : JsonValue) : Except PyError ConfigAction := do
  let command ← payload.get "command" (.str "")
  let success ← payload.get "success" (.bool false)
  if !success.truthy then
    let _ ← payload.get "message" (.str "Unknown error")
    return .ignore
  match command with
  | .str "list_configs" => return .handleConfigList (← payload.get "data" (.obj []))
  | .str "load_config" => return .handleConfigLoaded (← payload.get "data" (.obj []))
  | _ => return .ignore

/-- `ControlPanel._on_config_event` (control_panel.py:363-367): it only logs two fields. -/
def ControlPanel.onConfigEvent (payload : JsonValue) : Except PyError Unit := do
  let _ ← payload.get "event_type" (.str "")
  let _ ← payload.get "message" (.str "")

/-! ### Coordinator health topics -/

/-- Lines 134-136 of `HealthPanel._on_health_message`: `parts = topic.split('/')`, then
    `coord_id = parts[2] + "-coordinator"` when `len(parts) >= 3`. -/
def coordIdOf (topic : String) : Option String :=
  (· ++ "-coordinator") <$> (strSplit topic '/')[2]?

/-- `HealthPanel.COORDINATORS` (health_panel.py:16-24), the ids; the display names only
    label the rows. -/
def coordinators : List String :=
  ["message-coordinator", "application-coordinator", "security-coordinator",
   "telescope-coordinator", "uielement-coordinator", "plugin-coordinator",
   "datastore-coordinator"]

/-- The `'status'` entry of each row of `HealthPanel.health_widgets`, by coordinator id. -/
structure HealthPanel where
  statuses : List (String × String)

/-- One row per coordinator, each `'unknown'` (health_panel.py:51-53, 94-99). -/
def HealthPanel.init : HealthPanel := ⟨coordinators.map fun id => (id, "unknown")⟩

def HealthPanel.setStatus (w : HealthPanel) (coordId status : String) : HealthPanel :=
  ⟨w.statuses.map fun e => if e.1 = coordId then (e.1, status) else e⟩

/-- `str.lower`, given as a parameter: Python lowercases all of Unicode. -/
def lowerArg (lower : String → String) : JsonValue → Except PyError String
  | .str s => .ok (lower s)
  | v => .error (.attributeError v.typeName "lower")

/-- Lines 140-153 of `_on_health_message`, for the coordinator `coordId`; `now` is the clock
    reading `datetime.now().strftime("%H:%M:%S")`. -/
def HealthPanel.updateRow (lower : String → String) (now coordId : String)
    (payload : JsonValue) : PyM HealthPanel Unit := do
  if coordId ∈ (← get).1.statuses.map Prod.fst then
    let statusPayload ← eval (payload.get "payload" (.obj []))
    let status ← eval (statusPayload.get "status" (.str "unknown") >>= lowerArg lower)
    let message ← eval (statusPayload.get "message" (.str "No message"))
    setAttr (·.setStatus coordId status)
    gtk (.setText (coordId ++ ".status_label") (← eval (strArg message)))
    gtk (.setText (coordId ++ ".time_label") now)
    gtk (.connectDraw (coordId ++ ".indicator") status)
    gtk (.queueDraw (coordId ++ ".indicator"))

/-- `HealthPanel._on_health_message` (health_panel.py:128-155). -/
def HealthPanel.onHealthMessage (lower : String → String) (now topic : String)
    (payload : JsonValue) : PyM HealthPanel Unit :=
  match coordIdOf topic with
  | some coordId => updateRow lower now coordId payload
  | none => pure ()

theorem HealthPanel.keys_setStatus (w : HealthPanel) (coordId status : String) :
    (w.setStatus coordId status).statuses.map Prod.fst = w.statuses.map Prod.fst := by
  simp only [HealthPanel.setStatus, List.map_map]
  exact List.map_congr_left fun e _ => by by_cases h : e.1 = coordId <;> simp [h]

theorem HealthPanel.lookup_setStatus (w : HealthPanel) {coordId : String} (status : String)
    (h : coordId ∈ w.statuses.map Prod.fst) :
    (w.setStatus coordId status).statuses.lookup coordId = some status := by
  obtain ⟨statuses⟩ := w
  simp only [HealthPanel.setStatus] at h ⊢
  induction statuses with
  | nil => simp at h
  | cons e es ih =>
    obtain ⟨k, v⟩ := e
    by_cases hk : k = coordId
    · subst hk; simp
    · have h' : coordId ∈ es.map Prod.fst := by simpa [Ne.symm hk] using h
      have hne : (coordId == k) = false := by simpa using Ne.symm hk
      simp only [List.map_cons, hk, if_false, List.lookup_cons, hne]
      exact ih h'

/-- `updateRow` keeps the rows: whatever it raises, it writes at most one row's status. -/
theorem HealthPanel.keys_updateRow (lower : String → String) (now coordId : String)
    (payload : JsonValue) (w : HealthPanel) :
    ((updateRow lower now coordId payload).exec w).2.1.statuses.map Prod.fst =
      w.statuses.map Prod.fst := by
  simp only [updateRow, PyM.exec, PyM.run_bind, PyM.run_get]
  split_ifs
  · cases payload.get "payload" (.obj []) with
    | error e => rfl
    | ok sp =>
      simp only [PyM.run_bind, PyM.run_eval]
      cases sp.get "status" (.str "unknown") >>= lowerArg lower with
      | error e => rfl
      | ok status =>
        simp only [PyM.run_bind, PyM.run_eval]
        cases sp.get "message" (.str "No message") with
        | error e => rfl
        | ok message =>
          simp only [PyM.run_bind, PyM.run_eval, PyM.run_setAttr]
          cases strArg message <;> exact keys_setStatus _ _ _
  · rfl

theorem HealthPanel.keys_onHealthMessage (lower : String → String) (now topic : String)
    (payload : JsonValue) (w : HealthPanel) :
    ((onHealthMessage lower now topic payload).exec w).2.1.statuses.map Prod.fst =
      w.statuses.map Prod.fst := by
  rw [onHealthMessage]
  split
  · exact keys_updateRow _ _ _ _ _
  · rfl

/-- A known coordinator's status message: `updateRow` writes the lowered status, shows the
    message and the time, and redraws the indicator. -/
theorem HealthPanel.updateRow_status (lower : String → String) (now coordId status message : String)
    (w : HealthPanel) (hknown : coordId ∈ w.statuses.map Prod.fst) :
    (updateRow lower now coordId
        (.obj [("payload", .obj [("status", .str status), ("message", .str message)])])).exec w =
      (.ok (), w.setStatus coordId (lower status),
        [.setText (coordId ++ ".status_label") message, .setText (coordId ++ ".time_label") now,
          .connectDraw (coordId ++ ".indicator") (lower status),
          .queueDraw (coordId ++ ".indicator")]) := by
  have hstatus : (Except.ok (.str status) >>= lowerArg lower : Except PyError String) =
      .ok (lower status) := rfl
  have hmessage : [("status", JsonValue.str status), ("message", .str message)].lookup "message" =
      some (.str message) := rfl
  simp [updateRow, PyM.exec, hknown, hstatus, hmessage, strArg]

end BigSkies.Widgets
