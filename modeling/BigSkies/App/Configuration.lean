import BigSkies.App.Wiring

/-!
# The configuration section of the control panel

**Picking a configuration and loading it.**  `ControlPanel` shows the ASCOM plugin's
configurations in two `Gtk.ComboBoxText`s, one of telescope models and one of mount types,
filled by `_handle_config_list` from the plugin's `list_configs` response.  The user picks
a row in each, and the load button, sensitive only while both active rows carry an id,
publishes a `load_config` request for the pair.  This module models that section as a state
machine: the combos (`Combo`), the attributes the handlers write (`ConfigSection`), the
handlers `_handle_config_list`, `_handle_config_loaded`, `_on_selection_changed` and
`_on_load_config_clicked`, and `sectionStep` over what reaches them.

GTK emits `changed` from `remove_all()` and `set_active(i)` when the active row changes,
and runs the handler at once, so `_on_selection_changed` runs in the middle of
`_handle_config_list`, which may still raise on a later config.  `SectionM` keeps what a
body wrote before it raised, as `PyM` does.  The writes a body makes are the `Op`s, and a
fact about a body is proved once about the `Op`s it can perform (`handleConfigList_keeps`).

The results are over every run of the section:

* `load_button_tracks_selection`: the button is sensitive exactly when both active rows
  have a non-empty id, and the selection is then those ids (`SelectionAgrees`);
* `combo_rows_listed`: every row id came from a list response received before
  (`RowsFrom`);
* `load_click_requests_listed`: a click on the sensitive button publishes one request, for
  the rows shown;
* `list_response_resets_selection`: a list response on a `dict` resets the selection,
  whatever it raises on the way;
* `selection_handler_idempotent`: `_on_selection_changed` changes no reachable state, so
  that GTK emitting `changed` more often than modelled here makes no difference.
-/

namespace BigSkies.App

open BigSkies.Json BigSkies.Client BigSkies.Widgets

/-! ### Python objects read by `_handle_config_list` -/

/-- An exception `_handle_config_list` can raise: a `PyError`, or the `KeyError` of a key
    missing under `config[...]` or `current[...]`. -/
inductive PyException where
  | error (e : PyError)
  | keyError (key : String)
deriving DecidableEq

/-- `for x in v`: a `list` yields its items, a `dict` its keys and a `str` its characters;
    no other object is iterable. -/
def pyIter : JsonValue → Except PyException (List JsonValue)
  | .arr items => .ok items
  | .obj fields => .ok (fields.map fun f => .str f.1)
  | .str s => .ok (s.data.map fun c => .str (String.singleton c))
  | v => .error (.error (.typeError "iter" v.typeName))

/-- `v[key]` with a `str` key: a `dict` looks the key up; a `list` and a `str` want an
    integer index, and no other object is subscriptable. -/
def subscript (v : JsonValue) (key : String) : Except PyException JsonValue :=
  match v with
  | .obj fields =>
    match fields.lookup key with
    | some x => .ok x
    | none => .error (.keyError key)
  | v => .error (.error (.typeError "getitem" v.typeName))

/-- `v.items()`: only a `dict` has it. -/
def pyItems : JsonValue → Except PyException (List (String × JsonValue))
  | .obj fields => .ok fields
  | v => .error (.error (.attributeError v.typeName "items"))

/-- What GTK keeps of a Python `str` handed to it as a `const gchar *`: PyGObject passes the
    UTF-8 bytes and GTK copies them with `g_strdup`, which stops at the first NUL, so a `str`
    holding U+0000 is cut there. -/
def cString (s : String) : String := ⟨s.data.takeWhile (· ≠ '\x00')⟩

/-- The `id` argument of `Gtk.ComboBoxText.append`: a `str`, kept as a C string, or `None`
    for a row without id; PyGObject refuses any other object. -/
def comboId : JsonValue → Except PyException (Option String)
  | .str s => .ok (some (cString s))
  | .null => .ok none
  | v => .error (.error (.typeError "append" v.typeName))

theorem subscript_ok_isDict {v x : JsonValue} {key : String} (h : subscript v key = .ok x) :
    ∃ fields, v = .obj fields := by
  cases v <;> first | exact ⟨_, rfl⟩ | cases h

/-- A config that `config["model"]` accepts comes from a `list`: iterating a `dict` or a
    `str` yields `str`s. -/
theorem pyIter_ok_of_subscript {configs config x : JsonValue} {items : List JsonValue}
    (hitems : pyIter configs = .ok items) (hconfig : config ∈ items)
    (hx : subscript config "model" = .ok x) : configs = .arr items := by
  obtain ⟨fields, rfl⟩ := subscript_ok_isDict hx
  cases configs <;> simp only [pyIter, Except.ok.injEq, reduceCtorEq] at hitems
  case arr => rw [hitems]
  all_goals subst hitems; simp at hconfig

/-! ### Combo boxes -/

/-- A `Gtk.ComboBoxText`: the id of each row (`append_text` gives a row none) and the active
    row, if any. -/
structure Combo where
  ids : List (Option String)
  active : Option (Fin ids.length)

namespace Combo

/-- A combo with no rows, as `remove_all()` leaves it. -/
def empty : Combo := ⟨[], none⟩

/-- A combo as `_build_configuration_section` leaves it: the placeholder row of
    `append_text`, active after `set_active(0)` (control_panel.py:70-71, 86-87). -/
def placeholder : Combo := ⟨[none], some ⟨0, Nat.one_pos⟩⟩

/-- `get_active_id()`. -/
def activeId (c : Combo) : Option String := c.active.bind c.ids.get

/-- `append(id, text)`, and `append_text(text)` with `id = none`: a row at the end; the
    active row stays. -/
def append (c : Combo) (id : Option String) : Combo :=
  ⟨c.ids ++ [id], c.active.map (Fin.castLE (by simp))⟩

/-- `set_active(row)`.  A row the combo lacks leaves no row active. -/
def setActive (c : Combo) (row : Nat) : Combo :=
  if h : row < c.ids.length then ⟨c.ids, some ⟨row, h⟩⟩ else ⟨c.ids, none⟩

/-- Whether `set_active(row)` emits `changed`: unless `row` is the active row already. -/
def setActiveChanges (c : Combo) (row : Nat) : Bool := c.active.map Fin.val != some row

@[simp] theorem ids_append (c : Combo) (id : Option String) : (c.append id).ids = c.ids ++ [id] :=
  rfl

@[simp] theorem ids_setActive (c : Combo) (row : Nat) : (c.setActive row).ids = c.ids := by
  unfold setActive; split <;> rfl

@[simp] theorem activeId_empty : empty.activeId = none := rfl

@[simp] theorem activeId_append (c : Combo) (id : Option String) :
    (c.append id).activeId = c.activeId := by
  rcases c with ⟨ids, _ | i⟩
  · rfl
  · simp [activeId, append, List.getElem_append_left]

theorem activeId_setActive_of_not_changes {c : Combo} {row : Nat}
    (h : c.setActiveChanges row = false) : (c.setActive row).activeId = c.activeId := by
  rcases c with ⟨ids, _ | ⟨i, hi⟩⟩ <;>
    simp only [setActiveChanges, Option.map, bne_eq_false_iff_eq, reduceCtorEq,
      Option.some.injEq] at h
  subst h
  simp [setActive, hi]

theorem activeId_setActive_zero {c : Combo} (hhead : c.ids.head? = some none) :
    (c.setActive 0).activeId = none := by
  rcases c with ⟨_ | ⟨x, ids⟩, active⟩
  · cases hhead
  · simp only [List.head?_cons, Option.some.injEq] at hhead
    subst hhead
    unfold setActive
    rw [dif_pos (by simp)]
    rfl

theorem activeId_mem {c : Combo} {id : String} (h : c.activeId = some id) : some id ∈ c.ids := by
  rcases c with ⟨ids, _ | i⟩
  · cases h
  · simp only [activeId, Option.bind_some] at h
    exact h ▸ List.get_mem ids i.1 i.2

theorem activeId_of_active_none {c : Combo} (h : c.active = none) : c.activeId = none := by
  simp [activeId, h]

end Combo

/-! ### The section -/

/-- The two combos of the section, `model_combo` and `mount_combo`. -/
inductive ComboName where
  | model
  | mount
deriving DecidableEq

/-- The attributes of `ControlPanel` that the configuration handlers read and write, with
    the state of the section's widgets: the combos, whether `load_button` is sensitive,
    and the model and mount type `_handle_config_loaded` last showed on `slew_label`. -/
structure ConfigSection where
  availableConfigs : JsonValue
  selectedModel : Option String
  selectedMountType : Option String
  modelCombo : Combo
  mountCombo : Combo
  loadSensitive : Bool
  loadedShown : Option (JsonValue × JsonValue)

namespace ConfigSection

/-- The section once `ControlPanel.__init__` has run (control_panel.py:19-22, 50-113): the
    combos show their placeholders, and `load_button.set_sensitive(False)`.  `set_active(0)`
    runs before `changed` is connected, so `_on_selection_changed` has not run. -/
def init : ConfigSection := ⟨.arr [], none, none, .placeholder, .placeholder, false, none⟩

/-- The combo named `w`. -/
def combo (s : ConfigSection) : ComboName → Combo
  | .model => s.modelCombo
  | .mount => s.mountCombo

/-- Replace the combo named `w`. -/
def setCombo (s : ConfigSection) : ComboName → Combo → ConfigSection
  | .model, c => { s with modelCombo := c }
  | .mount, c => { s with mountCombo := c }

/-- `_on_selection_changed` (control_panel.py:369-380).  `if model_id and mount_id:` is true
    of two ids that are both non-empty. -/
def onSelectionChanged (s : ConfigSection) : ConfigSection :=
  match s.modelCombo.activeId, s.mountCombo.activeId with
  | some modelId, some mountId =>
    if modelId ≠ "" ∧ mountId ≠ "" then
      { s with selectedModel := some modelId, selectedMountType := some mountId,
               loadSensitive := true }
    else { s with loadSensitive := false }
  | _, _ => { s with loadSensitive := false }

/-- Run `_on_selection_changed` if `changed` was emitted. -/
def changedIf (fired : Bool) (s : ConfigSection) : ConfigSection :=
  if fired then s.onSelectionChanged else s

@[simp] theorem combo_setCombo (s : ConfigSection) (w : ComboName) (c : Combo) :
    (s.setCombo w c).combo w = c := by
  cases w <;> rfl

@[simp] theorem loadSensitive_setCombo (s : ConfigSection) (w : ComboName) (c : Combo) :
    (s.setCombo w c).loadSensitive = s.loadSensitive := by
  cases w <;> rfl

@[simp] theorem selected_setCombo (s : ConfigSection) (w : ComboName) (c : Combo) :
    (s.setCombo w c).selectedModel = s.selectedModel ∧
    (s.setCombo w c).selectedMountType = s.selectedMountType := by
  cases w <;> exact ⟨rfl, rfl⟩

@[simp] theorem combos_onSelectionChanged (s : ConfigSection) :
    s.onSelectionChanged.modelCombo = s.modelCombo ∧
    s.onSelectionChanged.mountCombo = s.mountCombo := by
  unfold onSelectionChanged; split <;> (try split) <;> exact ⟨rfl, rfl⟩

end ConfigSection

/-! ### Handler bodies -/

/-- A write of the configuration handlers: an attribute, or a call on a combo together with
    the `_on_selection_changed` it triggers. -/
inductive Op where
  | setAvailableConfigs (configs : JsonValue)
  | removeAll (w : ComboName)
  | append (w : ComboName) (id : Option String)
  | setActive (w : ComboName) (row : Nat)

/-- The section after the write `op`. -/
def Op.apply : Op → ConfigSection → ConfigSection
  | .setAvailableConfigs configs, s => { s with availableConfigs := configs }
  | .removeAll w, s => (s.setCombo w .empty).changedIf (s.combo w).active.isSome
  | .append w id, s => s.setCombo w ((s.combo w).append id)
  | .setActive w row, s =>
    (s.setCombo w ((s.combo w).setActive row)).changedIf ((s.combo w).setActiveChanges row)

/-- A handler body of the section: it may raise a `PyException`; what it wrote before
    raising stays written. -/
abbrev SectionM := ExceptT PyException (StateM ConfigSection)

namespace SectionM

/-- Perform a write. -/
def perform (op : Op) : SectionM Unit := modify op.apply

/-- An expression that may raise. -/
def eval {α : Type} : Except PyException α → SectionM α
  | .ok a => pure a
  | .error e => throw e

/-- An expression that may raise a `PyError`. -/
def py {α : Type} (x : Except PyError α) : SectionM α := eval (x.mapError .error)

/-- The section after a body, whether it returned or raised (PyGObject prints the traceback
    of a handler that raises). -/
def exec (body : SectionM Unit) (s : ConfigSection) : ConfigSection := (body.run.run s).2

end SectionM

open SectionM

/-- Lines 334-336 of `_handle_config_list`: the row of one config. -/
def appendConfig (config : JsonValue) : SectionM Unit := do
  let model ← eval (subscript config "model")
  let _description ← eval (subscript config "description")
  perform (.append .model (← eval (comboId model)))

/-- Line 343 of `_handle_config_list`: the row of one mount type, its id the key kept as a C
    string. -/
def appendMountType (field : String × JsonValue) : SectionM Unit :=
  perform (.append .mount (some (cString field.1)))

/-- Lines 333-352 of `_handle_config_list`: fill both combos and make their placeholders
    active.  The row texts and the log lines are not modelled, but the expressions in a log
    line that can raise are. -/
def fillCombos (configs mountTypes current : JsonValue) : SectionM Unit := do
  (← eval (pyIter configs)).forM appendConfig
  perform (.removeAll .mount)
  perform (.append .mount none)
  (← eval (pyItems mountTypes)).forM appendMountType
  perform (.setActive .model 0)
  perform (.setActive .mount 0)
  if current.truthy then
    let _ ← eval (subscript current "model")
    let _ ← eval (subscript current "mount_type")

/-- `_handle_config_list` (control_panel.py:320-352).  `models` is read and never used. -/
def handleConfigList (data : JsonValue) : SectionM Unit := do
  let configs ← py (data.get "available_configs" (.arr []))
  let _models ← py (data.get "models" (.obj []))
  let mountTypes ← py (data.get "mount_types" (.obj []))
  let current ← py (data.get "current" .null)
  perform (.setAvailableConfigs configs)
  perform (.removeAll .model)
  perform (.append .model none)
  fillCombos configs mountTypes current

/-- `_handle_config_loaded` (control_panel.py:354-361): `slew_label` shows the model and the
    mount type of `data`, whatever objects they are. -/
def handleConfigLoaded (data : JsonValue) : SectionM Unit := do
  let model ← py (data.get "model" .null)
  let mountType ← py (data.get "mount_type" .null)
  modify fun s => { s with loadedShown := some (model, mountType) }

/-- The request `_on_load_config_clicked` publishes (control_panel.py:390-400).  `ms` is
    `int(time.time() * 1000)`. -/
def loadRequest (model mountType : String) (ms : Nat) : Event AppHandler AppCallback :=
  .publish (configTopic "load")
    (.obj [("command", .str "load_config"), ("model", .str model),
           ("mount_type", .str mountType), ("request_id", .str ("gui-load-" ++ toString ms))]) 1

/-- `_on_load_config_clicked` (control_panel.py:382-400): the requests it publishes. -/
def ConfigSection.onLoadConfigClicked (s : ConfigSection) (ms : Nat) :
    List (Event AppHandler AppCallback) :=
  match s.selectedModel, s.selectedMountType with
  | some model, some mountType =>
    if model = "" ∨ mountType = "" then [] else [loadRequest model mountType ms]
  | _, _ => []

/-- `_request_configurations` (control_panel.py:293-302), the refresh button's handler. -/
def requestConfigurations (ms : Nat) : Event AppHandler AppCallback :=
  .publish (configTopic "list")
    (.obj [("command", .str "list_configs"), ("request_id", .str ("gui-request-" ++ toString ms))]) 1

/-- `_on_connect_clicked` (control_panel.py:245-250). -/
def onConnectClicked : Event AppHandler AppCallback :=
  .publish "bigskies/telescope/0/command/connect" (.obj [("action", .str "toggle")]) 1

/-! ### The state machine -/

/-- What reaches the section: a response as `_on_config_response` dispatched it, the user
    picking a row of a combo, or a click on one of the panel's buttons, at the clock reading
    `ms`.  GTK delivers `clicked` only to a sensitive button. -/
inductive SectionEvent where
  | response (action : ConfigAction)
  | pick (w : ComboName) (row : Nat)
  | clickLoad (ms : Nat)
  | clickRefresh (ms : Nat)
  | clickConnect

/-- One event: the section after it, and the requests published on the client. -/
def sectionStep (s : ConfigSection) : SectionEvent → ConfigSection × List (Event AppHandler AppCallback)
  | .response (.handleConfigList data) => ((handleConfigList data).exec s, [])
  | .response (.handleConfigLoaded data) => ((handleConfigLoaded data).exec s, [])
  | .response .ignore => (s, [])
  | .pick w row => ((Op.setActive w row).apply s, [])
  | .clickLoad ms => (s, if s.loadSensitive then s.onLoadConfigClicked ms else [])
  | .clickRefresh ms => (s, [requestConfigurations ms])
  | .clickConnect => (s, [onConnectClicked])

/-- The section after a sequence of events. -/
def sectionRun (s : ConfigSection) (evs : List SectionEvent) : ConfigSection :=
  evs.foldl (fun s e => (sectionStep s e).1) s

/-- The `data` of the list responses among the events, in order. -/
def listResponses (evs : List SectionEvent) : List JsonValue :=
  evs.filterMap fun
    | .response (.handleConfigList data) => some data
    | _ => none

@[simp] theorem sectionRun_nil (s : ConfigSection) : sectionRun s [] = s := rfl

@[simp] theorem sectionRun_append (s : ConfigSection) (evs evs' : List SectionEvent) :
    sectionRun s (evs ++ evs') = sectionRun (sectionRun s evs) evs' :=
  List.foldl_append _ _ _ _

/-! ### What a body keeps -/

/-- `x` keeps `inv`: from a state satisfying it, `x` ends in one, whether it returns or
    raises. -/
def Keeps (inv : ConfigSection → Prop) {α : Type} (x : SectionM α) : Prop :=
  ∀ s, inv s → inv (x.run.run s).2

section Keeps

variable {inv : ConfigSection → Prop} {α β : Type}

theorem SectionM.run_bind (x : SectionM α) (f : α → SectionM β) (s : ConfigSection) :
    (x >>= f).run.run s =
      match x.run.run s with
      | (.ok a, s') => (f a).run.run s'
      | (.error e, s') => (.error e, s') := by
  simp only [ExceptT.run_bind, StateT.run_bind]
  show (do let p ← x.run.run s; _) = _
  rcases x.run.run s with ⟨_ | _, _⟩ <;> rfl

theorem Keeps.pure (a : α) : Keeps inv (Pure.pure a) := fun _ h => h

theorem Keeps.modify {f : ConfigSection → ConfigSection} (h : ∀ s, inv s → inv (f s)) :
    Keeps inv (modify f : SectionM Unit) := h

theorem Keeps.bind {x : SectionM α} {f : α → SectionM β} (hx : Keeps inv x)
    (hf : ∀ a, Keeps inv (f a)) : Keeps inv (x >>= f) := by
  intro s hs
  have hxs := hx s hs
  rw [SectionM.run_bind]
  revert hxs
  rcases x.run.run s with ⟨_ | a, s'⟩
  · exact id
  · exact hf a s'

theorem Keeps.eval_bind {x : Except PyException α} {f : α → SectionM β}
    (hf : ∀ a, x = .ok a → Keeps inv (f a)) : Keeps inv (eval x >>= f) := by
  cases x with
  | error e => exact fun _ h => h
  | ok a => exact hf a rfl

theorem Keeps.forM {l : List α} {f : α → SectionM PUnit} (h : ∀ a ∈ l, Keeps inv (f a)) :
    Keeps inv (l.forM f) := by
  induction l with
  | nil => exact Keeps.pure _
  | cons a l ih =>
    rw [List.forM_cons']
    exact Keeps.bind (h a (List.mem_cons_self a l)) fun _ =>
      ih fun b hb => h b (List.mem_cons_of_mem a hb)

end Keeps

/-- A write `fillCombos configs mountTypes _` can perform: a row of a config or of a mount
    type, the clearing of `mount_combo` and its placeholder, or `set_active(0)`. -/
def FillOp (configs mountTypes : JsonValue) : Op → Prop
  | .append .model id => ∀ m, id = some m →
      ∃ items config name, pyIter configs = .ok items ∧ config ∈ items ∧
        subscript config "model" = .ok (.str name) ∧ cString name = m
  | .append .mount id => ∀ t, id = some t →
      ∃ fields name, pyItems mountTypes = .ok fields ∧ name ∈ fields.map Prod.fst ∧
        cString name = t
  | .removeAll w => w = .mount
  | .setActive _ row => row = 0
  | .setAvailableConfigs _ => False

theorem comboId_ok_some {v : JsonValue} {m : String} (h : comboId v = .ok (some m)) :
    ∃ name, v = .str name ∧ cString name = m := by
  cases v <;> simp only [comboId, Except.ok.injEq, Option.some.injEq, reduceCtorEq] at h
  exact ⟨_, rfl, h⟩

/-- `fillCombos` keeps every invariant that each write it can perform keeps. -/
theorem fillCombos_keeps {inv : ConfigSection → Prop} {configs mountTypes : JsonValue}
    (current : JsonValue) (h : ∀ op, FillOp configs mountTypes op → ∀ s, inv s → inv (op.apply s)) :
    Keeps inv (fillCombos configs mountTypes current) := by
  refine Keeps.eval_bind fun items hitems =>
    Keeps.bind (Keeps.forM fun config hconfig => ?rows) fun _ =>
    Keeps.bind (Keeps.modify (h _ rfl)) fun _ =>
    Keeps.bind (Keeps.modify (h (.append .mount none) fun _ ht => nomatch ht)) fun _ =>
    Keeps.eval_bind fun fields hfields =>
    Keeps.bind (Keeps.forM fun field hfield => Keeps.modify (h _ ?mounts)) fun _ =>
    Keeps.bind (Keeps.modify (h _ rfl)) fun _ => Keeps.bind (Keeps.modify (h _ rfl)) fun _ => ?current
  case rows =>
    refine Keeps.eval_bind fun model hmodel => Keeps.eval_bind fun _ _ =>
      Keeps.eval_bind fun id hid => Keeps.modify (h _ fun m hm => ?_)
    subst hm
    obtain ⟨name, rfl, hname⟩ := comboId_ok_some hid
    exact ⟨items, config, name, hitems, hconfig, hmodel, hname⟩
  case mounts =>
    rintro t ⟨⟩
    exact ⟨fields, field.1, hfields, List.mem_map_of_mem _ hfield, rfl⟩
  case current =>
    split
    · exact Keeps.eval_bind fun _ _ => Keeps.eval_bind fun _ _ => Keeps.pure _
    · exact Keeps.pure _

/-- The row ids `_handle_config_list data` can give combo `w`: the `model` of a config in the
    `available_configs` list of `data`, or a key of its `mount_types` dict, as a C string. -/
def Listed (data : JsonValue) : ComboName → String → Prop
  | .model, m => ∃ configs config name,
      data.get "available_configs" (.arr []) = .ok (.arr configs) ∧ config ∈ configs ∧
      subscript config "model" = .ok (.str name) ∧ cString name = m
  | .mount, t => ∃ fields name, data.get "mount_types" (.obj []) = .ok (.obj fields) ∧
      name ∈ fields.map Prod.fst ∧ cString name = t

/-- A write `_handle_config_list data` can perform. -/
def ListOp (data : JsonValue) : Op → Prop
  | .append w id => ∀ x, id = some x → Listed data w x
  | .setActive _ row => row = 0
  | _ => True

theorem mapError_eq_ok {x : Except PyError α} {a : α} (h : x.mapError PyException.error = .ok a) :
    x = .ok a := by
  cases x with
  | ok b => cases h; rfl
  | error e => cases h

theorem pyItems_ok {v : JsonValue} {fields : List (String × JsonValue)}
    (h : pyItems v = .ok fields) : v = .obj fields := by
  cases v <;> simp only [pyItems, Except.ok.injEq, reduceCtorEq] at h
  rw [h]

/-- `_handle_config_list data` keeps every invariant that each write it can perform keeps. -/
theorem handleConfigList_keeps {inv : ConfigSection → Prop} (data : JsonValue)
    (h : ∀ op, ListOp data op → ∀ s, inv s → inv (op.apply s)) :
    Keeps inv (handleConfigList data) := by
  refine Keeps.eval_bind fun configs hconfigs => Keeps.eval_bind fun _ _ =>
    Keeps.eval_bind fun mountTypes hmounts => Keeps.eval_bind fun current _ =>
    Keeps.bind (Keeps.modify (h _ trivial)) fun _ => Keeps.bind (Keeps.modify (h _ trivial)) fun _ =>
    Keeps.bind (Keeps.modify (h (.append .model none) fun _ hx => nomatch hx)) fun _ =>
    fillCombos_keeps current fun op hop => h op ?_
  replace hconfigs := mapError_eq_ok hconfigs
  replace hmounts := mapError_eq_ok hmounts
  match op, hop with
  | .append .model _, hop =>
    intro m hm
    obtain ⟨items, config, name, hitems, hconfig, hmodel, hname⟩ := hop m hm
    exact ⟨items, config, name, pyIter_ok_of_subscript hitems hconfig hmodel ▸ hconfigs, hconfig,
      hmodel, hname⟩
  | .append .mount _, hop =>
    intro t ht
    obtain ⟨fields, name, hfields, hname, ht⟩ := hop t ht
    exact ⟨fields, name, pyItems_ok hfields ▸ hmounts, hname, ht⟩
  | .removeAll _, _ => trivial
  | .setActive _ _, hop => exact hop
  | .setAvailableConfigs _, hop => exact hop.elim

theorem handleConfigLoaded_keeps {inv : ConfigSection → Prop} (data : JsonValue)
    (h : ∀ s shown, inv s → inv { s with loadedShown := shown }) :
    Keeps inv (handleConfigLoaded data) :=
  Keeps.eval_bind fun _ _ => Keeps.eval_bind fun _ _ => Keeps.modify fun s hs => h s _ hs

/-! ### The load button follows the selection -/

/-- The load button is sensitive exactly when both active rows have a non-empty id, and the
    selection is then those ids. -/
def SelectionAgrees (s : ConfigSection) : Prop :=
  (s.loadSensitive = true ↔ ∃ m t, s.modelCombo.activeId = some m ∧
    s.mountCombo.activeId = some t ∧ m ≠ "" ∧ t ≠ "") ∧
  (s.loadSensitive = true →
    s.selectedModel = s.modelCombo.activeId ∧ s.selectedMountType = s.mountCombo.activeId)

theorem selectionAgrees_init : SelectionAgrees ConfigSection.init := by
  simp [SelectionAgrees, ConfigSection.init, Combo.placeholder, Combo.activeId]

/-- `_on_selection_changed` sets the button and the selection from the active rows. -/
theorem selectionAgrees_onSelectionChanged (s : ConfigSection) :
    SelectionAgrees s.onSelectionChanged := by
  unfold ConfigSection.onSelectionChanged
  split
  · rename_i m t hm ht
    split_ifs with hne
    · simp [SelectionAgrees, hm, ht, hne]
    · simp only [SelectionAgrees, hm, ht, Bool.false_eq_true, false_iff, false_implies, and_true]
      rintro ⟨_, _, ⟨⟩, ⟨⟩, hm', ht'⟩
      exact hne ⟨hm', ht'⟩
  · rename_i hnot
    simp only [SelectionAgrees, Bool.false_eq_true, false_iff, false_implies, and_true]
    rintro ⟨m, t, hm, ht, -⟩
    exact hnot m t hm ht

/-- In a state where the button agrees with the selection, `_on_selection_changed` changes
    nothing: GTK emitting `changed` once more than modelled makes no difference. -/
theorem onSelectionChanged_of_agrees {s : ConfigSection} (h : SelectionAgrees s) :
    s.onSelectionChanged = s := by
  obtain ⟨hsens, hsel⟩ := h
  unfold ConfigSection.onSelectionChanged
  split
  · rename_i m t hm ht
    split_ifs with hne
    · obtain ⟨h1, h2⟩ := hsel (hsens.2 ⟨m, t, hm, ht, hne⟩)
      rw [← hm, ← ht, ← h1, ← h2, ← hsens.2 ⟨m, t, hm, ht, hne⟩]
    · have : s.loadSensitive = false := by
        rw [← Bool.not_eq_true, hsens, hm, ht]
        rintro ⟨_, _, ⟨⟩, ⟨⟩, hne'⟩
        exact hne hne'
      rw [← this]
  · rename_i hnot
    have : s.loadSensitive = false := by
      rw [← Bool.not_eq_true, hsens]
      rintro ⟨m, t, hm, ht, -⟩
      exact hnot m t hm ht
    rw [← this]

theorem SelectionAgrees.of_same {s s' : ConfigSection} (h : SelectionAgrees s)
    (hsens : s'.loadSensitive = s.loadSensitive)
    (hsel : s'.selectedModel = s.selectedModel ∧ s'.selectedMountType = s.selectedMountType)
    (hmodel : s'.modelCombo.activeId = s.modelCombo.activeId)
    (hmount : s'.mountCombo.activeId = s.mountCombo.activeId) : SelectionAgrees s' := by
  unfold SelectionAgrees
  rw [hsens, hsel.1, hsel.2, hmodel, hmount]
  exact h

theorem SelectionAgrees.setCombo {s : ConfigSection} {w : ComboName} {c : Combo}
    (h : SelectionAgrees s) (hc : c.activeId = (s.combo w).activeId) :
    SelectionAgrees (s.setCombo w c) := by
  cases w
  · exact h.of_same rfl ⟨rfl, rfl⟩ hc rfl
  · exact h.of_same rfl ⟨rfl, rfl⟩ rfl hc

theorem selectionAgrees_changedIf {s : ConfigSection} {fired : Bool}
    (h : fired = false → SelectionAgrees s) : SelectionAgrees (s.changedIf fired) := by
  cases fired
  · exact h rfl
  · exact selectionAgrees_onSelectionChanged s

/-- Every write keeps the button in agreement with the selection. -/
theorem SelectionAgrees.apply {s : ConfigSection} (h : SelectionAgrees s) :
    ∀ op : Op, SelectionAgrees (op.apply s)
  | .setAvailableConfigs _ => h.of_same rfl ⟨rfl, rfl⟩ rfl rfl
  | .removeAll _ => selectionAgrees_changedIf fun hfired =>
      h.setCombo (Combo.activeId_of_active_none (by simpa using hfired)).symm
  | .append _ _ => h.setCombo (Combo.activeId_append _ _)
  | .setActive _ _ => selectionAgrees_changedIf fun hfired =>
      h.setCombo (Combo.activeId_setActive_of_not_changes hfired)

theorem SelectionAgrees.sectionStep {s : ConfigSection} (h : SelectionAgrees s) :
    ∀ e, SelectionAgrees (sectionStep s e).1
  | .response (.handleConfigList data) => handleConfigList_keeps data (fun op _ _ hs => hs.apply op) s h
  | .response (.handleConfigLoaded data) =>
    handleConfigLoaded_keeps data (fun _ _ hs => hs.of_same rfl ⟨rfl, rfl⟩ rfl rfl) s h
  | .response .ignore | .clickLoad _ | .clickRefresh _ | .clickConnect => h
  | .pick _ _ => h.apply _

/-- Every reachable state of the section agrees. -/
theorem SelectionAgrees.sectionRun {s : ConfigSection} (h : SelectionAgrees s)
    (evs : List SectionEvent) : SelectionAgrees (sectionRun s evs) := by
  induction evs generalizing s with
  | nil => exact h
  | cons e evs ih => exact ih (h.sectionStep e)

theorem selectionAgrees_sectionRun (evs : List SectionEvent) :
    SelectionAgrees (sectionRun .init evs) :=
  selectionAgrees_init.sectionRun evs

/-- After any events, the load button is sensitive exactly when both combos show a row with
    a non-empty id, and the selection is then those ids. -/
theorem load_button_tracks_selection (evs : List SectionEvent) :
    let s := sectionRun .init evs
    (s.loadSensitive = true ↔ ∃ m t, s.modelCombo.activeId = some m ∧
      s.mountCombo.activeId = some t ∧ m ≠ "" ∧ t ≠ "") ∧
    (s.loadSensitive = true →
      s.selectedModel = s.modelCombo.activeId ∧ s.selectedMountType = s.mountCombo.activeId) :=
  selectionAgrees_sectionRun evs

/-! ### Where the rows come from -/

/-- `x` is a row id that one of the list responses `lists` gives combo `w`. -/
def ListedIn (lists : List JsonValue) (w : ComboName) (x : String) : Prop :=
  ∃ data ∈ lists, Listed data w x

/-- Every row id of both combos is listed in one of `lists`. -/
def RowsFrom (lists : List JsonValue) (s : ConfigSection) : Prop :=
  ∀ w x, some x ∈ (s.combo w).ids → ListedIn lists w x

namespace ConfigSection

@[simp] theorem combo_changedIf (s : ConfigSection) (fired : Bool) (w : ComboName) :
    (s.changedIf fired).combo w = s.combo w := by
  cases fired
  · rfl
  · cases w
    · exact (combos_onSelectionChanged s).1
    · exact (combos_onSelectionChanged s).2

theorem combo_setCombo_of_ne {s : ConfigSection} {w w' : ComboName} (c : Combo) (h : w' ≠ w) :
    (s.setCombo w' c).combo w = s.combo w := by
  cases w <;> cases w' <;> first | rfl | exact absurd rfl h

end ConfigSection

section RowsFrom

variable {lists : List JsonValue} {s : ConfigSection}

theorem RowsFrom.mono {lists' : List JsonValue} (h : RowsFrom lists s) (hsub : lists ⊆ lists') :
    RowsFrom lists' s :=
  fun w x hx => let ⟨data, hd, hl⟩ := h w x hx; ⟨data, hsub hd, hl⟩

theorem RowsFrom.setCombo {w : ComboName} {c : Combo} (h : RowsFrom lists s)
    (hc : ∀ x, some x ∈ c.ids → some x ∈ (s.combo w).ids ∨ ListedIn lists w x) :
    RowsFrom lists (s.setCombo w c) := by
  intro w' x hx
  by_cases hw : w = w'
  · subst hw
    rw [ConfigSection.combo_setCombo] at hx
    exact (hc x hx).elim (h w x) id
  · exact h w' x (ConfigSection.combo_setCombo_of_ne c hw ▸ hx)

theorem RowsFrom.changedIf {fired : Bool} (h : RowsFrom lists s) :
    RowsFrom lists (s.changedIf fired) :=
  fun w x hx => h w x (by rwa [ConfigSection.combo_changedIf] at hx)

/-- A write of `_handle_config_list data` gives a combo only rows listed in `data`. -/
theorem RowsFrom.apply {data : JsonValue} (h : RowsFrom lists s) (hdata : data ∈ lists) :
    ∀ op, ListOp data op → RowsFrom lists (op.apply s)
  | .setAvailableConfigs _, _ => fun w x hx => h w x (by cases w <;> exact hx)
  | .removeAll _, _ => (h.setCombo fun _ hx => absurd hx (List.not_mem_nil _)).changedIf
  | .append _ _, hop => h.setCombo fun x hx => by
      rw [Combo.ids_append, List.mem_append, List.mem_singleton] at hx
      exact hx.imp id fun hx => ⟨data, hdata, hop x hx.symm⟩
  | .setActive _ _, _ => (h.setCombo fun _ hx => .inl (by rwa [Combo.ids_setActive] at hx)).changedIf

theorem RowsFrom.sectionStep (h : RowsFrom lists s) (e : SectionEvent) :
    RowsFrom (lists ++ listResponses [e]) (sectionStep s e).1 := by
  have hmono := h.mono (List.subset_append_left lists (listResponses [e]))
  match e with
  | .response (.handleConfigList data) =>
    exact handleConfigList_keeps data (fun op hop _ hs => hs.apply (by simp [listResponses]) op hop)
      s hmono
  | .response (.handleConfigLoaded data) =>
    exact handleConfigLoaded_keeps data (fun _ _ hs w x hx => hs w x (by cases w <;> exact hx)) s hmono
  | .pick _ _ => exact (hmono.setCombo fun _ hx => .inl (by rwa [Combo.ids_setActive] at hx)).changedIf
  | .response .ignore | .clickLoad _ | .clickRefresh _ | .clickConnect => exact hmono

theorem rowsFrom_init : RowsFrom [] ConfigSection.init := by
  intro w x hx
  cases w <;> simp [ConfigSection.init, ConfigSection.combo, Combo.placeholder] at hx

/-- Every row id of a reachable state came from a list response. -/
theorem RowsFrom.sectionRun (h : RowsFrom lists s) (evs : List SectionEvent) :
    RowsFrom (lists ++ listResponses evs) (sectionRun s evs) := by
  induction evs generalizing s lists with
  | nil => simpa [listResponses] using h
  | cons e evs ih =>
    rw [show listResponses (e :: evs) = listResponses [e] ++ listResponses evs from
      List.filterMap_append [e] evs _, ← List.append_assoc]
    exact ih (h.sectionStep e)

theorem rowsFrom_sectionRun (evs : List SectionEvent) :
    RowsFrom (listResponses evs) (sectionRun .init evs) :=
  rowsFrom_init.sectionRun evs

end RowsFrom

/-- After any events, every row id of either combo is one that a list response among them
    gave that combo: a `model` of its `available_configs` list, or a key of its
    `mount_types` dict. -/
theorem combo_rows_listed (evs : List SectionEvent) (w : ComboName) (x : String)
    (hx : some x ∈ ((sectionRun .init evs).combo w).ids) :
    ∃ data ∈ listResponses evs, Listed data w x :=
  rowsFrom_sectionRun evs w x hx

/-- One list response of the simulator's config gives the model combo the row `simulator`. -/
theorem combo_rows_listed_simulator :
    let pre : List SectionEvent :=
      [.response (.handleConfigList (.obj [("available_configs",
        .arr [.obj [("model", .str "simulator"), ("description", .str "ASCOM simulator")]])]))]
    some "simulator" ∈ ((sectionRun .init pre).combo .model).ids ∧
    ∃ data ∈ listResponses pre, Listed data .model "simulator" :=
  ⟨by decide, combo_rows_listed _ .model "simulator" (by decide)⟩

/-- A click on the sensitive button publishes the load request for the rows shown. -/
theorem sectionStep_clickLoad {s : ConfigSection} (h : SelectionAgrees s)
    (hsens : s.loadSensitive = true) {model mountType : String}
    (hm : s.modelCombo.activeId = some model) (ht : s.mountCombo.activeId = some mountType)
    (ms : Nat) : (sectionStep s (.clickLoad ms)).2 = [loadRequest model mountType ms] := by
  obtain ⟨m, t, hm', ht', hm0, ht0⟩ := h.1.1 hsens
  obtain ⟨hmodel, hmount⟩ := h.2 hsens
  rw [hm, Option.some.injEq] at hm'
  rw [ht, Option.some.injEq] at ht'
  subst hm' ht'
  simp only [sectionStep, hsens, if_true, ConfigSection.onLoadConfigClicked, hmodel, hmount, hm, ht,
    hm0, ht0, or_self, if_false]

/-- A click on the sensitive load button, after any events, publishes one request: for the
    active rows, whose ids came from list responses among those events. -/
theorem load_click_requests_listed (pre : List SectionEvent) (ms : Nat)
    (hsens : (sectionRun .init pre).loadSensitive = true) :
    ∃ m t, (sectionStep (sectionRun .init pre) (.clickLoad ms)).2 = [loadRequest m t ms] ∧
      (sectionRun .init pre).modelCombo.activeId = some m ∧
      (sectionRun .init pre).mountCombo.activeId = some t ∧
      ListedIn (listResponses pre) .model m ∧ ListedIn (listResponses pre) .mount t := by
  have hagrees := selectionAgrees_sectionRun pre
  obtain ⟨m, t, hm, ht, -⟩ := hagrees.1.1 hsens
  have hrows := rowsFrom_sectionRun pre
  exact ⟨m, t, sectionStep_clickLoad hagrees hsens hm ht ms, hm, ht,
    hrows .model m (Combo.activeId_mem hm), hrows .mount t (Combo.activeId_mem ht)⟩

/-- The only load request an event makes the section publish is for the rows it shows, from
    a state where the button agrees with them. -/
theorem activeIds_of_loadRequest {s : ConfigSection} (h : SelectionAgrees s) {e : SectionEvent}
    {model mountType : String} {ms : Nat} (hreq : loadRequest model mountType ms ∈ (sectionStep s e).2) :
    s.modelCombo.activeId = some model ∧ s.mountCombo.activeId = some mountType := by
  match e, hreq with
  | .clickLoad ms', hreq =>
    cases hsens : s.loadSensitive
    · simp [sectionStep, hsens] at hreq
    · obtain ⟨m, t, hm, ht, -⟩ := h.1.1 hsens
      rw [sectionStep_clickLoad h hsens hm ht, List.mem_singleton] at hreq
      simp only [loadRequest, Event.publish.injEq, JsonValue.obj.injEq, List.cons.injEq,
        Prod.mk.injEq, JsonValue.str.injEq, true_and] at hreq
      obtain ⟨⟨rfl, rfl, -⟩, -⟩ := hreq
      exact ⟨hm, ht⟩
  | .clickRefresh _, hreq =>
    simp [sectionStep, requestConfigurations, loadRequest, configTopic] at hreq
  | .clickConnect, hreq => simp [sectionStep, onConnectClicked, loadRequest, configTopic] at hreq
  | .response (.handleConfigList _), hreq | .response (.handleConfigLoaded _), hreq
  | .response .ignore, hreq | .pick _ _, hreq => cases hreq

/-- The simulator's list response, then a pick in each combo: the click requests the
    `simulator` model on an `altaz` mount. -/
theorem load_click_requests_listed_simulator :
    let pre : List SectionEvent :=
      [.response (.handleConfigList (.obj
        [("available_configs",
            .arr [.obj [("model", .str "simulator"), ("description", .str "ASCOM simulator")]]),
         ("mount_types", .obj [("altaz", .str "Alt-Az")])])),
       .pick .model 1, .pick .mount 1]
    (sectionRun .init pre).loadSensitive = true ∧
    ∃ m t, (sectionStep (sectionRun .init pre) (.clickLoad 0)).2 = [loadRequest m t 0] ∧
      (sectionRun .init pre).modelCombo.activeId = some m ∧
      (sectionRun .init pre).mountCombo.activeId = some t ∧
      ListedIn (listResponses pre) .model m ∧ ListedIn (listResponses pre) .mount t :=
  ⟨by decide, load_click_requests_listed _ 0 (by decide)⟩

/-! ### A list response resets the selection -/

/-- No row with an id is active in the model combo, whose first row is the placeholder. -/
def ModelUnpicked (s : ConfigSection) : Prop :=
  s.modelCombo.activeId = none ∧ s.modelCombo.ids.head? = some none

theorem ModelUnpicked.of_modelCombo {s s' : ConfigSection} (h : ModelUnpicked s)
    (he : s'.modelCombo = s.modelCombo) : ModelUnpicked s' := by
  rw [ModelUnpicked, he]
  exact h

/-- No write of `fillCombos` picks a model: its only `set_active` on the model combo makes
    the placeholder active. -/
theorem ModelUnpicked.apply {configs mountTypes : JsonValue} {s : ConfigSection}
    (h : ModelUnpicked s) : ∀ op, FillOp configs mountTypes op → ModelUnpicked (op.apply s)
  | .append .model id, _ => by
    rw [ModelUnpicked, show ((Op.append .model id).apply s).modelCombo = s.modelCombo.append id from rfl,
      Combo.activeId_append, Combo.ids_append, List.head?_append, h.2]
    exact ⟨h.1, rfl⟩
  | .setActive .model _, (rfl : _ = 0) => by
    rw [ModelUnpicked, show ((Op.setActive .model 0).apply s).modelCombo = s.modelCombo.setActive 0 from
      ConfigSection.combo_changedIf _ _ .model, Combo.ids_setActive]
    exact ⟨Combo.activeId_setActive_zero h.2, h.2⟩
  | .append .mount _, _ => h.of_modelCombo rfl
  | .removeAll _, (rfl : _ = ComboName.mount) => h.of_modelCombo (ConfigSection.combo_changedIf _ _ .model)
  | .setActive .mount _, _ => h.of_modelCombo (ConfigSection.combo_changedIf _ _ .model)
  | .setAvailableConfigs _, hop => hop.elim

/-- `remove_all()` then `append_text(...)` on the model combo leave it unpicked. -/
theorem modelUnpicked_placeholder (s : ConfigSection) :
    ModelUnpicked ((Op.append .model none).apply ((Op.removeAll .model).apply s)) := by
  rw [ModelUnpicked, show ((Op.append .model none).apply ((Op.removeAll .model).apply s)).modelCombo =
    Combo.empty.append none from congrArg (·.append none) (ConfigSection.combo_changedIf _ _ .model)]
  exact ⟨rfl, rfl⟩

/-- The first seven statements of `_handle_config_list` on a `dict`, with what the body
    returns. -/
theorem handleConfigList_run_obj (fields : List (String × JsonValue)) (s : ConfigSection) :
    (handleConfigList (.obj fields)).run.run s =
      (fillCombos ((fields.lookup "available_configs").getD (.arr []))
        ((fields.lookup "mount_types").getD (.obj [])) ((fields.lookup "current").getD .null)).run.run
        ((Op.append .model none).apply ((Op.removeAll .model).apply
          ((Op.setAvailableConfigs ((fields.lookup "available_configs").getD (.arr []))).apply s))) :=
  rfl

/-- A list response on a `dict`, after any events, leaves no model picked and the load
    button insensitive, whether `_handle_config_list` returns or raises part way. -/
theorem list_response_resets_selection (pre : List SectionEvent) (data : JsonValue)
    (hdict : data.isDict = true) :
    (sectionRun .init (pre ++ [.response (.handleConfigList data)])).modelCombo.activeId = none ∧
    (sectionRun .init (pre ++ [.response (.handleConfigList data)])).loadSensitive = false := by
  obtain ⟨fields, rfl⟩ : ∃ fields, data = .obj fields := by
    cases data <;> first | exact ⟨_, rfl⟩ | cases hdict
  have hagrees := selectionAgrees_sectionRun pre
  have hfilled : SelectionAgrees ((handleConfigList (.obj fields)).exec (sectionRun .init pre)) ∧
      ModelUnpicked ((handleConfigList (.obj fields)).exec (sectionRun .init pre)) := by
    rw [SectionM.exec, handleConfigList_run_obj]
    refine @fillCombos_keeps (fun s => SelectionAgrees s ∧ ModelUnpicked s) _ _ _
      (fun op hop _ hs => ⟨hs.1.apply op, hs.2.apply op hop⟩) _ ⟨((hagrees.apply _).apply _).apply _, ?_⟩
    exact modelUnpicked_placeholder _
  obtain ⟨⟨hsens, -⟩, hmodel, -⟩ := hfilled
  rw [sectionRun_append]
  refine ⟨hmodel, Bool.eq_false_iff.mpr fun hs => ?_⟩
  obtain ⟨m, t, hm, -⟩ := hsens.1 hs
  exact absurd (hmodel.symm.trans hm) (by simp)

/-- A list response whose config is an `int`: `config["model"]` raises after `remove_all()`. -/
theorem list_response_resets_selection_raising :
    (JsonValue.obj [("available_configs", .arr [.int 1])]).isDict = true ∧
    (sectionRun .init [.response (.handleConfigList (.obj [("available_configs", .arr [.int 1])]))]
      ).modelCombo.activeId = none ∧
    (sectionRun .init [.response (.handleConfigList (.obj [("available_configs", .arr [.int 1])]))]
      ).loadSensitive = false :=
  ⟨rfl, list_response_resets_selection [] _ rfl⟩

/-- In every reachable state `_on_selection_changed` changes nothing, so that however often
    GTK emits `changed`, the section is the same. -/
theorem selection_handler_idempotent (evs : List SectionEvent) :
    (sectionRun .init evs).onSelectionChanged = sectionRun .init evs :=
  onSelectionChanged_of_agrees (selectionAgrees_sectionRun evs)

end BigSkies.App
