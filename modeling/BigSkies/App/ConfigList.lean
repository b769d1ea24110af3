import BigSkies.App.Configuration

/-!
# What a list response leaves in the combos

**The combos show the latest list.**  `_handle_config_list` reads the plugin's
`list_configs` response and refills both combos.  It can raise part way: on a `data` that
is not a `dict`, a config without `"model"` or `"description"`, a `model` that is neither a
`str` nor `None`, `mount_types` without `items()`, or a `current` config without its keys.
`listedRows` reads the same response as a pure function: the configs the handler stores and
the rows it lists, or the exception it raises.  This module proves that the handler
computes it:

* `handleConfigList_result`: from any state the handler returns exactly when `listedRows`
  accepts the response, and otherwise raises the exception `listedRows` names;
* `handleConfigList_of_listedRows`: when it returns, each combo holds its placeholder and
  then the rows `listedRows` lists, in order;

both halves of `handleConfigList_run`, which follows the handler statement by statement;

and, over every run of the section (`RowsLatest`),

* `load_requests_name_latest_list`: if `listedRows` accepts the latest list response, the
  combos hold exactly its rows and every load request names one of its models and one of
  its mount types, whatever the responses before it were.

A response that raises keeps what was written before the exception
(`bad_config_keeps_mount_rows`).  After a bad config the model combo holds the rows of the
configs before it, and the mount combo still holds the previous response's rows, so the
hypothesis on the latest response is needed.
-/

namespace BigSkies.App

open BigSkies.Json BigSkies.Client BigSkies.Widgets SectionM

/-! ### The response read as a function -/

/-- The id `_handle_config_list` gives the row of `config` (control_panel.py:334-336), or
    what it raises. -/
def configId (config : JsonValue) : Except PyException (Option String) := do
  let model ← subscript config "model"
  let _description ← subscript config "description"
  comboId model

/-- What `_handle_config_list data` does, read as a function: the `available_configs` it
    stores, the ids of the model rows and the mount types it lists, in order, or the
    exception it raises (control_panel.py:320-352).  An id is the C string GTK keeps, cut at
    its first NUL (`cString`). -/
def listedRows (data : JsonValue) :
    Except PyException (JsonValue × List (Option String) × List String) := do
  let configs ← (data.get "available_configs" (.arr [])).mapError .error
  let _models ← (data.get "models" (.obj [])).mapError .error
  let mountTypes ← (data.get "mount_types" (.obj [])).mapError .error
  let current ← (data.get "current" .null).mapError .error
  let ids ← (← pyIter configs).mapM configId
  let fields ← pyItems mountTypes
  if current.truthy then
    let _ ← subscript current "model"
    let _ ← subscript current "mount_type"
  return (configs, ids, fields.map (cString ·.1))

/-! ### Running the bodies -/

@[simp] theorem SectionM.run_eval {α : Type} (x : Except PyException α) (s : ConfigSection) :
    (eval x).run.run s = (x, s) := by
  cases x <;> rfl

@[simp] theorem SectionM.run_perform (op : Op) (s : ConfigSection) :
    (perform op).run.run s = (.ok (), op.apply s) := rfl

theorem SectionM.eval_bind {α β : Type} (x : Except PyException α) (f : α → Except PyException β) :
    eval (x >>= f) = eval x >>= fun a => eval (f a) := by
  cases x <;> rfl

namespace Op

variable (s : ConfigSection) (w : ComboName)

@[simp] theorem ids_setAvailableConfigs (configs : JsonValue) :
    (((setAvailableConfigs configs).apply s).combo w).ids = (s.combo w).ids := by
  cases w <;> rfl

@[simp] theorem ids_removeAll (w' : ComboName) :
    (((removeAll w').apply s).combo w).ids = if w' = w then [] else (s.combo w).ids := by
  rw [apply, ConfigSection.combo_changedIf]
  split_ifs with h
  · subst h; rw [ConfigSection.combo_setCombo]; rfl
  · rw [ConfigSection.combo_setCombo_of_ne _ h]

@[simp] theorem ids_append (w' : ComboName) (id : Option String) :
    (((append w' id).apply s).combo w).ids =
      if w' = w then (s.combo w).ids ++ [id] else (s.combo w).ids := by
  rw [apply]
  split_ifs with h
  · subst h; rw [ConfigSection.combo_setCombo, Combo.ids_append]
  · rw [ConfigSection.combo_setCombo_of_ne _ h]

@[simp] theorem ids_setActive (w' : ComboName) (row : Nat) :
    (((setActive w' row).apply s).combo w).ids = (s.combo w).ids := by
  rw [apply, ConfigSection.combo_changedIf]
  by_cases h : w' = w
  · subst h; rw [ConfigSection.combo_setCombo, Combo.ids_setActive]
  · rw [ConfigSection.combo_setCombo_of_ne _ h]

end Op

/-- The row of one config: raise what `configId` raises, or append the row. -/
theorem appendConfig_eq (config : JsonValue) :
    appendConfig config = eval (configId config) >>= fun id => perform (.append .model id) := by
  simp only [appendConfig, configId, SectionM.eval_bind, bind_assoc]

/-- The loop over the configs appends a model row per config when every config has an id. -/
theorem run_forM_appendConfig : ∀ {configs : List JsonValue} {ids : List (Option String)},
    configs.mapM configId = .ok ids → ∀ s : ConfigSection, ∃ s',
      (configs.forM appendConfig).run.run s = (.ok (), s') ∧
      (s'.combo .model).ids = (s.combo .model).ids ++ ids ∧
      (s'.combo .mount).ids = (s.combo .mount).ids
  | [], ids, h, s => by
    cases h
    exact ⟨s, rfl, (List.append_nil _).symm, rfl⟩
  | config :: configs, ids, h, s => by
    rw [List.mapM_cons] at h
    cases hc : configId config with
    | error e => rw [hc] at h; cases h
    | ok id =>
      cases hr : configs.mapM configId with
      | error e => rw [hc, hr] at h; cases h
      | ok rest =>
        rw [hc, hr] at h
        cases h
        obtain ⟨s', hrun, hmodel, hmount⟩ := run_forM_appendConfig hr ((Op.append .model id).apply s)
        refine ⟨s', ?_, by simp [hmodel], by simp [hmount]⟩
        rw [List.forM_cons', SectionM.run_bind, appendConfig_eq, SectionM.run_bind,
          SectionM.run_eval, hc]
        exact hrun

/-- The loop over the configs raises the first exception of a config. -/
theorem run_forM_appendConfig_error : ∀ {configs : List JsonValue} {e : PyException},
    configs.mapM configId = .error e → ∀ s : ConfigSection,
      ((configs.forM appendConfig).run.run s).1 = .error e
  | [], e, h, s => by cases h
  | config :: configs, e, h, s => by
    rw [List.mapM_cons] at h
    rw [List.forM_cons', SectionM.run_bind, appendConfig_eq, SectionM.run_bind, SectionM.run_eval]
    cases hc : configId config with
    | error e' => rw [hc] at h; cases h; rfl
    | ok id =>
      cases hr : configs.mapM configId with
      | error e' => rw [hc, hr] at h; cases h; exact run_forM_appendConfig_error hr _
      | ok rest => rw [hc, hr] at h; cases h

/-- The loop over the mount types appends a mount row per key. -/
theorem run_forM_appendMountType : ∀ (fields : List (String × JsonValue)) (s : ConfigSection), ∃ s',
      (fields.forM appendMountType).run.run s = (.ok (), s') ∧
      (s'.combo .mount).ids = (s.combo .mount).ids ++ fields.map (some <| cString ·.1) ∧
      (s'.combo .model).ids = (s.combo .model).ids
  | [], s => ⟨s, rfl, (List.append_nil _).symm, rfl⟩
  | field :: fields, s => by
    obtain ⟨s', hrun, hmount, hmodel⟩ :=
      run_forM_appendMountType fields ((Op.append .mount (some (cString field.1))).apply s)
    refine ⟨s', ?_, by simp [hmount], by simp [hmodel]⟩
    rw [List.forM_cons', SectionM.run_bind]
    exact hrun

/-! ### The handler computes `listedRows` -/

/-- `_handle_config_list` runs as `listedRows` reads the response: it returns or raises as
    `listedRows` says, and when it returns each combo holds its placeholder and then the
    rows `listedRows` lists, in order. -/
theorem handleConfigList_run (data : JsonValue) (s : ConfigSection) :
    ((handleConfigList data).run.run s).1 = (listedRows data).map (fun _ => ()) ∧
    ∀ configs models mounts, listedRows data = .ok (configs, models, mounts) →
      (((handleConfigList data).exec s).combo .model).ids = none :: models ∧
      (((handleConfigList data).exec s).combo .mount).ids = none :: mounts.map some := by
  cases data with
  | obj fields =>
    rw [SectionM.exec, handleConfigList_run_obj]
    simp only [listedRows, JsonValue.get, Except.mapError, bind, Except.bind]
    generalize (fields.lookup "available_configs").getD (.arr []) = c
    generalize (fields.lookup "mount_types").getD (.obj []) = m
    generalize (fields.lookup "current").getD .null = current
    have h0 : (((Op.append .model none).apply ((Op.removeAll .model).apply
        ((Op.setAvailableConfigs c).apply s))).combo .model).ids = [none] := by simp
    generalize (Op.append .model none).apply _ = s0 at h0 ⊢
    cases hi : pyIter c with
    | error e =>
      simp only [fillCombos, SectionM.run_bind, SectionM.run_eval, hi]
      exact ⟨rfl, fun _ _ _ h => nomatch h⟩
    | ok items =>
      simp only [fillCombos, SectionM.run_bind, SectionM.run_eval, hi]
      cases hids : items.mapM configId with
      | error e =>
        rw [show (items.forM appendConfig).run.run s0 = (.error e, _) from
          Prod.ext (run_forM_appendConfig_error hids s0) rfl]
        exact ⟨rfl, fun _ _ _ h => nomatch h⟩
      | ok ids =>
        obtain ⟨s1, hrun1, hmodel1, -⟩ := run_forM_appendConfig hids s0
        simp only [hrun1, SectionM.run_perform]
        cases pyItems m with
        | error e => exact ⟨rfl, fun _ _ _ h => nomatch h⟩
        | ok fields =>
          obtain ⟨s2, hrun2, hmount2, hmodel2⟩ := run_forM_appendMountType fields
            ((Op.append .mount none).apply ((Op.removeAll .mount).apply s1))
          have hrows : ∀ configs models mounts, Except.ok (c, ids, fields.map (cString ·.1)) =
              (.ok (configs, models, mounts) : Except PyException _) →
              (((Op.setActive .mount 0).apply ((Op.setActive .model 0).apply s2)).combo .model).ids =
                none :: models ∧
              (((Op.setActive .mount 0).apply ((Op.setActive .model 0).apply s2)).combo .mount).ids =
                none :: mounts.map some := by
            rintro _ _ _ ⟨⟩
            simp [hmodel2, hmodel1, h0, hmount2]
          simp only [hrun2, SectionM.run_perform]
          cases current.truthy
          · exact ⟨rfl, hrows⟩
          · simp only [if_true, SectionM.run_bind, SectionM.run_eval]
            cases subscript current "model" <;> cases subscript current "mount_type" <;>
              first | exact ⟨rfl, hrows⟩ | exact ⟨rfl, fun _ _ _ h => nomatch h⟩
  | _ => exact ⟨rfl, fun _ _ _ h => nomatch h⟩

/-- When `listedRows` accepts a response, `_handle_config_list` leaves in each combo its
    placeholder and then the rows `listedRows` lists, in order. -/
theorem handleConfigList_of_listedRows {data configs : JsonValue} {models : List (Option String)}
    {mounts : List String} (h : listedRows data = .ok (configs, models, mounts)) (s : ConfigSection) :
    (((handleConfigList data).exec s).combo .model).ids = none :: models ∧
    (((handleConfigList data).exec s).combo .mount).ids = none :: mounts.map some :=
  (handleConfigList_run data s).2 configs models mounts h

/-- **The handler raises what `listedRows` raises.**  From any state, `_handle_config_list`
    returns exactly when `listedRows` accepts the response, and otherwise raises the
    exception `listedRows` names: the first one, in the order of the source's statements. -/
theorem handleConfigList_result (data : JsonValue) (s : ConfigSection) :
    ((handleConfigList data).run.run s).1 = (listedRows data).map fun _ => () :=
  (handleConfigList_run data s).1

/-- A config without a description: `config["description"]` raises before the row is
    appended. -/
example : ((handleConfigList (.obj [("available_configs", .arr [.obj [("model", .str "s30")]])])
    ).run.run .init).1 = .error (.keyError "description") := rfl

/-- `appendConfig` writes only the model combo. -/
theorem appendConfig_keeps_mountCombo (config : JsonValue) (c : Combo) :
    Keeps (fun t => t.mountCombo = c) (appendConfig config) := by
  rw [appendConfig_eq]
  exact Keeps.eval_bind fun _ _ => Keeps.modify fun _ h => h

/-- **A bad config keeps the old mount rows.**  When the configs of a list response iterate
    but one of them raises (it is no `dict`, lacks `"model"` or `"description"`, or its
    `model` is neither a `str` nor `None`), `_handle_config_list` raises that exception
    before `mount_combo.remove_all()`: the mount combo keeps the rows and the active row of
    the response before, next to a model combo refilled only in part. -/
theorem bad_config_keeps_mount_rows {data configs : JsonValue} {items : List JsonValue}
    {e : PyException} (hdata : data.get "available_configs" (.arr []) = .ok configs)
    (hitems : pyIter configs = .ok items) (hbad : items.mapM configId = .error e)
    (s : ConfigSection) :
    ((handleConfigList data).run.run s).1 = .error e ∧
    ((handleConfigList data).exec s).mountCombo = s.mountCombo := by
  obtain ⟨fields, rfl⟩ : ∃ fields, data = .obj fields := by
    cases data <;> first | exact ⟨_, rfl⟩ | cases hdata
  cases hdata
  rw [SectionM.exec, handleConfigList_run_obj]
  generalize hs0 : (Op.append .model none).apply _ = s0
  have h0 : s0.mountCombo = s.mountCombo := hs0 ▸ ConfigSection.combo_changedIf _ _ .mount
  obtain ⟨s1, hrun⟩ : ∃ s1, (items.forM appendConfig).run.run s0 = (.error e, s1) :=
    ⟨_, Prod.ext (run_forM_appendConfig_error hbad s0) rfl⟩
  have h1 := @Keeps.forM _ _ items _
    (fun config _ => appendConfig_keeps_mountCombo config s0.mountCombo) s0 rfl
  rw [hrun] at h1
  simp only [fillCombos, SectionM.run_bind, SectionM.run_eval, hitems, hrun, true_and]
  exact h1.trans h0

/-- The S50's list with a config without a description, after a list with an Alt-Az mount:
    the handler raises `KeyError('description')` and the Alt-Az row stays. -/
theorem bad_config_keeps_mount_rows_s50 :
    let s := sectionRun .init [.response (.handleConfigList (.obj
      [("available_configs", .arr [.obj [("model", .str "s30"), ("description", .str "Seestar S30")]]),
       ("mount_types", .obj [("altaz", .str "Alt-Az")])]))]
    let data : JsonValue := .obj [("available_configs", .arr [.obj [("model", .str "s50")]]),
      ("mount_types", .obj [("equatorial", .str "Equatorial")])]
    data.get "available_configs" (.arr []) = .ok (.arr [.obj [("model", .str "s50")]]) ∧
    pyIter (.arr [.obj [("model", .str "s50")]]) = .ok [.obj [("model", .str "s50")]] ∧
    [JsonValue.obj [("model", .str "s50")]].mapM configId = .error (.keyError "description") ∧
    ((handleConfigList data).run.run s).1 = .error (.keyError "description") ∧
    ((handleConfigList data).exec s).mountCombo = s.mountCombo :=
  ⟨rfl, rfl, rfl, bad_config_keeps_mount_rows (by rfl) (by rfl) (by rfl) _⟩

/-! ### The rows of the latest list response -/

/-- The rows of both combos after the latest list response `last`: if `listedRows` accepts
    it, the placeholder and then the rows it lists; before any list response, the
    placeholder alone. -/
def RowsLatest : Option JsonValue → ConfigSection → Prop
  | some data, s => ∀ configs models mounts, listedRows data = .ok (configs, models, mounts) →
      (s.combo .model).ids = none :: models ∧ (s.combo .mount).ids = none :: mounts.map some
  | none, s => (s.combo .model).ids = [none] ∧ (s.combo .mount).ids = [none]

theorem RowsLatest.of_ids {last : Option JsonValue} {s s' : ConfigSection} (h : RowsLatest last s)
    (hids : ∀ w, (s'.combo w).ids = (s.combo w).ids) : RowsLatest last s' := by
  cases last <;> simpa only [RowsLatest, hids] using h

/-- A list response sets the rows; no other event changes them. -/
theorem RowsLatest.sectionStep {last : Option JsonValue} {s : ConfigSection} (h : RowsLatest last s) :
    ∀ e, RowsLatest ((listResponses [e]).getLast?.or last) (sectionStep s e).1
  | .response (.handleConfigList _) => fun _ _ _ hrows => handleConfigList_of_listedRows hrows s
  | .response (.handleConfigLoaded data) =>
    h.of_ids (@handleConfigLoaded_keeps (fun t => ∀ w, (t.combo w).ids = (s.combo w).ids) data
      (fun _ _ ht w => by cases w; exacts [ht .model, ht .mount]) s fun _ => rfl)
  | .pick w row => h.of_ids fun w' => Op.ids_setActive s w' w row
  | .response .ignore | .clickLoad _ | .clickRefresh _ | .clickConnect => h

theorem RowsLatest.sectionRun {last : Option JsonValue} {s : ConfigSection} (h : RowsLatest last s)
    (evs : List SectionEvent) : RowsLatest ((listResponses evs).getLast?.or last) (sectionRun s evs) := by
  induction evs generalizing s last with
  | nil => exact h
  | cons e evs ih =>
    rw [show listResponses (e :: evs) = listResponses [e] ++ listResponses evs from
      List.filterMap_append [e] evs _, List.getLast?_append, Option.or_assoc]
    exact ih (h.sectionStep e)

theorem rowsLatest_sectionRun (evs : List SectionEvent) :
    RowsLatest (listResponses evs).getLast? (sectionRun .init evs) := by
  simpa only [Option.or_none] using (show RowsLatest none .init from ⟨rfl, rfl⟩).sectionRun evs

/-- A load request from a state that shows the rows of `data` and whose button agrees with
    its selection names rows that `listedRows data` lists. -/
theorem rows_of_loadRequest {data : JsonValue} {s : ConfigSection} (h : RowsLatest (some data) s)
    (hagrees : SelectionAgrees s) {configs : JsonValue} {models : List (Option String)}
    {mounts : List String} (hrows : listedRows data = .ok (configs, models, mounts))
    {e : SectionEvent} {model mountType : String} {ms : Nat}
    (hreq : loadRequest model mountType ms ∈ (sectionStep s e).2) :
    some model ∈ models ∧ mountType ∈ mounts := by
  obtain ⟨hm, ht⟩ := activeIds_of_loadRequest hagrees hreq
  obtain ⟨hmodel, hmount⟩ := h configs models mounts hrows
  have hm' := Combo.activeId_mem hm
  have ht' := Combo.activeId_mem ht
  rw [show s.modelCombo.ids = none :: models from hmodel] at hm'
  rw [show s.mountCombo.ids = none :: mounts.map some from hmount] at ht'
  exact ⟨by simpa using hm', by simpa using ht'⟩

/-- **Load requests name the latest list.**  After any events, if `listedRows` accepts the
    latest list response, each combo holds its placeholder and then exactly the rows that
    response lists, in order, and every load request an event publishes names one of its
    models and one of its mount types: no row of an earlier response survives it. -/
theorem load_requests_name_latest_list (pre : List SectionEvent) (e : SectionEvent)
    {data configs : JsonValue} {models : List (Option String)} {mounts : List String}
    (hlast : (listResponses pre).getLast? = some data)
    (hrows : listedRows data = .ok (configs, models, mounts)) :
    ((sectionRun .init pre).combo .model).ids = none :: models ∧
    ((sectionRun .init pre).combo .mount).ids = none :: mounts.map some ∧
    ∀ {model mountType : String} {ms : Nat},
      loadRequest model mountType ms ∈ (sectionStep (sectionRun .init pre) e).2 →
      some model ∈ models ∧ mountType ∈ mounts := by
  have hlatest : RowsLatest (some data) (sectionRun .init pre) := hlast ▸ rowsLatest_sectionRun pre
  obtain ⟨hmodel, hmount⟩ := hlatest configs models mounts hrows
  exact ⟨hmodel, hmount, fun hreq =>
    rows_of_loadRequest hlatest (selectionAgrees_sectionRun pre) hrows hreq⟩

/-- The S30's list, then the S50's, then a pick in each combo: the click requests the S50 on
    an equatorial mount, the rows of the latest list. -/
theorem load_requests_name_latest_list_s50 :
    let config (model name : String) : JsonValue :=
      .arr [.obj [("model", .str model), ("description", .str name)]]
    let s30 : JsonValue := .obj [("available_configs", config "s30" "Seestar S30"),
      ("mount_types", .obj [("altaz", .str "Alt-Az")])]
    let s50 : JsonValue := .obj [("available_configs", config "s50" "Seestar S50"),
      ("mount_types", .obj [("equatorial", .str "Equatorial")])]
    let pre : List SectionEvent :=
      [.response (.handleConfigList s30), .response (.handleConfigList s50), .pick .model 1,
       .pick .mount 1]
    (listResponses pre).getLast? = some s50 ∧
    listedRows s50 = .ok (config "s50" "Seestar S50", [some "s50"], ["equatorial"]) ∧
    loadRequest "s50" "equatorial" 0 ∈ (sectionStep (sectionRun .init pre) (.clickLoad 0)).2 ∧
    ((sectionRun .init pre).combo .model).ids = [none, some "s50"] ∧
    ((sectionRun .init pre).combo .mount).ids = [none, some "equatorial"] ∧
    some "s50" ∈ [some "s50"] ∧ "equatorial" ∈ ["equatorial"] := by
  intro config s30 s50 pre
  have hreq : loadRequest "s50" "equatorial" 0 ∈ (sectionStep (sectionRun .init pre) (.clickLoad 0)).2 := by
    rw [@sectionStep_clickLoad _ (selectionAgrees_sectionRun pre) (by decide) "s50" "equatorial"
      (by decide) (by decide)]
    exact List.mem_singleton_self _
  obtain ⟨hmodel, hmount, hname⟩ := load_requests_name_latest_list pre (.clickLoad 0) rfl rfl
  exact ⟨rfl, rfl, hreq, hmodel, hmount, hname hreq⟩

end BigSkies.App
