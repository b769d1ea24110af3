import BigSkies.App.Runtime

/-!
# The rows of the health panel

**No row is left half-updated.**  `_on_health_message` writes a row's `'status'` and then
makes four calls on the row's widgets: the status label's text, the time label's text, one
more `draw` handler on the indicator, and a redraw.  Only the first call can raise (a
`message` that is not a `str`), and everything before it that raises does so before any
call.  So over every run of the application, whatever the broker delivers, the calls on the
widgets of a row are a sequence of whole updates (`health_rows_update_whole`): the status
label and the indicator always show the same message's text and status.

The same sequence counts the indicator's `draw` handlers: `_create_health_row` connects one,
and every whole update one more, none of them ever disconnected.  GTK runs them in the order
they were connected, each filling the same circle, so the colour shown is the last
update's.  The row's `'status'`, by contrast, is written before the call that may raise, so
it can run ahead of what the row shows; no code reads it.
-/

namespace BigSkies.App

open BigSkies.Json BigSkies.Topic BigSkies.Client BigSkies.Widgets

/-- The widget a GTK call is made on. -/
def callWidget : GtkCall → String
  | .queueDraw w | .setLabel w _ | .setText w _ | .setMarkup w _ | .setTextFixed2 w _
  | .connectDraw w _ => w

/-- The widgets of the row of `coordId` that `_on_health_message` calls. -/
def rowWidgets (coordId : String) : List String :=
  [coordId ++ ".status_label", coordId ++ ".time_label", coordId ++ ".indicator"]

/-- The calls made on the row of `coordId`, in order. -/
def rowCalls (coordId : String) (calls : List GtkCall) : List GtkCall :=
  calls.filter fun call => callWidget call ∈ rowWidgets coordId

/-- The calls of a whole update of the row of `coordId` with the message `u.1`, at the time
    `u.2.1`, to the status `u.2.2` (health_panel.py:148-153). -/
def rowUpdate (coordId : String) (u : String × String × String) : List GtkCall :=
  [.setText (coordId ++ ".status_label") u.1, .setText (coordId ++ ".time_label") u.2.1,
   .connectDraw (coordId ++ ".indicator") u.2.2, .queueDraw (coordId ++ ".indicator")]

theorem rowCalls_append (coordId : String) (calls calls' : List GtkCall) :
    rowCalls coordId (calls ++ calls') = rowCalls coordId calls ++ rowCalls coordId calls' :=
  List.filter_append _ _

theorem rowCalls_rowUpdate_self (coordId : String) (u : String × String × String) :
    rowCalls coordId (rowUpdate coordId u) = rowUpdate coordId u := by
  simp [rowCalls, rowUpdate, rowWidgets, callWidget]

/-- The rows of two coordinators share no widget. -/
theorem rowWidgets_disjoint :
    ∀ c ∈ coordinators, ∀ c' ∈ coordinators, c ≠ c' → ∀ x ∈ rowWidgets c', x ∉ rowWidgets c := by
  decide

theorem rowCalls_rowUpdate_of_ne {c c' : String} (hc : c ∈ coordinators) (hc' : c' ∈ coordinators)
    (hne : c ≠ c') (u : String × String × String) : rowCalls c (rowUpdate c' u) = [] :=
  List.filter_eq_nil_iff.2 fun call hcall => by
    have hw : callWidget call ∈ rowWidgets c' := by
      simp only [rowUpdate, List.mem_cons, List.mem_singleton, List.not_mem_nil, or_false] at hcall
      rcases hcall with rfl | rfl | rfl | rfl <;> simp [callWidget, rowWidgets]
    simpa using rowWidgets_disjoint c hc c' hc' hne _ hw

/-- `updateRow` makes no call, or the calls of a whole update of a known coordinator's row. -/
theorem updateRow_calls (lower : String → String) (now coordId : String) (payload : JsonValue)
    (w : HealthPanel) :
    ((HealthPanel.updateRow lower now coordId payload).exec w).2.2 = [] ∨
    coordId ∈ w.statuses.map Prod.fst ∧ ∃ message status,
      ((HealthPanel.updateRow lower now coordId payload).exec w).2.2 =
        rowUpdate coordId (message, now, status) := by
  simp only [HealthPanel.updateRow, PyM.exec, PyM.run_bind, PyM.run_get]
  split_ifs with hk
  · cases payload.get "payload" (.obj []) with
    | error e => exact .inl rfl
    | ok sp =>
      simp only [PyM.run_bind, PyM.run_eval]
      cases sp.get "status" (.str "unknown") >>= lowerArg lower with
      | error e => exact .inl rfl
      | ok status =>
        simp only [PyM.run_bind, PyM.run_eval]
        cases sp.get "message" (.str "No message") with
        | error e => exact .inl rfl
        | ok message =>
          simp only [PyM.run_bind, PyM.run_eval, PyM.run_setAttr]
          cases strArg message with
          | error e => exact .inl rfl
          | ok text => exact .inr ⟨hk, text, status, by simp [rowUpdate]⟩
  · exact .inl rfl

/-- A source leaves the health panel's calls alone, or adds a whole update of a row. -/
theorem Ui.healthCalls_dispatch (lower : String → String) (now : String) (ui : Ui) (src : Source) :
    (ui.dispatch lower now src).1.health.calls = ui.health.calls ∨
    ∃ c ∈ ui.health.attrs.statuses.map Prod.fst, ∃ u,
      (ui.dispatch lower now src).1.health.calls = ui.health.calls ++ rowUpdate c u := by
  cases src with
  | handler h topic payload =>
    cases h with
    | healthMessage =>
      simp only [Ui.dispatch, Panel.apply, HealthPanel.onHealthMessage]
      split
      · rename_i c _
        rcases updateRow_calls lower now c payload ui.health.attrs with h | ⟨hk, message, status, h⟩
        · rw [h, List.append_nil]
          exact .inl rfl
        · rw [h]
          exact .inr ⟨c, hk, _, rfl⟩
      · exact .inl (List.append_nil _)
    | controlConfigResponse => simp only [Ui.dispatch]; split <;> exact .inl rfl
    | _ => exact .inl rfl
  | callback c => cases c <;> exact .inl rfl

/-- The calls on every coordinator's row are a sequence of whole updates. -/
def RowsWhole (calls : List GtkCall) : Prop :=
  ∀ c ∈ coordinators, ∃ us : List (String × String × String),
    rowCalls c calls = us.flatMap (rowUpdate c)

theorem RowsWhole.append_rowUpdate {calls : List GtkCall} (h : RowsWhole calls) {c' : String}
    (hc' : c' ∈ coordinators) (u : String × String × String) :
    RowsWhole (calls ++ rowUpdate c' u) := by
  intro c hc
  obtain ⟨us, hus⟩ := h c hc
  rw [rowCalls_append, hus]
  by_cases hne : c = c'
  · subst hne
    exact ⟨us ++ [u], by rw [rowCalls_rowUpdate_self, List.flatMap_append, List.flatMap_singleton]⟩
  · exact ⟨us, by rw [rowCalls_rowUpdate_of_ne hc hc' hne, List.append_nil]⟩

/-- **No row is left half-updated.**  Over every run of the application, whatever the
    broker delivers and whatever the handlers raise, the calls on the widgets of a
    coordinator's row are a sequence of whole updates: each message sets the status label,
    the time label and one more `draw` handler of the indicator together, or none of them. -/
theorem health_rows_update_whole (lower : String → String) (host : String)
    (evs : List LoopEvent) (c : String) (hc : c ∈ coordinators) :
    ∃ us : List (String × String × String),
      rowCalls c (loopRun lower (MainLoop.init host) evs).ui.health.calls =
        us.flatMap (rowUpdate c) := by
  refine (loopRun_invariant lower (MainLoop.init host)
    (fun m => m.ui.health.attrs.statuses.map Prod.fst = coordinators ∧ RowsWhole m.ui.health.calls)
    (fun _ => True) (fun m e _ h => ?_) evs (fun _ _ => trivial)
    ⟨healthKeys_init, fun _ _ => ⟨[], rfl⟩⟩).2 c hc
  rw [loopStep.eq_def]
  cases e with
  | call e => exact h
  | idle now =>
    dsimp only
    split
    · exact h
    · rename_i src _ _
      refine ⟨(Ui.healthKeys_dispatch lower now m.ui src).trans h.1, ?_⟩
      rcases Ui.healthCalls_dispatch lower now m.ui src with hcalls | ⟨c', hc', u, hcalls⟩
      · exact hcalls ▸ h.2
      · rw [hcalls]
        exact h.2.append_rowUpdate (h.1 ▸ hc') u

/-- The row of the message coordinator after `startup`, a health message on its topic and
    the main-loop iteration that runs the handler. -/
theorem health_rows_update_whole_message :
    let payload : JsonValue :=
      .obj [("payload", .obj [("status", .str "HEALTHY"), ("message", .str "ok")])]
    let evs : List LoopEvent := (startup 0).map .call ++
      [.call (.onMessage "bigskies/coordinator/message/health/status" (encodeUtf8 (dumps payload).data)),
       .idle "12:00:00"]
    "message-coordinator" ∈ coordinators ∧
    ∃ us : List (String × String × String),
      rowCalls "message-coordinator"
          (loopRun String.toLower (MainLoop.init "localhost") evs).ui.health.calls =
        us.flatMap (rowUpdate "message-coordinator") :=
  ⟨by decide, health_rows_update_whole String.toLower "localhost" _ _ (by decide)⟩

end BigSkies.App
