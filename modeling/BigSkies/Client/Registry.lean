import Mathlib.Data.List.Nodup

/-!
# The handler registry `message_handlers`

`BigSkiesMQTTClient.message_handlers` (client.py:35) is a Python `dict` from a subscription
pattern to the list of callbacks registered for it.  A `dict` keeps its keys distinct and
in insertion order, so it is modelled as an association list whose keys carry their
`Nodup` proof: a registry with a repeated pattern cannot be built.

The two operations the client performs are `d[k] = v` (`setItem`, which appends a new key
at the end and overwrites an existing one in place) and `d[k].append(x)` (`append`); both
keep the keys distinct, and `append` leaves them as they are.
-/

namespace BigSkies.Client

/-- An insertion-ordered `dict` from pattern to handler list. -/
structure Registry (H : Type) where
  entries : List (String × List H)
  nodup : (entries.map Prod.fst).Nodup

namespace Registry

variable {H : Type}

/-- `{}`. -/
def empty : Registry H := ⟨[], List.nodup_nil⟩

/-- `d.keys()`, in insertion order. -/
def keys (r : Registry H) : List String := r.entries.map Prod.fst

/-- `d.get(k, [])`: the handlers registered under `k`. -/
def handlers (r : Registry H) (k : String) : List H := (r.entries.lookup k).getD []

/-- Rewrite the value stored under `k` in place. -/
def modify (r : Registry H) (k : String) (f : List H → List H) : Registry H :=
  ⟨r.entries.map fun e => if e.1 = k then (e.1, f e.2) else e, by
    have : (r.entries.map fun e => if e.1 = k then (e.1, f e.2) else e).map Prod.fst =
        r.entries.map Prod.fst := by
      simp only [List.map_map]
      exact List.map_congr_left fun e _ => by by_cases h : e.1 = k <;> simp [h]
    exact this ▸ r.nodup⟩

/-- `d[k] = v`: overwrite in place when `k` is a key, else append the entry at the end. -/
def setItem (r : Registry H) (k : String) (v : List H) : Registry H :=
  if hk : k ∈ r.keys then r.modify k fun _ => v
  else ⟨r.entries ++ [(k, v)], by
    rw [List.map_append, List.nodup_append]
    exact ⟨r.nodup, List.nodup_singleton _, List.disjoint_singleton.2 hk⟩⟩

/-- `d[k].append(x)` on a key `k` of `d`. -/
def append (r : Registry H) (k : String) (x : H) : Registry H := r.modify k (· ++ [x])

/-! ### Keys -/

@[simp] theorem keys_empty : (empty : Registry H).keys = [] := rfl

@[simp] theorem keys_modify (r : Registry H) (k : String) (f : List H → List H) :
    (r.modify k f).keys = r.keys := by
  simp only [keys, modify, List.map_map]
  exact List.map_congr_left fun e _ => by by_cases h : e.1 = k <;> simp [h]

@[simp] theorem keys_append (r : Registry H) (k : String) (x : H) :
    (r.append k x).keys = r.keys := keys_modify r k _

theorem keys_setItem (r : Registry H) (k : String) (v : List H) :
    (r.setItem k v).keys = if k ∈ r.keys then r.keys else r.keys ++ [k] := by
  unfold setItem
  split_ifs with h
  · exact keys_modify r k _
  · simp [keys]

theorem keys_nodup (r : Registry H) : r.keys.Nodup := r.nodup

/-! ### Handlers -/

@[simp] theorem handlers_empty (k : String) : (empty : Registry H).handlers k = [] := rfl

/-- In a `dict`, the list stored with a key is the one lookup returns. -/
theorem handlers_of_mem {r : Registry H} {k : String} {v : List H} (h : (k, v) ∈ r.entries) :
    r.handlers k = v := by
  obtain ⟨entries, nodup⟩ := r
  simp only [handlers]
  induction entries with
  | nil => simp at h
  | cons e rest ih =>
    obtain ⟨k', v'⟩ := e
    simp only [List.map_cons, List.nodup_cons] at nodup
    rcases List.mem_cons.1 h with h | h
    · simp_all
    · have hk : k ≠ k' := fun hk => nodup.1 (hk ▸ List.mem_map_of_mem Prod.fst h)
      simp [List.lookup_cons, beq_false_of_ne hk, ih nodup.2 h]

theorem handlers_of_not_mem_keys {r : Registry H} {k : String} (h : k ∉ r.keys) :
    r.handlers k = [] := by
  have : r.entries.lookup k = none := by
    simp only [List.lookup_eq_none_iff, bne_iff_ne]
    exact fun e he hk => h (hk ▸ List.mem_map_of_mem Prod.fst he)
  simp [handlers, this]

theorem mem_entries_of_mem_keys {r : Registry H} {k : String} (h : k ∈ r.keys) :
    (k, r.handlers k) ∈ r.entries := by
  obtain ⟨⟨k', v⟩, hv, rfl⟩ := List.mem_map.1 h
  rwa [handlers_of_mem hv]

theorem handlers_modify (r : Registry H) (k k' : String) (f : List H → List H)
    (hk : k ∈ r.keys) :
    (r.modify k f).handlers k' = if k' = k then f (r.handlers k) else r.handlers k' := by
  by_cases hk' : k' = k
  · subst hk'
    rw [if_pos rfl]
    exact handlers_of_mem (v := f (r.handlers k'))
      (List.mem_map.2 ⟨_, mem_entries_of_mem_keys hk, by simp⟩)
  · rw [if_neg hk']
    by_cases hmem : k' ∈ r.keys
    · exact handlers_of_mem (v := r.handlers k')
        (List.mem_map.2 ⟨_, mem_entries_of_mem_keys hmem, by simp [hk']⟩)
    · rw [handlers_of_not_mem_keys (by simpa using hmem), handlers_of_not_mem_keys hmem]

theorem handlers_append (r : Registry H) (k k' : String) (x : H) (hk : k ∈ r.keys) :
    (r.append k x).handlers k' = r.handlers k' ++ if k' = k then [x] else [] := by
  rw [append, handlers_modify r k k' _ hk]
  split_ifs with h <;> simp [h]

theorem handlers_setItem_nil (r : Registry H) (k k' : String) (hk : k ∉ r.keys) :
    (r.setItem k []).handlers k' = r.handlers k' := by
  have hnew : (r.setItem k []).entries = r.entries ++ [(k, [])] := by simp [setItem, hk]
  by_cases hk' : k' = k
  · subst hk'
    rw [handlers_of_mem (v := []) (by simp [hnew]), handlers_of_not_mem_keys hk]
  · by_cases hmem : k' ∈ r.keys
    · rw [handlers_of_mem (v := r.handlers k') (by simp [hnew, mem_entries_of_mem_keys hmem])]
    · have : k' ∉ (r.setItem k []).keys := by simp [keys_setItem, hk, hmem, hk']
      rw [handlers_of_not_mem_keys this, handlers_of_not_mem_keys hmem]

theorem mem_keys_setItem (r : Registry H) (k : String) (v : List H) : k ∈ (r.setItem k v).keys := by
  rw [keys_setItem]; split_ifs <;> simp_all

end Registry

end BigSkies.Client
