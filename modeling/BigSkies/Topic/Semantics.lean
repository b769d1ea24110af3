import BigSkies.Topic.Matcher

/-!
# What `_topic_matches` computes

The MQTT reading of a subscription pattern, on segment lists: `+` binds exactly one topic
segment (an empty one included), a `#` standing last binds any tail of the topic (the empty
tail included), and every other segment must equal the topic segment at its position.
`MqttMatch` states this as an inductive relation.

The main result, `topicMatches_iff_mqttMatch`, says that on every pattern whose `#` segments
(if any) stand last, `_topic_matches` decides exactly `MqttMatch`: the equality shortcut,
the cut at `#`, the length test and the pairwise walk together agree with the recursive
reading.  On a malformed pattern (a `#` before the last segment) the shortcut is not
harmless: `topicMatches_ne_bySegments_iff` names exactly the inputs where it changes the
answer.  Those inputs have a `#` segment in the topic, which no topic name a broker delivers
has: on topic names the shortcut is a pure optimization (`topicMatches_eq_bySegments`).
-/

namespace BigSkies.Topic

/-! ### MQTT matching on segment lists -/

/-- `MqttMatch ps ts`: the pattern segments `ps` cover the topic segments `ts`. -/
inductive MqttMatch : List String → List String → Prop
  | nil : MqttMatch [] []
  | hash (ts : List String) : MqttMatch ["#"] ts
  | plus {ps ts : List String} (t : String) : MqttMatch ps ts → MqttMatch ("+" :: ps) (t :: ts)
  | lit {ps ts : List String} (l : String) :
      l ≠ "+" → l ≠ "#" → MqttMatch ps ts → MqttMatch (l :: ps) (l :: ts)

theorem mqttMatch_nil_iff (ts : List String) : MqttMatch [] ts ↔ ts = [] :=
  ⟨fun h => by cases h; rfl, fun h => h ▸ .nil⟩

theorem mqttMatch_cons_nil {p : String} (ps : List String) (hp : p ≠ "#") :
    ¬ MqttMatch (p :: ps) [] := by
  intro h; cases h; exact hp rfl

/-- Below a segment other than `#`, matching consumes one topic segment. -/
theorem mqttMatch_cons_cons_iff {p t : String} (ps ts : List String) (hp : p ≠ "#") :
    MqttMatch (p :: ps) (t :: ts) ↔ (p = "+" ∨ p = t) ∧ MqttMatch ps ts := by
  constructor
  · intro h
    cases h with
    | hash => exact absurd rfl hp
    | plus _ h => exact ⟨.inl rfl, h⟩
    | lit _ _ _ h => exact ⟨.inr rfl, h⟩
  · rintro ⟨hpt, h⟩
    by_cases hplus : p = "+"
    · subst hplus; exact .plus t h
    · obtain rfl := hpt.resolve_left hplus
      exact .lit p hplus hp h

/-- A literal segment consumes an equal topic segment. -/
theorem mqttMatch_lit_iff {l : String} (ps ts : List String) (hplus : l ≠ "+") (hhash : l ≠ "#") :
    MqttMatch (l :: ps) ts ↔ ∃ ts', ts = l :: ts' ∧ MqttMatch ps ts' := by
  cases ts with
  | nil => simpa using mqttMatch_cons_nil ps hhash
  | cons t ts =>
    rw [mqttMatch_cons_cons_iff _ _ hhash]
    constructor
    · rintro ⟨hpt, h⟩; exact ⟨ts, by rw [hpt.resolve_left hplus], h⟩
    · rintro ⟨ts', ⟨⟩, h⟩; exact ⟨.inr rfl, h⟩

/-- `+` consumes any one topic segment. -/
theorem mqttMatch_plus_iff (ps ts : List String) :
    MqttMatch ("+" :: ps) ts ↔ ∃ t ts', ts = t :: ts' ∧ MqttMatch ps ts' := by
  cases ts with
  | nil => simpa using mqttMatch_cons_nil ps (by decide)
  | cons t ts =>
    rw [mqttMatch_cons_cons_iff _ _ (by decide)]
    constructor
    · rintro ⟨-, h⟩; exact ⟨t, ts, rfl, h⟩
    · rintro ⟨t', ts', ⟨⟩, h⟩; exact ⟨.inl rfl, h⟩

/-- A well-formed pattern covers the topic spelled like it. -/
theorem mqttMatch_refl (ps : List String) (hwf : "#" ∉ ps.dropLast) : MqttMatch ps ps := by
  induction ps with
  | nil => exact .nil
  | cons p ps ih =>
    cases ps with
    | nil =>
      by_cases hh : p = "#"
      · subst hh; exact .hash _
      · exact (mqttMatch_cons_cons_iff [] [] hh).2 ⟨.inr rfl, .nil⟩
    | cons q qs =>
      simp only [List.dropLast_cons₂, List.mem_cons, not_or] at hwf
      exact (mqttMatch_cons_cons_iff _ _ (Ne.symm hwf.1)).2 ⟨.inr rfl, ih hwf.2⟩

/-! ### The walk decides `MqttMatch` -/

/-- Without `#`, the length test and the pairwise walk are MQTT matching. -/
theorem zipMatches_iff (ps ts : List String) (h : "#" ∉ ps) :
    zipMatches ts ps = true ↔ MqttMatch ps ts := by
  induction ps generalizing ts with
  | nil => cases ts <;> simp [mqttMatch_nil_iff]
  | cons p ps ih =>
    simp only [List.mem_cons, not_or] at h
    cases ts with
    | nil => simpa using mqttMatch_cons_nil ps (Ne.symm h.1)
    | cons t ts => simp [mqttMatch_cons_cons_iff _ _ (Ne.symm h.1), ih _ h.2]

/-- The cut of lines 168-169 followed by the walk is matching against the pattern with its
    trailing `#` restored. -/
theorem zipMatches_take_iff (ps ts : List String) (h : "#" ∉ ps) :
    zipMatches (ts.take ps.length) ps = true ↔ MqttMatch (ps ++ ["#"]) ts := by
  induction ps generalizing ts with
  | nil => simpa using MqttMatch.hash ts
  | cons p ps ih =>
    simp only [List.mem_cons, not_or] at h
    cases ts with
    | nil => simpa using mqttMatch_cons_nil (ps ++ ["#"]) (Ne.symm h.1)
    | cons t ts => simp [mqttMatch_cons_cons_iff _ _ (Ne.symm h.1), ih _ h.2]

theorem segmentsMatch_of_hash_not_mem {ps : List String} (ts : List String) (h : "#" ∉ ps) :
    segmentsMatch ts ps = zipMatches ts ps := by
  simp [segmentsMatch, h]

theorem segmentsMatch_append_hash {ps : List String} (ts : List String) (h : "#" ∉ ps) :
    segmentsMatch ts (ps ++ ["#"]) = zipMatches (ts.take ps.length) ps := by
  have hidx : (ps ++ ["#"]).indexOf "#" = ps.length := by
    rw [List.indexOf_append_of_not_mem h, List.indexOf_cons_self, Nat.add_zero]
  simp [segmentsMatch, hidx]

/-- A `#` before the last pattern segment makes the segment algorithm fail on every topic. -/
theorem segmentsMatch_of_hash_mem_dropLast {ps : List String} (ts : List String)
    (h : "#" ∈ ps.dropLast) : segmentsMatch ts ps = false := by
  have hne : ps ≠ [] := by rintro rfl; simp at h
  have hidx : ps.indexOf "#" < ps.length - 1 := by
    calc ps.indexOf "#"
        = (ps.dropLast ++ [ps.getLast hne]).indexOf "#" := by rw [List.dropLast_append_getLast]
      _ = ps.dropLast.indexOf "#" := List.indexOf_append_of_mem h
      _ < ps.dropLast.length := List.indexOf_lt_length.2 h
      _ = ps.length - 1 := List.length_dropLast ps
  simp [segmentsMatch, List.dropLast_subset _ h, Nat.ne_of_lt hidx]

/-- A pattern whose `#` segments all stand last either has no `#` or ends in its only one. -/
theorem eq_append_hash {ps : List String} (hwf : "#" ∉ ps.dropLast) (hmem : "#" ∈ ps) :
    ∃ ps', ps = ps' ++ ["#"] ∧ "#" ∉ ps' := by
  have hsplit := List.dropLast_append_getLast (List.ne_nil_of_mem hmem)
  refine ⟨ps.dropLast, ?_, hwf⟩
  rw [← hsplit] at hmem
  simp only [List.mem_append, List.mem_singleton, hwf, false_or] at hmem
  rw [hmem]; exact hsplit.symm

/-- **The segment algorithm decides MQTT matching** on every well-formed pattern. -/
theorem segmentsMatch_iff (ps ts : List String) (hwf : "#" ∉ ps.dropLast) :
    segmentsMatch ts ps = true ↔ MqttMatch ps ts := by
  by_cases hmem : "#" ∈ ps
  · obtain ⟨ps', rfl, hps'⟩ := eq_append_hash hwf hmem
    rw [segmentsMatch_append_hash _ hps', zipMatches_take_iff _ _ hps']
  · rw [segmentsMatch_of_hash_not_mem _ hmem, zipMatches_iff _ _ hmem]

/-! ### `_topic_matches` -/

/-- A topic `_topic_matches` accepts is covered by the pattern. -/
theorem mqttMatch_of_topicMatches {topic pattern : String}
    (hwf : "#" ∉ (strSplit pattern '/').dropLast) (h : topicMatches topic pattern = true) :
    MqttMatch (strSplit pattern '/') (strSplit topic '/') := by
  unfold topicMatches at h
  split_ifs at h with heq
  · subst heq; exact mqttMatch_refl _ hwf
  · exact (segmentsMatch_iff _ _ hwf).1 h

/-- **`_topic_matches` is MQTT matching.**  For every topic and every pattern in which no
    segment but the last is `#`, the method answers `True` exactly when the pattern's
    segments cover the topic's. -/
theorem topicMatches_iff_mqttMatch (topic pattern : String)
    (hwf : "#" ∉ (strSplit pattern '/').dropLast) :
    topicMatches topic pattern = true ↔
      MqttMatch (strSplit pattern '/') (strSplit topic '/') := by
  refine ⟨mqttMatch_of_topicMatches hwf, fun h => ?_⟩
  unfold topicMatches
  split_ifs
  · rfl
  · exact (segmentsMatch_iff _ _ hwf).2 h

theorem topicMatches_iff_mqttMatch_plus :
    "#" ∉ (strSplit "a/+/c" '/').dropLast ∧
      (topicMatches "a/b/c" "a/+/c" = true ↔
        MqttMatch (strSplit "a/+/c" '/') (strSplit "a/b/c" '/')) :=
  ⟨by decide, topicMatches_iff_mqttMatch "a/b/c" "a/+/c" (by decide)⟩

/-! ### The exact-equality shortcut -/

/-- The segment algorithm accepts a pattern compared with itself exactly when the pattern
    is well formed. -/
theorem segmentsMatch_self (ps : List String) :
    segmentsMatch ps ps = true ↔ "#" ∉ ps.dropLast := by
  by_cases hwf : "#" ∈ ps.dropLast
  · simp [segmentsMatch_of_hash_mem_dropLast _ hwf, hwf]
  · simp only [hwf, not_false_eq_true, iff_true]
    exact (segmentsMatch_iff ps ps hwf).2 (mqttMatch_refl ps hwf)

/-- **Where the shortcut matters.**  `_topic_matches` and its segment algorithm differ on a
    pair of strings exactly when the two are equal and the pattern has a `#` before its last
    segment; there the shortcut answers `True` and the segment algorithm `False`. -/
theorem topicMatches_ne_bySegments_iff (topic pattern : String) :
    topicMatches topic pattern ≠ topicMatchesBySegments topic pattern ↔
      pattern = topic ∧ "#" ∈ (strSplit pattern '/').dropLast := by
  by_cases h : pattern = topic
  · subst h
    have := segmentsMatch_self (strSplit pattern '/')
    cases hs : topicMatchesBySegments pattern pattern <;>
      simp_all [topicMatches, topicMatchesBySegments]
  · simp [topicMatches, topicMatchesBySegments, h]

/-- **The shortcut is harmless on topic names.**  On every topic with no `#` segment (every
    topic name a broker delivers), `_topic_matches` answers as its segment algorithm alone;
    so a pattern with a `#` before its last segment matches no such topic. -/
theorem topicMatches_eq_bySegments (topic pattern : String) (h : "#" ∉ strSplit topic '/') :
    topicMatches topic pattern = topicMatchesBySegments topic pattern ∧
      ("#" ∈ (strSplit pattern '/').dropLast → topicMatches topic pattern = false) := by
  have heq : topicMatches topic pattern = topicMatchesBySegments topic pattern := by
    by_cases hpt : pattern = topic
    · subst hpt
      have hwf : "#" ∉ (strSplit pattern '/').dropLast := fun hm => h (List.dropLast_subset _ hm)
      simp only [topicMatches, topicMatchesBySegments, if_true, (segmentsMatch_self _).2 hwf]
    · simp only [topicMatches, topicMatchesBySegments, hpt, if_false]
  exact ⟨heq, fun hm => heq ▸ segmentsMatch_of_hash_mem_dropLast _ hm⟩

/-- The topic `a/x/b` against the malformed pattern `a/#/b`: no match on either path. -/
theorem topicMatches_eq_bySegments_malformed :
    "#" ∉ strSplit "a/x/b" '/' ∧
      (topicMatches "a/x/b" "a/#/b" = topicMatchesBySegments "a/x/b" "a/#/b" ∧
        ("#" ∈ (strSplit "a/#/b" '/').dropLast → topicMatches "a/x/b" "a/#/b" = false)) :=
  ⟨by decide, topicMatches_eq_bySegments "a/x/b" "a/#/b" (by decide)⟩

/-- The pattern `a/#/b`, compared with the topic spelled like it. -/
theorem topicMatches_malformed_self :
    topicMatches "a/#/b" "a/#/b" = true ∧ topicMatchesBySegments "a/#/b" "a/#/b" = false := by
  decide

end BigSkies.Topic
