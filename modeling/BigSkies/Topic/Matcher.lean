import Mathlib.Data.List.Basic

/-!
# The topic matcher of `BigSkiesMQTTClient`

`mqtt/client.py` decides which registered subscription patterns cover an inbound topic with
the static method `_topic_matches` (client.py:145-178).  The method first answers `True` when
the two strings are equal; otherwise it splits both on `/`, cuts both segment lists at the
first `#` of the pattern (giving up when that `#` is not the last pattern segment), and walks
the remaining segments pairwise, where `+` accepts any topic segment.

This module is the faithful layer: Python's `str.split`, the pairwise walk, the `#` cut, and
the method itself, each under the source's name.  The MQTT reading of patterns and the
agreement of the two lives in `Topic.Semantics`.
-/

namespace BigSkies.Topic

/-! ### Python's `str.split` -/

/-- Python's `str.split(sep)` for a one-character separator: the pieces between consecutive
    separators, empty pieces included, so `"".split('/') == ['']` and the result is never
    empty. -/
def strSplit (s : String) (sep : Char) : List String :=
  (s.data.splitOn sep).map String.mk

theorem strSplit_ne_nil (s : String) (sep : Char) : strSplit s sep ≠ [] := by
  simp [strSplit, List.splitOn, List.splitOnP_ne_nil]

/-! ### The segment walk (client.py:160-178) -/

/-- Lines 171-178: the segment counts must agree, and each pattern segment must be `+` or
    equal to the topic segment at its position (the loop over `zip(topic_parts,
    pattern_parts)`). -/
def zipMatches (topicParts patternParts : List String) : Bool :=
  topicParts.length == patternParts.length &&
    (topicParts.zip patternParts).all fun (topicPart, patternPart) =>
      patternPart == "+" || patternPart == topicPart

/-- Lines 163-178 on the split strings: when `#` is a pattern segment, its first occurrence
    must be the last segment (else no match), and both lists are cut before it. -/
def segmentsMatch (topicParts patternParts : List String) : Bool :=
  if "#" ∈ patternParts then
    let hashIdx := patternParts.indexOf "#"
    if hashIdx ≠ patternParts.length - 1 then false
    else zipMatches (topicParts.take hashIdx) (patternParts.take hashIdx)
  else zipMatches topicParts patternParts

/-- `BigSkiesMQTTClient._topic_matches` (client.py:145-178). -/
def topicMatches (topic pattern : String) : Bool :=
  if pattern = topic then true
  else segmentsMatch (strSplit topic '/') (strSplit pattern '/')

/-- `_topic_matches` with the exact-equality shortcut of lines 157-158 removed: the segment
    algorithm of lines 160-178 alone. -/
def topicMatchesBySegments (topic pattern : String) : Bool :=
  segmentsMatch (strSplit topic '/') (strSplit pattern '/')

theorem topicMatches_eq (topic pattern : String) :
    topicMatches topic pattern = (pattern == topic || topicMatchesBySegments topic pattern) := by
  by_cases h : pattern = topic <;> simp [topicMatches, topicMatchesBySegments, h]

/-! ### Equations of the walk -/

@[simp] theorem zipMatches_nil_nil : zipMatches [] [] = true := rfl

@[simp] theorem zipMatches_nil_cons (p : String) (ps : List String) :
    zipMatches [] (p :: ps) = false := rfl

@[simp] theorem zipMatches_cons_nil (t : String) (ts : List String) :
    zipMatches (t :: ts) [] = false := rfl

@[simp] theorem zipMatches_cons_cons (t p : String) (ts ps : List String) :
    zipMatches (t :: ts) (p :: ps) = ((p == "+" || p == t) && zipMatches ts ps) := by
  simp only [zipMatches, List.length_cons, List.zip_cons_cons, List.all_cons]
  cases p == "+" || p == t <;> simp

end BigSkies.Topic
