import SherwoodMonitor.EventStream
import SherwoodMonitor.Library.Recency

/-! The router of all funds (`router.py`): which messages it passes on to their handler. -/
namespace SherwoodMonitor.RouterDedupe
open PyJson Records EventStream Recency

variable {fund : String} {recs : List (String × Json)} {raw : Json} {msg : SessionMessage}

/-- The entries of the funds; a fund without one has the empty entry. -/
abbrev Routers := String → Router

/-- `route(subdomain, raw)`; `none` where it raises, before it changes anything. -/
def routeTo (routers : Routers) (rec : String × Json) : Routers × Option Outcome :=
  match (routers rec.1).route rec.2 with
  | .ok (router, outcome) => (Function.update routers rec.1 router, some outcome)
  | .error _ => (routers, none)

/-- The router after a sequence of records. -/
def after (recs : List (String × Json)) : Routers :=
  recs.foldl (fun routers rec => (routeTo routers rec).1) fun _ => {}

/-- What becomes of a record after those. -/
def outcomeAfter (recs : List (String × Json)) (rec : String × Json) : Option Outcome :=
  (routeTo (after recs) rec).2

/-- The id of a record that is a message. -/
def messageId (raw : Json) : Option String :=
  match decodeRecord raw with
  | .ok (.message msg) => some msg.id
  | _ => none

/-- The message ids that the fund has seen, in order. -/
def idsOf (fund : String) (recs : List (String × Json)) : List String :=
  (recs.filter (·.1 = fund)).filterMap fun rec => messageId rec.2

lemma after_concat (recs : List (String × Json)) (rec : String × Json) :
    after (recs ++ [rec]) = (routeTo (after recs) rec).1 := by
  rw [after, List.foldl_append, List.foldl_cons, List.foldl_nil, after]

lemma routeTo_other {routers : Routers} {rec : String × Json} (h : rec.1 ≠ fund) :
    (routeTo routers rec).1 fund = routers fund := by
  rw [routeTo]
  split
  · exact Function.update_of_ne (Ne.symm h) _ _
  · rfl

/-- What a record does in its own fund depends on that fund's entry only. -/
lemma routeTo_congr {routers routers' : Routers} {rec : String × Json}
    (h : routers rec.1 = routers' rec.1) :
    (routeTo routers rec).2 = (routeTo routers' rec).2 ∧
      (routeTo routers rec).1 rec.1 = (routeTo routers' rec).1 rec.1 := by
  rw [routeTo, routeTo, h]
  cases (routers' rec.1).route rec.2 with
  | error e => exact ⟨rfl, h⟩
  | ok next => simp

/-- A message is seen, whether or not it is passed on; nothing else is. -/
lemma routeTo_seen (routers : Routers) (rec : String × Json) :
    ((routeTo routers rec).1 rec.1).seen =
      (messageId rec.2).toList.foldl (touch dedupeCapacity) (routers rec.1).seen := by
  rw [routeTo, messageId, Router.route]
  cases decodeRecord rec.2 with
  | error e => cases e <;> simp
  | ok r =>
    cases r with
    | chain ev => simp
    | message msg =>
      by_cases hseen : msg.id ∈ (routers rec.1).seen
      · simp [hseen, touch]
      · simp [hseen, touch]

/-- The records of other funds change nothing for a fund. -/
lemma after_filter (recs : List (String × Json)) :
    after recs fund = after (recs.filter (·.1 = fund)) fund := by
  induction recs using List.reverseRecOn with
  | nil => rfl
  | append_singleton recs rec ih =>
    rw [after_concat, List.filter_append]
    by_cases hfund : rec.1 = fund
    · subst hfund
      have hown : [rec].filter (fun x => x.1 = rec.1) = [rec] := by simp
      rw [hown, after_concat]
      exact (routeTo_congr ih).2
    · rw [routeTo_other hfund, ih]
      simp [hfund]

/-- A fund remembers the last ids that it saw. -/
theorem seen_after (recs : List (String × Json)) :
    (after recs fund).seen = mostRecent dedupeCapacity (idsOf fund recs) := by
  rw [← foldl_touch]
  induction recs using List.reverseRecOn with
  | nil => rfl
  | append_singleton recs rec ih =>
    rw [after_concat, idsOf, List.filter_append, List.filterMap_append, List.foldl_append, ← idsOf]
    by_cases hfund : rec.1 = fund
    · subst hfund
      rw [routeTo_seen, ih]
      cases hid : messageId rec.2 <;> simp [hid]
    · rw [routeTo_other hfund, ih]
      simp [hfund]

/-- A message is passed on to the handler exactly when its id is not among the 128 distinct ids that
its fund saw most recently; a fund remembers no more than these, and what other funds were sent
changes nothing. -/
theorem dedupe_iff (recs : List (String × Json)) (fund : String) :
    (∀ raw msg, decodeRecord raw = .ok (.message msg) →
      (outcomeAfter recs (fund, raw) = some (.handled (.message msg)) ↔
        msg.id ∉ mostRecent 128 (idsOf fund recs))) ∧
    (after recs fund).seen.length ≤ 128 ∧ (after recs fund).seen.Nodup ∧
    ∀ raw, outcomeAfter recs (fund, raw) = outcomeAfter (recs.filter (·.1 = fund)) (fund, raw) := by
  have hseen := @seen_after fund recs
  refine ⟨?_, ?_, ?_, ?_⟩
  · intro raw msg hmsg
    rw [outcomeAfter, routeTo, Router.route, hmsg]
    dsimp only
    rw [hseen, dedupeCapacity]
    split_ifs with hmem hfull
    · simp [hmem]
    · simp [hmem]
    · simp [hmem]
  · rw [hseen]
    exact length_mostRecent_le _ _
  · rw [hseen]
    exact nodup_mostRecent _ _
  · intro raw
    exact (@routeTo_congr _ _ (fund, raw) (after_filter recs)).1

/-- A message of the session stream. -/
def messageRaw (id : String) : Json :=
  .obj [("source", .str "xmtp"), ("id", .str id), ("type", .str "RISK_ALERT"), ("text", .str "msg")]

/-- A repeated message is dropped, the same id in another fund is not. -/
theorem dedupe_iff_repeated :
    outcomeAfter [("alpha", messageRaw "m1"), ("beta", messageRaw "m2")] ("alpha", messageRaw "m1") ≠
        some (.handled (.message ⟨"m1", "RISK_ALERT", "msg", "", ""⟩)) ∧
      outcomeAfter [("alpha", messageRaw "m1")] ("beta", messageRaw "m1") =
        some (.handled (.message ⟨"m1", "RISK_ALERT", "msg", "", ""⟩)) := by
  constructor
  · intro hhandled
    have hnew := ((dedupe_iff _ _).1 _ _ rfl).1 hhandled
    exact hnew (by decide +kernel)
  · exact ((dedupe_iff _ _).1 _ _ rfl).2 (by decide +kernel)

end SherwoodMonitor.RouterDedupe
