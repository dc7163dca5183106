import SherwoodMonitor.CallRuns

/-! Topics compare by their normalized key. The lookup of a topic's holder normalizes the key once
more, so it finds the holder of a topic whose key does not end in a blank; the cut after 80
characters can leave one there. -/
namespace SherwoodMonitor.TopicClaims
open PyUnicode PyText Lookup Models FundState Rules Service Calls CallRuns Effects

-- keys of topics

/-- What a topic key turns into a blank. -/
def outsideKey (c : Char) : Bool := !isTopicChar c || isSpace c

lemma outsideKey_of_isSpace {c : Char} (hc : isSpace c = true) : outsideKey c = true := by
  simp [outsideKey, hc]

/-- The key of a topic before the cut. -/
def fullKey (l : List Char) : List Char := stripChars (subRuns outsideKey (lowerChars [] l))

lemma toList_normalizeTopic (topic : String) :
    (normalizeTopic topic).toList = (fullKey topic.toList).take 80 := by
  have hspace : isSpace ' ' = true := by decide
  simp only [normalizeTopic, take, fullKey, toList_strip, String.toList_ofList, toList_lower,
    subRuns_subRuns hspace]
  rfl

/-- Outer white space changes no key. -/
lemma fullKey_stripChars (l : List Char) : fullKey (stripChars l) = fullKey l := by
  obtain ⟨ws, ws', hws, hws', -, hl⟩ := lowerChars_of_stripChars l
  have hout : ∀ c ∈ ws, outsideKey c = true := fun c hc => outsideKey_of_isSpace (hws c hc)
  have hout' : ∀ c ∈ ws', outsideKey c = true := fun c hc => outsideKey_of_isSpace (hws' c hc)
  rw [fullKey, fullKey, hl, stripChars_subRuns_append _ hout hout']

lemma normalizeTopic_strip (topic : String) :
    normalizeTopic (strip topic) = normalizeTopic topic := by
  apply String.toList_injective
  rw [toList_normalizeTopic, toList_normalizeTopic, toList_strip, fullKey_stripChars]

/-- A text in the form of a key: characters of the class, with single blanks. -/
structure IsKey (l : List Char) : Prop where
  chars : ∀ c ∈ l, outsideKey c = false ∨ c = ' '
  spaced : Spaced l

lemma IsKey.of_sublist {l l' : List Char} (h : IsKey l) (hl : l' <:+: l) : IsKey l' :=
  ⟨fun c hc => h.chars c (hl.subset hc), List.IsChain.infix h.spaced hl⟩

lemma isKey_subRuns (l : List Char) : IsKey (subRuns outsideKey l) :=
  ⟨fun _ hc => mem_subRunsAux hc, spaced_subRuns (by decide) l⟩

lemma stripChars_isInfix (l : List Char) : stripChars l <:+: l := by
  obtain ⟨ws, ws', -, -, hl⟩ := stripChars_split l
  exact ⟨ws, ws', hl.symm⟩

lemma isKey_normalizeTopic (topic : String) : IsKey (normalizeTopic topic).toList := by
  rw [toList_normalizeTopic]
  have hfull : IsKey (fullKey topic.toList) := (isKey_subRuns _).of_sublist (stripChars_isInfix _)
  exact hfull.of_sublist (List.take_prefix _ _).isInfix

lemma lower_keyChar {c : Char} (hc : outsideKey c = false ∨ c = ' ') :
    c.toNat < 128 ∧ ¬(65 ≤ c.toNat ∧ c.toNat ≤ 90) := by
  rcases hc with hc | rfl
  · simp only [outsideKey, isTopicChar, Bool.or_eq_false_iff, Bool.not_eq_false',
      Bool.or_eq_true, Bool.and_eq_true, decide_eq_true_eq, List.mem_cons, List.not_mem_nil,
      or_false] at hc
    rcases hc.1 with (h | h) | h
    · omega
    · omega
    · rcases h with rfl | rfl | rfl | rfl | rfl | rfl | rfl <;> decide
  · decide

/-- Of a text in key form only the outer blanks change when its key is taken. -/
lemma IsKey.fullKey_eq {l : List Char} (h : IsKey l) : fullKey l = stripChars l := by
  rw [fullKey, lowerChars_eq_self [] fun c hc => lower_keyChar (h.chars c hc),
    subRuns_eq_self h.chars h.spaced]

/-- The cut to 80 characters left no blank at the end of the key. -/
def CutClean (topic : String) : Prop := ∀ c ∈ (normalizeTopic topic).toList.getLast?, c ≠ ' '

instance (topic : String) : Decidable (CutClean topic) :=
  inferInstanceAs (Decidable (∀ c ∈ (normalizeTopic topic).toList.getLast?, c ≠ ' '))

lemma length_normalizeTopic_le (topic : String) : (normalizeTopic topic).toList.length ≤ 80 := by
  rw [toList_normalizeTopic, List.length_take]
  exact Nat.min_le_left _ _

lemma head?_normalizeTopic {topic : String} {c : Char}
    (hc : c ∈ (normalizeTopic topic).toList.head?) : isSpace c = false := by
  rw [toList_normalizeTopic, List.head?_take] at hc
  exact head?_stripChars (by simpa [fullKey] using hc)

lemma isSpace_keyChar {c : Char} (hc : outsideKey c = false ∨ c = ' ') (hne : c ≠ ' ') :
    isSpace c = false := by
  have hout := hc.resolve_right hne
  simp only [outsideKey, Bool.or_eq_false_iff] at hout
  exact hout.2

/-- A key that does not end in a blank is its own key. -/
lemma normalizeTopic_normalizeTopic {topic : String} (h : CutClean topic) :
    normalizeTopic (normalizeTopic topic) = normalizeTopic topic := by
  have hkey := isKey_normalizeTopic topic
  have hlast : ∀ c ∈ (normalizeTopic topic).toList.getLast?, isSpace c = false := fun c hc =>
    isSpace_keyChar (hkey.chars c (List.mem_of_getLast? hc)) (h c hc)
  apply String.toList_injective
  rw [toList_normalizeTopic, hkey.fullKey_eq,
    stripChars_eq_self (fun _ => head?_normalizeTopic) hlast,
    List.take_of_length_le (length_normalizeTopic_le topic)]

/-- A key that ends in a blank is not: the lookup goes by a shorter one. -/
lemma cutClean_iff {topic : String} :
    CutClean topic ↔ normalizeTopic (normalizeTopic topic) = normalizeTopic topic := by
  refine ⟨normalizeTopic_normalizeTopic, fun h c hc hblank => ?_⟩
  obtain ⟨l, hl⟩ := List.getLast?_eq_some_iff.1 hc
  have hspace : isSpace c = true := by rw [hblank]; decide
  have hshort : (stripChars (l ++ [c])).length ≤ l.length := by
    rw [stripChars_concat hspace]
    exact (stripChars_isInfix l).length_le
  have hkey := isKey_normalizeTopic topic
  rw [hl] at hkey
  have hlen := congrArg (fun s => s.toList.length) h
  simp only [toList_normalizeTopic (normalizeTopic topic), hl, hkey.fullKey_eq, List.length_take,
    List.length_append, List.length_singleton] at hlen
  omega

-- claims on topics

/-- Two stored claims of different agents are on different topics. -/
def Exclusive (claims : List Claim) : Prop :=
  ∀ c ∈ claims, ∀ d ∈ claims, lower c.agent ≠ lower d.agent →
    normalizeTopic c.topic ≠ normalizeTopic d.topic

variable {s s' : FundState} {now : Time} {agent topic : String}

lemma Exclusive.of_subset {claims claims' : List Claim} (h : Exclusive claims)
    (hsub : claims' ⊆ claims) : Exclusive claims' :=
  fun c hc d hd => h c (hsub hc) d (hsub hd)

/-- A claim on a topic that nobody else holds may join. -/
lemma Exclusive.append {claims : List Claim} {c : Claim} (h : Exclusive claims)
    (hfree : ∀ d ∈ claims, normalizeTopic d.topic = normalizeTopic c.topic →
      lower d.agent = lower c.agent) : Exclusive (claims ++ [c]) := by
  intro d hd e he hne heq
  simp only [List.mem_append, List.mem_singleton] at hd he
  rcases hd with hd | hd
  · rcases he with he | he
    · exact h d hd e he hne heq
    · rw [he] at hne heq
      exact hne (hfree d hd heq)
  · rcases he with he | he
    · rw [hd] at hne heq
      exact hne (hfree e he heq.symm).symm
    · exact hne (by rw [hd, he])

/-- A refreshed claim keeps its agent and its topic. -/
lemma Exclusive.set {claims : List Claim} {i : ℕ} {c d : Claim} (h : Exclusive claims)
    (hget : claims[i]? = some c) (hagent : d.agent = c.agent) (htopic : d.topic = c.topic) :
    Exclusive (claims.set i d) := by
  have hkept : ∀ a ∈ claims.set i d, ∃ b ∈ claims, b.agent = a.agent ∧ b.topic = a.topic := by
    intro a ha
    rcases mem_set_cases ha with rfl | ha
    · exact ⟨c, List.mem_of_getElem? hget, hagent.symm, htopic.symm⟩
    · exact ⟨a, ha, rfl, rfl⟩
  intro a ha b hb hne
  obtain ⟨a', ha', hagent₁, htopic₁⟩ := hkept a ha
  obtain ⟨b', hb', hagent₂, htopic₂⟩ := hkept b hb
  rw [← hagent₁, ← hagent₂] at hne
  rw [← htopic₁, ← htopic₂]
  exact h a' ha' b' hb' hne

/-- The claims of a state: exclusive, and held under names without outer blanks. -/
structure TopicsHeld (s : FundState) : Prop where
  exclusive : Exclusive s.claims
  trimmed : ∀ c ∈ s.claims, strip (lower c.agent) = lower c.agent

lemma TopicsHeld.of_subset (h : TopicsHeld s) (hsub : s'.claims ⊆ s.claims) : TopicsHeld s' :=
  ⟨h.exclusive.of_subset hsub, fun c hc => h.trimmed c (hsub hc)⟩

lemma TopicsHeld.prune (h : TopicsHeld s) : TopicsHeld (prune s now) :=
  h.of_subset List.filter_sublist.subset

/-- Where the check passed on a topic with a clean key, every live claim on the topic is held by
the agent's own record. -/
lemma holder_of_checkClaim {i : ℕ} {a : Agent} {c : Claim} (h : TopicsHeld s)
    (ha : s.agent agent = some (i, a)) (hclean : CutClean topic)
    (hcheck : (checkClaim s agent topic now).ok = true) (hc : c ∈ activeClaims s now)
    (hkey : normalizeTopic c.topic = normalizeTopic topic) : lower c.agent = lower a.name := by
  obtain ⟨-, -, -, hholder, -⟩ := checkClaim_ok.1 hcheck
  have hstable := normalizeTopic_normalizeTopic hclean
  have hstored : ∀ d ∈ activeClaims s now, d ∈ s.claims := fun d hd => (List.mem_filter.1 hd).1
  have hfound : (claimForTopic s (normalizeTopic topic) now).isSome = true := by
    rw [claimForTopic, List.find?_isSome]
    exact ⟨c, hc, by simpa [hstable] using hkey⟩
  obtain ⟨d, hd⟩ := Option.isSome_iff_exists.1 hfound
  have hdkey : normalizeTopic d.topic = normalizeTopic topic := by
    simpa [hstable] using List.find?_some hd
  have hdmem : d ∈ activeClaims s now := List.mem_of_find?_eq_some hd
  have hsame : lower c.agent = lower d.agent := by
    by_contra hne
    exact h.exclusive c (hstored c hc) d (hstored d hdmem) hne (hkey.trans hdkey.symm)
  have hcagent : lower c.agent = lower agent := hsame.trans (hholder d hd)
  have htrim : lower (strip agent) = lower agent := by
    rw [← strip_lower, ← hcagent]
    exact h.trimmed c (hstored c hc)
  rw [agent_name ha, lookupKey, htrim, hcagent]

/-- A claim that an agent's record takes on a topic with a clean key. -/
lemma TopicsHeld.newClaim {i : ℕ} {a : Agent} {c : Claim} {claims : List Claim}
    (h : TopicsHeld s) (ha : s.agent agent = some (i, a)) (hname : c.agent = a.name)
    (hsub : claims ⊆ s.claims)
    (hfree : ∀ d ∈ claims, normalizeTopic d.topic = normalizeTopic c.topic →
      lower d.agent = lower a.name) : TopicsHeld { s with claims := claims ++ [c] } where
  exclusive := (h.exclusive.of_subset hsub).append fun d hd hkey => by
    rw [hname]
    exact hfree d hd hkey
  trimmed d hd := by
    rcases List.mem_append.1 hd with hd | hd
    · exact h.trimmed d (hsub hd)
    · obtain rfl := List.mem_singleton.1 hd
      rw [hname, agent_name ha, lookupKey, strip_lower, strip_strip]

/-- The topics that the operations claim have clean keys. -/
def ClaimsClean : Act → Prop
  | .claimTopic _ topic | .requestDraft _ topic _ => CutClean topic
  | _ => True

lemma activeClaims_prune : activeClaims (Service.prune s now) now = activeClaims s now := by
  simp [activeClaims, Service.prune, List.filter_filter]

lemma topicsHeld_claimTopic {r : Claim} (hclean : CutClean topic) (hs : TopicsHeld s)
    (h : claimTopic agent topic now s = .ok (r, s')) : TopicsHeld s' := by
  obtain ⟨hcheck, hcases⟩ := claimTopic_ok h
  have hs' : TopicsHeld (prune s now) := hs.prune
  rcases hcases with ⟨i, mine, hmine, rfl, rfl⟩ | ⟨i, a, -, ha, hname, htopic, rfl⟩
  · have hget : (activeClaims s now)[i]? = some mine := locate_getElem? hmine
    refine ⟨hs'.exclusive.set hget rfl rfl, fun c hc => ?_⟩
    rcases mem_set_cases hc with rfl | hc
    · exact hs'.trimmed mine (List.mem_of_getElem? hget)
    · exact hs'.trimmed c hc
  · have ha' : (prune s now).agent agent = some (i, a) := ha
    refine hs'.newClaim ha' hname (List.Subset.refl _) fun d hd hkey => ?_
    have hd' : d ∈ activeClaims (prune s now) now := by rwa [activeClaims_prune]
    rw [htopic, normalizeTopic_strip] at hkey
    exact holder_of_checkClaim hs' ha' hclean hcheck hd' hkey

lemma topicsHeld_requestDraft {from_ : Pitch} {r : Claim} (hclean : CutClean topic)
    (hs : TopicsHeld s) (h : requestDraft agent topic from_ now s = .ok (r, s')) :
    TopicsHeld s' := by
  obtain ⟨hcheck, i, a, ha, hname, htopic, rfl⟩ := requestDraft_ok h
  have hs' : TopicsHeld (prune s now) := hs.prune
  have ha' : (prune s now).agent agent = some (i, a) := ha
  refine hs'.newClaim ha' hname List.filter_sublist.subset fun d hd hkey => ?_
  have hd' : d ∈ activeClaims (prune s now) now := by
    rw [activeClaims_prune]
    exact (List.mem_filter.1 hd).1
  have hclean' : CutClean (strip topic) := by rwa [CutClean, normalizeTopic_strip]
  rw [htopic] at hkey
  exact holder_of_checkClaim hs' ha' hclean' hcheck hd' hkey

lemma topicsHeld_act {a : Act} {r : a.Reply} (ha : ClaimsClean a) (hs : TopicsHeld s)
    (h : a.mutate now s = .ok (r, s')) : TopicsHeld s' := by
  rcases (actFrame h).claims with (⟨agent, topic, rfl⟩ | ⟨agent, topic, from_, rfl⟩) | hsub
  · exact topicsHeld_claimTopic ha hs h
  · exact topicsHeld_requestDraft ha hs h
  · exact hs.of_subset hsub.subset

lemma preserves_topicsHeld : Preserves ClaimsClean TopicsHeld where
  bump _ _ hs := hs.of_subset (List.Subset.refl _)
  reads _ _ := trivial
  act a ha now s r s' hs h := topicsHeld_act ha hs h
  cardFund card s r s' hs h := by
    obtain ⟨period, veto, till, -, -, -, rfl⟩ := cardFund_ok h
    exact hs.of_subset (List.Subset.refl _)
  chainStatus pid status now s i r reply s' hs _ _ _ h := by
    obtain ⟨j, old, -, -, rfl⟩ := chainStatus_ok h
    exact hs.of_subset (List.Subset.refl _)

lemma topicsHeld_createFund {fund : Fund} {host : Agent} {stamp : Time}
    (h : createFund fund host now stamp = .ok s) : TopicsHeld s := by
  simp only [createFund, bind_eq_ok, pure_eq_ok] at h
  obtain ⟨-, -, name, -, rfl⟩ := h
  exact ⟨by simp [Exclusive], by simp⟩

/-- At time `t`, no two different agents hold live claims on topics with one key. -/
def TopicsExclusive (s : FundState) (t : Time) : Prop := Exclusive (activeClaims s t)

/-- Runs whose claimed topics have clean keys keep the topics exclusive, at every time. -/
theorem topicsExclusive_of_run {fund : Fund} {host : Agent} {stamp : Time} {s₀ : FundState}
    (hcreate : createFund fund host now stamp = .ok s₀) {calls : List Call}
    (hclean : ∀ c ∈ calls, Call.Acts ClaimsClean c) (t : Time) :
    TopicsExclusive (runCalls calls s₀) t := by
  have hheld := preserves_topicsHeld.calls hclean (topicsHeld_createFund hcreate)
  exact hheld.exclusive.of_subset List.filter_sublist.subset

/-- A second agent joins and is registered by the host. -/
def joinCalls : List Call :=
  [.act (.requestAgent sampleGuest) ⟨1010, 1010⟩,
    .act (.approveAgent "Iris" "Beta" "0xaa" none) ⟨1020, 1020⟩]

/-- Both agents claim `topic`. -/
def clashCalls (topic : String) : List Call :=
  joinCalls ++ [.act (.claimTopic "Iris" topic) ⟨1030, 1030⟩,
    .act (.claimTopic "Beta" topic) ⟨1040, 1040⟩]

theorem topicsExclusive_of_sample_run :
    TopicsExclusive (runCalls (clashCalls "TSLA momentum!") sampleState) 1050 := by
  refine topicsExclusive_of_run createFund_sample ?_ 1050
  simp only [clashCalls, joinCalls, List.cons_append, List.nil_append, List.forall_mem_cons,
    Call.Acts, ClaimsClean]
  exact ⟨trivial, trivial, by decide +kernel, by decide +kernel, by simp⟩

instance (claims : List Claim) : Decidable (Exclusive claims) :=
  inferInstanceAs (Decidable (∀ c ∈ claims, ∀ d ∈ claims, lower c.agent ≠ lower d.agent →
    normalizeTopic c.topic ≠ normalizeTopic d.topic))

instance (s : FundState) (t : Time) : Decidable (TopicsExclusive s t) :=
  inferInstanceAs (Decidable (Exclusive (activeClaims s t)))

/-- Two agents that hold the same topic hold topics with one key, whatever the key is. -/
lemma not_topicsExclusive {t : Time} (h : ∃ c ∈ activeClaims s t, ∃ d ∈ activeClaims s t,
    lower c.agent ≠ lower d.agent ∧ c.topic = d.topic) : ¬TopicsExclusive s t := by
  obtain ⟨c, hc, d, hd, hagents, htopic⟩ := h
  intro hexclusive
  exact hexclusive c hc d hd hagents (congrArg normalizeTopic htopic)

/-- A topic whose key is cut right after a blank. -/
def cutTopic : String := String.ofList (List.replicate 79 'x' ++ [' ', 'y'])

/-- Both agents hold the cut topic: the second one's lookup goes by a shorter key. -/
theorem not_topicsExclusive_of_cut_key : ∃ s₀, createFund sampleFund sampleHost 1000 1000 = .ok s₀ ∧
    ¬TopicsExclusive (runCalls (clashCalls cutTopic) s₀) 1050 :=
  ⟨sampleState, createFund_sample, not_topicsExclusive (by decide +kernel)⟩

end SherwoodMonitor.TopicClaims
