import SherwoodMonitor.Library.JsonRecords
import SherwoodMonitor.LinkRoundTrips
import SherwoodMonitor.PrepareBodies
import SherwoodMonitor.StatusMoves

/-! The link with which the host signs a draft (`fund/telegram.py`), against the request that the
draft was answered with. The link's request is made from the stored record, which has neither the
pinned metadata nor the strategy that the draft was given. -/
namespace SherwoodMonitor.SigningUrl
open PyText PyNumber PyJson JsonText JsonRecords UrlText Models FundState Rules Service TxBuilder
  PrepareBodies ChainCard Calls Effects FundWrites AtomicStore StatusMoves Separated Links
  LinkMessages LinkUrls LinkRoundTrips

/-- The request for the host's signature on a stored draft. -/
def signingPrepare (fund : Fund) (record : ProposalRecord) : Prepare :=
  if isPortfolio record then portfolioPayload fund record fund.host ""
  else proposePayload fund record "" ""

section
variable (mac : Mac) (secret baseUrl : String)

/-- `_sign_url`; for a whole-number id the builder raises nothing but `ValueError`s. -/
def signUrlOrNone (fund : Fund) (action : String) (body : Json) (hostTg ts : ℤ) : Option String :=
  if secret = "" then none
  else
    match buildSignLink mac secret baseUrl fund.vault action body (.int hostTg) ts with
    | .ok url => url
    | .error _ => none

/-- `host_signing_url` of a fund that exists, at the time `ts`. -/
def hostSigningUrl (state : FundState) (draftId : String) (hostTgId ts : ℤ) :
    Except Exc (Option String) := do
  match ← state.proposal draftId with
  | none => return none
  | some (_, record) =>
      if record.status ≠ .draft then return none
      else if state.fund.hostTelegramId = "" ∨ toString hostTgId ≠ state.fund.hostTelegramId then
        return none
      else
        let prepare := signingPrepare state.fund record
        if prepare.ready then
          return signUrlOrNone mac secret baseUrl state.fund prepare.route prepare.body hostTgId ts
        else return none

end

/-- Two requests that differ at most in one field; `read` has its entries in the order of keys. -/
def SameApart (key : String) (sent read : Json) : Prop :=
  ∃ fs gs, sent = .obj fs ∧ read = .obj gs ∧
    ∀ k ≠ key, entry k gs = (entry k fs).map sortKeys

/-- A signing page reads the route and the body off this link, the body up to the proposer. -/
def Carries (floatOf : List Char → ℚ × String) (baseUrl : String) (prepare : Prepare)
    (url : String) : Prop :=
  ∃ query body, url = base baseUrl ++ "/tg/sign" ++ "?" ++ String.ofList query ∧
    field "action".toList (queryFields query) = prepare.route.toList ∧
    decodeSignBody floatOf (String.ofList (field "body".toList (queryFields query))) = some body ∧
    SameApart "proposer" prepare.body body

/-! ### What the link says -/

variable {mac : Mac} {secret baseUrl : String} {floatOf : List Char → ℚ × String}

/-- A link has one query behind its base. -/
lemma carries_iff {vault action url : String} {body tgUserId : Json} {ts : ℤ} {prepare : Prepare}
    (h : signUrl mac secret baseUrl vault action body tgUserId ts = .ok url)
    (hbody : WellFormed floatOf body) :
    Carries floatOf baseUrl prepare url ↔
      action = prepare.route ∧ SameApart "proposer" prepare.body (sortKeys body) := by
  simp only [signUrl, bind_eq_ok, pure_eq_ok] at h
  obtain ⟨v, hv, tg, htg, m, hm, sig, hsig, rfl⟩ := h
  simp only [signLinkMessage, bind_eq_ok, raiseIf_eq_ok, not_not] at hm
  obtain ⟨-, haction, -⟩ := hm
  obtain ⟨-, rfl⟩ := signLink_ok hsig
  set items := signItems v action (encodeSignBody body) tg (toString ts) (mac.hexdigest secret m)
    with hitems
  have hsound : ∀ f ∈ items, f.Sound :=
    sound_signItems (plain_canonicalAddress hv) (plain_action haction) (plain_encodeSignBody body)
      (plain_canonicalTg htg) (plain_toString ts) (plain_hexdigest mac secret m)
  have hquery : queryFields (queryOf items) = [("fund", v), ("action", action),
      ("body", encodeSignBody body), ("tg", tg), ("ts", toString ts),
      ("sig", mac.hexdigest secret m)].map fun f => (f.1.toList, f.2.toList) := by
    rw [queryFields_queryOf (by simp [hitems, signItems]) hsound]
    simp only [hitems, signItems, plainItem, List.map_cons, List.map_nil]
  have haction' : field "action".toList (queryFields (queryOf items)) = action.toList := by
    rw [hquery]
    exact field_of_find (by simp)
  have hbody' : field "body".toList (queryFields (queryOf items)) =
      (encodeSignBody body).toList := by
    rw [hquery]
    exact field_of_find (by simp)
  have hlink : linkUrl baseUrl "/tg/sign" [("fund", v), ("action", action),
      ("body", encodeSignBody body), ("tg", tg), ("ts", toString ts),
      ("sig", mac.hexdigest secret m)] =
        base baseUrl ++ "/tg/sign" ++ "?" ++ String.ofList (queryOf items) := by
    simp only [linkUrl, queryOf, hitems, signItems, plainItem, List.map_cons, List.map_nil]
  rw [hlink]
  constructor
  · rintro ⟨query, read, hurl, hroute, hread, hsame⟩
    have hlists := congrArg String.toList hurl
    simp only [String.toList_append, String.toList_ofList, List.append_cancel_left_eq] at hlists
    subst hlists
    rw [haction'] at hroute
    rw [hbody', String.ofList_toList, decodeSignBody_encodeSignBody hbody] at hread
    rw [← Option.some.inj hread] at hsame
    exact ⟨String.toList_injective hroute, hsame⟩
  · rintro ⟨rfl, hsame⟩
    exact ⟨queryOf items, sortKeys body, rfl, haction',
      by rw [hbody', String.ofList_toList, decodeSignBody_encodeSignBody hbody], hsame⟩

/-! ### The stored record -/

/-- Whatever is written to the fund, the record at a position keeps its terms. -/
lemma sameProposal_runOps {s : FundState} {i : ℕ} {r : ProposalRecord}
    (hr : s.proposals[i]? = some r) (writes : List Write) :
    ∃ r', (writeStore.runOps writes s).proposals[i]? = some r' ∧ SameProposal r r' := by
  refine @Interface.runOps_preserves _ _ writeStore (fun _ => True)
    (fun s => ∃ r', s.proposals[i]? = some r' ∧ SameProposal r r') ?_ writes (fun _ _ => trivial) s
      ⟨r, hr, SameProposal.rfl⟩
  rintro w - s₁ reply s₂ ⟨r₁, hr₁, hsame⟩ h
  rcases frame_of_exec h with ⟨o, rfl⟩ | ⟨hproposals, -⟩
  · obtain ⟨r₂, hr₂, hsame', -⟩ := movedBy_exec h hr₁
    exact ⟨r₂, hr₂, hsame.trans hsame'⟩
  · exact ⟨r₁, by rw [hproposals, hr₁], hsame⟩

/-- The request for a signature is made from the terms alone. -/
lemma signingPrepare_congr {r r' : ProposalRecord} (fund : Fund) (h : termsOf r' = termsOf r) :
    signingPrepare fund r' = signingPrepare fund r ∧ isPortfolio r' = isPortfolio r := by
  simp only [termsOf, Terms.mk.injEq] at h
  obtain ⟨htopic, hthesis, hlegs, hcapital, hdrawdown, hduration, hquote⟩ := h
  have hportfolio : isPortfolio r' = isPortfolio r := by simp only [isPortfolio, hlegs]
  have hmissing : missingDuration r' = missingDuration r := by
    simp only [missingDuration, hduration]
  refine ⟨?_, hportfolio⟩
  simp only [signingPrepare, hportfolio, portfolioPayload, proposePayload, htopic, hthesis, hlegs,
    hcapital, hdrawdown, hduration, hquote, hmissing]

lemma draftProposal_prepare {s s' : FundState} {agent : String} {d : Draft} {now : Time}
    {result : DraftResult} (h : draftProposal agent d now s = .ok (result, s')) :
    s'.proposals = s.proposals ++ [result.proposal] ∧ s'.fund = s.fund ∧
      ∃ proposer, result.prepare = if isPortfolio result.proposal then
          portfolioPayload s.fund result.proposal proposer d.metadataUri
        else proposePayload s.fund result.proposal d.strategy d.metadataUri := by
  simp only [draftProposal, bind_eq_ok, require_eq_ok, refuseIf_eq_ok, agentNamed_ok, pure_eq_ok,
    Prod.mk.injEq] at h
  obtain ⟨-, -, v, -, -, -, a, -, rfl, rfl⟩ := h
  exact ⟨rfl, rfl, a.address, rfl⟩

/-! ### Bodies -/

lemma keys_portfolioFields (legs : List Leg) (maxCapital strategyDuration metadataUri name
    description : String) (maxDrawdownBps : ℤ) (quoteUsdPerWood : String) :
    (portfolioFields legs maxCapital strategyDuration metadataUri name description maxDrawdownBps
      quoteUsdPerWood).map (·.1) = ["legs", "strategyDuration", "maxCapital"] ++
        (if metadataUri ≠ "" then ["metadataURI"]
          else "name" :: if description ≠ "" then ["description"] else []) ++
        ["maxDrawdownBps", "bondSwapMaxPremiumBps", "bondSwapDeadlineSeconds"] ++
        if quoteUsdPerWood ≠ "" then ["maxDriftBps", "quoteUsdPerWood"] else [] := by
  simp only [portfolioFields, metadataFields]
  split_ifs <;> rfl

lemma nodup_portfolioKeys (metadataUri description quoteUsdPerWood : String) :
    ("chainId" :: "vault" :: "proposer" :: (["legs", "strategyDuration", "maxCapital"] ++
        (if metadataUri ≠ "" then ["metadataURI"]
          else "name" :: if description ≠ "" then ["description"] else []) ++
        ["maxDrawdownBps", "bondSwapMaxPremiumBps", "bondSwapDeadlineSeconds"] ++
        if quoteUsdPerWood ≠ "" then ["maxDriftBps", "quoteUsdPerWood"] else [])).Nodup := by
  split_ifs <;> decide

lemma wellFormed_legs (legs : List Leg) : WellFormed floatOf (.arr (legs.map legJson)) := by
  have hleg : ∀ leg, WellFormed floatOf (legJson leg) := fun leg =>
    ⟨(by decide : ["weightBps", "symbol"].Nodup), trivial, trivial, trivial⟩
  change WellFormedItems floatOf (legs.map legJson)
  induction legs with
  | nil => trivial
  | cons leg legs ih => exact ⟨hleg leg, ih⟩

lemma wellFormed_portfolioBody (fund : Fund) (record : ProposalRecord)
    (proposer metadataUri : String) :
    WellFormed floatOf (portfolioBody fund record proposer metadataUri) := by
  refine ⟨?_, wellFormedFields_iff.2 ?_⟩
  · simp only [List.map_cons, keys_portfolioFields]
    exact nodup_portfolioKeys _ _ _
  · simp only [List.forall_mem_cons, portfolioFields, metadataFields, List.forall_mem_append]
    refine ⟨trivial, trivial, trivial, ⟨⟨⟨?_, ?_⟩, ?_⟩, ?_⟩⟩
    · exact ⟨wellFormed_legs _, trivial, trivial, by simp⟩
    · split_ifs <;> simp [WellFormed]
    · exact ⟨trivial, trivial, trivial, by simp⟩
    · split_ifs <;> simp [WellFormed]

/-- An entry of a portfolio's body as the page reads it. -/
lemma entry_sortKeys_portfolioBody (fund : Fund) (record : ProposalRecord)
    (proposer metadataUri : String) :
    ∃ fs gs, portfolioBody fund record proposer metadataUri = .obj fs ∧
      sortKeys (portfolioBody fund record proposer metadataUri) = .obj gs ∧
        ∀ k, entry k gs = (entry k fs).map sortKeys := by
  have hwell := @wellFormed_portfolioBody (fun _ => (0, "")) fund record proposer metadataUri
  obtain ⟨gs, hgs, hfind⟩ := find?_sortKeys hwell.1
  refine ⟨_, gs, rfl, hgs, fun k => ?_⟩
  rw [entry, hfind, entry, Option.map_map, Option.map_map]
  rfl

lemma sameApart_proposer (fund : Fund) (record : ProposalRecord) (proposer host : String) :
    SameApart "proposer" (portfolioBody fund record proposer "")
      (sortKeys (portfolioBody fund record host "")) := by
  obtain ⟨fs, gs, hfs, hgs, hentry⟩ := entry_sortKeys_portfolioBody fund record host ""
  refine ⟨_, gs, rfl, hgs, fun k hk => ?_⟩
  rw [hentry, ← Json.obj.inj hfs]
  -- the two bodies differ in the proposer's entry only
  have hskip : ∀ (a b p : String × Json) (l : List (String × Json)), p.1 = "proposer" →
      entry k (a :: b :: p :: l) = entry k (a :: b :: l) := by
    intro a b p l hp
    have hne : ¬p.1 = k := fun h => hk (h.symm.trans hp)
    simp only [entry, List.find?_cons, hne, decide_false]
  rw [hskip _ _ _ _ rfl, hskip _ _ _ _ rfl]

/-- A body with pinned metadata is not the one with a name and a description. -/
lemma not_sameApart_metadata (fund : Fund) (record : ProposalRecord) (proposer host : String)
    {metadataUri : String} (hmetadata : metadataUri ≠ "") :
    ¬SameApart "proposer" (portfolioBody fund record proposer metadataUri)
      (sortKeys (portfolioBody fund record host "")) := by
  rintro ⟨fs, gs, hfs, hgs, hsame⟩
  obtain ⟨fs', gs', hfs', hgs', hentry⟩ := entry_sortKeys_portfolioBody fund record host ""
  obtain rfl : gs = gs' := Json.obj.inj (hgs.symm.trans hgs')
  have hread := hsame "metadataURI" (by decide)
  rw [hentry] at hread
  have hnone : entry "metadataURI" fs' = none := by
    rw [← Json.obj.inj hfs', entry, Option.map_eq_none_iff, List.find?_eq_none]
    intro f hf hkey
    have hmem := List.mem_map_of_mem (f := (·.1)) hf
    simp only [List.map_cons, keys_portfolioFields, of_decide_eq_true hkey, ne_eq,
      not_true_eq_false, if_false] at hmem
    revert hmem
    split_ifs <;> decide
  have hsome : "metadataURI" ∈ fs.map (·.1) := by
    rw [← Json.obj.inj hfs]
    simp [keys_portfolioFields, hmetadata]
  rw [hnone, Option.map_none, eq_comm, Option.map_eq_none_iff, entry, Option.map_eq_none_iff,
    List.find?_eq_none] at hread
  obtain ⟨f, hf, hkey⟩ := List.mem_map.1 hsome
  exact hread f hf (by simp [hkey])

/-! ### Draft and signature -/

lemma exists_signUrl {vault action : String} (body : Json) {tg : ℤ} (ts : ℤ) (hsecret : secret ≠ "")
    (hvault : isAddress vault = true) (haction : action ∈ signActions) (htg : 0 < tg) :
    ∃ url, signUrl mac secret baseUrl vault action body (.int tg) ts = .ok url := by
  have hv : canonicalAddress vault = .ok (lower (strip vault)) := by
    rw [canonicalAddress, isAddress_strip hvault]
    rfl
  have hcanonical : canonicalTg (.int tg) = .ok (toString tg) := by
    simp only [canonicalTg, bind_eq_ok, raiseIf_eq_ok, pure_eq_ok]
    exact ⟨tg, rfl, (), htg.not_ge, rfl⟩
  simp only [signUrl, signLinkMessage, signLink, hv, hcanonical, canonicalAddress_canonical hv,
    canonicalTg_canonical hcanonical, bind_eq_ok, pure_eq_ok, raiseIf_eq_ok, Except.ok.injEq,
    exists_eq_left', not_not]
  exact ⟨_, _, ⟨(), haction, rfl⟩, _, ⟨(), hsecret, rfl⟩, rfl⟩

/-- A draft of calls is never signable: the stored record has no strategy to propose with. -/
lemma not_ready_of_calls {fund : Fund} {record : ProposalRecord}
    (h : isPortfolio record = false) : (signingPrepare fund record).ready = false := by
  rw [signingPrepare, h, if_neg (by decide), Bool.eq_false_iff]
  intro hready
  exact (proposeMissing_nil (proposePayload_ready hready).1).1 rfl

/-- Where a draft's request was ready, and later its record is found by its id and still a draft,
with the fund record as it was, the host's link carries the same request if and only if the
request is a portfolio's without pinned metadata. In every other case no link is issued, or the
link asks to sign another body. -/
theorem signing_agrees_iff {s s' : FundState} {agent : String} {d : Draft} {now stamp : Time}
    {result : DraftResult} (hdraft : draftProposal agent d now s = .ok (result, s'))
    (hready : result.prepare.ready = true) (writes : List Write) {r : ProposalRecord}
    (hfind : (writeStore.runOps writes (bump s' stamp)).proposal result.proposal.id =
      .ok (some (s.proposals.length, r)))
    (hstatus : r.status = .draft)
    (hfund : (writeStore.runOps writes (bump s' stamp)).fund = s.fund)
    (hsecret : secret ≠ "") (hhost : isAddress s.fund.host = true) {tg : ℤ} (htg : 0 < tg)
    (hid : s.fund.hostTelegramId = toString tg) (ts : ℤ)
    (hlength : ∀ url, signUrl mac secret baseUrl s.fund.vault (signingPrepare s.fund r).route
      (signingPrepare s.fund r).body (.int tg) ts = .ok url → url.length ≤ signUrlMax) :
    (∃ url, hostSigningUrl mac secret baseUrl (writeStore.runOps writes (bump s' stamp))
        result.proposal.id tg ts = .ok (some url) ∧
          Carries floatOf baseUrl result.prepare url) ↔
      isPortfolio result.proposal = true ∧ d.metadataUri = "" := by
  obtain ⟨hproposals, -, proposer, hprepare⟩ := draftProposal_prepare hdraft
  have hnew : (bump s' stamp).proposals[s.proposals.length]? = some result.proposal := by
    change s'.proposals[s.proposals.length]? = some result.proposal
    rw [hproposals, List.getElem?_append_right le_rfl, Nat.sub_self]
    rfl
  obtain ⟨r', hr', hsame⟩ := sameProposal_runOps hnew writes
  obtain rfl : r = r' := Option.some.inj ((proposal_getElem? hfind).symm.trans hr')
  obtain ⟨hsigning, hportfolio⟩ := signingPrepare_congr s.fund hsame.terms
  have hne : toString tg ≠ "" := by
    intro h
    have hread := int?_toString tg
    have hempty : int? "" = none := by decide
    rw [h, hempty] at hread
    cases hread
  have hurl : hostSigningUrl mac secret baseUrl (writeStore.runOps writes (bump s' stamp))
      result.proposal.id tg ts = .ok (if (signingPrepare s.fund result.proposal).ready then
        signUrlOrNone mac secret baseUrl s.fund (signingPrepare s.fund result.proposal).route
          (signingPrepare s.fund result.proposal).body tg ts else none) := by
    simp only [hostSigningUrl, hfind, hfund, hid, hstatus, hne, hsigning, bind, Except.bind, pure,
      Except.pure, ne_eq, not_true_eq_false, or_self, if_false]
    split_ifs <;> rfl
  rw [hsigning] at hlength
  rw [hurl]
  cases hkind : isPortfolio result.proposal with
  | false =>
    rw [not_ready_of_calls hkind]
    simp
  | true =>
    have hsignable : signingPrepare s.fund result.proposal =
        portfolioPayload s.fund result.proposal s.fund.host "" := if_pos hkind
    rw [if_pos hkind] at hprepare
    rw [hprepare] at hready
    obtain ⟨hduration, hok, -⟩ := portfolioPayload_ready.1 hready
    have hready' : (portfolioPayload s.fund result.proposal s.fund.host "").ready = true :=
      portfolioPayload_ready.2 ⟨hduration, { hok with metadata := Or.inl rfl }, hhost⟩
    rw [hsignable] at hlength ⊢
    rw [hready', if_pos rfl, hprepare, portfolioPayload_body hready]
    rw [portfolioPayload_body hready'] at hlength ⊢
    obtain ⟨url, hsign⟩ := @exists_signUrl mac secret baseUrl _ _
      (portfolioBody s.fund result.proposal s.fund.host "") _ ts hsecret hok.address
      (by decide : "propose-portfolio" ∈ signActions) htg
    have hlink : signUrlOrNone mac secret baseUrl s.fund "propose-portfolio"
        (portfolioBody s.fund result.proposal s.fund.host "") tg ts = some url := by
      simp only [signUrlOrNone, if_neg hsecret, buildSignLink, hsign, bind, Except.bind, pure,
        Except.pure, if_pos (hlength url hsign)]
    simp only [hlink, Except.ok.injEq, Option.some.injEq, exists_eq_left', true_and,
      carries_iff hsign (wellFormed_portfolioBody _ _ _ _)]
    constructor
    · intro hsame
      by_contra hmetadata
      exact not_sameApart_metadata _ _ _ _ hmetadata hsame
    · rintro hmetadata
      rw [hmetadata]
      exact sameApart_proposer _ _ _ _

/-- What the length of a signing link depends on. -/
lemma length_signUrl {vault action url : String} {body tgUserId : Json} {ts : ℤ}
    (h : signUrl mac secret baseUrl vault action body tgUserId ts = .ok url) :
    ∃ v tg m, canonicalAddress vault = .ok v ∧ canonicalTg tgUserId = .ok tg ∧ url.length =
      (base baseUrl).length + v.length + action.length + (encodeSignBody body).length + tg.length +
        (toString ts).length + (mac.hexdigest secret m).length + 41 := by
  simp only [signUrl, bind_eq_ok, pure_eq_ok] at h
  obtain ⟨v, hv, tg, htg, m, -, sig, hsig, rfl⟩ := h
  obtain ⟨-, rfl⟩ := signLink_ok hsig
  refine ⟨v, tg, m, hv, htg, ?_⟩
  have hpath : "/tg/sign".length = 8 := by decide
  have hnames : "fund".toList.length = 4 ∧ "action".toList.length = 6 ∧ "body".toList.length = 4 ∧
      "tg".toList.length = 2 ∧ "ts".toList.length = 2 ∧ "sig".toList.length = 3 := by decide
  obtain ⟨hfund, haction, hbody, htg, hts, hsig⟩ := hnames
  simp only [length_linkUrl, query, List.map_cons, List.map_nil, List.intercalate_cons_cons,
    List.intercalate_singleton, List.length_append, List.length_cons, List.length_nil,
    hfund, haction, hbody, htg, hts, hsig, hpath, String.length_toList]
  omega

def signState : FundState :=
  { sampleState with
    fund := { sampleState.fund with host := "0x00000000000000000000000000000000000000a1" }
    claims := [{ agent := "Iris", topic := "TSLA momentum", expiresAt := 5000 }] }

def symbolDraft : Draft :=
  { sampleDraft with legs := [{ summary := "buy TSLA", symbol := "tsla", weightBps := 10000 }] }

/-- The host's link for a drafted portfolio, read before anything else is written. -/
theorem signing_agrees_symbol :
    ∃ result s', draftProposal "Iris" symbolDraft 2000 signState = .ok (result, s') ∧
      ∃ url, hostSigningUrl vectorMac "s" "" (bump s' 2000) "p-1" 100 1762300800 = .ok (some url) ∧
        Carries (fun _ => (0, "")) "" result.prepare url := by
  have hrun : (match draftProposal "Iris" symbolDraft 2000 signState with
      | .ok (result, s') => decide (result.prepare.ready = true ∧ result.proposal.id = "p-1" ∧
          isPortfolio result.proposal = true ∧ result.proposal.status = .draft ∧
            s'.fund = signState.fund ∧
              (bump s' 2000).proposal "p-1" = .ok (some (0, result.proposal)))
      | .error _ => false) = true := by
    decide +kernel
  have hbody : (match draftProposal "Iris" symbolDraft 2000 signState with
      | .ok (result, _) => decide ((b64url (utf8 (dumpsChars (sortKeys
          (signingPrepare signState.fund result.proposal).body)))).length ≤ 1000)
      | .error _ => false) = true := by
    decide +kernel
  revert hrun hbody
  cases hdraft : draftProposal "Iris" symbolDraft 2000 signState with
  | error e => exact fun h => nomatch h
  | ok drafted =>
    obtain ⟨result, s'⟩ := drafted
    simp only [decide_eq_true_eq]
    rintro ⟨hready, hid, hportfolio, hstatus, hfund, hfind⟩ hbody
    refine ⟨result, s', rfl, ?_⟩
    rw [← hid] at hfind ⊢
    refine (signing_agrees_iff hdraft hready [] hfind hstatus hfund (by decide) (by decide +kernel)
      (by decide) (by decide +kernel) 1762300800 ?_).2 ⟨hportfolio, rfl⟩
    intro url hurl
    obtain ⟨v, tg, m, hv, htg, hlength⟩ := length_signUrl hurl
    have hvault : canonicalAddress signState.fund.vault =
        .ok "0x00000000000000000000000000000000000000f1" := by decide +kernel
    have htg' : canonicalTg (.int 100) = .ok "100" := by decide +kernel
    have haction : (signingPrepare signState.fund result.proposal).route = "propose-portfolio" := by
      rw [signingPrepare, if_pos hportfolio, portfolioPayload]
      split <;> rfl
    have hencoded : (encodeSignBody (signingPrepare signState.fund result.proposal).body).length ≤
        1000 := by
      rw [encodeSignBody, dumps, String.toList_ofList, String.length_ofList]
      exact hbody
    have hsizes : (base "").length = 23 ∧
        "0x00000000000000000000000000000000000000f1".length = 42 ∧
        "propose-portfolio".length = 17 ∧ "100".length = 3 ∧
        (toString (1762300800 : ℤ)).length = 10 ∧ (vectorMac.hexdigest "" "").length = 64 := by
      decide +kernel
    have hsig : vectorMac.hexdigest "s" m = vectorMac.hexdigest "" "" := rfl
    obtain ⟨h1, h2, h3, h4, h5, h6⟩ := hsizes
    rw [← Except.ok.inj (hvault.symm.trans hv), ← Except.ok.inj (htg'.symm.trans htg), haction, h1,
      h2, h3, h4, h5, hsig, h6] at hlength
    rw [hlength, signUrlMax]
    omega

def callDraft : Draft :=
  { sampleDraft with
    legs := [{ summary := "call", target := "0x00000000000000000000000000000000000000d4",
               data := "0x00", cap := "5" }]
    strategy := "0x00000000000000000000000000000000000000e5"
    metadataUri := "ipfs://bafy" }

/-- The host has no link for calls that were ready to propose. -/
theorem signing_disagrees_calls :
    (match draftProposal "Iris" callDraft 2000 signState with
    | .ok (result, s') => some (result.prepare.ready, result.proposal.status, result.proposal.id,
        hostSigningUrl vectorMac "s" "" (bump s' 2000) result.proposal.id 100 1762300800)
    | .error _ => none) = some (true, .draft, "p-1", .ok none) := by
  decide +kernel

end SherwoodMonitor.SigningUrl
