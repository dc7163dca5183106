import SherwoodMonitor.DeliveryPaths

/-! The link of a tap and the link of the DM for its payload: when they are the same
(`telegram/handler.py`). -/
namespace SherwoodMonitor.DeliveryAgreement
open PyUnicode PyText PyNumber PyJson Models FundState Rules Service TxBuilder Effects FundWrites
  FundDisk ChainCard DisplayedIds Links LinkMessages LinkUrls LinkRoundTrips PayloadCodecs
  SigningUrl DeliveryPaths

variable {bot : Bot} {disk : Disk} {kind vault : String} {userId ts : ℤ} {link : Link}

/-! ### What the payload leads to -/

lemma startPayload_eq_some {payload : String} {item : Json} :
    startPayload kind vault item = some payload ↔
      encodeStartPayload kind vault item = .ok payload := by
  rw [startPayload]
  cases encodeStartPayload kind vault item <;> simp [Except.toOption]

/-- The vault leads to this fund, which the bot serves. -/
def Reaches (bot : Bot) (disk : Disk) (vault : String) (leads : Fund) : Prop :=
  ∃ v st, canonicalAddress vault = .ok v ∧ stateForVault disk v = some st ∧ st.fund = leads ∧
    ∀ chat ∈ int? leads.telegramChatId, bot.chatAllowed chat = true

/-- The DM for a payload is answered from the fund that its vault leads to. -/
lemma cmdStart_payload {payload : String} {item : Json} {later : ℤ}
    (h : encodeStartPayload kind vault item = .ok payload) :
    cmdStart bot disk ("/start " ++ payload) userId later = some link ↔
      ∃ leads, Reaches bot disk vault leads ∧
        startLink bot disk kind ((itemText item).map fun s => String.ofList (beforeDollar s)) leads
          userId later = some link := by
  obtain ⟨v, hv, hread⟩ := @read_payload bot.isWord _ _ _ _ h
  obtain ⟨token, htoken, hdecode⟩ := Option.bind_eq_some_iff.1 hread
  rw [cmdStart, htoken]
  simp only [Option.bind_eq_bind, Option.bind_some, hdecode, Option.bind_eq_some_iff]
  constructor
  · rintro ⟨st, hst, hlink⟩
    refine ⟨st.fund, ⟨v, st, hv, hst, rfl, ?_⟩, hlink⟩
    rw [startLink] at hlink
    simp only [Option.bind_eq_bind, Option.bind_eq_some_iff, Option.guard_eq_some'] at hlink
    obtain ⟨-, hallowed, -⟩ := hlink
    exact hallowed
  · rintro ⟨leads, ⟨v', st, hv', hst, rfl, -⟩, hlink⟩
    rw [hv] at hv'
    cases hv'
    exact ⟨st, hst, hlink⟩

section
variable {leads : Fund} (hallowed : ∀ chat ∈ int? leads.telegramChatId, bot.chatAllowed chat = true)
include hallowed

lemma startLink_fund {item : Option String} (hpropose : kind ≠ "propose") (hvote : kind ≠ "vote") :
    startLink bot disk kind item leads userId ts = some link ↔ bot.secret ≠ "" ∧
      bot.link kind (.personal kind (.int userId) (some leads.vault) none .null ts) =
        some link := by
  rw [startLink]
  simp only [Option.bind_eq_bind, Option.bind_eq_some_iff, Option.guard_eq_some', if_neg hpropose,
    if_neg hvote]
  exact ⟨fun ⟨_, _, _, hsecret, hlink⟩ => ⟨hsecret, hlink⟩,
    fun ⟨hsecret, hlink⟩ => ⟨(), hallowed, (), hsecret, hlink⟩⟩

lemma startLink_vote {item : String} :
    startLink bot disk "vote" (some item) leads userId ts = some link ↔ bot.secret ≠ "" ∧
      bot.link "vote" (.personal "vote" (.int userId) none (some leads.governor) (.str item) ts) =
        some link := by
  have hpropose : "vote" ≠ "propose" := by decide
  rw [startLink]
  simp only [Option.bind_eq_bind, Option.bind_eq_some_iff, Option.guard_eq_some', if_neg hpropose,
    if_true, Option.elim_some]
  exact ⟨fun ⟨_, _, _, hsecret, hlink⟩ => ⟨hsecret, hlink⟩,
    fun ⟨hsecret, hlink⟩ => ⟨(), hallowed, (), hsecret, hlink⟩⟩

lemma startLink_propose {item : String} :
    startLink bot disk "propose" (some item) leads userId ts = some link ↔
      int? leads.hostTelegramId = some userId ∧
        ∃ call, gatewaySigningCall disk ((int? leads.telegramChatId).getD 0) item userId ts =
            some call ∧ bot.link "propose" call = some link := by
  rw [startLink]
  simp only [Option.bind_eq_bind, Option.bind_eq_some_iff, Option.guard_eq_some', if_true,
    Option.getD_some]
  exact ⟨fun ⟨_, _, _, hhost, hlink⟩ => ⟨hhost, hlink⟩,
    fun ⟨hhost, hlink⟩ => ⟨(), hallowed, (), hhost, hlink⟩⟩

end

/-! ### Agreement -/

lemma isTokenChar_of_mem_toString {n : ℤ} {c : Char} (hc : c ∈ (toString n).toList) :
    isTokenChar c = true := by
  cases n with
  | ofNat n =>
    rw [Int.ofNat_eq_natCast, toList_natCast] at hc
    simp [isTokenChar, Char.isAlphanum, isDigit_of_mem hc]
  | negSucc n =>
    rw [toList_negSucc, List.mem_cons] at hc
    rcases hc with rfl | hc
    · decide
    · simp [isTokenChar, Char.isAlphanum, isDigit_of_mem hc]

/-- The number of an on-chain proposal comes back as it is. -/
lemma beforeDollar_toString (n : ℤ) : String.ofList (beforeDollar (toString n)) = toString n := by
  rw [(beforeDollar_eq fun c hc => isTokenChar_of_mem_toString hc).2 (Or.inl rfl),
    String.ofList_toList]

lemma strip_beforeDollar (s : String) : strip (String.ofList (beforeDollar s)) = strip s := by
  rw [beforeDollar]
  split_ifs with hlast
  · obtain ⟨l, hl⟩ := List.getLast?_eq_some_iff.1 hlast
    rw [hl, List.dropLast_concat, strip, strip, String.toList_ofList, hl,
      stripChars_concat (by decide)]
  · rw [String.ofList_toList]

/-- A lookup does not see a newline at the end of the id. -/
lemma recordOf_beforeDollar (fund : Fund) (arg : String) :
    recordOf disk fund (String.ofList (beforeDollar arg)) = recordOf disk fund arg := by
  simp only [recordOf, FundState.proposal, strip_beforeDollar]

variable {found : Fund} {action arg payload : String} {later chatId : ℤ} {offer : Offer}

/-- A join, deposit or withdraw link is made for the fund's vault on either way. -/
lemma agree_fund (haction : action ∈ fundLinkKinds)
    (hoffer : cbFundLink bot found action arg userId ts = some offer)
    (hpayload : offer.payload = some payload) :
    cmdStart bot disk ("/start " ++ payload) userId later = some offer.link ↔
      ∃ leads, Reaches bot disk found.vault leads ∧
        canonicalAddress leads.vault = canonicalAddress found.vault := by
  have hne : action ≠ "propose" ∧ action ≠ "vote" := by
    simp only [fundLinkKinds, List.mem_cons, List.not_mem_nil, or_false] at haction
    rcases haction with rfl | rfl | rfl <;> decide
  rw [cbFundLink] at hoffer
  simp only [Option.bind_eq_bind, Option.bind_eq_some_iff, Option.guard_eq_some', Option.pure_def,
    Option.some.injEq] at hoffer
  obtain ⟨-, -, -, hsecret, link, hlink, rfl⟩ := hoffer
  simp only [fundToView] at hlink hpayload
  obtain ⟨v, hv, hpos, -, rfl⟩ := (link_fund haction).1 hlink
  rw [cmdStart_payload (startPayload_eq_some.1 hpayload)]
  refine exists_congr fun leads => and_congr_right fun hreach => ?_
  obtain ⟨-, -, -, -, -, hallowed⟩ := hreach
  rw [startLink_fund hallowed hne.1 hne.2, link_fund haction, hv]
  constructor
  · rintro ⟨-, v', hv', -, -, heq⟩
    obtain rfl : v = v' := by simpa using heq
    exact hv'
  · exact fun hv' => ⟨hsecret, v, hv', hpos, hsecret, rfl⟩

/-- The governor that a vote on the proposal is signed for. -/
def boundGovernor (fund found : Fund) (record : ProposalRecord) : String :=
  orElse (orElse record.governor fund.governor) found.governor

/-- A vote is signed for the governor that the proposal is bound to, and in the DM for the governor
of the fund. -/
lemma agree_vote (hoffer : cbVote bot disk found arg userId ts = some offer)
    (hpayload : offer.payload = some payload) :
    cmdStart bot disk ("/start " ++ payload) userId later = some offer.link ↔
      ∃ leads, Reaches bot disk found.vault leads ∧
        ∃ st record, recordOf disk found arg = some (st, record) ∧
          canonicalAddress leads.governor =
            canonicalAddress (boundGovernor st.fund found record) := by
  rw [cbVote] at hoffer
  simp only [Option.bind_eq_bind, Option.bind_eq_some_iff, Option.guard_eq_some', Option.pure_def,
    Option.some.injEq] at hoffer
  obtain ⟨⟨st, record⟩, hrecord, -, -, n, -, -, hsecret, link, hlink, rfl⟩ := hoffer
  simp only [fundToView] at hlink hpayload
  obtain ⟨g, pid, hg, hpid, hpos, -, rfl⟩ := (link_vote (by simp)).1 hlink
  have hpid' : canonicalProposalId (.str (toString n)) = .ok pid := by
    simp only [canonicalProposalId, bind_eq_ok, pure_eq_ok, raiseIf_eq_ok] at hpid ⊢
    exact hpid
  rw [cmdStart_payload (startPayload_eq_some.1 hpayload)]
  refine exists_congr fun leads => and_congr_right fun hreach => ?_
  obtain ⟨-, -, -, -, -, hallowed⟩ := hreach
  have hitem : (itemText (.int n)).map (fun s => String.ofList (beforeDollar s)) =
      some (toString n) := congrArg some (beforeDollar_toString n)
  rw [hitem, startLink_vote hallowed, link_vote (by simp)]
  constructor
  · rintro ⟨-, g', pid', hg', -, -, -, heq⟩
    obtain ⟨rfl, -⟩ : g = g' ∧ pid = pid' := by simpa using heq
    exact ⟨st, record, hrecord, hg'.trans hg.symm⟩
  · rintro ⟨st', record', hrecord', hsame⟩
    rw [hrecord] at hrecord'
    obtain ⟨rfl, rfl⟩ := Prod.mk.inj (Option.some.inj hrecord')
    exact ⟨hsecret, g, pid, hsame.trans hg, hpid', hpos, hsecret, rfl⟩

/-- A draft that this user can sign as the host. -/
structure Signable (fund : Fund) (record : ProposalRecord) (userId : ℤ) : Prop where
  draft : record.status = .draft
  host : fund.hostTelegramId = toString userId
  ready : (signingPrepare fund record).ready = true

lemma hostSigningCall_eq_some {fund : Fund} {record : ProposalRecord} {call : LinkCall} :
    hostSigningCall fund record userId ts = some call ↔
      Signable fund record userId ∧ call = .sign fund.vault (signingPrepare fund record).route
        (signingPrepare fund record).body (.int userId) ts := by
  simp only [hostSigningCall]
  constructor
  · intro h
    split_ifs at h with hdraft hhost hready
    obtain ⟨-, hhost⟩ := not_or.1 hhost
    exact ⟨⟨not_not.1 hdraft, (not_not.1 hhost).symm, hready⟩, (Option.some.inj h).symm⟩
  · rintro ⟨⟨hdraft, hhost, hready⟩, rfl⟩
    have hne : toString userId ≠ "" := by
      intro hempty
      have hread := int?_toString userId
      rw [hempty] at hread
      cases hread
    have hmatch : ¬(fund.hostTelegramId = "" ∨ toString userId ≠ fund.hostTelegramId) := by
      rw [hhost]
      exact not_or.2 ⟨hne, not_not.2 rfl⟩
    rw [if_neg (not_not.2 hdraft), if_neg hmatch, if_pos hready]

/-- The call is the one whose link `host_signing_url` returns. -/
lemma hostSigningUrl_eq_some {keccak : String → ℕ → ℕ} {mac : Mac} {secret baseUrl url : String}
    {state : FundState} :
    hostSigningUrl mac secret baseUrl state arg userId ts = .ok (some url) ↔
      ∃ i record call, state.proposal arg = .ok (some (i, record)) ∧
        hostSigningCall state.fund record userId ts = some call ∧
        call.build keccak mac secret baseUrl = .ok (some url) := by
  have hurl : ∀ record : ProposalRecord, signUrlOrNone mac secret baseUrl state.fund
      (signingPrepare state.fund record).route (signingPrepare state.fund record).body userId ts =
        some url ↔ (LinkCall.sign state.fund.vault (signingPrepare state.fund record).route
          (signingPrepare state.fund record).body (.int userId) ts).build keccak mac secret
            baseUrl = .ok (some url) := by
    intro record
    rw [signUrlOrNone, LinkCall.build]
    constructor
    · intro h
      split_ifs at h
      split at h
      · next hbuild => rw [hbuild, h]
      · cases h
    · intro h
      have hsecret : secret ≠ "" := by
        simp only [buildSignLink, signUrl, bind_eq_ok] at h
        obtain ⟨_, ⟨_, _, _, _, _, _, sig, hsig, -⟩, -⟩ := h
        exact (signLink_eq_ok.1 hsig).1
      rw [if_neg hsecret, h]
  simp only [hostSigningUrl, bind_eq_ok]
  constructor
  · rintro ⟨found, hfound, h⟩
    cases found with
    | none => cases h
    | some entry =>
      obtain ⟨i, record⟩ := entry
      simp only at h
      by_cases hdraft : record.status ≠ .draft
      · rw [if_pos hdraft] at h
        cases h
      by_cases hhost : state.fund.hostTelegramId = "" ∨ toString userId ≠ state.fund.hostTelegramId
      · rw [if_neg hdraft, if_pos hhost] at h
        cases h
      by_cases hready : (signingPrepare state.fund record).ready = true
      · rw [if_neg hdraft, if_neg hhost, if_pos hready] at h
        refine ⟨i, record, _, hfound, ?_, (hurl record).1 (Except.ok.inj h)⟩
        simp only [hostSigningCall, if_neg hdraft, if_neg hhost, if_pos hready]
      · rw [if_neg hdraft, if_neg hhost, if_neg hready] at h
        cases h
  · rintro ⟨i, record, call, hfound, hcall, hbuild⟩
    obtain ⟨⟨hdraft, hhost, hready⟩, rfl⟩ := hostSigningCall_eq_some.1 hcall
    refine ⟨some (i, record), hfound, ?_⟩
    simp only [hostSigningCall] at hcall
    split_ifs at hcall with hdraft' hhost'
    simp only [if_neg hdraft', if_neg hhost', hready, if_true, (hurl record).2 hbuild]
    rfl

/-- The fund of the chat has under this id a draft with the same request to sign. -/
def SameDraft (bot : Bot) (disk : Disk) (found leads : Fund) (arg : String) (userId later : ℤ) :
    Prop :=
  ∃ st record other st' record', recordOf disk found arg = some (st, record) ∧
    stateForChat disk ((int? leads.telegramChatId).getD 0) = some other ∧
    recordOf disk other.fund arg = some (st', record') ∧ Signable st'.fund record' userId ∧
    canonicalAddress st'.fund.vault = canonicalAddress st.fund.vault ∧
    (signingPrepare st'.fund record').route = (signingPrepare st.fund record).route ∧
    encodeSignBody (signingPrepare st'.fund record').body =
      encodeSignBody (signingPrepare st.fund record).body ∧
    bot.Fits st'.fund.vault (signingPrepare st'.fund record').route
      (signingPrepare st'.fund record').body userId later

lemma gatewaySigningCall_eq_some {call : LinkCall} :
    gatewaySigningCall disk chatId arg userId ts = some call ↔
      ∃ other st record, stateForChat disk chatId = some other ∧
        recordOf disk other.fund arg = some (st, record) ∧ Signable st.fund record userId ∧
        call = .sign st.fund.vault (signingPrepare st.fund record).route
          (signingPrepare st.fund record).body (.int userId) ts := by
  rw [gatewaySigningCall]
  simp only [Option.bind_eq_bind, Option.bind_eq_some_iff, hostSigningCall_eq_some]
  constructor
  · rintro ⟨other, hother, ⟨st, record⟩, hrecord, hsign, rfl⟩
    exact ⟨other, st, record, hother, hrecord, hsign, rfl⟩
  · rintro ⟨other, st, record, hother, hrecord, hsign, rfl⟩
    exact ⟨other, hother, (st, record), hrecord, hsign, rfl⟩

/-- A signing link is made for the draft of the fund's chat, in the DM for the chat of the fund that
the vault leads to. -/
lemma agree_propose {found : FundState} (hfound : stateForChat disk chatId = some found)
    (hoffer : cbPropose bot disk found.fund chatId arg userId ts = some offer)
    (hpayload : offer.payload = some payload) :
    cmdStart bot disk ("/start " ++ payload) userId later = some offer.link ↔
      ∃ leads, Reaches bot disk found.fund.vault leads ∧
        int? leads.hostTelegramId = some userId ∧
          SameDraft bot disk found.fund leads arg userId later := by
  rw [cbPropose] at hoffer
  simp only [Option.bind_eq_bind, Option.bind_eq_some_iff, Option.pure_def, Option.some.injEq]
    at hoffer
  obtain ⟨call, hcall, link, hlink, rfl⟩ := hoffer
  simp only [fundToView] at hpayload
  obtain ⟨other, st, record, hother, hrecord, hsign, rfl⟩ := gatewaySigningCall_eq_some.1 hcall
  rw [hfound] at hother
  obtain rfl := Option.some.inj hother
  obtain ⟨v, hv, haction, hpos, hsecret, -, rfl⟩ := link_sign.1 hlink
  rw [cmdStart_payload (startPayload_eq_some.1 hpayload)]
  refine exists_congr fun leads => and_congr_right fun hreach => ?_
  obtain ⟨-, -, -, -, -, hallowed⟩ := hreach
  have hitem : (itemText (.str arg)).map (fun s => String.ofList (beforeDollar s)) =
      some (String.ofList (beforeDollar arg)) := rfl
  rw [hitem, startLink_propose hallowed]
  refine and_congr_right fun _ => ?_
  constructor
  · rintro ⟨call, hcall, hlink⟩
    obtain ⟨other, st', record', hother, hrecord', hsign', rfl⟩ :=
      gatewaySigningCall_eq_some.1 hcall
    rw [recordOf_beforeDollar] at hrecord'
    obtain ⟨v', hv', -, -, -, hfits, heq⟩ := link_sign.1 hlink
    simp only [Link.mk.injEq, Canonical.sign.injEq, true_and, and_true] at heq
    obtain ⟨rfl, hroute, hbody⟩ := heq
    exact ⟨st, record, other, st', record', hrecord, hother, hrecord', hsign', hv'.trans hv.symm,
      hroute.symm, hbody.symm, hfits⟩
  · rintro ⟨st₀, record₀, other, st', record', hrecord₀, hother, hrecord', hsign', hvault, hroute,
      hbody, hfits⟩
    rw [hrecord] at hrecord₀
    obtain ⟨rfl, rfl⟩ := Prod.mk.inj (Option.some.inj hrecord₀)
    refine ⟨_, gatewaySigningCall_eq_some.2 ⟨other, st', record', hother, ?_, hsign', rfl⟩, ?_⟩
    · rw [recordOf_beforeDollar]
      exact hrecord'
    · rw [link_sign]
      exact ⟨v, hvault.trans hv, hroute ▸ haction, hpos, hsecret, hfits, by rw [hroute, hbody]⟩

/-- A tap that hands out a link. -/
lemma onCallback_eq_some {tap : Tap} (h : onCallback bot disk tap ts = some offer) :
    ∃ action arg found, parseCb tap.data = some (action, arg) ∧
      bot.chatAllowed tap.chatId = true ∧ stateForChat disk tap.chatId = some found ∧
      (action ∉ hostOnlyActions ∨ int? found.fund.hostTelegramId = some tap.userId) ∧
      (action = "vote" ∧ cbVote bot disk found.fund arg tap.userId ts = some offer ∨
        action ∈ fundLinkKinds ∧ cbFundLink bot found.fund action arg tap.userId ts = some offer ∨
        action = "propose" ∧
          cbPropose bot disk found.fund tap.chatId arg tap.userId ts = some offer) := by
  rw [onCallback] at h
  simp only [Option.bind_eq_bind, Option.bind_eq_some_iff, Option.guard_eq_some'] at h
  obtain ⟨⟨action, arg⟩, hparse, -, hallowed, found, hfound, -, hhost, h⟩ := h
  refine ⟨action, arg, found, hparse, hallowed, hfound, hhost, ?_⟩
  split_ifs at h with hvote hfund hpropose
  · exact Or.inl ⟨hvote, h⟩
  · refine Or.inr (Or.inl ⟨?_, h⟩)
    simp only [fundLinkKinds, List.mem_cons, List.not_mem_nil, or_false] at hfund ⊢
    tauto
  · exact Or.inr (Or.inr ⟨hpropose, h⟩)

/-- What the fund that the vault leads to must have for the link of the DM to be the same. -/
def Matches (bot : Bot) (disk : Disk) (found leads : Fund) (action arg : String)
    (userId later : ℤ) : Prop :=
  if action = "vote" then
    ∃ st record, recordOf disk found arg = some (st, record) ∧
      canonicalAddress leads.governor = canonicalAddress (boundGovernor st.fund found record)
  else if action = "propose" then
    int? leads.hostTelegramId = some userId ∧ SameDraft bot disk found leads arg userId later
  else canonicalAddress leads.vault = canonicalAddress found.vault

/-- The vault of the tapped fund leads to a fund that the bot serves and that matches. -/
def LeadsToSame (bot : Bot) (disk : Disk) (tap : Tap) (later : ℤ) : Prop :=
  ∃ action arg found leads, parseCb tap.data = some (action, arg) ∧
    stateForChat disk tap.chatId = some found ∧ Reaches bot disk found.fund.vault leads ∧
    Matches bot disk found.fund leads action arg tap.userId later

/-- The tapped fund is the one that its vault leads to. -/
def LeadsBack (disk : Disk) (found : FundState) : Prop :=
  ∀ v, canonicalAddress found.fund.vault = .ok v → stateForVault disk v = some found

/-- A vote is on a proposal that is bound to the governor of its fund. -/
def BoundToFund (disk : Disk) (found : Fund) (tap : Tap) : Prop :=
  ∀ arg st record, parseCb tap.data = some ("vote", arg) →
    recordOf disk found arg = some (st, record) →
      canonicalAddress found.governor = canonicalAddress (boundGovernor st.fund found record)

/-- The payload of a tap is made from the vault of the tapped fund. -/
lemma exists_canonical_vault {found : Fund}
    (h : cbVote bot disk found arg userId ts = some offer ∨
      cbFundLink bot found action arg userId ts = some offer ∨
        cbPropose bot disk found chatId arg userId ts = some offer)
    (hpayload : offer.payload = some payload) : ∃ v, canonicalAddress found.vault = .ok v := by
  have hbuilt : ∃ kind item, startPayload kind found.vault item = some payload := by
    rcases h with h | h | h
    · rw [cbVote] at h
      simp only [Option.bind_eq_bind, Option.bind_eq_some_iff, Option.pure_def,
        Option.some.injEq] at h
      obtain ⟨-, -, -, -, n, -, -, -, link, -, rfl⟩ := h
      simp only [fundToView] at hpayload
      exact ⟨"vote", .int n, hpayload⟩
    · rw [cbFundLink] at h
      simp only [Option.bind_eq_bind, Option.bind_eq_some_iff, Option.pure_def,
        Option.some.injEq] at h
      obtain ⟨-, -, -, -, link, -, rfl⟩ := h
      simp only [fundToView] at hpayload
      exact ⟨action, .null, hpayload⟩
    · rw [cbPropose] at h
      simp only [Option.bind_eq_bind, Option.bind_eq_some_iff, Option.pure_def,
        Option.some.injEq] at h
      obtain ⟨call, -, link, -, rfl⟩ := h
      simp only [fundToView] at hpayload
      exact ⟨"propose", .str arg, hpayload⟩
  obtain ⟨kind, item, hbuilt⟩ := hbuilt
  obtain ⟨-, v, -, -, hv, -⟩ := encode_eq_ok.1 (startPayload_eq_some.1 hbuilt)
  exact ⟨v, hv⟩

lemma leadsToSame_iff {tap : Tap} {found : FundState}
    (hparse : parseCb tap.data = some (action, arg))
    (hfound : stateForChat disk tap.chatId = some found) :
    LeadsToSame bot disk tap later ↔ ∃ leads, Reaches bot disk found.fund.vault leads ∧
      Matches bot disk found.fund leads action arg tap.userId later := by
  constructor
  · rintro ⟨action', arg', found', leads, hparse', hfound', hreach, hmatches⟩
    rw [hparse] at hparse'
    rw [hfound] at hfound'
    obtain ⟨rfl, rfl⟩ := Prod.mk.inj (Option.some.inj hparse')
    obtain rfl := Option.some.inj hfound'
    exact ⟨leads, hreach, hmatches⟩
  · rintro ⟨leads, hreach, hmatches⟩
    exact ⟨action, arg, found, leads, hparse, hfound, hreach, hmatches⟩

lemma fundLinkKinds_ne (h : action ∈ fundLinkKinds) : action ≠ "vote" ∧ action ≠ "propose" := by
  simp only [fundLinkKinds, List.mem_cons, List.not_mem_nil, or_false] at h
  rcases h with rfl | rfl | rfl <;> decide

lemma delivery_agrees {tap : Tap} (hoffer : onCallback bot disk tap ts = some offer)
    (hpayload : offer.payload = some payload) :
    cmdStart bot disk ("/start " ++ payload) tap.userId later = some offer.link ↔
      LeadsToSame bot disk tap later := by
  obtain ⟨action, arg, found, hparse, -, hfound, -, hcase⟩ := onCallback_eq_some hoffer
  rw [leadsToSame_iff hparse hfound]
  rcases hcase with ⟨rfl, hvote⟩ | ⟨hkind, hfund⟩ | ⟨rfl, hpropose⟩
  · simp only [Matches, if_true]
    exact agree_vote hvote hpayload
  · simp only [Matches, if_neg (fundLinkKinds_ne hkind).1, if_neg (fundLinkKinds_ne hkind).2]
    exact agree_fund hkind hfund hpayload
  · have hne : "propose" ≠ "vote" := by decide
    simp only [Matches, if_neg hne, if_true]
    exact agree_propose hfound hpropose hpayload

/-- A draft that was offered to sign is the same draft when it is asked for again. -/
lemma sameDraft_self {found : FundState} (hfound : stateForChat disk chatId = some found)
    (hchat : int? found.fund.telegramChatId = some chatId)
    (hoffer : cbPropose bot disk found.fund chatId arg userId ts = some offer)
    (hdigest : ∀ m, (bot.mac.hexdigest bot.secret m).length = 64)
    (hdigits : (toString later).length = (toString ts).length) :
    SameDraft bot disk found.fund found.fund arg userId later := by
  rw [cbPropose] at hoffer
  simp only [Option.bind_eq_bind, Option.bind_eq_some_iff, Option.pure_def, Option.some.injEq]
    at hoffer
  obtain ⟨call, hcall, link, hlink, -⟩ := hoffer
  obtain ⟨other, st, record, hother, hrecord, hsign, rfl⟩ := gatewaySigningCall_eq_some.1 hcall
  rw [hfound] at hother
  obtain rfl := Option.some.inj hother
  obtain ⟨v, hv, haction, hpos, hsecret, hfits, -⟩ := link_sign.1 hlink
  refine ⟨st, record, found, st, record, hrecord, ?_, hrecord, hsign, rfl, rfl, rfl,
    hfits.later hv haction hpos hsecret hdigest hdigits⟩
  rw [hchat]
  exact hfound

/-- Where the vault leads back to the tapped fund, only a vote can come out otherwise. -/
lemma leadsToSame_of_leadsBack {tap : Tap} {found : FundState}
    (hoffer : onCallback bot disk tap ts = some offer) (hpayload : offer.payload = some payload)
    (hfound : stateForChat disk tap.chatId = some found) (hback : LeadsBack disk found)
    (hdigest : ∀ m, (bot.mac.hexdigest bot.secret m).length = 64)
    (hdigits : (toString later).length = (toString ts).length) :
    LeadsToSame bot disk tap later ↔ BoundToFund disk found.fund tap := by
  obtain ⟨action, arg, found', hparse, hallowed, hfound', hhost, hcase⟩ := onCallback_eq_some hoffer
  rw [hfound] at hfound'
  obtain rfl := Option.some.inj hfound'
  have hchat : int? found.fund.telegramChatId = some tap.chatId := by
    have htext : found.fund.telegramChatId = toString tap.chatId := by
      have h := List.find?_some hfound
      simp only [Bool.and_eq_true, decide_eq_true_eq] at h
      exact h.2
    rw [htext, int?_toString]
  obtain ⟨v, hv⟩ := exists_canonical_vault
    (hcase.imp And.right (Or.imp And.right And.right)) hpayload
  have hreach : ∀ leads, Reaches bot disk found.fund.vault leads ↔ leads = found.fund := by
    intro leads
    constructor
    · rintro ⟨v', st, hv', hst, rfl, -⟩
      rw [hback v' hv'] at hst
      exact congrArg FundState.fund (Option.some.inj hst).symm
    · rintro rfl
      exact ⟨v, found, hv, hback v hv, rfl, by rw [hchat]; simpa using hallowed⟩
  rw [leadsToSame_iff hparse hfound]
  simp only [hreach, exists_eq_left]
  rcases hcase with ⟨rfl, hvote⟩ | ⟨hkind, -⟩ | ⟨rfl, hpropose⟩
  · simp only [Matches, if_true, BoundToFund, hparse, Option.some.injEq, Prod.mk.injEq, true_and]
    rw [cbVote] at hvote
    simp only [Option.bind_eq_bind, Option.bind_eq_some_iff] at hvote
    obtain ⟨⟨st, record⟩, hrecord, -⟩ := hvote
    constructor
    · rintro ⟨st', record', hrecord', hsame⟩ _ st'' record'' rfl hrecord''
      rw [hrecord'] at hrecord''
      obtain ⟨rfl, rfl⟩ := Prod.mk.inj (Option.some.inj hrecord'')
      exact hsame
    · exact fun hbound => ⟨st, record, hrecord, hbound arg st record rfl hrecord⟩
  · have hne := fundLinkKinds_ne hkind
    simp only [Matches, if_neg hne.1, if_neg hne.2, true_iff]
    intro arg' st record hvote
    rw [hparse] at hvote
    exact absurd (Prod.mk.inj (Option.some.inj hvote)).1 hne.1
  · have hne : "propose" ≠ "vote" := by decide
    have hhost' : int? found.fund.hostTelegramId = some tap.userId :=
      hhost.resolve_left (not_not.2 (by decide))
    simp only [Matches, if_neg hne, if_true]
    refine iff_of_true ⟨hhost', sameDraft_self hfound hchat hpropose hdigest hdigits⟩ ?_
    intro arg' st record hvote
    rw [hparse] at hvote
    exact absurd (Prod.mk.inj (Option.some.inj hvote)).1 hne

/-- The DM of a payload leads to the link that was handed out exactly where the vault leads to a
fund that matches; where it leads back to the tapped fund, that is all but votes on a proposal that
is bound to another governor. -/
theorem delivery_agrees_iff {tap : Tap} (hoffer : onCallback bot disk tap ts = some offer)
    (hpayload : offer.payload = some payload) :
    (cmdStart bot disk ("/start " ++ payload) tap.userId later = some offer.link ↔
      LeadsToSame bot disk tap later) ∧
    ∀ found, stateForChat disk tap.chatId = some found → LeadsBack disk found →
      (∀ m, (bot.mac.hexdigest bot.secret m).length = 64) →
      (toString later).length = (toString ts).length →
        (LeadsToSame bot disk tap later ↔ BoundToFund disk found.fund tap) :=
  ⟨delivery_agrees hoffer hpayload, fun _ hfound hback hdigest hdigits =>
    leadsToSame_of_leadsBack hoffer hpayload hfound hback hdigest hdigits⟩

def sampleBot : Bot :=
  { keccak := fun _ _ => 0, mac := vectorMac, secret := "s", baseUrl := "",
    isWord := Char.isAlphanum, chatAllowed := fun _ => true }

def votingRecord : ProposalRecord :=
  { id := "p-1", proposerAgent := "Iris", thesis := "up", status := .voting,
    governor := sampleFund.governor, onchainId := some 12 }

/-- The fund of chat -100 with this governor; the vote is bound to that of the sample fund. -/
def votingState (governor : String) : FundState :=
  { sampleState with
    fund := { sampleState.fund with telegramChatId := "-100", governor := governor }
    proposals := [votingRecord] }

def votingDisk (governor : String) : Disk := [("alpha", votingState governor)]

def voteTap : Tap := { data := "shfund:vote:12", chatId := -100, userId := 7 }

def voteOffer : Offer :=
  { link :=
      { kind := "vote", params := .vote "0x00000000000000000000000000000000000000f2" "12" "7" 0 }
    payload := some "sfv_00000000000000000000000000000000000000f1_12" }

lemma loaded_votingDisk (governor : String) :
    loaded (votingDisk governor) = [votingState governor] := by
  have hname : validateFundName "alpha" = .ok "alpha" := by decide +kernel
  have hnames : (votingDisk governor).names = ["alpha"] := by
    simp [votingDisk, Disk.names, hname]
  rw [loaded, hnames]
  rfl

lemma stateForChat_votingDisk (governor : String) :
    stateForChat (votingDisk governor) (-100) = some (votingState governor) := by
  rw [stateForChat, loaded_votingDisk]
  rfl

lemma stateForVault_votingDisk (governor : String) :
    stateForVault (votingDisk governor) "0x00000000000000000000000000000000000000f1" =
      some (votingState governor) := by
  have hvault : (votingState governor).fund.vault =
      "0x00000000000000000000000000000000000000f1" := rfl
  rw [stateForVault, loaded_votingDisk, List.find?_cons_of_pos]
  simp [hvault]

/-- Whatever the fund's governor is now, the tap hands out a link for the one that the proposal is
bound to. -/
lemma onCallback_voteTap {governor : String} (hgovernor : governor = sampleFund.governor ∨
    governor = "0x00000000000000000000000000000000000000f3") :
    onCallback sampleBot (votingDisk governor) voteTap 1762300800 = some voteOffer := by
  simp only [onCallback, stateForChat, loaded_votingDisk]
  rcases hgovernor with rfl | rfl <;> decide +kernel

/-- A fund that kept its governor sends the same link in the DM. -/
theorem delivery_agrees_iff_vote :
    cmdStart sampleBot (votingDisk sampleFund.governor)
      "/start sfv_00000000000000000000000000000000000000f1_12" 7 1762300900 =
        some voteOffer.link := by
  have hvault : canonicalAddress (votingState sampleFund.governor).fund.vault =
      .ok "0x00000000000000000000000000000000000000f1" := by decide +kernel
  have hdigest : ∀ m, (sampleBot.mac.hexdigest sampleBot.secret m).length = 64 := by
    intro m
    change "2da75792cd834a2b9bc9316e931008238928193e51268a8c43cbaedbd28e2c94".length = 64
    decide
  have hback : LeadsBack (votingDisk sampleFund.governor) (votingState sampleFund.governor) := by
    intro v hv
    rw [hvault] at hv
    cases hv
    exact stateForVault_votingDisk _
  have hrecord : recordOf (votingDisk sampleFund.governor) (votingState sampleFund.governor).fund
      "12" = some (votingState sampleFund.governor, votingRecord) := by
    decide +kernel
  obtain ⟨hagrees, hsame⟩ := @delivery_agrees_iff sampleBot (votingDisk sampleFund.governor)
    1762300800 "sfv_00000000000000000000000000000000000000f1_12" 1762300900 voteOffer voteTap
    (onCallback_voteTap (Or.inl rfl)) rfl
  refine hagrees.2 ((hsame _ (stateForChat_votingDisk _) hback hdigest (by decide)).2 ?_)
  intro arg st record hparse hfound
  have hparse' : parseCb voteTap.data = some ("vote", "12") := by decide +kernel
  rw [hparse'] at hparse
  obtain ⟨-, rfl⟩ := Prod.mk.inj (Option.some.inj hparse)
  rw [hrecord] at hfound
  obtain ⟨rfl, rfl⟩ := Prod.mk.inj (Option.some.inj hfound)
  rfl

/-- Where the governor was bound anew, the DM sends a link for the new one. -/
theorem not_delivery_agrees :
    onCallback sampleBot (votingDisk "0x00000000000000000000000000000000000000f3") voteTap
        1762300800 = some voteOffer ∧
      voteOffer.payload = some "sfv_00000000000000000000000000000000000000f1_12" ∧
      cmdStart sampleBot (votingDisk "0x00000000000000000000000000000000000000f3")
        "/start sfv_00000000000000000000000000000000000000f1_12" voteTap.userId 1762300900 ≠
          some voteOffer.link := by
  refine ⟨onCallback_voteTap (Or.inr rfl), rfl, ?_⟩
  simp only [cmdStart, stateForVault, loaded_votingDisk]
  decide +kernel

end SherwoodMonitor.DeliveryAgreement
