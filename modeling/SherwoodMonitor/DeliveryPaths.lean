import SherwoodMonitor.DisplayedIds
import SherwoodMonitor.FundDisk
import SherwoodMonitor.PayloadCodecs
import SherwoodMonitor.SigningUrl

/-! The two ways in which a user is handed a personal link after a tap on a button
(`telegram/handler.py`): at once, or by the bot's DM, where the link is made anew from the payload
of `/start`. The state of the funds stays as it is between the two. -/
namespace SherwoodMonitor.DeliveryPaths
open PyUnicode PyText PyNumber PyJson Models FundState Rules Service TxBuilder Effects FundWrites
  FundDisk ChainCard DisplayedIds Links LinkMessages LinkUrls LinkRoundTrips PayloadCodecs
  SigningUrl

/-- What the handlers work with; an empty secret is none, and `isWord` is the class `\w`. -/
structure Bot where
  keccak : String → ℕ → ℕ
  mac : Mac
  secret : String
  baseUrl : String
  isWord : Char → Bool
  chatAllowed : ℤ → Bool

/-! ### The gateway -/

/-- What the handlers read of a fund. -/
structure FundView where
  vault : String
  governor : String
  telegramChatId : Option ℤ
  hostTgId : Option ℤ

/-- `fund_to_view`; a chat or a host that is no number is none. -/
def fundToView (fund : Fund) : FundView :=
  { vault := fund.vault, governor := fund.governor, telegramChatId := int? fund.telegramChatId,
    hostTgId := int? fund.hostTelegramId }

/-- The funds that load, in the order of their names. -/
def loaded (disk : Disk) : List FundState := disk.names.filterMap disk.find

/-- `state_for_chat`. -/
def stateForChat (disk : Disk) (chatId : ℤ) : Option FundState :=
  (loaded disk).find? fun st =>
    st.fund.telegramChatId ≠ "" && st.fund.telegramChatId = toString chatId

/-- `state_for_vault`. -/
def stateForVault (disk : Disk) (vault : String) : Option FundState :=
  (loaded disk).find? fun st => st.fund.vault ≠ "" && lower st.fund.vault = lower vault

/-- What a vote reads of a proposal. -/
structure ProposalView where
  id : String
  governor : String
  status : Status
  onchainId : Option ℤ

/-- `a or b`. -/
def orElse (a b : String) : String := if a = "" then b else a

/-- `proposal_dict`, and `proposal_to_view` of it. -/
def proposalToView (fund : Fund) (record : ProposalRecord) : ProposalView :=
  { id := displayId record, governor := orElse record.governor fund.governor,
    status := record.status, onchainId := record.onchainId }

/-- A proposal of the fund that is loaded by its name; `none` also where the lookup raises. -/
def recordOf (disk : Disk) (fund : Fund) (proposalId : String) :
    Option (FundState × ProposalRecord) := do
  let st ← disk.find fund.name
  let (_, record) ← (st.proposal proposalId).toOption.join
  return (st, record)

/-- `host_signing_url`, as the call of the link builder that it makes. -/
def hostSigningCall (fund : Fund) (record : ProposalRecord) (hostTgId ts : ℤ) : Option LinkCall :=
  if record.status ≠ .draft then none
  else if fund.hostTelegramId = "" ∨ toString hostTgId ≠ fund.hostTelegramId then none
  else
    let prepare := signingPrepare fund record
    if prepare.ready then some (.sign fund.vault prepare.route prepare.body (.int hostTgId) ts)
    else none

/-- `host_signing_url` of the gateway. -/
def gatewaySigningCall (disk : Disk) (chatId : ℤ) (draftId : String) (hostTgId ts : ℤ) :
    Option LinkCall := do
  let found ← stateForChat disk chatId
  let (st, record) ← recordOf disk found.fund draftId
  hostSigningCall st.fund record hostTgId ts

/-! ### Links -/

/-- The parameters without the time. -/
def timeless : Canonical → Canonical
  | .fund kind vault tg _ => .fund kind vault tg 0
  | .vote governor proposalId tg _ => .vote governor proposalId tg 0
  | .sign vault action bodyB64 tg _ => .sign vault action bodyB64 tg 0
  | other => other

/-- A link that a user is handed: what the message says that it is for, and what it is signed
for. -/
structure Link where
  kind : String
  params : Canonical
  deriving DecidableEq

/-- A link is handed out where its builder returns one. -/
def Bot.link (bot : Bot) (kind : String) (call : LinkCall) : Option Link :=
  match call.build bot.keccak bot.mac bot.secret bot.baseUrl,
      canonical bot.keccak call.request with
  | .ok (some _), .ok params => some { kind, params := timeless params }
  | _, _ => none

/-- `_start_payload`. -/
def startPayload (kind vault : String) (itemId : Json) : Option String :=
  (encodeStartPayload kind vault itemId).toOption

/-- The link of a tap, and the payload for the DM. -/
structure Offer where
  link : Link
  payload : Option String
  deriving DecidableEq

/-! ### A tap -/

def hostOnlyActions : List String :=
  ["shipit", "propose", "approve_member", "approve_agent", "remove_agent"]

structure Tap where
  data : String
  chatId : ℤ
  userId : ℤ

/-- The id of a proposal at its governor. -/
def ProposalView.onchain (view : ProposalView) : Option ℤ :=
  match view.onchainId with
  | some n => some n
  | none => if isDigitText view.id then int? view.id else none

section
variable (bot : Bot) (disk : Disk)

/-- `_cb_vote`. -/
def cbVote (found : Fund) (arg : String) (userId ts : ℤ) : Option Offer := do
  let fund := fundToView found
  let (st, record) ← recordOf disk found arg
  let view := proposalToView st.fund record
  guard (view.status = .voting)
  let onchain ← view.onchain
  guard (bot.secret ≠ "")
  let link ← bot.link "vote"
    (.personal "vote" (.int userId) none (some (orElse view.governor fund.governor))
      (.int onchain) ts)
  return { link, payload := startPayload "vote" fund.vault (.int onchain) }

/-- `_cb_fund_link`; the join request that it notes does not touch what links are made of. -/
def cbFundLink (found : Fund) (action arg : String) (userId ts : ℤ) : Option Offer := do
  let fund := fundToView found
  guard (lower arg = lower fund.vault)
  guard (bot.secret ≠ "")
  let link ← bot.link action (.personal action (.int userId) (some fund.vault) none .null ts)
  return { link, payload := startPayload action fund.vault .null }

/-- `_cb_propose`. -/
def cbPropose (found : Fund) (chatId : ℤ) (arg : String) (userId ts : ℤ) : Option Offer := do
  let fund := fundToView found
  let call ← gatewaySigningCall disk chatId arg userId ts
  let link ← bot.link "propose" call
  return { link, payload := startPayload "propose" fund.vault (.str arg) }

/-- `on_callback`, for the buttons that hand out a link with a payload. -/
def onCallback (tap : Tap) (ts : ℤ) : Option Offer := do
  let (action, arg) ← parseCb tap.data
  guard (bot.chatAllowed tap.chatId)
  let found ← stateForChat disk tap.chatId
  guard (action ∉ hostOnlyActions ∨ (fundToView found.fund).hostTgId = some tap.userId)
  if action = "vote" then cbVote bot disk found.fund arg tap.userId ts
  else if action ∈ ["deposit", "withdraw", "join"] then
    cbFundLink bot found.fund action arg tap.userId ts
  else if action = "propose" then cbPropose bot disk found.fund tap.chatId arg tap.userId ts
  else none

/-! ### The DM -/

/-- `(?:@\w+)?`. -/
def dropBotName (isWord : Char → Bool) : List Char → List Char
  | '@' :: l => if l.head?.any isWord then l.dropWhile isWord else '@' :: l
  | l => l

/-- `sf[a-z]_\S+`. -/
def isPayload : List Char → Bool
  | 's' :: 'f' :: code :: '_' :: l => code.isLower && !l.isEmpty && l.all fun c => !isSpace c
  | _ => false

/-- `^/start(?:@\w+)?\s+(sf[a-z]_\S+)\s*$`. -/
def startCommand (isWord : Char → Bool) (text : String) : Option String :=
  match text.toList with
  | '/' :: 's' :: 't' :: 'a' :: 'r' :: 't' :: l =>
      let l := dropBotName isWord l
      let said := l.dropWhile isSpace
      let token := said.takeWhile fun c => !isSpace c
      if l.head?.any isSpace && isPayload token && (said.dropWhile fun c => !isSpace c).all isSpace
      then some (String.ofList token)
      else none
  | _ => none

/-- The link of a decoded payload, from the fund that its vault leads to. -/
def startLink (kind : String) (item : Option String) (found : Fund) (userId ts : ℤ) :
    Option Link := do
  let fund := fundToView found
  guard (∀ chat ∈ fund.telegramChatId, bot.chatAllowed chat)
  if kind = "propose" then
    guard (fund.hostTgId = some userId)
    let call ← gatewaySigningCall disk (fund.telegramChatId.getD 0) (item.getD "None") userId ts
    bot.link kind call
  else
    guard (bot.secret ≠ "")
    if kind = "vote" then
      bot.link kind (.personal "vote" (.int userId) none (some fund.governor)
        (item.elim .null .str) ts)
    else bot.link kind (.personal kind (.int userId) (some fund.vault) none .null ts)

/-- `cmd_start`. -/
def cmdStart (text : String) (userId ts : ℤ) : Option Link := do
  let payload ← startCommand bot.isWord text
  let (kind, vault, item) ← decodeStartPayload payload
  let found ← stateForVault disk vault
  startLink bot disk kind item found.fund userId ts

end

/-! ### What a link is made of -/

variable {bot : Bot} {disk : Disk} {kind vault : String} {userId ts : ℤ} {link : Link}

lemma link_eq_some {call : LinkCall} :
    bot.link kind call = some link ↔
      ∃ url params, call.build bot.keccak bot.mac bot.secret bot.baseUrl = .ok (some url) ∧
        canonical bot.keccak call.request = .ok params ∧ link = ⟨kind, timeless params⟩ := by
  rw [Bot.link]
  constructor
  · intro h
    split at h
    · next url params hbuild hparams =>
      exact ⟨url, params, hbuild, hparams, (Option.some.inj h).symm⟩
    · cases h
  · rintro ⟨url, params, hbuild, hparams, rfl⟩
    rw [hbuild, hparams]

lemma canonicalTg_int {tg : String} : canonicalTg (.int userId) = .ok tg ↔
    0 < userId ∧ tg = toString userId := by
  simp only [canonicalTg, pyIntOf, bind_eq_ok, pure_eq_ok, raiseIf_eq_ok, not_le]
  constructor
  · rintro ⟨_, ⟨⟩, -, hpos, rfl⟩
    exact ⟨hpos, rfl⟩
  · rintro ⟨hpos, rfl⟩
    exact ⟨userId, rfl, (), hpos, rfl⟩

lemma signLink_eq_ok {mac : Mac} {secret m sig : String} :
    signLink mac secret m = .ok sig ↔ secret ≠ "" ∧ sig = mac.hexdigest secret m := by
  simp only [signLink, bind_eq_ok, pure_eq_ok, raiseIf_eq_ok]
  constructor
  · rintro ⟨-, hsecret, rfl⟩
    exact ⟨hsecret, rfl⟩
  · rintro ⟨hsecret, rfl⟩
    exact ⟨(), hsecret, rfl⟩

lemma link_fund (hkind : kind ∈ fundLinkKinds) :
    bot.link kind (.personal kind (.int userId) (some vault) none .null ts) = some link ↔
      ∃ v, canonicalAddress vault = .ok v ∧ 0 < userId ∧ bot.secret ≠ "" ∧
        link = ⟨kind, .fund kind v (toString userId) 0⟩ := by
  have hvote : kind ≠ "vote" := by
    rintro rfl
    exact absurd hkind (by decide)
  simp only [link_eq_some, LinkCall.build, buildLink, LinkCall.request, canonical, if_pos hkind,
    if_neg hvote, bind_eq_ok, pure_eq_ok, canonicalTg_int, Option.getD_some, Option.some.injEq]
  constructor
  · rintro ⟨url, params, ⟨_, ⟨tg, ⟨hpos, rfl⟩, v, hv, m, -, sig, hsig, -⟩, -⟩,
      ⟨v', hv', tg', ⟨-, rfl⟩, rfl⟩, rfl⟩
    exact ⟨v', hv', hpos, (signLink_eq_ok.1 hsig).1, rfl⟩
  · rintro ⟨v, hv, hpos, hsecret, rfl⟩
    have hm : ∃ m, fundLinkMessage kind v (.str (toString userId)) ts = .ok m := by
      simp only [fundLinkMessage, bind_eq_ok, pure_eq_ok, raiseIf_eq_ok, not_not,
        canonicalAddress_canonical hv]
      exact ⟨_, (), hkind, v, rfl, _, canonicalTg_canonical (canonicalTg_int.2 ⟨hpos, rfl⟩), rfl⟩
    obtain ⟨m, hm⟩ := hm
    exact ⟨_, _, ⟨_, ⟨_, ⟨hpos, rfl⟩, v, hv, m, hm, _, signLink_eq_ok.2 ⟨hsecret, rfl⟩, rfl⟩, rfl⟩,
      ⟨v, hv, _, ⟨hpos, rfl⟩, rfl⟩, rfl⟩

lemma link_vote {governor : String} {item : Json} (hitem : item ≠ .null) :
    bot.link "vote" (.personal "vote" (.int userId) none (some governor) item ts) = some link ↔
      ∃ g pid, canonicalAddress governor = .ok g ∧ canonicalProposalId item = .ok pid ∧
        0 < userId ∧ bot.secret ≠ "" ∧ link = ⟨"vote", .vote g pid (toString userId) 0⟩ := by
  have hkind : "vote" ∉ fundLinkKinds := by decide
  have hbuild : ∀ url, buildLink bot.mac bot.secret bot.baseUrl "vote" (.int userId) none
      (some governor) item ts = .ok url ↔ ∃ tg, canonicalTg (.int userId) = .ok tg ∧
        ∃ g, canonicalAddress governor = .ok g ∧ ∃ pid, canonicalProposalId item = .ok pid ∧
          ∃ m, voteLinkMessage g (.str pid) (.str tg) ts = .ok m ∧
            ∃ sig, signLink bot.mac bot.secret m = .ok sig ∧ linkUrl bot.baseUrl "/tg/vote"
              [("proposal", String.ofList (UrlText.quote [':'] (g ++ ":" ++ pid).toList)),
                ("tg", tg), ("ts", toString ts), ("sig", sig)] = url := by
    intro url
    cases item <;>
      first
        | exact absurd rfl hitem
        | simp only [buildLink, if_neg hkind, if_true, bind_eq_ok, pure_eq_ok]
  simp only [link_eq_some, LinkCall.build, LinkCall.request, canonical, if_true, bind_eq_ok,
    pure_eq_ok, canonicalTg_int, Option.getD_some, hbuild, Option.some.injEq]
  constructor
  · rintro ⟨url, params, ⟨_, ⟨tg, ⟨hpos, rfl⟩, g, hg, pid, hpid, m, -, sig, hsig, -⟩, -⟩,
      ⟨g', hg', pid', hpid', tg', ⟨-, rfl⟩, rfl⟩, rfl⟩
    exact ⟨g', pid', hg', hpid', hpos, (signLink_eq_ok.1 hsig).1, rfl⟩
  · rintro ⟨g, pid, hg, hpid, hpos, hsecret, rfl⟩
    have hm : ∃ m, voteLinkMessage g (.str pid) (.str (toString userId)) ts = .ok m := by
      simp only [voteLinkMessage, bind_eq_ok, pure_eq_ok, canonicalAddress_canonical hg,
        canonicalProposalId_canonical hpid]
      exact ⟨_, g, rfl, pid, rfl, _, canonicalTg_canonical (canonicalTg_int.2 ⟨hpos, rfl⟩), rfl⟩
    obtain ⟨m, hm⟩ := hm
    exact ⟨_, _, ⟨_, ⟨_, ⟨hpos, rfl⟩, g, hg, pid, hpid, m, hm, _, signLink_eq_ok.2 ⟨hsecret, rfl⟩,
      rfl⟩, rfl⟩, ⟨g, hg, pid, hpid, _, ⟨hpos, rfl⟩, rfl⟩, rfl⟩

/-- The signing link at this time is short enough for a button. -/
def Bot.Fits (bot : Bot) (vault action : String) (body : Json) (userId ts : ℤ) : Prop :=
  ∀ url, signUrl bot.mac bot.secret bot.baseUrl vault action body (.int userId) ts = .ok url →
    url.length ≤ signUrlMax

/-- Whether a signing link is built does not depend on the time. -/
lemma exists_signing_url {action v : String} {body : Json} (ts : ℤ)
    (hv : canonicalAddress vault = .ok v) (haction : action ∈ signActions) (hpos : 0 < userId)
    (hsecret : bot.secret ≠ "") :
    ∃ url, signUrl bot.mac bot.secret bot.baseUrl vault action body (.int userId) ts = .ok url := by
  simp only [signUrl, signLinkMessage, bind_eq_ok, pure_eq_ok, raiseIf_eq_ok, not_not,
    canonicalTg_int, signLink_eq_ok]
  exact ⟨_, v, hv, _, ⟨hpos, rfl⟩, _, ⟨(), haction, v, canonicalAddress_canonical hv, _,
    canonicalTg_canonical (canonicalTg_int.2 ⟨hpos, rfl⟩), rfl⟩, _, ⟨hsecret, rfl⟩, rfl⟩

/-- With digests of one length, a link fits at a time that has as many digits. -/
lemma Bot.Fits.later {action v : String} {body : Json} {later : ℤ}
    (h : bot.Fits vault action body userId ts) (hv : canonicalAddress vault = .ok v)
    (haction : action ∈ signActions) (hpos : 0 < userId) (hsecret : bot.secret ≠ "")
    (hdigest : ∀ m, (bot.mac.hexdigest bot.secret m).length = 64)
    (hdigits : (toString later).length = (toString ts).length) :
    bot.Fits vault action body userId later := by
  intro url hurl
  obtain ⟨url₀, hurl₀⟩ :=
    @exists_signing_url bot vault userId action v body ts hv haction hpos hsecret
  have hfits := h url₀ hurl₀
  obtain ⟨v₁, tg₁, m₁, hv₁, htg₁, hlength₁⟩ := length_signUrl hurl
  obtain ⟨v₀, tg₀, m₀, hv₀, htg₀, hlength₀⟩ := length_signUrl hurl₀
  rw [hv₀] at hv₁
  rw [htg₀] at htg₁
  cases hv₁
  cases htg₁
  rw [hdigest] at hlength₀ hlength₁
  omega

lemma link_sign {action : String} {body : Json} :
    bot.link kind (.sign vault action body (.int userId) ts) = some link ↔
      ∃ v, canonicalAddress vault = .ok v ∧ action ∈ signActions ∧ 0 < userId ∧
        bot.secret ≠ "" ∧ bot.Fits vault action body userId ts ∧
        link = ⟨kind, .sign v action (encodeSignBody body) (toString userId) 0⟩ := by
  simp only [link_eq_some, LinkCall.build, buildSignLink, LinkCall.request, canonical, bind_eq_ok,
    pure_eq_ok, canonicalTg_int]
  constructor
  · rintro ⟨url, params, ⟨url', hurl, hfits⟩, ⟨v, hv, tg, ⟨hpos, rfl⟩, rfl⟩, rfl⟩
    have hlength : url'.length ≤ signUrlMax := by
      by_contra hlong
      rw [if_neg hlong] at hfits
      cases hfits
    have hparts := hurl
    simp only [signUrl, signLinkMessage, bind_eq_ok, raiseIf_eq_ok, not_not] at hparts
    obtain ⟨v', -, tg, -, m, ⟨-, haction, -⟩, sig, hsig, -⟩ := hparts
    refine ⟨v, hv, haction, hpos, (signLink_eq_ok.1 hsig).1, fun url hagain => ?_, rfl⟩
    rw [hurl] at hagain
    exact Except.ok.inj hagain ▸ hlength
  · rintro ⟨v, hv, haction, hpos, hsecret, hfits, rfl⟩
    obtain ⟨url, hurl⟩ :=
      @exists_signing_url bot vault userId action v body ts hv haction hpos hsecret
    exact ⟨url, _, ⟨url, hurl, if_pos (hfits url hurl)⟩, ⟨v, hv, _, ⟨hpos, rfl⟩, rfl⟩, rfl⟩

/-! ### Reading a payload back -/

/-- A payload is safe characters, up to a newline that the item id may end in. -/
lemma payload_chars {kind vault payload : String} {item : Json}
    (h : encodeStartPayload kind vault item = .ok payload) :
    ∃ l, isPayload l = true ∧ (∀ c ∈ l, isTokenChar c = true) ∧
      (payload.toList = l ∨ payload.toList = l ++ ['\n']) := by
  obtain ⟨code, v, part, hcode, hv, hpart, -, rfl⟩ := encode_eq_ok.1 h
  obtain ⟨-, c, rfl, hc⟩ := startCode_spec hcode
  obtain ⟨hex, hvl, hhexlen, hhex⟩ := canonicalAddress_chars hv
  have hbuilt : ∀ tail : List Char, (∀ d ∈ tail, isTokenChar d = true) →
      part.toList = tail ∨ part.toList = tail ++ ['\n'] →
      ∃ l, isPayload l = true ∧ (∀ c ∈ l, isTokenChar c = true) ∧
        (("sf" ++ String.singleton c ++ "_" ++ String.ofList (v.toList.drop 2) ++ part).toList = l ∨
          ("sf" ++ String.singleton c ++ "_" ++ String.ofList (v.toList.drop 2) ++ part).toList =
            l ++ ['\n']) := by
    intro tail htail hend
    have htoken : ∀ d ∈ hex ++ tail, isTokenChar d = true := by
      rw [List.forall_mem_append]
      exact ⟨fun d hd => isTokenChar_of_isLowerHex (hhex d hd), htail⟩
    refine ⟨'s' :: 'f' :: c :: '_' :: (hex ++ tail), ?_, ?_, ?_⟩
    · have hne : (hex ++ tail).isEmpty = false := by
        cases hex with
        | nil => cases hhexlen
        | cons d hex => rfl
      rw [isPayload, hc, hne, Bool.true_and, Bool.not_false, Bool.true_and, List.all_eq_true]
      exact fun d hd => by simp [isSpace_of_isTokenChar (htoken d hd)]
    · simp only [List.forall_mem_cons]
      exact ⟨by decide, by decide, isTokenChar_of_isLower hc, by decide, htoken⟩
    · rcases hend with hend | hend <;> simp [hend, hvl]
  rcases itemPart_eq_ok.1 hpart with ⟨-, rfl⟩ | ⟨-, rfl, hsafe⟩
  · exact hbuilt [] (by simp) (Or.inl rfl)
  · have htoken : ∀ d ∈ beforeDollar item.toStr, isTokenChar d = true := by
      simp only [isItem, Bool.and_eq_true, List.all_eq_true] at hsafe
      exact hsafe.2
    refine hbuilt ('_' :: beforeDollar item.toStr) ?_ ?_
    · exact List.forall_mem_cons.2 ⟨by decide, htoken⟩
    · rcases (beforeDollar_eq htoken).1 rfl with hs | hs
      · exact Or.inl (by simp [String.toList_append, ← hs])
      · exact Or.inr (by simp [String.toList_append, ← hs])

/-- The command gives the payload as it was sent, without a newline at its end. -/
lemma startCommand_payload {isWord : Char → Bool} {payload : String} {l : List Char}
    (hl : isPayload l = true) (htoken : ∀ c ∈ l, isTokenChar c = true)
    (hpayload : payload.toList = l ∨ payload.toList = l ++ ['\n']) :
    startCommand isWord ("/start " ++ payload) = some (String.ofList l) := by
  have hspace : ∀ c ∈ l, (!isSpace c) = true := fun c hc => by
    rw [isSpace_of_isTokenChar (htoken c hc), Bool.not_false]
  obtain ⟨tail, htail, hends⟩ :
      ∃ tail, payload.toList = l ++ tail ∧ (tail = [] ∨ tail = ['\n']) := by
    rcases hpayload with h | h
    · exact ⟨[], by rw [h, List.append_nil], Or.inl rfl⟩
    · exact ⟨['\n'], h, Or.inr rfl⟩
  have hsaid : ((' ' :: (l ++ tail)).dropWhile isSpace) = l ++ tail := by
    cases l with
    | nil => cases hl
    | cons c l =>
      have hc : isSpace c = false := by simpa using hspace c List.mem_cons_self
      rw [List.dropWhile_cons_of_pos (by decide), List.cons_append,
        List.dropWhile_cons_of_neg (by simp [hc])]
  have htoken' : ((l ++ tail).takeWhile fun c => !isSpace c) = l := by
    rw [List.takeWhile_append_of_pos hspace]
    rcases hends with rfl | rfl
    · simp
    · rw [List.takeWhile_cons_of_neg (by decide), List.append_nil]
  have hrest : (((l ++ tail).dropWhile fun c => !isSpace c).all isSpace) = true := by
    rw [List.dropWhile_append_of_pos hspace]
    rcases hends with rfl | rfl
    · rfl
    · decide
  have htext : ("/start " ++ payload).toList =
      '/' :: 's' :: 't' :: 'a' :: 'r' :: 't' :: ' ' :: (l ++ tail) := by
    rw [String.toList_append, htail]
    rfl
  have hname : dropBotName isWord (' ' :: (l ++ tail)) = ' ' :: (l ++ tail) := rfl
  rw [startCommand, htext]
  simp only [hname, hsaid, htoken', hrest, hl, List.head?_cons, Option.any_some, Bool.and_true]
  rfl

/-- What `/start` with a payload is read as: the kind, the canonical vault, and the item id. -/
lemma read_payload {isWord : Char → Bool} {kind vault payload : String} {item : Json}
    (h : encodeStartPayload kind vault item = .ok payload) :
    ∃ v, canonicalAddress vault = .ok v ∧
      (startCommand isWord ("/start " ++ payload)).bind decodeStartPayload =
        some (kind, v, (itemText item).map fun s => String.ofList (beforeDollar s)) := by
  obtain ⟨-, v, hv, hdecode⟩ := decode_of_encode h
  obtain ⟨l, hl, htoken, hpayload⟩ := payload_chars h
  refine ⟨v, hv, ?_⟩
  rw [startCommand_payload hl htoken hpayload, Option.bind_some, ← hdecode, decodeStartPayload,
    decodeStartPayload, beforeDollar_strip_of_token htoken hpayload,
    beforeDollar_strip_of_token htoken (Or.inl String.toList_ofList)]

end SherwoodMonitor.DeliveryPaths
