import SherwoodMonitor.TxBuilder

/-! What a request body of the prepare API says where its builder accepts the arguments. The
proofs about drafts use these and never unfold a builder. -/
namespace SherwoodMonitor.PrepareBodies
open PyUnicode PyText PyJson Models Rules TxBuilder

variable {α β : Type} {name value : String} {b : β}

lemma refused_bind {x : Refused α} {f : α → Refused β} :
    x >>= f = .ok b ↔ ∃ a, x = .ok a ∧ f a = .ok b := by
  cases x <;> simp [bind, Except.bind]

lemma refused_pure {a : β} : (pure a : Refused β) = .ok b ↔ a = b := by
  simp [pure, Except.pure]

/-- `if …: raise TxBuilderError(…)`. -/
lemma refused_unless {c : Prop} [Decidable c] {message : String} {f : Unit → Refused β}
    {x : Refused β} :
    (if c then (throw message : Refused Unit) >>= f else x) = .ok b ↔ ¬c ∧ x = .ok b := by
  split_ifs with h
  · simp [h, throw, throwThe, MonadExceptOf.throw, bind, Except.bind]
  · simp [h]

lemma addr_ok {a : String} : addr name value = .ok a ↔ isAddress value = true ∧ value = a := by
  rw [addr]
  split_ifs with h <;> simp [h]

lemma uint_ok {a : String} {positive : Bool} :
    uint name value positive = .ok a ↔ isUintText positive value = true ∧ value = a := by
  rw [uint]
  split_ifs with h <;> simp [h]

lemma ipfs_ok {a : String} :
    ipfs value = .ok a ↔ (startsWith value "ipfs://" = true ∧ 7 < value.length) ∧ value = a := by
  rw [ipfs]
  split_ifs with h <;> simp [h]

/-! ### Lists of legs -/

/-- Every item is built, and the body has them in the order of the legs. -/
lemma mapM_ok {f : α → Refused β} {g : α → β} {p : α → Prop}
    (hf : ∀ a b, f a = .ok b ↔ p a ∧ g a = b) {l : List α} {bs : List β} :
    l.mapM f = .ok bs ↔ (∀ a ∈ l, p a) ∧ l.map g = bs := by
  induction l generalizing bs with
  | nil => simp [List.mapM_nil, refused_pure]
  | cons a l ih =>
    simp only [List.mapM_cons, refused_bind, refused_pure, hf, ih, List.forall_mem_cons,
      List.map_cons]
    constructor
    · rintro ⟨_, ⟨ha, rfl⟩, _, ⟨hl, rfl⟩, rfl⟩
      exact ⟨⟨ha, hl⟩, rfl⟩
    · rintro ⟨⟨ha, hl⟩, rfl⟩
      exact ⟨_, ⟨ha, rfl⟩, _, ⟨hl, rfl⟩, rfl⟩

/-- The same where the builder's messages count the items. -/
lemma mapM_zipIdx_ok {f : α × ℕ → Refused β} {g : α → β} {p : α → Prop}
    (hf : ∀ a i b, f (a, i) = .ok b ↔ p a ∧ g a = b) {l : List α} {bs : List β} :
    l.zipIdx.mapM f = .ok bs ↔ (∀ a ∈ l, p a) ∧ l.map g = bs := by
  rw [mapM_ok (g := fun q : α × ℕ => g q.1) (p := fun q => p q.1) fun q b => hf q.1 q.2 b]
  have hmap : l.zipIdx.map (fun q => g q.1) = l.map g := by
    calc l.zipIdx.map (fun q => g q.1) = (l.zipIdx.map Prod.fst).map g := by
          rw [List.map_map]
          rfl
      _ = l.map g := by rw [List.zipIdx_map_fst]
  have hall : (∀ q ∈ l.zipIdx, p q.1) ↔ ∀ a ∈ l, p a := by
    constructor
    · intro h a ha
      rw [← List.zipIdx_map_fst 0 l] at ha
      obtain ⟨q, hq, rfl⟩ := List.mem_map.1 ha
      exact h q hq
    · exact fun h q hq => h q.1 (List.fst_mem_of_mem_zipIdx hq)
  rw [hmap, hall]

/-! ### Portfolios -/

def legJson (leg : Leg) : Json :=
  .obj [("weightBps", .int leg.weightBps), ("symbol", .str (upper leg.symbol))]

lemma portfolioLeg_ok {i : ℕ} {leg : Leg} {item : Json} :
    portfolioLeg i leg = .ok item ↔ 0 < leg.weightBps ∧ legJson leg = item := by
  rw [portfolioLeg, refused_unless, refused_pure, not_le]
  rfl

lemma portfolioLegs_ok {legs : List Leg} {items : List Json} :
    legs.zipIdx.mapM (fun leg => portfolioLeg leg.2 leg.1) = .ok items ↔
      (∀ leg ∈ legs, 0 < leg.weightBps) ∧ legs.map legJson = items :=
  mapM_zipIdx_ok fun _ _ _ => portfolioLeg_ok

/-- What stands for the pinned metadata. -/
def metadataFields (metadataUri name description : String) : List (String × Json) :=
  if metadataUri ≠ "" then [("metadataURI", .str metadataUri)]
  else ("name", .str name) :: if description ≠ "" then [("description", .str description)] else []

/-- The fields behind the proposer. -/
def portfolioFields (legs : List Leg) (maxCapital strategyDuration metadataUri name
    description : String) (maxDrawdownBps : ℤ) (quoteUsdPerWood : String) : List (String × Json) :=
  [("legs", .arr (legs.map legJson)), ("strategyDuration", .str strategyDuration),
    ("maxCapital", .str maxCapital)] ++ metadataFields metadataUri name description ++
    [("maxDrawdownBps", .int maxDrawdownBps), ("bondSwapMaxPremiumBps", .int 300),
     ("bondSwapDeadlineSeconds", .int 600)] ++
    if quoteUsdPerWood ≠ "" then
      [("maxDriftBps", .int 500), ("quoteUsdPerWood", .str quoteUsdPerWood)] else []

/-- What the builder of a portfolio asks of its arguments, apart from the proposer. -/
structure PortfolioOk (vault : String) (legs : List Leg) (maxCapital metadataUri : String)
    (maxDrawdownBps : ℤ) (quoteUsdPerWood : String) : Prop where
  count : 1 ≤ legs.length ∧ legs.length ≤ 20
  weights : ∀ leg ∈ legs, 0 < leg.weightBps
  total : (legs.map (·.weightBps)).sum = 10000
  address : isAddress vault = true
  capital : isUintText true maxCapital = true
  metadata : metadataUri = "" ∨ startsWith metadataUri "ipfs://" = true ∧ 7 < metadataUri.length
  drawdown : 0 ≤ maxDrawdownBps ∧ maxDrawdownBps ≤ 10000
  quote : quoteUsdPerWood = "" ∨ isDecimalText quoteUsdPerWood = true

lemma buildProposePortfolioBody_ok {vault proposer : String} {legs : List Leg}
    {maxCapital strategyDuration metadataUri name description : String}
    {maxDrawdownBps chainId : ℤ} {quoteUsdPerWood : String} {body : Json} :
    buildProposePortfolioBody vault proposer legs maxCapital strategyDuration metadataUri name
        description maxDrawdownBps chainId quoteUsdPerWood = .ok body ↔
      PortfolioOk vault legs maxCapital metadataUri maxDrawdownBps quoteUsdPerWood ∧
        isAddress proposer = true ∧
        body = .obj (("chainId", .int chainId) :: ("vault", .str vault) ::
          ("proposer", .str proposer) :: portfolioFields legs maxCapital strategyDuration
            metadataUri name description maxDrawdownBps quoteUsdPerWood) := by
  simp only [buildProposePortfolioBody, refused_unless, refused_bind, addr_ok, uint_ok,
    portfolioLegs_ok, not_not, ne_eq]
  by_cases hmeta : metadataUri = ""
  · simp only [hmeta, not_true_eq_false, if_false, refused_bind, refused_pure, refused_unless,
      not_not, not_and_or, not_or, Bool.not_eq_true', Bool.not_eq_false]
    constructor
    · rintro ⟨hcount, _, ⟨hweights, rfl⟩, htotal, _, ⟨hvault, rfl⟩, _, ⟨hproposer, rfl⟩, _,
        ⟨hcapital, rfl⟩, _, rfl, hdrawdown, hquote, rfl⟩
      exact ⟨⟨hcount, hweights, htotal, hvault, hcapital, Or.inl rfl, hdrawdown, hquote⟩,
        hproposer, rfl⟩
    · rintro ⟨h, hproposer, rfl⟩
      exact ⟨h.count, _, ⟨h.weights, rfl⟩, h.total, _, ⟨h.address, rfl⟩, _, ⟨hproposer, rfl⟩, _,
        ⟨h.capital, rfl⟩, _, rfl, h.drawdown, h.quote, rfl⟩
  · simp only [hmeta, not_false_eq_true, if_true, refused_bind, refused_pure, refused_unless,
      not_not, not_and_or, not_or, Bool.not_eq_true', Bool.not_eq_false, ipfs_ok]
    constructor
    · rintro ⟨hcount, _, ⟨hweights, rfl⟩, htotal, _, ⟨hvault, rfl⟩, _, ⟨hproposer, rfl⟩, _,
        ⟨hcapital, rfl⟩, _, ⟨hipfs, rfl⟩, _, rfl, hdrawdown, hquote, rfl⟩
      refine ⟨⟨hcount, hweights, htotal, hvault, hcapital, Or.inr hipfs, hdrawdown, hquote⟩,
        hproposer, ?_⟩
      simp [portfolioFields, metadataFields, hmeta]
    · rintro ⟨h, hproposer, rfl⟩
      refine ⟨h.count, _, ⟨h.weights, rfl⟩, h.total, _, ⟨h.address, rfl⟩, _, ⟨hproposer, rfl⟩, _,
        ⟨h.capital, rfl⟩, _, ⟨h.metadata.resolve_left hmeta, rfl⟩, _, rfl, h.drawdown, h.quote, ?_⟩
      simp [portfolioFields, metadataFields, hmeta]

/-- The legs of a portfolio. -/
def symbolLegs (record : ProposalRecord) : List Leg :=
  record.legs.filter fun leg => leg.phase = "execute" && leg.symbol ≠ ""

def portfolioName (fund : Fund) (record : ProposalRecord) : String :=
  fund.name ++ ": " ++ if record.topic ≠ "" then record.topic else take record.thesis 40

/-- The body of a ready portfolio request. -/
def portfolioBody (fund : Fund) (record : ProposalRecord) (proposer metadataUri : String) : Json :=
  .obj (("chainId", .int fund.chainId) :: ("vault", .str fund.vault) ::
    ("proposer", .str proposer) :: portfolioFields (symbolLegs record) record.maxCapital
      (toString record.strategyDuration) metadataUri (portfolioName fund record) record.thesis
      record.maxDrawdownBps record.quoteUsdPerWood)

lemma missingDuration_nil {record : ProposalRecord} :
    missingDuration record = [] ↔ 0 < record.strategyDuration := by
  rw [missingDuration]
  split_ifs with h
  · simp [h]
  · simpa using h

/-- A portfolio request is ready where its builder accepts the arguments and it has a duration. -/
lemma portfolioPayload_ready {fund : Fund} {record : ProposalRecord}
    {proposer metadataUri : String} :
    (portfolioPayload fund record proposer metadataUri).ready = true ↔
      0 < record.strategyDuration ∧ PortfolioOk fund.vault (symbolLegs record) record.maxCapital
        metadataUri record.maxDrawdownBps record.quoteUsdPerWood ∧ isAddress proposer = true := by
  rw [portfolioPayload]
  split
  · next body hbody =>
    obtain ⟨hok, hproposer, -⟩ := buildProposePortfolioBody_ok.1 hbody
    simp only [Prepare.ready, List.isEmpty_iff, missingDuration_nil]
    exact ⟨fun h => ⟨h, hok, hproposer⟩, fun h => h.1⟩
  · next message herror =>
    simp only [Prepare.ready, List.isEmpty_cons, Bool.false_eq_true, false_iff, not_and]
    rintro - hok hproposer
    have hbody := herror.symm.trans (buildProposePortfolioBody_ok.2 ⟨hok, hproposer, rfl⟩)
    cases hbody

lemma portfolioPayload_body {fund : Fund} {record : ProposalRecord} {proposer metadataUri : String}
    (h : (portfolioPayload fund record proposer metadataUri).ready = true) :
    portfolioPayload fund record proposer metadataUri =
      ⟨"propose-portfolio", [], portfolioBody fund record proposer metadataUri⟩ := by
  obtain ⟨hduration, hok, hproposer⟩ := portfolioPayload_ready.1 h
  have hmissing := missingDuration_nil.2 hduration
  have hbody : buildProposePortfolioBody fund.vault proposer (symbolLegs record) record.maxCapital
      (toString record.strategyDuration) metadataUri (portfolioName fund record) record.thesis
      record.maxDrawdownBps fund.chainId record.quoteUsdPerWood =
        .ok (portfolioBody fund record proposer metadataUri) :=
    buildProposePortfolioBody_ok.2 ⟨hok, hproposer, rfl⟩
  rw [symbolLegs, portfolioName] at hbody
  simp only [portfolioPayload, if_neg hduration.ne', hbody, hmissing]

/-! ### Raw calls -/

structure CallOk (leg : Leg) : Prop where
  target : isAddress leg.target = true
  data : isHexData leg.data = true
  value : isUintText false (if leg.value = "" then "0" else leg.value) = true

lemma callItem_ok {i : ℕ} {leg : Leg} {item : Json} :
    callItem name i leg = .ok item ↔ CallOk leg ∧ rawCall leg = item := by
  simp only [callItem, refused_bind, refused_unless, refused_pure, addr_ok, uint_ok,
    Bool.not_eq_true', Bool.not_eq_false]
  constructor
  · rintro ⟨_, ⟨htarget, rfl⟩, hdata, _, ⟨hvalue, rfl⟩, rfl⟩
    exact ⟨⟨htarget, hdata, hvalue⟩, rfl⟩
  · rintro ⟨h, rfl⟩
    exact ⟨_, ⟨h.target, rfl⟩, h.data, _, ⟨h.value, rfl⟩, rfl⟩

lemma calls_ok {legs : List Leg} {items : Json} :
    calls name legs = .ok items ↔
      (∀ leg ∈ legs, CallOk leg) ∧ Json.arr (legs.map rawCall) = items := by
  have hitems : ∀ bs, legs.zipIdx.mapM (fun leg => callItem name leg.2 leg.1) = .ok bs ↔
      (∀ leg ∈ legs, CallOk leg) ∧ legs.map rawCall = bs := fun bs =>
    mapM_zipIdx_ok fun _ _ _ => callItem_ok
  simp only [calls, refused_bind, refused_pure, hitems]
  constructor
  · rintro ⟨_, ⟨h, rfl⟩, rfl⟩
    exact ⟨h, rfl⟩
  · rintro ⟨h, rfl⟩
    exact ⟨_, ⟨h, rfl⟩, rfl⟩

lemma caps_ok {legs : List Leg} {items : Json} :
    caps name legs = .ok items ↔
      (∀ leg ∈ legs, isUintText false leg.cap = true) ∧
        Json.arr (legs.map fun leg => .str leg.cap) = items := by
  have hitems : ∀ bs, legs.mapM (fun leg => uint name leg.cap) = .ok bs ↔
      (∀ leg ∈ legs, isUintText false leg.cap = true) ∧ legs.map (·.cap) = bs := fun bs =>
    mapM_ok fun _ _ => uint_ok
  simp only [caps, refused_bind, refused_pure, hitems]
  constructor
  · rintro ⟨_, ⟨h, rfl⟩, rfl⟩
    exact ⟨h, by rw [List.map_map]; rfl⟩
  · rintro ⟨h, rfl⟩
    exact ⟨_, ⟨h, rfl⟩, by rw [List.map_map]; rfl⟩

/-- What the builder of a proposal's own calls asks of its arguments. -/
structure ProposeOk (vault strategy metadataUri : String) (strategyDuration : ℤ)
    (maxCapital : String) (maxDrawdownBps : ℤ) (execute settlement : List Leg) : Prop where
  drawdown : 0 ≤ maxDrawdownBps ∧ maxDrawdownBps ≤ 10000
  address : isAddress vault = true
  clone : isAddress strategy = true
  metadata : startsWith metadataUri "ipfs://" = true ∧ 7 < metadataUri.length
  duration : isUintText true (toString strategyDuration) = true
  capital : isUintText true maxCapital = true
  calls : ∀ leg ∈ execute ++ settlement, CallOk leg
  caps : ∀ leg ∈ execute ++ settlement, isUintText false leg.cap = true

/-- The body of a proposal with its own calls. -/
def rawBody (vault strategy metadataUri : String) (strategyDuration : ℤ) (maxCapital : String)
    (maxDrawdownBps : ℤ) (execute settlement : List Leg) (chainId : ℤ) : Json :=
  .obj [("chainId", .int chainId), ("vault", .str vault), ("strategy", .str strategy),
    ("metadataURI", .str metadataUri), ("strategyDuration", .str (toString strategyDuration)),
    ("envelope", .obj [("maxCapital", .str maxCapital), ("maxDrawdownBps", .int maxDrawdownBps)]),
    ("executeCalls", .arr (execute.map rawCall)),
    ("executeCallCaps", .arr (execute.map fun leg => .str leg.cap)),
    ("settlementCalls", .arr (settlement.map rawCall)),
    ("settlementCallCaps", .arr (settlement.map fun leg => .str leg.cap))]

lemma buildProposeBody_ok {vault strategy metadataUri maxCapital : String}
    {strategyDuration maxDrawdownBps chainId : ℤ} {execute settlement : List Leg} {body : Json} :
    buildProposeBody vault strategy metadataUri strategyDuration maxCapital maxDrawdownBps execute
        settlement chainId = .ok body ↔
      ProposeOk vault strategy metadataUri strategyDuration maxCapital maxDrawdownBps execute
          settlement ∧
        body = rawBody vault strategy metadataUri strategyDuration maxCapital maxDrawdownBps
          execute settlement chainId := by
  simp only [buildProposeBody, refused_bind, refused_unless, refused_pure, addr_ok, uint_ok,
    ipfs_ok, calls_ok, caps_ok, not_not]
  constructor
  · rintro ⟨hdrawdown, _, ⟨hvault, rfl⟩, _, ⟨hclone, rfl⟩, _, ⟨hipfs, rfl⟩, _, ⟨hduration, rfl⟩, _,
      ⟨hcapital, rfl⟩, _, ⟨hcalls, rfl⟩, _, ⟨hcaps, rfl⟩, _, ⟨hscalls, rfl⟩, _, ⟨hscaps, rfl⟩, rfl⟩
    exact ⟨⟨hdrawdown, hvault, hclone, hipfs, hduration, hcapital,
      List.forall_mem_append.2 ⟨hcalls, hscalls⟩, List.forall_mem_append.2 ⟨hcaps, hscaps⟩⟩, rfl⟩
  · rintro ⟨h, rfl⟩
    obtain ⟨hcalls, hscalls⟩ := List.forall_mem_append.1 h.calls
    obtain ⟨hcaps, hscaps⟩ := List.forall_mem_append.1 h.caps
    exact ⟨h.drawdown, _, ⟨h.address, rfl⟩, _, ⟨h.clone, rfl⟩, _, ⟨h.metadata, rfl⟩, _,
      ⟨h.duration, rfl⟩, _, ⟨h.capital, rfl⟩, _, ⟨hcalls, rfl⟩, _, ⟨hcaps, rfl⟩, _,
      ⟨hscalls, rfl⟩, _, ⟨hscaps, rfl⟩, rfl⟩

/-- The legs of a phase that have calldata. -/
def callLegs (phase : String) (record : ProposalRecord) : List Leg :=
  record.legs.filter fun leg => leg.phase = phase && leg.hasCall

/-- What a request for a proposal's own calls lacks. -/
def proposeMissing (fund : Fund) (record : ProposalRecord) (strategy metadataUri : String) :
    List String :=
  (if fund.vault = "" then ["vault: the fund has no vault address yet"] else []) ++
    (if strategy = "" then
      ["strategy: a PortfolioStrategy clone address (deploy one through the factory)"] else []) ++
    (if metadataUri = "" then
      ["metadataURI: pin the proposal metadata JSON and pass its ipfs:// URI"] else []) ++
    missingDuration record ++
    (record.legs.zipIdx.filter (!·.1.hasCall)).map fun leg => "leg " ++ toString leg.2 ++ " (" ++
      reprText leg.1.summary ++ ") has no calldata: build it with the CLI's --calldata-only"

lemma proposeMissing_nil {fund : Fund} {record : ProposalRecord} {strategy metadataUri : String}
    (h : proposeMissing fund record strategy metadataUri = []) :
    strategy ≠ "" ∧ metadataUri ≠ "" ∧ 0 < record.strategyDuration ∧
      ∀ leg ∈ record.legs, leg.hasCall = true := by
  simp only [proposeMissing, List.append_eq_nil_iff, List.map_eq_nil_iff, List.filter_eq_nil_iff,
    missingDuration_nil] at h
  obtain ⟨⟨⟨⟨-, hstrategy⟩, hmetadata⟩, hduration⟩, hcalls⟩ := h
  refine ⟨fun h => by simp [h] at hstrategy, fun h => by simp [h] at hmetadata, hduration, ?_⟩
  intro leg hleg
  rw [← List.zipIdx_map_fst 0 record.legs] at hleg
  obtain ⟨q, hq, rfl⟩ := List.mem_map.1 hleg
  simpa using hcalls q hq

/-- A request for a proposal's own calls is ready only with a strategy, metadata and calldata for
every leg. -/
lemma proposePayload_ready {fund : Fund} {record : ProposalRecord} {strategy metadataUri : String}
    (h : (proposePayload fund record strategy metadataUri).ready = true) :
    proposeMissing fund record strategy metadataUri = [] ∧
      ProposeOk fund.vault strategy metadataUri record.strategyDuration record.maxCapital
        record.maxDrawdownBps (callLegs "execute" record) (callLegs "settle" record) ∧
      proposePayload fund record strategy metadataUri =
        ⟨"propose", [], rawBody fund.vault strategy metadataUri record.strategyDuration
          record.maxCapital record.maxDrawdownBps (callLegs "execute" record)
          (callLegs "settle" record) fund.chainId⟩ := by
  by_cases hmissing : (proposeMissing fund record strategy metadataUri).isEmpty
  · cases hbuild : buildProposeBody fund.vault strategy metadataUri record.strategyDuration
        record.maxCapital record.maxDrawdownBps (callLegs "execute" record)
        (callLegs "settle" record) fund.chainId with
    | ok body =>
      have heq : proposePayload fund record strategy metadataUri = ⟨"propose", [], body⟩ := by
        rw [callLegs, callLegs] at hbuild
        unfold proposePayload
        refine (if_pos hmissing).trans ?_
        rw [hbuild]
      obtain ⟨hok, rfl⟩ := buildProposeBody_ok.1 hbuild
      exact ⟨List.isEmpty_iff.1 hmissing, hok, heq⟩
    | error message =>
      have hrefused : (proposePayload fund record strategy metadataUri).missing = [message] := by
        rw [callLegs, callLegs] at hbuild
        unfold proposePayload
        refine (congrArg Prepare.missing (if_pos hmissing)).trans ?_
        rw [hbuild]
      rw [Prepare.ready, hrefused] at h
      cases h
  · have hmissing' : (proposePayload fund record strategy metadataUri).missing =
        proposeMissing fund record strategy metadataUri := by
      unfold proposePayload
      exact congrArg Prepare.missing (if_neg hmissing)
    rw [Prepare.ready, hmissing'] at h
    exact absurd h hmissing

end SherwoodMonitor.PrepareBodies
