import SherwoodMonitor.CardIdempotence

/-! One read of the tg-card (`ChainSync.sync` of `fund/telegram.py`) and the client that makes it.
The reply is untrusted: what it says is read by small converters, and of what they raise only a
part is caught. -/
namespace SherwoodMonitor.ChainSync
open PyText PyJson PyJson.Json Lookup Models FundState Rules Service ChainCard Calls CallRuns Effects
  AtomicStore ProposalIds

/-! ### The program -/

structure TxBuilderError where
  message : String
  status : Option ℤ

/-- What came back for the url of a card: an error of the request, or a status and a JSON body. -/
abbrev Reply := Except String (ℤ × Json)

def succeeded (body : Json) : Bool := (lookup "success" body.dictOrEmpty).truthy

/-- `TxBuilderClient.fund_card`. -/
def fundCard (vault : String) (reply : Reply) : Except TxBuilderError Fields :=
  if isAddress vault then
    match reply with
    | .error text => .error ⟨"request failed: " ++ text, none⟩
    | .ok (status, body) =>
        if status = 404 ∧ succeeded body = false then
          .error ⟨"route not deployed on this API yet (HTTP 404); it ships with sherwood PR #739 " ++
            "(SHE-515)", some 404⟩
        else if succeeded body = false then
          let text := match body with
            | .obj fields => (lookup "error" fields).toStr
            | _ => "bad response"
          .error ⟨if text = "" then "request failed" else text, some status⟩
        else
          match lookup "data" body.dictOrEmpty with
          | .obj data => .ok data
          | _ => .error ⟨"response has no data object", some status⟩
  else .error ⟨"`vault` must be a 0x-prefixed 40-hex address", none⟩

/-- The writes after which the fund cools down. -/
def startsCooldown : Update → Bool
  | .chainStatus _ status => status = .vetoed
  | .act (.setProposalStatus _ _ status _) => Status.ofText status = .vetoed
  | .act (.recordSettle ..) => true
  | _ => false

/-- The end of a cooldown is a float, which a period too large for one cannot be added to. -/
def cooldownOverflows (fund : Fund) : Prop := floatLimit ≤ max 0 fund.cooldownPeriod

instance (fund : Fund) : Decidable (cooldownOverflows fund) :=
  inferInstanceAs (Decidable (floatLimit ≤ max 0 fund.cooldownPeriod))

def floatRaises (op : Op) (s : FundState) : Option Exc :=
  if startsCooldown op.update = true ∧ cooldownOverflows s.fund then
    some (.raised .overflow "int too large to convert to float")
  else none

/-- The fund's store, where times are floats. -/
abbrev floatStore : Interface FundState Exc := fundStore.raising floatRaises

/-- What `sync` catches of `apply_chain_card`: `FundStoreError`, `RuleViolation`, `ValueError`. -/
def caught : Exc → Bool
  | .rule .. => true
  | .raised kind _ => kind ∈ [.fundNotFound, .fundExists, .store, .value, .units]

/-- `ChainSync.sync`, without the times that it sets. -/
def sync (vault : String) (reply : Reply) (clock : ℕ → Clock) (s : FundState) : Except Exc ℕ :=
  if vault = "" then .ok 0
  else
    match fundCard vault reply with
    | .error _ => .ok 0
    | .ok card =>
        match (((applyChainCard (.obj card) clock).raising floatRaises).run s).result with
        | .ok n => .ok n
        | .error e => if caught e then .ok 0 else .error e

/-! ### What of a card can be read -/

/-- `int(v)` does not overflow. -/
def IntReads (v : Json) : Prop := ∀ q text, v = .float q text → text ≠ "inf" ∧ text ≠ "-inf"

/-- `float(v)` does not overflow. -/
def FloatReads (v : Json) : Prop := ∀ n, v = .int n → |n| < floatLimit

/-- `v or []` can be gone through. -/
def IterReads (v : Json) : Prop :=
  v.truthy = true → (∃ items, v = .arr items) ∨ (∃ s, v = .str s) ∨ ∃ fields, v = .obj fields

/-- The dicts among the items of a list. -/
def dictsIn : Json → List Fields
  | .arr items => items.filterMap fieldsOf
  | _ => []

/-- Up to the first that is a number other than zero. -/
def NumbersRead : List Json → Prop
  | [] => True
  | v :: vs => IntReads v ∧ ((∃ n, optInt v = .ok (some n) ∧ n ≠ 0) ∨ NumbersRead vs)

def depositNumbers (row : Fields) : List Json :=
  ["depositIndex", "memberNumber", "number"].map (lookup · row)

/-- The members section. -/
def DepositsRead (members : Json) : Prop :=
  ∀ fields, members = .obj fields → IterReads (lookup "approved" fields) ∧
    ∀ row ∈ dictsIn (lookup "approved" fields), (∃ address, lookup "address" row = .str address) →
      NumbersRead (depositNumbers row)

/-- The sections of a card, before anything is written. -/
structure SectionsRead (d : Fields) : Prop where
  proposals : (lookup "proposals" d).truthy = true → ∃ fields, lookup "proposals" d = .obj fields
  openRows : IterReads (lookup "open" (lookup "proposals" d).dictOrEmpty)
  recentRows : IterReads (lookup "recent" (lookup "proposals" d).dictOrEmpty)
  fee : IntReads (lookup "agentFeeBps" (lookup "fund" d).dictOrEmpty)
  deposits : DepositsRead (lookup "members" d)

def RowReads (row : Fields) : Prop :=
  IntReads (lookup "againstBps" row) ∧ FloatReads (lookup "voteEnd" row) ∧
    FloatReads (lookup "reviewEnd" row)

/-- Where a row moves its proposal. -/
def rowMove (row : Fields) (p : ProposalRecord) : Option Status :=
  (rowTarget row).filter fun t => p.status ≠ t ∧ (checkTransition p.status t).ok

/-- The rows one after the other, each on the statuses that the ones before it left. A proposal
that is not found ends the read, by an error that is caught. -/
def RowsRead (loaded : FundState) : FundState → List ℤ → List Fields → Prop
  | _, _, [] => True
  | s, seen, row :: rows =>
      match rowId row with
      | none => RowsRead loaded s seen rows
      | some onchain =>
          if onchain ∈ seen then RowsRead loaded s seen rows
          else
            match rowRecord loaded row with
            | none => RowsRead loaded s (onchain :: seen) rows
            | some record => RowReads row ∧
                match s.proposal record.id with
                | .ok (some (i, p)) =>
                    (rowMove row p = some .vetoed → ¬cooldownOverflows s.fund) ∧
                      RowsRead loaded
                        (setProposal s i { p with status := (rowMove row p).getD p.status })
                        (onchain :: seen) rows
                | _ => True

def govOf (d : Fields) : Fields := (lookup "governor" d).dictOrEmpty
def gateOf (d : Fields) : Fields := (lookup "proposeGate" d).dictOrEmpty

def rowsIn (d : Fields) : List Fields :=
  dictsIn (lookup "open" (lookup "proposals" d).dictOrEmpty) ++
    dictsIn (lookup "recent" (lookup "proposals" d).dictOrEmpty) ++
    (lookup "activeProposal" d).fieldsOf.toList

def withPeriod (s : FundState) (period : ℤ) : FundState :=
  { s with fund := { s.fund with cooldownPeriod := period } }

/-- A card that can be read on a fund. Digits of the governor that `int` refuses end the read, by
an error that is caught. -/
def CardReads (card : Fields) (s : FundState) : Prop :=
  ∃ d, (if hasKey "data" card then lookup "data" card else .obj card) = .obj d ∧ SectionsRead d ∧
    ∀ period veto, govParam (govOf d) "cooldownPeriod" s.fund.cooldownPeriod = .ok period →
      govParam (govOf d) "vetoThresholdBps" s.fund.vetoThresholdBps = .ok veto →
      (hasKey "cooldownUntil" (gateOf d) = true →
          FloatReads (lookup "cooldownUntil" (gateOf d))) ∧
        RowsRead s (withPeriod s period) [] (rowsIn d)

/-- A reply that holds no card, or one that can be read. -/
def ReplyReads (vault : String) (reply : Reply) (s : FundState) : Prop :=
  ∀ status fields card, isAddress vault = true → reply = .ok (status, .obj fields) →
    (lookup "success" fields).truthy = true → lookup "data" fields = .obj card → CardReads card s

/-! ### The converters -/

/-- It reads exactly where `P` holds, and else raises what nobody catches. -/
def ReadsWhen {α : Type} (P : Prop) (x : Except Exc α) : Prop :=
  (P → ∃ a, x = .ok a) ∧ (¬P → ∃ e, x = .error e ∧ caught e = false)

section ReadsWhen

variable {α β : Type} {P Q : Prop} {x : Except Exc α} {f : α → Except Exc β}

lemma readsWhen_ok (a : α) : ReadsWhen True (.ok a : Except Exc α) :=
  ⟨fun _ => ⟨a, rfl⟩, fun h => absurd trivial h⟩

lemma ReadsWhen.congr (h : ReadsWhen P x) (hPQ : P ↔ Q) : ReadsWhen Q x := by
  rwa [propext hPQ] at h

lemma ReadsWhen.bind (hx : ReadsWhen P x) (hf : ∀ a, x = .ok a → ReadsWhen Q (f a)) :
    ReadsWhen (P ∧ Q) (x >>= f) := by
  by_cases hP : P
  · obtain ⟨a, ha⟩ := hx.1 hP
    have hbind : x >>= f = f a := by rw [ha]; rfl
    rw [hbind]
    exact (hf a ha).congr (by simp [hP])
  · obtain ⟨e, he, hloud⟩ := hx.2 hP
    refine ⟨fun h => absurd h.1 hP, fun _ => ⟨e, by rw [he]; rfl, hloud⟩⟩

/-- Nothing that it raises is caught. -/
lemma ReadsWhen.loud (h : ReadsWhen P x) {e : Exc} (he : x = .error e) : caught e = false := by
  by_cases hP : P
  · obtain ⟨a, ha⟩ := h.1 hP
    rw [ha] at he
    cases he
  · obtain ⟨e', he', hloud⟩ := h.2 hP
    rw [he'] at he
    obtain rfl := Except.error.inj he
    exact hloud

end ReadsWhen

lemma optInt_reads (v : Json) : ReadsWhen (IntReads v) (optInt v) := by
  cases v with
  | float q text =>
    rw [optInt]
    by_cases hinf : text = "inf" ∨ text = "-inf"
    · rw [if_pos hinf]
      refine ⟨fun h => absurd (h q text rfl) (by tauto), fun _ => ⟨_, rfl, rfl⟩⟩
    · rw [if_neg hinf]
      refine (readsWhen_ok _).congr (iff_of_true trivial fun q' text' h => ?_)
      cases h
      tauto
  | _ => exact (readsWhen_ok _).congr (iff_of_true trivial fun q' text' h => nomatch h)

lemma floatLimit_pos : 0 < floatLimit :=
  sub_pos.2 (pow_lt_pow_right₀ (by norm_num) (by norm_num))

lemma optFloat_reads (v : Json) : ReadsWhen (FloatReads v) (optFloat v) := by
  rw [optFloat.eq_def]
  by_cases hv : v.truthy = true
  · rw [if_neg (by simpa using hv)]
    cases v with
    | int n =>
      dsimp only
      by_cases hlarge : floatLimit ≤ |n|
      · rw [if_pos hlarge]
        exact ⟨fun h => absurd (h n rfl) (not_lt.2 hlarge), fun _ => ⟨_, rfl, rfl⟩⟩
      · rw [if_neg hlarge]
        refine (readsWhen_ok _).congr (iff_of_true trivial fun n' h => ?_)
        cases h
        exact not_le.1 hlarge
    | _ => exact (readsWhen_ok _).congr (iff_of_true trivial fun n h => nomatch h)
  · rw [if_pos (by simpa using hv)]
    refine (readsWhen_ok _).congr (iff_of_true trivial fun n h => ?_)
    rw [h] at hv
    have hzero : n = 0 := by simpa [truthy] using hv
    rw [hzero, abs_zero]
    exact floatLimit_pos

lemma rowsOf_reads (v : Json) : ReadsWhen (IterReads v) (rowsOf v) := by
  rw [rowsOf.eq_def]
  by_cases hv : v.truthy = true
  · rw [if_neg (by simpa using hv)]
    cases v with
    | arr items => exact (readsWhen_ok _).congr (iff_of_true trivial fun _ => Or.inl ⟨_, rfl⟩)
    | str s =>
      exact (readsWhen_ok _).congr (iff_of_true trivial fun _ => Or.inr (Or.inl ⟨_, rfl⟩))
    | obj fields =>
      exact (readsWhen_ok _).congr (iff_of_true trivial fun _ => Or.inr (Or.inr ⟨_, rfl⟩))
    | _ => exact ⟨fun h => absurd (h hv) (by simp), fun _ => ⟨_, rfl, rfl⟩⟩
  · rw [if_pos (by simpa using hv)]
    exact (readsWhen_ok _).congr (iff_of_true trivial fun h => absurd h hv)

lemma rowsOf_ok {v : Json} {rows : List Fields} (h : rowsOf v = .ok rows) : rows = dictsIn v := by
  rw [rowsOf.eq_def] at h
  by_cases hv : v.truthy = true
  · rw [if_neg (by simpa using hv)] at h
    cases v with
    | arr items => exact (Except.ok.inj h).symm
    | str s => exact (Except.ok.inj h).symm
    | obj fields => exact (Except.ok.inj h).symm
    | _ => cases h
  · rw [if_pos (by simpa using hv)] at h
    obtain rfl := Except.ok.inj h
    cases v with
    | arr items =>
      cases items with
      | nil => rfl
      | cons item items => simp [truthy] at hv
    | _ => rfl

lemma firstNumber_reads (vs : List Json) : ReadsWhen (NumbersRead vs) (firstNumber vs) := by
  induction vs with
  | nil => exact readsWhen_ok _
  | cons v vs ih =>
    rw [firstNumber]
    refine (optInt_reads v).bind fun n hn => ?_
    by_cases hzero : n.getD 0 ≠ 0
    · rw [if_pos hzero]
      refine (readsWhen_ok _).congr (iff_of_true trivial (Or.inl ?_))
      cases n with
      | none => exact absurd rfl hzero
      | some n => exact ⟨n, hn, hzero⟩
    · rw [if_neg hzero]
      refine ih.congr (or_iff_right ?_).symm
      rintro ⟨m, hm, hne⟩
      rw [hn] at hm
      obtain rfl := Except.ok.inj hm
      exact hzero hne

lemma depositRow_reads (d : List (String × ℤ)) (row : Fields) :
    ReadsWhen ((∃ address, lookup "address" row = .str address) → NumbersRead (depositNumbers row))
      (depositRow d row) := by
  rw [depositRow]
  cases haddress : lookup "address" row with
  | str address =>
    refine ((firstNumber_reads (depositNumbers row)).bind fun n _ => readsWhen_ok _).congr ?_
    simp
  | _ => exact (readsWhen_ok _).congr (by simp)

lemma foldlM_reads {α β : Type} {P : α → Prop} {f : β → α → Except Exc β}
    (hf : ∀ b a, ReadsWhen (P a) (f b a)) (l : List α) (b : β) :
    ReadsWhen (∀ a ∈ l, P a) (l.foldlM f b) := by
  induction l generalizing b with
  | nil => exact (readsWhen_ok b).congr (by simp)
  | cons a l ih =>
    rw [List.foldlM_cons]
    exact ((hf b a).bind fun b' _ => ih b').congr (by simp)

lemma depositOrder_reads (members : Json) :
    ReadsWhen (DepositsRead members) (depositOrder members) := by
  cases members with
  | obj fields =>
    rw [depositOrder]
    refine ReadsWhen.congr ?_
      (show _ ∧ (∀ row ∈ dictsIn (lookup "approved" fields), _) ↔ _ from
        ⟨fun h fields' hfields => ?_, fun h => h fields rfl⟩)
    · refine (rowsOf_reads (lookup "approved" fields)).bind fun rows hrows => ?_
      obtain rfl := rowsOf_ok hrows
      exact foldlM_reads depositRow_reads _ _
    · cases hfields
      exact h
  | _ => exact (readsWhen_ok _).congr (iff_of_true trivial fun fields h => nomatch h)

/-- The proposals section of a card. -/
def propsOf (d : Fields) : Except Exc Fields :=
  if (lookup "proposals" d).truthy then asDict (lookup "proposals" d) else .ok []

lemma propsOf_reads (d : Fields) :
    ReadsWhen ((lookup "proposals" d).truthy = true → ∃ fields, lookup "proposals" d = .obj fields)
      (propsOf d) := by
  rw [propsOf]
  by_cases hv : (lookup "proposals" d).truthy = true
  · rw [if_pos hv]
    cases hprops : lookup "proposals" d with
    | obj fields => exact (readsWhen_ok _).congr (by simp)
    | _ => exact ⟨fun h => by simp [hprops ▸ hv] at h, fun _ => ⟨_, rfl, rfl⟩⟩
  · rw [if_neg hv]
    exact (readsWhen_ok _).congr (iff_of_true trivial fun h => absurd h hv)

lemma propsOf_ok {d props : Fields} (h : propsOf d = .ok props) :
    props = (lookup "proposals" d).dictOrEmpty := by
  rw [propsOf] at h
  split_ifs at h with hv
  · cases hprops : lookup "proposals" d with
    | obj fields =>
      rw [hprops] at h
      exact (Except.ok.inj h).symm
    | _ =>
      rw [hprops] at h
      cases h
  · obtain rfl := Except.ok.inj h
    cases hprops : lookup "proposals" d with
    | obj fields =>
      cases fields with
      | nil => rfl
      | cons field fields => simp [hprops, truthy] at hv
    | _ => rfl

lemma parseCard_eq {card d : Fields}
    (hd : (if hasKey "data" card then lookup "data" card else .obj card) = .obj d) :
    parseCard (.obj card) = do
      let props ← propsOf d
      let openRows ← rowsOf (lookup "open" props)
      let recent ← rowsOf (lookup "recent" props)
      let fee ← optInt (lookup "agentFeeBps" (lookup "fund" d).dictOrEmpty)
      let deposits ← depositOrder (lookup "members" d)
      return {
        fund := ⟨govOf d, gateOf d, fee, deposits⟩
        rows := openRows ++ recent ++ (lookup "activeProposal" d).fieldsOf.toList } := by
  have hok : ∀ f : Fields → Except Exc Card, Except.ok d >>= f = f d := fun f => rfl
  rw [parseCard, propsOf]
  dsimp only
  rw [hd, asDict, hok]
  by_cases hv : (lookup "proposals" d).truthy = true
  · rw [if_pos hv, if_pos hv]
    rfl
  · rw [if_neg hv, if_neg hv]
    rfl

lemma sectionsRead_iff {d : Fields} :
    (((lookup "proposals" d).truthy = true → ∃ fields, lookup "proposals" d = .obj fields) ∧
        IterReads (lookup "open" (lookup "proposals" d).dictOrEmpty) ∧
        IterReads (lookup "recent" (lookup "proposals" d).dictOrEmpty) ∧
        IntReads (lookup "agentFeeBps" (lookup "fund" d).dictOrEmpty) ∧
        DepositsRead (lookup "members" d) ∧ True) ↔ SectionsRead d :=
  ⟨fun h => ⟨h.1, h.2.1, h.2.2.1, h.2.2.2.1, h.2.2.2.2.1⟩,
    fun h => ⟨h.proposals, h.openRows, h.recentRows, h.fee, h.deposits, trivial⟩⟩

lemma parseCard_reads {card d : Fields}
    (hd : (if hasKey "data" card then lookup "data" card else .obj card) = .obj d) :
    ReadsWhen (SectionsRead d) (parseCard (.obj card)) := by
  rw [parseCard_eq hd]
  refine ((propsOf_reads d).bind fun props hprops => ?_).congr sectionsRead_iff
  obtain rfl := propsOf_ok hprops
  exact (rowsOf_reads _).bind fun _ _ => (rowsOf_reads _).bind fun _ _ =>
    (optInt_reads _).bind fun _ _ => (depositOrder_reads _).bind fun _ _ => readsWhen_ok _

/-- What a card that reads holds. -/
lemma parseCard_ok {card d : Fields} {c : Card}
    (hd : (if hasKey "data" card then lookup "data" card else .obj card) = .obj d)
    (h : parseCard (.obj card) = .ok c) :
    c.fund.gov = govOf d ∧ c.fund.gate = gateOf d ∧ c.rows = rowsIn d := by
  rw [parseCard_eq hd] at h
  simp only [bind_eq_ok, pure_eq_ok] at h
  obtain ⟨props, hprops, openRows, hopen, recent, hrecent, fee, -, deposits, -, rfl⟩ := h
  obtain rfl := propsOf_ok hprops
  obtain rfl := rowsOf_ok hopen
  obtain rfl := rowsOf_ok hrecent
  exact ⟨rfl, rfl, rfl⟩

lemma rowRead_reads (row : Fields) : ReadsWhen (RowReads row) (rowRead row) := by
  rw [rowRead]
  exact ((optInt_reads _).bind fun _ _ => (optFloat_reads _).bind fun _ _ =>
    (optFloat_reads _).bind fun _ _ => readsWhen_ok _).congr (by simp [RowReads])

/-! ### The fund's section -/

lemma not_isDigitText_of_mem {c : Char} (hc : PyUnicode.isDigit c = false) {s : String}
    (hs : c ∈ s.toList) : isDigitText s = false := by
  rw [isDigitText, Bool.and_eq_false_iff]
  exact Or.inr (List.all_eq_false.2 ⟨c, hs, by simp [hc]⟩)

/-- The text of a list or a dict is no number. -/
lemma not_isDigitText_orEmpty {v : Json} (hv : (∃ items, v = .arr items) ∨ ∃ fs, v = .obj fs) :
    isDigitText v.orEmpty = false := by
  rw [orEmpty]
  by_cases htruthy : v.truthy = true
  · rw [if_pos htruthy]
    rcases hv with ⟨items, rfl⟩ | ⟨fields, rfl⟩
    · have hopen : '[' ∈ (toStr (.arr items)).toList := by
        rw [toStr, reprJson]
        · simp
        · simp
      exact not_isDigitText_of_mem (by decide) hopen
    · have hopen : '\x7b' ∈ (toStr (.obj fields)).toList := by
        rw [toStr, reprJson]
        · simp
        · simp
      exact not_isDigitText_of_mem (by decide) hopen
  · rw [if_neg htruthy]
    rfl

/-- Digits that `int` refuses are a `ValueError`. -/
lemma govParam_caught {gov : Fields} {key : String} {current : ℤ} {e : Exc}
    (h : govParam gov key current = .error e) : caught e = true := by
  rw [govParam] at h
  split_ifs at h with hdigits
  cases hv : lookup key gov with
  | str s =>
    rw [hv, pyIntOf, pyInt] at h
    split at h
    · cases h
    · obtain rfl := Except.error.inj h
      rfl
  | null =>
    rw [hv] at hdigits
    cases hdigits
  | arr items =>
    rw [not_isDigitText_orEmpty (Or.inl ⟨items, hv⟩)] at hdigits
    cases hdigits
  | obj fields =>
    rw [not_isDigitText_orEmpty (Or.inr ⟨fields, hv⟩)] at hdigits
    cases hdigits
  | _ =>
    rw [hv, pyIntOf] at h
    cases h

lemma gateCooldown_reads (gate : Fields) (current : Option Time) :
    ReadsWhen (hasKey "cooldownUntil" gate = true → FloatReads (lookup "cooldownUntil" gate))
      (gateCooldown gate current) := by
  rw [gateCooldown]
  by_cases hkey : hasKey "cooldownUntil" gate = true
  · rw [if_pos hkey]
    exact (optFloat_reads _).congr (by simp [hkey])
  · rw [if_neg hkey]
    exact (readsWhen_ok _).congr (by simp [hkey])

/-! ### The rows -/

/-- What the lookup of a proposal and a move go by. -/
def mark (p : ProposalRecord) : String × Option ℤ × Status := (p.id, p.onchainId, p.status)

structure Alike (s t : FundState) : Prop where
  records : s.proposals.map mark = t.proposals.map mark
  period : s.fund.cooldownPeriod = t.fund.cooldownPeriod

/-- The lookup among the marks alone. -/
def findMark (pid : String) (l : List (String × Option ℤ × Status)) :
    Except Exc (Option (ℕ × String × Option ℤ × Status)) :=
  match locate (fun k => k.1 = strip pid) l with
  | some r => .ok (some r)
  | none =>
      if isDigitText (bareId (strip pid)) ∧ l.any (·.2.1.isSome) = true then do
        let n ← pyInt (bareId (strip pid))
        return locate (fun k => k.2.1 = some n) l
      else .ok none

lemma proposal_map_mark (s : FundState) (pid : String) :
    (s.proposal pid).map (Option.map fun r => (r.1, mark r.2)) =
      findMark pid (s.proposals.map mark) := by
  have hid := locate_map (p := fun p : ProposalRecord => decide (p.id = strip pid))
    (q := fun k : String × Option ℤ × Status => decide (k.1 = strip pid)) mark (fun _ => rfl)
    s.proposals
  have honchain : ∀ n : ℤ, _ := fun n =>
    locate_map (p := fun p : ProposalRecord => decide (p.onchainId = some n))
      (q := fun k : String × Option ℤ × Status => decide (k.2.1 = some n)) mark (fun _ => rfl)
      s.proposals
  have hany : (s.proposals.map mark).any (·.2.1.isSome) =
      s.proposals.any (·.onchainId.isSome) := by
    rw [List.any_map]
    rfl
  rw [FundState.proposal, findMark, hid]
  cases locate (fun p : ProposalRecord => decide (p.id = strip pid)) s.proposals with
  | some r => rfl
  | none =>
    simp only [Option.map_none, hany]
    split_ifs
    · cases pyInt (bareId (strip pid)) with
      | error e => rfl
      | ok n => exact congrArg Except.ok (honchain n).symm
    · rfl

lemma Alike.proposal {s t : FundState} (h : Alike s t) (pid : String) :
    (s.proposal pid).map (Option.map fun r => (r.1, mark r.2)) =
      (t.proposal pid).map (Option.map fun r => (r.1, mark r.2)) := by
  rw [proposal_map_mark, proposal_map_mark, h.records]

/-- A process of the fund's store, where times are floats. -/
def floatRun {α : Type} (p : FundProg α) (s : FundState) : Outcome FundState Exc FundEvent α :=
  (p.raising floatRaises).run s

section FloatRun

variable {α β : Type} {p : FundProg α} {f : α → FundProg β} {s s' : FundState} {a : α} {e : Exc}
  {evs : List FundEvent}

lemma floatRun_bind_of_ok (h : (floatRun p s).result = .ok a) :
    (floatRun (p >>= f) s).result = (floatRun (f a) (floatRun p s).store).result ∧
      (floatRun (p >>= f) s).store = (floatRun (f a) (floatRun p s).store).store := by
  simp only [floatRun] at h ⊢
  rw [Prog.raising_bind, Prog.run_bind, h]
  exact ⟨rfl, rfl⟩

lemma floatRun_bind_of_error (h : (floatRun p s).result = .error e) :
    (floatRun (p >>= f) s).result = .error e := by
  rw [floatRun] at h
  rw [floatRun, Prog.raising_bind, Prog.run_bind, h]

lemma floatRun_lift (a : α) (s : FundState) : floatRun (lift (.ok a)) s = ⟨.ok a, s, []⟩ := rfl

lemma floatRun_get (s : FundState) : floatRun Prog.get s = ⟨.ok s, s, []⟩ := rfl

/-- An operation that starts no cooldown does what it does at exact times. -/
lemma floatRun_call_of_ok {op : Op} {r : op.update.Reply} (hop : startsCooldown op.update = false ∨
      ¬cooldownOverflows s.fund) (h : op.exec s = .ok (r, s')) :
    floatRun (Prog.call (I := fundStore) op) s = ⟨.ok r, s', []⟩ := by
  have hquiet : floatRaises op s = none := by
    rw [floatRaises]
    exact if_neg fun hboth => by
      rcases hop with hop | hop
      · rw [hop] at hboth
        cases hboth.1
      · exact hop hboth.2
  have hexec : floatStore.exec op s = .ok (r, s') :=
    Interface.raising_of_ok (I := fundStore) floatRaises h hquiet
  rw [floatRun, Prog.raising_call]
  exact Prog.run_call_of_ok (I := floatStore) hexec

lemma floatRun_call_of_error {op : Op} (h : op.exec s = .error e) :
    (floatRun (Prog.call (I := fundStore) op) s).result = .error e := by
  have hexec : floatStore.exec op s = .error e :=
    Interface.raising_of_error (I := fundStore) floatRaises h
  rw [floatRun, Prog.raising_call]
  exact congrArg Outcome.result (Prog.run_call_of_error (I := floatStore) hexec)

lemma floatRun_call_overflow {op : Op} {r : op.update.Reply} (hop : startsCooldown op.update = true)
    (hoverflow : cooldownOverflows s.fund) (h : op.exec s = .ok (r, s')) :
    (floatRun (Prog.call (I := fundStore) op) s).result =
      .error (.raised .overflow "int too large to convert to float") := by
  have hraises : floatRaises op s =
      some (.raised .overflow "int too large to convert to float") := if_pos ⟨hop, hoverflow⟩
  have hexec : floatStore.exec op s =
      .error (.raised .overflow "int too large to convert to float") :=
    Interface.raising_of_raises (I := fundStore) floatRaises h hraises
  rw [floatRun, Prog.raising_call]
  exact congrArg Outcome.result (Prog.run_call_of_error (I := floatStore) hexec)

lemma floatRun_runAct_of_ok {act : Act} {clock : Clock} {r : act.Reply}
    (hact : startsCooldown (.act act) = false)
    (h : Op.exec ⟨.act act, clock⟩ s = .ok (r, s')) :
    ∃ evs, floatRun (runAct act clock) s = ⟨.ok r, s', evs⟩ := by
  have hcall := floatRun_call_of_ok (Or.inl hact) h
  rw [floatRun] at hcall
  rw [floatRun, runAct, Prog.raising_bind, Prog.run_bind_of_ok hcall]
  cases act.event? r <;> exact ⟨_, rfl⟩

end FloatRun

lemma rowMove_eq_some {row : Fields} {p : ProposalRecord} {t : Status} :
    rowMove row p = some t ↔
      rowTarget row = some t ∧ p.status ≠ t ∧ (checkTransition p.status t).ok = true := by
  simp [rowMove, Option.filter_eq_some_iff]

/-- A proposal that is found is found at its place again, whatever was written of it. -/
lemma Alike.found {s t : FundState} {pid : String} {i : ℕ} {p : ProposalRecord} (h : Alike s t)
    (hfind : s.proposal pid = .ok (some (i, p))) :
    ∃ q, t.proposal pid = .ok (some (i, q)) ∧ mark q = mark p := by
  have hboth := h.proposal pid
  rw [hfind] at hboth
  cases ht : t.proposal pid with
  | error e =>
    rw [ht] at hboth
    cases hboth
  | ok found =>
    rw [ht] at hboth
    cases found with
    | none => cases Except.ok.inj hboth
    | some r =>
      obtain ⟨j, q⟩ := r
      obtain ⟨rfl, hmark⟩ : i = j ∧ mark p = mark q := by
        simpa [Except.map] using hboth
      exact ⟨q, rfl, hmark.symm⟩

/-- Alike states stay alike when the same place is written alike. -/
lemma Alike.set {s t t' : FundState} {i : ℕ} {p q : ProposalRecord} (h : Alike s t)
    (hmark : mark p = mark q) (hps : t'.proposals = t.proposals.set i q)
    (hperiod : t'.fund.cooldownPeriod = t.fund.cooldownPeriod) :
    Alike (setProposal s i p) t' := by
  refine ⟨?_, h.period.trans hperiod.symm⟩
  rw [hps, List.map_set, ← h.records, ← hmark, ← List.map_set]
  rfl

lemma proposal_caught {s : FundState} {pid : String} {e : Exc} (h : s.proposal pid = .error e) :
    caught e = true := by
  rw [FundState.proposal] at h
  split at h
  · cases h
  · split_ifs at h
    rw [pyInt] at h
    split at h
    · cases h
    · obtain rfl := Except.error.inj h
      rfl

lemma setChainState_caught {t : FundState} {pid : String} {read : ChainRead} {c : Clock}
    (h : ∀ i p, t.proposal pid ≠ .ok (some (i, p))) :
    ∃ e, (floatRun (runAct (.setChainState pid read) c) t).result = .error e ∧
      caught e = true := by
  obtain ⟨e, he, hcaught⟩ : ∃ e, findProposal t pid = .error e ∧ caught e = true := by
    rw [findProposal]
    cases hfind : t.proposal pid with
    | error e => exact ⟨e, rfl, proposal_caught hfind⟩
    | ok found =>
      cases found with
      | none => exact ⟨_, rfl, rfl⟩
      | some r => exact absurd hfind (h r.1 r.2)
  have hexec : Op.exec ⟨.act (.setChainState pid read), c⟩ t = .error e := by
    simp only [Op.exec, Update.mutate, Act.mutate, setChainState, he, bind, Except.bind]
  exact ⟨e, floatRun_bind_of_error (floatRun_call_of_error hexec), hcaught⟩

lemma setProposal_self {s : FundState} {i : ℕ} {p : ProposalRecord}
    (h : s.proposals[i]? = some p) : setProposal s i p = s := by
  have hset : s.proposals.set i p = s.proposals := by
    obtain ⟨hlt, hget⟩ := List.getElem?_eq_some_iff.1 h
    rw [← hget]
    exact List.set_getElem_self hlt
  rw [setProposal, hset]

/-- Where the proposal is found, what comes after the tallies finds it as it was. -/
lemma floatRun_tally {s t : FundState} {pid : String} {i : ℕ} {p : ProposalRecord} (h : Alike s t)
    (hs : s.proposal pid = .ok (some (i, p))) (read : ChainRead) (c : Clock) :
    ∃ t₁ q, Alike s t₁ ∧ t₁.proposal pid = .ok (some (i, q)) ∧ mark q = mark p ∧
      ∀ f : Option (ℕ × ProposalRecord) → FundProg Unit,
        (floatRun (runAct (.setChainState pid read) c >>= fun _ => Prog.get >>= fun state =>
            lift (state.proposal pid) >>= f) t).result = (floatRun (f (some (i, q))) t₁).result ∧
          (floatRun (runAct (.setChainState pid read) c >>= fun _ => Prog.get >>= fun state =>
            lift (state.proposal pid) >>= f) t).store = (floatRun (f (some (i, q))) t₁).store := by
  obtain ⟨q, ht, hmark⟩ := h.found hs
  obtain ⟨w, hw⟩ : ∃ w, w = { readRecord q read with chainSyncedAt := some c.now } := ⟨_, rfl⟩
  have hwmark : mark p = mark w := by
    rw [hw, ← hmark]
    rfl
  have hset : setChainState pid read c.now t =
      .ok ((w, decide (readRecord q read ≠ q)), setProposal t i w) := by
    simp only [setChainState, findProposal_ok.2 ht, hw]
    rfl
  obtain ⟨t₁, ht₁⟩ : ∃ t₁, t₁ = bump (setProposal t i w) c.stamp := ⟨_, rfl⟩
  have hexec : Op.exec ⟨.act (.setChainState pid read), c⟩ t =
      .ok ((w, decide (readRecord q read ≠ q)), t₁) := by
    rw [ht₁]
    exact Op.exec_of_ok ⟨.act (.setChainState pid read), c⟩ hset
  have halike : Alike s t₁ := by
    have hsame := @Alike.set _ _ t₁ i _ _ h hwmark (by rw [ht₁]; rfl) (by rw [ht₁]; rfl)
    rwa [setProposal_self (proposal_getElem? hs)] at hsame
  obtain ⟨q₁, hfound, hmark₁⟩ := halike.found hs
  obtain ⟨evs, hrun⟩ := floatRun_runAct_of_ok rfl hexec
  refine ⟨t₁, q₁, halike, hfound, hmark₁, fun f => ?_⟩
  have hget : floatRun (Prog.get >>= fun state : FundState => lift (state.proposal pid) >>= f) t₁ =
      floatRun (f (some (i, q₁))) t₁ := by
    change floatRun (lift (t₁.proposal pid) >>= f) t₁ = _
    rw [hfound]
    rfl
  have hfirst := @floatRun_bind_of_ok _ _ (runAct (.setChainState pid read) c)
    (fun _ => Prog.get >>= fun state => lift (state.proposal pid) >>= f) t _
    (congrArg Outcome.result hrun)
  rwa [congrArg Outcome.store hrun, hget] at hfirst

/-- A move whose cooldown is out of range raises what is not caught, and any other is made. -/
lemma floatRun_chainStatus {t : FundState} {pid : String} {i : ℕ} {q : ProposalRecord}
    (hfound : t.proposal pid = .ok (some (i, q))) (target : Status) (c : Clock) :
    (target = .vetoed ∧ cooldownOverflows t.fund →
        ∃ e, (floatRun (runChainStatus pid target c) t).result = .error e ∧ caught e = false) ∧
      (¬(target = .vetoed ∧ cooldownOverflows t.fund) →
        (floatRun (runChainStatus pid target c) t).result = .ok () ∧
          (floatRun (runChainStatus pid target c) t).store.proposals =
            t.proposals.set i { q with status := target, updatedAt := c.now } ∧
          (floatRun (runChainStatus pid target c) t).store.fund.cooldownPeriod =
            t.fund.cooldownPeriod) := by
  obtain ⟨r, t', hexec, hps, hperiod⟩ : ∃ r t', Op.exec ⟨.chainStatus pid target, c⟩ t = .ok (r, t') ∧
      t'.proposals = t.proposals.set i { q with status := target, updatedAt := c.now } ∧
      t'.fund.cooldownPeriod = t.fund.cooldownPeriod := by
    refine ⟨_, _, Op.exec_of_ok ⟨.chainStatus pid target, c⟩
      (chainStatus_of_found target c.now hfound), rfl, ?_⟩
    by_cases htarget : target = .vetoed
    · simp only [bump, htarget, if_true, CardPass.cooldownPeriod_startCooldown]
    · simp only [bump, htarget, if_false]
  constructor
  · rintro ⟨rfl, hoverflow⟩
    exact ⟨_, floatRun_bind_of_error (floatRun_call_overflow rfl hoverflow hexec), rfl⟩
  · intro hno
    have hquiet : startsCooldown (.chainStatus pid target) = false ∨ ¬cooldownOverflows t.fund := by
      by_cases htarget : target = .vetoed
      · exact Or.inr fun hoverflow => hno ⟨htarget, hoverflow⟩
      · exact Or.inl (decide_eq_false htarget)
    have hcall := floatRun_call_of_ok hquiet hexec
    have hrun : floatRun (runChainStatus pid target c) t =
        ⟨.ok (), t', [.status r.1 r.2 true]⟩ := by
      rw [floatRun] at hcall
      rw [floatRun, runChainStatus, Prog.raising_bind, Prog.run_bind_of_ok hcall]
      rfl
    rw [hrun]
    exact ⟨rfl, hps, hperiod⟩

/-- What a row does that is about a proposal: with numbers out of range, or a veto whose cooldown
is out of range, it raises what is not caught; with no proposal found, what is caught; and else the
fund is as before but for the status. -/
lemma applyRow_cases {s t : FundState} (h : Alike s t) (record : ProposalRecord) (row : Fields)
    (c c' : Clock) :
    (¬RowReads row → ∃ e, (floatRun (applyRow record row c c') t).result = .error e ∧
        caught e = false) ∧
      (RowReads row →
        match s.proposal record.id with
        | .ok (some (i, p)) =>
            (rowMove row p = some .vetoed ∧ cooldownOverflows s.fund →
              ∃ e, (floatRun (applyRow record row c c') t).result = .error e ∧
                caught e = false) ∧
            (¬(rowMove row p = some .vetoed ∧ cooldownOverflows s.fund) →
              (floatRun (applyRow record row c c') t).result = .ok () ∧
                Alike (setProposal s i { p with status := (rowMove row p).getD p.status })
                  (floatRun (applyRow record row c c') t).store)
        | _ => ∃ e, (floatRun (applyRow record row c c') t).result = .error e ∧
            caught e = true) := by
  constructor
  · intro hno
    obtain ⟨e, he, hloud⟩ := (rowRead_reads row).2 hno
    refine ⟨e, ?_, hloud⟩
    rw [applyRow, he]
    exact floatRun_bind_of_error rfl
  · intro hread
    obtain ⟨read, hread⟩ := (rowRead_reads row).1 hread
    have hstart : ∀ f : ChainRead → FundProg Unit,
        floatRun (lift (rowRead row) >>= f) t = floatRun (f read) t := by
      intro f
      rw [hread]
      rfl
    rw [applyRow, hstart]
    cases hs : s.proposal record.id with
    | error e =>
      have hboth := h.proposal record.id
      rw [hs] at hboth
      have hnone : ∀ i p, t.proposal record.id ≠ .ok (some (i, p)) := by
        intro i p ht
        rw [ht] at hboth
        cases hboth
      obtain ⟨e', he', hcaught⟩ := @setChainState_caught t record.id read c hnone
      exact ⟨e', floatRun_bind_of_error he', hcaught⟩
    | ok found =>
      cases found with
      | none =>
        have hboth := h.proposal record.id
        rw [hs] at hboth
        have hnone : ∀ i p, t.proposal record.id ≠ .ok (some (i, p)) := by
          intro i p ht
          rw [ht] at hboth
          cases Except.ok.inj hboth
        obtain ⟨e', he', hcaught⟩ := @setChainState_caught t record.id read c hnone
        exact ⟨e', floatRun_bind_of_error he', hcaught⟩
      | some r =>
        obtain ⟨i, p⟩ := r
        obtain ⟨t₁, q, halike, hfound, hmark, htail⟩ := floatRun_tally h hs read c
        have hstatus : q.status = p.status := congrArg (·.2.2) hmark
        dsimp only
        rw [(htail _).1, (htail _).2]
        cases hmove : rowMove row p with
        | none =>
          have hstay : ∀ target, rowTarget row = some target →
              ¬(q.status ≠ target ∧ (checkTransition q.status target).ok = true) := by
            intro target htarget hgo
            rw [hstatus] at hgo
            rw [rowMove_eq_some.2 ⟨htarget, hgo⟩] at hmove
            cases hmove
          have hself : setProposal s i { p with status := (none : Option Status).getD p.status } =
              s := setProposal_self (proposal_getElem? hs)
          rw [hself]
          refine ⟨fun h => (by cases h.1), fun _ => ?_⟩
          cases htarget : rowTarget row with
          | none => exact ⟨rfl, halike⟩
          | some target =>
            simp only [if_neg (hstay target htarget)]
            exact ⟨rfl, halike⟩
        | some target =>
          obtain ⟨htarget, hgo⟩ := rowMove_eq_some.1 hmove
          rw [← hstatus] at hgo
          simp only [htarget, if_pos hgo, Option.some.injEq, Option.getD_some]
          obtain ⟨hloud, hmade⟩ := floatRun_chainStatus hfound target c'
          have hoverflow : cooldownOverflows s.fund ↔ cooldownOverflows t₁.fund := by
            rw [cooldownOverflows, cooldownOverflows, halike.period]
          rw [hoverflow]
          refine ⟨hloud, fun hno => ?_⟩
          obtain ⟨hok, hps, hperiod⟩ := hmade hno
          refine ⟨hok, halike.set ?_ hps hperiod⟩
          have hid : q.id = p.id := congrArg (·.1) hmark
          have honchain : q.onchainId = p.onchainId := congrArg (·.2.1) hmark
          simp only [mark, hid, honchain]

/-- Everything that it raises is caught. -/
def Returns {α : Type} (x : Except Exc α) : Prop := ∀ e, x = .error e → caught e = true

lemma returns_bind_pure {p : FundProg ℕ} {f : ℕ → ℕ} {t : FundState} :
    Returns (floatRun (p >>= fun n => pure (f n)) t).result ↔ Returns (floatRun p t).result := by
  cases hp : (floatRun p t).result with
  | ok n =>
    have hok : (floatRun (p >>= fun n => pure (f n)) t).result = .ok (f n) :=
      (floatRun_bind_of_ok hp).1
    rw [hok]
    exact iff_of_true (fun e h => nomatch h) fun e h => nomatch h
  | error e => simp only [Returns, floatRun_bind_of_error hp, Except.error.injEq]

/-- What the rows raise is caught exactly when they can be read. -/
theorem applyRows_returns (loaded : FundState) {s t : FundState} (h : Alike s t)
    (clock : ℕ → Clock) (k : ℕ) (seen : List ℤ) (rows : List Fields) :
    Returns (floatRun (applyRows loaded clock k seen rows) t).result ↔
      RowsRead loaded s seen rows := by
  induction rows generalizing s t k seen with
  | nil => exact iff_of_true (fun e h => nomatch h) trivial
  | cons row rows ih =>
    rw [applyRows, RowsRead]
    cases hn : rowId row with
    | none => exact ih h (k + 1) seen
    | some onchain =>
      by_cases hseen : onchain ∈ seen
      · simp only [if_pos hseen]
        exact ih h (k + 1) seen
      simp only [if_neg hseen]
      cases hrec : rowRecord loaded row with
      | none => exact ih h (k + 1) (onchain :: seen)
      | some record =>
        obtain ⟨hloud, hcases⟩ :=
          applyRow_cases h record row (clock (2 * k + 1)) (clock (2 * k + 2))
        have hnot : ∀ {e : Exc}, (floatRun (applyRow record row (clock (2 * k + 1))
            (clock (2 * k + 2))) t).result = .error e →
            (Returns (floatRun (do
              applyRow record row (clock (2 * k + 1)) (clock (2 * k + 2))
              let updated ← applyRows loaded clock (k + 1) (onchain :: seen) rows
              return updated + 1) t).result ↔ caught e = true) := by
          intro e he
          rw [floatRun_bind_of_error he]
          simp [Returns]
        dsimp only
        by_cases hread : RowReads row
        · have hcases := hcases hread
          cases hs : s.proposal record.id with
          | error e =>
            rw [hs] at hcases
            obtain ⟨e', he', hcaught⟩ := hcases
            exact iff_of_true ((hnot he').2 hcaught) ⟨hread, trivial⟩
          | ok found =>
            rw [hs] at hcases
            cases found with
            | none =>
              obtain ⟨e', he', hcaught⟩ := hcases
              exact iff_of_true ((hnot he').2 hcaught) ⟨hread, trivial⟩
            | some r =>
              obtain ⟨i, p⟩ := r
              obtain ⟨hbad, hgood⟩ := hcases
              by_cases hoverflow : rowMove row p = some .vetoed ∧ cooldownOverflows s.fund
              · obtain ⟨e', he', hcaught⟩ := hbad hoverflow
                refine iff_of_false (fun hret => ?_) fun hrows => hrows.2.1 hoverflow.1 hoverflow.2
                rw [hnot he', hcaught] at hret
                cases hret
              · obtain ⟨hok, halike⟩ := hgood hoverflow
                rw [(floatRun_bind_of_ok hok).1, returns_bind_pure,
                  ih halike (k + 1) (onchain :: seen)]
                exact ⟨fun hrest => ⟨hread, fun hmove hover => hoverflow ⟨hmove, hover⟩, hrest⟩,
                  fun hrows => hrows.2.2⟩
        · obtain ⟨e', he', hcaught⟩ := hloud hread
          refine iff_of_false (fun hret => ?_) fun hrows => hread hrows.1
          rw [hnot he', hcaught] at hret
          cases hret

/-- A card that reads: its fund section, then its rows on what that leaves. -/
lemma applyChainCard_run {card : Json} {c : Card} (hparse : parseCard card = .ok c)
    (clock : ℕ → Clock) (s : FundState) :
    (∀ e, cardFund c.fund s = .error e →
        (floatRun (applyChainCard card clock) s).result = .error e) ∧
      (∀ s₁, cardFund c.fund s = .ok ((), s₁) → ∃ t₁, t₁.proposals = s₁.proposals ∧
        t₁.fund = s₁.fund ∧ (floatRun (applyChainCard card clock) s).result =
          (floatRun (applyRows t₁ clock 0 [] c.rows) t₁).result) := by
  have hstart : ∀ f : Card → FundProg ℕ, floatRun (lift (.ok c) >>= f) s = floatRun (f c) s :=
    fun f => rfl
  rw [applyChainCard, hparse, hstart]
  by_cases hempty : c.fund.isEmpty = true
  · simp only [hempty, Bool.not_true, Bool.false_eq_true, if_false]
    rw [CardIdempotence.cardFund_of_isEmpty hempty]
    refine ⟨fun e he => (by cases he), fun s₁ hs₁ => ?_⟩
    obtain rfl : s = s₁ := by simpa using hs₁
    exact ⟨s, rfl, rfl, rfl⟩
  · have hfull : c.fund.isEmpty = false := by simpa using hempty
    simp only [hfull, Bool.not_false, if_true]
    constructor
    · intro e he
      have hexec : Op.exec ⟨.cardFund c.fund, clock 0⟩ s = .error e := by
        simp only [Op.exec, Update.mutate, he, bind, Except.bind]
      exact floatRun_bind_of_error (floatRun_call_of_error hexec)
    · intro s₁ hs₁
      have hexec : Op.exec ⟨.cardFund c.fund, clock 0⟩ s = .ok ((), bump s₁ (clock 0).stamp) :=
        Op.exec_of_ok ⟨.cardFund c.fund, clock 0⟩ hs₁
      have hcall := floatRun_call_of_ok (Or.inl rfl) hexec
      refine ⟨bump s₁ (clock 0).stamp, rfl, rfl, ?_⟩
      refine (floatRun_bind_of_ok (congrArg Outcome.result hcall)).1.trans ?_
      rw [congrArg Outcome.store hcall]
      rfl

lemma rowsRead_congr {loaded loaded' : FundState} (h : loaded.proposals = loaded'.proposals)
    (s : FundState) (seen : List ℤ) (rows : List Fields) :
    RowsRead loaded s seen rows ↔ RowsRead loaded' s seen rows := by
  induction rows generalizing s seen with
  | nil => rfl
  | cons row rows ih =>
    have hrec : rowRecord loaded row = rowRecord loaded' row := by
      rw [rowRecord, rowRecord, h]
    rw [RowsRead, RowsRead, hrec]
    simp only [ih]

/-- What a card raises is caught exactly when it can be read. -/
lemma applyChainCard_returns (card : Fields) (clock : ℕ → Clock) (s : FundState) :
    Returns (floatRun (applyChainCard (.obj card) clock) s).result ↔ CardReads card s := by
  have hfails : ∀ e, parseCard (.obj card) = .error e → caught e = false →
      ¬Returns (floatRun (applyChainCard (.obj card) clock) s).result := by
    intro e he hloud hret
    have hraised : (floatRun (applyChainCard (.obj card) clock) s).result = .error e := by
      rw [applyChainCard, he]
      exact floatRun_bind_of_error rfl
    rw [hret e hraised] at hloud
    cases hloud
  by_cases hdata : ∃ d, (if hasKey "data" card then lookup "data" card else .obj card) = .obj d
  swap
  · obtain ⟨e, he, hloud⟩ : ∃ e, parseCard (.obj card) = .error e ∧ caught e = false := by
      have hstart : ∀ {e : Exc}, asDict (if hasKey "data" card then lookup "data" card
          else .obj card) = .error e → parseCard (.obj card) = .error e := by
        intro e he
        rw [parseCard]
        dsimp only
        rw [he]
        rfl
      cases hvalue : (if hasKey "data" card then lookup "data" card else .obj card) with
      | obj d => exact absurd ⟨d, hvalue⟩ hdata
      | _ => exact ⟨_, hstart (by rw [hvalue]; rfl), rfl⟩
    refine iff_of_false (hfails e he hloud) ?_
    rintro ⟨d, hd, -⟩
    exact hdata ⟨d, hd⟩
  obtain ⟨d, hd⟩ := hdata
  have hsame : ∀ d', (if hasKey "data" card then lookup "data" card else .obj card) = .obj d' →
      d' = d := by
    intro d' hd'
    rw [hd] at hd'
    exact (Json.obj.inj hd').symm
  by_cases hsections : SectionsRead d
  swap
  · obtain ⟨e, he, hloud⟩ := (parseCard_reads hd).2 hsections
    refine iff_of_false (hfails e he hloud) ?_
    rintro ⟨d', hd', hsections', -⟩
    rw [hsame d' hd'] at hsections'
    exact hsections hsections'
  obtain ⟨c, hparse⟩ := (parseCard_reads hd).1 hsections
  obtain ⟨hgov, hgate, hrows⟩ := parseCard_ok hd hparse
  obtain ⟨hrefused, hread⟩ := applyChainCard_run hparse clock s
  have hcard : CardReads card s ↔ ∀ period veto,
      govParam c.fund.gov "cooldownPeriod" s.fund.cooldownPeriod = .ok period →
        govParam c.fund.gov "vetoThresholdBps" s.fund.vetoThresholdBps = .ok veto →
          (hasKey "cooldownUntil" c.fund.gate = true →
              FloatReads (lookup "cooldownUntil" c.fund.gate)) ∧
            RowsRead s (withPeriod s period) [] c.rows := by
    rw [hgov, hgate, hrows]
    constructor
    · rintro ⟨d', hd', -, hreads⟩
      rw [hsame d' hd'] at hreads
      exact hreads
    · exact fun hreads => ⟨d, hd, hsections, hreads⟩
  rw [hcard]
  cases hperiod : govParam c.fund.gov "cooldownPeriod" s.fund.cooldownPeriod with
  | error e =>
    have hfund : cardFund c.fund s = .error e := by
      rw [cardFund, hperiod]
      rfl
    refine iff_of_true (fun e' he' => ?_) fun period veto hok => by cases hok
    rw [hrefused e hfund] at he'
    obtain rfl := Except.error.inj he'
    exact govParam_caught hperiod
  | ok period =>
    cases hveto : govParam c.fund.gov "vetoThresholdBps" s.fund.vetoThresholdBps with
    | error e =>
      have hfund : cardFund c.fund s = .error e := by
        rw [cardFund, hperiod, hveto]
        rfl
      refine iff_of_true (fun e' he' => ?_) fun period veto _ hok => by cases hok
      rw [hrefused e hfund] at he'
      obtain rfl := Except.error.inj he'
      exact govParam_caught hveto
    | ok veto =>
      by_cases htill : hasKey "cooldownUntil" c.fund.gate = true →
          FloatReads (lookup "cooldownUntil" c.fund.gate)
      · obtain ⟨till, htill'⟩ := (gateCooldown_reads c.fund.gate s.fund.cooldownUntil).1 htill
        obtain ⟨s₁, hfund⟩ : ∃ s₁, cardFund c.fund s = .ok ((), s₁) := by
          rw [cardFund, hperiod, hveto, htill']
          exact ⟨_, rfl⟩
        obtain ⟨hps, hs₁⟩ : s₁.proposals = s.proposals ∧ s₁.fund.cooldownPeriod = period := by
          obtain ⟨period', veto', till', hperiod', -, -, rfl⟩ := cardFund_ok hfund
          exact ⟨rfl, Except.ok.inj (hperiod'.symm.trans hperiod)⟩
        obtain ⟨t₁, ht₁, htfund, hresult⟩ := hread s₁ hfund
        have halike : Alike (withPeriod s period) t₁ := by
          refine ⟨?_, ?_⟩
          · rw [ht₁, hps]
            rfl
          · rw [htfund, hs₁]
            rfl
        rw [hresult, applyRows_returns t₁ halike clock 0 [] c.rows,
          rowsRead_congr (ht₁.trans hps)]
        constructor
        · intro hrows period' veto' hperiod' _
          obtain rfl := Except.ok.inj hperiod'
          exact ⟨htill, hrows⟩
        · exact fun hreads => (hreads period veto rfl rfl).2
      · obtain ⟨e, he, hloud⟩ :=
          (gateCooldown_reads c.fund.gate s.fund.cooldownUntil).2 htill
        have hfund : cardFund c.fund s = .error e := by
          rw [cardFund, hperiod, hveto, he]
          rfl
        refine iff_of_false (fun hret => ?_) fun hreads => htill (hreads period veto rfl rfl).1
        rw [hret e (hrefused e hfund)] at hloud
        cases hloud

lemma fundCard_ok {vault : String} {reply : Reply} {card : Fields} :
    fundCard vault reply = .ok card ↔ isAddress vault = true ∧ ∃ status fields,
      reply = .ok (status, .obj fields) ∧ (lookup "success" fields).truthy = true ∧
        lookup "data" fields = .obj card := by
  have hfields : ∀ {body : Json}, succeeded body = true → ∃ fields, body = .obj fields := by
    intro body hbody
    cases body with
    | obj fields => exact ⟨fields, rfl⟩
    | _ => cases hbody
  rw [fundCard.eq_def]
  by_cases hvault : isAddress vault = true
  swap
  · rw [if_neg hvault]
    exact iff_of_false (fun h => nomatch h) fun h => hvault h.1
  rw [if_pos hvault]
  cases reply with
  | error text => exact iff_of_false (fun h => nomatch h) fun ⟨_, _, _, h, _⟩ => nomatch h
  | ok answer =>
    obtain ⟨status, body⟩ := answer
    dsimp only
    by_cases hbody : succeeded body = true
    · rw [if_neg (by simp [hbody]), if_neg (by simp [hbody])]
      obtain ⟨fields, rfl⟩ := hfields hbody
      have hdict : (Json.obj fields).dictOrEmpty = fields := rfl
      rw [succeeded, hdict] at hbody
      rw [hdict]
      constructor
      · intro h
        split at h
        · next data hdata =>
          obtain rfl := Except.ok.inj h
          exact ⟨hvault, status, fields, rfl, hbody, hdata⟩
        · cases h
      · rintro ⟨-, status', fields', hanswer, -, hdata⟩
        cases hanswer
        rw [hdata]
    · rw [Bool.not_eq_true] at hbody
      refine iff_of_false (fun h => ?_) fun ⟨_, status', fields', hanswer, hsuccess, _⟩ => ?_
      · by_cases hstatus : status = 404
        · rw [if_pos ⟨hstatus, hbody⟩] at h
          cases h
        · rw [if_neg fun hboth => hstatus hboth.1, if_pos hbody] at h
          cases h
      · cases hanswer
        rw [show succeeded (.obj fields') = true from hsuccess] at hbody
        cases hbody

/-- A reply whose proposals are a list. -/
def listReply : Reply :=
  .ok (200, .obj [("success", .bool true),
    ("data", .obj [("proposals", .arr [.str "TSLA"])])])

end SherwoodMonitor.ChainSync
