import SherwoodMonitor.Envelope

/-! Which replies `prepare` answers with an action or its own error. What is read of a reply is read
by code that takes some types for granted, and of what that raises only a part is caught. -/
namespace SherwoodMonitor.ReplyErrors
open PyText PyJson PyConvert JsonRecords Records Envelope

/-! ### The replies that can be read -/

def isInfiniteFloat : Json → Bool
  | .float _ text => isInfinite text
  | _ => false

/-- A transaction that is read. -/
def txTaken : Json → Bool
  | .obj fields => (entry "to" fields).isSome && (entry "data" fields).isSome &&
      (entry "chainId" fields).any blockTaken
  | _ => false

/-- A transaction whose chain id is no integer but a float without end. -/
def txOverflows : Json → Bool
  | .obj fields => (entry "to" fields).isSome && (entry "data" fields).isSome &&
      (entry "chainId" fields).any isInfiniteFloat
  | _ => false

/-- `v or {}` is a dict. -/
def isDict (v : Json) : Bool := !v.truthy || v.fieldsOf.isSome

/-- The list of transactions is gone through up to the first that is not read; what stands beside
it is only read when there is no such transaction. -/
def dataReads (data meta_ : Json) : Bool :=
  isDict data &&
    match iterate (getOr "txs" (.arr []) data.dictOrEmpty) with
    | none => true
    | some items =>
        match (items.dropWhile txTaken).head? with
        | some t => !txOverflows t
        | none => isDict meta_ && (iterate (getOr "preconditions" (.arr []) data.dictOrEmpty)).isSome

def Answerable (payload : Json) : Prop :=
  succeeded payload = true →
    dataReads (Json.lookup "data" payload.dictOrEmpty) (Json.lookup "meta" payload.dictOrEmpty) = true

instance (payload : Json) : Decidable (Answerable payload) :=
  inferInstanceAs (Decidable (_ → _))

/-- An action, or the client's own error, whose text names the route. -/
def Answers (route : String) : Except Failure PreparedAction → Prop
  | .ok _ => True
  | .error (.txBuilder e) => e.route = route ∧ ∃ rest, e.text = "prepare/" ++ route ++ ": " ++ rest
  | .error (.raised _ _) => False

lemma answers_txBuilder (e : TxBuilderError) : Answers e.route (.error (.txBuilder e)) :=
  ⟨rfl, _, by rw [TxBuilderError.text, String.append_assoc]⟩

/-! ### Transactions -/

lemma intAt_cases (v : Json) :
    blockTaken v = true ∧ isInfiniteFloat v = false ∧ (∃ n, intAt v = .ok n) ∨
    blockTaken v = false ∧ isInfiniteFloat v = true ∧
      (∃ text, intAt v = .error (.raised .overflow text)) ∨
    blockTaken v = false ∧ isInfiniteFloat v = false ∧
      ∃ kind text, caught kind = true ∧ intAt v = .error (.raised kind text) := by
  cases v with
  | float q text =>
    by_cases hinf : isInfinite text = true
    · simp [blockTaken, isInfiniteFloat, intAt, intOf, isSpecial, hinf]
    · by_cases hspecial : isSpecial text = true
      · simp [blockTaken, isInfiniteFloat, intAt, intOf, hinf, hspecial, caught]
      · simp [blockTaken, isInfiniteFloat, intAt, intOf, hinf, hspecial]
  | str s => cases hs : int? s <;> simp [blockTaken, isInfiniteFloat, intAt, intOf, hs, caught]
  | _ => simp [blockTaken, isInfiniteFloat, intAt, intOf, caught]

lemma parseTx_cases (t : Json) :
    txTaken t = true ∧ (∃ tx, parseTx t = .ok tx) ∨
    txTaken t = false ∧ txOverflows t = true ∧
      (∃ text, parseTx t = .error (.raised .overflow text)) ∨
    txTaken t = false ∧ txOverflows t = false ∧
      ∃ kind text, caught kind = true ∧ parseTx t = .error (.raised kind text) := by
  cases t with
  | obj fields =>
    cases hto : entry "to" fields with
    | none => simp [txTaken, txOverflows, parseTx, subscript, hto, bind, Except.bind, caught]
    | some to_ =>
      cases hdata : entry "data" fields with
      | none => simp [txTaken, txOverflows, parseTx, subscript, hto, hdata, bind, Except.bind, caught]
      | some data =>
        cases hchain : entry "chainId" fields with
        | none =>
          simp [txTaken, txOverflows, parseTx, subscript, dictAt, hto, hdata, hchain, bind,
            Except.bind, caught]
        | some chain =>
          rcases intAt_cases chain with ⟨htaken, hinf, n, hn⟩ | ⟨htaken, hinf, text, hn⟩ |
            ⟨htaken, hinf, kind, text, hkind, hn⟩ <;>
          simp [txTaken, txOverflows, parseTx, subscript, dictAt, hto, hdata, hchain, htaken, hinf,
            hn, bind, Except.bind, pure, Except.pure]
          exact hkind
  | _ => simp [txTaken, txOverflows, parseTx, subscript, bind, Except.bind, caught]

/-- The first transaction that is not read decides what the list is read as. -/
lemma mapM_parseTx (items : List Json) :
    ((items.dropWhile txTaken).head? = none ∧ ∃ txs, items.mapM parseTx = .ok txs) ∨
    ∃ t failure, (items.dropWhile txTaken).head? = some t ∧ txTaken t = false ∧
      parseTx t = .error failure ∧ items.mapM parseTx = .error failure := by
  induction items with
  | nil => exact Or.inl ⟨rfl, [], rfl⟩
  | cons t items ih =>
    have hrefused : ∀ failure, txTaken t = false → parseTx t = .error failure →
        ((t :: items).dropWhile txTaken).head? = some t ∧
          (t :: items).mapM parseTx = .error failure := by
      intro failure htaken hparse
      rw [List.dropWhile_cons_of_neg (by simp [htaken]), List.mapM_cons, hparse]
      exact ⟨rfl, rfl⟩
    rcases parseTx_cases t with ⟨htaken, tx, hparse⟩ | ⟨htaken, -, text, hparse⟩ |
      ⟨htaken, -, kind, text, -, hparse⟩
    · rw [List.dropWhile_cons_of_pos htaken, List.mapM_cons, hparse]
      rcases ih with ⟨hhead, txs, htxs⟩ | ⟨t', failure, hhead, ht', hparse', hitems⟩
      · exact Or.inl ⟨hhead, tx :: txs, by rw [htxs]; rfl⟩
      · exact Or.inr ⟨t', failure, hhead, ht', hparse', by rw [hitems]; rfl⟩
    · obtain ⟨hhead, hitems⟩ := hrefused _ htaken hparse
      exact Or.inr ⟨t, _, hhead, htaken, hparse, hitems⟩
    · obtain ⟨hhead, hitems⟩ := hrefused _ htaken hparse
      exact Or.inr ⟨t, _, hhead, htaken, hparse, hitems⟩

/-! ### Replies -/

lemma dictAt_orDict (method : String) (v : Json) :
    isDict v = true ∧ dictAt method (orDict v) = .ok v.dictOrEmpty ∨
    isDict v = false ∧ ∃ text, dictAt method (orDict v) = .error (.raised .attribute text) := by
  cases hv : v.truthy with
  | false =>
    refine Or.inl ⟨by simp [isDict, hv], ?_⟩
    cases v with
    | obj fields =>
      have hnil : fields = [] := by simpa [Json.truthy] using hv
      simp [orDict, dictAt, hnil, Json.dictOrEmpty, Json.fieldsOf]
    | _ => simp [orDict, hv, dictAt, Json.dictOrEmpty, Json.fieldsOf]
  | true =>
    cases v with
    | obj fields =>
      exact Or.inl ⟨by simp [isDict, Json.fieldsOf],
        by simp [orDict, hv, dictAt, Json.dictOrEmpty, Json.fieldsOf]⟩
    | _ => exact Or.inr ⟨by simp [isDict, hv, Json.fieldsOf], _, by rw [orDict, hv]; rfl⟩

lemma itemsOf_some {v : Json} {items : List Json} (h : iterate v = some items) :
    itemsOf v = .ok items := by
  rw [itemsOf, h]

lemma itemsOf_none {v : Json} (h : iterate v = none) :
    ∃ text, itemsOf v = .error (.raised .type text) := by
  rw [itemsOf, h]
  exact ⟨_, rfl⟩

/-- What escapes of reading the transactions is what is not caught. -/
lemma answers_malformed {route : String} {status : ℤ} {kind : Kind} {text : String} :
    Answers route (.error (malformed route status (.raised kind text))) ↔ caught kind = true := by
  cases hkind : caught kind with
  | true =>
    simp only [malformed, hkind, if_true, iff_true]
    exact answers_txBuilder _
  | false => simp [malformed, hkind, Answers]

lemma answers_assemble {route : String} {data meta_ : Json} {txs : List UnsignedTx}
    (hdata : isDict data = true) :
    Answers route (assemble route (orDict data) (orDict meta_) txs) ↔
      (isDict meta_ && (iterate (getOr "preconditions" (.arr []) data.dictOrEmpty)).isSome) =
        true := by
  have hfields : dictAt "get" (orDict data) = .ok data.dictOrEmpty := by
    rcases dictAt_orDict "get" data with ⟨-, hok⟩ | ⟨hno, -⟩
    · exact hok
    · simp [hdata] at hno
  rw [assemble]
  rcases dictAt_orDict "get" meta_ with ⟨hmeta, hinfo⟩ | ⟨hmeta, text, hinfo⟩
  · rw [hinfo, hfields, hmeta]
    cases hitems : iterate (getOr "preconditions" (.arr []) data.dictOrEmpty) with
    | none =>
      obtain ⟨text, herror⟩ := itemsOf_none hitems
      simp [bind, Except.bind, herror, Answers]
    | some items => simp [bind, Except.bind, pure, Except.pure, itemsOf_some hitems, Answers]
  · rw [hinfo, hmeta]
    simp [bind, Except.bind, Answers]

/-- The part of a reply that is read where the request succeeded. -/
lemma answers_data (route : String) (status : ℤ) (data meta_ : Json) :
    Answers route
        (match parseTxs (orDict data) with
          | .error failure => .error (malformed route status failure)
          | .ok txs => assemble route (orDict data) (orDict meta_) txs) ↔
      dataReads data meta_ = true := by
  rw [parseTxs, dataReads]
  rcases dictAt_orDict "get" data with ⟨hdata, hfields⟩ | ⟨hdata, text, hfields⟩
  · rw [hfields, hdata, Bool.true_and]
    cases hitems : iterate (getOr "txs" (.arr []) data.dictOrEmpty) with
    | none =>
      obtain ⟨text, herror⟩ := itemsOf_none hitems
      simp only [bind, Except.bind, herror, iff_true]
      exact answers_malformed.2 rfl
    | some items =>
      simp only [bind, Except.bind, itemsOf_some hitems]
      rcases mapM_parseTx items with ⟨hhead, txs, htxs⟩ | ⟨t, failure, hhead, htaken, hparse, htxs⟩
      · rw [hhead, htxs]
        exact answers_assemble hdata
      · rw [hhead, htxs]
        rcases parseTx_cases t with ⟨hyes, -⟩ | ⟨-, hover, text, herror⟩ |
          ⟨-, hover, kind, text, hkind, herror⟩
        · simp [htaken] at hyes
        · obtain rfl := Except.error.inj (hparse.symm.trans herror)
          simp only [hover, Bool.not_true]
          exact answers_malformed
        · obtain rfl := Except.error.inj (hparse.symm.trans herror)
          simp only [hover, Bool.not_false]
          exact answers_malformed.trans (by simp [hkind])
  · rw [hfields, hdata, Bool.false_and]
    exact answers_malformed

lemma answers_parseEnvelope (route : String) (status : ℤ) (payload : Json) :
    Answers route (parseEnvelope route status payload) ↔ Answerable payload := by
  rw [parseEnvelope.eq_def, Answerable]
  cases hsucceeded : succeeded payload with
  | false =>
    refine iff_of_true ?_ (by simp)
    by_cases hmissing : status = 404
    · rw [if_pos ⟨hmissing, rfl⟩]
      exact answers_txBuilder _
    · rw [if_neg fun h => hmissing h.1]
      cases payload <;> exact answers_txBuilder _
  | true =>
    rw [if_neg (by simp)]
    cases payload with
    | obj reply =>
      simp only [forall_const]
      exact answers_data route status _ _
    | _ => simp [succeeded, Json.dictOrEmpty, Json.fieldsOf, Json.lookup, Json.truthy] at hsucceeded

/-- A success whose `data` is a list. -/
def listReply : Json := .obj [("success", .bool true), ("data", .arr [.obj []])]

end SherwoodMonitor.ReplyErrors
