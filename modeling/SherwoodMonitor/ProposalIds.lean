import SherwoodMonitor.Library.PyNumber
import SherwoodMonitor.StatusMoves

/-! The local ids of proposals. Drafts take "p-1", "p-2" and so on, and no write changes an id, so
in every state that the service reaches an id names the record that carries it. -/
namespace SherwoodMonitor.ProposalIds
open PyText PyNumber Lookup Models FundState Service Calls CallRuns Effects AtomicStore StatusMoves

variable {s s' : FundState} {i : ℕ} {p : ProposalRecord}

lemma toList_issued (n : ℕ) :
    ("p-" ++ toString (n : ℤ)).toList = ['p', '-'] ++ Nat.toDigits 10 n := by
  rw [String.toList_append, toList_natCast]
  simp

lemma issued_inj {n m : ℕ} (h : "p-" ++ toString (n : ℤ) = "p-" ++ toString (m : ℤ)) : n = m := by
  have hchars := congrArg String.toList h
  rw [String.toList_append, String.toList_append, List.append_cancel_left_eq] at hchars
  exact Int.ofNat.inj (toString_inj (String.toList_injective hchars))

lemma strip_issued (n : ℕ) : strip ("p-" ++ toString (n : ℤ)) = "p-" ++ toString (n : ℤ) := by
  have hself : stripChars (['p', '-'] ++ Nat.toDigits 10 n) = ['p', '-'] ++ Nat.toDigits 10 n := by
    refine stripChars_digits _ fun c hc => ?_
    obtain rfl : 'p' = c := by simpa using hc
    decide
  rw [strip, toList_issued, hself, ← toList_issued, String.ofList_toList]

/-- Every id was issued by a draft, and none twice. -/
structure IdsIssued (s : FundState) : Prop where
  seq : 0 ≤ s.nextProposalSeq
  nodup : (s.proposals.map (·.id)).Nodup
  issued : ∀ id ∈ s.proposals.map (·.id),
    ∃ n : ℕ, (n : ℤ) < s.nextProposalSeq ∧ id = "p-" ++ toString (n : ℤ)

lemma IdsIssued.of_keepsIds (hs : IdsIssued s) (h : KeepsIds s s') : IdsIssued s' where
  seq := h.1 ▸ hs.seq
  nodup := h.2 ▸ hs.nodup
  issued := by
    rw [h.1, h.2]
    exact hs.issued

/-- A draft takes an id that no proposal has. -/
lemma IdsIssued.of_drafts (hs : IdsIssued s) (h : Drafts s s') : IdsIssued s' := by
  obtain ⟨hseq, r, -, hid, hps⟩ := h
  obtain ⟨k, hk⟩ := Int.eq_ofNat_of_zero_le hs.seq
  rw [hk] at hid
  have hids : s'.proposals.map (·.id) = s.proposals.map (·.id) ++ ["p-" ++ toString (k : ℤ)] := by
    rw [hps, List.map_append, List.map_singleton, hid]
  have hfresh : "p-" ++ toString (k : ℤ) ∉ s.proposals.map (·.id) := by
    intro hmem
    obtain ⟨n, hn, heq⟩ := hs.issued _ hmem
    obtain rfl := issued_inj heq
    omega
  have hseq' := hs.seq
  refine ⟨by omega, ?_, fun id hid => ?_⟩
  · rw [hids]
    exact hs.nodup.append (List.nodup_singleton _) (by simpa using hfresh)
  · rw [hids, List.mem_append, List.mem_singleton] at hid
    rcases hid with hid | rfl
    · obtain ⟨n, hn, heq⟩ := hs.issued id hid
      exact ⟨n, by omega, heq⟩
    · exact ⟨k, by omega, rfl⟩

lemma IdsIssued.mutate {u : Update} {now : Time} {r : u.Reply} (hs : IdsIssued s)
    (h : u.mutate now s = .ok (r, s')) : IdsIssued s' :=
  (proposals_mutate h).elim hs.of_keepsIds hs.of_drafts

lemma preserves_idsIssued : Preserves (fun _ => True) IdsIssued where
  bump _ _ hs := ⟨hs.seq, hs.nodup, hs.issued⟩
  reads _ _ := trivial
  act a _ _ _ _ _ hs h := IdsIssued.mutate (u := .act a) hs h
  cardFund card _ _ _ hs h := @IdsIssued.mutate _ _ (.cardFund card) 0 _ hs h
  chainStatus pid status _ _ _ _ _ _ hs _ _ _ h :=
    IdsIssued.mutate (u := .chainStatus pid status) hs h

lemma idsIssued_createFund {fund : Fund} {host : Agent} {now stamp : Time}
    (h : createFund fund host now stamp = .ok s) : IdsIssued s := by
  simp only [createFund, bind_eq_ok, pure_eq_ok] at h
  obtain ⟨-, -, name, -, rfl⟩ := h
  exact ⟨Int.one_nonneg, List.nodup_nil, by simp⟩

/-- In every run of calls the ids are issued ones. -/
theorem idsIssued_of_run {fund : Fund} {host : Agent} {now stamp : Time} {s₀ : FundState}
    (hcreate : createFund fund host now stamp = .ok s₀) (calls : List Call) :
    IdsIssued (runCalls calls s₀) :=
  preserves_idsIssued.calls (fun c _ => by cases c <;> trivial) (idsIssued_createFund hcreate)

/-- The id of a record names it. -/
lemma IdsIssued.find (hs : IdsIssued s) (hp : s.proposals[i]? = some p) :
    s.proposal p.id = .ok (some (i, p)) := by
  obtain ⟨n, -, hid⟩ := hs.issued p.id (List.mem_map_of_mem (List.mem_of_getElem? hp))
  have hstrip : strip p.id = p.id := by rw [hid, strip_issued]
  have hloc := locate_of_nodup hs.nodup hp
  rw [FundState.proposal, hstrip, hloc]

lemma IdsIssued.index_eq {j : ℕ} {q : ProposalRecord} (hs : IdsIssued s)
    (hp : s.proposals[i]? = some p) (hq : s.proposals[j]? = some q) (hid : p.id = q.id) :
    i = j := by
  have hfind := hs.find hp
  rw [hid, hs.find hq] at hfind
  exact (Prod.mk.inj (Option.some.inj (Except.ok.inj hfind))).1.symm

lemma IdsIssued.eq_of_id {q : ProposalRecord} (hs : IdsIssued s) (hp : p ∈ s.proposals)
    (hq : q ∈ s.proposals) (hid : p.id = q.id) : p = q :=
  List.inj_on_of_nodup_map hs.nodup hp hq hid

end SherwoodMonitor.ProposalIds
