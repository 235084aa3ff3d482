import Lndhubx.Bank.Walk

/-!
# The keys of transactions and summaries

`make_tx` keys its row with the clock and with a sequence number that the engine
counts up, so no two of its keys are the same, whatever the clock shows
(`nodup_txidsFrom`). `make_summary_tx` keys its row with the clock alone, in
milliseconds: the second summary of a millisecond has the key of the first, and
the database refuses it (`summary_refused_sample`).

`Issues ts ms s s'` is what happens in between: transactions were keyed at the
times `ts`, summaries at the times `ms`, the tables hold no other new keys, and
none was refused that was new. It is composed along a handler
(`Composed.issues`) and along a run (`issues_of_run`). A message makes one
summary at most, so the keys of a run are distinct if no two messages that make
summaries are handled in one millisecond (`distinct_keys_of_run`).
-/

namespace Lndhubx

open Prog BankEngine

variable {cfg : Config} {env : Env} {s s' s'' : State} {α : Type}

theorem summaryTxidOf_inj {t t' : Nat} (h : summaryTxidOf t = summaryTxidOf t') : t = t' := by
  have htx : txidOf t 0 = txidOf t' 0 := congrArg (fun x : String => x ++ "-" ++ toString 0) h
  exact (txidOf_inj htx).1

/-- The keys of transactions made at these times, after `seq` others. -/
def txidsFrom : Nat → List Nat → List Txid
  | _, [] => []
  | seq, t :: ts => txidOf t (seq + 1) :: txidsFrom (seq + 1) ts

theorem txidsFrom_append (seq : Nat) (ts ts' : List Nat) :
    txidsFrom seq (ts ++ ts') = txidsFrom seq ts ++ txidsFrom (seq + ts.length) ts' := by
  induction ts generalizing seq with
  | nil => rfl
  | cons t ts ih =>
    have hlen : seq + (t :: ts).length = seq + 1 + ts.length := by
      rw [List.length_cons]
      omega
    rw [List.cons_append, txidsFrom, txidsFrom, ih, hlen, List.cons_append]

theorem mem_txidsFrom {seq : Nat} {ts : List Nat} {x : Txid} (h : x ∈ txidsFrom seq ts) :
    ∃ t ∈ ts, ∃ k, seq < k ∧ x = txidOf t k := by
  induction ts generalizing seq with
  | nil => exact absurd h (by simp [txidsFrom])
  | cons t ts ih =>
    rw [txidsFrom] at h
    rcases List.mem_cons.mp h with h | h
    · exact ⟨t, by simp, seq + 1, by omega, h⟩
    · obtain ⟨t', ht', k, hk, hx⟩ := ih h
      exact ⟨t', List.mem_cons_of_mem t ht', k, by omega, hx⟩

/-- The sequence number alone keeps them apart. -/
theorem nodup_txidsFrom (seq : Nat) (ts : List Nat) : (txidsFrom seq ts).Nodup := by
  induction ts generalizing seq with
  | nil => exact List.nodup_nil
  | cons t ts ih =>
    rw [txidsFrom]
    refine List.nodup_cons.mpr ⟨fun hmem => ?_, ih (seq + 1)⟩
    obtain ⟨t', -, k, hk, hx⟩ := mem_txidsFrom hmem
    have hseq : seq + 1 = k := (txidOf_inj hx).2
    omega

/-! ## The keys made in between -/

/-- None of these keys is in a table, and no two summaries are of one millisecond. -/
structure Unused (ts ms : List Nat) (s : State) : Prop where
  transactions : ∀ k ∈ txidsFrom s.txSeq ts, s.db.transactions.has k = false
  summaries : ∀ t ∈ ms, s.db.summaryTransactions.has (summaryTxidOf t) = false
  nodup : ms.Nodup

structure Issues (ts ms : List Nat) (s s' : State) : Prop where
  txSeq : s'.txSeq = s.txSeq + ts.length
  txids : s'.issued.txids = s.issued.txids ++ txidsFrom s.txSeq ts
  summaryTxids : s'.issued.summaryTxids = s.issued.summaryTxids ++ ms.map summaryTxidOf
  transactions : ∀ k, s'.db.transactions.has k = true →
    s.db.transactions.has k = true ∨ k ∈ txidsFrom s.txSeq ts
  summaries : ∀ t, s'.db.summaryTransactions.has (summaryTxidOf t) = true →
    s.db.summaryTransactions.has (summaryTxidOf t) = true ∨ t ∈ ms
  refused : Unused ts ms s → s'.issued.refused = s.issued.refused

namespace Issues

variable {ts ts' ms ms' : List Nat}

theorem of_eq (ht : s'.db.transactions = s.db.transactions)
    (hs : s'.db.summaryTransactions = s.db.summaryTransactions) (hseq : s'.txSeq = s.txSeq)
    (hi : s'.issued = s.issued) : Issues [] [] s s' where
  txSeq := hseq
  txids := by rw [hi, txidsFrom, List.append_nil]
  summaryTxids := by rw [hi, List.map_nil, List.append_nil]
  transactions k hk := by
    rw [ht] at hk
    exact .inl hk
  summaries t h := by
    rw [hs] at h
    exact .inl h
  refused _ := by rw [hi]

/-- The keys of the second part are unused after the first. -/
theorem unused (h : Issues ts ms s s') (hu : Unused (ts ++ ts') (ms ++ ms') s) :
    Unused ts ms s ∧ Unused ts' ms' s' := by
  obtain ⟨htx, hsum, hnd⟩ := hu
  rw [txidsFrom_append] at htx
  obtain ⟨hms, hms', hdis⟩ := List.nodup_append.mp hnd
  refine ⟨⟨fun k hk => htx k (List.mem_append_left _ hk),
    fun t ht => hsum t (List.mem_append_left _ ht), hms⟩, fun k hk => ?_, fun t ht => ?_, hms'⟩
  · rw [h.txSeq] at hk
    have hold := htx k (List.mem_append_right _ hk)
    by_contra hhas
    rcases h.transactions k (by simpa using hhas) with hthen | hnew
    · rw [hold] at hthen
      exact absurd hthen (by simp)
    · have hapart := nodup_txidsFrom s.txSeq (ts ++ ts')
      rw [txidsFrom_append] at hapart
      exact (List.nodup_append.mp hapart).2.2 k hnew k hk rfl
  · have hold := hsum t (List.mem_append_right _ ht)
    by_contra hhas
    rcases h.summaries t (by simpa using hhas) with hthen | hnew
    · rw [hold] at hthen
      exact absurd hthen (by simp)
    · exact hdis t hnew t ht rfl

theorem trans (h : Issues ts ms s s') (h' : Issues ts' ms' s' s'') :
    Issues (ts ++ ts') (ms ++ ms') s s'' where
  txSeq := by
    rw [h'.txSeq, h.txSeq, List.length_append]
    omega
  txids := by rw [h'.txids, h.txids, h.txSeq, txidsFrom_append, List.append_assoc]
  summaryTxids := by
    rw [h'.summaryTxids, h.summaryTxids, List.map_append, List.append_assoc]
  transactions k hk := by
    rw [txidsFrom_append, List.mem_append]
    rcases h'.transactions k hk with hk | hk
    · rcases h.transactions k hk with hk | hk
      · exact .inl hk
      · exact .inr (.inl hk)
    · rw [h.txSeq] at hk
      exact .inr (.inr hk)
  summaries t ht := by
    rw [List.mem_append]
    rcases h'.summaries t ht with ht | ht
    · rcases h.summaries t ht with ht | ht
      · exact .inl ht
      · exact .inr (.inl ht)
    · exact .inr (.inr ht)
  refused hu := by
    obtain ⟨hu, hu'⟩ := h.unused hu
    rw [h'.refused hu', h.refused hu]

end Issues

/-! ## A handler -/

/-- The keys a handler makes: of transactions at the times it reads, and of `n`
summaries at most. -/
def IssuesUpTo (env : Env) (n : Nat) (s s' : State) : Prop :=
  ∃ ts ms, (∀ t ∈ ts, ∃ leg, t = env.now (.tx leg)) ∧
    ms.Sublist (List.replicate n (env.now .summary)) ∧ Issues ts ms s s'

namespace IssuesUpTo

variable {n m : Nat}

theorem nothing (h : Issues [] [] s s') : IssuesUpTo env n s s' :=
  ⟨[], [], by simp, List.nil_sublist _, h⟩

theorem trans (h : IssuesUpTo env n s s') (h' : IssuesUpTo env m s' s'') :
    IssuesUpTo env (n + m) s s'' := by
  obtain ⟨ts, ms, hts, hms, hi⟩ := h
  obtain ⟨ts', ms', hts', hms', hi'⟩ := h'
  refine ⟨ts ++ ts', ms ++ ms', fun t ht => ?_, ?_, hi.trans hi'⟩
  · rcases List.mem_append.mp ht with ht | ht
    · exact hts t ht
    · exact hts' t ht
  · rw [List.replicate_add]
    exact hms.append hms'

theorem mono (h : IssuesUpTo env n s s') (hle : n ≤ m) : IssuesUpTo env m s s' := by
  obtain ⟨ts, ms, hts, hms, hi⟩ := h
  exact ⟨ts, ms, hts, hms.trans ((List.replicate_sublist_replicate _).mpr hle), hi⟩

end IssuesUpTo

/-- `make_tx` makes one key, or none where it fails before. -/
theorem makeTx_issues (leg : Nat) (outbound : Account) (uid : UserId) (inbound : Account)
    (uid' : UserId) (amount : Money) :
    Ensures (makeTx env leg outbound uid inbound uid' amount) s fun _ s' =>
      IssuesUpTo env 0 s s' := by
  have hfailed : Ensures (failTx outbound inbound) s fun _ s' => IssuesUpTo env 0 s s' :=
    .nothing (.of_eq rfl rfl rfl rfl)
  refine Ensures.ite (fun _ => hfailed) fun _ => Ensures.ite (fun _ => hfailed) fun _ => ?_
  refine Ensures.ite (fun _ => hfailed) fun _ => ?_
  refine Ensures.lift_bind fun outboundBalance _ => Ensures.lift_bind fun inboundBalance _ => ?_
  refine Ensures.get_bind ?_
  dsimp only
  split
  next transactions hins =>
    split at hins
    next =>
      refine ⟨[env.now (.tx leg)], [], fun t ht => ⟨leg, List.mem_singleton.mp ht⟩,
        List.nil_sublist _, ⟨rfl, rfl, (List.append_nil _).symm, fun k hk => ?_, fun _ h => .inl h,
        fun _ => List.append_nil _⟩⟩
      rcases (Table.has_insert hins k).mp hk with hk | hk
      · exact .inl hk
      · exact .inr (List.mem_singleton.mpr hk)
    next => exact absurd hins (by simp)
  next hins =>
    refine ⟨[env.now (.tx leg)], [], fun t ht => ⟨leg, List.mem_singleton.mp ht⟩,
      List.nil_sublist _, ⟨rfl, rfl, (List.append_nil _).symm, fun _ h => .inl h, fun _ h => .inl h,
      fun hu => ?_⟩⟩
    show s.issued.refused ++ (if env.db (.txInsert leg) then _ else []) = s.issued.refused
    split at hins
    next =>
      -- the insert was made, and refused for its key
      have htaken := Table.insert_eq_none.mp hins
      rw [hu.transactions _ (by simp [txidsFrom])] at htaken
      exact absurd htaken (by simp)
    next hflag => rw [if_neg hflag, List.append_nil]

theorem makeSummaryTx_issues (x : SummaryTx) :
    Ensures (makeSummaryTx env x) s fun _ s' => IssuesUpTo env 1 s s' := by
  refine Ensures.ite (fun _ => .nothing (.of_eq rfl rfl rfl rfl)) fun _ => ?_
  refine Ensures.ite (fun _ => Ensures.panic _) fun _ => ?_
  refine Ensures.ite (fun _ => .nothing (.of_eq rfl rfl rfl rfl)) fun _ => ?_
  dsimp only
  refine Ensures.lift_bind fun exchanged _ => Ensures.lift_bind fun inbound _ => ?_
  refine Ensures.get_bind ?_
  split
  next summaries hins =>
    split at hins
    next =>
      refine ⟨[], [env.now .summary], by simp, List.Sublist.refl _, ⟨rfl, (List.append_nil _).symm,
        rfl, fun _ h => .inl h, fun t ht => ?_, fun _ => List.append_nil _⟩⟩
      rcases (Table.has_insert hins _).mp ht with ht | ht
      · exact .inl ht
      · exact .inr (List.mem_singleton.mpr (summaryTxidOf_inj ht))
    next => exact absurd hins (by simp)
  next hins =>
    refine ⟨[], [env.now .summary], by simp, List.Sublist.refl _, ⟨rfl, (List.append_nil _).symm,
      rfl, fun _ h => .inl h, fun _ h => .inl h, fun hu => ?_⟩⟩
    show s.issued.refused ++ (if env.db .summaryInsert then _ else []) = s.issued.refused
    split at hins
    next =>
      have htaken := Table.insert_eq_none.mp hins
      rw [hu.summaries _ (by simp)] at htaken
      exact absurd htaken (by simp)
    next hflag => rw [if_neg hflag, List.append_nil]

theorem getDefaultAccount_issues (owner : Owner) (c : Currency) (t : Option AccountType) :
    Ensures (getDefaultAccount env owner c t) s fun _ s' => IssuesUpTo env 0 s s' := by
  refine Ensures.get_bind ?_
  split
  next => exact .nothing (.of_eq rfl rfl rfl rfl)
  next => exact .nothing (.of_eq rfl rfl rfl rfl)

/-- What the calls make, the handler makes. -/
theorem Composed.issues {o : Order} {Γ : Set Kind} {n : Nat} {p p' : Handler α}
    (h : Composed env o Γ n p p') : Keeps (IssuesUpTo env n) p := by
  induction h with
  | aside h =>
    exact h.mono fun _ _ hu => .nothing (.of_eq hu.transactions hu.summaries hu.txSeq hu.issued)
  | bind _ _ ihp ihf =>
    intro s
    exact (ihp s).bind fun b s₁ h₁ => (ihf b s₁).mono fun _ _ h₂ => h₁.trans h₂
  | read _ ihf => exact fun s => Ensures.get_bind (ihf s s)
  | find _ _ ihf =>
    intro s
    refine (getDefaultAccount_issues _ _ _).bind fun a s₁ h₁ => (ihf a s₁).mono fun _ _ h₂ => ?_
    have h := h₁.trans h₂
    rwa [Nat.zero_add] at h
  | openUser uid => exact .write fun _ => .nothing (.of_eq rfl rfl rfl rfl)
  | put _ => exact .write fun _ => .nothing (.of_eq rfl rfl rfl rfl)
  | insurance a => exact .write fun _ => .nothing (.of_eq rfl rfl rfl rfl)
  | tx _ ihf =>
    intro s
    refine ((makeTx_issues _ _ _ _ _ _).and (makeTx_kinds _ _ _ _ _ _)).bind fun x s₁ h₁ => ?_
    obtain ⟨h₁, -, hout, hinn⟩ := h₁
    refine (ihf _ _ _ hout hinn s₁).mono fun _ _ h₂ => ?_
    have h := h₁.trans h₂
    rwa [Nat.zero_add] at h
  | summary x => exact fun s => makeSummaryTx_issues x
  | mono _ hle ih => exact ih.mono fun _ _ h => h.mono hle

/-! ## Runs -/

/-- No two messages that make summaries are handled in one millisecond. -/
def Apart (d d' : Delivery) : Prop :=
  Summarising d.msg → Summarising d'.msg → d.env.now .summary ≠ d'.env.now .summary

/-- The tables hold no key with a time at which these messages are handled. -/
structure NoKeyOf (ds : List Delivery) (s : State) : Prop where
  transactions : ∀ d ∈ ds, ∀ leg k,
    s.db.transactions.has (txidOf (d.env.now (.tx leg)) k) = false
  summaries : ∀ d ∈ ds,
    s.db.summaryTransactions.has (summaryTxidOf (d.env.now .summary)) = false

/-- The keys one message makes. -/
theorem Delivers.issues {d : Delivery} (h : Delivers cfg s d s') :
    ∃ ts ms, (∀ t ∈ ts, ∃ leg, t = d.env.now (.tx leg)) ∧ ms.Nodup ∧
      (∀ t ∈ ms, Summarising d.msg ∧ t = d.env.now .summary) ∧ Issues ts ms s s' := by
  have hstart : Issues [] [] s { s with sent := [] } := .of_eq rfl rfl rfl rfl
  by_cases hsum : Summarising d.msg
  · obtain ⟨ts, ms, hts, hms, hi⟩ := h.ensures ((processMsg_composed (o := ⟨id, .refl⟩)
      (Γ := ∅) d.msg).issues _)
    refine ⟨ts, ms, hts, (hms.nodup (by simp)), fun t ht => ⟨hsum, ?_⟩, hstart.trans hi⟩
    exact List.mem_singleton.mp (hms.subset ht)
  · obtain ⟨ts, ms, hts, hms, hi⟩ := h.ensures ((processMsg_unsummarised (o := ⟨id, .refl⟩)
      (Γ := ∅) hsum).issues _)
    obtain rfl := List.sublist_nil.mp hms
    exact ⟨ts, [], hts, List.nodup_nil, by simp, hstart.trans hi⟩

theorem issues_of_run {ds : List Delivery} (hrun : Run cfg s ds s') :
    ∃ ts ms, (∀ t ∈ ts, ∃ d ∈ ds, ∃ leg, t = d.env.now (.tx leg)) ∧
      (∀ t ∈ ms, ∃ d ∈ ds, Summarising d.msg ∧ t = d.env.now .summary) ∧
      (ds.Pairwise Apart → ms.Nodup) ∧ Issues ts ms s s' := by
  induction hrun with
  | nil => exact ⟨[], [], by simp, by simp, fun _ => List.nodup_nil, .of_eq rfl rfl rfl rfl⟩
  | @snoc s₁ s₂ ds d _ hlast ih =>
    obtain ⟨ts, ms, hts, hms, hnd, hi⟩ := ih
    obtain ⟨ts', ms', hts', hnd', hms', hi'⟩ := hlast.issues
    refine ⟨ts ++ ts', ms ++ ms', fun t ht => ?_, fun t ht => ?_, fun hapart => ?_, hi.trans hi'⟩
    · rcases List.mem_append.mp ht with ht | ht
      · obtain ⟨d', hd', hleg⟩ := hts t ht
        exact ⟨d', List.mem_append_left _ hd', hleg⟩
      · exact ⟨d, by simp, hts' t ht⟩
    · rcases List.mem_append.mp ht with ht | ht
      · obtain ⟨d', hd', h⟩ := hms t ht
        exact ⟨d', List.mem_append_left _ hd', h⟩
      · exact ⟨d, by simp, hms' t ht⟩
    · -- a key of the last message was made at its own time, the others before it
      obtain ⟨hds, -, hcross⟩ := List.pairwise_append.mp hapart
      refine List.nodup_append.mpr ⟨hnd hds, hnd', fun t ht t' ht' heq => ?_⟩
      obtain ⟨d', hd', hsum, htime⟩ := hms t ht
      obtain ⟨hsum', htime'⟩ := hms' t' ht'
      exact hcross d' hd' d (by simp) hsum hsum' (by rw [← htime, ← htime', heq])

/-- The keys of transactions are distinct in every run. -/
theorem txids_nodup_of_run {ds : List Delivery} (hrun : Run cfg s ds s')
    (hstart : s.issued = .none) : s'.issued.txids.Nodup := by
  obtain ⟨ts, ms, -, -, -, hi⟩ := issues_of_run hrun
  rw [hi.txids, hstart]
  exact nodup_txidsFrom _ _

/-- In a run of which no two messages make their summaries in one millisecond, no key
is made twice, and no insert is refused for a key that is taken. -/
theorem distinct_keys_of_run {ds : List Delivery} (hrun : Run cfg s ds s')
    (hstart : s.issued = .none) (hapart : ds.Pairwise Apart) (hkeys : NoKeyOf ds s) :
    s'.issued.txids.Nodup ∧ s'.issued.summaryTxids.Nodup ∧ s'.issued.refused = [] := by
  obtain ⟨ts, ms, hts, hms, hnd, hi⟩ := issues_of_run hrun
  have hnd := hnd hapart
  refine ⟨txids_nodup_of_run hrun hstart, ?_, ?_⟩
  · rw [hi.summaryTxids, hstart]
    exact hnd.map fun _ _ => summaryTxidOf_inj
  · have hunused : Unused ts ms s := by
      refine ⟨fun k hk => ?_, fun t ht => ?_, hnd⟩
      · obtain ⟨t, ht, n, -, rfl⟩ := mem_txidsFrom hk
        obtain ⟨d, hd, leg, rfl⟩ := hts t ht
        exact hkeys.transactions d hd leg n
      · obtain ⟨d, hd, -, rfl⟩ := hms t ht
        exact hkeys.summaries d hd
    rw [hi.refused hunused, hstart]
    rfl

/-- A deposit and, a millisecond later, a payment. -/
theorem distinct_keys_sample : ∃ s', Run Sample.config Sample.state Sample.run s' ∧
    s'.issued.summaryTxids.length = 2 ∧ s'.issued.txids.Nodup ∧ s'.issued.summaryTxids.Nodup ∧
    s'.issued.refused = [] := by
  obtain ⟨s', hrun, hlen⟩ := exists_run Sample.config Sample.run Sample.state
    (fun s' => s'.issued.summaryTxids.length = 2) (by decide +kernel)
  refine ⟨s', hrun, hlen, distinct_keys_of_run hrun rfl ?_ ⟨fun d hd leg k => ?_, fun d hd => ?_⟩⟩
  · refine List.pairwise_pair.mpr fun _ _ => ?_
    show (1 : Nat) ≠ 2
    decide
  · rfl
  · rfl

/-- A deposit and a payment in one millisecond: the summary of the payment has the key
of the deposit's, and is refused. -/
theorem summary_refused_sample : ∃ s', Run Sample.config Sample.state
      [⟨Sample.env 1, Sample.deposit⟩, ⟨Sample.env 1, .api (.paymentRequest Sample.payShop)⟩] s' ∧
    s'.issued.summaryTxids = ["1", "1"] ∧ ¬s'.issued.summaryTxids.Nodup ∧
    s'.issued.refused = ["1"] := by
  obtain ⟨s', hrun, hkeys, hrefused⟩ := exists_run Sample.config
    [⟨Sample.env 1, Sample.deposit⟩, ⟨Sample.env 1, .api (.paymentRequest Sample.payShop)⟩]
    Sample.state (fun s' => s'.issued.summaryTxids = ["1", "1"] ∧ s'.issued.refused = ["1"])
    (by decide +kernel)
  refine ⟨s', hrun, hkeys, ?_, hrefused⟩
  rw [hkeys]
  decide

end Lndhubx
