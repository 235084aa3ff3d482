import Lndhubx.Dealer.Spec

/-!
# Guaranteed quotes

A quote is kept under the microsecond it was made in, and is taken from the
table by the first swap request that names it, whoever sent it and whether or
not it fits; quotes that are too old are dropped when any swap request comes in.
`SwapAnswer` says what a request is answered and what is left of the quotes.

A redeemed quote is at least as good as promised exactly if bitcoin is not what
is bought, apart from trivial cases (`redeemed_not_worse_iff`).
-/

namespace Lndhubx

open Prog DealerEngine

variable {cfg : DealerConfig} {env : DealerEnv} {s s' : DealerState}

abbrev Quotes := Std.ExtTreeMap Nat QuoteResponse compare

/-- The quotes that are not too old. -/
def unexpired (now : Nat) (quotes : Quotes) : Quotes :=
  quotes.filter fun id _ => now - QUOTE_TTL_MS * 1000 ≤ id

theorem getElem?_unexpired {now id : Nat} {quotes : Quotes} :
    (unexpired now quotes)[id]? = if now - QUOTE_TTL_MS * 1000 ≤ id then quotes[id]? else none := by
  unfold unexpired
  rw [Std.ExtTreeMap.getElem?_filter']
  cases quotes[id]? with
  | none => simp
  | some quote => simp [Option.filter]

theorem getElem?_erase_of_ne {id id' : Nat} {quotes : Quotes} (h : id' ≠ id) :
    (quotes.erase id)[id']? = quotes[id']? := by
  rw [Std.ExtTreeMap.getElem?_erase, if_neg]
  exact fun e => h (Std.LawfulEqCmp.eq_of_compare e).symm

/-! ## What a swap request is answered -/

/-- The answer that a request succeeds at a rate. -/
def SwapRequest.accepted (req : SwapRequest) (rate : Option Rate) (fees : Option Money) :
    SwapResponse where
  reqId := req.reqId
  uid := req.uid
  success := true
  amount := req.amount
  fromCurrency := req.fromCurrency
  toCurrency := req.toCurrency
  rate := rate
  error := none
  fees := fees

def SwapRequest.refused (req : SwapRequest) (error : SwapResponseError) : SwapResponse :=
  { req.accepted none none with success := false, error := some error }

/-- The answer to a request that finds these quotes, at the current rate, and the
quotes after it. -/
inductive SwapAnswer (req : SwapRequest) (quotes : Quotes) (linear : Bool) (current : Option Rate)
    (fees : Option Money) : SwapResponse → Quotes → Prop
  | atRate (unquoted : req.quoteId = none) (rated : current.isSome = true) :
      SwapAnswer req quotes linear current fees (req.accepted current fees) quotes
  | noRate (unquoted : req.quoteId = none) (unrated : current = none) :
      SwapAnswer req quotes linear current fees (req.refused .currencyNotAvailable) quotes
  | unknown (id : Nat) (quoted : req.quoteId = some id) (missing : quotes[id]? = none) :
      SwapAnswer req quotes linear current fees (req.refused .invalidQuoteId) quotes
  | mismatch (id : Nat) (quote : QuoteResponse) (quoted : req.quoteId = some id)
      (found : quotes[id]? = some quote) (invalid : validateQuote quote req = false) :
      SwapAnswer req quotes linear current fees (req.refused .invalidQuoteId) (quotes.erase id)
  | redeemed (id : Nat) (quote : QuoteResponse) (quoted : req.quoteId = some id)
      (found : quotes[id]? = some quote) (valid : validateQuote quote req = true) :
      SwapAnswer req quotes linear current fees
        (req.accepted (getBetterRate quote.rate current linear)
          (if getBetterRate quote.rate current linear = quote.rate then quote.fees else fees))
        (quotes.erase id)

/-- How the rates of a swap compare. -/
def SwapRequest.isLinear (req : SwapRequest) : Checked Bool :=
  if req.fromCurrency = .BTC ∨ req.toCurrency = .BTC then do
    let conversion ← ConversionInfo.new req.fromCurrency req.toCurrency
    return conversion.isLinear
  else return true

/-- A swap request that the dealer handled. -/
theorem swapRequest_cases {req : SwapRequest} (h : swapRequest cfg env req s = .ok ((), s')) :
    (req.fromCurrency = req.toCurrency ∧ SameQuotes s s' ∧
      s'.sent = s.sent ++ [.api (.swapResponse (req.refused .invalid))]) ∨
    (req.fromCurrency ≠ req.toCurrency ∧ ∃ linear current fees response,
      req.isLinear = .ok linear ∧ getRate cfg s req.amount req.toCurrency = .ok (current, fees) ∧
      SwapAnswer req (unexpired env.now s.guaranteedQuotes) linear current fees response
        s'.guaranteedQuotes ∧
      s'.sent = s.sent ++ [.api (.swapResponse response)]) := by
  have hens : Ensures (swapRequest cfg env req) s fun _ s' =>
      (req.fromCurrency = req.toCurrency ∧ SameQuotes s s' ∧
        s'.sent = s.sent ++ [.api (.swapResponse (req.refused .invalid))]) ∨
      (req.fromCurrency ≠ req.toCurrency ∧ ∃ linear current fees response,
        req.isLinear = .ok linear ∧ getRate cfg s req.amount req.toCurrency = .ok (current, fees) ∧
        SwapAnswer req (unexpired env.now s.guaranteedQuotes) linear current fees response
          s'.guaranteedQuotes ∧
        s'.sent = s.sent ++ [.api (.swapResponse response)]) := by
    unfold swapRequest
    dsimp only
    refine Ensures.ite (fun heq => .inl ⟨heq, rfl, rfl⟩) fun hne => ?_
    refine Ensures.ite (fun _ => Ensures.panic _) fun _ => Ensures.modify_bind ?_
    refine Ensures.lift_bind fun linear hlinear => Ensures.get_bind ?_
    refine Ensures.lift_bind fun r hr => ?_
    obtain ⟨current, fees⟩ := r
    -- the quotes are not looked at for a rate
    have hrate : getRate cfg s req.amount req.toCurrency = .ok (current, fees) := hr
    dsimp only
    cases hid : req.quoteId with
    | none =>
      refine Ensures.ite (fun hsome => ?_) fun hnone => ?_
      · exact .inr ⟨hne, linear, current, fees, _, hlinear, hrate, .atRate hid hsome, rfl⟩
      · have hnone : current = none := by simpa using hnone
        exact .inr ⟨hne, linear, current, fees, _, hlinear, hrate, .noRate hid hnone, rfl⟩
    | some id =>
      dsimp only
      split
      next hmissing =>
        exact .inr ⟨hne, linear, current, fees, _, hlinear, hrate, .unknown id hid hmissing, rfl⟩
      next quote hfound =>
        refine Ensures.set_bind (Ensures.ite (fun hvalid => ?_) fun hinvalid => ?_)
        · exact .inr ⟨hne, linear, current, fees, _, hlinear, hrate,
            .redeemed id quote hid hfound hvalid, rfl⟩
        · have hinvalid : validateQuote quote req = false := by simpa using hinvalid
          exact .inr ⟨hne, linear, current, fees, _, hlinear, hrate,
            .mismatch id quote hid hfound hinvalid, rfl⟩
  exact hens.of_run h

/-- Where a rate is found, a swap can be told its direction. -/
theorem SwapRequest.isLinear_returns {req : SwapRequest} {quoted : DealerEngine.Quoted}
    (hown : req.amount.currency = req.fromCurrency)
    (hrate : getRate cfg s req.amount req.toCurrency = .ok quoted) :
    ∃ linear, req.isLinear = .ok linear := by
  unfold isLinear
  unfold getRate at hrate
  rw [hown] at hrate
  by_cases hbtc : req.fromCurrency = .BTC ∨ req.toCurrency = .BTC
  · rw [if_pos hbtc] at hrate ⊢
    obtain ⟨conversion, hnew, -⟩ := Checked.bind_eq_ok.mp hrate
    exact ⟨_, Checked.bind_eq_ok.mpr ⟨conversion, hnew, rfl⟩⟩
  · rw [if_neg hbtc]
    exact ⟨_, rfl⟩

theorem dealerListener_returns (msg : Message) : Returns (listener msg) s := trivial

theorem swapRequest_returns_of_rate {req : SwapRequest} {quoted : DealerEngine.Quoted}
    (hclock : QUOTE_TTL_MS * 1000 ≤ env.now) (hown : req.amount.currency = req.fromCurrency)
    (hrate : getRate cfg s req.amount req.toCurrency = .ok quoted) :
    Returns (swapRequest cfg env req) s := by
  refine Returns.ite (fun _ => (dealerListener_returns _).bind fun _ _ => .ret _) fun _ => ?_
  refine Returns.ite (fun hearly => absurd hclock (not_le.mpr hearly)) fun _ =>
    Returns.modify_bind ?_
  obtain ⟨linear, hlinear⟩ := SwapRequest.isLinear_returns hown hrate
  refine Returns.lift_bind hlinear (Returns.get_bind (Returns.lift_bind hrate ?_))
  cases req.quoteId with
  | none => exact Returns.ite (fun _ => dealerListener_returns _) fun _ => dealerListener_returns _
  | some quoteId =>
    dsimp only
    split
    next => exact dealerListener_returns _
    next =>
      exact Returns.set_bind (Returns.ite (fun _ => dealerListener_returns _)
        fun _ => dealerListener_returns _)

/-! ## A redeemed quote -/

/-- An amount is worth no less at `best` than at the two other rates. -/
def NotWorse (amount : Decimal) (quoted current best : Option Rate) : Prop :=
  ∀ r, best = some r →
    (∀ q, quoted = some q → amount * q.value ≤ amount * r.value) ∧
      ∀ c, current = some c → amount * c.value ≤ amount * r.value

/-- Bitcoin is bought exactly if the rates are inverse. -/
theorem SwapRequest.isLinear_eq_ok {req : SwapRequest} {linear : Bool}
    (hne : req.fromCurrency ≠ req.toCurrency) (h : req.isLinear = .ok linear) :
    linear = true ↔ req.toCurrency ≠ .BTC := by
  unfold isLinear at h
  by_cases hbtc : req.fromCurrency = .BTC ∨ req.toCurrency = .BTC
  · rw [if_pos hbtc] at h
    obtain ⟨conversion, hnew, h⟩ := Checked.bind_eq_ok.mp h
    have h := Checked.pure_eq_ok.mp h
    rw [← h]
    unfold ConversionInfo.new at hnew
    rw [if_neg hne, if_neg (by tauto)] at hnew
    obtain ⟨symbol, -, hnew⟩ := Checked.bind_eq_ok.mp hnew
    have hnew := Checked.pure_eq_ok.mp hnew
    rw [← hnew]
    unfold ConversionInfo.isLinear
    rw [decide_eq_true_iff]
    constructor
    · intro hfrom hto
      exact hne (hfrom.symm.trans hto.symm)
    · intro hto
      exact (hbtc.resolve_right hto).symm
  · rw [if_neg hbtc] at h
    have h := Checked.pure_eq_ok.mp h
    rw [← h]
    exact iff_of_true rfl fun hto => hbtc (.inr hto)

/-- The larger rate is the better one for a positive amount, the smaller for a
negative one. -/
theorem notWorse_getBetterRate (amount : Decimal) (quoted current : Option Rate) (linear : Bool) :
    NotWorse amount quoted current (getBetterRate quoted current linear) ↔
      ∀ q c, quoted = some q → current = some c →
        q.value = c.value ∨ amount = 0 ∨ (0 < amount ↔ linear = true) := by
  cases quoted with
  | none =>
    refine iff_of_true ?_ (by simp)
    cases current with
    | none => exact fun r h => absurd h (by simp [getBetterRate])
    | some c =>
      intro r h
      have h : c = r := Option.some.inj h
      subst h
      exact ⟨by simp, fun c' hc' => by rw [Option.some.inj hc']⟩
  | some q =>
    cases current with
    | none =>
      refine iff_of_true ?_ (by simp)
      intro r h
      have h : q = r := Option.some.inj h
      subst h
      exact ⟨fun q' hq' => by rw [Option.some.inj hq'], by simp⟩
    | some c =>
      have hbest : ∃ r, getBetterRate (some q) (some c) linear = some r ∧
          r.value = if linear then max q.value c.value else min q.value c.value := by
        unfold getBetterRate
        cases linear with
        | true =>
          rcases lt_or_ge c.value q.value with hlt | hle
          · exact ⟨q, by simp [hlt], by simp [hlt.le]⟩
          · exact ⟨c, by simp [not_lt.mpr hle], by simp [hle]⟩
        | false =>
          rcases lt_or_ge q.value c.value with hlt | hle
          · exact ⟨q, by simp [hlt], by simp [hlt.le]⟩
          · exact ⟨c, by simp [not_lt.mpr hle], by simp [hle]⟩
      obtain ⟨r, hr, hvalue⟩ := hbest
      have hnot : NotWorse amount (some q) (some c) (some r) ↔
          amount * q.value ≤ amount * r.value ∧ amount * c.value ≤ amount * r.value := by
        constructor
        · intro h
          exact ⟨(h r rfl).1 q rfl, (h r rfl).2 c rfl⟩
        · intro h r' hr'
          rw [← Option.some.inj hr']
          exact ⟨fun q' hq' => by rw [← Option.some.inj hq']; exact h.1,
            fun c' hc' => by rw [← Option.some.inj hc']; exact h.2⟩
      rw [hr, hnot, hvalue]
      constructor
      · intro h q' c' hq' hc'
        obtain rfl := Option.some.inj hq'
        obtain rfl := Option.some.inj hc'
        by_cases hzero : amount = 0
        · exact .inr (.inl hzero)
        by_cases hsign : 0 < amount ↔ linear = true
        · exact .inr (.inr hsign)
        -- the wrong end was chosen, so there is only one
        left
        cases linear with
        | true =>
          have hneg : amount < 0 := lt_of_le_of_ne (not_lt.mp (by simpa using hsign)) hzero
          have hq := (mul_le_mul_left_of_neg hneg).mp h.1
          have hc := (mul_le_mul_left_of_neg hneg).mp h.2
          exact le_antisymm ((le_max_left _ _).trans hc) ((le_max_right _ _).trans hq)
        | false =>
          have hpos : 0 < amount := by simpa using hsign
          have hq := (mul_le_mul_iff_right₀ hpos).mp h.1
          have hc := (mul_le_mul_iff_right₀ hpos).mp h.2
          exact le_antisymm (hq.trans (min_le_right _ _)) (hc.trans (min_le_left _ _))
      · intro h
        rcases h q c rfl rfl with heq | hzero | hsign
        · simp [heq]
        · simp [hzero]
        · cases linear with
          | true =>
            have hpos : 0 ≤ amount := (hsign.mpr rfl).le
            exact ⟨mul_le_mul_of_nonneg_left (le_max_left _ _) hpos,
              mul_le_mul_of_nonneg_left (le_max_right _ _) hpos⟩
          | false =>
            have hneg : amount ≤ 0 := not_lt.mp fun hpos => absurd (hsign.mp hpos) (by simp)
            exact ⟨mul_le_mul_of_nonpos_left (min_le_left _ _) hneg,
              mul_le_mul_of_nonpos_left (min_le_right _ _) hneg⟩

/-- **A redeemed quote.** The rate of the answer is at least as good as the quoted
and the current one exactly if one of them is missing, they are the same, the
amount is nothing, or it is positive and something else than bitcoin is bought. -/
theorem redeemed_not_worse_iff {req : SwapRequest} {id : Nat} {quote : QuoteResponse}
    {current : Option Rate} {fees : Option Money} (hne : req.fromCurrency ≠ req.toCurrency)
    (hid : req.quoteId = some id)
    (hstored : (unexpired env.now s.guaranteedQuotes)[id]? = some quote)
    (hvalid : validateQuote quote req = true)
    (hcurrent : getRate cfg s req.amount req.toCurrency = .ok (current, fees))
    (hrun : DealerDelivers cfg s ⟨env, .bank (.api (.swapRequest req))⟩ s') :
    ∃ response, s'.sent = s.sent ++ [.api (.swapResponse response)] ∧ response.success = true ∧
      (NotWorse req.amount.value quote.rate current response.rate ↔
        ∀ q c, quote.rate = some q → current = some c →
          q.value = c.value ∨ req.amount.value = 0 ∨
            (0 < req.amount.value ↔ req.toCurrency ≠ .BTC)) := by
  rcases swapRequest_cases (dealerDelivers_iff.mp hrun) with ⟨heq, -⟩ | ⟨-, linear, current', fees',
    response, hlinear, hcurrent', hanswer, hsent⟩
  · exact absurd heq hne
  rw [hcurrent] at hcurrent'
  obtain ⟨rfl, rfl⟩ := Prod.mk.inj (Except.ok.inj hcurrent')
  refine ⟨response, hsent, ?_⟩
  rw [← req.isLinear_eq_ok hne hlinear, ← notWorse_getBetterRate]
  generalize s'.guaranteedQuotes = left at hanswer
  cases hanswer with
  | atRate hnone => exact absurd (hnone.symm.trans hid) (by simp)
  | noRate hnone => exact absurd (hnone.symm.trans hid) (by simp)
  | unknown id' hid' hmissing =>
    rw [← Option.some.inj (hid.symm.trans hid'), hstored] at hmissing
    exact absurd hmissing (by simp)
  | mismatch id' quote' hid' hfound hinvalid =>
    rw [← Option.some.inj (hid.symm.trans hid'), hstored] at hfound
    rw [← Option.some.inj hfound, hvalid] at hinvalid
    exact absurd hinvalid (by simp)
  | redeemed id' quote' hid' hfound _ =>
    rw [← Option.some.inj (hid.symm.trans hid'), hstored] at hfound
    rw [← Option.some.inj hfound]
    exact ⟨rfl, Iff.rfl⟩

namespace Sample

/-- The rates that were quoted or agreed on, in this order. -/
def ratesOf (sent : List Message) : List Decimal :=
  sent.filterMap fun
    | .api (.quoteResponse r) => r.rate.map (·.value)
    | .api (.swapResponse r) => r.rate.map (·.value)
    | _ => none

/-- Alice asks what five units of a currency are worth. -/
def askQuote (uid : UserId) (source target : Currency) : DealerInput :=
  .bank (.api (.quoteRequest ⟨1, uid, Money.new source 5, source, target⟩))

/-- And takes the quote. -/
def takeQuote (uid : UserId) (source target : Currency) (id : Nat) : SwapRequest :=
  ⟨2, uid, Money.new source 5, source, target, some id⟩

/-- A snapshot of the dollar book a second before the quote. -/
def quoted (source target : Currency) : List DealerDelivery :=
  [⟨dealerEnv 9000000, dollarBook "snapshot" 100 101 1000⟩,
    ⟨dealerEnv 10000000, askQuote 7 source target⟩]

end Sample

/-- Five bitcoins sold for dollars: the rate is no worse than either. -/
theorem redeemed_not_worse_sample : ∃ s s' quote current response,
    DealerRun Sample.dealerConfig Sample.dealer (Sample.quoted .BTC .USD) s ∧
    DealerDelivers Sample.dealerConfig s
      ⟨Sample.dealerEnv 11000000,
        .bank (.api (.swapRequest (Sample.takeQuote 7 .BTC .USD 10000000)))⟩
      s' ∧
    s.guaranteedQuotes[10000000]? = some quote ∧
    s'.sent = s.sent ++ [.api (.swapResponse response)] ∧
    NotWorse 5 quote.rate current response.rate := by
  obtain ⟨s, hrun, hquote, hrate, hswap⟩ := exists_dealerRun Sample.dealerConfig
    (Sample.quoted .BTC .USD) Sample.dealer
    (fun s => (s.guaranteedQuotes[10000000]?).any
        (fun q => validateQuote q (Sample.takeQuote 7 .BTC .USD 10000000)) = true ∧
      (getRate Sample.dealerConfig s (Sample.takeQuote 7 .BTC .USD 10000000).amount .USD
        ).toOption.isSome = true ∧
      (DealerEngine.deliver Sample.dealerConfig
        ⟨Sample.dealerEnv 11000000, .bank (.api (.swapRequest
        (Sample.takeQuote 7 .BTC .USD 10000000)))⟩ s).toOption.any (fun _ => decide True) = true)
    (by decide +kernel)
  obtain ⟨s', hs', -⟩ := exists_dealerDelivers Sample.dealerConfig _ s (fun _ => True) hswap
  cases hfound : s.guaranteedQuotes[10000000]? with
  | none =>
    rw [hfound] at hquote
    exact absurd hquote (by simp)
  | some quote =>
    cases hcur : getRate Sample.dealerConfig s (Sample.takeQuote 7 .BTC .USD 10000000).amount
        .USD with
    | error e =>
      rw [hcur] at hrate
      exact absurd hrate (by simp [Except.toOption])
    | ok r =>
      obtain ⟨current, fees⟩ := r
      rw [hfound] at hquote
      obtain ⟨response, hsent, -, hiff⟩ := redeemed_not_worse_iff (by decide) rfl
        (by rw [getElem?_unexpired, if_pos (by decide)]; exact hfound) hquote hcur hs'
      have hamount : (Sample.takeQuote 7 .BTC .USD 10000000).amount.value = 5 := by decide +kernel
      rw [hamount] at hiff
      refine ⟨s, s', quote, current, response, hrun, hs', hfound, hsent, ?_⟩
      exact hiff.mpr fun q c _ _ => .inr (.inr (by decide +kernel))

/-- Five dollars for bitcoin: after the price has doubled, the quote is redeemed
at the new rate, which is half of what was promised. -/
theorem redeemed_worse : ∃ s q r,
    DealerRun Sample.dealerConfig Sample.dealer (Sample.quoted .USD .BTC ++
      [⟨Sample.dealerEnv 10500000, Sample.dollarBook "snapshot" 200 202 1000⟩,
        ⟨Sample.dealerEnv 11000000, .bank (.api (.swapRequest
          (Sample.takeQuote 7 .USD .BTC 10000000)))⟩]) s ∧
    Sample.ratesOf s.sent = [q, r] ∧ 5 * r < 5 * q := by
  obtain ⟨s, hrun, hrates⟩ := exists_dealerRun Sample.dealerConfig
    (Sample.quoted .USD .BTC ++
      [⟨Sample.dealerEnv 10500000, Sample.dollarBook "snapshot" 200 202 1000⟩,
        ⟨Sample.dealerEnv 11000000, .bank (.api (.swapRequest
          (Sample.takeQuote 7 .USD .BTC 10000000)))⟩]) Sample.dealer
    (fun s => (Sample.ratesOf s.sent).length = 2 ∧
      5 * (Sample.ratesOf s.sent).getD 1 0 < 5 * (Sample.ratesOf s.sent).getD 0 0)
    (by decide +kernel)
  obtain ⟨hlen, hlt⟩ := hrates
  obtain ⟨q, r, hqr⟩ := List.length_eq_two.mp hlen
  rw [hqr] at hlt
  exact ⟨s, q, r, hrun, hqr, hlt⟩

/-! ## What a quote request is answered -/

/-- The quote that a request is given. -/
def QuoteRequest.quoted (req : QuoteRequest) (now : Nat) (rate : Option Rate)
    (fees : Option Money) :
    QuoteResponse where
  reqId := req.reqId
  uid := req.uid
  amount := req.amount
  fromCurrency := req.fromCurrency
  toCurrency := req.toCurrency
  validUntil := (now + QUOTE_TTL_MS * 1000) / 1000
  rate := rate
  quoteId := some now
  error := none
  fees := fees

/-- A quote request that the dealer handled: where there is a rate, the quote is
kept and sent. -/
theorem quoteRequest_cases {req : QuoteRequest} (h : quoteRequest cfg env req s = .ok ((), s')) :
    ∃ rate fees, getRate cfg s req.amount req.toCurrency = .ok (rate, fees) ∧
      ((rate.isSome = true ∧
          s'.guaranteedQuotes = s.guaranteedQuotes.insert env.now (req.quoted env.now rate fees) ∧
          s'.sent = s.sent ++ [.api (.quoteResponse (req.quoted env.now rate fees))]) ∨
        (rate = none ∧ SameQuotes s s' ∧ ∃ response, response.quoteId = none ∧
          s'.sent = s.sent ++ [.api (.quoteResponse response)])) := by
  have hens : Ensures (quoteRequest cfg env req) s fun _ s' =>
      ∃ rate fees, getRate cfg s req.amount req.toCurrency = .ok (rate, fees) ∧
      ((rate.isSome = true ∧
          s'.guaranteedQuotes = s.guaranteedQuotes.insert env.now (req.quoted env.now rate fees) ∧
          s'.sent = s.sent ++ [.api (.quoteResponse (req.quoted env.now rate fees))]) ∨
        (rate = none ∧ SameQuotes s s' ∧ ∃ response, response.quoteId = none ∧
          s'.sent = s.sent ++ [.api (.quoteResponse response)])) := by
    unfold quoteRequest
    refine Ensures.get_bind (Ensures.lift_bind fun r hr => ?_)
    obtain ⟨rate, fees⟩ := r
    refine Ensures.ite (fun hsome => ?_) fun hnone => ?_
    · exact ⟨rate, fees, hr, .inl ⟨hsome, rfl, rfl⟩⟩
    · exact ⟨rate, fees, hr, .inr ⟨by simpa using hnone, rfl, _, rfl, rfl⟩⟩
  exact hens.of_run h

end Lndhubx
