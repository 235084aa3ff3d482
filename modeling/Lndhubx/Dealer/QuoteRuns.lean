import Lndhubx.Dealer.Guaranteed

/-!
# Guaranteed quotes over a run

What a step does to the quotes is one of four things (`QuoteStep`): one is made,
one is redeemed, all are dropped, or some are lost. From it two statements about
whole runs follow. Unless a second quote is made in a microsecond whose quote was
asked for already, a quote is redeemed by whom it was made for, in time, and once
(`redeemed_was_issued`). And a quote that nobody names in the meantime, and that
is not overwritten in its own microsecond, is honoured (`quote_honoured`).
-/

namespace Lndhubx

open Prog DealerEngine

variable {cfg : DealerConfig} {env : DealerEnv} {s s' : DealerState}

/-! ## Steps -/

/-- A message that was handled, with the states before and after it. -/
structure DealerStep where
  before : DealerState
  delivery : DealerDelivery
  after : DealerState

namespace DealerStep

def now (e : DealerStep) : Nat := e.delivery.env.now

def input (e : DealerStep) : DealerInput := e.delivery.input

/-- What was sent in the step. -/
def out (e : DealerStep) : List Message := e.after.sent.drop e.before.sent.length

/-- The quote was made in this step. -/
def Issues (e : DealerStep) (quote : QuoteResponse) : Prop :=
  (∃ req, e.input = .bank (.api (.quoteRequest req))) ∧ e.out = [.api (.quoteResponse quote)]

/-- The request names the quote and succeeds. -/
def Redeems (e : DealerStep) (req : SwapRequest) (id : Nat) : Prop :=
  e.input = .bank (.api (.swapRequest req)) ∧ req.quoteId = some id ∧
    ∃ response, e.out = [.api (.swapResponse response)] ∧ response.success = true

/-- A quote is asked for that there is a rate for. -/
def Prices (cfg : DealerConfig) (e : DealerStep) : Prop :=
  ∃ req, e.input = .bank (.api (.quoteRequest req)) ∧
    ∃ rate fees, getRate cfg e.before req.amount req.toCurrency = .ok (some rate, fees)

end DealerStep

/-- The steps of a run, each with its states. -/
abbrev DealerHistory (cfg : DealerConfig) : DealerState → List DealerStep → DealerState → Prop :=
  Trace fun s e s' => e.before = s ∧ e.after = s' ∧ DealerDelivers cfg s e.delivery s'

/-- The steps that a sequence of messages leads to. -/
def historyOf (cfg : DealerConfig) : List DealerDelivery → DealerState → Checked (List DealerStep)
  | [], _ => return []
  | d :: ds, s => do
    let s' ← DealerEngine.deliver cfg d s
    let es ← historyOf cfg ds s'
    return ⟨s, d, s'⟩ :: es

theorem dealerHistory_of_historyOf {ds : List DealerDelivery} {es : List DealerStep}
    (h : historyOf cfg ds s = .ok es) :
    (∃ s', DealerHistory cfg s es s') ∧ es.map (·.delivery) = ds := by
  induction ds generalizing s es with
  | nil =>
    have h := Checked.pure_eq_ok.mp h
    rw [← h]
    exact ⟨⟨s, .nil s⟩, rfl⟩
  | cons d ds ih =>
    obtain ⟨s₁, hd, h⟩ := Checked.bind_eq_ok.mp h
    obtain ⟨es', hes, h⟩ := Checked.bind_eq_ok.mp h
    have h := Checked.pure_eq_ok.mp h
    obtain ⟨⟨s', hrun⟩, hds⟩ := ih hes
    rw [← h]
    exact ⟨⟨s', hrun.cons ⟨rfl, rfl, hd⟩⟩, by rw [List.map_cons, hds]⟩

/-- What holds of the steps that messages lead to holds of some history. -/
theorem exists_dealerHistory (cfg : DealerConfig) (ds : List DealerDelivery) (s : DealerState)
    (P : List DealerStep → Prop) [DecidablePred P]
    (h : (historyOf cfg ds s).toOption.any (fun es => decide (P es)) = true) :
    ∃ es s', DealerHistory cfg s es s' ∧ es.map (·.delivery) = ds ∧ P es := by
  cases hes : historyOf cfg ds s with
  | error e =>
    rw [hes] at h
    exact absurd h (by simp [Except.toOption])
  | ok es =>
    rw [hes] at h
    obtain ⟨⟨s', hrun⟩, hds⟩ := dealerHistory_of_historyOf hes
    exact ⟨es, s', hrun, hds, by simpa [Except.toOption] using h⟩

theorem DealerStep.out_eq {e : DealerStep} {msgs : List Message}
    (h : e.after.sent = e.before.sent ++ msgs) : e.out = msgs := by
  unfold out
  rw [h, List.drop_left]

/-- What a step does to the quotes. -/
inductive QuoteStep (cfg : DealerConfig) (e : DealerStep) : Prop
  | issued (req : QuoteRequest) (rate : Rate) (fees : Option Money)
      (input : e.input = .bank (.api (.quoteRequest req)))
      (rated : getRate cfg e.before req.amount req.toCurrency = .ok (some rate, fees))
      (sent : e.out = [.api (.quoteResponse (req.quoted e.now (some rate) fees))])
      (kept : e.after.guaranteedQuotes =
        e.before.guaranteedQuotes.insert e.now (req.quoted e.now (some rate) fees))
  | redeemed (req : SwapRequest) (id : Nat) (quote : QuoteResponse) (redeems : e.Redeems req id)
      (fresh : e.now - QUOTE_TTL_MS * 1000 ≤ id)
      (found : e.before.guaranteedQuotes[id]? = some quote) (valid : validateQuote quote req = true)
      (different : req.fromCurrency ≠ req.toCurrency)
      (kept : e.after.guaranteedQuotes = (unexpired e.now e.before.guaranteedQuotes).erase id)
  | dropped (input : e.input = .kollider .disconnected) (kept : e.after.guaranteedQuotes = ∅)
  | other (unredeemed : ∀ req id, ¬e.Redeems req id) (unpriced : ¬e.Prices cfg)
      (connected : e.input ≠ .kollider .disconnected)
      (kept : ∀ (id : Nat) quote, e.after.guaranteedQuotes[id]? = some quote →
        e.before.guaranteedQuotes[id]? = some quote)
      (left : ∀ (id : Nat) quote, e.before.guaranteedQuotes[id]? = some quote →
        e.now - QUOTE_TTL_MS * 1000 ≤ id →
        e.after.guaranteedQuotes[id]? = some quote ∨
          ∃ req, e.input = .bank (.api (.swapRequest req)) ∧ req.quoteId = some id ∧
            req.fromCurrency ≠ req.toCurrency)

theorem DealerStep.not_prices_of_swap {e : DealerStep} {req : SwapRequest}
    (h : e.input = .bank (.api (.swapRequest req))) : ¬e.Prices cfg := by
  intro hp
  obtain ⟨r, hr, -⟩ := hp
  rw [h] at hr
  exact absurd hr (by simp)

/-- A swap request that was refused redeems nothing. -/
theorem DealerStep.not_redeems_of_refused {e : DealerStep} {req : SwapRequest}
    {error : SwapResponseError} (h : e.out = [.api (.swapResponse (req.refused error))])
    (req' : SwapRequest) (id : Nat) : ¬e.Redeems req' id := by
  intro hr
  obtain ⟨-, -, response, hout, hok⟩ := hr
  rw [h] at hout
  have hresponse : req.refused error = response := by simpa using hout
  rw [← hresponse] at hok
  exact absurd hok (by simp [SwapRequest.refused])

/-- What a swap request does to the quotes. -/
theorem quoteStep_swap {e : DealerStep} {req : SwapRequest}
    (hin : e.input = .bank (.api (.swapRequest req)))
    (h : swapRequest cfg e.delivery.env req e.before = .ok ((), e.after)) : QuoteStep cfg e := by
  have hunpriced : ¬e.Prices cfg := DealerStep.not_prices_of_swap hin
  have hconn : e.input ≠ .kollider .disconnected := by
    rw [hin]
    simp
  -- what is left of the quotes if none was taken
  have hold : e.after.guaranteedQuotes = unexpired e.now e.before.guaranteedQuotes →
      (∀ (id : Nat) quote, e.after.guaranteedQuotes[id]? = some quote →
        e.before.guaranteedQuotes[id]? = some quote) ∧
      ∀ (id : Nat) quote, e.before.guaranteedQuotes[id]? = some quote →
        e.now - QUOTE_TTL_MS * 1000 ≤ id → e.after.guaranteedQuotes[id]? = some quote := by
    intro hafter
    rw [hafter]
    constructor
    · intro id quote hq
      rw [getElem?_unexpired] at hq
      split at hq
      · exact hq
      · exact absurd hq (by simp)
    · intro id quote hq hfresh
      rw [getElem?_unexpired, if_pos hfresh, hq]
  rcases swapRequest_cases h with ⟨-, hsame, hsent⟩ | ⟨hne, linear, current, fees, response, -, -,
    hanswer, hsent⟩
  · refine .other (DealerStep.not_redeems_of_refused (DealerStep.out_eq hsent))
      hunpriced hconn ?_ ?_
    · intro id quote hq
      rwa [hsame] at hq
    · intro id quote hq _
      left
      rwa [hsame]
  have hout := DealerStep.out_eq hsent
  generalize hafter : e.after.guaranteedQuotes = left at hanswer
  have hnone : req.quoteId = none → ∀ req' id, ¬e.Redeems req' id := by
    intro hnone req' id hr
    obtain ⟨hin', hid, -⟩ := hr
    rw [hin] at hin'
    have hreq : req = req' := by simpa using hin'
    rw [← hreq, hnone] at hid
    exact absurd hid (by simp)
  cases hanswer with
  | atRate hunquoted =>
    obtain ⟨hkept, hleft⟩ := hold hafter
    exact .other (hnone hunquoted) hunpriced hconn hkept fun id quote hq hf =>
      .inl (hleft id quote hq hf)
  | noRate hunquoted =>
    obtain ⟨hkept, hleft⟩ := hold hafter
    exact .other (hnone hunquoted) hunpriced hconn hkept fun id quote hq hf =>
      .inl (hleft id quote hq hf)
  | unknown =>
    obtain ⟨hkept, hleft⟩ := hold hafter
    exact .other (DealerStep.not_redeems_of_refused hout) hunpriced hconn hkept
      fun id quote hq hf => .inl (hleft id quote hq hf)
  | mismatch id quote hid hfound =>
    have hne' : ∀ {id' : Nat} {quote'},
        e.after.guaranteedQuotes[id']? = some quote' → id' ≠ id := by
      intro id' quote' hq e'
      rw [hafter, e', Std.ExtTreeMap.getElem?_erase_self] at hq
      exact absurd hq (by simp)
    refine .other (DealerStep.not_redeems_of_refused hout) hunpriced hconn ?_ ?_
    · intro id' quote' hq
      have hq' := hq
      rw [hafter, getElem?_erase_of_ne (hne' hq), getElem?_unexpired] at hq'
      split at hq'
      · exact hq'
      · exact absurd hq' (by simp)
    · intro id' quote' hq hfresh
      by_cases hid' : id' = id
      · exact .inr ⟨req, hin, by rw [hid', hid], hne⟩
      · left
        have hfresh : e.delivery.env.now - QUOTE_TTL_MS * 1000 ≤ id' := hfresh
        rw [hafter, getElem?_erase_of_ne hid', getElem?_unexpired, if_pos hfresh, hq]
  | redeemed id quote hid hfound hvalid =>
    rw [getElem?_unexpired] at hfound
    split at hfound
    next hfresh =>
      exact .redeemed req id quote ⟨hin, hid, _, hout, rfl⟩ hfresh hfound hvalid hne hafter
    next => exact absurd hfound (by simp)

/-- Every step of a run does one of four things to the quotes. -/
theorem quoteStep {e : DealerStep} (h : DealerDelivers cfg e.before e.delivery e.after) :
    QuoteStep cfg e := by
  have hrun := dealerDelivers_iff.mp h
  by_cases hswap : ∃ req, e.input = .bank (.api (.swapRequest req))
  · obtain ⟨req, hreq⟩ := hswap
    have hin : e.delivery.input = .bank (.api (.swapRequest req)) := hreq
    rw [hin] at hrun
    exact quoteStep_swap hreq hrun
  have hnored : ∀ req id, ¬e.Redeems req id := fun req id hr => hswap ⟨req, hr.1⟩
  by_cases hquote : ∃ req, e.input = .bank (.api (.quoteRequest req))
  · obtain ⟨req, hreq⟩ := hquote
    have hin : e.delivery.input = .bank (.api (.quoteRequest req)) := hreq
    rw [hin] at hrun
    obtain ⟨rate, fees, hrate, ⟨hsome, hkept, hsent⟩ | ⟨hnone, hsame, -⟩⟩ := quoteRequest_cases hrun
    · obtain ⟨r, rfl⟩ := Option.isSome_iff_exists.mp hsome
      exact .issued req r fees hreq hrate (DealerStep.out_eq hsent) hkept
    · refine .other hnored ?_ (by rw [hreq]; simp) ?_ ?_
      · intro hp
        obtain ⟨req', hreq', r, fees', hr⟩ := hp
        rw [hreq] at hreq'
        have hreq' : req = req' := by simpa using hreq'
        rw [← hreq', hrate, hnone] at hr
        exact absurd hr (by simp)
      · intro id quote hq
        rwa [hsame] at hq
      · intro id quote hq _
        left
        rwa [hsame]
  by_cases hdisc : e.input = .kollider .disconnected
  · have hin : e.delivery.input = .kollider .disconnected := hdisc
    rw [hin] at hrun
    have hempty : Ensures (processMsg cfg e.delivery.env (.kollider .disconnected)) e.before
        fun _ s' => s'.guaranteedQuotes = ∅ := rfl
    exact .dropped hdisc (hempty.of_run hrun)
  · have hsame : SameQuotes e.before e.after := (processMsg_quotes (fun req hr => hswap ⟨req, hr⟩)
      (fun req hr => hquote ⟨req, hr⟩) hdisc e.before).of_run hrun
    refine .other hnored (fun hp => hquote ⟨_, hp.choose_spec.1⟩) hdisc ?_ ?_
    · intro id quote hq
      rwa [hsame] at hq
    · intro id quote hq _
      left
      rwa [hsame]

/-! ## Quotes are bound, fresh and used once -/

/-- The amount of a quote or a swap is in the currency that is sold, as the API and
the bank write it. -/
def DealerInput.ownCurrency : DealerInput → Bool
  | .bank (.api (.quoteRequest req)) => req.amount.currency = req.fromCurrency
  | .bank (.api (.swapRequest req)) => req.amount.currency = req.fromCurrency
  | _ => true

namespace DealerStep

/-- A swap request that names the quote. -/
def Names (e : DealerStep) (id : Nat) : Prop :=
  ∃ req, e.input = .bank (.api (.swapRequest req)) ∧ req.quoteId = some id

theorem Redeems.names {e : DealerStep} {req : SwapRequest} {id : Nat} (h : e.Redeems req id) :
    e.Names id := ⟨req, h.1, h.2.1⟩

/-- A step that redeems a quote finds it. -/
theorem Redeems.found {e : DealerStep} {req : SwapRequest} {id : Nat} (h : e.Redeems req id)
    (hstep : DealerDelivers cfg e.before e.delivery e.after) :
    ∃ quote, e.before.guaranteedQuotes[id]? = some quote ∧ validateQuote quote req = true ∧
      e.now - QUOTE_TTL_MS * 1000 ≤ id := by
  have hin := h.1
  cases quoteStep hstep with
  | issued req' _ _ hin' =>
    rw [hin] at hin'
    exact absurd hin' (by simp)
  | redeemed req' id' quote hredeems hfresh hfound hvalid =>
    have hin' := hredeems.1
    rw [hin] at hin'
    have hreq : req = req' := by simpa using hin'
    have hid : some id = some id' := by rw [← h.2.1, ← hredeems.2.1, hreq]
    rw [Option.some.inj hid, hreq]
    exact ⟨quote, hfound, hvalid, hfresh⟩
  | dropped hin' =>
    rw [hin] at hin'
    exact absurd hin' (by simp)
  | other hunredeemed => exact absurd h (hunredeemed req id)

end DealerStep

/-- The quote was made in this step. -/
structure Made (cfg : DealerConfig) (i : DealerStep) (id : Nat) (quote : QuoteResponse) : Prop where
  issued : i.Issues quote
  named : quote.quoteId = some id
  time : i.now = id
  prices : i.Prices cfg
  own : i.input.ownCurrency = true → quote.amount.currency = quote.fromCurrency

/-- A quote that is in the table after a step was made in it, or it was there before
and was neither dropped nor redeemed. -/
theorem made_or_kept {e : DealerStep} {id : Nat} {quote : QuoteResponse}
    (hstep : DealerDelivers cfg e.before e.delivery e.after)
    (hq : e.after.guaranteedQuotes[id]? = some quote) :
    Made cfg e id quote ∨ (e.before.guaranteedQuotes[id]? = some quote ∧
      e.input ≠ .kollider .disconnected ∧ ∀ req, ¬e.Redeems req id) := by
  cases quoteStep hstep with
  | issued req rate fees hin hrated hsent hkept =>
    rw [hkept] at hq
    by_cases hid : id = e.now
    · rw [hid, Std.ExtTreeMap.getElem?_insert_self] at hq
      have hquote := Option.some.inj hq
      left
      rw [hid, ← hquote]
      exact
        { issued := ⟨⟨req, hin⟩, hsent⟩
          named := rfl
          time := rfl
          prices := ⟨req, hin, rate, fees, hrated⟩
          own := fun hown => by rw [hin] at hown; exact of_decide_eq_true hown }
    · rw [Std.ExtTreeMap.getElem?_insert, if_neg] at hq
      · refine .inr ⟨hq, by rw [hin]; simp, fun req' hr => ?_⟩
        have hin' := hr.1
        rw [hin] at hin'
        exact absurd hin' (by simp)
      · exact fun e' => hid (Std.LawfulEqCmp.eq_of_compare e').symm
  | redeemed req id' quote' hredeems hfresh hfound hvalid hne hkept =>
    have hid : id ≠ id' := by
      intro hid
      rw [hkept, hid, Std.ExtTreeMap.getElem?_erase_self] at hq
      exact absurd hq (by simp)
    rw [hkept, getElem?_erase_of_ne hid, getElem?_unexpired] at hq
    split at hq
    · refine .inr ⟨hq, by rw [hredeems.1]; simp, fun req' hr => ?_⟩
      have hin' := hr.1
      rw [hredeems.1] at hin'
      have hreq : req = req' := by simpa using hin'
      -- a request names one quote, and it is the other one
      have heq : some id = some id' := by rw [← hr.2.1, ← hredeems.2.1, hreq]
      exact hid (Option.some.inj heq)
    · exact absurd hq (by simp)
  | dropped hin hkept =>
    rw [hkept] at hq
    exact absurd hq (by simp)
  | other hunredeemed _ hconn hkept _ =>
    exact .inr ⟨hkept id quote hq, hconn, (hunredeemed · id)⟩

/-- A quote of the table, and the step it was made in: nothing that happened
since has dropped or redeemed it. -/
structure Standing (cfg : DealerConfig) (i : DealerStep) (b : List DealerStep) (id : Nat)
    (quote : QuoteResponse) : Prop extends Made cfg i id quote where
  connected : ∀ x ∈ b, x.input ≠ .kollider .disconnected
  unused : ∀ x ∈ b, ∀ req, ¬x.Redeems req id

/-- Every quote of the table was made in the run. -/
theorem exists_standing {es : List DealerStep} (hs : s.guaranteedQuotes = ∅)
    (h : DealerHistory cfg s es s') :
    ∀ (id : Nat) quote, s'.guaranteedQuotes[id]? = some quote →
      ∃ a i b, es = a ++ i :: b ∧ Standing cfg i b id quote := by
  induction h with
  | nil =>
    intro id quote hq
    rw [hs] at hq
    exact absurd hq (by simp)
  | @snoc _ _ es e hrun hlast ih =>
    obtain ⟨rfl, rfl, hstep⟩ := hlast
    intro id quote hq
    rcases made_or_kept hstep hq with hmade | ⟨hbefore, hconn, hunused⟩
    · exact ⟨es, e, [], rfl, { hmade with connected := by simp, unused := by simp }⟩
    · obtain ⟨a, i, b, hes, hstanding⟩ := ih id quote hbefore
      refine ⟨a, i, b ++ [e], by rw [hes]; simp,
        { hstanding.toMade with connected := ?_, unused := ?_ }⟩
      · intro x hx
        rcases List.mem_append.mp hx with hx | hx
        · exact hstanding.connected x hx
        · rwa [List.mem_singleton.mp hx]
      · intro x hx
        rcases List.mem_append.mp hx with hx | hx
        · exact hstanding.unused x hx
        · rwa [List.mem_singleton.mp hx]

/-- The quote was made for the request, in time, was not dropped and has not
been used before. -/
def Backed (es : List DealerStep) (now : Nat) (req : SwapRequest) (id : Nat) : Prop :=
  ∃ a i b quote, es = a ++ i :: b ∧ i.Issues quote ∧ quote.quoteId = some id ∧
    (quote.uid = req.uid ∧ quote.fromCurrency = req.fromCurrency ∧
      quote.toCurrency = req.toCurrency ∧ quote.amount = req.amount) ∧
    (i.now ≤ now ∧ now ≤ i.now + QUOTE_TTL_MS * 1000) ∧
    (∀ x ∈ b, x.input ≠ .kollider .disconnected) ∧ ∀ x ∈ es, ∀ req', ¬x.Redeems req' id

/-- A quote is used once if none is made in a microsecond whose quote was asked
for before. -/
theorem Standing.unused_before {a b : List DealerStep} {i : DealerStep} {id : Nat}
    {quote : QuoteResponse} (hs : s.guaranteedQuotes = ∅)
    (h : DealerHistory cfg s (a ++ i :: b) s') (hstanding : Standing cfg i b id quote)
    (hclock : (a ++ i :: b).Pairwise fun x y => x.now ≤ y.now)
    (hreuse : (a ++ i :: b).Pairwise fun x y => x.Names x.now → y.Prices cfg → x.now ≠ y.now) :
    ∀ x ∈ a ++ i :: b, ∀ req, ¬x.Redeems req id := by
  intro x hx req hr
  rcases List.mem_append.mp hx with hx | hx
  · obtain ⟨a₁, a₂, rfl⟩ := List.append_of_mem hx
    -- what was redeemed then had been made then
    obtain ⟨m, hrun, -⟩ := h.split
    obtain ⟨m₁, hbefore, hrest⟩ := hrun.split
    obtain ⟨m₂, ⟨rfl, rfl, hstep⟩, -⟩ := hrest.first
    obtain ⟨quote', hfound, -⟩ := hr.found hstep
    obtain ⟨a₃, i', b', ha, hstanding'⟩ := exists_standing hs hbefore id quote' hfound
    have hearly : i'.now ≤ x.now := by
      rw [List.append_assoc] at hclock
      exact (List.pairwise_append.mp hclock).2.2 i' (by rw [ha]; simp) x (by simp)
    have hlate : x.now ≤ i.now := (List.pairwise_append.mp hclock).2.2 x (by simp) i (by simp)
    have hnow : x.now = id := by
      have := hstanding.time
      have := hstanding'.time
      omega
    have hnames : x.Names x.now := by
      rw [hnow]
      exact hr.names
    refine (List.pairwise_append.mp hreuse).2.2 x (by simp) i (by simp) hnames hstanding.prices ?_
    rw [hnow, hstanding.time]
  · rcases List.mem_cons.mp hx with rfl | hx
    · obtain ⟨⟨req', hin⟩, -⟩ := hstanding.issued
      rw [hr.1] at hin
      exact absurd hin (by simp)
    · exact hstanding.unused x hx req hr

/-- **Redeemed quotes.** If a swap request that names a quote succeeds, the quote
was made for it at most `QUOTE_TTL_MS` before, there was no disconnection since,
and it is the first that does; unless some quote was made in a microsecond in which
a swap request had named the quote of that microsecond. -/
theorem redeemed_was_issued {es : List DealerStep} {e : DealerStep} {req : SwapRequest} {id : Nat}
    (hs : s.guaranteedQuotes = ∅) (h : DealerHistory cfg s (es ++ [e]) s')
    (hclock : (es ++ [e]).Pairwise fun x y => x.now ≤ y.now)
    (hown : ∀ x ∈ es ++ [e], x.input.ownCurrency = true)
    (hreuse : es.Pairwise fun x y => x.Names x.now → y.Prices cfg → x.now ≠ y.now)
    (hredeems : e.Redeems req id) : Backed es e.now req id := by
  obtain ⟨m, hrun, rfl, rfl, hstep⟩ := h.last
  obtain ⟨quote, hfound, hvalid, hfresh⟩ := hredeems.found hstep
  obtain ⟨a, i, b, rfl, hstanding⟩ := exists_standing hs hrun id quote hfound
  obtain ⟨hbefore, -, hnow⟩ := List.pairwise_append.mp hclock
  have hi : i ∈ a ++ i :: b := by simp
  have htime := hstanding.time
  have hle : i.now ≤ e.now := hnow i hi e (by simp)
  unfold validateQuote at hvalid
  obtain ⟨hfrom, hto, hvalue, huid⟩ := of_decide_eq_true hvalid
  have hcurrency : quote.amount.currency = req.amount.currency := by
    rw [hstanding.own (hown i (List.mem_append_left _ hi)), hfrom]
    have howne := hown e (by simp)
    rw [hredeems.1] at howne
    exact (of_decide_eq_true howne).symm
  have hamount : quote.amount = req.amount := by
    cases hq : quote.amount
    cases hr : req.amount
    simp_all
  refine ⟨a, i, b, quote, rfl, hstanding.issued, hstanding.named, ⟨huid, hfrom, hto, hamount⟩,
    ⟨hle, by rw [htime]; exact Nat.sub_le_iff_le_add.mp hfresh⟩, hstanding.connected, ?_⟩
  exact hstanding.unused_before hs hrun hbefore hreuse

/-- Did a swap succeed? -/
def swapOutcome : Message → Option Bool
  | .api (.swapResponse r) => some r.success
  | _ => none

theorem DealerStep.redeems_of_outcome {e : DealerStep} {req : SwapRequest} {id : Nat}
    (hin : e.input = .bank (.api (.swapRequest req))) (hid : req.quoteId = some id)
    (h : e.out.map swapOutcome = [some true]) : e.Redeems req id := by
  refine ⟨hin, hid, ?_⟩
  obtain ⟨msg, hout, hmsg⟩ := List.map_eq_singleton_iff.mp h
  unfold swapOutcome at hmsg
  split at hmsg
  next r => exact ⟨r, hout, Option.some.inj hmsg⟩
  next => exact absurd hmsg (by simp)

theorem pairwise_now {es : List DealerStep} {ds : List DealerDelivery} {R : Nat → Nat → Prop}
    (hds : es.map (·.delivery) = ds) (h : ds.Pairwise fun x y => R x.env.now y.env.now) :
    es.Pairwise fun x y => R x.now y.now := by
  rw [← hds] at h
  exact (List.pairwise_map (f := DealerStep.delivery)).mp h

theorem forall_input {es : List DealerStep} {ds : List DealerDelivery} {p : DealerInput → Prop}
    (hds : es.map (·.delivery) = ds) (h : ∀ d ∈ ds, p d.input) : ∀ x ∈ es, p x.input := by
  intro x hx
  refine h x.delivery ?_
  rw [← hds]
  exact List.mem_map_of_mem hx

/-- The last message and the last step. -/
theorem exists_last {es : List DealerStep} {ds : List DealerDelivery} {d : DealerDelivery}
    (h : es.map (·.delivery) = ds ++ [d]) :
    ∃ es' e, es = es' ++ [e] ∧ es'.map (·.delivery) = ds ∧ e.delivery = d := by
  obtain ⟨es', es₂, hes, hds, h₂⟩ := List.map_eq_append_iff.mp h
  obtain ⟨e, he, hd⟩ := List.map_eq_singleton_iff.mp h₂
  exact ⟨es', e, by rw [hes, he], hds, hd⟩

/-- Alice asks for a quote and takes it. -/
theorem redeemed_was_issued_sample : ∃ es e s,
    DealerHistory Sample.dealerConfig Sample.dealer (es ++ [e]) s ∧
    (es ++ [e]).map (·.delivery) = Sample.quoted .BTC .USD ++
      [⟨Sample.dealerEnv 11000000, .bank (.api (.swapRequest
        (Sample.takeQuote 7 .BTC .USD 10000000)))⟩] ∧
    Backed es 11000000 (Sample.takeQuote 7 .BTC .USD 10000000) 10000000 := by
  obtain ⟨es, s, hrun, hds, hout⟩ := exists_dealerHistory Sample.dealerConfig
    (Sample.quoted .BTC .USD ++ [⟨Sample.dealerEnv 11000000, .bank (.api (.swapRequest
      (Sample.takeQuote 7 .BTC .USD 10000000)))⟩]) Sample.dealer
    (fun es => es.map (·.out.map swapOutcome) = [[], [none], [some true]]) (by decide +kernel)
  obtain ⟨es₁, e, rfl, h₁, he⟩ := exists_last hds
  have hin : e.input = .bank (.api (.swapRequest (Sample.takeQuote 7 .BTC .USD 10000000))) := by
    unfold DealerStep.input
    rw [he]
  have hnow : e.now = 11000000 := by
    unfold DealerStep.now
    rw [he]
    rfl
  have hlast : e.out.map swapOutcome = [some true] := by
    rw [List.map_append] at hout
    have hsplit : [[], [none], [some true]] = [[], [none]] ++ [[some true]] := rfl
    rw [hsplit] at hout
    exact List.singleton_inj.mp (List.append_inj' hout rfl).2
  refine ⟨es₁, e, s, hrun, hds, ?_⟩
  rw [← hnow]
  refine redeemed_was_issued rfl hrun (pairwise_now hds (by decide))
    (forall_input (p := fun i => i.ownCurrency = true) hds (by decide)) ?_
    (DealerStep.redeems_of_outcome hin rfl hlast)
  exact (pairwise_now (R := (· ≠ ·)) h₁ (by decide)).imp fun hne _ _ => hne

/-- Twice in one microsecond Alice is given a quote and takes it, and both times
it is the same one. -/
theorem quote_redeemed_twice : ∃ es e s,
    DealerHistory Sample.dealerConfig Sample.dealer (es ++ [e]) s ∧
    (es ++ [e]).Pairwise (fun x y => x.now ≤ y.now) ∧
    (∀ x ∈ es ++ [e], x.input.ownCurrency = true) ∧
    e.Redeems (Sample.takeQuote 7 .BTC .USD 10000000) 10000000 ∧
    ¬Backed es e.now (Sample.takeQuote 7 .BTC .USD 10000000) 10000000 := by
  obtain ⟨es, s, hrun, hds, hout⟩ := exists_dealerHistory Sample.dealerConfig
    (Sample.quoted .BTC .USD ++ [⟨Sample.dealerEnv 10000000, .bank (.api (.swapRequest
        (Sample.takeQuote 7 .BTC .USD 10000000)))⟩] ++
      [⟨Sample.dealerEnv 10000000, Sample.askQuote 7 .BTC .USD⟩] ++
      [⟨Sample.dealerEnv 10000000, .bank (.api (.swapRequest
        (Sample.takeQuote 7 .BTC .USD 10000000)))⟩]) Sample.dealer
    (fun es => es.map (·.out.map swapOutcome) =
      [[], [none]] ++ [[some true]] ++ [[none]] ++ [[some true]]) (by decide +kernel)
  have hclock := pairwise_now (R := (· ≤ ·)) hds (by decide)
  have hown := forall_input (p := fun i => i.ownCurrency = true) hds (by decide)
  -- the two swaps are the third step and the last
  obtain ⟨es₁, e, rfl, h₁, he⟩ := exists_last hds
  obtain ⟨es₂, q, rfl, h₂, -⟩ := exists_last h₁
  obtain ⟨es₃, x, rfl, -, hx⟩ := exists_last h₂
  simp only [List.map_append, List.map_cons, List.map_nil] at hout
  obtain ⟨hout, hlast⟩ := List.append_inj' hout rfl
  obtain ⟨hout, -⟩ := List.append_inj' hout rfl
  obtain ⟨-, hfirst⟩ := List.append_inj' hout rfl
  refine ⟨es₃ ++ [x] ++ [q], e, s, hrun, hclock, hown, ?_, ?_⟩
  · refine DealerStep.redeems_of_outcome ?_ rfl (List.singleton_inj.mp hlast)
    unfold DealerStep.input
    rw [he]
  · intro hbacked
    obtain ⟨a, i, b, quote, -, -, -, -, -, -, hunused⟩ := hbacked
    refine hunused x (by simp) (Sample.takeQuote 7 .BTC .USD 10000000) ?_
    refine DealerStep.redeems_of_outcome ?_ rfl (List.singleton_inj.mp hfirst)
    unfold DealerStep.input
    rw [hx]

/-! ## Quotes are honoured -/

/-- A swap request takes the quote it names, whether or not it fits. -/
def DealerStep.Takes (e : DealerStep) (id : Nat) : Prop :=
  ∃ req, e.input = .bank (.api (.swapRequest req)) ∧ req.quoteId = some id ∧
    req.fromCurrency ≠ req.toCurrency

/-- A quote that is not too old stays in the table unless it is taken, or another
one is made in its microsecond. -/
theorem quote_stays {es : List DealerStep} {id : Nat} {quote : QuoteResponse}
    (h : DealerHistory cfg s es s') (hquote : s.guaranteedQuotes[id]? = some quote)
    (hfresh : ∀ x ∈ es, x.now ≤ id + QUOTE_TTL_MS * 1000)
    (hconn : ∀ x ∈ es, x.input ≠ .kollider .disconnected)
    (htaken : ∀ x ∈ es, ¬x.Takes id) (hrenewed : ∀ x ∈ es, x.Prices cfg → x.now ≠ id) :
    s'.guaranteedQuotes[id]? = some quote := by
  refine Trace.invariant (I := fun s => s.guaranteedQuotes[id]? = some quote) ?_ h hquote
  intro s₁ e s₂ he hq hlast
  obtain ⟨rfl, rfl, hstep⟩ := hlast
  have hfresh : e.now - QUOTE_TTL_MS * 1000 ≤ id := Nat.sub_le_iff_le_add.mpr (hfresh e he)
  cases quoteStep hstep with
  | issued req rate fees hin hrated hsent hkept =>
    rw [hkept, Std.ExtTreeMap.getElem?_insert, if_neg]
    · exact hq
    · exact fun e' => hrenewed e he ⟨req, hin, rate, fees, hrated⟩
        (Std.LawfulEqCmp.eq_of_compare e')
  | redeemed req id' quote' hredeems _ _ _ hne hkept =>
    have hid : id ≠ id' := by
      intro hid
      exact htaken e he ⟨req, hredeems.1, by rw [hid, hredeems.2.1], hne⟩
    rw [hkept, getElem?_erase_of_ne hid, getElem?_unexpired, if_pos hfresh, hq]
  | dropped hin _ => exact absurd hin (hconn e he)
  | other _ _ _ _ hleft =>
    rcases hleft id quote hq hfresh with hkept | htakes
    · exact hkept
    · exact absurd htakes (htaken e he)

/-- A step that makes a quote keeps it. -/
theorem DealerStep.Issues.kept {e : DealerStep} {quote : QuoteResponse} {id : Nat}
    (h : e.Issues quote) (hid : quote.quoteId = some id)
    (hstep : DealerDelivers cfg e.before e.delivery e.after) :
    (∃ req rate fees, e.input = .bank (.api (.quoteRequest req)) ∧
      quote = req.quoted id rate fees) ∧
    e.now = id ∧ e.after.guaranteedQuotes[id]? = some quote := by
  obtain ⟨⟨req, hreq⟩, hout⟩ := h
  have hrun := dealerDelivers_iff.mp hstep
  have hin : e.delivery.input = .bank (.api (.quoteRequest req)) := hreq
  rw [hin] at hrun
  obtain ⟨rate, fees, -, hanswer⟩ := quoteRequest_cases hrun
  rcases hanswer with ⟨-, hkept, hsent⟩ | ⟨-, -, response, hnone, hsent⟩
  · rw [DealerStep.out_eq hsent] at hout
    have hquote : req.quoted e.delivery.env.now rate fees = quote := by simpa using hout
    have hnow : some e.now = some id := by rw [← hid, ← hquote]; rfl
    obtain rfl := Option.some.inj hnow
    refine ⟨⟨req, rate, fees, hreq, hquote.symm⟩, rfl, ?_⟩
    rw [hkept, ← hquote]
    exact Std.ExtTreeMap.getElem?_insert_self
  · rw [DealerStep.out_eq hsent] at hout
    have hquote : response = quote := by simpa using hout
    rw [← hquote, hnone] at hid
    exact absurd hid (by simp)

/-- A request that finds a quote that fits succeeds. -/
theorem swapRequest_of_found {req : SwapRequest} {id : Nat} {quote : QuoteResponse}
    (h : swapRequest cfg env req s = .ok ((), s')) (hne : req.fromCurrency ≠ req.toCurrency)
    (hid : req.quoteId = some id) (hfound : s.guaranteedQuotes[id]? = some quote)
    (hfresh : env.now - QUOTE_TTL_MS * 1000 ≤ id) (hvalid : validateQuote quote req = true) :
    ∃ response, s'.sent = s.sent ++ [.api (.swapResponse response)] ∧ response.success = true := by
  have hstored : (unexpired env.now s.guaranteedQuotes)[id]? = some quote := by
    rw [getElem?_unexpired, if_pos hfresh, hfound]
  rcases swapRequest_cases h with ⟨heq, -⟩ | ⟨-, linear, current, fees, response, -, -, hanswer,
    hsent⟩
  · exact absurd heq hne
  refine ⟨response, hsent, ?_⟩
  generalize s'.guaranteedQuotes = left at hanswer
  cases hanswer with
  | atRate hnone => rfl
  | noRate hnone => exact absurd (hnone.symm.trans hid) (by simp)
  | unknown id' hid' hmissing =>
    rw [← Option.some.inj (hid.symm.trans hid'), hstored] at hmissing
    exact absurd hmissing (by simp)
  | mismatch id' quote' hid' hfound' hinvalid =>
    rw [← Option.some.inj (hid.symm.trans hid'), hstored] at hfound'
    rw [← Option.some.inj hfound', hvalid] at hinvalid
    exact absurd hinvalid (by simp)
  | redeemed => rfl

/-- **Quotes are honoured.** A quote that no swap request has taken since, that was
not overwritten by another of its microsecond and is not from a currency to itself,
can be redeemed as long as it is valid. -/
theorem quote_honoured {a b : List DealerStep} {i : DealerStep} {quote : QuoteResponse} {id : Nat}
    {req : SwapRequest} {quoted : DealerEngine.Quoted} (h : DealerHistory cfg s (a ++ i :: b) s')
    (hissue : i.Issues quote) (hid : quote.quoteId = some id)
    (hconn : ∀ x ∈ b, x.input ≠ .kollider .disconnected) (htaken : ∀ x ∈ b, ¬x.Takes id)
    (hrenewed : ∀ x ∈ b, x.Prices cfg → x.now ≠ i.now) (hclock : ∀ x ∈ b, x.now ≤ env.now)
    (hepoch : QUOTE_TTL_MS * 1000 ≤ env.now) (hvalid : env.now ≤ i.now + QUOTE_TTL_MS * 1000)
    (hreq : req.quoteId = some id) (huid : req.uid = quote.uid)
    (hfrom : req.fromCurrency = quote.fromCurrency) (hto : req.toCurrency = quote.toCurrency)
    (hamount : req.amount = quote.amount) (hown : req.amount.currency = req.fromCurrency)
    (hne : req.fromCurrency ≠ req.toCurrency)
    (hrate : getRate cfg s' req.amount req.toCurrency = .ok quoted) :
    ∃ s'' response, DealerDelivers cfg s' ⟨env, .bank (.api (.swapRequest req))⟩ s'' ∧
      s''.sent = s'.sent ++ [.api (.swapResponse response)] ∧ response.success = true := by
  obtain ⟨m, -, hrest⟩ := h.split
  obtain ⟨m', ⟨rfl, rfl, hstep⟩, hrest⟩ := hrest.first
  obtain ⟨-, hnow, hkept⟩ := hissue.kept hid hstep
  rw [hnow] at hrenewed hvalid
  have hfound : s'.guaranteedQuotes[id]? = some quote :=
    quote_stays hrest hkept (fun x hx => (hclock x hx).trans hvalid) hconn htaken hrenewed
  have hfits : validateQuote quote req = true :=
    decide_eq_true ⟨hfrom.symm, hto.symm, by rw [hamount], huid.symm⟩
  obtain ⟨r, s'', hrun, -⟩ := completes_iff.mp (swapRequest_returns_of_rate hepoch hown hrate)
  obtain ⟨response, hsent, hok⟩ := swapRequest_of_found hrun hne hreq hfound
    (Nat.sub_le_iff_le_add.mpr hvalid) hfits
  exact ⟨s'', response, dealerDelivers_iff.mpr hrun, hsent, hok⟩

/-- The quote that was made. -/
def quoteIdOf : Message → Option Nat
  | .api (.quoteResponse r) => r.quoteId
  | _ => none

theorem DealerStep.issues_of_out {e : DealerStep} {req : QuoteRequest} {id : Nat}
    (hin : e.input = .bank (.api (.quoteRequest req)))
    (h : e.out.map quoteIdOf = [some id]) : ∃ quote, e.Issues quote ∧ quote.quoteId = some id := by
  obtain ⟨msg, hout, hmsg⟩ := List.map_eq_singleton_iff.mp h
  unfold quoteIdOf at hmsg
  split at hmsg
  next quote => exact ⟨quote, ⟨⟨req, hin⟩, hout⟩, hmsg⟩
  next => exact absurd hmsg (by simp)

/-- Alice's quote is honoured, though Bob swaps in the meantime. -/
theorem quote_honoured_sample : ∃ a i x s s' quote response,
    DealerHistory Sample.dealerConfig Sample.dealer (a ++ i :: [x]) s ∧
    (a ++ i :: [x]).map (·.delivery) = Sample.quoted .BTC .USD ++
      [⟨Sample.dealerEnv 10500000, .bank (.api (.swapRequest
        { Sample.takeQuote 8 .BTC .USD 0 with quoteId := none }))⟩] ∧
    i.Issues quote ∧ quote.quoteId = some 10000000 ∧
    DealerDelivers Sample.dealerConfig s ⟨Sample.dealerEnv 11000000, .bank (.api (.swapRequest
      (Sample.takeQuote 7 .BTC .USD 10000000)))⟩ s' ∧
    s'.sent = s.sent ++ [.api (.swapResponse response)] ∧ response.success = true := by
  obtain ⟨es, s, hrun, hds, hout, hrate⟩ := exists_dealerHistory Sample.dealerConfig
    ([⟨Sample.dealerEnv 9000000, Sample.dollarBook "snapshot" 100 101 1000⟩] ++
      [⟨Sample.dealerEnv 10000000, Sample.askQuote 7 .BTC .USD⟩] ++
      [⟨Sample.dealerEnv 10500000, .bank (.api (.swapRequest
        { Sample.takeQuote 8 .BTC .USD 0 with quoteId := none }))⟩]) Sample.dealer
    (fun es => es.map (·.out.map quoteIdOf) = [[]] ++ [[some 10000000]] ++ [[none]] ∧
      es.getLast?.any (fun e => (getRate Sample.dealerConfig e.after
        (Sample.takeQuote 7 .BTC .USD 10000000).amount .USD).toOption.isSome) = true)
    (by decide +kernel)
  have hall := hds
  obtain ⟨es₁, x, rfl, h₁, hx⟩ := exists_last hds
  obtain ⟨a, i, rfl, -, hi⟩ := exists_last h₁
  simp only [List.map_append, List.map_cons, List.map_nil] at hout
  obtain ⟨hout, -⟩ := List.append_inj' hout rfl
  obtain ⟨-, hmade⟩ := List.append_inj' hout rfl
  rw [List.append_assoc] at hrun hall
  -- what the quote says
  have hin : i.input = Sample.askQuote 7 .BTC .USD := by
    unfold DealerStep.input
    rw [hi]
  obtain ⟨quote, hissue, hid⟩ := DealerStep.issues_of_out hin (List.singleton_inj.mp hmade)
  obtain ⟨m, -, hrest⟩ := hrun.split
  obtain ⟨m', ⟨rfl, rfl, hstep⟩, hlast⟩ := hrest.first
  obtain ⟨⟨req, rate, fees, hreq, hquote⟩, hnow, -⟩ := hissue.kept hid hstep
  have hreq : ⟨1, 7, Money.new .BTC 5, .BTC, .USD⟩ = req := by
    rw [hin] at hreq
    simpa [Sample.askQuote] using hreq
  rw [← hreq] at hquote
  -- and what is known of the step between
  have hxin : x.input = .bank (.api (.swapRequest
      { Sample.takeQuote 8 .BTC .USD 0 with quoteId := none })) := by
    unfold DealerStep.input
    rw [hx]
  have hxnow : x.now = 10500000 := by
    unfold DealerStep.now
    rw [hx]
    rfl
  obtain ⟨m'', ⟨-, hafter, -⟩, hnil⟩ := hlast.first
  have hafter : x.after = s := hafter.trans hnil.eq_of_nil.symm
  cases hcur : getRate Sample.dealerConfig s (Sample.takeQuote 7 .BTC .USD 10000000).amount
      .USD with
  | error e =>
    rw [List.getLast?_concat, Option.any_some, hafter, hcur] at hrate
    exact absurd hrate (by simp [Except.toOption])
  | ok quoted =>
    have hlate : ∀ y ∈ [x], y.now = 10500000 := by simp [hxnow]
    obtain ⟨s', response, hs', hsent, hok⟩ : ∃ s' response, DealerDelivers Sample.dealerConfig s
        ⟨Sample.dealerEnv 11000000, .bank (.api (.swapRequest
          (Sample.takeQuote 7 .BTC .USD 10000000)))⟩ s' ∧
        s'.sent = s.sent ++ [.api (.swapResponse response)] ∧ response.success = true := by
      refine quote_honoured hrun hissue hid (by simp [hxin])
        (by simp [DealerStep.Takes, hxin]) ?_ ?_
        (by decide) (by rw [hnow]; decide) rfl (by rw [hquote]; rfl) (by rw [hquote]; rfl)
        (by rw [hquote]; rfl) (by rw [hquote]; rfl) rfl (by decide) hcur
      · intro y hy _
        rw [hlate y hy, hnow]
        decide
      · intro y hy
        rw [hlate y hy]
        decide
    exact ⟨a, i, x, s, s', quote, response, hrun, hall, hissue, hid, hs', hsent, hok⟩

/-- Bob names Alice's quote, and she is refused. -/
theorem quote_taken_away : ∃ a i x e s quote,
    DealerHistory Sample.dealerConfig Sample.dealer (a ++ [i] ++ [x] ++ [e]) s ∧
    (a ++ [i] ++ [x] ++ [e]).map (·.delivery) = Sample.quoted .BTC .USD ++
      [⟨Sample.dealerEnv 10500000, .bank (.api (.swapRequest
        (Sample.takeQuote 8 .BTC .USD 10000000)))⟩] ++
      [⟨Sample.dealerEnv 11000000, .bank (.api (.swapRequest
        (Sample.takeQuote 7 .BTC .USD 10000000)))⟩] ∧
    i.Issues quote ∧ quote.quoteId = some 10000000 ∧
    e.out.map swapOutcome = [some false] := by
  obtain ⟨es, s, hrun, hds, hquote, hswap⟩ := exists_dealerHistory Sample.dealerConfig
    ([⟨Sample.dealerEnv 9000000, Sample.dollarBook "snapshot" 100 101 1000⟩] ++
      [⟨Sample.dealerEnv 10000000, Sample.askQuote 7 .BTC .USD⟩] ++
      [⟨Sample.dealerEnv 10500000, .bank (.api (.swapRequest
        (Sample.takeQuote 8 .BTC .USD 10000000)))⟩] ++
      [⟨Sample.dealerEnv 11000000, .bank (.api (.swapRequest
        (Sample.takeQuote 7 .BTC .USD 10000000)))⟩]) Sample.dealer
    (fun es => es.map (·.out.map quoteIdOf) = [[]] ++ [[some 10000000]] ++ [[none]] ++ [[none]] ∧
      es.map (·.out.map swapOutcome) = [[], [none], [some false]] ++ [[some false]])
    (by decide +kernel)
  have hall := hds
  obtain ⟨es₁, e, rfl, h₁, -⟩ := exists_last hds
  obtain ⟨es₂, x, rfl, h₂, -⟩ := exists_last h₁
  obtain ⟨a, i, rfl, -, hi⟩ := exists_last h₂
  have hin : i.input = Sample.askQuote 7 .BTC .USD := by
    unfold DealerStep.input
    rw [hi]
  rw [List.map_append] at hswap
  obtain ⟨-, hrefused⟩ := List.append_inj' hswap rfl
  simp only [List.map_append, List.map_cons, List.map_nil] at hquote
  obtain ⟨hquote, -⟩ := List.append_inj' hquote rfl
  obtain ⟨hquote, -⟩ := List.append_inj' hquote rfl
  obtain ⟨-, hmade⟩ := List.append_inj' hquote rfl
  obtain ⟨quote, hissue, hid⟩ := DealerStep.issues_of_out hin (List.singleton_inj.mp hmade)
  exact ⟨a, i, x, e, s, quote, hrun, hall, hissue, hid, List.singleton_inj.mp hrefused⟩

end Lndhubx
