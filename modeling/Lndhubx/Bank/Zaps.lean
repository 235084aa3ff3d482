import Lndhubx.Api.Routes
import Lndhubx.Bank.Invoicing

/-!
# From a zap request to its note

A payer asks the API for an invoice and sends a zap request with it; when the
invoice is settled, the note is made from the row of the invoice, and the request,
now the description of the row, is checked once more. Two things have changed on
the way. The amount, in millisats, was cut down to whole sats, so an `amount` tag
that was right at first is not any more if the amount was no multiple of a thousand
(`valueMsat_of_payAddress`). And the hash that the node was given is one of the
unescaped text, where the check hashes the text as it is; an invoice paid inside
the platform has no such hash and is spared this.

`zap_note_created_iff`: the note fails on neither of the two exactly where these
changes do nothing.
-/

namespace Lndhubx

open Prog BankEngine

variable {cfg : Config} {env : Env} {s s' : State}

/-! ## The request, checked twice -/

/-- The amount that the tags of an event name. -/
def NostrEvent.amountTag (event : NostrEvent) : Option Nat :=
  (event.tags.foldl ZapTags.read {}).amount

/-- A request that was accepted with one amount, checked against another: only its
`amount` tag can be in the way. -/
theorem validateZapRequest_again {fns : NostrFns} {json : String} {a b : Nat} {event : NostrEvent}
    (h : validateZapRequest fns json a = .ok event) :
    validateZapRequest fns json b =
      if event.amountTag.isSome ∧ a ≠ b then .error .amountMismatch else .ok event := by
  unfold validateZapRequest at h ⊢
  cases hparsed : fns.eventFromJson json with
  | error e => cases e <;> simp [hparsed] at h
  | ok parsed =>
    simp only [hparsed] at h ⊢
    split_ifs at h with hkind htags hpubkey hevents hrelays
    rw [if_neg hkind, if_neg htags, if_neg hpubkey, if_neg hevents, if_neg hrelays]
    have hevent : parsed = event := by
      split at h
      · split_ifs at h
        injection h
      · injection h
    subst hevent
    unfold NostrEvent.amountTag
    cases htag : (parsed.tags.foldl ZapTags.read {}).amount with
    | none => simp
    | some value =>
      -- the tag was right before, so it names the amount of then
      have hvalue : value = a := by
        simp only [htag] at h
        by_contra hne
        rw [if_pos hne] at h
        exact absurd h (by simp)
      simp [hvalue]

/-! ## The invoice that is asked for -/

/-- A request that the API makes of an address for a payer who sent a zap request. -/
theorem payAddress_zap {settings : ApiSettings} {aenv : ApiEnv} {username json : String}
    {query : PayAddressParams} {req : InvoiceRequest} {filter : Message → Bool}
    {body : Message → Option Body} (hnostr : query.nostr = some json)
    (h : Routes.payAddress settings aenv username query =
      .ok (.asked ⟨.api (.invoiceRequest req), filter⟩ body)) :
    (∃ event, validateZapRequest settings.nostr json query.amount.toNat = .ok event) ∧
      0 < LndConnector.asI64 query.amount.toNat ∧ req.meta = ZAP_REQUEST_MEMO ∧
      req.metadata = some json ∧
      req.amount = Money.new .BTC (LndConnector.asI64 query.amount.toNat / 100000000000) := by
  unfold Routes.payAddress at h
  split at h
  · exact absurd h (by simp)
  dsimp only at h
  split at h
  · exact absurd h (by simp)
  split at h
  · exact absurd h (by simp [Routes.invalidData])
  next hamount =>
    cases hvalid : validateZapRequest settings.nostr json query.amount.toNat with
    | error e =>
      have htexts : Routes.addressTexts settings username query = Routes.invalidData := by
        simp only [Routes.addressTexts, hnostr, hvalid]
      simp only [htexts, Routes.invalidData] at h
      exact absurd h (by simp)
    | ok event =>
      have htexts : Routes.addressTexts settings username query =
          .ok (ZAP_REQUEST_MEMO, some json) := by
        simp only [Routes.addressTexts, hnostr, hvalid]
      simp only [htexts] at h
      split at h
      · exact absurd h (by simp [Routes.invalidData])
      injection h with h
      injection h with h
      injection h with h
      injection h with h
      injection h with h
      -- an amount that is not positive was refused above
      have hpos : (0 : Decimal) < LndConnector.asI64 query.amount.toNat := by
        rw [not_le] at hamount
        exact (div_pos_iff_of_pos_right (by norm_num)).mp hamount
      refine ⟨⟨event, rfl⟩, by exact_mod_cast hpos, ?_, ?_, ?_⟩ <;> rw [← h]

/-- Millisats become the sats that are whole. -/
theorem wholeSats_of_millisats {a : ℤ} {sats : Nat}
    (h : wholeSats (Money.new .BTC ((a : Decimal) / 100000000000)) = .ok sats) :
    (sats : ℤ) = a / 1000 := by
  have hvalue : (Money.new .BTC ((a : Decimal) / 100000000000)).value = a / 100000000000 := by
    apply Decimal.roundDp_eq_self
    exact ⟨10 * a, by push_cast; show _ = _ / 10 ^ 12; field_simp; norm_num⟩
  obtain ⟨r, hr, h⟩ := Checked.bind_eq_ok.mp h
  obtain ⟨v, hv, h⟩ := Checked.bind_eq_ok.mp h
  rw [Checked.unwrapOk_eq_ok.mp hv] at hr
  have hexact : v = (a : Decimal) / (1000 : ℤ) := by
    rw [(Money.trySats_eq_ok hr).2, hvalue]
    unfold SATS_IN_BITCOIN
    push_cast
    ring
  have hsats : v.toU64 = some sats := by
    split at h
    next n hn => rw [hn, Checked.pure_eq_ok.mp h]
    next => exact absurd h (by simp [throw, throwThe, MonadExceptOf.throw])
  rw [(Decimal.toU64_eq_some hsats).2.2, hexact]
  exact Rat.floor_intCast_div_natCast a 1000

/-- Read as signed, an amount above zero is the amount. -/
theorem asI64_toNat_of_pos {n : UInt64} (h : 0 < LndConnector.asI64 n.toNat) :
    LndConnector.asI64 n.toNat = n.toNat ∧ n.toNat < 2 ^ 63 := by
  have hn := n.toNat_lt
  unfold LndConnector.asI64 at h ⊢
  rw [Int.bmod_def] at h ⊢
  split at h
  next hlt =>
    rw [if_pos hlt]
    omega
  next => omega

/-- The row of an invoice names the amount that was asked for, less what is no whole
sat of it. -/
theorem valueMsat_of_payAddress {req : InvoiceRequest} {i : Invoice} {amount : UInt64}
    (hpos : 0 < LndConnector.asI64 amount.toNat)
    (hamount : req.amount = Money.new .BTC (LndConnector.asI64 amount.toNat / 100000000000))
    (hi : CreatedFor req i) : asU64 i.valueMsat = amount.toNat / 1000 * 1000 := by
  obtain ⟨heq, hlt⟩ := asI64_toNat_of_pos hpos
  obtain ⟨sats, hsats, hvalue⟩ := hi.valueMsat
  rw [hamount, heq] at hsats
  have hsats : (sats : ℤ) = (amount.toNat : ℤ) / 1000 := wholeSats_of_millisats hsats
  have hfits : LndConnector.asI64 sats = sats := asI64_of_lt (by omega) (by omega)
  have hmsat : i.valueMsat = sats * 1000 := by
    rw [hvalue, hfits]
    exact asI64_of_lt (by omega) (by omega)
  unfold asU64
  rw [hmsat, Int.emod_eq_of_lt (by omega) (by omega)]
  show ((sats : ℤ) * 1000).toNat = amount.toNat / 1000 * 1000
  omega

/-! ## The note -/

/-- How an invoice is settled: the node reports a deposit, or another user pays. -/
inductive Settlement where
  | deposit (msg : Deposit)
  | payment

/-- `publish_if_zap_note`, as it is called when an invoice has been settled. -/
def Settlement.publish (cfg : Config) (env : Env) (invoice : Invoice) :
    Settlement → Handler Unit
  | .deposit msg => publishIfZapNote cfg (settleInvoice env invoice) (some msg.descriptionHash)
      (some msg.preimage) msg.settleDate false
  | .payment => publishIfZapNote cfg (settleInvoice env invoice) none none
      (env.now .settled / 1000) true

/-- The hash that a note is made with. -/
def Settlement.hash (cfg : Config) (description : String) : Settlement → String
  | .deposit msg => msg.descriptionHash
  | .payment => cfg.textFns.digest description

/-- The hash a deposit reports is the one the node was given with the invoice. -/
def Settlement.Committed (cfg : Config) (req : InvoiceRequest) : Settlement → Prop
  | .deposit msg => ∃ sats request, LndConnector.addInvoiceRequest cfg.textFns sats req.meta
      req.metadata = some request ∧ msg.descriptionHash = request.descriptionHash
  | .payment => True

theorem publishIfZapNote_zap {i : Invoice} {json hash : String}
    {descriptionHash preimage : Option String} {t : Nat} {isInternal : Bool}
    (hreference : i.reference = some ZAP_REQUEST_MEMO) (hdescription : i.description = some json)
    (hhash : zapDescriptionHash cfg json descriptionHash isInternal = .ok hash) :
    publishIfZapNote cfg i descriptionHash preimage t isInternal s =
      .ok ((), { s with sent := s.sent ++ [(.nostr (.nostrZapNote
        ⟨asU64 i.valueMsat, json, hash, i.paymentRequest, preimage, t⟩), .nostr)] }) := by
  unfold publishIfZapNote
  rw [if_pos hreference, hdescription]
  dsimp only
  rw [run_lift_bind hhash]
  rfl

theorem Settlement.publish_zap (cfg : Config) (env : Env) (s : State) {j : Invoice} {json : String}
    (way : Settlement) (hreference : j.reference = some ZAP_REQUEST_MEMO)
    (hdescription : j.description = some json) :
    ∃ note : NostrZapNote, way.publish cfg env j s =
        .ok ((), { s with sent := s.sent ++ [(.nostr (.nostrZapNote note), .nostr)] }) ∧
      note.amount = asU64 j.valueMsat ∧ note.description = json ∧
      note.descriptionHash = way.hash cfg json := by
  cases way with
  | deposit msg => exact ⟨_, publishIfZapNote_zap hreference hdescription rfl, rfl, rfl, rfl⟩
  | payment => exact ⟨_, publishIfZapNote_zap hreference hdescription rfl, rfl, rfl, rfl⟩

/-- What the nostr engine makes of a note, with the parser of the API and the hash of the bank. -/
def noteFns (settings : ApiSettings) (cfg : Config) (signs : NostrEvent → Bool) : NoteFns :=
  { settings.nostr with digest := cfg.textFns.digest, signs }

def NostrZapNote.create (fns : NoteFns) (note : NostrZapNote) :
    Checked (Except ZapError (ZapNote × List String)) :=
  createZapNote fns note.amount note.description note.descriptionHash note.bolt11 note.preimage
    note.settledTimestamp

/-- The two failures. -/
def Mismatch (result : Checked (Except ZapError (ZapNote × List String))) : Prop :=
  result = .ok (.error .descriptionHashMismatch) ∨ result = .ok (.error .amountMismatch)

theorem createZapNote_mismatch_iff {fns : NoteFns} {a b : Nat} {json hash bolt11 : String}
    {preimage : Option String} {t : Nat} {event : NostrEvent}
    (h : validateZapRequest fns.toNostrFns json a = .ok event) :
    Mismatch (createZapNote fns b json hash bolt11 preimage t) ↔
      hash ≠ fns.digest json ∨ event.amountTag.isSome ∧ a ≠ b := by
  unfold createZapNote
  by_cases hhash : hash = fns.digest json
  · rw [if_neg (not_not.mpr hhash), validateZapRequest_again h]
    by_cases hamount : event.amountTag.isSome ∧ a ≠ b
    · simp only [if_pos hamount]
      exact ⟨fun _ => .inr hamount, fun _ => .inr rfl⟩
    · simp only [if_neg hamount]
      constructor
      · intro hmis
        exact absurd hmis (by unfold Mismatch; split <;> simp; split <;> simp)
      · intro hor
        exact absurd hor (not_or.mpr ⟨not_not.mpr hhash, hamount⟩)
  · rw [if_pos hhash]
    exact ⟨fun _ => .inl hhash, fun _ => .inl rfl⟩

/-! ## From the request to the note -/

theorem CreatedFor.advances {req : InvoiceRequest} {i j : Invoice} (h : CreatedFor req i)
    (hadvances : i.Advances j) : CreatedFor req j := by
  obtain ⟨_, _, _, rfl, -⟩ := hadvances
  exact ⟨h.reference, h.description, h.valueMsat⟩

/-- Nothing is lost on the way of a zap request: it names no amount or one in whole sats,
and the text that is hashed for the node has the hash of the text that is kept, unless no
such hash is needed. -/
structure ZapKept (settings : ApiSettings) (cfg : Config) (json : String) (amount : Nat)
    (way : Settlement) : Prop where
  amount : ∀ event, settings.nostr.eventFromJson json = .ok event →
    event.amountTag = none ∨ 1000 ∣ amount
  hash : way ≠ .payment → (cfg.textFns.unescape json).map cfg.textFns.digest =
    some (cfg.textFns.digest json)

theorem validateZapRequest_parsed {fns : NostrFns} {json : String} {a : Nat} {event : NostrEvent}
    (h : validateZapRequest fns json a = .ok event) : fns.eventFromJson json = .ok event := by
  unfold validateZapRequest at h
  cases hparsed : fns.eventFromJson json with
  | error e => cases e <;> simp [hparsed] at h
  | ok parsed =>
    simp only [hparsed] at h
    split_ifs at h
    split at h
    · split_ifs at h
      injection h with h
      rw [h]
    · injection h with h
      rw [h]

/-- The hash of a settlement is that of the kept text exactly where unescaping changes
nothing for the hash. -/
theorem Settlement.Committed.hash_iff {way : Settlement} {req : InvoiceRequest} {json : String}
    (hmetadata : req.metadata = some json) (h : way.Committed cfg req) :
    way.hash cfg json = cfg.textFns.digest json ↔
      (way ≠ .payment → (cfg.textFns.unescape json).map cfg.textFns.digest =
        some (cfg.textFns.digest json)) := by
  cases way with
  | payment => simp [Settlement.hash]
  | deposit msg =>
    obtain ⟨sats, request, hrequest, hhash⟩ := h
    unfold LndConnector.addInvoiceRequest at hrequest
    rw [hmetadata] at hrequest
    obtain ⟨u, hu, hrequest⟩ := Option.map_eq_some_iff.mp hrequest
    have hdigest : msg.descriptionHash = cfg.textFns.digest u := by
      rw [hhash, ← hrequest]
    show msg.descriptionHash = _ ↔ _
    rw [hdigest, hu]
    simp

/-- A zap request that the API accepted, the invoice that the bank made for it, whatever
happened since, and its settlement: a note is sent to the nostr engine, and making it fails
on the hash or the amount exactly if something was lost on the way. -/
theorem zap_note_created_iff {settings : ApiSettings} {aenv : ApiEnv} {username json : String}
    {query : PayAddressParams} {req : InvoiceRequest} {filter : Message → Bool}
    {body : Message → Option Body} {s₁ s₂ : State} {i j : Invoice}
    {ds : List Delivery} {way : Settlement} (env' : Env) (signs : NostrEvent → Bool)
    (hnostr : query.nostr = some json)
    (haccepted : Routes.payAddress settings aenv username query =
      .ok (.asked ⟨.api (.invoiceRequest req), filter⟩ body))
    (hmade : Delivers cfg s ⟨env, .api (.invoiceRequest req)⟩ s₁) (hnew : NewInvoice s s₁ i)
    (hrun : Run cfg s₁ ds s₂) (hrow : s₂.db.invoiceByPaymentRequest i.paymentRequest = some j)
    (hcommitted : way.Committed cfg req) :
    ∃ note : NostrZapNote, way.publish cfg env' j s₂ =
        .ok ((), { s₂ with sent := s₂.sent ++ [(.nostr (.nostrZapNote note), .nostr)] }) ∧
      (¬Mismatch (note.create (noteFns settings cfg signs)) ↔
        ZapKept settings cfg json query.amount.toNat way) := by
  obtain ⟨⟨event, hvalid⟩, hpos, hmeta, hmetadata, hamount⟩ := payAddress_zap hnostr haccepted
  -- the request reached the row
  have hcreated : CreatedFor req i := by
    have hout : RequestOutcome req { s with sent := [] } s₁ :=
      hmade.ensures (invoiceRequest_outcome req)
    cases hout with
    | refused same => exact absurd same hnew.not_same
    | forwarded _ _ _ same => exact absurd same hnew.not_same
    | made _ _ _ k stored _ _ _ created =>
      obtain rfl := hnew.eq_inserted stored
      exact created
  -- and later settlements keep what the row says of it
  have hcreated : CreatedFor req j := by
    obtain ⟨j', hj', hadvances⟩ := hrun.invoice_advances hnew.found
    obtain rfl := Option.some.inj (hrow.symm.trans hj')
    exact hcreated.advances hadvances
  obtain ⟨note, hsent, hvalue, hdescription, hhash⟩ := way.publish_zap cfg env' s₂
    (hcreated.reference.trans (congrArg some hmeta)) (hcreated.description.trans hmetadata)
  refine ⟨note, hsent, ?_⟩
  have hvalid' : validateZapRequest (noteFns settings cfg signs).toNostrFns json
      query.amount.toNat = .ok event := hvalid
  unfold NostrZapNote.create
  rw [hdescription, createZapNote_mismatch_iff hvalid', hhash, hvalue,
    valueMsat_of_payAddress hpos hamount hcreated]
  have hhash_iff := hcommitted.hash_iff hmetadata
  -- the invoice has whole sats, and loses what the request asks for beyond them
  have hwhole : query.amount.toNat ≠ query.amount.toNat / 1000 * 1000 ↔
      ¬1000 ∣ query.amount.toNat := by omega
  constructor
  · intro hkept
    obtain ⟨hsame, htag⟩ := not_or.mp hkept
    refine ⟨fun event' hevent' => ?_, hhash_iff.mp (not_not.mp hsame)⟩
    obtain rfl := Except.ok.inj ((validateZapRequest_parsed hvalid).symm.trans hevent')
    by_contra hlost
    obtain ⟨hsome, hdvd⟩ := not_or.mp hlost
    exact htag ⟨Option.isSome_iff_ne_none.mpr hsome, hwhole.mpr hdvd⟩
  · intro hkept hlost
    rcases hlost with hother | ⟨hsome, hamount⟩
    · exact hother (hhash_iff.mpr hkept.hash)
    · rcases hkept.amount event (validateZapRequest_parsed hvalid) with hnone | hdvd
      · exact Option.isSome_iff_ne_none.mp hsome hnone
      · exact hwhole.mp hamount hdvd

namespace Sample

/-- A parser that reads every text as a zap request for an amount. -/
def zapSettings (amount : String) : ApiSettings where
  domain := "kollider.me"
  nostr :=
    { eventFromJson := fun _ => .ok
        ⟨ZAP_REQUEST_KIND, [.pubKey, .generic "relays" ["relay"], .generic "amount" [amount]]⟩
      getPubkeyHex := fun _ => none }

def zapQuery (amount : UInt64) : PayAddressParams := ⟨amount, some "zap"⟩

/-- What the API asks the bank for when Alice is zapped. -/
def zapInvoiceRequest (amount : Decimal) : InvoiceRequest where
  reqId := 5
  uid := 7
  amount := Money.new .BTC (amount / 100000000000)
  «meta» := ZAP_REQUEST_MEMO
  metadata := some "zap"
  currency := .BTC
  accountId := none
  targetAccountCurrency := none

theorem payAddress_zapped (text : String) (n : UInt64) {event : NostrEvent}
    (hpos : 0 < LndConnector.asI64 n.toNat)
    (hvalid : validateZapRequest (zapSettings text).nostr "zap" n.toNat = .ok event) :
    Routes.payAddress (zapSettings text) (apiEnv 5) "alice" (zapQuery n) =
      .ok (.asked ⟨.api (.invoiceRequest (zapInvoiceRequest (LndConnector.asI64 n.toNat))),
        respondsWith .invoice 5⟩ Routes.invoiceBody) := by
  have huser : (if (apiEnv 5).userQuery then (apiEnv 5).directory.userByUsername "alice"
      else none) = some ⟨7, "alice", false⟩ := rfl
  have htexts : Routes.addressTexts (zapSettings text) "alice" (zapQuery n) =
      .ok (ZAP_REQUEST_MEMO, some "zap") := by
    simp only [Routes.addressTexts, zapQuery, hvalid]
  have hamount :
      ¬((LndConnector.asI64 (zapQuery n).amount.toNat : Decimal) / 100000000000 ≤ 0) := by
    rw [not_le]
    exact div_pos (by exact_mod_cast hpos) (by norm_num)
  unfold Routes.payAddress
  rw [if_neg (by decide)]
  dsimp only
  rw [huser]
  dsimp only
  rw [if_neg hamount, htexts]
  rfl

/-- Alice's invoice over the whole sats of `n`. -/
theorem exists_zapInvoice (n : UInt64) (sats : ℤ)
    (h : (deliver config ⟨invoicing 2,
      .api (.invoiceRequest (zapInvoiceRequest (LndConnector.asI64 n.toNat)))⟩ state).toOption.any
        (fun s => decide ((s.db.invoiceByPaymentRequest "lnbc-usd").any (fun i => decide
          (i.valueMsat = sats * 1000 ∧ i.reference = some ZAP_REQUEST_MEMO ∧
            i.description = some "zap")) = true)) = true) :
    ∃ s i, Delivers config state ⟨invoicing 2,
        .api (.invoiceRequest (zapInvoiceRequest (LndConnector.asI64 n.toNat)))⟩ s ∧
      NewInvoice state s i ∧ i.valueMsat = sats * 1000 ∧ i.reference = some ZAP_REQUEST_MEMO ∧
      i.description = some "zap" := by
  obtain ⟨s, hstep, hfound⟩ := exists_delivers _ _ _ _ h
  obtain ⟨i, hi, hcolumns⟩ := (Option.any_eq_true _ _).mp hfound
  have hpr := Db.invoiceByPaymentRequest_eq hi
  refine ⟨s, i, hstep, ⟨?_, ?_⟩, of_decide_eq_true hcolumns⟩
  · rw [hpr]
    rfl
  · rw [hpr]
    exact hi

/-- The node reports the hash that it was given: the sample hashes are the texts. -/
def zapDeposit : Deposit where
  paymentRequest := "lnbc-usd"
  paymentHash := "usd"
  descriptionHash := "zap"
  preimage := "preimage"
  value := 2
  valueMsat := 2000
  settled := true
  creationDate := 2
  settleDate := 3

end Sample

/-- Alice is zapped with one and a half sats, and the request says so. The invoice is over
one sat, and when another user has paid it the request does not match it any more. -/
theorem zap_note_of_half_sat : ∃ req filter body s i note,
    Routes.payAddress (Sample.zapSettings "1500") (Sample.apiEnv 5) "alice" (Sample.zapQuery 1500) =
        .ok (.asked ⟨.api (.invoiceRequest req), filter⟩ body) ∧
      Delivers Sample.config Sample.state ⟨Sample.invoicing 2, .api (.invoiceRequest req)⟩ s ∧
      NewInvoice Sample.state s i ∧
      Settlement.payment.publish Sample.config (Sample.env 3) i s =
        .ok ((), { s with sent := s.sent ++ [(.nostr (.nostrZapNote note), .nostr)] }) ∧
      note.create (noteFns (Sample.zapSettings "1500") Sample.config fun _ => true) =
        .ok (.error .amountMismatch) := by
  obtain ⟨s, i, hstep, hnew, hvalue, hreference, hdescription⟩ :=
    Sample.exists_zapInvoice 1500 1 (by decide +kernel)
  have haccepted := Sample.payAddress_zapped "1500" 1500 (by decide) (by rfl)
  obtain ⟨note, hsent, hamount, htext, hhash⟩ := Settlement.payment.publish_zap Sample.config
    (Sample.env 3) s hreference hdescription
  refine ⟨_, _, _, s, i, note, haccepted, hstep, hnew, hsent, ?_⟩
  unfold NostrZapNote.create
  rw [hamount, htext, hhash, hvalue]
  rfl

/-- Alice is zapped with two sats, and the node reports the deposit. -/
theorem zap_note_of_two_sats : ∃ req filter body s i note,
    Routes.payAddress (Sample.zapSettings "2000") (Sample.apiEnv 5) "alice" (Sample.zapQuery 2000) =
        .ok (.asked ⟨.api (.invoiceRequest req), filter⟩ body) ∧
      Delivers Sample.config Sample.state ⟨Sample.invoicing 2, .api (.invoiceRequest req)⟩ s ∧
      NewInvoice Sample.state s i ∧
      (Settlement.deposit Sample.zapDeposit).Committed Sample.config req ∧
      (Settlement.deposit Sample.zapDeposit).publish Sample.config (Sample.env 3) i s =
        .ok ((), { s with sent := s.sent ++ [(.nostr (.nostrZapNote note), .nostr)] }) ∧
      ¬Mismatch (note.create
        (noteFns (Sample.zapSettings "2000") Sample.config fun _ => true)) := by
  obtain ⟨s, i, hstep, hnew, -⟩ := Sample.exists_zapInvoice 2000 2 (by decide +kernel)
  have haccepted := Sample.payAddress_zapped "2000" 2000 (by decide) (by rfl)
  have hcommitted : (Settlement.deposit Sample.zapDeposit).Committed Sample.config
      (Sample.zapInvoiceRequest (LndConnector.asI64 (2000 : UInt64).toNat)) :=
    ⟨2, _, rfl, rfl⟩
  obtain ⟨note, hsent, hiff⟩ := zap_note_created_iff (Sample.env 3) (fun _ => true) rfl
    haccepted hstep hnew (Trace.nil s) hnew.found hcommitted
  refine ⟨_, _, _, s, i, note, haccepted, hstep, hnew, hcommitted, hsent, hiff.mpr ⟨?_, ?_⟩⟩
  · exact fun _ _ => .inr (by decide)
  · exact fun _ => rfl

end Lndhubx
