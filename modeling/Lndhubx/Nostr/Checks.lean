import Lndhubx.Nostr.Profiles
import Lndhubx.Nostr.Search

/-!
# What a profile says of itself, and what was checked

`nostr_engine/src/lib.rs`. A profile comes from a relay as text that its author wrote, and
the text may even say that its address is verified. Before it goes to the engine
(`tryProfileUpdateFromEvent`) the domain of the address is asked whether it names the
author, and the links by which it wants to be paid are asked whether anyone takes payments
there. Then it lies in the cache and in the table, is written over or not, is read back
when the engine starts again, and is shown to users by a cached answer, a late answer or a
search.

`shown_profiles_checked`: whatever is shown goes back to one event of its author, and all
of it to the same: what the text says, and the outcome of the checks of that text. A
profile is shown as verified only if the domain named the author, and with a link only if
a payment endpoint answered there.

The replies of other servers are read by `serde`; that, the grammar of links and Unicode's
upper case are parameters.
-/

namespace Lndhubx

def METADATA_KIND : Nat := 0

structure LnUrlPayResponse where
  callback : String
  maxSendable : Nat
  minSendable : Nat
  metadata : String
  tag : String

structure CheckFns extends NostrEngineFns where
  /-- The names of a `Nip05Response`. -/
  nip05Names : String → Option (String → Option String)
  lnUrlPay : String → Option LnUrlPayResponse
  /-- `Url::parse` -/
  isUrl : String → Bool
  /-- `serde_json::from_str::<Vec<Vec<String>>>` -/
  isMetadata : String → Bool
  /-- `utils::lnurl::encode`, with no query. -/
  lnurlEncode : String → Option String
  lnurlDecode : String → Option String
  toUppercase : String → String

/-- Where the web is asked while one event is handled. -/
inductive WebCall where
  | nip05
  | lud16
  | lud06

/-- An event of a relay, with the time and the bodies that `reqwest::get` gave when it was
handled. -/
structure Notification where
  kind : Nat
  pubkey : String
  content : String
  createdAt : UInt64
  timeNow : UInt64
  get : WebCall → String → Option String

/-- `split_once` -/
def splitOnce (separator : Char) (text : String) : Option (String × String) :=
  match text.toList.span (· != separator) with
  | (before, _ :: after) => some (String.ofList before, String.ofList after)
  | (_, []) => none

def domainValid (domain : String) : Bool :=
  domain ≠ "" && !domain.toList.contains '@' && domain.utf8ByteSize ≤ 253

def isLocalPartPunctuation (ch : Char) : Bool := ch == '-' || ch == '_' || ch == '.'

/-- `^[a-zA-Z0-9-_.]+$` -/
def nip05LocalPartValid (localPart : String) : Bool :=
  localPart ≠ "" && localPart.toList.all fun ch => ch.isAlphanum || isLocalPartPunctuation ch

/-- `^[a-z0-9-_.]+$` -/
def lud16LocalPartValid (localPart : String) : Bool :=
  localPart ≠ "" &&
    localPart.toList.all fun ch => ch.isLower || ch.isDigit || isLocalPartPunctuation ch

def nip05Url (localPart domain : String) : String :=
  "https://" ++ domain ++ "/.well-known/nostr.json?name=" ++ localPart

/-- `none` where nothing was found out. -/
def verifyNip05 (F : CheckFns) (get : String → Option String) (pubkey nip05 : String) :
    Option Bool :=
  match splitOnce '@' nip05 with
  | some (localPart, domain) =>
    if !nip05LocalPartValid localPart || !domainValid domain then none
    else do
      let body ← get (nip05Url localPart domain)
      let names ← F.nip05Names body
      let responsePubkey ← names localPart
      return responsePubkey == pubkey
  | none => none

def lnurlFromAddress (lightningAddress : String) : Option String :=
  match splitOnce '@' lightningAddress with
  | some (localPart, domain) =>
    if lud16LocalPartValid localPart && domainValid domain then
      some ("https://" ++ domain ++ "/.well-known/lnurlp/" ++ localPart)
    else none
  | none => none

def verifyLnurl (F : CheckFns) (get : String → Option String) (url : String) : Bool :=
  match get url with
  | none => false
  | some body =>
    match F.lnUrlPay body with
    | none => false
    | some r =>
      if !F.isUrl r.callback then false
      else if r.minSendable < 1 ∨ r.maxSendable < r.minSendable then false
      else if r.tag ≠ "payRequest" then false
      else F.isMetadata r.metadata

/-- A link that is in the profile itself, if it is good. -/
def goodLink (F : CheckFns) (get : String → Option String) (value : String) : Option String :=
  match F.lnurlDecode value with
  | some lnurl => if verifyLnurl F get lnurl then some value else none
  | none => none

/-- A good address ends the search, also if its link cannot be encoded. -/
def getLnurlPayRequest (F : CheckFns) (get : WebCall → String → Option String)
    (profile : NostrProfile) : Option String :=
  let second := profile.lud06.bind (goodLink F (get .lud06))
  match profile.lud16 with
  | none => second
  | some value =>
    match lnurlFromAddress value with
    | some lnurl => if verifyLnurl F (get .lud16) lnurl then F.lnurlEncode lnurl else second
    | none => (goodLink F (get .lud16) value).or second

def getCapsLnurlPayRequest (F : CheckFns) (get : WebCall → String → Option String)
    (profile : NostrProfile) : Option String :=
  (getLnurlPayRequest F get profile).map F.toUppercase

def tryProfileUpdateFromEvent (F : CheckFns) (n : Notification) : Option NostrProfileUpdate :=
  if n.kind = METADATA_KIND then
    (F.parseProfile n.content).map fun claimed =>
      let verified := claimed.nip05.bind fun nip05 =>
        if nip05 ≠ "" then verifyNip05 F (n.get .nip05) n.pubkey nip05 else none
      let nostrProfile := { claimed with nip05Verified := verified }
      { pubkey := n.pubkey
        content := n.content
        createdAtEpochMs := 1000 * n.createdAt
        receivedAtEpochMs := n.timeNow
        nostrProfile
        validatedLnurlPayReq := getCapsLnurlPayRequest F n.get nostrProfile }
  else none

/-- What comes to the engine's process. A profile may not fit in the channel. -/
inductive NostrInput where
  | notification (n : Notification) (sent : Bool)
  | message (message : Message)
  | internal (request : InternalNostrProfileRequest)

namespace NostrInput

/-- What the engine gets of it, for a notification by `spawn_profile_subscriber`. -/
def event? (F : CheckFns) : NostrInput → Option NostrEngineEvent
  | .notification n sent =>
    (tryProfileUpdateFromEvent F n).bind fun update =>
      if sent then some (.nostrProfileUpdate update) else none
  | .message m => some (.lndhubxMessage m)
  | .internal request => some (.internalNostrProfileRequest request)

def notification? : NostrInput → Option Notification
  | .notification n _ => some n
  | _ => none

end NostrInput

def engineEvents (F : CheckFns) (inputs : List (NostrEnv × NostrInput)) :
    List (NostrEnv × NostrEngineEvent) :=
  inputs.filterMap fun i => (i.2.event? F).map fun event => (i.1, event)

def notifications (inputs : List (NostrEnv × NostrInput)) : List Notification :=
  inputs.filterMap fun i => i.2.notification?

/-! ## What a check says -/

theorem splitOnce_eq_some {separator : Char} {text before after : String}
    (h : splitOnce separator text = some (before, after)) :
    text.toList = before.toList ++ separator :: after.toList := by
  unfold splitOnce at h
  rw [List.span_eq_takeWhile_dropWhile] at h
  split at h
  next u c v hspan =>
    obtain ⟨hu, hv⟩ := Prod.mk.inj hspan
    have hc : c = separator := by
      have hnot := List.head_dropWhile_not (· != separator) (l := text.toList) (by rw [hv]; simp)
      simp only [hv, List.head_cons] at hnot
      simpa using hnot
    have htext : text.toList = u ++ separator :: v := by
      rw [← hc, ← hu, ← hv, List.takeWhile_append_dropWhile]
    simp only [Option.some.injEq, Prod.mk.injEq] at h
    obtain ⟨rfl, rfl⟩ := h
    rw [htext, String.toList_ofList, String.toList_ofList]
  next => exact absurd h (by simp)

variable {F : CheckFns}

/-- The author has the address: its domain names her under its local part. -/
def HasAddress (F : CheckFns) (get : String → Option String) (pubkey nip05 : String) : Prop :=
  ∃ localPart domain body names, nip05.toList = localPart.toList ++ '@' :: domain.toList ∧
    nip05LocalPartValid localPart = true ∧ domainValid domain = true ∧
    get (nip05Url localPart domain) = some body ∧ F.nip05Names body = some names ∧
    names localPart = some pubkey

theorem verifyNip05_eq_true {get : String → Option String} {pubkey nip05 : String}
    (h : verifyNip05 F get pubkey nip05 = some true) : HasAddress F get pubkey nip05 := by
  unfold verifyNip05 at h
  split at h
  next localPart domain hsplit =>
    split at h
    next => exact absurd h (by simp)
    next hvalid =>
      obtain ⟨body, hbody, h⟩ := Option.bind_eq_some_iff.mp h
      obtain ⟨names, hnames, h⟩ := Option.bind_eq_some_iff.mp h
      obtain ⟨responsePubkey, hnamed, h⟩ := Option.bind_eq_some_iff.mp h
      have hsame : responsePubkey = pubkey := beq_iff_eq.mp (Option.some.inj h)
      have hvalid : nip05LocalPartValid localPart = true ∧ domainValid domain = true := by
        simpa using hvalid
      exact ⟨localPart, domain, body, names, splitOnce_eq_some hsplit, hvalid.1, hvalid.2, hbody,
        hnames, hsame ▸ hnamed⟩
  next => exact absurd h (by simp)

/-- Someone takes payments at the link. -/
def TakesPayments (F : CheckFns) (get : String → Option String) (url : String) : Prop :=
  ∃ body r, get url = some body ∧ F.lnUrlPay body = some r ∧ r.tag = "payRequest" ∧
    1 ≤ r.minSendable ∧ r.minSendable ≤ r.maxSendable ∧ F.isUrl r.callback = true ∧
    F.isMetadata r.metadata = true

theorem verifyLnurl_eq_true {get : String → Option String} {url : String}
    (h : verifyLnurl F get url = true) : TakesPayments F get url := by
  unfold verifyLnurl at h
  split at h
  next => exact absurd h (by simp)
  next body hbody =>
    split at h
    next => exact absurd h (by simp)
    next r hr =>
      split_ifs at h with hcallback hsendable htag
      obtain ⟨hmin, hmax⟩ := not_or.mp hsendable
      exact ⟨body, r, hbody, hr, not_not.mp htag, by omega, by omega, by simpa using hcallback, h⟩

/-- A text that stands for a link where someone takes payments. -/
def IsPayable (F : CheckFns) (get : WebCall → String → Option String) (text : String) : Prop :=
  ∃ call url, (F.lnurlEncode url = some text ∨ F.lnurlDecode text = some url) ∧
    TakesPayments F (get call) url

theorem isPayable_of_goodLink {get : WebCall → String → Option String} {call : WebCall}
    {value text : String} (h : goodLink F (get call) value = some text) : IsPayable F get text := by
  unfold goodLink at h
  split at h
  next lnurl hdecode =>
    split at h
    next hverified =>
      obtain rfl : value = text := Option.some.inj h
      exact ⟨call, lnurl, .inr hdecode, verifyLnurl_eq_true hverified⟩
    next => exact absurd h (by simp)
  next => exact absurd h (by simp)

theorem isPayable_of_getLnurlPayRequest {get : WebCall → String → Option String}
    {profile : NostrProfile} {text : String} (h : getLnurlPayRequest F get profile = some text) :
    IsPayable F get text := by
  have hsecond (h : profile.lud06.bind (goodLink F (get .lud06)) = some text) :
      IsPayable F get text := by
    obtain ⟨value, -, hgood⟩ := Option.bind_eq_some_iff.mp h
    exact isPayable_of_goodLink hgood
  unfold getLnurlPayRequest at h
  dsimp only at h
  split at h
  next => exact hsecond h
  next value _ =>
    split at h
    next lnurl _ =>
      split at h
      next hverified => exact ⟨.lud16, lnurl, .inl h, verifyLnurl_eq_true hverified⟩
      next => exact hsecond h
    next =>
      rcases Option.or_eq_some_iff.mp h with hgood | ⟨-, h⟩
      · exact isPayable_of_goodLink hgood
      · exact hsecond h

/-! ## What an update says -/

/-- A profile that is shown, and the event it goes back to. -/
structure ShownFrom (F : CheckFns) (n : Notification) (p : ShareableNostrProfile) : Prop where
  kind : n.kind = METADATA_KIND
  author : p.pubkey = n.pubkey
  /-- All but the verification is what the author wrote. -/
  written : ∃ claimed, F.parseProfile n.content = some claimed ∧
    p.profile = { claimed with nip05Verified := p.profile.nip05Verified }
  verified : p.profile.nip05Verified = some true →
    ∃ nip05, p.profile.nip05 = some nip05 ∧ HasAddress F (n.get .nip05) p.pubkey nip05
  payable : ∀ link, p.validatedLnurlPayReq = some link →
    ∃ text, link = F.toUppercase text ∧ IsPayable F n.get text

theorem shownFrom_of_update {n : Notification} {u : NostrProfileUpdate}
    (h : tryProfileUpdateFromEvent F n = some u) : ShownFrom F n u.shareable := by
  unfold tryProfileUpdateFromEvent at h
  split at h
  next hkind =>
    obtain ⟨claimed, hparse, rfl⟩ := Option.map_eq_some_iff.mp h
    refine ⟨hkind, rfl, ⟨claimed, hparse, rfl⟩, fun hverified => ?_, fun link hlink => ?_⟩
    · obtain ⟨nip05, hnip05, hverified⟩ := Option.bind_eq_some_iff.mp hverified
      refine ⟨nip05, hnip05, ?_⟩
      split at hverified
      next => exact verifyNip05_eq_true hverified
      next => exact absurd hverified (by simp)
    · obtain ⟨text, htext, rfl⟩ := Option.map_eq_some_iff.mp hlink
      exact ⟨text, rfl, isPayable_of_getLnurlPayRequest htext⟩
  next => exact absurd h (by simp)

/-- The update was made of one of the events. -/
def MadeFrom (F : CheckFns) (ns : List Notification) (u : NostrProfileUpdate) : Prop :=
  ∃ n ∈ ns, tryProfileUpdateFromEvent F n = some u

namespace MadeFrom

variable {ns : List Notification} {u : NostrProfileUpdate}

theorem parse (h : MadeFrom F ns u) : ∃ claimed, F.parseProfile u.content = some claimed ∧
    u.nostrProfile = { claimed with nip05Verified := u.nostrProfile.nip05Verified } := by
  obtain ⟨n, -, hu⟩ := h
  unfold tryProfileUpdateFromEvent at hu
  split at hu
  next =>
    obtain ⟨claimed, hparse, rfl⟩ := Option.map_eq_some_iff.mp hu
    exact ⟨claimed, hparse, rfl⟩
  next => exact absurd hu (by simp)

theorem mono (h : MadeFrom F ns u) {ns' : List Notification} (hns : ns ⊆ ns') :
    MadeFrom F ns' u := by
  obtain ⟨n, hn, hu⟩ := h
  exact ⟨n, hns hn, hu⟩

/-- What is read back of its row is the update again. -/
theorem profileOfRecord_record (h : MadeFrom F ns u) {v : NostrProfileUpdate}
    (hv : NostrEngine.profileOfRecord F.toNostrEngineFns u.record = some v) : v = u := by
  obtain ⟨claimed, hparse, hprofile⟩ := h.parse
  unfold NostrEngine.profileOfRecord at hv
  split at hv
  next => exact absurd hv (by simp)
  next =>
    obtain ⟨claimed', hparse', rfl⟩ := Option.map_eq_some_iff.mp hv
    have hsame : claimed' = claimed := Option.some.inj (hparse'.symm.trans hparse)
    obtain ⟨pubkey, content, createdAt, receivedAt, profile, link⟩ := u
    dsimp only [NostrProfileUpdate.record] at hprofile ⊢
    rw [UInt64.toUInt64_toInt64, UInt64.toUInt64_toInt64, hsame, ← hprofile]

/-- And what is shared of its row is what is shared of it. -/
theorem shareRecord_record (h : MadeFrom F ns u) :
    NostrEngine.shareRecord F.toNostrEngineFns u.record = some u.shareable := by
  obtain ⟨claimed, hparse, hprofile⟩ := h.parse
  have hparse : F.parseProfile u.record.content = some claimed := hparse
  unfold NostrEngine.shareRecord
  rw [hparse, Option.map_some]
  unfold NostrProfileUpdate.shareable
  rw [hprofile]
  rfl

end MadeFrom

/-! ## What is kept -/

theorem NostrProfileRecord.mem_upsert {record r : NostrProfileRecord} {table : NostrProfileRecords}
    (h : r ∈ (record.upsert table).rows) : r ∈ table.rows ∨ r = record := by
  unfold upsert at h
  split at h
  next inserted hinserted =>
    rw [Table.insert_rows hinserted] at h
    exact (List.mem_append.mp h).imp_right List.mem_singleton.mp
  next =>
    obtain ⟨n, hn, hr⟩ := List.mem_map.mp h
    split at hr
    next hkey =>
      unfold onConflict at hr
      split at hr
      next =>
        rw [← hr, hkey]
        exact .inr rfl
      next => exact .inl (hr ▸ hn)
    next => exact .inl (hr ▸ hn)

/-- What is cached, stored or was shown goes back to the events. -/
structure NostrEngine.Vouched (F : CheckFns) (ns : List Notification) (s : NostrEngine) :
    Prop where
  cache : ∀ pubkey u, s.nostrProfileCache pubkey = some u → MadeFrom F ns u
  table : ∀ r ∈ s.dbPool.rows, ∃ u, MadeFrom F ns u ∧ r = u.record
  shown : ∀ response, .api (.nostrProfileSearchResponse response) ∈ s.bankTxSender →
    ∀ p ∈ response.data, ∃ u, MadeFrom F ns u ∧ p = u.shareable

namespace NostrEngine

variable {ns : List Notification} {env : NostrEnv} {s s' : NostrEngine}

/-- One more answer. -/
theorem Vouched.sendToBank (h : s.Vouched F ns) {response : NostrProfileSearchResponse}
    (hdata : ∀ p ∈ response.data, ∃ u, MadeFrom F ns u ∧ p = u.shareable) :
    (s.sendToBank (.api (.nostrProfileSearchResponse response))).Vouched F ns := by
  refine ⟨h.cache, h.table, fun response' hmem => ?_⟩
  rcases List.mem_append.mp hmem with hmem | hmem
  · exact h.shown response' hmem
  · have hsame := List.mem_singleton.mp hmem
    injection hsame with hsame
    injection hsame with hsame
    rw [hsame]
    exact hdata

theorem Vouched.cacheProfile (h : s.Vouched F ns) {u : NostrProfileUpdate} (hu : MadeFrom F ns u) :
    (cacheProfile env u s).Vouched F ns := by
  have hcached : ∀ pubkey v,
      Function.update s.nostrProfileCache u.pubkey (some u) pubkey = some v → MadeFrom F ns v := by
    intro pubkey v hv
    by_cases hkey : pubkey = u.pubkey
    · rw [hkey, Function.update_self] at hv
      rwa [← Option.some.inj hv]
    · rw [Function.update_of_ne hkey] at hv
      exact h.cache pubkey v hv
  have hnew : NostrEngine.Vouched F ns
      { s with nostrProfileCache := Function.update s.nostrProfileCache u.pubkey (some u) } :=
    ⟨hcached, h.table, h.shown⟩
  unfold NostrEngine.cacheProfile
  split
  next =>
    unfold replyIfPending
    split
    next => exact hnew
    next =>
      split
      next =>
        refine hnew.sendToBank fun p hp => ⟨u, hu, ?_⟩
        exact List.mem_singleton.mp hp
      next => exact hnew
  next => exact h

theorem Vouched.storeProfile (h : s.Vouched F ns) {u : NostrProfileUpdate} (hu : MadeFrom F ns u) :
    (storeProfile env u s).Vouched F ns := by
  have hcached : (NostrEngine.cacheProfile env u s).Vouched F ns := h.cacheProfile hu
  unfold NostrEngine.storeProfile
  dsimp only
  split
  next =>
    -- written or kept, every row is an old one or the new
    refine ⟨hcached.cache, fun r hr => ?_, hcached.shown⟩
    rcases NostrProfileRecord.mem_upsert hr with hr | rfl
    · exact hcached.table r hr
    · exact ⟨u, hu, rfl⟩
  next => exact ⟨hcached.cache, hcached.table, hcached.shown⟩

/-- The search of the database finds rows of the table. -/
def FindsRows (F : CheckFns) : Prop :=
  ∀ table pubkey text limit, ∀ r ∈ F.selectByText table pubkey text limit, r ∈ table.rows

theorem Vouched.found (h : s.Vouched F ns) (hselect : FindsRows F) {pubkey text : Option String}
    {limit : Option Nat} {found : List ShareableNostrProfile}
    (hfound : searchProfileByText F.toNostrEngineFns env s pubkey text limit = .ok found) :
    ∀ p ∈ found, ∃ u, MadeFrom F ns u ∧ p = u.shareable := by
  unfold searchProfileByText at hfound
  split_ifs at hfound
  · rw [← Except.ok.inj hfound]
    exact fun p hp => absurd hp List.not_mem_nil
  · rw [← Except.ok.inj hfound]
    intro p hp
    obtain ⟨r, hr, hshared⟩ := List.mem_filterMap.mp hp
    obtain ⟨u, hu, rfl⟩ := h.table r (hselect _ _ _ _ r hr)
    have hshared : shareRecord F.toNostrEngineFns u.record = some p := hshared
    exact ⟨u, hu, Option.some.inj (hshared.symm.trans hu.shareRecord_record)⟩

theorem Vouched.requestUserProfile (h : s.Vouched F ns) (request : InternalNostrProfileRequest) :
    (requestUserProfile F.toNostrEngineFns request s).Vouched F ns := by
  obtain ⟨calls, hcalls⟩ := requestUserProfile_eq F.toNostrEngineFns request s
  rw [hcalls]
  exact ⟨h.cache, h.table, h.shown⟩

theorem Vouched.processMessage (h : s.Vouched F ns) (hselect : FindsRows F) {message : Message}
    (hs' : processMessage F.toNostrEngineFns env message s = .ok s') : s'.Vouched F ns := by
  unfold NostrEngine.processMessage at hs'
  split at hs'
  next req =>
    rw [← Except.ok.inj hs']
    unfold profileRequest
    split
    next => exact h
    next pubkey _ =>
      split
      next cached hcached =>
        refine h.sendToBank fun p hp => ⟨cached, h.cache pubkey cached hcached, ?_⟩
        exact List.mem_singleton.mp hp
      next =>
        refine Vouched.requestUserProfile ?_ _
        exact ⟨h.cache, h.table, h.shown⟩
  next req =>
    rw [← Except.ok.inj hs']
    apply h.sendToBank
    split
    next profiles hfound => exact h.found hselect hfound
    next => exact fun p hp => absurd hp List.not_mem_nil
  next req =>
    rw [← Except.ok.inj hs']
    exact h.requestUserProfile _
  next req =>
    unfold sendNostrPrivateMsg at hs'
    split at hs'
    · rw [← Except.ok.inj hs']
      exact ⟨h.cache, h.table, h.shown⟩
    · exact absurd hs' (by simp)
  next zap =>
    unfold sendZapNote at hs'
    obtain ⟨result, -, hs'⟩ := Checked.bind_eq_ok.mp hs'
    split at hs'
    · rw [← Except.ok.inj hs']
      exact ⟨h.cache, h.table, h.shown⟩
    · rw [← Except.ok.inj hs']
      exact h
  next =>
    rw [← Except.ok.inj hs']
    exact h

/-- One event keeps it, if a profile that arrives was made of the events. -/
theorem Vouched.processEvent (h : s.Vouched F ns) (hselect : FindsRows F)
    {event : NostrEngineEvent} (hmade : ∀ u, event.update? = some u → MadeFrom F ns u)
    (hs' : processEvent F.toNostrEngineFns env event s = .ok s') : s'.Vouched F ns := by
  cases event with
  | nostrProfileUpdate u =>
    rw [← Except.ok.inj hs']
    exact h.storeProfile (hmade u rfl)
  | lndhubxMessage message => exact h.processMessage hselect hs'
  | internalNostrProfileRequest request =>
    rw [← Except.ok.inj hs']
    exact h.requestUserProfile request

/-- The cache of an engine that starts is read from the table. -/
theorem vouched_started {table : NostrProfileRecords}
    (htable : ∀ r ∈ table.rows, ∃ u, MadeFrom F ns u ∧ r = u.record) :
    (started F.toNostrEngineFns env table).Vouched F ns := by
  unfold started initializeProfileCache
  split
  next =>
    refine ⟨fun pubkey u hu => ?_, htable, fun _ hm => absurd hm List.not_mem_nil⟩
    obtain ⟨hmem, -⟩ := mem_of_collect hu
    obtain ⟨r, hr, hread⟩ := List.mem_filterMap.mp hmem
    obtain ⟨v, hv, rfl⟩ := htable r hr
    -- nothing was lost on the way through the table
    rwa [hv.profileOfRecord_record hread]
  next =>
    exact ⟨fun _ _ hu => absurd hu (by simp [new]), htable, fun _ hm => absurd hm List.not_mem_nil⟩

end NostrEngine

/-- A profile in the channel was made of one of the notifications. -/
theorem madeFrom_of_engineEvents {inputs : List (NostrEnv × NostrInput)}
    {e : NostrEnv × NostrEngineEvent} (he : e ∈ engineEvents F inputs) {u : NostrProfileUpdate}
    (hu : e.2.update? = some u) : MadeFrom F (notifications inputs) u := by
  obtain ⟨i, hi, hmap⟩ := List.mem_filterMap.mp he
  obtain ⟨event, hevent, rfl⟩ := Option.map_eq_some_iff.mp hmap
  obtain ⟨env, input⟩ := i
  cases input with
  | notification n sent =>
    obtain ⟨update, hupdate, hsent⟩ := Option.bind_eq_some_iff.mp hevent
    split at hsent
    next =>
      rw [← Option.some.inj hsent] at hu
      rw [← Option.some.inj hu]
      exact ⟨n, List.mem_filterMap.mpr ⟨_, hi, rfl⟩, hupdate⟩
    next => exact absurd hsent (by simp)
  | message m =>
    rw [← Option.some.inj hevent] at hu
    exact absurd hu (by simp [NostrEngineEvent.update?])
  | internal request =>
    rw [← Option.some.inj hevent] at hu
    exact absurd hu (by simp [NostrEngineEvent.update?])

/-- **Nothing is shown on the author's word alone.** An engine starts on a table of earlier
runs and handles whatever comes. Every profile it answers with goes back to one event of
its author, of this run or an earlier one: it says what that event says, it is marked as
verified only if the domain of its address named the author when the event came, and it
has a link only if payments were taken there. And the table is again one to start on. -/
theorem shown_profiles_checked (hselect : NostrEngine.FindsRows F) {earlier : List Notification}
    {table : NostrProfileRecords}
    (htable : ∀ r ∈ table.rows, ∃ u, MadeFrom F earlier u ∧ r = u.record) {env : NostrEnv}
    {inputs : List (NostrEnv × NostrInput)} {s : NostrEngine}
    (run : NostrEngine.processEvents F.toNostrEngineFns (engineEvents F inputs)
      (.started F.toNostrEngineFns env table) = .ok s) :
    (∀ response, .api (.nostrProfileSearchResponse response) ∈ s.bankTxSender →
      ∀ p ∈ response.data, ∃ n ∈ earlier ++ notifications inputs, ShownFrom F n p) ∧
    ∀ r ∈ s.dbPool.rows, ∃ u, MadeFrom F (earlier ++ notifications inputs) u ∧ r = u.record := by
  have hstart : (NostrEngine.started F.toNostrEngineFns env table).Vouched F
      (earlier ++ notifications inputs) := by
    refine NostrEngine.vouched_started fun r hr => ?_
    obtain ⟨u, hu, rfl⟩ := htable r hr
    exact ⟨u, hu.mono (List.subset_append_left _ _), rfl⟩
  have hvouched : s.Vouched F (earlier ++ notifications inputs) := by
    refine NostrEngine.processEvents_invariant (fun e he s s' hs hs' => ?_) run hstart
    refine hs.processEvent hselect (fun u hu => ?_) hs'
    exact (madeFrom_of_engineEvents he hu).mono (List.subset_append_right _ _)
  refine ⟨fun response hmem p hp => ?_, hvouched.table⟩
  obtain ⟨u, hu, rfl⟩ := hvouched.shown response hmem p hp
  obtain ⟨n, hn, hupdate⟩ := hu
  exact ⟨n, hn, shownFrom_of_update hupdate⟩

namespace NostrEngine

namespace Sample

/-- A profile that says of itself that it is verified. -/
def boast : NostrProfile :=
  { noProfile with
    name := some "ann"
    nip05 := some "ann@example.org"
    lud16 := some "ann@example.org"
    nip05Verified := some true }

def checkFns : CheckFns where
  toNostrEngineFns :=
    { searchFns with
      parseProfile := fun content => if content = "boast" then some boast else none }
  nip05Names body :=
    if body = "names" then some fun name => if name = "ann" then some "aa" else none else none
  lnUrlPay body :=
    if body = "pay" then some ⟨"https://example.org/pay", 1000, 1, "[]", "payRequest"⟩ else none
  isUrl _ := true
  isMetadata _ := true
  lnurlEncode url := some url
  lnurlDecode text := some text
  toUppercase text := text

def web : WebCall → String → Option String
  | .nip05, _ => some "names"
  | _, _ => some "pay"

/-- Ann says it, and so does another. -/
def boasts : List (NostrEnv × NostrInput) :=
  [(env 1, .notification ⟨METADATA_KIND, "aa", "boast", 5, 1, web⟩ true),
    (env 2, .notification ⟨METADATA_KIND, "bb", "boast", 6, 2, web⟩ true),
    (env 3, .message (.api (.nostrProfileRequest ⟨1, some "aa", none⟩))),
    (env 3, .message (.api (.nostrProfileRequest ⟨2, some "bb", none⟩)))]

def boasted : Checked NostrEngine :=
  processEvents checkFns.toNostrEngineFns (engineEvents checkFns boasts)
    (started checkFns.toNostrEngineFns (env 0) Table.empty)

/-- How the profiles in a message are marked. -/
def marksIn : Message → List (Option Bool)
  | .api (.nostrProfileSearchResponse response) => response.data.map (·.profile.nip05Verified)
  | _ => []

theorem boasted_marks : boasted.toOption.map (fun s => s.bankTxSender.map marksIn) =
    some [[some true], [some false]] := by
  decide +kernel

theorem checkFns_findsRows : FindsRows checkFns := by
  intro table pubkey text limit r hr
  have hfound := NostrProfileRecord.isFound_searchByText Like.asciiFolding (List.map Char.toLower)
    table pubkey text limit
  have hr : r ∈ NostrProfileRecord.searchByText Like.asciiFolding (List.map Char.toLower) table
      pubkey text limit := hr
  unfold NostrProfileRecord.IsFound at hfound
  split at hfound
  next =>
    rw [hfound] at hr
    exact absurd hr List.not_mem_nil
  next => exact List.mem_of_mem_filter (hfound.mem hr)

end Sample

end NostrEngine

/-- Both are shown, marked as the domain said; what is shown goes back to what they
wrote. -/
theorem shown_profiles_checked_sample : ∃ s : NostrEngine,
    s.bankTxSender.map NostrEngine.Sample.marksIn = [[some true], [some false]] ∧
    ∀ response, .api (.nostrProfileSearchResponse response) ∈ s.bankTxSender →
      ∀ p ∈ response.data, ∃ n ∈ notifications NostrEngine.Sample.boasts,
        ShownFrom NostrEngine.Sample.checkFns n p := by
  have hmarks := NostrEngine.Sample.boasted_marks
  cases hrun : NostrEngine.Sample.boasted with
  | error e =>
    rw [hrun] at hmarks
    exact absurd hmarks (by simp [Except.toOption])
  | ok s =>
    rw [hrun] at hmarks
    have htable : ∀ r ∈ (Table.empty : NostrProfileRecords).rows,
        ∃ u, MadeFrom NostrEngine.Sample.checkFns [] u ∧ r = u.record :=
      fun r hr => absurd hr List.not_mem_nil
    have hchecked := shown_profiles_checked NostrEngine.Sample.checkFns_findsRows htable hrun
    exact ⟨s, Option.some.inj hmarks, hchecked.1⟩

end Lndhubx
