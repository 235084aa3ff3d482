import Lndhubx.Nostr
import Lndhubx.Lib.Table

/-!
# The nostr engine

`nostr_engine/src/nostr_engine.rs` and the table behind it,
`models/src/nostr_profiles.rs`. The engine takes events off one channel, one at a
time: profiles seen on the relays (`NostrProfileUpdate`), messages of the bank, and
requests of its own indexer. Every profile goes into a cache and, by an upsert,
into the database; both keep the latest one of each public key, each by a rule of
its own (`entersCache`, `upsertReplaces`).

The times are the source's `u64`, the columns its `i64`, so the casts between them
are those of the machine. A subtraction of times wraps, as in a release build. The
hash maps are functions: no order of theirs is ever seen. JSON, keys and the text
search of the database are parameters (`NostrEngineFns`); what is sent to the bank
and to the relays is kept in the order sent.
-/

namespace Lndhubx

/-- How long a request waits for a profile. -/
def API_PROFILE_TIMEOUT : UInt64 := 5000

/-- What an event says of a profile. -/
structure NostrProfileUpdate where
  pubkey : String
  content : String
  createdAtEpochMs : UInt64
  receivedAtEpochMs : UInt64
  nostrProfile : NostrProfile
  validatedLnurlPayReq : Option String

/-- `ShareableNostrProfile::from`. -/
def NostrProfileUpdate.shareable (u : NostrProfileUpdate) : ShareableNostrProfile where
  pubkey := u.pubkey
  createdAt := u.createdAtEpochMs.toInt64.toInt.tdiv 1000
  profile := u.nostrProfile
  validatedLnurlPayReq := u.validatedLnurlPayReq

/-- A request of the engine to its client. -/
structure InternalNostrProfileRequest where
  pubkey : Option String
  since : Option Nat
  «until» : Option Nat
  limit : Option Nat

/-- What the engine works off. -/
inductive NostrEngineEvent where
  | nostrProfileUpdate (update : NostrProfileUpdate)
  | lndhubxMessage (message : Message)
  | internalNostrProfileRequest (request : InternalNostrProfileRequest)

/-- The request that an event carries and that is answered under its id. -/
def NostrEngineEvent.reqId? : NostrEngineEvent → Option RequestId
  | .lndhubxMessage (.api (.nostrProfileRequest req)) => some req.reqId
  | .lndhubxMessage (.api (.nostrProfileSearchRequest req)) => some req.reqId
  | _ => none

/-- The profile an event brings. -/
def NostrEngineEvent.update? : NostrEngineEvent → Option NostrProfileUpdate
  | .nostrProfileUpdate u => some u
  | _ => none

/-! ## `models/src/nostr_profiles.rs` -/

/-- A row of the table of profiles. -/
structure NostrProfileRecord where
  pubkey : String
  createdAt : Int64
  receivedAt : Int64
  name : Option String
  displayName : Option String
  nip05 : Option String
  lud16 : Option String
  nip05Verified : Option Bool
  content : String
  lnurlPayReq : Option String

/-- The table, one row for each key. -/
abbrev NostrProfileRecords := Table String NostrProfileRecord NostrProfileRecord.pubkey

namespace NostrProfileRecord

/-- The `WHERE` of the update after a conflict. -/
def upsertReplaces (n excluded : NostrProfileRecord) : Bool :=
  n.createdAt < excluded.createdAt ||
    (n.createdAt == excluded.createdAt &&
      n.nip05Verified.getD false != excluded.nip05Verified.getD false)

/-- The row of a key after a conflict with `excluded`. -/
def onConflict (excluded n : NostrProfileRecord) : NostrProfileRecord :=
  if upsertReplaces n excluded then { excluded with pubkey := n.pubkey } else n

/-- A conflict keeps the key. -/
theorem onConflict_pubkey (excluded n : NostrProfileRecord) :
    (onConflict excluded n).pubkey = n.pubkey := by
  unfold onConflict
  split <;> rfl

/-- `INSERT … ON CONFLICT`. -/
def upsert (record : NostrProfileRecord) (table : NostrProfileRecords) : NostrProfileRecords :=
  match table.insert record with
  | some inserted => inserted
  | none => table.modify record.pubkey record.onConflict (onConflict_pubkey record)

end NostrProfileRecord

/-- The row of a public key. -/
def NostrProfileRecords.row (table : NostrProfileRecords) (pubkey : String) :
    Option NostrProfileRecord :=
  table.find fun r => r.pubkey = pubkey

/-- `insert_profile_update`, up to the query. -/
def NostrProfileUpdate.record (u : NostrProfileUpdate) : NostrProfileRecord where
  pubkey := u.pubkey
  createdAt := u.createdAtEpochMs.toInt64
  receivedAt := u.receivedAtEpochMs.toInt64
  name := u.nostrProfile.name
  displayName := u.nostrProfile.displayName
  nip05 := u.nostrProfile.nip05
  lud16 := u.nostrProfile.lud16
  nip05Verified := u.nostrProfile.nip05Verified
  content := u.content
  lnurlPayReq := u.validatedLnurlPayReq

/-! ## The engine -/

/-- A call of the nostr client. -/
inductive NostrClientCall where
  | reqEventsOf (request : InternalNostrProfileRequest)
  | sendDirectMsg (pubkey : String) (text : PaidText)
  | sendZapNote (note : ZapNote) (relays : List String)

/-- What the engine calls and this model does not contain. -/
structure NostrEngineFns extends NoteFns where
  /-- `serde_json::from_str::<NostrProfile>` -/
  parseProfile : String → Option NostrProfile
  /-- `Keys::from_pk_str` -/
  isPkStr : String → Bool
  /-- The `SELECT` of `search_by_text`. -/
  selectByText : NostrProfileRecords → Option String → Option String → Option Nat →
    List NostrProfileRecord

/-- What the processing of one event finds outside the engine: two readings of the
clock, in this order, and which of its calls succeed. -/
structure NostrEnv where
  timeNow : UInt64
  timeNowMs : UInt64
  conn : Bool
  query : Bool
  sends : Bool

/-- The cache, the requests that wait, the table and what was sent. -/
structure NostrEngine where
  nostrProfileCache : String → Option NostrProfileUpdate
  nostrProfilePending : String → Option (UInt64 × RequestId)
  bankTxSender : List Message
  nostrClient : List NostrClientCall
  dbPool : NostrProfileRecords

namespace NostrEngine

/-- An engine that has seen nothing. -/
def new (dbPool : NostrProfileRecords) : NostrEngine where
  nostrProfileCache := fun _ => none
  nostrProfilePending := fun _ => none
  bankTxSender := []
  nostrClient := []
  dbPool

/-- A message to the bank. -/
def sendToBank (message : Message) (s : NostrEngine) : NostrEngine :=
  { s with bankTxSender := s.bankTxSender ++ [message] }

/-- A response with one profile. -/
def foundProfile (reqId : RequestId) (u : NostrProfileUpdate) : Message :=
  .api (.nostrProfileSearchResponse { reqId, data := [u.shareable], error := none })

/-- No request is made for a text that is no public key. -/
def requestUserProfile (fns : NostrEngineFns) (request : InternalNostrProfileRequest)
    (s : NostrEngine) : NostrEngine :=
  if request.pubkey.all fns.isPkStr then
    { s with nostrClient := s.nostrClient ++ [.reqEventsOf request] }
  else s

/-- Is a profile taken over an existing one of its key? -/
def entersCache (existing update : NostrProfileUpdate) : Bool :=
  existing.createdAtEpochMs < update.createdAtEpochMs ||
    (existing.createdAtEpochMs == update.createdAtEpochMs &&
      existing.nostrProfile.nip05Verified != update.nostrProfile.nip05Verified)

/-- The cache takes the update. -/
def inserted (u : NostrProfileUpdate) (s : NostrEngine) : Bool :=
  match s.nostrProfileCache u.pubkey with
  | some existing => entersCache existing u
  | none => true

/-- A request that waited for the profile is answered. -/
def replyIfPending (env : NostrEnv) (u : NostrProfileUpdate) (s : NostrEngine) : NostrEngine :=
  match s.nostrProfilePending u.pubkey with
  | none => s
  | some (pendingRequestTimeMs, reqId) =>
    if env.timeNow - pendingRequestTimeMs < API_PROFILE_TIMEOUT then
      s.sendToBank (foundProfile reqId u)
    else s

/-- What `retain` keeps of the pending requests. -/
def retained (env : NostrEnv) (pending : UInt64 × RequestId) : Bool :=
  2 * API_PROFILE_TIMEOUT ≤ env.timeNowMs - pending.1

/-- The first half of `store_profile`: the cache, and the answer to a pending request. -/
def cacheProfile (env : NostrEnv) (u : NostrProfileUpdate) (s : NostrEngine) : NostrEngine :=
  if inserted u s then
    replyIfPending env u
      { s with nostrProfileCache := Function.update s.nostrProfileCache u.pubkey (some u) }
  else s

/-- An update goes to the cache and to the table, and the pending requests are gone through. -/
def storeProfile (env : NostrEnv) (u : NostrProfileUpdate) (s : NostrEngine) : NostrEngine :=
  let s := cacheProfile env u s
  let s := if env.conn && env.query then { s with dbPool := u.record.upsert s.dbPool } else s
  { s with nostrProfilePending := fun pubkey =>
      (s.nostrProfilePending pubkey).filter (retained env) }

/-- A row read back as a profile; one without content, or with one that does not
parse, is none. -/
def profileOfRecord (fns : NostrEngineFns) (record : NostrProfileRecord) :
    Option NostrProfileUpdate :=
  if record.content = "" then none
  else (fns.parseProfile record.content).map fun profile =>
    { pubkey := record.pubkey
      content := record.content
      createdAtEpochMs := record.createdAt.toUInt64
      receivedAtEpochMs := record.receivedAt.toUInt64
      nostrProfile := { profile with nip05Verified := record.nip05Verified }
      validatedLnurlPayReq := record.lnurlPayReq }

/-- `collect` into a hash map: a later pair of the same key would win. -/
def collect (updates : List NostrProfileUpdate) : String → Option NostrProfileUpdate :=
  updates.foldl (fun cache u => Function.update cache u.pubkey (some u)) fun _ => none

/-- The table is read into the cache. -/
def initializeProfileCache (fns : NostrEngineFns) (env : NostrEnv) (s : NostrEngine) :
    NostrEngine :=
  if env.conn && env.query then
    { s with nostrProfileCache := collect (s.dbPool.rows.filterMap (profileOfRecord fns)) }
  else s

/-- The rows a search finds. -/
def searchProfileByText (fns : NostrEngineFns) (env : NostrEnv) (s : NostrEngine)
    (pubkey text : Option String) (limit : Option Nat) :
    Except Unit (List ShareableNostrProfile) :=
  if !env.conn then .error ()
  else if pubkey.isNone ∧ text.isNone then .ok []
  else if !env.query then .error ()
  else .ok ((fns.selectByText s.dbPool pubkey text limit).filterMap fun record =>
    (fns.parseProfile record.content).map fun profile =>
      { pubkey := record.pubkey
        createdAt := record.createdAt.toInt.tdiv 1000
        profile := { profile with nip05Verified := record.nip05Verified }
        validatedLnurlPayReq := record.lnurlPayReq })

/-- The relays of a note are told apart by the client's own list; to both kinds it is sent. -/
def sendZapNote (fns : NostrEngineFns) (zap : NostrZapNote) (s : NostrEngine) :
    Checked NostrEngine := do
  match ← createZapNote fns.toNoteFns zap.amount zap.description zap.descriptionHash zap.bolt11
      zap.preimage zap.settledTimestamp with
  | .ok (note, relays) =>
    return { s with nostrClient := s.nostrClient ++ [.sendZapNote note relays] }
  | .error _ => return s

/-- A message that cannot be sent ends the engine's task: both results are unwrapped. -/
def sendNostrPrivateMsg (fns : NostrEngineFns) (env : NostrEnv) (pubkey : String)
    (text : PaidText) (s : NostrEngine) : Checked NostrEngine :=
  if fns.isPkStr pubkey && env.sends then
    .ok { s with nostrClient := s.nostrClient ++ [.sendDirectMsg pubkey text] }
  else .error .unwrap

/-- A request for one profile: answered from the cache, or noted and asked of the relays. -/
def profileRequest (fns : NostrEngineFns) (env : NostrEnv) (req : NostrProfileRequest)
    (s : NostrEngine) : NostrEngine :=
  match req.pubkey with
  | none => s
  | some pubkey =>
    match s.nostrProfileCache pubkey with
    | some cached => s.sendToBank (foundProfile req.reqId cached)
    | none =>
      requestUserProfile fns
        { pubkey := some pubkey, since := none, «until» := none, limit := some 1 }
        { s with nostrProfilePending :=
            Function.update s.nostrProfilePending pubkey (some (env.timeNow, req.reqId)) }

/-- A message that the engine is sent. -/
def processMessage (fns : NostrEngineFns) (env : NostrEnv) (message : Message)
    (s : NostrEngine) : Checked NostrEngine :=
  match message with
  | .api (.nostrProfileRequest req) => .ok (profileRequest fns env req s)
  | .api (.nostrProfileSearchRequest req) =>
    let response : NostrProfileSearchResponse :=
      match searchProfileByText fns env s req.pubkey req.text req.limit with
      | .ok profiles => { reqId := req.reqId, data := profiles, error := none }
      | .error _ => { reqId := req.reqId, data := [], error := some .profileNotFound }
    .ok (s.sendToBank (.api (.nostrProfileSearchResponse response)))
  | .nostr (.nostrProfilesRefetchRequest req) =>
    .ok (requestUserProfile fns
      { pubkey := req.pubkey
        since := req.sinceEpochMs.map (· / 1000)
        «until» := req.untilEpochMs.map (· / 1000)
        limit := req.limit } s)
  | .nostr (.nostrPrivateMessage req) => sendNostrPrivateMsg fns env req.pubkey req.text s
  | .nostr (.nostrZapNote zap) => sendZapNote fns zap s
  | _ => .ok s

/-- One event. -/
def processEvent (fns : NostrEngineFns) (env : NostrEnv) (event : NostrEngineEvent)
    (s : NostrEngine) : Checked NostrEngine :=
  match event with
  | .nostrProfileUpdate update => .ok (storeProfile env update s)
  | .lndhubxMessage message => processMessage fns env message s
  | .internalNostrProfileRequest request => .ok (requestUserProfile fns request s)

/-- Events one after the other, each with what its processing finds. -/
def processEvents (fns : NostrEngineFns) (events : List (NostrEnv × NostrEngineEvent))
    (s : NostrEngine) : Checked NostrEngine :=
  events.foldlM (fun s e => processEvent fns e.1 e.2 s) s

/-- The engine as it starts on a table. -/
def started (fns : NostrEngineFns) (env : NostrEnv) (table : NostrProfileRecords) :
    NostrEngine :=
  initializeProfileCache fns env (new table)

/-! ## What an event does -/

/-- What a request for a profile does, as one equation. -/
theorem requestUserProfile_eq (fns : NostrEngineFns) (request : InternalNostrProfileRequest)
    (s : NostrEngine) :
    ∃ calls, requestUserProfile fns request s = { s with nostrClient := calls } := by
  unfold requestUserProfile
  split
  · exact ⟨_, rfl⟩
  · exact ⟨s.nostrClient, rfl⟩

/-- A message at most makes a call of the client, sends a response under its own id,
or notes a request for a key that is not cached. -/
theorem processMessage_cases {fns : NostrEngineFns} {env : NostrEnv} {message : Message}
    {s s' : NostrEngine} (h : processMessage fns env message s = .ok s') :
    (∃ calls, s' = { s with nostrClient := calls }) ∨
    (∃ response : NostrProfileSearchResponse,
      (NostrEngineEvent.lndhubxMessage message).reqId? = some response.reqId ∧
        s' = s.sendToBank (.api (.nostrProfileSearchResponse response))) ∨
    ∃ req pubkey calls, message = .api (.nostrProfileRequest req) ∧ req.pubkey = some pubkey ∧
      s.nostrProfileCache pubkey = none ∧ s' =
        { s with
          nostrProfilePending :=
            Function.update s.nostrProfilePending pubkey (some (env.timeNow, req.reqId))
          nostrClient := calls } := by
  unfold processMessage at h
  split at h
  next req =>
    injection h with h
    subst h
    unfold profileRequest
    split
    · exact .inl ⟨s.nostrClient, rfl⟩
    next pubkey hkey =>
      split
      next cached _ =>
        exact .inr (.inl ⟨⟨req.reqId, [cached.shareable], none⟩, rfl, rfl⟩)
      next hnone =>
        obtain ⟨calls, hcalls⟩ := requestUserProfile_eq fns
          { pubkey := some pubkey, since := none, «until» := none, limit := some 1 }
          { s with nostrProfilePending :=
              Function.update s.nostrProfilePending pubkey (some (env.timeNow, req.reqId)) }
        exact .inr (.inr ⟨req, pubkey, calls, rfl, hkey, hnone, hcalls⟩)
  next req =>
    injection h with h
    subst h
    refine .inr (.inl ⟨_, ?_, rfl⟩)
    split <;> rfl
  next req =>
    injection h with h
    subst h
    exact .inl (requestUserProfile_eq _ _ _)
  next req =>
    unfold sendNostrPrivateMsg at h
    split at h
    · injection h with h
      exact .inl ⟨_, h.symm⟩
    · exact absurd h (by simp)
  next zap =>
    unfold sendZapNote at h
    obtain ⟨result, _, h⟩ := Checked.bind_eq_ok.mp h
    split at h
    · injection h with h
      exact .inl ⟨_, h.symm⟩
    · injection h with h
      exact .inl ⟨s.nostrClient, h.symm⟩
  next =>
    injection h with h
    exact .inl ⟨s.nostrClient, h.symm⟩

section runs

variable {fns : NostrEngineFns} {events : List (NostrEnv × NostrEngineEvent)}
  {e : NostrEnv × NostrEngineEvent} {s s' : NostrEngine}

/-- Events one after the other. -/
theorem processEvents_append {later : List (NostrEnv × NostrEngineEvent)} :
    processEvents fns (events ++ later) s = .ok s' ↔
      ∃ m, processEvents fns events s = .ok m ∧ processEvents fns later m = .ok s' := by
  unfold processEvents
  rw [List.foldlM_append, Checked.bind_eq_ok]

/-- The first event, and then the rest. -/
theorem processEvents_cons :
    processEvents fns (e :: events) s = .ok s' ↔
      ∃ m, processEvent fns e.1 e.2 s = .ok m ∧ processEvents fns events m = .ok s' := by
  unfold processEvents
  rw [List.foldlM_cons, Checked.bind_eq_ok]

/-- One event more. -/
theorem processEvents_snoc :
    processEvents fns (events ++ [e]) s = .ok s' ↔
      ∃ m, processEvents fns events s = .ok m ∧ processEvent fns e.1 e.2 m = .ok s' := by
  unfold processEvents
  rw [List.foldlM_append, Checked.bind_eq_ok]
  simp only [List.foldlM_cons, List.foldlM_nil, bind_pure]

/-- What every event of a run keeps, the run keeps. -/
theorem processEvents_invariant {I : NostrEngine → Prop}
    (hstep : ∀ e ∈ events, ∀ s s', I s → processEvent fns e.1 e.2 s = .ok s' → I s')
    (h : processEvents fns events s = .ok s') (hs : I s) : I s' := by
  induction events generalizing s with
  | nil =>
    injection h with h
    rw [← h]
    exact hs
  | cons e events ih =>
    obtain ⟨m, hfirst, hrest⟩ := processEvents_cons.mp h
    have hm : I m := hstep e (by simp) s m hs hfirst
    exact ih (fun e' he' => hstep e' (List.mem_cons_of_mem _ he')) hrest hm

end runs

/-! ## Sample profiles -/

namespace Sample

def noProfile : NostrProfile where
  banner := none
  website := none
  lud06 := none
  nip05 := none
  picture := none
  displayName := none
  about := none
  name := none
  lud16 := none
  nip05Verified := none

def fns : NostrEngineFns where
  eventFromJson := fun _ => .error .json
  getPubkeyHex := fun _ => none
  digest := id
  signs := fun _ => true
  parseProfile := fun _ => some noProfile
  isPkStr := fun _ => true
  selectByText := fun _ _ _ _ => []

def env (t : UInt64) : NostrEnv where
  timeNow := t
  timeNowMs := t
  conn := true
  query := true
  sends := true

/-- A profile of `pubkey` made at `t`. -/
def profile (pubkey : String) (t : UInt64) (verified : Option Bool) : NostrProfileUpdate where
  pubkey
  content := "\x7b\x7d"
  createdAtEpochMs := t
  receivedAtEpochMs := t
  nostrProfile := { noProfile with nip05Verified := verified }
  validatedLnurlPayReq := none

end Sample

end NostrEngine

end Lndhubx
