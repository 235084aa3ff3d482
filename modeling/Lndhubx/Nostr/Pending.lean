import Lndhubx.Nostr.Engine

/-!
# Pending profile requests

A request for a profile that is not cached is noted with its time, and answered when
the profile comes in while the API still waits (`API_PROFILE_TIMEOUT`). Every stored
profile, of whatever key, is also the occasion to clear the notes, and there the
comparison is the wrong way round: `retain` keeps the notes that are old and drops
those that are young. So a request waits for the next profile, and no longer
(`Waiting`, `Forgotten`): it is answered exactly if that one is the profile it asks
for (`pending_request_answered_iff`).
-/

namespace Lndhubx

theorem NostrEngineEvent.eq_of_update? {event : NostrEngineEvent} {u : NostrProfileUpdate}
    (h : event.update? = some u) : event = .nostrProfileUpdate u := by
  cases event with
  | nostrProfileUpdate v =>
    injection h with h
    rw [h]
  | lndhubxMessage _ => exact absurd h (by simp [update?])
  | internalNostrProfileRequest _ => exact absurd h (by simp [update?])

namespace NostrEngine

variable {fns : NostrEngineFns} {env : NostrEnv} {event : NostrEngineEvent}
  {s s' : NostrEngine} {pubkey : String} {id : RequestId} {t : UInt64}

/-- A `NostrProfileSearchResponse` with this id has been sent. -/
def Answered (id : RequestId) (s : NostrEngine) : Prop :=
  ∃ response : NostrProfileSearchResponse,
    .api (.nostrProfileSearchResponse response) ∈ s.bankTxSender ∧ response.reqId = id

/-- Nothing of the request is left or was sent. -/
structure Forgotten (id : RequestId) (s : NostrEngine) : Prop where
  pending : ∀ pubkey t id', s.nostrProfilePending pubkey = some (t, id') → id' ≠ id
  unanswered : ¬Answered id s

/-- The request is noted for its key, which is not cached, and not answered. -/
structure Waiting (pubkey : String) (t : UInt64) (id : RequestId) (s : NostrEngine) : Prop where
  noted : s.nostrProfilePending pubkey = some (t, id)
  uncached : s.nostrProfileCache pubkey = none
  others : ∀ pubkey' t' id', pubkey' ≠ pubkey → s.nostrProfilePending pubkey' = some (t', id') →
    id' ≠ id
  unanswered : ¬Answered id s

/-! ## What is sent -/

theorem answered_sendToBank (message : Message) :
    Answered id (s.sendToBank message) ↔ Answered id s ∨ ∃ response : NostrProfileSearchResponse,
      message = .api (.nostrProfileSearchResponse response) ∧ response.reqId = id := by
  unfold Answered sendToBank
  constructor
  · intro h
    obtain ⟨response, hmem, hid⟩ := h
    rcases List.mem_append.mp hmem with hmem | hmem
    · exact .inl ⟨response, hmem, hid⟩
    · exact .inr ⟨response, (List.mem_singleton.mp hmem).symm, hid⟩
  · intro h
    rcases h with ⟨response, hmem, hid⟩ | ⟨response, rfl, hid⟩
    · exact ⟨response, List.mem_append_left _ hmem, hid⟩
    · exact ⟨response, by simp, hid⟩

theorem answered_foundProfile (id' : RequestId) (u : NostrProfileUpdate) :
    Answered id (s.sendToBank (foundProfile id' u)) ↔ Answered id s ∨ id' = id := by
  rw [answered_sendToBank]
  unfold foundProfile
  simp

theorem replyIfPending_answered (u : NostrProfileUpdate) :
    Answered id (replyIfPending env u s) ↔ Answered id s ∨
      ∃ t, s.nostrProfilePending u.pubkey = some (t, id) ∧
        env.timeNow - t < API_PROFILE_TIMEOUT := by
  unfold replyIfPending
  cases hp : s.nostrProfilePending u.pubkey with
  | none => simp
  | some noted =>
    obtain ⟨t, id'⟩ := noted
    show Answered id (if _ then _ else _) ↔ _
    by_cases helapsed : env.timeNow - t < API_PROFILE_TIMEOUT
    · rw [if_pos helapsed, answered_foundProfile]
      constructor
      · exact Or.imp_right fun e => ⟨t, by rw [e], helapsed⟩
      · intro h
        obtain h | ⟨t', he, _⟩ := h
        · exact .inl h
        · injection he with he
          injection he with _ he
          exact .inr he
    · rw [if_neg helapsed]
      constructor
      · exact .inl
      · intro h
        obtain h | ⟨t', he, ht'⟩ := h
        · exact h
        · injection he with he
          injection he with he _
          rw [he] at helapsed
          exact absurd ht' helapsed

/-- A stored profile sends at most the answer to the request noted for its key. -/
theorem storeProfile_answered (u : NostrProfileUpdate) :
    Answered id (storeProfile env u s) ↔ Answered id s ∨ inserted u s = true ∧
      ∃ t, s.nostrProfilePending u.pubkey = some (t, id) ∧
        env.timeNow - t < API_PROFILE_TIMEOUT := by
  have hcached : Answered id (storeProfile env u s) ↔ Answered id (cacheProfile env u s) := by
    unfold storeProfile Answered
    cases env.conn && env.query <;> rfl
  rw [hcached]
  unfold cacheProfile
  cases inserted u s with
  | true =>
    rw [if_pos rfl, replyIfPending_answered]
    simp only [true_and]
    exact Iff.rfl
  | false => simp

theorem storeProfile_pending (u : NostrProfileUpdate) :
    (storeProfile env u s).nostrProfilePending pubkey =
      (s.nostrProfilePending pubkey).filter (retained env) := by
  have hcached : (cacheProfile env u s).nostrProfilePending = s.nostrProfilePending := by
    unfold cacheProfile replyIfPending
    split
    · split
      · rfl
      · split <;> rfl
    · rfl
  rw [← hcached]
  unfold storeProfile
  show (NostrEngine.nostrProfilePending (if _ then _ else _) pubkey).filter _ = _
  split <;> rfl

/-- What was sent stays sent. -/
theorem Answered.step (h : processEvent fns env event s = .ok s') (hs : Answered id s) :
    Answered id s' := by
  cases event with
  | nostrProfileUpdate u =>
    injection h with h
    rw [← h, storeProfile_answered]
    exact .inl hs
  | lndhubxMessage message =>
    rcases processMessage_cases h with ⟨_, rfl⟩ | ⟨_, _, rfl⟩ | ⟨_, _, _, _, _, _, rfl⟩
    · exact hs
    · exact (answered_sendToBank _).mpr (.inl hs)
    · exact hs
  | internalNostrProfileRequest request =>
    injection h with h
    obtain ⟨_, hcalls⟩ := requestUserProfile_eq fns request s
    rw [← h, hcalls]
    exact hs

/-- A response under another id. -/
theorem not_answered_sendToBank {response : NostrProfileSearchResponse} (hid : response.reqId ≠ id)
    (hs : ¬Answered id s) :
    ¬Answered id (s.sendToBank (.api (.nostrProfileSearchResponse response))) := by
  intro h
  rcases (answered_sendToBank _).mp h with h | ⟨response', heq, hid'⟩
  · exact hs h
  · injection heq with heq
    injection heq with heq
    rw [heq] at hid
    exact hid hid'

/-! ## One event -/

/-- A request of which nothing is left stays so while no event carries its id. -/
theorem Forgotten.step (hid : event.reqId? ≠ some id) (h : processEvent fns env event s = .ok s')
    (hs : Forgotten id s) : Forgotten id s' := by
  cases event with
  | nostrProfileUpdate u =>
    injection h with h
    rw [← h]
    constructor
    · intro pubkey t id' hp
      rw [storeProfile_pending, Option.filter_eq_some_iff] at hp
      exact hs.pending pubkey t id' hp.1
    · rw [storeProfile_answered]
      rintro (hans | ⟨_, t, hp, _⟩)
      · exact hs.unanswered hans
      · exact hs.pending u.pubkey t id hp rfl
  | lndhubxMessage message =>
    rcases processMessage_cases h with ⟨_, rfl⟩ | ⟨response, hresponse, rfl⟩ |
      ⟨req, pubkey', _, rfl, hkey, hnone, rfl⟩
    · exact ⟨hs.pending, hs.unanswered⟩
    · rw [hresponse] at hid
      exact ⟨hs.pending, not_answered_sendToBank (fun e => hid (by rw [e])) hs.unanswered⟩
    · refine ⟨?_, hs.unanswered⟩
      intro pubkey t id' hp
      change Function.update s.nostrProfilePending pubkey' _ pubkey = _ at hp
      by_cases hpk : pubkey = pubkey'
      · rw [hpk, Function.update_self] at hp
        injection hp with hp
        injection hp with _ hp
        rw [← hp]
        exact fun e => hid (by rw [← e]; rfl)
      · rw [Function.update_of_ne hpk] at hp
        exact hs.pending pubkey t id' hp
  | internalNostrProfileRequest request =>
    injection h with h
    obtain ⟨_, hcalls⟩ := requestUserProfile_eq fns request s
    rw [← h, hcalls]
    exact ⟨hs.pending, hs.unanswered⟩

/-- A request for a key that is not cached, under a new id. -/
theorem Forgotten.request {req : NostrProfileRequest} (hkey : req.pubkey = some pubkey)
    (hnone : s.nostrProfileCache pubkey = none) (hs : Forgotten req.reqId s) :
    Waiting pubkey env.timeNow req.reqId (profileRequest fns env req s) := by
  have hnoted : ∃ calls, profileRequest fns env req s =
      { s with
        nostrProfilePending :=
          Function.update s.nostrProfilePending pubkey (some (env.timeNow, req.reqId))
        nostrClient := calls } := by
    unfold profileRequest
    simp only [hkey, hnone]
    exact requestUserProfile_eq _ _ _
  obtain ⟨calls, hnoted⟩ := hnoted
  rw [hnoted]
  refine ⟨Function.update_self .., hnone, ?_, hs.unanswered⟩
  intro pubkey' t' id' hne hp
  change Function.update s.nostrProfilePending pubkey _ pubkey' = _ at hp
  rw [Function.update_of_ne hne] at hp
  exact hs.pending pubkey' t' id' hp

/-- Events that are no profiles, nor requests under the same id or for the same key. -/
theorem Waiting.step (hevent : event.update? = none) (hid : event.reqId? ≠ some id)
    (hkey : ∀ req, event = .lndhubxMessage (.api (.nostrProfileRequest req)) →
      req.pubkey ≠ some pubkey)
    (h : processEvent fns env event s = .ok s') (hs : Waiting pubkey t id s) :
    Waiting pubkey t id s' := by
  cases event with
  | nostrProfileUpdate u => exact absurd hevent (by simp [NostrEngineEvent.update?])
  | lndhubxMessage message =>
    rcases processMessage_cases h with ⟨_, rfl⟩ | ⟨response, hresponse, rfl⟩ |
      ⟨req, pubkey', _, rfl, hreq, hnone, rfl⟩
    · exact ⟨hs.noted, hs.uncached, hs.others, hs.unanswered⟩
    · rw [hresponse] at hid
      exact ⟨hs.noted, hs.uncached, hs.others,
        not_answered_sendToBank (fun e => hid (by rw [e])) hs.unanswered⟩
    · have hne : pubkey ≠ pubkey' := fun e => hkey req rfl (by rw [hreq, e])
      refine ⟨(Function.update_of_ne hne _ _).trans hs.noted, hs.uncached, ?_, hs.unanswered⟩
      intro key t' id' hk hp
      change Function.update s.nostrProfilePending pubkey' _ key = _ at hp
      by_cases hpk : key = pubkey'
      · rw [hpk, Function.update_self] at hp
        injection hp with hp
        injection hp with _ hp
        rw [← hp]
        exact fun e => hid (by rw [← e]; rfl)
      · rw [Function.update_of_ne hpk] at hp
        exact hs.others key t' id' hk hp
  | internalNostrProfileRequest request =>
    injection h with h
    obtain ⟨_, hcalls⟩ := requestUserProfile_eq fns request s
    rw [← h, hcalls]
    exact ⟨hs.noted, hs.uncached, hs.others, hs.unanswered⟩

/-- A clock reading while the API waits for a request of time `t`. -/
def InTime (t reading : UInt64) : Prop :=
  t ≤ reading ∧ reading.toNat < t.toNat + API_PROFILE_TIMEOUT.toNat

theorem InTime.elapsed {reading : UInt64} (h : InTime t reading) :
    (reading - t).toNat < API_PROFILE_TIMEOUT.toNat := by
  rw [UInt64.toNat_sub_of_le _ _ h.1]
  have hle : t.toNat ≤ reading.toNat := UInt64.le_iff_toNat_le.mp h.1
  have hlt := h.2
  omega

/-- The profile asked for, in time. -/
theorem Waiting.update_self {u : NostrProfileUpdate} (htime : InTime t env.timeNow)
    (hkey : u.pubkey = pubkey) (hs : Waiting pubkey t id s) :
    Answered id (storeProfile env u s) := by
  rw [storeProfile_answered]
  refine .inr ⟨?_, t, by rw [hkey, hs.noted], UInt64.lt_iff_toNat_lt.mpr htime.elapsed⟩
  unfold inserted
  rw [hkey, hs.uncached]

/-- Any other profile clears the note, for it is young. -/
theorem Waiting.update_other {u : NostrProfileUpdate} (htime : InTime t env.timeNowMs)
    (hkey : u.pubkey ≠ pubkey) (hs : Waiting pubkey t id s) :
    Forgotten id (storeProfile env u s) := by
  constructor
  · intro pubkey' t' id' hp
    rw [storeProfile_pending, Option.filter_eq_some_iff] at hp
    obtain ⟨hp, hretained⟩ := hp
    by_cases hpk : pubkey' = pubkey
    · rw [hpk, hs.noted] at hp
      injection hp with hp
      injection hp with ht
      have hold : (2 * API_PROFILE_TIMEOUT).toNat ≤ (env.timeNowMs - t).toNat := by
        rw [← ht] at hretained
        exact UInt64.le_iff_toNat_le.mp (of_decide_eq_true hretained)
      have hyoung := htime.elapsed
      have htwice : (2 * API_PROFILE_TIMEOUT).toNat = 2 * API_PROFILE_TIMEOUT.toNat := by decide
      omega
    · exact hs.others pubkey' t' id' hpk hp
  · rw [storeProfile_answered]
    intro h
    obtain h | ⟨_, t', hp, _⟩ := h
    · exact hs.unanswered h
    · exact hs.others u.pubkey t' id hkey hp rfl

/-! ## Runs -/

theorem Forgotten.run {events : List (NostrEnv × NostrEngineEvent)}
    (hid : ∀ e ∈ events, e.2.reqId? ≠ some id) (h : processEvents fns events s = .ok s')
    (hs : Forgotten id s) : Forgotten id s' :=
  processEvents_invariant (fun e he _ _ hm hstep => hm.step (hid e he) hstep) h hs

/-- The profile of a list of events that comes first. -/
def firstUpdate (events : List (NostrEnv × NostrEngineEvent)) : Option NostrProfileUpdate :=
  events.findSome? fun e => e.2.update?

/-- From the noting of a request on, in time: it is answered exactly if the first profile
stored is the one it asks for. The induction is on the events before the profile `u`. -/
theorem Waiting.answered_iff {events : List (NostrEnv × NostrEngineEvent)} {last : NostrEnv}
    {u : NostrProfileUpdate} (hu : u.pubkey = pubkey)
    (hid : ∀ e ∈ events, e.2.reqId? ≠ some id)
    (hkey : ∀ e ∈ events, ∀ req, e.2 = .lndhubxMessage (.api (.nostrProfileRequest req)) →
      req.pubkey ≠ some pubkey)
    (htime : ∀ e ∈ events, InTime t e.1.timeNow ∧ InTime t e.1.timeNowMs)
    (hlast : InTime t last.timeNow) (hs : Waiting pubkey t id s)
    (h : processEvents fns (events ++ [(last, .nostrProfileUpdate u)]) s = .ok s') :
    Answered id s' ↔
      ∃ v, firstUpdate (events ++ [(last, .nostrProfileUpdate u)]) = some v ∧
        v.pubkey = pubkey := by
  induction events generalizing s with
  | nil =>
    injection h with h
    rw [← h]
    exact ⟨fun _ => ⟨u, rfl, hu⟩, fun _ => hs.update_self hlast hu⟩
  | cons e events ih =>
    obtain ⟨env, event⟩ := e
    obtain ⟨m, hfirst, hrest⟩ := processEvents_cons.mp h
    cases hevent : event.update? with
    | none =>
      -- no profile yet, so the request goes on waiting
      have hm : Waiting pubkey t id m :=
        hs.step hevent (hid (env, event) (by simp)) (hkey (env, event) (by simp)) hfirst
      have hskip : firstUpdate ((env, event) :: events ++ [(last, .nostrProfileUpdate u)]) =
          firstUpdate (events ++ [(last, .nostrProfileUpdate u)]) := by
        unfold firstUpdate
        rw [List.cons_append, List.findSome?_cons, hevent]
      rw [hskip]
      exact ih (fun e he => hid e (List.mem_cons_of_mem _ he))
        (fun e he => hkey e (List.mem_cons_of_mem _ he))
        (fun e he => htime e (List.mem_cons_of_mem _ he)) hm hrest
    | some v =>
      have hhead : firstUpdate ((env, event) :: events ++ [(last, .nostrProfileUpdate u)]) =
          some v := by
        unfold firstUpdate
        rw [List.cons_append, List.findSome?_cons, hevent]
      rw [hhead]
      obtain rfl := NostrEngineEvent.eq_of_update? hevent
      injection hfirst with hfirst
      obtain ⟨htime₁, htime₂⟩ := htime (env, .nostrProfileUpdate v) (by simp)
      by_cases hvkey : v.pubkey = pubkey
      · have hm : Answered id m := by
          rw [← hfirst]
          exact hs.update_self htime₁ hvkey
        have hans : Answered id s' :=
          processEvents_invariant (fun _ _ _ _ hans hstep => hans.step hstep) hrest hm
        exact ⟨fun _ => ⟨v, rfl, hvkey⟩, fun _ => hans⟩
      · have hm : Forgotten id m := by
          rw [← hfirst]
          exact hs.update_other htime₂ hvkey
        -- another profile came first: the request is dropped, and no answer follows
        have hforgotten : Forgotten id s' := by
          apply hm.run ?_ hrest
          intro e he
          rcases List.mem_append.mp he with he | he
          · exact hid e (List.mem_cons_of_mem _ he)
          · rw [List.mem_singleton.mp he]
            simp [NostrEngineEvent.reqId?]
        constructor
        · exact fun hans => absurd hans hforgotten.unanswered
        · intro hfor
          obtain ⟨w, hw, hwkey⟩ := hfor
          injection hw with hw
          rw [← hw] at hwkey
          exact absurd hwkey hvkey

/-- The clock does not go back: the readings of a list of events, in order. -/
def Clocked (events : List (NostrEnv × NostrEngineEvent)) : Prop :=
  (events.flatMap fun e => [e.1.timeNow, e.1.timeNowMs]).Pairwise (· ≤ ·)

/-- Between two events, the readings lie between theirs. -/
theorem Clocked.between {first last : NostrEnv × NostrEngineEvent}
    {events : List (NostrEnv × NostrEngineEvent)} (h : Clocked (first :: (events ++ [last]))) :
    first.1.timeNow ≤ last.1.timeNow ∧ ∀ e ∈ events,
      (first.1.timeNow ≤ e.1.timeNow ∧ e.1.timeNow ≤ last.1.timeNow) ∧
        first.1.timeNow ≤ e.1.timeNowMs ∧ e.1.timeNowMs ≤ last.1.timeNow := by
  unfold Clocked at h
  rw [List.flatMap_cons, List.flatMap_append, List.cons_append, List.pairwise_cons] at h
  obtain ⟨hfirst, h⟩ := h
  rw [List.cons_append, List.nil_append, List.pairwise_cons, List.pairwise_append] at h
  obtain ⟨_, _, _, hlast⟩ := h
  have hmem : ∀ e ∈ events, ∀ r ∈ [e.1.timeNow, e.1.timeNowMs],
      r ∈ events.flatMap fun e => [e.1.timeNow, e.1.timeNowMs] :=
    fun e he r hr => List.mem_flatMap.mpr ⟨e, he, hr⟩
  refine ⟨hfirst _ (by simp), fun e he => ⟨⟨hfirst _ ?_, ?_⟩, hfirst _ ?_, ?_⟩⟩
  · simp [hmem e he e.1.timeNow]
  · exact hlast _ (hmem e he _ (by simp)) _ (by simp)
  · simp [hmem e he e.1.timeNowMs]
  · exact hlast _ (hmem e he _ (by simp)) _ (by simp)

theorem new_forgotten (table : NostrProfileRecords) : Forgotten id (new table) :=
  ⟨fun _ _ _ h => absurd h (by simp [new]), fun ⟨_, h, _⟩ => absurd h (by simp [new])⟩

theorem started_forgotten (table : NostrProfileRecords) :
    Forgotten id (started fns env table) := by
  have h : Forgotten id (new table) := new_forgotten table
  unfold started initializeProfileCache
  split
  · exact ⟨h.pending, h.unanswered⟩
  · exact h

/-- A request for the profile of a key that is not cached, under an id of its own and with
no later one for the key, and a profile of the key that comes in while the API waits: a
response with the id is sent exactly if the first profile stored after the request, of
whatever key, is one of this key. -/
theorem pending_request_answered_iff {table : NostrProfileRecords} {env₀ env last : NostrEnv}
    {before events : List (NostrEnv × NostrEngineEvent)} {req : NostrProfileRequest}
    {u : NostrProfileUpdate} {s : NostrEngine}
    (hbefore : processEvents fns before (started fns env₀ table) = .ok s)
    (hreq : req.pubkey = some pubkey) (huncached : s.nostrProfileCache pubkey = none)
    (hu : u.pubkey = pubkey)
    (hid : ∀ e ∈ before ++ events, e.2.reqId? ≠ some req.reqId)
    (hlater : ∀ e ∈ events, ∀ r, e.2 = .lndhubxMessage (.api (.nostrProfileRequest r)) →
      r.pubkey ≠ some pubkey)
    (hclock : Clocked ((env, .lndhubxMessage (.api (.nostrProfileRequest req))) ::
      (events ++ [(last, .nostrProfileUpdate u)])))
    (htime : last.timeNow.toNat < env.timeNow.toNat + API_PROFILE_TIMEOUT.toNat)
    (h : processEvents fns (before ++ (env, .lndhubxMessage (.api (.nostrProfileRequest req))) ::
      (events ++ [(last, .nostrProfileUpdate u)])) (started fns env₀ table) = .ok s') :
    Answered req.reqId s' ↔
      ∃ v, firstUpdate (events ++ [(last, .nostrProfileUpdate u)]) = some v ∧
        v.pubkey = pubkey := by
  obtain ⟨m, hm, hrest⟩ := processEvents_append.mp h
  obtain rfl : s = m := Except.ok.inj (hbefore.symm.trans hm)
  obtain ⟨s₁, hnoted, hrest⟩ := processEvents_cons.mp hrest
  have hforgotten : Forgotten req.reqId s :=
    (started_forgotten table).run (fun e he => hid e (List.mem_append_left _ he)) hbefore
  have hwaiting : Waiting pubkey env.timeNow req.reqId s₁ := by
    injection hnoted with hnoted
    rw [← hnoted]
    exact hforgotten.request hreq huncached
  obtain ⟨hlast, hbetween⟩ := hclock.between
  apply hwaiting.answered_iff hu (fun e he => hid e (List.mem_append_right _ he)) hlater ?_
    ⟨hlast, htime⟩ hrest
  intro e he
  obtain ⟨⟨h₁, h₂⟩, h₃, h₄⟩ := hbetween e he
  exact ⟨⟨h₁, Nat.lt_of_le_of_lt (UInt64.le_iff_toNat_le.mp h₂) htime⟩,
    ⟨h₃, Nat.lt_of_le_of_lt (UInt64.le_iff_toNat_le.mp h₄) htime⟩⟩

/-! ### A profile of another key in between -/

/-- A request for the profile of `a`, under the id 7. -/
def Sample.request : NostrProfileRequest where
  reqId := 7
  pubkey := some "a"
  lightningAddress := none

def Sample.requestEvent : NostrEngineEvent := .lndhubxMessage (.api (.nostrProfileRequest request))

/-- The profile comes two milliseconds after the request, one after another profile: no
response is ever sent. -/
theorem pending_request_forgotten :
    ¬∀ (table : NostrProfileRecords) (fns : NostrEngineFns) (env₀ env last : NostrEnv)
      (before events : List (NostrEnv × NostrEngineEvent)) (req : NostrProfileRequest)
      (u : NostrProfileUpdate) (pubkey : String) (s s' : NostrEngine),
      processEvents fns before (started fns env₀ table) = .ok s → req.pubkey = some pubkey →
      s.nostrProfileCache pubkey = none → u.pubkey = pubkey →
      (∀ e ∈ before ++ events, e.2.reqId? ≠ some req.reqId) →
      (∀ e ∈ events, ∀ r, e.2 = .lndhubxMessage (.api (.nostrProfileRequest r)) →
        r.pubkey ≠ some pubkey) →
      Clocked ((env, .lndhubxMessage (.api (.nostrProfileRequest req))) ::
        (events ++ [(last, .nostrProfileUpdate u)])) →
      last.timeNow.toNat < env.timeNow.toNat + API_PROFILE_TIMEOUT.toNat →
      processEvents fns (before ++ (env, .lndhubxMessage (.api (.nostrProfileRequest req))) ::
        (events ++ [(last, .nostrProfileUpdate u)])) (started fns env₀ table) = .ok s' →
      s'.nostrProfileCache pubkey = some u → Answered req.reqId s' := by
  intro h
  obtain ⟨_, hmem, _⟩ := h Table.empty Sample.fns (Sample.env 0) (Sample.env 1) (Sample.env 3) []
    [(Sample.env 2, .nostrProfileUpdate (Sample.profile "b" 2 none))] Sample.request
    (Sample.profile "a" 3 none) "a" _ _ rfl rfl rfl rfl (by simp [NostrEngineEvent.reqId?])
    (by simp) (by unfold Clocked; decide) (by decide) rfl rfl
  exact absurd hmem (List.not_mem_nil)

/-- The profile comes two milliseconds after the request, and nothing in between. -/
theorem pending_request_answered :
    ∃ s', processEvents Sample.fns [(Sample.env 1, Sample.requestEvent),
      (Sample.env 3, .nostrProfileUpdate (Sample.profile "a" 3 none))]
        (started Sample.fns (Sample.env 0) Table.empty) = .ok s' ∧
      Answered Sample.request.reqId s' := by
  have hbefore : processEvents Sample.fns [] (started Sample.fns (Sample.env 0) Table.empty) =
      .ok (started Sample.fns (Sample.env 0) Table.empty) := rfl
  have hrun : ∃ s', processEvents Sample.fns ([] ++ (Sample.env 1, Sample.requestEvent) ::
      ([] ++ [(Sample.env 3, .nostrProfileUpdate (Sample.profile "a" 3 none))]))
        (started Sample.fns (Sample.env 0) Table.empty) = .ok s' := ⟨_, rfl⟩
  obtain ⟨s', hrun⟩ := hrun
  refine ⟨s', hrun, ?_⟩
  apply (pending_request_answered_iff hbefore rfl rfl rfl (by simp) (by simp)
    (by unfold Clocked; decide) (by decide) hrun).mpr
  exact ⟨Sample.profile "a" 3 none, rfl, rfl⟩

end NostrEngine

end Lndhubx
