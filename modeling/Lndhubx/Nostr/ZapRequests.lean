import Lndhubx.Nostr

/-!
# Which zap requests are accepted

A zap request should be of the right kind, name whom it is for, be about one event at
most, list the relays its note is wanted on, and ask for the amount of the invoice if
it asks for one (`IsZapRequest`). `validateZapRequest` reads the tags in one pass and
keeps what the last `relays` and the last `amount` tag say (`readTags_relays`,
`readTags_amount`); the note then goes to the relays of the first `relays` tag.

Repeated tags are where this goes wrong: an earlier amount is not looked at, an amount
that cannot be read counts as none, and a last list of relays hides or replaces the
ones before it. `zap_validation_exact_iff` says that these are all the cases.
-/

namespace Lndhubx

/-- The number that an `amount` tag carries; no number, if it cannot be read. -/
def EventTag.amount? : EventTag → Option (Option Nat)
  | .generic kind values => if kind = "amount" then some (values.head?.bind parseU64) else none
  | .pubKey => none
  | .event => none
  | .other => none

namespace NostrEvent

/-- The lists of the `relays` tags. -/
def relayLists (event : NostrEvent) : List (List String) := event.tags.filterMap EventTag.relays?

/-- What the `amount` tags carry. -/
def amounts (event : NostrEvent) : List (Option Nat) := event.tags.filterMap EventTag.amount?

/-- The list that is kept of the `relays` tags. -/
def lastRelays (event : NostrEvent) : List String := event.relayLists.getLast?.getD []

/-- The number that is kept of the `amount` tags. -/
def lastAmount (event : NostrEvent) : Option Nat := event.amounts.getLast?.getD none

/-- The list that a note is sent to. -/
def firstRelays (event : NostrEvent) : List String := event.relayLists.head?.getD []

/-- Kind, pubkey tags and event tags of a zap request. -/
structure Addressed (event : NostrEvent) : Prop where
  kind : event.kind = ZAP_REQUEST_KIND
  pubkey : 1 ≤ event.tags.count .pubKey
  events : event.tags.count .event ≤ 1

/-- What a zap request over an amount should be. -/
structure IsZapRequest (event : NostrEvent) (amount : Nat) : Prop extends event.Addressed where
  relays : ∃ relays ∈ event.relayLists, relays ≠ []
  amounts : ∀ n ∈ event.amounts, n = some amount

end NostrEvent

/-! ## One pass over the tags -/

theorem read_pubkeys (acc : ZapTags) (tag : EventTag) :
    (acc.read tag).pubkeyTagsCount = acc.pubkeyTagsCount + [tag].count .pubKey := by
  cases tag with
  | generic kind values =>
    simp only [ZapTags.read]
    split
    · simp
    · split <;> simp
  | pubKey => rfl
  | event => rfl
  | other => rfl

theorem read_events (acc : ZapTags) (tag : EventTag) :
    (acc.read tag).eventTagsCount = acc.eventTagsCount + [tag].count .event := by
  cases tag with
  | generic kind values =>
    simp only [ZapTags.read]
    split
    · simp
    · split <;> simp
  | pubKey => rfl
  | event => rfl
  | other => rfl

/-- One tag leaves its own list of relays, or the one that was there. -/
theorem read_relays (acc : ZapTags) (tag : EventTag) :
    (acc.read tag).relays = tag.relays?.getD acc.relays := by
  cases tag with
  | generic kind values =>
    simp only [ZapTags.read, EventTag.relays?]
    split
    · rfl
    · split <;> rfl
  | pubKey => rfl
  | event => rfl
  | other => rfl

theorem read_amount (acc : ZapTags) (tag : EventTag) :
    (acc.read tag).amount = tag.amount?.getD acc.amount := by
  cases tag with
  | generic kind values =>
    simp only [ZapTags.read, EventTag.amount?]
    by_cases hrelays : kind = "relays"
    · have hamount : kind ≠ "amount" := by
        rw [hrelays]
        decide
      rw [if_pos hrelays, if_neg hamount]
      rfl
    · rw [if_neg hrelays]
      split <;> rfl
  | pubKey => rfl
  | event => rfl
  | other => rfl

theorem readTags_pubkeys (tags : List EventTag) (acc : ZapTags) :
    (tags.foldl ZapTags.read acc).pubkeyTagsCount =
      acc.pubkeyTagsCount + tags.count .pubKey := by
  induction tags using List.reverseRecOn with
  | nil => rfl
  | append_singleton tags tag ih =>
    rw [List.foldl_append, List.foldl_cons, List.foldl_nil, read_pubkeys, ih, List.count_append,
      Nat.add_assoc]

theorem readTags_events (tags : List EventTag) (acc : ZapTags) :
    (tags.foldl ZapTags.read acc).eventTagsCount = acc.eventTagsCount + tags.count .event := by
  induction tags using List.reverseRecOn with
  | nil => rfl
  | append_singleton tags tag ih =>
    rw [List.foldl_append, List.foldl_cons, List.foldl_nil, read_events, ih, List.count_append,
      Nat.add_assoc]

theorem readTags_relays (tags : List EventTag) (acc : ZapTags) :
    (tags.foldl ZapTags.read acc).relays =
      (tags.filterMap EventTag.relays?).getLast?.getD acc.relays := by
  induction tags using List.reverseRecOn with
  | nil => rfl
  | append_singleton tags tag ih =>
    rw [List.foldl_append, List.foldl_cons, List.foldl_nil, read_relays, ih, List.filterMap_append]
    cases h : tag.relays? with
    | none => simp [h]
    | some relays => simp [h]

theorem readTags_amount (tags : List EventTag) (acc : ZapTags) :
    (tags.foldl ZapTags.read acc).amount =
      (tags.filterMap EventTag.amount?).getLast?.getD acc.amount := by
  induction tags using List.reverseRecOn with
  | nil => rfl
  | append_singleton tags tag ih =>
    rw [List.foldl_append, List.foldl_cons, List.foldl_nil, read_amount, ih, List.filterMap_append]
    cases h : tag.amount? with
    | none => simp [h]
    | some n => simp [h]

/-! ## What is accepted -/

section Accepted

variable {fns : NostrFns} {json : String} {event : NostrEvent} {amount : Nat}

/-- A parsed request is accepted by its last list of relays and its last amount. -/
theorem validateZapRequest_eq_ok_iff (hparsed : fns.eventFromJson json = .ok event) :
    validateZapRequest fns json amount = .ok event ↔
      event.Addressed ∧ event.lastRelays ≠ [] ∧
        ∀ n, event.lastAmount = some n → n = amount := by
  have hpubkeys : (event.tags.foldl ZapTags.read {}).pubkeyTagsCount =
      event.tags.count .pubKey := (readTags_pubkeys event.tags {}).trans (Nat.zero_add _)
  have hevents : (event.tags.foldl ZapTags.read {}).eventTagsCount = event.tags.count .event :=
    (readTags_events event.tags {}).trans (Nat.zero_add _)
  have hrelays : (event.tags.foldl ZapTags.read {}).relays = event.lastRelays :=
    readTags_relays event.tags {}
  have hamount : (event.tags.foldl ZapTags.read {}).amount = event.lastAmount :=
    readTags_amount event.tags {}
  -- what the fold over the tags has found, in terms of the tags
  unfold validateZapRequest
  rw [hparsed]
  dsimp only
  rw [hpubkeys, hevents, hrelays, hamount]
  constructor
  · intro h
    split at h
    · exact absurd h (by simp)
    next hkind =>
      split at h
      · exact absurd h (by simp)
      next =>
        split at h
        · exact absurd h (by simp)
        next hpubkey =>
          split at h
          · exact absurd h (by simp)
          next hevent =>
            split at h
            · exact absurd h (by simp)
            next hlast =>
              have haddressed : event.Addressed :=
                ⟨not_not.mp hkind, Nat.not_lt.mp hpubkey, Nat.not_lt.mp hevent⟩
              refine ⟨haddressed, hlast, ?_⟩
              intro n hn
              rw [hn] at h
              by_contra hne
              simp [hne] at h
  · intro h
    obtain ⟨haddressed, hlast, hn⟩ := h
    have hpubkey := haddressed.pubkey
    have hevent := haddressed.events
    -- a request with a key has a tag
    have htags : event.tags ≠ [] := by
      intro hnil
      rw [hnil] at hpubkey
      exact absurd hpubkey (by simp)
    rw [if_neg (not_not.mpr haddressed.kind), if_neg htags, if_neg (Nat.not_lt.mpr hpubkey),
      if_neg (Nat.not_lt.mpr hevent), if_neg hlast]
    cases hamount : event.lastAmount with
    | none => rfl
    | some n =>
      rw [hn n hamount]
      simp

end Accepted

/-- An accepted request has a first list of relays, and its note goes there. -/
theorem createZapNote_relays {fns : NoteFns} {json : String} {event : NostrEvent} {amount : Nat}
    (hsigns : ∀ note, fns.signs note = true)
    (hvalid : validateZapRequest fns.toNostrFns json amount = .ok event)
    (hlast : event.lastRelays ≠ []) (bolt11 : String) (preimage : Option String) (time : Nat) :
    ∃ note, createZapNote fns amount json (fns.digest json) bolt11 preimage time =
      .ok (.ok (note, event.firstRelays)) := by
  have hfirst : event.tags.findSome? EventTag.relays? = some event.firstRelays := by
    have hhead : event.tags.findSome? EventTag.relays? = event.relayLists.head? :=
      (List.head?_filterMap).symm
    unfold NostrEvent.firstRelays
    cases hlists : event.relayLists with
    | nil =>
      unfold NostrEvent.lastRelays at hlast
      rw [hlists] at hlast
      exact absurd rfl hlast
    | cons relays rest =>
      rw [hhead, hlists]
      rfl
  unfold createZapNote
  rw [if_neg (not_not.mpr rfl), hvalid]
  dsimp only
  rw [hfirst]
  dsimp only
  rw [if_pos (hsigns _)]
  exact ⟨_, rfl⟩

/-- Acceptance is exact, and the note of an accepted request goes to the relays that
were accepted. -/
structure ZapExact (fns : NoteFns) (json : String) (event : NostrEvent) (amount : Nat) :
    Prop where
  accepted : validateZapRequest fns.toNostrFns json amount = .ok event ↔
    event.IsZapRequest amount
  published : validateZapRequest fns.toNostrFns json amount = .ok event →
    event.lastRelays ≠ [] ∧ ∀ bolt11 preimage time, ∃ note,
      createZapNote fns amount json (fns.digest json) bolt11 preimage time =
        .ok (.ok (note, event.lastRelays))

/-- A request with the right kind, pubkey and event tags whose repeated tags do not
disagree: what the last ones let through, the others would too, and the first list of
relays is the last. -/
structure TagsAgree (event : NostrEvent) (amount : Nat) : Prop where
  /-- Nothing is hidden by a last amount that is missing, unreadable or right. -/
  passes : event.lastRelays ≠ [] → (∀ n, event.lastAmount = some n → n = amount) →
    (∀ n ∈ event.amounts, n = some amount) ∧ event.firstRelays = event.lastRelays
  /-- No list of relays is hidden by a last one that is empty. -/
  shown : (∃ relays ∈ event.relayLists, relays ≠ []) → (∀ n ∈ event.amounts, n = some amount) →
    event.lastRelays ≠ []

theorem lastRelays_mem {event : NostrEvent} (h : event.lastRelays ≠ []) :
    event.lastRelays ∈ event.relayLists := by
  unfold NostrEvent.lastRelays at h ⊢
  cases hlast : event.relayLists.getLast? with
  | none =>
    rw [hlast] at h
    exact absurd rfl h
  | some relays => exact List.mem_of_getLast? hlast

/-- Where every amount is right, so is the last. -/
theorem lastAmount_of_all {event : NostrEvent} {amount : Nat}
    (h : ∀ n ∈ event.amounts, n = some amount) :
    ∀ n, event.lastAmount = some n → n = amount := by
  intro n hn
  unfold NostrEvent.lastAmount at hn
  cases hlast : event.amounts.getLast? with
  | none =>
    rw [hlast] at hn
    exact absurd hn (by simp)
  | some last =>
    rw [hlast, h last (List.mem_of_getLast? hlast)] at hn
    exact (Option.some.inj hn).symm

/-- For every parsed event and every amount, validation and publication are exact if and
only if kind, pubkey tags or event tags rule the request out, or its tags agree. -/
theorem zap_validation_exact_iff {fns : NoteFns} {json : String} {event : NostrEvent}
    (hparsed : fns.eventFromJson json = .ok event) (hsigns : ∀ note, fns.signs note = true)
    (amount : Nat) :
    ZapExact fns json event amount ↔ (event.Addressed → TagsAgree event amount) := by
  have hvalid : validateZapRequest fns.toNostrFns json amount = .ok event ↔ _ :=
    validateZapRequest_eq_ok_iff hparsed
  constructor
  · intro hexact haddressed
    constructor
    · intro hlast hamount
      have hok := hvalid.mpr ⟨haddressed, hlast, hamount⟩
      refine ⟨(hexact.accepted.mp hok).amounts, ?_⟩
      obtain ⟨note, hnote⟩ := createZapNote_relays hsigns hok hlast "" none 0
      obtain ⟨note', hnote'⟩ := (hexact.published hok).2 "" none 0
      rw [hnote'] at hnote
      injection hnote with hnote
      injection hnote with hnote
      injection hnote with _ hrelays
      exact hrelays.symm
    · intro hrelays hamounts
      have hok := hexact.accepted.mpr ⟨haddressed, hrelays, hamounts⟩
      exact (hvalid.mp hok).2.1
  · intro h
    constructor
    · constructor
      · intro hok
        obtain ⟨haddressed, hlast, hamount⟩ := hvalid.mp hok
        obtain ⟨hamounts, -⟩ := (h haddressed).passes hlast hamount
        exact ⟨haddressed, ⟨_, lastRelays_mem hlast, hlast⟩, hamounts⟩
      · intro hzap
        have hagree := h hzap.toAddressed
        exact hvalid.mpr ⟨hzap.toAddressed, hagree.shown hzap.relays hzap.amounts,
          lastAmount_of_all hzap.amounts⟩
    · intro hok
      obtain ⟨haddressed, hlast, hamount⟩ := hvalid.mp hok
      obtain ⟨-, hfirst⟩ := (h haddressed).passes hlast hamount
      refine ⟨hlast, fun bolt11 preimage time => ?_⟩
      rw [← hfirst]
      exact createZapNote_relays hsigns hok hlast bolt11 preimage time

namespace Sample

/-- Any text is read as the given event, and every event can be signed. -/
def reading (event : NostrEvent) : NoteFns where
  eventFromJson := fun _ => .ok event
  getPubkeyHex := some
  digest := id
  signs := fun _ => true

/-- A zap request to one person, with more tags. -/
def zapEvent (tags : List EventTag) : NostrEvent := ⟨ZAP_REQUEST_KIND, .pubKey :: tags⟩

end Sample

/-- A request for 5, followed by a tag that cannot be read, passes for 10. -/
theorem zap_amount_hidden :
    ¬ZapExact (Sample.reading (Sample.zapEvent [.generic "relays" ["wss://a"],
        .generic "amount" ["5"], .generic "amount" ["ten"]])) ""
      (Sample.zapEvent [.generic "relays" ["wss://a"],
        .generic "amount" ["5"], .generic "amount" ["ten"]]) 10 := by
  intro h
  have hzap := h.accepted.mp rfl
  exact absurd (hzap.amounts (some 5) (by decide +kernel)) (by decide)

/-- Without repetitions there is nothing to hide. -/
theorem zap_validation_exact_sample :
    let event := Sample.zapEvent [.event, .generic "relays" ["wss://a", "wss://b"],
      .generic "amount" ["+10"]]
    ZapExact (Sample.reading event) "" event 10 := by
  intro event
  apply (zap_validation_exact_iff rfl (fun _ => rfl) 10).mpr
  intro _
  exact ⟨fun _ _ => ⟨by decide +kernel, rfl⟩, fun _ _ => by decide +kernel⟩

end Lndhubx
