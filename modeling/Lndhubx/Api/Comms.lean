import Lndhubx.Api.Routes
import Lndhubx.Bank.Outcome

/-!
# `CommsActor`: who gets which answer

`api/src/comms.rs`. The API and the bank exchange messages over sockets, and
`CommsActor` matches what comes back with who is waiting: a handler leaves its
"contact details" (a channel, its filter and the time), and every message from
the bank is given to all contacts whose filter accepts it, which are then
forgotten. Contacts whose handler has given up stay until a message matches or,
once there are too many, until they are too old.

`Gateway` is the API, the bank and the messages between them. Requests arrive,
the bank handles its messages and answers arrive in any order, and a handler may
give up at any time. A handler other than that of `/balance` is given the answer
to its own request, whatever happens (`HttpRequest.handle_correlates`). The
handler of `/balance` is given the next `Balances` message, so it is given its own
as long as no other request for balances is waiting when one arrives
(`own_answers_iff_separate`), and another user's otherwise (`balance_of_other_user`).
-/

namespace Lndhubx

/-- "Contact details" of a handler that waits: its channel and its filter, with
the request it serves. -/
structure Contact where
  channel : Nat
  request : HttpRequest
  envelope : Envelope
  created : Nat

namespace CommsActor

def FILTER_EXPIRATION_MILLIS : Nat := 5000

def FILTER_SIZE_LIMIT : Nat := 1000

/-- The contacts a message is sent to. -/
def matched (waiting : List Contact) (m : Message) : List Contact :=
  waiting.filter fun c => c.envelope.responseFilter m

/-- Only run the garbage collection when the vector is too big. -/
def collectGarbage (now : Nat) (waiting : List Contact) : List Contact :=
  if FILTER_SIZE_LIMIT < waiting.length then
    waiting.filter fun c => !decide (c.created + FILTER_EXPIRATION_MILLIS < now)
  else waiting

/-- The contacts left after a message. -/
def unmatched (waiting : List Contact) (m : Message) (now : Nat) : List Contact :=
  collectGarbage now (waiting.filter fun c => !c.envelope.responseFilter m)

theorem mem_of_mem_unmatched {waiting : List Contact} {m : Message} {now : Nat} {c : Contact}
    (h : c ∈ unmatched waiting m now) : c ∈ waiting := by
  unfold unmatched collectGarbage at h
  split at h
  · exact (List.mem_filter.mp (List.mem_filter.mp h).1).1
  · exact (List.mem_filter.mp h).1

end CommsActor

/-! ## The API and the bank -/

/-- What the bank sent to the API. -/
def toApiOf (s : State) : List Message := (s.sent.filter (·.2 = .api)).map (·.1)

structure Gateway where
  bank : State
  waiting : List Contact
  /-- The channels at which a handler is still waiting. -/
  listening : List Nat
  toBank : List Message
  toApi : List Message
  /-- The requests that were made, with the ids they drew. -/
  requests : List (Uuid × HttpRequest)
  /-- What the handlers were given. -/
  received : List (Contact × Message)

/-- The API is started next to a bank. -/
def Gateway.new (bank : State) : Gateway where
  bank
  waiting := []
  listening := []
  toBank := []
  toApi := []
  requests := []
  received := []

inductive GatewayEvent where
  | http (env : ApiEnv) (req : HttpRequest) (now : Nat)
  | request (d : Delivery)
  | other (d : Delivery)
  | answer (m : Message) (now : Nat)
  | timeout (channel : Nat)

/-- A request is made; the bank handles a message of the API, or one of another
sender (who does not ask for balances); an answer arrives; a handler gives up. -/
inductive GatewayStep (settings : ApiSettings) (cfg : Config) :
    Gateway → GatewayEvent → Gateway → Prop
  | http {g : Gateway} {env : ApiEnv} {req : HttpRequest} {now : Nat} {e : Envelope}
      {respond : Message → Option Body} (fresh : env.newV4 ∉ g.requests.map (·.1))
      (asks : req.handle settings env = .ok (.asked e respond)) :
      GatewayStep settings cfg g (.http env req now)
        { g with
          waiting := g.waiting ++ [⟨g.requests.length, req, e, now⟩]
          listening := g.listening ++ [g.requests.length]
          toBank := g.toBank ++ [e.message]
          requests := g.requests ++ [(env.newV4, req)] }
  | request {g : Gateway} {d : Delivery} {l l' : List Message} {s' : State}
      (queued : g.toBank = l ++ d.msg :: l') (step : Delivers cfg g.bank d s') :
      GatewayStep settings cfg g (.request d)
        { g with bank := s', toBank := l ++ l', toApi := g.toApi ++ toApiOf s' }
  | other {g : Gateway} {d : Delivery} {s' : State} (sender : ∀ m, d.msg ≠ .api (.getBalances m))
      (step : Delivers cfg g.bank d s') :
      GatewayStep settings cfg g (.other d) { g with bank := s', toApi := g.toApi ++ toApiOf s' }
  | answer {g : Gateway} {m : Message} {now : Nat} {l l' : List Message}
      (queued : g.toApi = l ++ m :: l') :
      GatewayStep settings cfg g (.answer m now)
        { g with
          toApi := l ++ l'
          waiting := CommsActor.unmatched g.waiting m now
          listening := g.listening.filter fun n =>
            !(CommsActor.matched g.waiting m).any (·.channel = n)
          received := g.received ++
            ((CommsActor.matched g.waiting m).filter (·.channel ∈ g.listening)).map (·, m) }
  | timeout {g : Gateway} {channel : Nat} :
      GatewayStep settings cfg g (.timeout channel)
        { g with listening := g.listening.filter (· ≠ channel) }

/-! ## Whose answer it is -/

/-- The message is the answer to the request of the contact; balances are those
of the owner of the token. -/
def OwnAnswer (c : Contact) (m : Message) : Prop :=
  m.reqId = c.envelope.message.reqId ∧
    ∀ auth b, c.request = .balance auth → m = .api (.balances b) → b.uid = asU64 auth.uid

/-- When balances arrive, the handler of no other request for balances is waiting. -/
def NoOtherBalance (g : Gateway) : GatewayEvent → Prop
  | .answer (.api (.balances b)) _ => ∀ c ∈ g.waiting, c.channel ∈ g.listening →
      ∀ auth, c.request = .balance auth → c.envelope.message.reqId = some b.reqId
  | _ => True

/-- The id was drawn for a request for balances, of this user. -/
def AskedFor (g : Gateway) (reqId : RequestId) (uid : UserId) : Prop :=
  ∃ auth, (reqId, .balance auth) ∈ g.requests ∧ uid = asU64 auth.uid

/-- A contact was left by the handler of its request. -/
def Registered (settings : ApiSettings) (g : Gateway) (c : Contact) : Prop :=
  ∃ env respond, c.request.handle settings env = .ok (.asked c.envelope respond) ∧
    (env.newV4, c.request) ∈ g.requests

/-- No id was drawn twice, and whatever is on its way about balances is about a
request that was made. -/
structure Correlated (settings : ApiSettings) (g : Gateway) : Prop where
  distinct : (g.requests.map (·.1)).Nodup
  registered : ∀ c ∈ g.waiting, Registered settings g c
  asked : ∀ m, .api (.getBalances m) ∈ g.toBank → AskedFor g m.reqId m.uid
  answers : ∀ b, .api (.balances b) ∈ g.toApi → AskedFor g b.reqId b.uid

variable {settings : ApiSettings} {cfg : Config} {g g' : Gateway}

theorem AskedFor.mono {reqId : RequestId} {uid : UserId} (h : AskedFor g reqId uid)
    (hsub : ∀ x ∈ g.requests, x ∈ g'.requests) : AskedFor g' reqId uid := by
  obtain ⟨auth, hmem, huid⟩ := h
  exact ⟨auth, hsub _ hmem, huid⟩

theorem Registered.mono {c : Contact} (h : Registered settings g c)
    (hsub : ∀ x ∈ g.requests, x ∈ g'.requests) : Registered settings g' c := by
  obtain ⟨env, respond, hasks, hmem⟩ := h
  exact ⟨env, respond, hasks, hsub _ hmem⟩

/-- A request that asks for balances is one of `/balance`. -/
theorem askedFor_of_handle {env : ApiEnv} {req : HttpRequest} {e : Envelope}
    {respond : Message → Option Body} (h : req.handle settings env = .ok (.asked e respond))
    {m : GetBalances} (hm : e.message = .api (.getBalances m)) :
    ∃ auth, req = .balance auth ∧ m = ⟨env.newV4, asU64 auth.uid⟩ := by
  by_cases hne : ∀ auth, req ≠ .balance auth
  · exact absurd hm ((req.handle_correlates h hne).2 m)
  · push Not at hne
    obtain ⟨auth, rfl⟩ := hne
    have hmsg := (HttpRequest.handle_balance h).1
    rw [hm] at hmsg
    injection hmsg with hmsg
    injection hmsg with hmsg
    exact ⟨auth, rfl, hmsg⟩

/-- Balances in the bank's answers are answers to a request for them. -/
theorem askedFor_of_delivers {d : Delivery} {s s' : State} (h : Delivers cfg s d s')
    (hd : ∀ m, d.msg = .api (.getBalances m) → AskedFor g m.reqId m.uid) {b : Balances}
    (hb : .api (.balances b) ∈ toApiOf s') : AskedFor g b.reqId b.uid := by
  obtain ⟨x, hx, hxb⟩ := List.mem_map.mp hb
  have hsent : SendsBalances s' b := ⟨x.2, by rw [← hxb]; exact (List.mem_filter.mp hx).1⟩
  obtain ⟨m, hm, hreq, huid⟩ := h.balances_of_request hsent
  rw [hreq, huid]
  exact hd m hm

theorem Correlated.new (bank : State) : Correlated settings (Gateway.new bank) where
  distinct := List.nodup_nil
  registered := by simp [Gateway.new]
  asked := by simp [Gateway.new]
  answers := by simp [Gateway.new]

theorem Correlated.step {a : GatewayEvent} (hg : Correlated settings g)
    (h : GatewayStep settings cfg g a g') : Correlated settings g' := by
  cases h with
  | @http env req now e respond fresh asks =>
    have hsub : ∀ x ∈ g.requests, x ∈ g.requests ++ [(env.newV4, req)] :=
      fun x hx => List.mem_append_left _ hx
    refine ⟨?_, ?_, ?_, fun b hb => (hg.answers b hb).mono hsub⟩
    · rw [List.map_append]
      refine List.nodup_append.mpr ⟨hg.distinct, by simp, ?_⟩
      intro x hx y hy e
      rw [List.map_singleton, List.mem_singleton] at hy
      rw [e, hy] at hx
      exact fresh hx
    · intro c hc
      rcases List.mem_append.mp hc with hc | hc
      · exact (hg.registered c hc).mono hsub
      · rw [List.mem_singleton.mp hc]
        exact ⟨env, respond, asks, by simp⟩
    · intro m hm
      rcases List.mem_append.mp hm with hm | hm
      · exact (hg.asked m hm).mono hsub
      · obtain ⟨auth, rfl, rfl⟩ := askedFor_of_handle asks (List.mem_singleton.mp hm).symm
        exact ⟨auth, by simp, rfl⟩
  | @request d l l' s' queued step =>
    have hmem : d.msg ∈ g.toBank := by rw [queued]; simp
    refine ⟨hg.distinct, hg.registered, fun m hm => hg.asked m ?_, fun b hb => ?_⟩
    · rw [queued]
      rcases List.mem_append.mp hm with hm | hm
      · exact List.mem_append_left _ hm
      · exact List.mem_append_right _ (List.mem_cons_of_mem _ hm)
    · rcases List.mem_append.mp hb with hb | hb
      · exact hg.answers b hb
      · refine askedFor_of_delivers step (fun m hm => hg.asked m ?_) hb
        rw [← hm]
        exact hmem
  | other sender step =>
    refine ⟨hg.distinct, hg.registered, hg.asked, fun b hb => ?_⟩
    rcases List.mem_append.mp hb with hb | hb
    · exact hg.answers b hb
    · exact askedFor_of_delivers step (fun m hm => absurd hm (sender m)) hb
  | answer queued =>
    refine ⟨hg.distinct, fun c hc => hg.registered c (CommsActor.mem_of_mem_unmatched hc), hg.asked,
      fun b hb => hg.answers b ?_⟩
    rw [queued]
    rcases List.mem_append.mp hb with hb | hb
    · exact List.mem_append_left _ hb
    · exact List.mem_append_right _ (List.mem_cons_of_mem _ hb)
  | timeout => exact ⟨hg.distinct, hg.registered, hg.asked, hg.answers⟩

/-- Ids are drawn once, so the one who asked under an id is the one. -/
theorem Correlated.eq_of_id (hg : Correlated settings g) {id : Uuid} {r r' : HttpRequest}
    (h : (id, r) ∈ g.requests) (h' : (id, r') ∈ g.requests) : r = r' := by
  have hinj := List.inj_on_of_nodup_map hg.distinct h h' rfl
  exact congrArg Prod.snd hinj

/-- A message given to a handler is its own answer, or balances given to the
handler of another request for balances. -/
theorem Correlated.ownAnswer_iff (hg : Correlated settings g) {c : Contact} {m : Message}
    (hc : c ∈ g.waiting) (hm : m ∈ g.toApi) (haccept : c.envelope.responseFilter m = true) :
    OwnAnswer c m ↔ ∀ auth b, c.request = .balance auth → m = .api (.balances b) →
      c.envelope.message.reqId = some b.reqId := by
  obtain ⟨env, respond, hasks, hreq⟩ := hg.registered c hc
  constructor
  · intro h auth b _ hb
    rw [← h.1, hb]
    rfl
  · intro h
    by_cases hne : ∀ auth, c.request ≠ .balance auth
    · exact ⟨(c.request.handle_correlates hasks hne).1 m haccept,
        fun auth b hauth => absurd hauth (hne auth)⟩
    · push Not at hne
      obtain ⟨auth, hauth⟩ := hne
      rw [hauth] at hasks hreq
      obtain ⟨hmsg, haccepts⟩ := HttpRequest.handle_balance hasks
      obtain ⟨b, rfl⟩ := (haccepts m).mp haccept
      have hid : c.envelope.message.reqId = some b.reqId := h auth b hauth rfl
      refine ⟨hid.symm, fun auth' b' hauth' hb' => ?_⟩
      injection hb' with hb'
      injection hb' with hb'
      subst hb'
      obtain ⟨auth'', hmem, huid⟩ := hg.answers b hm
      -- the id of the balances is the id this handler drew
      have hdrawn : env.newV4 = b.reqId := by
        rw [hmsg] at hid
        injection hid
      rw [← hdrawn] at hmem
      have hsame := hg.eq_of_id hreq hmem
      injection hsame with hsame
      rw [hauth] at hauth'
      injection hauth' with hauth'
      rw [huid, ← hauth', hsame]

/-- Every handler was given its own answer. -/
def OwnAnswers (g : Gateway) : Prop := ∀ x ∈ g.received, OwnAnswer x.1 x.2

/-- An answer that arrives goes to its own requester exactly if no other request
for balances is waiting. -/
theorem Correlated.ownAnswers_step_iff {a : GatewayEvent} (hg : Correlated settings g)
    (hown : OwnAnswers g) (h : GatewayStep settings cfg g a g') :
    OwnAnswers g' ↔ NoOtherBalance g a := by
  cases h with
  | http _ _ => exact ⟨fun _ => trivial, fun _ => hown⟩
  | request _ _ => exact ⟨fun _ => trivial, fun _ => hown⟩
  | other _ _ => exact ⟨fun _ => trivial, fun _ => hown⟩
  | timeout => exact ⟨fun _ => trivial, fun _ => hown⟩
  | @answer m now l l' queued =>
    have hm : m ∈ g.toApi := by rw [queued]; simp
    constructor
    · intro h'
      cases m with
      | api a =>
        cases a with
        | balances b =>
          intro c hc hlisten auth hauth
          obtain ⟨env, respond, hasks, -⟩ := hg.registered c hc
          rw [hauth] at hasks
          have haccept := ((HttpRequest.handle_balance hasks).2 (.api (.balances b))).mpr ⟨b, rfl⟩
          have hmem : (c, Message.api (.balances b)) ∈ g.received ++
              ((CommsActor.matched g.waiting (.api (.balances b))).filter
                (·.channel ∈ g.listening)).map (·, .api (.balances b)) := by
            refine List.mem_append_right _ (List.mem_map.mpr ⟨c, ?_, rfl⟩)
            exact List.mem_filter.mpr ⟨List.mem_filter.mpr ⟨hc, haccept⟩, by simpa using hlisten⟩
          exact (hg.ownAnswer_iff hc hm haccept).mp (h' _ hmem) auth b hauth rfl
        | _ => trivial
      | _ => trivial
    · intro hcond x hx
      rcases List.mem_append.mp hx with hx | hx
      · exact hown x hx
      · obtain ⟨c, hlistening, rfl⟩ := List.mem_map.mp hx
        obtain ⟨hmatched, hlisten⟩ := List.mem_filter.mp hlistening
        obtain ⟨hwaits, haccept⟩ := List.mem_filter.mp hmatched
        refine (hg.ownAnswer_iff hwaits hm haccept).mpr fun auth b hauth hb => ?_
        subst hb
        exact hcond c hwaits (by simpa using hlisten) auth hauth

/-! ## Runs -/

/-- A run of the API next to a bank. -/
abbrev GatewayRun (settings : ApiSettings) (cfg : Config) :
    Gateway → List GatewayEvent → Gateway → Prop := Trace (GatewayStep settings cfg)

/-- A run in which no other request for balances is waiting when balances arrive. -/
abbrev SeparateRun (settings : ApiSettings) (cfg : Config) :
    Gateway → List GatewayEvent → Gateway → Prop :=
  Trace fun g a g' => NoOtherBalance g a ∧ GatewayStep settings cfg g a g'

theorem Correlated.of_run {bank : State} {l : List GatewayEvent}
    (h : GatewayRun settings cfg (Gateway.new bank) l g) : Correlated settings g :=
  h.invariant (I := Correlated settings) (fun _ _ _ _ hg hstep => hg.step hstep) (.new bank)

/-- What was given stays given. -/
theorem GatewayStep.received {a : GatewayEvent} (h : GatewayStep settings cfg g a g') :
    ∀ x ∈ g.received, x ∈ g'.received := by
  intro x hx
  cases h with
  | answer _ => exact List.mem_append_left _ hx
  | _ => exact hx

/-- Every handler is given its own answer exactly in the runs in which requests
for balances do not overlap. -/
theorem own_answers_iff_separate {bank : State} {l : List GatewayEvent}
    (h : GatewayRun settings cfg (Gateway.new bank) l g) :
    OwnAnswers g ↔ SeparateRun settings cfg (Gateway.new bank) l g := by
  constructor
  · intro hown
    induction h with
    | nil => exact .nil _
    | snoc hrun hlast ih =>
      have hbefore : OwnAnswers _ := fun x hx => hown x (hlast.received x hx)
      refine .snoc (ih hbefore) ⟨?_, hlast⟩
      exact ((Correlated.of_run hrun).ownAnswers_step_iff hbefore hlast).mp hown
  · intro hsep
    have hboth : Correlated settings g ∧ OwnAnswers g := by
      refine hsep.invariant (I := fun g => Correlated settings g ∧ OwnAnswers g) ?_
        ⟨.new bank, by simp [OwnAnswers, Gateway.new]⟩
      intro g₁ a g₂ _ hg hstep
      exact ⟨hg.1.step hstep.2, (hg.1.ownAnswers_step_iff hg.2 hstep.2).mpr hstep.1⟩
    exact hboth.2

namespace Sample

/-- What a message tells about whose balances it holds. -/
def balancesOf : Message → Option (RequestId × UserId)
  | .api (.balances b) => some (b.reqId, b.uid)
  | _ => none

/-- A user asks for the balances. -/
theorem askBalance {g : Gateway} {l : List GatewayEvent} (id : Uuid) (uid : Int)
    (h : GatewayRun apiSettings config (Gateway.new state) l g)
    (hid : id ∉ g.requests.map (·.1)) :
    ∃ l' e, e.message = .api (.getBalances ⟨id, asU64 uid⟩) ∧
      (∀ b, e.responseFilter (.api (.balances b)) = true) ∧
      GatewayRun apiSettings config (Gateway.new state) l'
        { g with
          waiting := g.waiting ++ [⟨g.requests.length, .balance ⟨uid⟩, e, 0⟩]
          listening := g.listening ++ [g.requests.length]
          toBank := g.toBank ++ [e.message]
          requests := g.requests ++ [(id, .balance ⟨uid⟩)] } := by
  have hasks : ∃ e respond,
      (HttpRequest.balance ⟨uid⟩).handle apiSettings (apiEnv id) = .ok (.asked e respond) :=
    ⟨_, _, rfl⟩
  obtain ⟨e, respond, hasks⟩ := hasks
  obtain ⟨hmsg, haccepts⟩ := HttpRequest.handle_balance hasks
  exact ⟨_, e, hmsg, fun b => (haccepts _).mpr ⟨b, rfl⟩, .snoc h (.http hid hasks)⟩

/-- The bank answers the first request, and its answer arrives. -/
theorem answerFirst (rest : List Message) {g : Gateway} {l : List GatewayEvent}
    (h : GatewayRun apiSettings config (Gateway.new state) l g) (hbank : g.bank = state)
    (hqueue : g.toBank = .api (.getBalances ⟨1, 7⟩) :: rest) (hempty : g.toApi = []) :
    ∃ l' g' b, GatewayRun apiSettings config (Gateway.new state) l' g' ∧
      b.reqId = 1 ∧ b.uid = 7 ∧
      g'.received = g.received ++
        ((CommsActor.matched g.waiting (.api (.balances b))).filter
          (·.channel ∈ g.listening)).map (·, .api (.balances b)) := by
  obtain ⟨s', hstep, hsent⟩ := exists_delivers config
    ⟨Sample.env 1, .api (.getBalances ⟨1, 7⟩)⟩ state
    (fun s => (toApiOf s).map balancesOf = [some (1, 7)]) (by decide +kernel)
  obtain ⟨m, hm, hsent⟩ := List.map_eq_singleton_iff.mp hsent
  obtain ⟨b, rfl, hreq, huid⟩ : ∃ b, m = .api (.balances b) ∧ b.reqId = 1 ∧ b.uid = 7 := by
    unfold balancesOf at hsent
    split at hsent
    next b => exact ⟨b, rfl, by simpa using hsent⟩
    next => exact absurd hsent (by simp)
  rw [← hbank] at hstep
  have hanswered := h.snoc (.request (l := []) (d := ⟨_, _⟩) hqueue hstep)
  have harrives : g.toApi ++ toApiOf s' = [] ++ .api (.balances b) :: [] := by
    rw [hempty, hm]
  have hrun := hanswered.snoc
    (show GatewayStep _ _ _ (.answer (.api (.balances b)) 1) _ from .answer (l := []) harrives)
  exact ⟨_, _, b, hrun, hreq, huid, rfl⟩

end Sample

/-- One user asks, and is given the balances. -/
theorem own_answers_sample : ∃ l g,
    GatewayRun Sample.apiSettings Sample.config (Gateway.new Sample.state) l g ∧
      g.received ≠ [] ∧ SeparateRun Sample.apiSettings Sample.config
        (Gateway.new Sample.state) l g := by
  obtain ⟨l, e, hmsg, haccepts, hrun⟩ := Sample.askBalance 1 7 (.nil _) (by simp [Gateway.new])
  obtain ⟨l, g, b, hrun, hreq, huid, hreceived⟩ :=
    Sample.answerFirst [] hrun rfl (by simp [Gateway.new, hmsg, asU64]) rfl
  have hgiven : g.received = [(⟨0, .balance ⟨7⟩, e, 0⟩, .api (.balances b))] := by
    rw [hreceived]
    simp [CommsActor.matched, Gateway.new, haccepts]
  refine ⟨l, g, hrun, by rw [hgiven]; simp, (own_answers_iff_separate hrun).mp fun x hx => ?_⟩
  rw [hgiven, List.mem_singleton] at hx
  subst hx
  refine ⟨?_, fun auth b' hauth hb' => ?_⟩
  · show some b.reqId = e.message.reqId
    rw [hreq, hmsg]
    rfl
  · injection hauth with hauth
    injection hb' with hb'
    injection hb' with hb'
    rw [← hb', huid, ← hauth]
    decide

/-- Two users ask at once; the second is given the balances of the first. -/
theorem balance_of_other_user : ∃ l g c b,
    GatewayRun Sample.apiSettings Sample.config (Gateway.new Sample.state) l g ∧
      (c, .api (.balances b)) ∈ g.received ∧ c.request = .balance ⟨9⟩ ∧ b.uid = 7 ∧
      c.envelope.message.reqId ≠ some b.reqId := by
  obtain ⟨l, e, hmsg, haccepts, hrun⟩ := Sample.askBalance 1 7 (.nil _) (by simp [Gateway.new])
  obtain ⟨l, e', hmsg', haccepts', hrun⟩ :=
    Sample.askBalance 2 9 hrun (by simp [Gateway.new])
  obtain ⟨l, g, b, hrun, hreq, huid, hreceived⟩ :=
    Sample.answerFirst [e'.message] hrun rfl (by simp [Gateway.new, hmsg, asU64]) rfl
  refine ⟨l, g, ⟨1, .balance ⟨9⟩, e', 0⟩, b, hrun, ?_, rfl, huid, ?_⟩
  · rw [hreceived]
    simp [CommsActor.matched, Gateway.new, haccepts, haccepts']
  · rw [hmsg', hreq]
    simp [Message.reqId, Api.reqId]

end Lndhubx
