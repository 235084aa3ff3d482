import Lndhubx.Api.Sessions
import Lndhubx.Debits

/-!
# Whose money may be taken

`Sessions` says who may ask for a user, and `Debits` that money is taken for what was
asked. `Estate` has both: the API with its users and tokens, the bank and the dealer, and
between them the table `dca_settings` (`models/src/dca.rs`). `set_dca_settings` of
`routes/user.rs` writes it in two statements, each of which may fail, with anything in
between, and the bank reads it as it stands. What the bank and the API read of the other
tables is left open.

`taken_by_owner`: in every run, when money is taken from a user, the operator's transfers
apart, it is for a payment or a swap that was asked for with a token of hers, or for a
swap of a setting that was made with one. Whoever presented the token did it in its time,
and whoever got it knew the password she had registered with.
-/

namespace Lndhubx

open Prog

variable {τ : Type} {c : PortalConfig τ} {cfg : Config} {dcfg : DealerConfig}

/-! ## The table of settings -/

namespace DcaSetting

def delete (rows : List DcaSetting) (uid : Int) : List DcaSetting := rows.filter (·.uid ≠ uid)

/-- A user has one row at most. -/
def insert (rows : List DcaSetting) (row : DcaSetting) : List DcaSetting :=
  if rows.any (·.uid = row.uid) then rows else rows ++ [row]

theorem mem_of_mem_insert {rows : List DcaSetting} {row row' : DcaSetting}
    (h : row' ∈ insert rows row) : row' ∈ rows ∨ row' = row := by
  unfold insert at h
  split at h
  · exact .inl h
  · exact (List.mem_append.mp h).imp_right List.mem_singleton.mp

end DcaSetting

/-- A request between its statements: the old row is deleted, then the new one inserted. -/
structure Saving where
  row : DcaSetting
  deleted : Bool

/-- The row a request wants, if it gets as far as the database. -/
def Portal.setDcaSettings (c : PortalConfig τ) (conn : Bool) (now : Nat)
    (header : Authorization τ) (data : DcaSettingData) : Option DcaSetting := do
  let auth ← (AuthData.fromRequest c.jwt now header).toOption
  let row ← (Routes.setDcaSettings auth data).toOption
  if conn then some row else none

/-- Whose row is to be deleted. -/
def Portal.deleteDcaSettings (c : PortalConfig τ) (conn : Bool) (now : Nat)
    (header : Authorization τ) : Option Int := do
  let auth ← (AuthData.fromRequest c.jwt now header).toOption
  if conn then some (asI32 (asU64 auth.uid)) else none

/-! ## The estate -/

structure Estate (τ : Type) where
  portal : Portal τ
  settings : List DcaSetting
  savings : List Saving
  platform : Platform

/-- The statements of a request are taken by its place. -/
inductive EstateEvent (τ : Type) where
  | portal (e : PortalEvent)
  | request (env : ApiEnv) (now : Nat) (header : Authorization τ) (req : HttpRequest)
  | setDcaSettings (conn : Bool) (now : Nat) (header : Authorization τ) (data : DcaSettingData)
  | deleteDcaSettings (conn stored : Bool) (now : Nat) (header : Authorization τ)
  | statement (i : Nat) (stored : Bool)
  | platform (e : PlatformEvent)

namespace EstateEvent

def header? : EstateEvent τ → Option (Authorization τ)
  | request _ _ header _ => some header
  | setDcaSettings _ _ header _ => some header
  | deleteDcaSettings _ _ _ header => some header
  | _ => none

def portal? : EstateEvent τ → Option PortalEvent
  | portal e => some e
  | _ => none

end EstateEvent

/-- What happened to the users and their tokens. -/
def portalEvents (es : List (EstateEvent τ)) : List PortalEvent := es.filterMap (·.portal?)

namespace Estate

/-- No settings, and nothing on its way. -/
def start (seed : List UserRecord) (bank : State) (dealer : DealerState) : Estate τ where
  portal := .start seed
  settings := []
  savings := []
  platform := .start bank dealer

/-- The bank reads the settings as they stand. -/
def reading (x : Estate τ) (env : Env) : Env :=
  { env with directory := { env.directory with dcaSettings := x.settings } }

def reads (x : Estate τ) : PlatformEvent → PlatformEvent
  | .bank i env => .bank i (x.reading env)
  | .arrives d => .arrives { d with env := x.reading d.env }
  | .operator env msg => .operator (x.reading env) msg
  | e => e

/-- The next statement of the `i`-th request, if the database executes it. -/
def statement (x : Estate τ) (i : Nat) (saving : Saving) (stored : Bool) : Estate τ :=
  if saving.deleted then
    { x with
      savings := x.savings.eraseIdx i
      settings := if stored then DcaSetting.insert x.settings saving.row else x.settings }
  else
    { x with
      savings := x.savings.set i { saving with deleted := true }
      settings := if stored then DcaSetting.delete x.settings saving.row.uid else x.settings }

/-- The bank is asked by the API only, and the API only for a request. -/
def step (c : PortalConfig τ) (cfg : Config) (dcfg : DealerConfig) (x : Estate τ) :
    EstateEvent τ → Option (Estate τ)
  | .portal e => some { x with portal := x.portal.step c e }
  | .request env now header req =>
    match Portal.asks c env now header req with
    | some a => do
      let platform ← x.platform.step cfg dcfg (.ask a)
      return { x with platform }
    | none => some x
  | .setDcaSettings conn now header data =>
    match Portal.setDcaSettings c conn now header data with
    | some row => some { x with savings := x.savings ++ [⟨row, false⟩] }
    | none => some x
  | .deleteDcaSettings conn stored now header =>
    match Portal.deleteDcaSettings c conn now header with
    | some uid => some { x with
        settings := if stored then DcaSetting.delete x.settings uid else x.settings }
    | none => some x
  | .statement i stored => do
    let saving ← x.savings[i]?
    return x.statement i saving stored
  | .platform (.ask _) => none
  | .platform e => do
    let platform ← x.platform.step cfg dcfg (x.reads e)
    return { x with platform }

/-- For whom money was taken. -/
def takenBy (x : Estate τ) (e : EstateEvent τ) (x' : Estate τ) : List Subject :=
  match e with
  | .platform e => x.platform.takenBy (x.reads e) x'.platform
  | _ => []

/-- The bank handles a transfer of the operator's. -/
def Transfers (x : Estate τ) (e : EstateEvent τ) : Prop :=
  ∃ e' msg, e = .platform e' ∧ x.platform.handles (x.reads e') = some msg ∧ IsMakeTx msg

end Estate

/-- In a run no token is forged. -/
abbrev EstateRun (c : PortalConfig τ) (cfg : Config) (dcfg : DealerConfig) :
    Estate τ → List (EstateEvent τ) → Estate τ → Prop :=
  Trace fun x e x' => (∀ header, e.header? = some header → x.portal.NoForgery c header) ∧
    x.step c cfg dcfg e = some x'

/-! ## What was done with a token -/

/-- The token was presented in its time, with a request to make a setting. -/
def SettingMade (c : PortalConfig τ) (es : List (EstateEvent τ)) (g : Grant τ)
    (row : DcaSetting) : Prop :=
  ∃ conn now data, now ≤ g.now + g.lifetime ∧
    EstateEvent.setDcaSettings conn now (.text g.token) data ∈ es ∧
    Portal.setDcaSettings c conn now (.text g.token) data = some row

/-- The token was presented in its time, with a request that asks for the subject. -/
def Requested (c : PortalConfig τ) (es : List (EstateEvent τ)) (g : Grant τ) (σ : Subject) :
    Prop :=
  ∃ env now req a, now ≤ g.now + g.lifetime ∧
    EstateEvent.request env now (.text g.token) req ∈ es ∧
    Portal.asks c env now (.text g.token) req = some a ∧ σ ∈ a.subjects

/-- The token was presented for it, by itself or as one of the swaps of a setting. -/
def Presented (c : PortalConfig τ) (es : List (EstateEvent τ)) (g : Grant τ) (σ : Subject) :
    Prop :=
  Requested c es g σ ∨ σ.topic = .swap ∧ ∃ row, SettingMade c es g row

/-! ## What is kept -/

theorem Portal.step_grants (x : Portal τ) (e : PortalEvent) :
    ∃ new, (x.step c e).grants = x.grants ++ new := by
  cases e with
  | create env data =>
    unfold step
    dsimp only
    split
    next => exact ⟨[], (List.append_nil _).symm⟩
    next => exact ⟨[], (List.append_nil _).symm⟩
  | auth env data =>
    unfold step
    dsimp only
    split
    next => exact ⟨[], (List.append_nil _).symm⟩
    next => exact ⟨_, rfl⟩

/-- The column is an `i32`. -/
def Portal.Int4 (x : Portal τ) : Prop := ∀ u ∈ x.users, -2 ^ 31 ≤ u.uid ∧ u.uid < 2 ^ 31

theorem Portal.Int4.of_step {x : Portal τ} {e : PortalEvent} (h : (x.step c e).Int4) : x.Int4 := by
  intro u hu
  obtain ⟨new, hnew⟩ := x.step_users (c := c) e
  apply h
  rw [hnew]
  exact List.mem_append_left new hu

section presented

variable {es : List (EstateEvent τ)} {g : Grant τ} {σ : Subject}

theorem SettingMade.append {row : DcaSetting} (h : SettingMade c es g row) (e : EstateEvent τ) :
    SettingMade c (es ++ [e]) g row := by
  obtain ⟨conn, now, data, htime, hmem, hrow⟩ := h
  exact ⟨conn, now, data, htime, List.mem_append_left _ hmem, hrow⟩

theorem Presented.append (h : Presented c es g σ) (e : EstateEvent τ) :
    Presented c (es ++ [e]) g σ := by
  rcases h with ⟨env, now, req, a, htime, hmem, hasks⟩ | ⟨htopic, row, hrow⟩
  · exact .inl ⟨env, now, req, a, htime, List.mem_append_left _ hmem, hasks⟩
  · exact .inr ⟨htopic, row, hrow.append e⟩

end presented

/-- A user's token was presented for the row. -/
def RowMade (c : PortalConfig τ) (es : List (EstateEvent τ)) (x : Portal τ) (row : DcaSetting) :
    Prop :=
  ∃ g ∈ x.grants, g.user.uid = row.uid ∧ SettingMade c es g row

/-- If the subject takes money from a user, a token of hers was presented for it. -/
def Allowed (c : PortalConfig τ) (es : List (EstateEvent τ)) (x : Portal τ) (σ : Subject) : Prop :=
  ∀ uid, σ.Spends uid → ∃ g ∈ x.grants, asU64 g.user.uid = uid ∧ Presented c es g σ

/-- Where everything comes from that lets the bank take money. -/
structure Estate.Sound (c : PortalConfig τ) (seed : List UserRecord) (es : List (EstateEvent τ))
    (x : Estate τ) : Prop where
  portal : x.portal.Sound c seed (portalEvents es)
  settings : ∀ row ∈ x.settings, RowMade c es x.portal row
  savings : ∀ saving ∈ x.savings, RowMade c es x.portal saving.row
  asked : ∀ σ ∈ x.platform.asked, Allowed c es x.portal σ
  covered : x.platform.Covered

section kept

variable {seed : List UserRecord} {es : List (EstateEvent τ)} {x x' : Estate τ}

theorem RowMade.append {y y' : Portal τ} {row : DcaSetting} (h : RowMade c es y row)
    (hgrants : y.grants ⊆ y'.grants) (e : EstateEvent τ) : RowMade c (es ++ [e]) y' row := by
  obtain ⟨g, hg, huid, hmade⟩ := h
  exact ⟨g, hgrants hg, huid, hmade.append e⟩

theorem Allowed.append {y y' : Portal τ} {σ : Subject} (h : Allowed c es y σ)
    (hgrants : y.grants ⊆ y'.grants) (e : EstateEvent τ) : Allowed c (es ++ [e]) y' σ := by
  intro uid hspends
  obtain ⟨g, hg, howner, hpresented⟩ := h uid hspends
  exact ⟨g, hgrants hg, howner, hpresented.append e⟩

theorem portalEvents_append (es : List (EstateEvent τ)) (e : EstateEvent τ) :
    portalEvents (es ++ [e]) = portalEvents es ++ e.portal?.toList := by
  unfold portalEvents
  rw [List.filterMap_append]
  cases h : e.portal? <;> simp [h]

/-- What a request asks that moves a user's money. -/
theorem Api.spender_of_spends {a : Api} (ha : a.isRequest = true) {σ : Subject}
    (hσ : σ ∈ a.subjects) {uid : UserId} (h : σ.Spends uid) : a.spender = some uid := by
  obtain ⟨huid, htopic⟩ := h
  cases a with
  | paymentRequest m =>
    rw [List.mem_singleton.mp hσ] at huid
    exact huid
  | swapRequest m =>
    rw [List.mem_singleton.mp hσ] at huid
    exact huid
  | createLnurlWithdrawalRequest m =>
    rcases List.mem_cons.mp hσ with rfl | hσ
    · exact absurd huid (by simp)
    · rw [List.mem_singleton.mp hσ] at huid
      exact huid
  | nostrProfileRequest m => exact absurd hσ List.not_mem_nil
  | nostrProfileSearchRequest m => exact absurd hσ List.not_mem_nil
  | invoiceRequest m =>
    rw [List.mem_singleton.mp hσ] at htopic
    exact absurd htopic (by simp)
  | getBalances m =>
    rw [List.mem_singleton.mp hσ] at htopic
    exact absurd htopic (by simp)
  | quoteRequest m =>
    rw [List.mem_singleton.mp hσ] at htopic
    exact absurd htopic (by simp)
  | availableCurrenciesRequest m =>
    rw [List.mem_singleton.mp hσ] at huid
    exact absurd huid (by simp)
  | getNodeInfoRequest m =>
    rw [List.mem_singleton.mp hσ] at huid
    exact absurd huid (by simp)
  | getLnurlWithdrawalRequest m =>
    rw [List.mem_singleton.mp hσ] at huid
    exact absurd huid (by simp)
  | payLnurlWithdrawalRequest m =>
    rw [List.mem_singleton.mp hσ] at huid
    exact absurd huid (by simp)
  | queryRouteRequest m =>
    rw [List.mem_singleton.mp hσ] at huid
    exact absurd huid (by simp)
  | _ => exact absurd ha Bool.false_ne_true

/-- What the bank is asked besides by the API are swaps of the settings it reads. -/
theorem Platform.asked_step {y y' : Platform} {e : PlatformEvent}
    (h : y.step cfg dcfg e = some y') (hask : ∀ a, e ≠ .ask a) :
    y'.asked = y.asked ∨ ∃ env msg, y'.asked = y.asked ++ drawn env msg ∧
      ((∃ i, e = .bank i env) ∨ e = .arrives ⟨env, msg⟩) := by
  cases Platform.steps_of_step h with
  | ask a => exact absurd rfl (hask a)
  | bank i env msg s' hmsg hdelivers => exact .inr ⟨env, msg, rfl, .inl ⟨i, rfl⟩⟩
  | arrives d s' hnone hdelivers => exact .inr ⟨d.env, d.msg, rfl, .inr rfl⟩
  | _ => exact .inl rfl

theorem mem_drawn {env : Env} {msg : Message} {σ : Subject} (h : σ ∈ drawn env msg) :
    σ.topic = .swap ∧ ∃ row ∈ env.directory.dcaSettings, σ.uid = some (asU64 row.uid) := by
  unfold drawn at h
  split at h
  next =>
    obtain ⟨e, he, rfl⟩ := List.mem_map.mp h
    have hrow := List.mem_of_mem_filter (List.fst_mem_of_mem_zipIdx he)
    exact ⟨rfl, e.1, hrow, rfl⟩
  next => exact absurd h List.not_mem_nil

/-- An order of the bank's own is allowed if the rows it read are. -/
theorem Allowed.of_drawn {y : Portal τ} {env : Env} {msg : Message} {σ : Subject}
    (hrows : ∀ row ∈ env.directory.dcaSettings, RowMade c es y row) (h : σ ∈ drawn env msg) :
    Allowed c es y σ := by
  intro uid hspends
  obtain ⟨htopic, row, hrow, huid⟩ := mem_drawn h
  obtain ⟨g, hg, howner, hmade⟩ := hrows row hrow
  refine ⟨g, hg, ?_, .inr ⟨htopic, row, hmade⟩⟩
  rw [howner]
  exact Option.some.inj (huid.symm.trans hspends.uid)

/-- The rows that are read are those of the table. -/
theorem Estate.reads_settings {e e' : PlatformEvent} (h : x.reads e = e') {env : Env}
    {msg : Message} (he : (∃ i, e' = .bank i env) ∨ e' = .arrives ⟨env, msg⟩) :
    env.directory.dcaSettings = x.settings := by
  subst h
  rcases he with ⟨i, he⟩ | he
  · cases e with
    | bank j env' =>
      injection he with _ he
      rw [← he]
      rfl
    | _ => exact absurd he (by simp [Estate.reads])
  · cases e with
    | arrives d =>
      injection he with he
      injection he with he _
      rw [← he]
      rfl
    | _ => exact absurd he (by simp [Estate.reads])

theorem Routes.setDcaSettings_uid {auth : AuthData} {data : DcaSettingData} {row : DcaSetting}
    (h : Routes.setDcaSettings auth data = .ok row) : row.uid = asI32 (asU64 auth.uid) := by
  unfold Routes.setDcaSettings at h
  dsimp only at h
  split at h
  next => exact absurd h (by simp [invalidData])
  next =>
    split at h
    next => exact absurd h (by simp [invalidData])
    next =>
      split at h
      next => exact absurd h (by simp [invalidData])
      next => rw [← Except.ok.inj h]

/-- A row that is asked for belongs to whom the token was given. -/
theorem Portal.Sound.rowMade {y : Portal τ} {pes : List PortalEvent} (h : y.Sound c seed pes)
    (hint : y.Int4) {conn : Bool} {now : Nat} {header : Authorization τ} {data : DcaSettingData}
    {row : DcaSetting} (hforged : y.NoForgery c header)
    (hrow : Portal.setDcaSettings c conn now header data = some row) :
    RowMade c (es ++ [.setDcaSettings conn now header data]) y row := by
  obtain ⟨auth, hauth, hrest⟩ := Option.bind_eq_some_iff.mp hrow
  obtain ⟨row', hset, hconn⟩ := Option.bind_eq_some_iff.mp hrest
  obtain ⟨-, rfl⟩ : conn = true ∧ row' = row := by
    split at hconn
    next hconn' => exact ⟨hconn', Option.some.inj hconn⟩
    next => exact absurd hconn (by simp)
  obtain ⟨g, hg, rfl, howner, htime⟩ := h.owner hforged (eq_ok_of_toOption hauth)
  obtain ⟨hlow, hhigh⟩ := hint g.user (h.grants g hg).user
  refine ⟨g, hg, ?_, conn, now, data, htime, List.mem_append_right _ (List.mem_singleton.mpr rfl),
    hrow⟩
  rw [Routes.setDcaSettings_uid (eq_ok_of_toOption hset), howner, asI32_asU64 hlow hhigh]

/-- What is asked for a user is asked with a token of hers. -/
theorem Portal.Sound.allowed {y : Portal τ} {pes : List PortalEvent} (h : y.Sound c seed pes)
    {env : ApiEnv} {now : Nat} {header : Authorization τ} {req : HttpRequest} {a : Api}
    (hforged : y.NoForgery c header) (hasks : Portal.asks c env now header req = some a)
    {σ : Subject} (hσ : σ ∈ a.subjects) : Allowed c (es ++ [.request env now header req]) y σ := by
  intro uid hspends
  obtain ⟨req', -, ha⟩ := Portal.asks_eq_some hasks
  obtain ⟨auth, hauth, rfl⟩ :=
    Portal.asks_spender hasks (Api.spender_of_spends ha.1 hσ hspends)
  obtain ⟨g, hg, rfl, howner, htime⟩ := h.owner hforged hauth
  exact ⟨g, hg, by rw [howner], .inl ⟨env, now, req, a, htime,
    List.mem_append_right _ (List.mem_singleton.mpr rfl), hasks, hσ⟩⟩

/-- The API's own requests are no events of the bank and the dealer alone. -/
theorem Estate.step_platform {e : PlatformEvent}
    (h : x.step c cfg dcfg (.platform e) = some x') :
    ∃ platform, (∀ a, x.reads e ≠ .ask a) ∧
      x.platform.step cfg dcfg (x.reads e) = some platform ∧ x' = { x with platform } := by
  by_cases hask : ∃ a, e = .ask a
  · obtain ⟨a, rfl⟩ := hask
    exact absurd h (by simp [Estate.step])
  · have hother : ∀ a, x.reads e ≠ .ask a := by
      intro a ha
      cases e with
      | ask a' => exact hask ⟨a', rfl⟩
      | _ => exact absurd ha (by simp [Estate.reads])
    have h : (x.platform.step cfg dcfg (x.reads e)).bind
        (fun platform => some { x with platform }) = some x' := by
      cases e with
      | ask a => exact absurd ⟨a, rfl⟩ hask
      | _ => exact h
    obtain ⟨platform, hplatform, h⟩ := Option.bind_eq_some_iff.mp h
    exact ⟨platform, hother, hplatform, (Option.some.inj h).symm⟩

/-- What an event can do: to the users and tokens, to what was asked, to the table of
settings, or to the bank and the dealer. -/
theorem Estate.step_cases {e : EstateEvent τ} (h : x.step c cfg dcfg e = some x') :
    (∃ e', e = .portal e' ∧ x' = { x with portal := x.portal.step c e' }) ∨
    (∃ env now header req a platform, e = .request env now header req ∧
      Portal.asks c env now header req = some a ∧
      x.platform.step cfg dcfg (.ask a) = some platform ∧ x' = { x with platform }) ∨
    (∃ settings savings, e.portal? = none ∧ x' = { x with settings, savings } ∧
      (∀ row ∈ settings, row ∈ x.settings ∨ ∃ saving ∈ x.savings, saving.row = row) ∧
      ∀ saving ∈ savings, (∃ saving' ∈ x.savings, saving'.row = saving.row) ∨
        ∃ conn now header data, e = .setDcaSettings conn now header data ∧
          Portal.setDcaSettings c conn now header data = some saving.row) ∨
    ∃ e' platform, e = .platform e' ∧ (∀ a, x.reads e' ≠ .ask a) ∧
      x.platform.step cfg dcfg (x.reads e') = some platform ∧ x' = { x with platform } := by
  -- the table and the requests stay
  have hkept : (∀ row ∈ x.settings, row ∈ x.settings ∨ ∃ saving ∈ x.savings, saving.row = row) ∧
      ∀ saving ∈ x.savings, (∃ saving' ∈ x.savings, saving'.row = saving.row) ∨
        ∃ conn now header data, e = .setDcaSettings conn now header data ∧
          Portal.setDcaSettings c conn now header data = some saving.row :=
    ⟨fun row hrow => .inl hrow, fun saving hsaving => .inl ⟨saving, hsaving, rfl⟩⟩
  cases e with
  | portal e => exact .inl ⟨e, rfl, (Option.some.inj h).symm⟩
  | request env now header req =>
    simp only [Estate.step] at h
    split at h
    next a hasks =>
      obtain ⟨platform, hplatform, h⟩ := Option.bind_eq_some_iff.mp h
      exact .inr (.inl ⟨env, now, header, req, a, platform, rfl, hasks, hplatform,
        (Option.some.inj h).symm⟩)
    next =>
      rw [← Option.some.inj h]
      exact .inr (.inr (.inl ⟨x.settings, x.savings, rfl, rfl, hkept⟩))
  | setDcaSettings conn now header data =>
    simp only [Estate.step] at h
    split at h
    next row hrow =>
      rw [← Option.some.inj h]
      refine .inr (.inr (.inl ⟨x.settings, _, rfl, rfl, hkept.1, fun saving hsaving => ?_⟩))
      rcases List.mem_append.mp hsaving with hsaving | hsaving
      · exact .inl ⟨saving, hsaving, rfl⟩
      · rw [List.mem_singleton.mp hsaving]
        exact .inr ⟨conn, now, header, data, rfl, hrow⟩
    next =>
      rw [← Option.some.inj h]
      exact .inr (.inr (.inl ⟨x.settings, x.savings, rfl, rfl, hkept⟩))
  | deleteDcaSettings conn stored now header =>
    simp only [Estate.step] at h
    split at h
    next uid _ =>
      rw [← Option.some.inj h]
      refine .inr (.inr (.inl ⟨_, x.savings, rfl, rfl, fun row hrow => .inl ?_, hkept.2⟩))
      split at hrow
      · exact List.mem_of_mem_filter hrow
      · exact hrow
    next =>
      rw [← Option.some.inj h]
      exact .inr (.inr (.inl ⟨x.settings, x.savings, rfl, rfl, hkept⟩))
  | statement i stored =>
    obtain ⟨saving, hsaving, h⟩ := Option.bind_eq_some_iff.mp h
    have hmem : saving ∈ x.savings := List.mem_of_getElem? hsaving
    rw [← Option.some.inj h]
    unfold Estate.statement
    split
    next =>
      -- the row is inserted, and the request is done
      refine .inr (.inr (.inl ⟨_, _, rfl, rfl, fun row hrow => ?_, fun saving' h' => ?_⟩))
      · split at hrow
        · rcases DcaSetting.mem_of_mem_insert hrow with hrow | rfl
          · exact .inl hrow
          · exact .inr ⟨saving, hmem, rfl⟩
        · exact .inl hrow
      · exact .inl ⟨saving', List.mem_of_mem_eraseIdx h', rfl⟩
    next =>
      -- the old row is deleted, and the request waits with the row it had
      refine .inr (.inr (.inl ⟨_, _, rfl, rfl, fun row hrow => .inl ?_, fun saving' h' => ?_⟩))
      · split at hrow
        · exact List.mem_of_mem_filter hrow
        · exact hrow
      · rcases List.mem_or_eq_of_mem_set h' with h' | rfl
        · exact .inl ⟨saving', h', rfl⟩
        · exact .inl ⟨saving, hmem, rfl⟩
  | platform e =>
    obtain ⟨platform, hother, hplatform, hsame⟩ := Estate.step_platform h
    exact .inr (.inr (.inr ⟨e, platform, rfl, hother, hplatform, hsame⟩))

theorem Estate.Sound.step {e : EstateEvent τ} (h : x.Sound c seed es) (hint : x.portal.Int4)
    (hforged : ∀ header, e.header? = some header → x.portal.NoForgery c header)
    (hstep : x.step c cfg dcfg e = some x') : x'.Sound c seed (es ++ [e]) := by
  have hsettings : ∀ row ∈ x.settings, RowMade c (es ++ [e]) x.portal row :=
    fun row hrow => (h.settings row hrow).append (List.Subset.refl _) e
  have hsavings : ∀ saving ∈ x.savings, RowMade c (es ++ [e]) x.portal saving.row :=
    fun saving hsaving => (h.savings saving hsaving).append (List.Subset.refl _) e
  have hasked : ∀ σ ∈ x.platform.asked, Allowed c (es ++ [e]) x.portal σ :=
    fun σ hσ => (h.asked σ hσ).append (List.Subset.refl _) e
  have hportal (he : e.portal? = none) : x.portal.Sound c seed (portalEvents (es ++ [e])) := by
    rw [portalEvents_append, he, Option.toList_none, List.append_nil]
    exact h.portal
  rcases Estate.step_cases hstep with ⟨e', rfl, rfl⟩ |
    ⟨env, now, header, req, a, platform, rfl, hasks, hplatform, rfl⟩ |
    ⟨settings, savings, he, rfl, hrows, hnew⟩ | ⟨e', platform, rfl, hother, hplatform, rfl⟩
  · -- users and tokens
    have hgrants : x.portal.grants ⊆ (x.portal.step c e').grants := by
      obtain ⟨new, hnew⟩ := x.portal.step_grants (c := c) e'
      rw [hnew]
      exact List.subset_append_left _ _
    refine ⟨?_, fun row hrow => ?_, fun saving hsaving => ?_, fun σ hσ => ?_, h.covered⟩
    · rw [portalEvents_append]
      exact h.portal.step e'
    · exact (h.settings row hrow).append hgrants _
    · exact (h.savings saving hsaving).append hgrants _
    · exact (h.asked σ hσ).append hgrants _
  · -- a request
    refine ⟨hportal rfl, hsettings, hsavings, fun σ hσ => ?_, h.covered.step hplatform⟩
    rw [← Option.some.inj hplatform] at hσ
    rcases List.mem_append.mp hσ with hσ | hσ
    · exact hasked σ hσ
    · exact h.portal.allowed (hforged header rfl) hasks hσ
  · -- the table of settings
    refine ⟨hportal he, fun row hrow => ?_, fun saving hsaving => ?_, hasked, h.covered⟩
    · rcases hrows row hrow with hrow | ⟨saving, hsaving, rfl⟩
      · exact hsettings row hrow
      · exact hsavings saving hsaving
    · rcases hnew saving hsaving with ⟨saving', hsaving', hsame⟩ |
        ⟨conn, now, header, data, rfl, hrow⟩
      · rw [← hsame]
        exact hsavings saving' hsaving'
      · exact h.portal.rowMade hint (hforged header rfl) hrow
  · -- the bank and the dealer
    refine ⟨hportal rfl, hsettings, hsavings, fun σ hσ => ?_, h.covered.step hplatform⟩
    rcases Platform.asked_step hplatform hother with hsame | ⟨env, msg, hsame, he⟩
    · exact hasked σ (hsame ▸ hσ)
    · have hσ : σ ∈ x.platform.asked ++ drawn env msg := hsame ▸ hσ
      rcases List.mem_append.mp hσ with hσ | hσ
      · exact hasked σ hσ
      · refine .of_drawn (fun row hrow => hsettings row ?_) hσ
        rwa [Estate.reads_settings rfl he] at hrow

/-- No user is ever removed. -/
theorem Estate.int4_of_step {e : EstateEvent τ} (h : x.step c cfg dcfg e = some x')
    (hint : x'.portal.Int4) : x.portal.Int4 := by
  rcases Estate.step_cases h with ⟨e', -, rfl⟩ | ⟨-, -, -, -, -, platform, -, -, -, rfl⟩ |
    ⟨settings, savings, -, rfl, -⟩ | ⟨-, platform, -, -, -, rfl⟩
  · exact hint.of_step
  · exact hint
  · exact hint
  · exact hint

theorem EstateRun.sound {bank : State} {dealer : DealerState}
    (hnames : (seed.map (·.username)).Nodup) (huids : (seed.map (·.uid)).Nodup)
    (hstore : bank.lnurlWithdrawalRequests = ∅)
    (run : EstateRun c cfg dcfg (.start seed bank dealer) es x) (hint : x.portal.Int4) :
    x.Sound c seed es := by
  induction run with
  | nil =>
    exact ⟨Portal.sound_start hnames huids, by simp [Estate.start], by simp [Estate.start],
      by simp [Estate.start, Platform.start], Platform.Covered.start hstore dealer⟩
  | snoc _ hstep ih =>
    obtain ⟨hforged, hstep⟩ := hstep
    have hbefore := Estate.int4_of_step hstep hint
    exact (ih hbefore).step hbefore hforged hstep

/-- The bank and the dealer of an estate are a platform, and what holds of every run of
one holds here. -/
theorem EstateRun.platform {bank : State} {dealer : DealerState}
    (run : EstateRun c cfg dcfg (.start seed bank dealer) es x) :
    ∃ es', PlatformRun cfg dcfg (.start bank dealer) es' x.platform := by
  induction run with
  | nil => exact ⟨[], .nil _⟩
  | snoc _ hstep ih =>
    obtain ⟨es', hrun⟩ := ih
    rcases Estate.step_cases hstep.2 with ⟨-, -, rfl⟩ |
      ⟨-, -, -, -, a, platform, -, -, hplatform, rfl⟩ |
      ⟨settings, savings, -, rfl, -⟩ | ⟨e', platform, -, -, hplatform, rfl⟩
    · exact ⟨es', hrun⟩
    · exact ⟨_, hrun.snoc hplatform⟩
    · exact ⟨es', hrun⟩
    · exact ⟨_, hrun.snoc hplatform⟩

/-- What the bank handles was asked. -/
theorem Platform.Covered.mem_asked {y y' : Platform} {e : PlatformEvent} (hy : y.Covered)
    (h : y.step cfg dcfg e = some y') {msg : Message} (hmsg : y.handles e = some msg)
    {σ : Subject} (hσ : σ ∈ msg.subjects) : σ ∈ y.asked := by
  cases Platform.steps_of_step h with
  | bank i env msg' s' hmsg' hdelivers =>
    have hle := hy σ
    have htake := told_eraseIdx (σ := σ) hmsg
    have habout : 0 < msg.about σ := List.count_pos_iff.mpr hσ
    unfold Platform.total at hle
    exact List.count_pos_iff.mp (by omega)
  | arrives d s' hnone hdelivers =>
    obtain rfl : d.msg = msg := Option.some.inj hmsg
    rw [hnone] at hσ
    exact absurd hσ List.not_mem_nil
  | operator env m s' hdelivers =>
    obtain rfl : Message.cli m = msg := Option.some.inj hmsg
    exact absurd hσ List.not_mem_nil
  | _ => exact absurd hmsg (by simp [Platform.handles])

/-- **Only the owner's money, on her word.** In every run of the API, the bank and the
dealer, when money is taken from a user, the operator's transfers apart, it is for a
payment or a swap for which a token of hers was presented in its time, or for a swap of a
setting for which one was. Whoever got the token knew the password she registered with. -/
theorem taken_by_owner {bank : State} {dealer : DealerState}
    (hnames : (seed.map (·.username)).Nodup) (huids : (seed.map (·.uid)).Nodup)
    (hseed : ∀ u ∈ seed, c.hashing.decode u.password = none)
    (hlower : ∀ name, checkUsernameValid name = true → c.toLowercase name = name)
    (hstore : bank.lnurlWithdrawalRequests = ∅)
    (run : EstateRun c cfg dcfg (.start seed bank dealer) es x) (hint : x.portal.Int4)
    {e : EstateEvent τ} (hstep : x.step c cfg dcfg e = some x') (hno : ¬x.Transfers e)
    {uid : UserId} {id : AccountId}
    (hlt : x'.platform.bank.ledger.balanceAt (.user uid, id) <
      x.platform.bank.ledger.balanceAt (.user uid, id)) :
    ∃ σ ∈ x.takenBy e x', σ.Spends uid ∧
      ∃ g ∈ x.portal.grants, asU64 g.user.uid = uid ∧ Presented c es g σ ∧
        g.login.username = g.user.username ∧
        ∃ password, RegisteredAs c seed (portalEvents es) g.user password ∧
          c.hashing.derive g.user.username g.login.password CREDENTIAL_LEN =
            c.hashing.derive g.user.username password CREDENTIAL_LEN := by
  have hsound := run.sound hnames huids hstore hint
  rcases Estate.step_cases hstep with ⟨e', -, rfl⟩ |
    ⟨env, now, header, req, a, platform, -, -, hplatform, rfl⟩ |
    ⟨settings, savings, -, rfl, -⟩ | ⟨e', platform, rfl, -, hplatform, rfl⟩
  · exact absurd hlt (lt_irrefl _)
  · rw [← Option.some.inj hplatform] at hlt
    exact absurd hlt (lt_irrefl _)
  · exact absurd hlt (lt_irrefl _)
  · obtain ⟨σ, hσ, hspends⟩ := Platform.exists_takenBy hplatform
      (fun msg hmsg hmake => hno ⟨e', msg, rfl, hmsg, hmake⟩) (Ledger.takes_iff.mpr ⟨id, hlt⟩)
    have hasked : σ ∈ x.platform.asked := by
      obtain ⟨msg, hmsg, hmem⟩ := Platform.mem_takenBy hσ
      exact hsound.covered.mem_asked hplatform hmsg hmem
    obtain ⟨g, hg, howner, hpresented⟩ := hsound.asked σ hasked uid hspends
    exact ⟨σ, hσ, hspends, g, hg, howner, hpresented, (hsound.portal.grants g hg).name.symm,
      hsound.portal.registered hseed hlower hg⟩

end kept

namespace Sample

/-- What holds of where events without a header lead to holds of some run. -/
theorem exists_estateRun (es : List (EstateEvent (Option Payload)))
    (x : Estate (Option Payload)) (P : Estate (Option Payload) → Prop) [DecidablePred P]
    (hheaders : ∀ e ∈ es, e.header? = none)
    (h : (es.foldlM (fun x e => Estate.step portal config dealerConfig x e) x).any
      (fun x' => decide (P x')) = true) :
    ∃ x', EstateRun portal config dealerConfig x es x' ∧ P x' := by
  cases hr : es.foldlM (fun x e => Estate.step portal config dealerConfig x e) x with
  | none =>
    rw [hr] at h
    exact absurd h (by simp)
  | some x' =>
    rw [hr] at h
    refine ⟨x', ?_, by simpa using h⟩
    clear h
    induction es generalizing x with
    | nil =>
      rw [← Option.some.inj hr]
      exact .nil x
    | cons e es ih =>
      obtain ⟨y, hy, hr⟩ := Option.bind_eq_some_iff.mp hr
      refine (ih y (fun e' he' => hheaders e' (List.mem_cons_of_mem e he')) hr).cons ⟨?_, hy⟩
      intro header hheader
      rw [hheaders e List.mem_cons_self] at hheader
      exact absurd hheader (by simp)

/-- Alice registers and logs in, and is paid from outside. -/
def aliceArrives : List (EstateEvent (Option Payload)) :=
  [.portal (.create { createEnv with uid := 7 } registerAlice),
    .portal (.auth ⟨100, true, true⟩ loginAlice), .platform (.arrives ⟨env 1, deposit⟩)]

def arrivedToken : Option Payload := some (.refresh ⟨100, 100 + 1000000, 7, .masterToken⟩)

/-- She pays the shop. -/
def payRequest : EstateEvent (Option Payload) :=
  .request (apiEnv 1) 200 (.text arrivedToken)
    (.payInvoice ⟨0⟩ ⟨some "lnbc-shop", none, none, none⟩)

def withPayment (x : Estate (Option Payload)) : Estate (Option Payload) :=
  { x with
    platform := { x.platform with
      toBank := x.platform.toBank ++ [.api (.paymentRequest payShop)]
      asked := x.platform.asked ++ [paymentSubject 1 7] } }

/-- And then she has less than before. -/
def aliceLoses (x : Estate (Option Payload)) : Bool :=
  (x.step portal config dealerConfig (.platform (.bank 0 (env 2)))).any fun x' =>
    decide (x'.platform.bank.ledger.balanceAt (.user 7, 1) <
      x.platform.bank.ledger.balanceAt (.user 7, 1))

end Sample

/-- Alice pays the shop, for which she presented her refresh token. -/
theorem taken_by_owner_sample : ∃ (x : Estate (Option Payload)) (σ : Subject), σ.Spends 7 ∧
    ∃ g ∈ x.portal.grants,
      Presented Sample.portal (Sample.aliceArrives ++ [Sample.payRequest]) g σ := by
  obtain ⟨x, hrun, hempty, htoken, hint, hloses⟩ := Sample.exists_estateRun Sample.aliceArrives
    (.start Sample.seedUsers Sample.state Sample.dealer)
    (fun x => x.platform.toBank.length = 0 ∧
      Sample.arrivedToken ∈ x.portal.grants.map (·.token) ∧
      (∀ u ∈ x.portal.users, -2 ^ 31 ≤ u.uid ∧ u.uid < 2 ^ 31) ∧
      Sample.aliceLoses (Sample.withPayment x) = true)
    (by decide) (by decide +kernel)
  obtain ⟨x', hstep, hlt⟩ := Option.any_eq_true _ _ |>.mp hloses
  have hasked : EstateRun Sample.portal Sample.config Sample.dealerConfig
      (.start Sample.seedUsers Sample.state Sample.dealer)
      (Sample.aliceArrives ++ [Sample.payRequest]) (Sample.withPayment x) := by
    refine hrun.snoc ⟨fun header hheader token htext _ => ?_, rfl⟩
    have hheader : Authorization.text Sample.arrivedToken = header := Option.some.inj hheader
    rw [← hheader] at htext
    injection htext with htext
    rw [← htext]
    exact List.mem_map.mp htoken
  have hno : ¬(Sample.withPayment x).Transfers (.platform (.bank 0 (Sample.env 2))) := by
    rintro ⟨e', msg, he, hmsg, hmake⟩
    injection he with he
    rw [← he] at hmsg
    have hmsg : (x.platform.toBank ++ [.api (.paymentRequest Sample.payShop)])[0]? = some msg :=
      hmsg
    rw [List.length_eq_zero_iff.mp hempty] at hmsg
    rw [← Option.some.inj hmsg] at hmake
    exact hmake
  obtain ⟨σ, -, hspends, g, hg, -, hpresented, -⟩ := taken_by_owner (by decide) (by decide)
    (by decide +kernel) (fun _ => Sample.toLower_username) rfl hasked hint hstep hno
    (of_decide_eq_true hlt)
  exact ⟨_, σ, hspends, g, hg, hpresented⟩

end Lndhubx
