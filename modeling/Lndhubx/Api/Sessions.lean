import Lndhubx.Api.Registrations
import Lndhubx.Api.Routes
import Lndhubx.Usernames

/-!
# Who may act for a user

`jwt.rs`, the handlers `create`, `auth` and `whoami` of `routes/auth.rs`, and
`models/src/users.rs`. Who registers leaves a hash of her password; who logs in with it
gets two signed tokens, an access token and a refresh token; and whoever presents a
token in the `authorization` header is taken for the user in its payload
(`AuthData.fromRequest`). There is no handler for refresh tokens. Their payload lacks
the `tid` of an access token, and an `Option` may be missing where it is read, so a
refresh token is as good as an access token while it lasts.

`Portal` is the API with its table of users, for any sequence of registrations, logins
and requests, under the one assumption that the tokens which verify are those that were
given out (`Portal.NoForgery`). `asked_by_owner`: what concerns the money of a user is
asked of the bank only for a token that someone got who knew the password which the
user registered with, and not after its time. A user registered with a password if the
one registration that created her row did (`RegisteredAs`). `registered_logs_in`: who
registered can log in, whatever others did since, and is taken for herself.

PBKDF2, base64, the signature and Unicode's lower case are parameters.
-/

namespace Lndhubx

/-! ## Passwords -/

/-- `ring::pbkdf2` and `base64`. -/
structure Hashing where
  /-- From the salt and the password, as many bytes as are asked for. -/
  derive : String → String → Nat → List UInt8
  encode : List UInt8 → String
  decode : String → Option (List UInt8)
  length_derive : ∀ salt password n, (derive salt password n).length = n
  decode_encode : ∀ bytes, decode (encode bytes) = some bytes

/-- How long a derived key is. -/
def CREDENTIAL_LEN : Nat := 32

namespace Hashing

variable (H : Hashing) (salt password attempted : String)

/-- What is stored of a password. -/
def hash : String := H.encode (H.derive salt password CREDENTIAL_LEN)

/-- As many bytes are derived as are stored, and none never match. -/
def verify (stored : String) : Bool :=
  match H.decode stored with
  | some real => decide (real ≠ [] ∧ H.derive salt attempted real.length = real)
  | none => false

/-- A password is verified if it derives the same key. -/
theorem verify_hash_iff :
    H.verify salt attempted (H.hash salt password) = true ↔
      H.derive salt attempted CREDENTIAL_LEN = H.derive salt password CREDENTIAL_LEN := by
  have hlen := H.length_derive salt password CREDENTIAL_LEN
  have hne : H.derive salt password CREDENTIAL_LEN ≠ [] := by
    intro hnil
    rw [hnil] at hlen
    exact absurd hlen (by decide)
  unfold verify hash
  rw [H.decode_encode]
  dsimp only
  rw [hlen, decide_eq_true_iff]
  exact and_iff_right hne

end Hashing

/-! ## Tokens -/

inductive ApiRole where
  | viewOnly
  | trade
  | transfer
  deriving DecidableEq

inductive UserRoles where
  | masterToken
  | apiToken (roles : List ApiRole)
  deriving DecidableEq

structure UserRolesToken where
  iat : Int
  exp : Int
  uid : Int
  tid : Option Int
  roles : UserRoles
  deriving DecidableEq

structure RefreshToken where
  iat : Int
  exp : Int
  uid : Int
  roles : UserRoles
  deriving DecidableEq

/-- What is signed. -/
inductive Payload where
  | access (token : UserRolesToken)
  | refresh (token : RefreshToken)
  deriving DecidableEq

namespace Payload

/-- When a token expires. -/
def exp : Payload → Int
  | access token => token.exp
  | refresh token => token.exp

/-- A payload read as that of an access token. -/
def userRolesToken : Payload → UserRolesToken
  | access token => token
  | refresh token =>
    { iat := token.iat, exp := token.exp, uid := token.uid, tid := none, roles := token.roles }

end Payload

inductive JwtError where
  | notSupplied
  | invalid
  | expired
  | encodingFailed
  deriving DecidableEq

/-- `jsonwebtoken` with the key of the application; `τ` is the type of texts. -/
structure Jwt (τ : Type) where
  encode : Payload → Option τ
  /-- The payload, if the signature is right. -/
  decode : τ → Option Payload
  decode_encode : ∀ {payload token}, encode payload = some token → decode token = some payload

variable {τ : Type}

namespace Jwt

variable (J : Jwt τ)

def generate (now : Int) (uid : Int) (tid : Option Int) (roles : UserRoles) (livetime : Int) :
    Except JwtError τ :=
  match J.encode (.access { iat := now, exp := now + livetime, uid, tid, roles }) with
  | some token => .ok token
  | none => .error .encodingFailed

def generateRefreshToken (now : Int) (uid : Int) (roles : UserRoles) (lifetime : Int) :
    Except JwtError τ :=
  match J.encode (.refresh { iat := now, exp := now + lifetime, uid, roles }) with
  | some token => .ok token
  | none => .error .encodingFailed

/-- `Validation::new` checks that the token has not expired, with no leeway. -/
def check (now : Int) (token : τ) : Except JwtError UserRolesToken :=
  match J.decode token with
  | none => .error .invalid
  | some payload => if payload.exp < now then .error .expired else .ok payload.userRolesToken

variable {J}

/-- A token that passes is signed by the API, and not expired. -/
theorem check_eq_ok {now : Int} {token : τ} {claims : UserRolesToken}
    (h : J.check now token = .ok claims) :
    ∃ payload, J.decode token = some payload ∧ now ≤ payload.exp ∧
      claims = payload.userRolesToken := by
  unfold check at h
  split at h
  next => exact absurd h (by simp)
  next payload hdecode =>
    split at h
    next => exact absurd h (by simp)
    next hexp => exact ⟨payload, hdecode, by omega, (Except.ok.inj h).symm⟩

end Jwt

/-- The `authorization` header. -/
inductive Authorization (τ : Type) where
  | absent
  | notText
  | text (token : τ)

/-- The other fields of `AuthData` are not read. -/
def AuthData.fromRequest (J : Jwt τ) (now : Int) : Authorization τ → Except JwtError AuthData
  | .text token => do
    let claims ← J.check now token
    return { uid := claims.uid }
  | .notText => .error .invalid
  | .absent => .error .notSupplied

/-! ## The handlers -/

/-- A row of `users`; the time of its creation is not read. -/
structure UserRecord extends User where
  password : String
  origin : Option String

structure RegisterData where
  username : Option String
  password : String
  origin : Option String

structure LoginData where
  username : String
  password : String

/-- What `create` meets: a new id, the verdict of the limiter, a connection, and what
the database assigns or fails with. -/
structure CreateEnv where
  newV4 : String
  limiter : Except CreateError Unit
  conn : Bool
  uid : Int
  stored : Bool

structure AuthEnv where
  now : Nat
  conn : Bool
  query : Bool

/-- The settings, and what the handlers use of other packages. -/
structure PortalConfig (τ : Type) where
  jwt : Jwt τ
  hashing : Hashing
  toLowercase : String → String
  reservedUsernames : List String
  settings : ApiSettings

inductive RegisterError where
  | username (e : UsernameError)
  | create (e : CreateError)
  /-- `o[..32]` in the middle of a character. -/
  | panicked

inductive LoginError where
  | incorrectPassword
  | db (e : DbError)
  | jwt (e : JwtError)

/-- The first `n` bytes of a text, if a character ends there. -/
def takeBytes : List Char → Nat → Option (List Char)
  | _, 0 => some []
  | [], _ + 1 => none
  | c :: cs, n + 1 =>
    if c.utf8Size ≤ n + 1 then (takeBytes cs (n + 1 - c.utf8Size)).map (c :: ·) else none

/-- `if o.len() > 32 { Some(o[..32].to_string()) } else { Some(o) }`; `none` where the
slice panics. -/
def shortOrigin : Option String → Option (Option String)
  | some o =>
    if o.utf8ByteSize > 32 then (takeBytes o.toList 32).map (some ∘ String.ofList)
    else some (some o)
  | none => some none

/-- `User::get_by_username`; names are unique. -/
def UserRecord.getByUsername (users : List UserRecord) (username : String) : Option UserRecord :=
  users.find? (·.username = username)

/-- `User::get_by_id` -/
def UserRecord.getById (users : List UserRecord) (uid : Int) : Option UserRecord :=
  users.find? (·.uid = uid)

namespace Routes

variable (c : PortalConfig τ)

/-- The row that is inserted. The database refuses a name or a uid it has already. The
rows for the lightning address and the profile are inserted after it, and it is not
looked at whether they are. -/
def create (env : CreateEnv) (data : RegisterData) (users : List UserRecord) :
    Except RegisterError UserRecord :=
  match createUsername c.toLowercase c.reservedUsernames env.newV4 data.username with
  | .error e => .error (.username e)
  | .ok username =>
    match env.limiter with
    | .error e => .error (.create e)
    | .ok _ =>
      if !env.conn then .error (.create .dbConnectionError)
      else
        let hashedPassword := c.hashing.hash username data.password
        match shortOrigin data.origin with
        | none => .error .panicked
        | some origin =>
          if users.any fun user => user.username = username ∨ user.uid = env.uid then
            .error (.create .userAlreadyExists)
          else if !env.stored then .error (.create .unknown)
          else .ok
            { uid := env.uid, username, isInternal := false, password := hashedPassword, origin }

/-- How long an access token is good for. -/
def ACCESS_EXPIRY : Nat := 10000000

/-- And a refresh token. -/
def REFRESH_EXPIRY : Nat := 1000000

/-- The row of the user, the access token and the refresh token. -/
def auth (env : AuthEnv) (users : List UserRecord) (data : LoginData) :
    Except LoginError (UserRecord × τ × τ) :=
  if !env.conn then .error (.db .dbConnectionError)
  else
    match if env.query then UserRecord.getByUsername users data.username else none with
    | none => .error (.db .userDoesNotExist)
    | some user =>
      if !c.hashing.verify (c.toLowercase user.username) data.password user.password then
        .error .incorrectPassword
      else
        match c.jwt.generate env.now user.uid none .masterToken ACCESS_EXPIRY with
        | .error e => .error (.jwt e)
        | .ok token =>
          match c.jwt.generateRefreshToken env.now user.uid .masterToken REFRESH_EXPIRY with
          | .error e => .error (.jwt e)
          | .ok refresh => .ok (user, token, refresh)

/-- The name and the uid of a user. -/
def whoami (conn query : Bool) (auth : AuthData) (users : List UserRecord) :
    Except DbError (String × Int) :=
  let uid := asU64 auth.uid
  if !conn then .error .dbConnectionError
  else
    match if query then UserRecord.getById users (asI32 uid) else none with
    | none => .error .userDoesNotExist
    | some user => .ok (user.username, user.uid)

end Routes

/-! ## The portal -/

/-- A token that was given out. -/
structure Grant (τ : Type) where
  user : UserRecord
  login : LoginData
  now : Nat
  token : τ
  lifetime : Nat

structure Portal (τ : Type) where
  users : List UserRecord
  grants : List (Grant τ)

inductive PortalEvent where
  | create (env : CreateEnv) (data : RegisterData)
  | auth (env : AuthEnv) (data : LoginData)

namespace Portal

def start (seed : List UserRecord) : Portal τ := ⟨seed, []⟩

/-- A handler that fails leaves everything as it was. -/
def step (c : PortalConfig τ) (x : Portal τ) : PortalEvent → Portal τ
  | .create env data =>
    match Routes.create c env data x.users with
    | .error _ => x
    | .ok user => { x with users := x.users ++ [user] }
  | .auth env data =>
    match Routes.auth c env x.users data with
    | .error _ => x
    | .ok (user, token, refresh) =>
      { x with grants := x.grants ++ [⟨user, data, env.now, token, Routes.ACCESS_EXPIRY⟩,
          ⟨user, data, env.now, refresh, Routes.REFRESH_EXPIRY⟩] }

/-- A token of a request that verifies was given out. -/
def NoForgery (c : PortalConfig τ) (x : Portal τ) (header : Authorization τ) : Prop :=
  ∀ token, header = .text token → c.jwt.decode token ≠ none → ∃ g ∈ x.grants, g.token = token

end Portal

/-- The API over a sequence of requests. -/
abbrev PortalRun (c : PortalConfig τ) : Portal τ → List PortalEvent → Portal τ → Prop :=
  Trace fun x e x' => x' = x.step c e

/-! ## What the handlers do -/

variable {c : PortalConfig τ} {x x' : Portal τ} {seed : List UserRecord}

/-- A registration that succeeds: what was checked, and the row it makes. -/
theorem Routes.create_eq_ok {env : CreateEnv} {data : RegisterData} {users : List UserRecord}
    {user : UserRecord} (h : Routes.create c env data users = .ok user) :
    createUsername c.toLowercase c.reservedUsernames env.newV4 data.username = .ok user.username ∧
      user.password = c.hashing.hash user.username data.password ∧
      ∀ u ∈ users, u.username ≠ user.username ∧ u.uid ≠ user.uid := by
  unfold create at h
  split at h
  next => exact absurd h (by simp)
  next username hname =>
    split at h
    next => exact absurd h (by simp)
    next =>
      split at h
      next => exact absurd h (by simp)
      next =>
        dsimp only at h
        split at h
        next => exact absurd h (by simp)
        next origin _ =>
          split at h
          next => exact absurd h (by simp)
          next hnew =>
            split at h
            next => exact absurd h (by simp)
            next =>
              rw [← Except.ok.inj h]
              refine ⟨hname, rfl, fun u hu => ?_⟩
              have hu : ¬(u.username = username ∨ u.uid = env.uid) := by
                have hnone := List.any_eq_false.mp (Bool.eq_false_iff.mpr hnew) u hu
                simpa using hnone
              exact not_or.mp hu

/-- A token that was given out: to a user with a row, for her password, signed for her
uid and for the time it is to last. -/
structure Granted (c : PortalConfig τ) (users : List UserRecord) (g : Grant τ) : Prop where
  user : g.user ∈ users
  name : g.user.username = g.login.username
  verified : c.hashing.verify (c.toLowercase g.user.username) g.login.password g.user.password =
    true
  signed : ∃ payload, c.jwt.decode g.token = some payload ∧
    payload.userRolesToken.uid = g.user.uid ∧ payload.exp = g.now + g.lifetime
  lifetime : g.lifetime ≤ Routes.ACCESS_EXPIRY

/-- An access token that is made encodes its claims. -/
theorem Jwt.generate_eq_ok {J : Jwt τ} {now uid livetime : Int} {tid : Option Int}
    {roles : UserRoles} {token : τ} (h : J.generate now uid tid roles livetime = .ok token) :
    ∃ payload, J.decode token = some payload ∧ payload.userRolesToken.uid = uid ∧
      payload.exp = now + livetime := by
  unfold generate at h
  split at h
  next _ hencode =>
    rw [← Except.ok.inj h]
    exact ⟨_, J.decode_encode hencode, rfl, rfl⟩
  next => exact absurd h (by simp)

/-- So does a refresh token. -/
theorem Jwt.generateRefreshToken_eq_ok {J : Jwt τ} {now uid lifetime : Int} {roles : UserRoles}
    {token : τ} (h : J.generateRefreshToken now uid roles lifetime = .ok token) :
    ∃ payload, J.decode token = some payload ∧ payload.userRolesToken.uid = uid ∧
      payload.exp = now + lifetime := by
  unfold generateRefreshToken at h
  split at h
  next _ hencode =>
    rw [← Except.ok.inj h]
    exact ⟨_, J.decode_encode hencode, rfl, rfl⟩
  next => exact absurd h (by simp)

/-- A login that succeeds: the row of the name, and the hash of the password. -/
theorem Routes.auth_eq_ok {env : AuthEnv} {users : List UserRecord} {data : LoginData}
    {user : UserRecord} {token refresh : τ}
    (h : Routes.auth c env users data = .ok (user, token, refresh)) :
    Granted c users ⟨user, data, env.now, token, ACCESS_EXPIRY⟩ ∧
      Granted c users ⟨user, data, env.now, refresh, REFRESH_EXPIRY⟩ := by
  unfold auth at h
  split at h
  next => exact absurd h (by simp)
  next =>
    split at h
    next => exact absurd h (by simp)
    next found hfound =>
      have hquery : UserRecord.getByUsername users data.username = some found := by
        split at hfound
        next => exact hfound
        next => exact absurd hfound (by simp)
      have hname : found.username = data.username := by
        simpa using List.find?_some hquery
      split at h
      next => exact absurd h (by simp)
      next hverified =>
        split at h
        next => exact absurd h (by simp)
        next _ hgenerate =>
          split at h
          next => exact absurd h (by simp)
          next _ hrefresh =>
            simp only [Except.ok.injEq, Prod.mk.injEq] at h
            obtain ⟨rfl, rfl, rfl⟩ := h
            rw [Bool.not_eq_true, Bool.not_eq_false'] at hverified
            have hmem := List.mem_of_find?_eq_some hquery
            exact ⟨⟨hmem, hname, hverified, Jwt.generate_eq_ok hgenerate, le_refl _⟩,
              ⟨hmem, hname, hverified, Jwt.generateRefreshToken_eq_ok hrefresh,
                show REFRESH_EXPIRY ≤ ACCESS_EXPIRY by decide⟩⟩

/-! ## What is kept -/

/-- Where events lead to. -/
def Portal.after (c : PortalConfig τ) (seed : List UserRecord) (es : List PortalEvent) : Portal τ :=
  es.foldl (Portal.step c) (.start seed)

/-- A registration succeeded: where the events before it had led to, it created the row, for
this password. -/
def RowCreated (c : PortalConfig τ) (seed : List UserRecord) (es : List PortalEvent)
    (u : UserRecord) (password : String) : Prop :=
  ∃ before env data since, es = before ++ .create env data :: since ∧
    Routes.create c env data (Portal.after c seed before).users = .ok u ∧ data.password = password

/-- The user registered with this password: a registration created her row, the row stores
the hash of the password, and no other registration created a row under her name or uid. -/
structure RegisteredAs (c : PortalConfig τ) (seed : List UserRecord) (es : List PortalEvent)
    (u : UserRecord) (password : String) : Prop where
  created : RowCreated c seed es u password
  stored : u.password = c.hashing.hash u.username password
  only : ∀ u' password', RowCreated c seed es u' password' →
    u'.username = u.username ∨ u'.uid = u.uid → u' = u ∧ password' = password

/-- A grant stays one when rows are added. -/
theorem Granted.append {users : List UserRecord} {g : Grant τ} (h : Granted c users g)
    (new : List UserRecord) : Granted c (users ++ new) g :=
  ⟨List.mem_append_left new h.user, h.name, h.verified, h.signed, h.lifetime⟩

/-- A row stays created when events are added. -/
theorem RowCreated.append {es : List PortalEvent} {u : UserRecord} {password : String}
    (h : RowCreated c seed es u password) (e : PortalEvent) :
    RowCreated c seed (es ++ [e]) u password := by
  obtain ⟨before, env, data, since, rfl, hcreate, hpassword⟩ := h
  exact ⟨before, env, data, since ++ [e], by simp, hcreate, hpassword⟩

/-- The new row has a valid name and stores the hash of the password. -/
theorem RowCreated.row {es : List PortalEvent} {u : UserRecord} {password : String}
    (h : RowCreated c seed es u password) :
    checkUsernameValid u.username = true ∧
      u.password = c.hashing.hash u.username password := by
  obtain ⟨before, env, data, since, -, hcreate, rfl⟩ := h
  obtain ⟨hname, hpassword, -⟩ := Routes.create_eq_ok hcreate
  obtain ⟨hlen, hgrammar, -⟩ := createUsername_eq_ok hname
  exact ⟨(checkUsernameValid_eq_true _).mpr ⟨hlen, hgrammar⟩, hpassword⟩

namespace Portal

/-- Rows are added and never changed. -/
theorem step_users (x : Portal τ) (e : PortalEvent) :
    ∃ new, (x.step c e).users = x.users ++ new := by
  cases e with
  | create env data =>
    unfold step
    dsimp only
    split
    next => exact ⟨[], (List.append_nil _).symm⟩
    next user _ => exact ⟨[user], rfl⟩
  | auth env data =>
    unfold step
    dsimp only
    split
    next => exact ⟨[], (List.append_nil _).symm⟩
    next => exact ⟨[], (List.append_nil _).symm⟩

/-- Rows stay. -/
theorem mem_users_foldl (es : List PortalEvent) {u : UserRecord} (hu : u ∈ x.users) :
    u ∈ (es.foldl (Portal.step c) x).users := by
  induction es generalizing x with
  | nil => exact hu
  | cons e es ih =>
    obtain ⟨new, hnew⟩ := step_users (c := c) x e
    refine ih ?_
    rw [hnew]
    exact List.mem_append_left new hu

/-- After a registration that succeeded its row is there. -/
theorem mem_users_after {before since : List PortalEvent} {env : CreateEnv} {data : RegisterData}
    {u : UserRecord} (hcreate : Routes.create c env data (after c seed before).users = .ok u) :
    u ∈ (after c seed (before ++ .create env data :: since)).users := by
  unfold after
  rw [List.foldl_append, List.foldl_cons]
  refine mem_users_foldl _ ?_
  simp only [Portal.step]
  unfold after at hcreate
  rw [hcreate]
  exact List.mem_append_right _ (List.mem_singleton.mpr rfl)

/-- Of two registrations, the later one does not get the name or the uid of the other. -/
theorem create_once {before before' since since' : List PortalEvent} {env env' : CreateEnv}
    {data data' : RegisterData} {u u' : UserRecord}
    (hcreate : Routes.create c env data (after c seed before).users = .ok u)
    (hcreate' : Routes.create c env' data' (after c seed before').users = .ok u')
    (hother : u.username = u'.username ∨ u.uid = u'.uid) {m : List PortalEvent}
    (hbefore : before' = before ++ m)
    (hsince : .create env data :: since = m ++ .create env' data' :: since') :
    u' = u ∧ data'.password = data.password := by
  cases m with
  | nil =>
    -- it is one registration
    injection hsince with hsame
    injection hsame with henv hdata
    rw [hbefore, List.append_nil, ← henv, ← hdata] at hcreate'
    exact ⟨Except.ok.inj (hcreate'.symm.trans hcreate), by rw [hdata]⟩
  | cons e m =>
    injection hsince with hsame
    have hmem : u ∈ (after c seed before').users := by
      rw [hbefore, ← hsame]
      exact mem_users_after hcreate
    obtain ⟨-, -, hnew⟩ := Routes.create_eq_ok hcreate'
    exact absurd hother (not_or.mpr (hnew u hmem))

end Portal

/-- A name, or a uid, is registered once. -/
theorem RowCreated.once {es : List PortalEvent} {u u' : UserRecord} {password password' : String}
    (h : RowCreated c seed es u password) (h' : RowCreated c seed es u' password')
    (hother : u'.username = u.username ∨ u'.uid = u.uid) : u' = u ∧ password' = password := by
  obtain ⟨before, env, data, since, hes, hcreate, rfl⟩ := h
  obtain ⟨before', env', data', since', hes', hcreate', rfl⟩ := h'
  rcases List.append_eq_append_iff.mp (hes.symm.trans hes') with
    ⟨m, hbefore, hsince⟩ | ⟨m, hbefore, hsince⟩
  · exact Portal.create_once hcreate hcreate' (hother.imp Eq.symm Eq.symm) hbefore hsince
  · obtain ⟨hu, hpassword⟩ := Portal.create_once hcreate' hcreate hother hbefore hsince
    exact ⟨hu.symm, hpassword.symm⟩

namespace Portal

/-- Where the rows and the tokens come from, and that no two rows have the same name or
the same uid. -/
structure Sound (c : PortalConfig τ) (seed : List UserRecord) (es : List PortalEvent)
    (x : Portal τ) : Prop where
  reached : x = after c seed es
  users : ∀ u ∈ x.users, u ∈ seed ∨ ∃ password, RowCreated c seed es u password
  grants : ∀ g ∈ x.grants, Granted c x.users g
  names : (x.users.map (·.username)).Nodup
  uids : (x.users.map (·.uid)).Nodup

/-- One request keeps it. -/
theorem Sound.step {es : List PortalEvent} (h : x.Sound c seed es) (e : PortalEvent) :
    (x.step c e).Sound c seed (es ++ [e]) := by
  have hreached : x.step c e = after c seed (es ++ [e]) := by
    unfold after
    rw [List.foldl_append, List.foldl_cons, List.foldl_nil]
    exact congrArg (Portal.step c · e) h.reached
  -- a row that was explained before still is
  have hold : ∀ u ∈ x.users, u ∈ seed ∨ ∃ password, RowCreated c seed (es ++ [e]) u password := by
    intro u hu
    rcases h.users u hu with hseed | ⟨password, hcreated⟩
    · exact .inl hseed
    · exact .inr ⟨password, hcreated.append e⟩
  cases e with
  | create env data =>
    unfold Portal.step at hreached ⊢
    dsimp only at hreached ⊢
    split at hreached
    next => exact ⟨hreached, hold, h.grants, h.names, h.uids⟩
    next user hcreate =>
      obtain ⟨-, -, hnew⟩ := Routes.create_eq_ok hcreate
      refine ⟨hreached, fun u hu => ?_, fun g hg => (h.grants g hg).append [user], ?_, ?_⟩
      · rcases List.mem_append.mp hu with hu | hu
        · exact hold u hu
        · rw [List.mem_singleton.mp hu]
          rw [h.reached] at hcreate
          exact .inr ⟨data.password, es, env, data, [], rfl, hcreate, rfl⟩
      · rw [List.map_append, List.map_singleton]
        refine h.names.append (List.nodup_singleton _) ?_
        rw [List.disjoint_singleton, List.mem_map]
        rintro ⟨u, hu, he⟩
        exact (hnew u hu).1 he
      · rw [List.map_append, List.map_singleton]
        refine h.uids.append (List.nodup_singleton _) ?_
        rw [List.disjoint_singleton, List.mem_map]
        rintro ⟨u, hu, he⟩
        exact (hnew u hu).2 he
  | auth env data =>
    unfold Portal.step at hreached ⊢
    dsimp only at hreached ⊢
    split at hreached
    next => exact ⟨hreached, hold, h.grants, h.names, h.uids⟩
    next user token refresh hauth =>
      obtain ⟨haccess, hrefresh⟩ := Routes.auth_eq_ok hauth
      refine ⟨hreached, hold, fun g hg => ?_, h.names, h.uids⟩
      rcases List.mem_append.mp hg with hg | hg
      · exact h.grants g hg
      · rcases List.mem_cons.mp hg with rfl | hg
        · exact haccess
        · rw [List.mem_singleton.mp hg]
          exact hrefresh

end Portal

/-- It holds at the start, where names and uids are unique. -/
theorem Portal.sound_start (hnames : (seed.map (·.username)).Nodup)
    (huids : (seed.map (·.uid)).Nodup) : (Portal.start (τ := τ) seed).Sound c seed [] :=
  ⟨rfl, fun _ hu => .inl hu, fun _ hg => absurd hg List.not_mem_nil, hnames, huids⟩

/-- And so does a run. -/
theorem PortalRun.keeps_sound {es es' : List PortalEvent} (hsound : x.Sound c seed es)
    (run : PortalRun c x es' x') : x'.Sound c seed (es ++ es') := by
  induction run with
  | nil =>
    rw [List.append_nil]
    exact hsound
  | snoc _ hstep ih =>
    rw [hstep, ← List.append_assoc]
    exact ih.step _

/-- So it holds of every API that is reached. -/
theorem PortalRun.sound {es : List PortalEvent} (run : PortalRun c (.start seed) es x)
    (hnames : (seed.map (·.username)).Nodup) (huids : (seed.map (·.uid)).Nodup) :
    x.Sound c seed es :=
  PortalRun.keeps_sound (Portal.sound_start hnames huids) run

/-! ## What a request asks -/

/-- The requests of the API. -/
def Api.isRequest : Api → Bool
  | .invoiceRequest _ => true
  | .paymentRequest _ => true
  | .swapRequest _ => true
  | .getBalances _ => true
  | .quoteRequest _ => true
  | .availableCurrenciesRequest _ => true
  | .getNodeInfoRequest _ => true
  | .createLnurlWithdrawalRequest _ => true
  | .getLnurlWithdrawalRequest _ => true
  | .payLnurlWithdrawalRequest _ => true
  | .queryRouteRequest _ => true
  | .nostrProfileRequest _ => true
  | .nostrProfileSearchRequest _ => true
  | _ => false

/-- The user whose money a message moves, offers or shows. -/
def Api.spender : Api → Option UserId
  | .paymentRequest m => some m.uid
  | .swapRequest m => some m.uid
  | .quoteRequest m => some m.uid
  | .getBalances m => some m.uid
  | .createLnurlWithdrawalRequest m => some m.uid
  | _ => none

namespace HttpRequest

/-- What the handler takes from `AuthData`. -/
def auth : HttpRequest → Option AuthData
  | .balance auth => some auth
  | .payInvoice auth _ => some auth
  | .addInvoice auth _ => some auth
  | .swap auth _ => some auth
  | .quote auth _ => some auth
  | .keysend auth _ => some auth
  | .createLnurlWithdrawal auth _ => some auth
  | _ => none

/-- The extractor runs before the handler. -/
def withAuth (auth : AuthData) : HttpRequest → HttpRequest
  | .balance _ => .balance auth
  | .payInvoice _ data => .payInvoice auth data
  | .addInvoice _ query => .addInvoice auth query
  | .swap _ data => .swap auth data
  | .quote _ query => .quote auth query
  | .keysend _ data => .keysend auth data
  | .createLnurlWithdrawal _ query => .createLnurlWithdrawal auth query
  | req => req

/-- The user of a request is the one its token names. -/
theorem auth_withAuth (auth : AuthData) (req : HttpRequest) :
    (req.withAuth auth).auth = req.auth.map fun _ => auth := by
  cases req <;> rfl

/-- What the API asks for a request: it is a request itself, and if it is about the money
of a user, then of the one in `AuthData`. -/
def Asks (req : HttpRequest) (a : Api) : Prop :=
  a.isRequest = true ∧
    ∀ uid, a.spender = some uid → ∃ auth, req.auth = some auth ∧ uid = asU64 auth.uid

/-- A request for the user of the token. -/
theorem asks_own {req : HttpRequest} {a : Api} {auth : AuthData} (ha : a.isRequest = true)
    (hauth : req.auth = some auth) (huid : a.spender = some (asU64 auth.uid)) : req.Asks a :=
  ⟨ha, fun _ h => ⟨auth, hauth, (Option.some.inj (huid.symm.trans h)).symm⟩⟩

/-- A request that spends nothing. -/
theorem asks_nothing {req : HttpRequest} {a : Api} (ha : a.isRequest = true)
    (huid : a.spender = none) : req.Asks a :=
  ⟨ha, fun _ h => absurd (huid.symm.trans h) (by simp)⟩

/-- What a route asks the bank for is what its request may ask for. -/
theorem handle_asks {settings : ApiSettings} {env : ApiEnv} {req : HttpRequest} {e : Envelope}
    {respond : Message → Option Body} (h : req.handle settings env = .ok (.asked e respond)) :
    ∃ a, e.message = .api a ∧ req.Asks a := by
  have hasked {a : Api} {f : Message → Bool} {respond' : Message → Option Body}
      (h : (.ok (.asked ⟨.api a, f⟩ respond') : Except ApiError Handled) = .ok (.asked e respond))
      (ha : req.Asks a) : ∃ a, e.message = .api a ∧ req.Asks a := by
    injection h with h
    injection h with h
    rw [← h]
    exact ⟨a, rfl, ha⟩
  cases req with
  | balance auth => exact hasked h (asks_own rfl rfl rfl)
  | payInvoice auth data =>
    simp only [handle, Routes.payInvoice] at h
    split_ifs at h
    · cases h
    · cases h
    · cases h
    · cases h
    · exact hasked h (asks_own rfl rfl rfl)
  | addInvoice auth query =>
    simp only [handle, Routes.addInvoice] at h
    split_ifs at h
    · cases h
    · cases h
    · exact hasked h (asks_nothing rfl rfl)
  | swap auth data =>
    simp only [handle, Routes.swap] at h
    split_ifs at h
    · cases h
    · exact hasked h (asks_own rfl rfl rfl)
  | quote auth query =>
    simp only [handle, Routes.quote] at h
    split_ifs at h
    · cases h
    · exact hasked h (asks_own rfl rfl rfl)
  | getAvailableCurrencies => exact hasked h (asks_nothing rfl rfl)
  | getNodeInfo => exact hasked h (asks_nothing rfl rfl)
  | getQueryRoute query => exact hasked h (asks_nothing rfl rfl)
  | keysend auth data =>
    simp only [handle, Routes.keysend] at h
    split_ifs at h
    · cases h
    · exact hasked h (asks_own rfl rfl rfl)
  | createLnurlWithdrawal auth query =>
    simp only [handle, Routes.createLnurlWithdrawal] at h
    split_ifs at h
    · cases h
    · exact hasked h (asks_own rfl rfl rfl)
  | getLnurlWithdrawal query => exact hasked h (asks_nothing rfl rfl)
  | payLnurlWithdrawal query => exact hasked h (asks_nothing rfl rfl)
  -- a payment to an address asks for an invoice of its owner, not for anybody's money
  | payAddress username query =>
    simp only [handle, Routes.payAddress] at h
    split at h
    · cases h
    · split at h
      · cases h
      · split at h
        · cases h
        · split at h
          · cases h
          · split at h
            · cases h
            · exact hasked h (asks_nothing rfl rfl)
  | getNostrProfile params =>
    simp only [handle, Routes.getNostrProfile] at h
    split_ifs at h
    · cases h
    · split at h
      · exact hasked h (asks_nothing rfl rfl)
      · split at h
        · cases h
        · exact hasked h (asks_nothing rfl rfl)
  | searchNostrProfile params =>
    simp only [handle, Routes.searchNostrProfile] at h
    cases hk : settings.nostr.getPubkeyHex params.text with
    | none =>
      rw [hk] at h
      exact hasked h (asks_nothing rfl rfl)
    | some pkey =>
      rw [hk] at h
      exact hasked h (asks_nothing rfl rfl)

end HttpRequest

/-- A handler that takes `AuthData` runs only if the extractor finds it. -/
def Portal.admitted (c : PortalConfig τ) (now : Nat) (header : Authorization τ)
    (req : HttpRequest) : Option HttpRequest :=
  match req.auth with
  | none => some req
  | some _ => (AuthData.fromRequest c.jwt now header).toOption.map req.withAuth

/-- What a request makes the API ask the bank. -/
def Portal.asks (c : PortalConfig τ) (env : ApiEnv) (now : Nat) (header : Authorization τ)
    (req : HttpRequest) : Option Api :=
  (Portal.admitted c now header req).bind fun req =>
    match req.handle c.settings env with
    | .ok (.asked ⟨.api a, _⟩ _) => some a
    | _ => none

/-- A request that is let through as a user has a token of that user. -/
theorem Portal.admitted_auth {now : Nat} {header : Authorization τ} {req req' : HttpRequest}
    {auth : AuthData} (h : Portal.admitted c now header req = some req')
    (hauth : req'.auth = some auth) : AuthData.fromRequest c.jwt now header = .ok auth := by
  unfold admitted at h
  split at h
  next hnone =>
    rw [← Option.some.inj h, hnone] at hauth
    exact absurd hauth (by simp)
  next =>
    obtain ⟨auth', hfrom, rfl⟩ := Option.map_eq_some_iff.mp h
    rw [HttpRequest.auth_withAuth] at hauth
    obtain ⟨-, -, rfl⟩ := Option.map_eq_some_iff.mp hauth
    cases hresult : AuthData.fromRequest c.jwt now header with
    | error e =>
      rw [hresult] at hfrom
      exact absurd hfrom (by simp [Except.toOption])
    | ok b =>
      rw [hresult] at hfrom
      exact congrArg _ (Option.some.inj hfrom)

/-- What the bank is asked for was let through first. -/
theorem Portal.asks_eq_some {env : ApiEnv} {now : Nat} {header : Authorization τ}
    {req : HttpRequest} {a : Api} (h : Portal.asks c env now header req = some a) :
    ∃ req', Portal.admitted c now header req = some req' ∧ req'.Asks a := by
  obtain ⟨req', hreq, h⟩ := Option.bind_eq_some_iff.mp h
  refine ⟨req', hreq, ?_⟩
  split at h
  next hhandle =>
    obtain ⟨b, hmessage, hasks⟩ := HttpRequest.handle_asks hhandle
    rwa [← Option.some.inj h, Message.api.inj hmessage]
  next => exact absurd h (by simp)

/-- What is asked for a user was let through as that user. -/
theorem Portal.asks_spender {env : ApiEnv} {now : Nat} {header : Authorization τ}
    {req : HttpRequest} {a : Api} {uid : UserId} (h : Portal.asks c env now header req = some a)
    (huid : a.spender = some uid) :
    ∃ auth, AuthData.fromRequest c.jwt now header = .ok auth ∧ uid = asU64 auth.uid := by
  obtain ⟨req', hreq, hasks⟩ := Portal.asks_eq_some h
  obtain ⟨auth, hauth, rfl⟩ := hasks.2 uid huid
  exact ⟨auth, Portal.admitted_auth hreq hauth, rfl⟩

/-- Who is taken for a user presents a token that was given out to her, in its time. -/
theorem Portal.Sound.owner {es : List PortalEvent} (h : x.Sound c seed es)
    {header : Authorization τ} (hforged : x.NoForgery c header) {now : Nat} {auth : AuthData}
    (hauth : AuthData.fromRequest c.jwt now header = .ok auth) :
    ∃ g ∈ x.grants, header = .text g.token ∧ auth.uid = g.user.uid ∧
      now ≤ g.now + g.lifetime := by
  cases header with
  | absent => exact absurd hauth (by simp [AuthData.fromRequest])
  | notText => exact absurd hauth (by simp [AuthData.fromRequest])
  | text token =>
    simp only [AuthData.fromRequest] at hauth
    cases hcheck : c.jwt.check now token with
    | error e =>
      rw [hcheck] at hauth
      exact absurd hauth (by simp [bind, Except.bind])
    | ok claims =>
      rw [hcheck] at hauth
      obtain ⟨payload, hdecode, hexp, hclaims⟩ := Jwt.check_eq_ok hcheck
      obtain ⟨g, hg, htoken⟩ := hforged token rfl (by simp [hdecode])
      obtain ⟨payload', hdecode', huid, hexp'⟩ := (h.grants g hg).signed
      rw [htoken, hdecode] at hdecode'
      have hsame : payload = payload' := Option.some.inj hdecode'
      refine ⟨g, hg, by rw [htoken], ?_, ?_⟩
      · rw [← Except.ok.inj hauth, hclaims, hsame]
        exact huid
      · rw [hsame, hexp'] at hexp
        omega

/-- Who got a token registered, and knew the password. -/
theorem Portal.Sound.registered {es : List PortalEvent} (h : x.Sound c seed es)
    (hseed : ∀ u ∈ seed, c.hashing.decode u.password = none)
    (hlower : ∀ name, checkUsernameValid name = true → c.toLowercase name = name) {g : Grant τ}
    (hg : g ∈ x.grants) :
    ∃ password, RegisteredAs c seed es g.user password ∧
      c.hashing.derive g.user.username g.login.password CREDENTIAL_LEN =
        c.hashing.derive g.user.username password CREDENTIAL_LEN := by
  have hgranted := h.grants g hg
  have hverified := hgranted.verified
  rcases h.users g.user hgranted.user with hold | ⟨password, hcreated⟩
  · -- the rows that came with the database have passwords that are no hashes
    unfold Hashing.verify at hverified
    rw [hseed _ hold] at hverified
    exact absurd hverified Bool.false_ne_true
  · obtain ⟨hvalid, hpassword⟩ := hcreated.row
    refine ⟨password, ⟨hcreated, hpassword, fun _ _ => RowCreated.once hcreated⟩, ?_⟩
    rw [hlower _ hvalid, hpassword] at hverified
    exact (c.hashing.verify_hash_iff _ _ _).mp hverified

/-- **Only the owner asks.** Whatever was registered and logged in to before, a request
that makes the API ask the bank about the money of a user presents a token that was
given out to a user who registered, for a password that is hers, and has not expired. -/
theorem asked_by_owner {es : List PortalEvent} (hnames : (seed.map (·.username)).Nodup)
    (huids : (seed.map (·.uid)).Nodup)
    (hseed : ∀ u ∈ seed, c.hashing.decode u.password = none)
    (hlower : ∀ name, checkUsernameValid name = true → c.toLowercase name = name)
    (run : PortalRun c (.start seed) es x) {env : ApiEnv} {now : Nat} {header : Authorization τ}
    {req : HttpRequest} {a : Api} {uid : UserId} (hforged : x.NoForgery c header)
    (hasks : Portal.asks c env now header req = some a) (huid : a.spender = some uid) :
    ∃ g ∈ x.grants, header = .text g.token ∧ asU64 g.user.uid = uid ∧
      now ≤ g.now + g.lifetime ∧ g.lifetime ≤ Routes.ACCESS_EXPIRY ∧
      g.login.username = g.user.username ∧
      ∃ password, RegisteredAs c seed es g.user password ∧
        c.hashing.derive g.user.username g.login.password CREDENTIAL_LEN =
          c.hashing.derive g.user.username password CREDENTIAL_LEN := by
  have hsound := run.sound hnames huids
  obtain ⟨auth, hauth, rfl⟩ := Portal.asks_spender hasks huid
  obtain ⟨g, hg, hheader, howner, htime⟩ := hsound.owner hforged hauth
  have hgranted := hsound.grants g hg
  exact ⟨g, hg, hheader, by rw [howner], htime, hgranted.lifetime, hgranted.name.symm,
    hsound.registered hseed hlower hg⟩

namespace Sample

/-- What is derived from the salt `alice` and the password `correct horse`. -/
def aliceBytes : List UInt8 :=
  [148, 194, 96, 131, 148, 147, 75, 9, 251, 137, 160, 188, 137, 215, 219, 67,
    22, 61, 123, 124, 231, 24, 10, 72, 142, 45, 37, 70, 221, 20, 219, 47]

/-- The hash of Alice's password. -/
def aliceHash : String := "lMJgg5STSwn7iaC8idfbQxY9e3znGApIji0lRt0U2y8="

/-- A byte is kept above the bytes of text. -/
theorem toNat_ofNat_byte (b : UInt8) : (Char.ofNat (256 + b.toNat)).toNat = 256 + b.toNat := by
  have hb : b.toNat < 256 := b.toNat_lt
  have hvalid : (256 + b.toNat).isValidChar := .inl (by omega)
  rw [Char.ofNat, dif_pos hvalid]
  rfl

/-- Any other bytes are written as characters from 256 on. -/
def hashing : Hashing where
  derive salt password n :=
    ((if salt = "alice" ∧ password = "correct horse" then aliceBytes else []) ++
      List.replicate n 0).take n
  encode bytes :=
    if bytes = aliceBytes then aliceHash
    else String.ofList (bytes.map fun b => Char.ofNat (256 + b.toNat))
  decode text :=
    if text = aliceHash then some aliceBytes
    else if text.toList.all (256 ≤ ·.toNat) then
      some (text.toList.map fun c => UInt8.ofNat (c.toNat - 256))
    else none
  length_derive salt password n := by simp
  decode_encode bytes := by
    split
    next h => rw [if_pos rfl, h]
    next =>
      have hother : String.ofList (bytes.map fun b => Char.ofNat (256 + b.toNat)) ≠ aliceHash := by
        intro h
        have hmem : 'l' ∈ bytes.map fun b => Char.ofNat (256 + b.toNat) := by
          rw [← String.toList_ofList (l := bytes.map _), h]
          decide
        obtain ⟨b, -, hb⟩ := List.mem_map.mp hmem
        have hnat := toNat_ofNat_byte b
        rw [hb] at hnat
        have hsmall : 'l'.toNat = 108 := rfl
        omega
      rw [if_neg hother, String.toList_ofList, if_pos, List.map_map]
      · congr 1
        refine (List.map_congr_left fun b _ => ?_).trans (List.map_id bytes)
        simp [toNat_ofNat_byte]
      · rw [List.all_map, List.all_eq_true]
        intro b _
        simp [toNat_ofNat_byte]

/-- A text is what was signed, or not signed at all. -/
def jwt : Jwt (Option Payload) := 
  ⟨fun payload => some (some payload), id, fun h => (Option.some.inj h).symm⟩

/-- An API whose tokens are their payloads. -/
def portal : PortalConfig (Option Payload) where
  jwt := jwt
  hashing := hashing
  toLowercase name := String.ofList (name.toList.map Char.toLower)
  reservedUsernames := ["admin"]
  settings := apiSettings

/-- The rows that come with the database. -/
def seedUsers : List UserRecord :=
  [⟨⟨23193913, "bank", true⟩, "arbitrary-string-no-one-can-find-out-about", none⟩,
    ⟨⟨52172712, "dealer", true⟩, "arbitrary-string-no-one-can-find-out-about", none⟩]

/-- The letters of a username are small. -/
theorem toLower_usernameChar {ch : Char} (h : isUsernameChar ch = true) : ch.toLower = ch := by
  have hupper : ¬(ch.val ≥ 'A'.val ∧ ch.val ≤ 'Z'.val) := by
    rintro ⟨hlow, hhigh⟩
    unfold isUsernameChar isUsernameAlphanumeric isUsernamePunctuation Char.isLower
      Char.isDigit at h
    simp only [Bool.or_eq_true, Bool.and_eq_true, decide_eq_true_eq, beq_iff_eq] at h
    obtain (⟨hlower, -⟩ | ⟨-, hdigit⟩) | (rfl | rfl) | rfl := h
    · exact absurd (UInt32.le_trans hlower hhigh) (by decide)
    · exact absurd (UInt32.le_trans hlow hdigit) (by decide)
    · exact absurd hlow (by decide)
    · exact absurd hlow (by decide)
    · exact absurd hhigh (by decide)
  exact dif_neg hupper

/-- So a username is its own lower case. -/
theorem toLower_username {name : String} (h : checkUsernameValid name = true) :
    portal.toLowercase name = name := by
  have hall : name.toList.all isUsernameChar = true := by
    unfold checkUsernameValid at h
    split_ifs at h with _ hall
    simpa using hall
  have hmap : name.toList.map Char.toLower = name.toList :=
    (List.map_congr_left fun ch hch => toLower_usernameChar (List.all_eq_true.mp hall ch hch)).trans
      (List.map_id _)
  show String.ofList (name.toList.map Char.toLower) = name
  rw [hmap, String.ofList_toList]

/-- Alice registers. -/
def registerAlice : RegisterData := ⟨some "Alice", "correct horse", none⟩

/-- And logs in. -/
def loginAlice : LoginData := ⟨"alice", "correct horse"⟩

def createEnv : CreateEnv := ⟨"", .ok (), true, 1, true⟩

def aliceEvents : List PortalEvent :=
  [.create createEnv registerAlice, .auth ⟨100, true, true⟩ loginAlice]

def aliceToken : Option Payload := some (.refresh ⟨100, 100 + 1000000, 1, .masterToken⟩)

def alicePortal : Portal (Option Payload) :=
  aliceEvents.foldl (Portal.step portal) (.start seedUsers)

theorem alicePortal_run : PortalRun portal (.start seedUsers) aliceEvents alicePortal :=
  (Trace.cons rfl (.nil _)).cons rfl

/-- She has got two tokens. -/
theorem alicePortal_grants : alicePortal.grants.map (·.token) =
    [some (.access ⟨100, 100 + 10000000, 1, none, .masterToken⟩), aliceToken] := by
  decide +kernel

end Sample

/-- Alice registers and logs in; with her refresh token she asks for her balances. -/
theorem asked_by_owner_sample : ∃ g ∈ Sample.alicePortal.grants, g.token = Sample.aliceToken ∧
    asU64 g.user.uid = 1 ∧
    ∃ password, RegisteredAs Sample.portal Sample.seedUsers Sample.aliceEvents g.user
      password := by
  have hforged : Sample.alicePortal.NoForgery Sample.portal (.text Sample.aliceToken) := by
    intro token htoken _
    injection htoken with htoken
    rw [← htoken, ← List.mem_map, Sample.alicePortal_grants]
    decide
  have hasks : Portal.asks Sample.portal (Sample.apiEnv 5) 1000000 (.text Sample.aliceToken)
      (.balance ⟨0⟩) = some (.getBalances ⟨5, 1⟩) := rfl
  obtain ⟨g, hg, hheader, huid, -, -, -, password, hregistered, -⟩ :=
    asked_by_owner (by decide) (by decide) (by decide +kernel) (fun _ => Sample.toLower_username)
      Sample.alicePortal_run hforged hasks rfl
  injection hheader with htoken
  exact ⟨g, hg, htoken.symm, huid, password, hregistered⟩

/-! ## Who registered can log in -/

/-- The row of a unique key is the one that is found by it. -/
theorem find?_eq_some_of_nodup {α β : Type} [DecidableEq β] {f : α → β} {l : List α} {a : α}
    (hl : (l.map f).Nodup) (ha : a ∈ l) : l.find? (f · = f a) = some a := by
  obtain ⟨b, hfound⟩ := Option.isSome_iff_exists.mp
    (List.find?_isSome (p := (f · = f a)).mpr ⟨a, ha, decide_eq_true rfl⟩)
  have hb : b ∈ l := List.mem_of_find?_eq_some hfound
  have hsame : f b = f a := by simpa using List.find?_some hfound
  rw [hfound, List.inj_on_of_nodup_map hl hb ha hsame]

/-- An access token can be made. -/
theorem Jwt.generate_works {J : Jwt τ} (hencode : ∀ payload, ∃ token, J.encode payload = some token)
    (now uid : Int) (tid : Option Int) (roles : UserRoles) (livetime : Int) :
    ∃ token, J.generate now uid tid roles livetime = .ok token := by
  obtain ⟨token, htoken⟩ :=
    hencode (.access { iat := now, exp := now + livetime, uid, tid, roles })
  exact ⟨token, by rw [generate, htoken]⟩

/-- So can a refresh token. -/
theorem Jwt.generateRefreshToken_works {J : Jwt τ}
    (hencode : ∀ payload, ∃ token, J.encode payload = some token) (now uid : Int)
    (roles : UserRoles) (lifetime : Int) :
    ∃ token, J.generateRefreshToken now uid roles lifetime = .ok token := by
  obtain ⟨token, htoken⟩ := hencode (.refresh { iat := now, exp := now + lifetime, uid, roles })
  exact ⟨token, by rw [generateRefreshToken, htoken]⟩

/-- A token that was given out is accepted as long as it lasts. -/
theorem Granted.accepted {users : List UserRecord} {g : Grant τ} (h : Granted c users g)
    {now : Nat} (hnow : now ≤ g.now + g.lifetime) :
    AuthData.fromRequest c.jwt now (.text g.token) = .ok ⟨g.user.uid⟩ := by
  obtain ⟨payload, hdecode, huid, hexp⟩ := h.signed
  have hlasts : ¬payload.exp < now := by omega
  simp only [AuthData.fromRequest, Jwt.check, hdecode, if_neg hlasts]
  rw [← huid]
  rfl

/-- A uid survives the two casts. -/
theorem asI32_asU64 {uid : Int} (hlow : -2 ^ 31 ≤ uid) (hhigh : uid < 2 ^ 31) :
    asI32 (asU64 uid) = uid := by
  unfold asI32 asU64
  rw [Int.toNat_of_nonneg (Int.emod_nonneg _ (by norm_num)), Int.bmod_def]
  split <;> omega

/-- A user is found by her uid. -/
theorem whoami_eq {users : List UserRecord} (huids : (users.map (·.uid)).Nodup) {u : UserRecord}
    (hu : u ∈ users) (hlow : -2 ^ 31 ≤ u.uid) (hhigh : u.uid < 2 ^ 31) :
    Routes.whoami true true ⟨u.uid⟩ users = .ok (u.username, u.uid) := by
  have hfound : UserRecord.getById users u.uid = some u := find?_eq_some_of_nodup huids hu
  simp only [Routes.whoami, asI32_asU64 hlow hhigh, hfound]
  rfl

/-- **Who registered can log in.** Whatever others did before and since, a user logs in
with the name she was given and the password she chose, and each of her tokens is
accepted as hers as long as it lasts. -/
theorem registered_logs_in {es₁ es₂ : List PortalEvent} {x₁ x₂ : Portal τ} {cenv : CreateEnv}
    {data : RegisterData} {user : UserRecord} (hnames : (seed.map (·.username)).Nodup)
    (huids : (seed.map (·.uid)).Nodup)
    (hlower : ∀ name, checkUsernameValid name = true → c.toLowercase name = name)
    (hencode : ∀ payload, ∃ token, c.jwt.encode payload = some token)
    (before : PortalRun c (.start seed) es₁ x₁)
    (hcreate : Routes.create c cenv data x₁.users = .ok user)
    (hlow : -2 ^ 31 ≤ user.uid) (hhigh : user.uid < 2 ^ 31)
    (since : PortalRun c (x₁.step c (.create cenv data)) es₂ x₂) (now : Nat) :
    ∃ token refresh,
      Routes.auth c ⟨now, true, true⟩ x₂.users ⟨user.username, data.password⟩ =
        .ok (user, token, refresh) ∧
      (∀ later, later ≤ now + Routes.ACCESS_EXPIRY →
        AuthData.fromRequest c.jwt (later : Nat) (.text token) = .ok ⟨user.uid⟩) ∧
      (∀ later, later ≤ now + Routes.REFRESH_EXPIRY →
        AuthData.fromRequest c.jwt (later : Nat) (.text refresh) = .ok ⟨user.uid⟩) ∧
      Routes.whoami true true ⟨user.uid⟩ x₂.users = .ok (user.username, user.uid) := by
  have hcreated : x₁.step c (.create cenv data) = { x₁ with users := x₁.users ++ [user] } := by
    simp only [Portal.step, hcreate]
  have hmem : user ∈ x₂.users := since.invariant (I := fun x => user ∈ x.users)
    (fun y e y' _ hy hstep => by
      rw [hstep]
      exact Portal.mem_users_foldl [e] hy)
    (by rw [hcreated]; simp)
  have hsound : x₂.Sound c seed (es₁ ++ [.create cenv data] ++ es₂) :=
    PortalRun.keeps_sound ((before.sound hnames huids).step _) since
  obtain ⟨hname, hpassword, -⟩ := Routes.create_eq_ok hcreate
  obtain ⟨hlen, hgrammar, -⟩ := createUsername_eq_ok hname
  have hvalid : checkUsernameValid user.username = true :=
    (checkUsernameValid_eq_true _).mpr ⟨hlen, hgrammar⟩
  -- names are unique, so the row that is found is hers
  have hfound : UserRecord.getByUsername x₂.users user.username = some user :=
    find?_eq_some_of_nodup hsound.names hmem
  have hverified : c.hashing.verify (c.toLowercase user.username) data.password user.password =
      true := by
    rw [hlower _ hvalid, hpassword]
    exact (c.hashing.verify_hash_iff _ _ _).mpr rfl
  -- both tokens can be made
  obtain ⟨token, htoken⟩ :=
    Jwt.generate_works hencode now user.uid none .masterToken Routes.ACCESS_EXPIRY
  obtain ⟨refresh, hrefresh⟩ :=
    Jwt.generateRefreshToken_works hencode now user.uid .masterToken Routes.REFRESH_EXPIRY
  have hauth : Routes.auth c ⟨now, true, true⟩ x₂.users ⟨user.username, data.password⟩ =
      .ok (user, token, refresh) := by
    simp [Routes.auth, hfound, hverified, htoken, hrefresh]
  obtain ⟨haccess, hrefreshed⟩ := Routes.auth_eq_ok hauth
  exact ⟨token, refresh, hauth, fun later hlater => haccess.accepted hlater,
    fun later hlater => hrefreshed.accepted hlater, whoami_eq hsound.uids hmem hlow hhigh⟩

namespace Sample

/-- The row of Alice. -/
def alice : UserRecord := ⟨⟨1, "alice", false⟩, aliceHash, none⟩

/-- Someone tries to log in as Alice, and Bob registers. -/
def otherEvents : List PortalEvent :=
  [.auth ⟨200, true, true⟩ ⟨"alice", "battery staple"⟩,
    .create ⟨"", .ok (), true, 2, true⟩ ⟨some "bob", "battery staple", some "wallet"⟩]

/-- The API after others have registered. -/
def laterPortal : Portal (Option Payload) :=
  otherEvents.foldl (Portal.step portal)
    ((Portal.start seedUsers).step portal (.create createEnv registerAlice))

theorem laterPortal_run :
    PortalRun portal ((Portal.start seedUsers).step portal (.create createEnv registerAlice))
      otherEvents laterPortal :=
  (Trace.cons rfl (.nil _)).cons rfl

end Sample

theorem registered_logs_in_sample : ∃ token refresh,
    Routes.auth Sample.portal ⟨500, true, true⟩ Sample.laterPortal.users Sample.loginAlice =
        .ok (Sample.alice, token, refresh) ∧
      AuthData.fromRequest Sample.portal.jwt 600 (.text token) = .ok ⟨1⟩ := by
  have hcreate : Routes.create Sample.portal Sample.createEnv Sample.registerAlice
      (Portal.start (τ := Option Payload) Sample.seedUsers).users = .ok Sample.alice := rfl
  obtain ⟨token, refresh, hauth, haccess, -, -⟩ :=
    registered_logs_in (by decide) (by decide) (fun _ => Sample.toLower_username)
      (fun payload => ⟨some payload, rfl⟩) (.nil _) hcreate (by decide) (by decide)
      Sample.laterPortal_run 500
  exact ⟨token, refresh, hauth, haccess 600 (by decide)⟩

end Lndhubx
