import Mathlib.Data.List.Pairwise
import StormPiper.Python.Uuid
import StormPiper.Users.Routes

/-!
# Readonly tokens

An account has a token of its own, with which anybody may read the data through the routes
`…/token/{token}` (`apps/supersafe/users.py`).  A new account gets one, and a reader can ask for it
or have it rotated (`api/endpoints/users.py`).  Such a request first loads its user and then commits
the new token; other requests, registrations and starts of the application come in between.

The values of `uuid4` are a parameter, and no two of those that are drawn are equal.  Of the routes
that change users, those of `UserRequest` are one step each.  Refused passwords and the mails to new
users are left out.

* `checkReadonlyToken`, `TokenSession.turn`, `createUser` : the functions of the source.
* `AccountDb.machine` : requests, registrations and starts, in any order.
* `readonlyTokens_run` : in every state, a text opens the data exactly if it is the token of an
  account of a reader or more.
* `readonlyToken_rotated` : a token that was rotated away never opens them again.
-/

namespace StormPiper

/-! ### Accounts and tokens -/

/-- A row of the table of users. -/
structure Account (ID Token : Type) where
  id : ID
  user : User
  readonlyToken : Option Token

/-- `UserRegister`, as far as registration reads it. -/
structure UserRegister where
  email : String
  password : String
  firstName : Option String
  lastName : Option String

/-- `UserCreate`, as `init_users` fills it. -/
structure UserCreate extends UserRegister where
  isSuperuser : Bool
  isVerified : Bool
  role : Role

/-- A request about the token of a user. -/
inductive TokenRequest where
  | getReadonlyToken
  | rotateReadonlyToken
  deriving DecidableEq, Repr

/-- How far a request has come. -/
inductive TokenPhase (Token : Type) where
  | started
  /-- The user is loaded, and a new token is to be written. -/
  | loaded
  | done (answer : Except PyError Token)

/-- A request and how far it has come. -/
structure TokenSession (ID Token : Type) where
  request : TokenRequest
  currentUser : ID
  phase : TokenPhase Token

/-- The accounts, how many values `uuid4` has given, and the requests that were made. -/
structure AccountDb (ID Token : Type) where
  accounts : List (Account ID Token)
  drawn : ℕ
  sessions : List (TokenSession ID Token)

/-- What happens to the accounts. -/
inductive AccountAction (ID : Type) where
  | request (request : TokenRequest) (currentUser : ID)
  /-- The request with a number makes its next step. -/
  | step (i : ℕ)
  /-- A user is patched or deleted. -/
  | users (req : UserRequest ID)
  /-- `POST /auth/register` -/
  | register (id : ID) (user : UserRegister)
  /-- `create_user`, when the application starts. -/
  | createUser (id : ID) (user : UserCreate) (forceSetPassword : Bool)

section Model

variable {ID Token : Type} [DecidableEq ID]

/-- The users of the accounts. -/
def usersOf (accounts : List (Account ID Token)) : Users ID := fun u =>
  (accounts.find? fun a => a.id = u).map Account.user

/-- The accounts with the users of another table. -/
def setUsers (accounts : List (Account ID Token)) (db : Users ID) : List (Account ID Token) :=
  accounts.filterMap fun a => (db a.id).map fun user => { a with user }

/-! ### Reading with a token -/

section Check

variable [DecidableEq Token] (R : UuidText Token)

/-- `validate_uuid4` -/
def validateUuid4 (token : String) : Except PyError String :=
  if (R.parse token).isSome then .ok token else .error (.httpException 401)

/-- `check_readonly_token`, with the rows in the order in which the database gives them. -/
def checkReadonlyToken (accounts : List (Account ID Token)) (token : String) :
    Except PyError String := do
  let token ← validateUuid4 R token
  match R.bind token with
  | none => throw (.external "DataError")
  | some t =>
    match accounts.find? fun a => a.readonlyToken = some t with
    | none => throw (.httpException 401)
    | some a =>
      if a.user.role.q ≥ Role.reader.q then return token else throw (.httpException 401)

end Check

/-! ### The requests for a token -/

section Sessions

variable (uuid4 : ℕ → Token)

/-- The account with a new token. -/
def Account.rotate (u : ID) (t : Token) (a : Account ID Token) : Account ID Token :=
  if a.id = u then { a with readonlyToken := some t } else a

/-- The next step of `get_readonly_token` or `rotate_readonly_token`. -/
def TokenSession.turn (s : AccountDb ID Token) (session : TokenSession ID Token) :
    Option (List (Account ID Token) × ℕ × TokenPhase Token) :=
  let u := session.currentUser
  match session.phase with
  | .started => some
    (s.accounts, s.drawn,
      match currentActiveUser (usersOf s.accounts) u >>= checkRole .reader with
      | .error e => .done (.error e)
      | .ok _ =>
        match session.request, (s.accounts.find? fun a => a.id = u).bind (·.readonlyToken) with
        | .getReadonlyToken, some t => .done (.ok t)
        | _, _ => .loaded)
  | .loaded =>
    some (s.accounts.map (Account.rotate u (uuid4 s.drawn)), s.drawn + 1,
      -- no row is updated where the account is gone
      if s.accounts.any fun a => a.id = u then .done (.ok (uuid4 s.drawn))
      else .done (.error (.external "StaleDataError")))
  | .done _ => none

/-- The user of a registration: what it says of its own rights is left out. -/
def UserRegister.toUser (r : UserRegister) : User where
  email := r.email
  password := r.password
  isActive := true
  isSuperuser := false
  isVerified := false
  firstName := r.firstName
  lastName := r.lastName
  role := .public

/-- The account of a new user. -/
def UserCreate.toUser (r : UserCreate) : User :=
  { r.toUserRegister.toUser with
    isSuperuser := r.isSuperuser, isVerified := r.isVerified, role := r.role }

/-- `user_manager.create` with a new id: the accounts, and how many values of `uuid4` are drawn. -/
def createAccount (s : AccountDb ID Token) (id : ID) (user : User) : AccountDb ID Token :=
  if s.accounts.any fun a => a.id = id ∨ lower a.user.email = lower user.email then s
  else
    { s with
      accounts := s.accounts ++ [⟨id, user, some (uuid4 s.drawn)⟩]
      drawn := s.drawn + 1 }

/-- The account of an email with another password. -/
def Account.setPassword (email password : String) (a : Account ID Token) : Account ID Token :=
  if lower a.user.email = lower email then { a with user := { a.user with password } } else a

/-- `create_user`: an account that is there gets its password anew. -/
def createUser (s : AccountDb ID Token) (id : ID) (user : UserCreate) (forceSetPassword : Bool) :
    AccountDb ID Token :=
  let accounts := if forceSetPassword then
    s.accounts.map (Account.setPassword user.email user.password) else s.accounts
  createAccount uuid4 { s with accounts } id user.toUser

namespace AccountDb

variable (T : UuidText ID)

/-- The state after an action. -/
def step (s : AccountDb ID Token) : AccountAction ID → Option (AccountDb ID Token)
  | .request request currentUser =>
    some { s with sessions := s.sessions ++ [⟨request, currentUser, .started⟩] }
  | .step i => do
    let session ← s.sessions[i]?
    let (accounts, drawn, phase) ← session.turn uuid4 s
    return { accounts, drawn, sessions := s.sessions.set i { session with phase } }
  | .users req =>
    some { s with accounts := setUsers s.accounts (req.handle T (usersOf s.accounts)).1 }
  | .register id user => some (createAccount uuid4 s id user.toUser)
  | .createUser id user forceSetPassword =>
    some (StormPiper.createUser uuid4 s id user forceSetPassword)

/-- Requests, registrations and starts, in any order. -/
def machine : Machine (AccountDb ID Token) (AccountAction ID) := ⟨step uuid4 T⟩

/-! ### Whose token is whose -/

/-- The ids of the accounts with their tokens. -/
def keys (s : AccountDb ID Token) : List (ID × Option Token) :=
  s.accounts.map fun a => (a.id, a.readonlyToken)

/-- Two accounts have different ids and different tokens. -/
def Differ (k k' : ID × Option Token) : Prop :=
  k.1 ≠ k'.1 ∧ ∀ t, k.2 = some t → k'.2 ≠ some t

/-- Ids and tokens are those of one account, and no token of an account is drawn again before the
`N`-th value of `uuid4`. -/
structure Distinct (N : ℕ) (s : AccountDb ID Token) : Prop where
  differ : s.keys.Pairwise Differ
  fresh : ∀ n, s.drawn ≤ n → n < N → ∀ k ∈ s.keys, k.2 ≠ some (uuid4 n)

/-- What an action does to the tokens. -/
inductive Wrote (s s' : AccountDb ID Token) : Prop
  /-- Accounts may be deleted. -/
  | kept : s'.keys.Sublist s.keys → s'.drawn = s.drawn → Wrote s s'
  | rotated (u : ID) : s'.keys =
      s.keys.map (fun k => if k.1 = u then (u, some (uuid4 s.drawn)) else k) →
      s'.drawn = s.drawn + 1 → Wrote s s'
  | created (u : ID) : u ∉ s.keys.map Prod.fst →
      s'.keys = s.keys ++ [(u, some (uuid4 s.drawn))] → s'.drawn = s.drawn + 1 → Wrote s s'

end AccountDb

end Sessions

end Model

/-! ### What a step does to the tokens -/

namespace AccountDb

variable {ID Token : Type} [DecidableEq ID] {uuid4 : ℕ → Token}
  {T : UuidText ID} {R : UuidText Token} {s s' : AccountDb ID Token} {N : ℕ}

omit [DecidableEq ID] in
theorem Differ.symm {k k' : ID × Option Token} (h : Differ k k') : Differ k' k :=
  ⟨h.1.symm, fun t ht ht' => h.2 t ht' ht⟩

theorem keys_rotate (u : ID) (t : Token) (accounts : List (Account ID Token)) :
    ((accounts.map (Account.rotate u t)).map fun a => (a.id, a.readonlyToken)) =
      (accounts.map fun a => (a.id, a.readonlyToken)).map
        fun k => if k.1 = u then (u, some t) else k := by
  rw [List.map_map, List.map_map]
  refine List.map_congr_left fun a _ => ?_
  by_cases hu : a.id = u <;> simp [Account.rotate, hu]

omit [DecidableEq ID] in
theorem keys_setUsers (accounts : List (Account ID Token)) (db : Users ID) :
    ((setUsers accounts db).map fun a => (a.id, a.readonlyToken)).Sublist
      (accounts.map fun a => (a.id, a.readonlyToken)) := by
  induction accounts with
  | nil => exact .slnil
  | cons a accounts ih =>
    cases hdb : db a.id with
    | none => simpa [setUsers, hdb] using ih.cons (a.id, a.readonlyToken)
    | some user => simpa [setUsers, hdb] using ih

theorem wrote_createAccount (s : AccountDb ID Token) (id : ID) (user : User) :
    Wrote uuid4 s (createAccount uuid4 s id user) := by
  unfold createAccount
  split_ifs with hthere
  · exact .kept (.refl _) rfl
  · refine .created id ?_ (List.map_append ..) rfl
    rintro hmem
    obtain ⟨k, hk, rfl⟩ := List.mem_map.1 hmem
    obtain ⟨a, ha, rfl⟩ := List.mem_map.1 hk
    exact hthere (List.any_eq_true.2 ⟨a, ha, decide_eq_true (.inl rfl)⟩)

omit [DecidableEq ID] in
theorem keys_setPassword (email password : String) (accounts : List (Account ID Token)) :
    ((accounts.map (Account.setPassword email password)).map fun a => (a.id, a.readonlyToken)) =
      accounts.map fun a => (a.id, a.readonlyToken) := by
  rw [List.map_map]
  refine List.map_congr_left fun a _ => ?_
  by_cases hemail : lower a.user.email = lower email <;> simp [Account.setPassword, hemail]

/-- Only the tokens count. -/
theorem Wrote.congr {s₁ : AccountDb ID Token} (h : Wrote uuid4 s₁ s') (hkeys : s₁.keys = s.keys)
    (hdrawn : s₁.drawn = s.drawn) : Wrote uuid4 s s' := by
  cases h with
  | kept hsub heq => exact .kept (hkeys ▸ hsub) (hdrawn ▸ heq)
  | rotated u heq hnext => exact .rotated u (hkeys ▸ hdrawn ▸ heq) (hdrawn ▸ hnext)
  | created u hu heq hnext => exact .created u (hkeys ▸ hu) (hkeys ▸ hdrawn ▸ heq) (hdrawn ▸ hnext)

theorem wrote_createUser (s : AccountDb ID Token) (id : ID) (user : UserCreate)
    (forceSetPassword : Bool) :
    Wrote uuid4 s (StormPiper.createUser uuid4 s id user forceSetPassword) := by
  cases forceSetPassword with
  | true =>
    let accounts := s.accounts.map (Account.setPassword user.email user.password)
    have hcreated : Wrote uuid4 { s with accounts }
        (StormPiper.createUser uuid4 s id user true) := wrote_createAccount _ id user.toUser
    exact hcreated.congr (keys_setPassword user.email user.password s.accounts) rfl
  | false => exact wrote_createAccount s id user.toUser

/-- An action keeps the tokens, rotates the one of an account or creates an account with one. -/
theorem wrote_step {a : AccountAction ID} (h : step uuid4 T s a = some s') : Wrote uuid4 s s' := by
  cases a with
  | request request currentUser =>
    cases h
    exact .kept (.refl _) rfl
  | step i =>
    simp only [step, Option.bind_eq_bind, Option.bind_eq_some_iff] at h
    obtain ⟨session, -, ⟨accounts, drawn, phase⟩, hturn, hs'⟩ := h
    cases hs'
    unfold TokenSession.turn at hturn
    cases hphase : session.phase with
    | started =>
      rw [hphase] at hturn
      cases hturn
      exact .kept (.refl _) rfl
    | loaded =>
      rw [hphase] at hturn
      cases hturn
      exact .rotated session.currentUser (keys_rotate ..) rfl
    | done answer =>
      rw [hphase] at hturn
      cases hturn
  | users req =>
    cases h
    exact .kept (keys_setUsers ..) rfl
  | register id user =>
    cases h
    exact wrote_createAccount s id user.toUser
  | createUser id user forceSetPassword =>
    cases h
    exact wrote_createUser s id user forceSetPassword

/-- An account has the token that it had, or a new one. -/
theorem Wrote.mem (h : Wrote uuid4 s s') {k : ID × Option Token} (hk : k ∈ s'.keys) :
    k ∈ s.keys ∨ (k.2 = some (uuid4 s.drawn) ∧ s'.drawn = s.drawn + 1) := by
  cases h with
  | kept hkeys _ => exact .inl (hkeys.subset hk)
  | rotated u hkeys hdrawn =>
    rw [hkeys] at hk
    obtain ⟨k₀, hk₀, rfl⟩ := List.mem_map.1 hk
    split_ifs
    · exact .inr ⟨rfl, hdrawn⟩
    · exact .inl hk₀
  | created u _ hkeys hdrawn =>
    rw [hkeys] at hk
    rcases List.mem_append.1 hk with hk | hk
    · exact .inl hk
    · obtain rfl := List.mem_singleton.1 hk
      exact .inr ⟨rfl, hdrawn⟩

theorem Wrote.drawn_le (h : Wrote uuid4 s s') : s.drawn ≤ s'.drawn := by
  cases h <;> omega

/-- **Ids and tokens stay distinct.** -/
theorem Distinct.wrote (hinj : Set.InjOn uuid4 (Set.Iio N)) (h : s.Distinct uuid4 N)
    (hw : Wrote uuid4 s s') (hN : s'.drawn ≤ N) : s'.Distinct uuid4 N where
  fresh := by
    intro n hn hlt k hk
    rcases hw.mem hk with hold | ⟨hnew, hdrawn⟩
    · exact h.fresh n (hw.drawn_le.trans hn) hlt k hold
    · rw [hnew, ne_eq, Option.some.injEq]
      intro heq
      have hs : s.drawn < N := by omega
      have := hinj hs hlt heq
      omega
  differ := by
    cases hw with
    | kept hkeys _ => exact h.differ.sublist hkeys
    | rotated u hkeys hdrawn =>
      have hfresh := h.fresh s.drawn le_rfl (by omega)
      rw [hkeys, List.pairwise_map]
      refine h.differ.imp_of_mem fun {k k'} hk hk' hdiffer => ?_
      split_ifs with hu hu' hu'
      · exact absurd (hu.trans hu'.symm) hdiffer.1
      · refine ⟨fun heq => hu' heq.symm, fun t ht ht' => ?_⟩
        exact hfresh k' hk' (ht'.trans ht.symm)
      · exact ⟨hu, fun t ht ht' => hfresh k hk (ht.trans ht'.symm)⟩
      · exact hdiffer
    | created u hu hkeys hdrawn =>
      have hfresh := h.fresh s.drawn le_rfl (by omega)
      rw [hkeys, List.pairwise_append]
      refine ⟨h.differ, List.pairwise_singleton .., fun k hk k' hk' => ?_⟩
      obtain rfl := List.mem_singleton.1 hk'
      refine ⟨fun heq => hu (List.mem_map.2 ⟨k, hk, heq⟩), fun t ht ht' => ?_⟩
      exact hfresh k hk (ht.trans ht'.symm)

theorem distinct_run (hinj : Set.InjOn uuid4 (Set.Iio N)) (h₀ : s.Distinct uuid4 N)
    {as : List (AccountAction ID)} (hrun : (machine uuid4 T).run s as = some s')
    (hN : s'.drawn ≤ N) : s'.Distinct uuid4 N := by
  -- the number of values only grows, so that it is small enough in every state before
  refine Machine.invariant (I := fun s => s.drawn ≤ N → s.Distinct uuid4 N) (fun _ => h₀)
    (fun s a s' h hstep hN => ?_) hrun hN
  have hw := wrote_step hstep
  exact (h (hw.drawn_le.trans hN)).wrote hinj hw hN

/-! ### Who is let in -/

omit [DecidableEq ID] in
/-- A token is that of one account. -/
theorem Distinct.eq_of_token (h : s.Distinct uuid4 N) {a a' : Account ID Token}
    (ha : a ∈ s.accounts) (ha' : a' ∈ s.accounts) {t : Token} (ht : a.readonlyToken = some t)
    (ht' : a'.readonlyToken = some t) : a = a' := by
  by_contra hne
  have hpair : s.accounts.Pairwise fun a a' =>
      Differ (a.id, a.readonlyToken) (a'.id, a'.readonlyToken) := List.pairwise_map.1 h.differ
  have hsymm : Std.Symm fun a a' : Account ID Token =>
      Differ (a.id, a.readonlyToken) (a'.id, a'.readonlyToken) := ⟨fun _ _ => Differ.symm⟩
  exact (hpair.forall ha ha' hne).2 t ht ht'

omit [DecidableEq ID] in
theorem checkReadonlyToken_eq_ok [DecidableEq Token] {rows : List (Account ID Token)}
    {token : String} :
    checkReadonlyToken R rows token = .ok token ↔ (R.parse token).isSome ∧
      ∃ t, R.bind token = some t ∧ ∃ a, rows.find? (fun a => a.readonlyToken = some t) = some a ∧
        Role.reader.q ≤ a.user.role.q := by
  unfold checkReadonlyToken validateUuid4
  by_cases hparse : (R.parse token).isSome
  · rw [if_pos hparse, ok_bind]
    cases hbind : R.bind token with
    | none => simp [hparse]
    | some t =>
      dsimp only
      cases hfind : rows.find? fun a => a.readonlyToken = some t with
      | none => simp [hfind]
      | some a => simp [hparse, hfind, ite_throw_eq_ok, pure_eq_ok]
  · rw [if_neg hparse]
    simp [hparse, error_bind]

omit [DecidableEq ID] in
theorem of_find? [DecidableEq Token] {rows : List (Account ID Token)} {a : Account ID Token}
    {t : Token} (h : rows.find? (fun a => a.readonlyToken = some t) = some a) :
    a ∈ rows ∧ a.readonlyToken = some t :=
  ⟨List.mem_of_find?_eq_some h, by simpa using List.find?_some h⟩

/-! ### A token that is rotated away -/

/-- What is known of the token `t` of the account of `u` while a request rotates it. -/
def Rotated (u : ID) (t : Token) (s : AccountDb ID Token) : TokenPhase Token → Prop
  | .started | .loaded => ∀ k ∈ s.keys, k.2 = some t → k.1 = u
  | .done (.ok t') => t' ≠ t ∧ ∀ k ∈ s.keys, k.2 ≠ some t
  | .done (.error _) => True

variable {u : ID} {t : Token} {i : ℕ}

/-- What others write does not bring the token back. -/
theorem Rotated.wrote {phase : TokenPhase Token} (h : Rotated u t s phase)
    (hspent : ∀ n, s.drawn ≤ n → n < N → uuid4 n ≠ t) (hw : Wrote uuid4 s s')
    (hN : s'.drawn ≤ N) : Rotated u t s' phase := by
  have hold : ∀ k ∈ s'.keys, k.2 = some t → k ∈ s.keys := by
    intro k hk ht
    rcases hw.mem hk with hk | ⟨hnew, hdrawn⟩
    · exact hk
    · exact absurd (Option.some.inj (hnew.symm.trans ht)) (hspent s.drawn le_rfl (by omega))
  match phase, h with
  | .started, h => exact fun k hk ht => h k (hold k hk ht) ht
  | .loaded, h => exact fun k hk ht => h k (hold k hk ht) ht
  | .done (.ok t'), h => exact ⟨h.1, fun k hk ht => h.2 k (hold k hk ht) ht⟩
  | .done (.error e), _ => trivial

/-- The request's own steps rotate it away. -/
theorem Rotated.turn {phase phase' : TokenPhase Token} {accounts : List (Account ID Token)}
    {drawn : ℕ} (h : Rotated u t s phase) (hspent : ∀ n, s.drawn ≤ n → n < N → uuid4 n ≠ t)
    (hturn : (⟨.rotateReadonlyToken, u, phase⟩ : TokenSession ID Token).turn uuid4 s =
      some (accounts, drawn, phase')) (hN : drawn ≤ N) (sessions : List (TokenSession ID Token)) :
    Rotated u t { accounts, drawn, sessions } phase' := by
  match phase, h with
  | .started, h =>
    simp only [TokenSession.turn, Option.some.injEq, Prod.mk.injEq] at hturn
    obtain ⟨rfl, rfl, rfl⟩ := hturn
    cases currentActiveUser (usersOf s.accounts) u >>= checkRole .reader with
    | error e => trivial
    | ok user => exact h
  | .loaded, h =>
    simp only [TokenSession.turn, Option.some.injEq, Prod.mk.injEq] at hturn
    obtain ⟨rfl, rfl, rfl⟩ := hturn
    have hne := hspent s.drawn le_rfl hN
    split_ifs with hthere
    · refine ⟨hne, fun k hk ht => ?_⟩
      rw [keys, keys_rotate] at hk
      obtain ⟨k₀, hk₀, rfl⟩ := List.mem_map.1 hk
      split_ifs at ht with hu
      · exact hne (Option.some.inj ht)
      · exact hu (h k₀ hk₀ ht)
    · trivial
  | .done answer, _ => cases hturn

/-- A step leaves a request as it was, or is the next one of it. -/
theorem session_step {a : AccountAction ID} (h : step uuid4 T s a = some s')
    {session : TokenSession ID Token} (hi : s.sessions[i]? = some session) :
    s'.sessions[i]? = some session ∨ ∃ accounts drawn phase,
      session.turn uuid4 s = some (accounts, drawn, phase) ∧
      s' = { accounts, drawn, sessions := s.sessions.set i { session with phase } } := by
  have hlt : i < s.sessions.length := (List.getElem?_eq_some_iff.1 hi).1
  cases a with
  | request request currentUser =>
    cases h
    exact .inl (by rw [← hi]; exact List.getElem?_append_left hlt)
  | step j =>
    simp only [step, Option.bind_eq_bind, Option.bind_eq_some_iff] at h
    obtain ⟨session', hj, ⟨accounts, drawn, phase⟩, hturn, hs'⟩ := h
    cases hs'
    by_cases hij : i = j
    · subst hij
      obtain rfl := Option.some.inj (hi.symm.trans hj)
      exact .inr ⟨accounts, drawn, phase, hturn, rfl⟩
    · exact .inl (by rw [← hi]; exact List.getElem?_set_ne (Ne.symm hij))
  | users req =>
    cases h
    exact .inl hi
  | register id user =>
    cases h
    refine .inl ?_
    unfold createAccount
    split_ifs <;> exact hi
  | createUser id user forceSetPassword =>
    cases h
    refine .inl ?_
    unfold StormPiper.createUser createAccount
    dsimp only
    split_ifs <;> exact hi

/-- The token is spent, and known of at each point of the request. -/
structure Rotating (uuid4 : ℕ → Token) (N i : ℕ) (u : ID) (t : Token) (s : AccountDb ID Token) :
    Prop where
  spent : ∀ n, s.drawn ≤ n → n < N → uuid4 n ≠ t
  phase : ∃ phase, s.sessions[i]? = some ⟨.rotateReadonlyToken, u, phase⟩ ∧ Rotated u t s phase

theorem Rotating.step {a : AccountAction ID} (h : Rotating uuid4 N i u t s)
    (hstep : step uuid4 T s a = some s') (hN : s'.drawn ≤ N) : Rotating uuid4 N i u t s' where
  spent n hn := h.spent n ((wrote_step hstep).drawn_le.trans hn)
  phase := by
    obtain ⟨phase, hi, hrotated⟩ := h.phase
    rcases session_step hstep hi with hi' | ⟨accounts, drawn, phase', hturn, rfl⟩
    · exact ⟨phase, hi', hrotated.wrote h.spent (wrote_step hstep) hN⟩
    · refine ⟨phase', ?_, hrotated.turn h.spent hturn hN _⟩
      exact List.getElem?_set_self (List.getElem?_eq_some_iff.1 hi).1

theorem rotating_run (h₀ : Rotating uuid4 N i u t s) {as : List (AccountAction ID)}
    (hrun : (machine uuid4 T).run s as = some s') (hN : s'.drawn ≤ N) :
    Rotating uuid4 N i u t s' := by
  refine Machine.invariant (I := fun s => s.drawn ≤ N → Rotating uuid4 N i u t s) (fun _ => h₀)
    (fun s a s' h hstep hN => ?_) hrun hN
  exact (h ((wrote_step hstep).drawn_le.trans hN)).step hstep hN

end AccountDb

/-! ### The main results -/

section Runs

variable {ID Token : Type} [DecidableEq ID] [DecidableEq Token] {uuid4 : ℕ → Token}
  {T : UuidText ID} {R : UuidText Token} {s s' : AccountDb ID Token} {as : List (AccountAction ID)}
  {N : ℕ}

/-- **Who is let in.**  In every state, in whatever order the database gives the rows, a text opens
the data exactly if it is a text of the token of an account of a reader or more.  No two accounts
have one token, as long as the values of `uuid4` differ. -/
theorem readonlyTokens_run (hinj : Set.InjOn uuid4 (Set.Iio N)) (h₀ : s.Distinct uuid4 N)
    (hrun : (AccountDb.machine uuid4 T).run s as = some s') (hN : s'.drawn ≤ N) :
    s'.Distinct uuid4 N ∧ ∀ rows, rows.Perm s'.accounts → ∀ token,
      (checkReadonlyToken R rows token = .ok token ↔ (R.parse token).isSome ∧
        ∃ t, R.bind token = some t ∧ ∃ a ∈ s'.accounts, a.readonlyToken = some t ∧
          Role.reader.q ≤ a.user.role.q) := by
  have hdistinct := AccountDb.distinct_run hinj h₀ hrun hN
  refine ⟨hdistinct, fun rows hrows token => ?_⟩
  rw [AccountDb.checkReadonlyToken_eq_ok]
  refine and_congr_right fun _ => exists_congr fun t => and_congr_right fun _ => ?_
  constructor
  · rintro ⟨a, hfind, hrole⟩
    obtain ⟨hmem, ht⟩ := AccountDb.of_find? hfind
    exact ⟨a, hrows.mem_iff.1 hmem, ht, hrole⟩
  · rintro ⟨a, ha, ht, hrole⟩
    cases hfind : rows.find? fun a => a.readonlyToken = some t with
    | none => exact absurd ht (by simpa using List.find?_eq_none.1 hfind a (hrows.mem_iff.2 ha))
    | some b =>
      obtain ⟨hmem, hb⟩ := AccountDb.of_find? hfind
      obtain rfl := hdistinct.eq_of_token (hrows.mem_iff.1 hmem) ha hb ht
      exact ⟨b, rfl, hrole⟩

/-- The sixteen UUIDs of one digit, over and over. -/
def repeatedDigits (n : ℕ) : Uuid := Uuid.repeated ⟨n % 16, Nat.mod_lt n (Nat.succ_pos 15)⟩

theorem injOn_repeatedDigits : Set.InjOn repeatedDigits (Set.Iio 16) := by
  have hdecide : ∀ m < 16, ∀ n < 16, repeatedDigits m = repeatedDigits n → m = n := by
    decide +kernel
  exact fun m hm n hn => hdecide m hm n hn

/-- A reader and an editor ask to have their tokens rotated. -/
def twoReaders : AccountDb Uuid Uuid where
  accounts :=
    [⟨repeatedDigits 10, User.superuser .reader, some (repeatedDigits 0)⟩,
      ⟨repeatedDigits 11, User.superuser .editor, some (repeatedDigits 1)⟩]
  drawn := 2
  sessions :=
    [⟨.rotateReadonlyToken, repeatedDigits 10, .started⟩,
      ⟨.rotateReadonlyToken, repeatedDigits 11, .started⟩]

/-- Both load their users before either commits, and the reader asks for the token in between. -/
def rotateBoth : List (AccountAction Uuid) :=
  [.step 0, .step 1, .step 1, .request .getReadonlyToken (repeatedDigits 10), .step 0, .step 2]

/-- Both with the next tokens, drawn in the order of the commits. -/
def twoReadersRotated : AccountDb Uuid Uuid where
  accounts :=
    [⟨repeatedDigits 10, User.superuser .reader, some (repeatedDigits 3)⟩,
      ⟨repeatedDigits 11, User.superuser .editor, some (repeatedDigits 2)⟩]
  drawn := 4
  sessions :=
    [⟨.rotateReadonlyToken, repeatedDigits 10, .done (.ok (repeatedDigits 3))⟩,
      ⟨.rotateReadonlyToken, repeatedDigits 11, .done (.ok (repeatedDigits 2))⟩,
      ⟨.getReadonlyToken, repeatedDigits 10, .done (.ok (repeatedDigits 3))⟩]

theorem run_twoReaders :
    (AccountDb.machine repeatedDigits Uuid.text).run twoReaders rotateBoth =
      some twoReadersRotated := rfl

theorem distinct_twoReaders : twoReaders.Distinct repeatedDigits 16 where
  differ := by
    refine List.pairwise_pair.2 ⟨by decide, fun t ht ht' => ?_⟩
    have hne : repeatedDigits 1 ≠ repeatedDigits 0 := by decide
    exact hne (Option.some.inj (ht'.trans ht.symm))
  fresh := by
    intro n hn hlt k hk heq
    have htwo : 2 ≤ n := hn
    have hdigit : ∃ m < 2, k.2 = some (repeatedDigits m) := by
      rcases List.mem_pair.1 hk with rfl | rfl
      · exact ⟨0, by omega, rfl⟩
      · exact ⟨1, by omega, rfl⟩
    obtain ⟨m, hm, hk⟩ := hdigit
    have hmn : m = n := injOn_repeatedDigits (hm.trans (by decide : 2 < 16)) hlt
      (Option.some.inj (hk.symm.trans heq))
    omega

/-- Each new token opens the data. -/
theorem readonlyTokens_run_twoReaders :
    twoReadersRotated.Distinct repeatedDigits 16 ∧
      checkReadonlyToken Uuid.text twoReadersRotated.accounts
        "33333333-3333-3333-3333-333333333333" = .ok "33333333-3333-3333-3333-333333333333" ∧
      checkReadonlyToken Uuid.text twoReadersRotated.accounts.reverse
        "22222222-2222-2222-2222-222222222222" = .ok "22222222-2222-2222-2222-222222222222" := by
  obtain ⟨hdistinct, hcheck⟩ := readonlyTokens_run (R := Uuid.text) injOn_repeatedDigits
    distinct_twoReaders run_twoReaders (by decide)
  refine ⟨hdistinct, (hcheck _ (.refl _) _).2 ?_, (hcheck _ (List.reverse_perm _) _).2 ?_⟩
  · have hparse : (Uuid.text.parse "33333333-3333-3333-3333-333333333333").isSome := by
      decide +kernel
    have hbind : Uuid.text.bind "33333333-3333-3333-3333-333333333333" =
        some (repeatedDigits 3) := by decide +kernel
    exact ⟨hparse, repeatedDigits 3, hbind, _, List.mem_cons_self, rfl, le_rfl⟩
  · have hparse : (Uuid.text.parse "22222222-2222-2222-2222-222222222222").isSome := by
      decide +kernel
    have hbind : Uuid.text.bind "22222222-2222-2222-2222-222222222222" =
        some (repeatedDigits 2) := by decide +kernel
    have hmem : twoReadersRotated.accounts[1] ∈ twoReadersRotated.accounts := List.getElem_mem _
    exact ⟨hparse, repeatedDigits 2, hbind, _, hmem, rfl, by decide⟩

/-- **A rotated token is dead.**  When a request to rotate a token is answered, the token that the
account had when it was made opens nothing any more, whatever happened meanwhile and happens
later, and the answer is another one. -/
theorem readonlyToken_rotated (h₀ : s.Distinct uuid4 N) {i : ℕ} {a : Account ID Token}
    {t t' : Token}
    (ha : a ∈ s.accounts) (ht : a.readonlyToken = some t)
    (hi : s.sessions[i]? = some ⟨.rotateReadonlyToken, a.id, .started⟩)
    (hrun : (AccountDb.machine uuid4 T).run s as = some s') (hN : s'.drawn ≤ N)
    (hdone : s'.sessions[i]? = some ⟨.rotateReadonlyToken, a.id, .done (.ok t')⟩) :
    t' ≠ t ∧ ∀ rows, rows.Perm s'.accounts → ∀ token, R.bind token = some t →
      checkReadonlyToken R rows token ≠ .ok token := by
  have hstart : AccountDb.Rotating uuid4 N i a.id t s := by
    refine ⟨fun n hn hlt heq => ?_, .started, hi, fun k hk hkt => ?_⟩
    · exact h₀.fresh n hn hlt _ (List.mem_map_of_mem ha) (by rw [ht, heq])
    · obtain ⟨b, hb, rfl⟩ := List.mem_map.1 hk
      rw [h₀.eq_of_token hb ha hkt ht]
  obtain ⟨phase, hphase, hrotated⟩ := (AccountDb.rotating_run hstart hrun hN).phase
  obtain rfl : phase = .done (.ok t') :=
    congrArg TokenSession.phase (Option.some.inj (hphase.symm.trans hdone))
  obtain ⟨hne, hgone⟩ := hrotated
  refine ⟨hne, fun rows hrows token hbind hok => ?_⟩
  obtain ⟨-, t₁, hbind', b, hfind, -⟩ := AccountDb.checkReadonlyToken_eq_ok.1 hok
  obtain rfl := Option.some.inj (hbind.symm.trans hbind')
  obtain ⟨hmem, htoken⟩ := AccountDb.of_find? hfind
  exact hgone _ (List.mem_map_of_mem (hrows.mem_iff.1 hmem)) htoken

/-- The reader's old token opens nothing, though the editor's was rotated meanwhile. -/
theorem readonlyToken_rotated_twoReaders :
    repeatedDigits 3 ≠ repeatedDigits 0 ∧
      checkReadonlyToken Uuid.text twoReadersRotated.accounts
        "00000000-0000-0000-0000-000000000000" ≠ .ok "00000000-0000-0000-0000-000000000000" := by
  have hbind : Uuid.text.bind "00000000-0000-0000-0000-000000000000" =
      some (repeatedDigits 0) := by decide +kernel
  obtain ⟨hne, hcheck⟩ := readonlyToken_rotated (R := Uuid.text) (i := 0) distinct_twoReaders
    List.mem_cons_self rfl rfl run_twoReaders (by decide) rfl
  exact ⟨hne, hcheck _ (.refl _) _ hbind⟩

end Runs

end StormPiper
