import StormPiper.Users.Checks
import StormPiper.Run.Machine

/-!
# Patching and deleting users

The routes `PATCH /users/me`, `PATCH /users/{id}` and `DELETE /users/{id}` with their dependencies:
the superuser check of the route, the role check that is appended to it by its name, and the check
of the role in the payload (`api/endpoints/users.py`).

The endpoint reads its user from the token or from the path.  The check reads it from its own
argument `id`: the path parameter on `/users/{id}`, a query parameter on `/users/me`.

* `UserRequest.handle` : the users after a request, and its error if it is rejected.
* `passesCheck_of_none`, `passesCheck_noId`, `passesCheck_id` : what the check of a request asks.
* `dependencies_eq_ok`, `endpoint_eq_ok` : what it takes to pass the two parts of a request.
-/

namespace StormPiper

/-- A route with its path parameter and its payload, `none` for a payload that is not valid. -/
inductive UserRoute where
  | patchCurrentUser (userUpdate : Option UserUpdate)
  | patchUser (id : String) (userUpdate : Option UserUpdate)
  | deleteUser (id : String)
  deriving DecidableEq, Repr

/-- A request to one of the routes. -/
structure UserRequest (ID : Type) where
  /-- The user of the token. -/
  currentUser : ID
  route : UserRoute
  query : List (String × String)
  /-- The error of an endpoint that fails after its dependencies. -/
  endpointError : Option PyError
  deriving DecidableEq, Repr

/-- The value of a query parameter, which is the last one given. -/
def queryParam (name : String) (query : List (String × String)) : Option String :=
  (query.reverse.find? (·.1 = name)).map (·.2)

section

variable {ID : Type} (T : UuidText ID) (db : Users ID)

/-- `get_user_or_404` -/
def getUserOr404 (id : String) : Except PyError (ID × User) :=
  match T.parse id with
  | some u =>
    match db u with
    | some user => .ok (u, user)
    | none => .error (.httpException 404)
  | none => .error (.httpException 404)

end

namespace UserRequest

section

variable {ID : Type} (T : UuidText ID) (req : UserRequest ID)

/-- The user whom the endpoint changes or deletes. -/
def target : Option ID :=
  match req.route with
  | .patchCurrentUser _ => some req.currentUser
  | .patchUser id _ | .deleteUser id => T.parse id

/-- The argument `id` of `check_protected_user_patch`. -/
def id : Option String :=
  match req.route with
  | .patchCurrentUser _ => queryParam "id" req.query
  | .patchUser id _ => some id
  | .deleteUser _ => none

/-- The payload, if it is valid. -/
def userUpdate : Option UserUpdate :=
  match req.route with
  | .patchCurrentUser userUpdate | .patchUser _ userUpdate => userUpdate
  | .deleteUser _ => none

/-- The role that the payload sets. -/
def newRole : Option Role := req.userUpdate.bind (·.role)

/-- The route names its user by the id in its path. -/
def ById : Prop := ∀ userUpdate, req.route ≠ .patchCurrentUser userUpdate

/-- The payload is not valid. -/
def Malformed : Prop := req.userUpdate = none ∧ ∀ id, req.route ≠ .deleteUser id

end

variable {ID : Type} [DecidableEq ID] (T : UuidText ID) (db : Users ID) (req : UserRequest ID)

/-- The dependencies of a route, in their order: the users after them. -/
def dependencies : Except PyError (Users ID) :=
  match req.route with
  | .patchCurrentUser userUpdate => do
    let user ← currentActiveUser db req.currentUser
    -- a dependency with an invalid payload is not called
    match userUpdate with
    | some userUpdate =>
      checkProtectRoleField T db userUpdate req.currentUser user (queryParam "id" req.query)
    | none => return db
  | .patchUser id userUpdate => do
    let user ← currentActiveSuperUser db req.currentUser
    let user ← checkRole .userAdmin user
    match userUpdate with
    | some userUpdate => checkProtectRoleField T db userUpdate req.currentUser user (some id)
    | none => return db
  | .deleteUser _ => do
    let user ← currentActiveSuperUser db req.currentUser
    let _ ← checkRole .userAdmin user
    return db

/-- The user whom the endpoint is about and what it makes of the user. -/
def updatedUser : Except PyError (ID × Option User) :=
  match req.route with
  | .patchCurrentUser userUpdate => do
    let user ← currentActiveUser db req.currentUser
    match userUpdate with
    | some userUpdate => return (req.currentUser, some (userUpdate.createUpdateDict.applyTo user))
    | none => throw (.httpException 422)
  | .patchUser id userUpdate => do
    let (u, user) ← getUserOr404 T db id
    match userUpdate with
    | some userUpdate => return (u, some (userUpdate.applyTo user))
    | none => throw (.httpException 422)
  | .deleteUser id => do
    let (u, _) ← getUserOr404 T db id
    return (u, none)

/-- The endpoint of a route: the users after it. -/
def endpoint : Except PyError (Users ID) := do
  let (u, user) ← req.updatedUser T db
  match req.endpointError with
  | some e => throw e
  | none => return Function.update db u user

/-- The users after a request, and its error.  What a dependency wrote stays. -/
def handle : Users ID × Option PyError :=
  match req.dependencies T db with
  | .error e => (db, some e)
  | .ok db' =>
    match req.endpoint T db' with
    | .error e => (db', some e)
    | .ok db'' => (db'', none)

end UserRequest

/-- A user admin (`aaaaaaaa-...`) and another user (`00000000-...`). -/
def twoUsers (role : Role) : Users Uuid := fun u =>
  if u = Uuid.repeated 10 then some (.superuser .userAdmin) else
  if u = Uuid.repeated 0 then some (.superuser role) else none

/-- The users, request after request. -/
def usersMachine {ID : Type} [DecidableEq ID] (T : UuidText ID) :
    Machine (Users ID) (UserRequest ID) where
  step db req := some (req.handle T db).1

namespace UserRequest

variable {ID : Type} [DecidableEq ID] {T : UuidText ID} {db db' : Users ID} {req : UserRequest ID}
  {u : ID} {user actor x x' : User} {newRole : Role}

/-! ### The check of a request -/

/-- The valid payload of a request has passed the check of the role. -/
def PassesCheck (T : UuidText ID) (db : Users ID) (req : UserRequest ID) (actor : User)
    (db' : Users ID) : Prop :=
  match req.userUpdate with
  | some userUpdate =>
    checkProtectRoleField T db userUpdate req.currentUser actor req.id = .ok db'
  | none => db' = db

theorem passesCheck_of_none (h : req.newRole = none) :
    req.PassesCheck T db actor db' ↔ db' = db := by
  unfold PassesCheck
  unfold UserRequest.newRole at h
  cases hup : req.userUpdate with
  | none => rfl
  | some userUpdate =>
    rw [hup, Option.bind_some] at h
    dsimp only
    rw [checkProtectRoleField_of_none h, Except.ok.injEq, eq_comm]

/-- A payload with a role that has passed all checks with the text of an id. -/
theorem passesCheck_id {idText : String} (hnew : req.newRole = some newRole)
    (hid : req.id.filter (· ≠ "") = some idText) : req.PassesCheck T db actor db' ↔
      Role.userAdmin.q ≤ actor.role.q ∧ newRole.q ≤ actor.role.q ∧
      (idText = T.str req.currentUser → actor.role = newRole) ∧
      ∃ named, T.bind idText = some named ∧
        (∀ x, db named = some x → x.role.q ≤ actor.role.q) ∧
        Promotes db newRole named db' := by
  obtain ⟨up, hup, hrole⟩ := Option.bind_eq_some_iff.1 hnew
  unfold PassesCheck
  rw [hup]
  exact checkProtectRoleField_id hrole hid

theorem passesCheck_noId (hnew : req.newRole = some newRole)
    (hid : req.id.filter (· ≠ "") = none) : req.PassesCheck T db actor db' ↔
      Role.userAdmin.q ≤ actor.role.q ∧ actor.role = newRole ∧ db' = db := by
  obtain ⟨up, hup, hrole⟩ := Option.bind_eq_some_iff.1 hnew
  unfold PassesCheck
  rw [hup]
  exact checkProtectRoleField_noId hrole hid

omit [DecidableEq ID] in
/-- On another user, the check and the endpoint read the same text. -/
theorem parse_id (htarget : req.target T = some u) (hu : u ≠ req.currentUser)
    (hnew : req.newRole = some newRole) : ∃ idText, req.id.filter (· ≠ "") = some idText ∧
      T.parse idText = some u := by
  unfold UserRequest.target at htarget
  unfold UserRequest.newRole UserRequest.userUpdate at hnew
  unfold UserRequest.id
  cases hroute : req.route with
  | patchCurrentUser userUpdate =>
    rw [hroute] at htarget
    exact absurd (Option.some.inj htarget).symm hu
  | deleteUser id =>
    rw [hroute] at hnew
    cases hnew
  | patchUser id userUpdate =>
    rw [hroute] at htarget
    dsimp only at htarget
    have hne : id ≠ "" := by
      rintro rfl
      rw [T.parse_empty] at htarget
      cases htarget
    exact ⟨id, by simp [Option.filter, hne], htarget⟩

theorem user_passesCheck (h : req.PassesCheck T db actor db') (u : ID) :
    db' u = db u ∨ ∃ x, db u = some x ∧ db' u = some { x with isSuperuser := true } := by
  unfold PassesCheck at h
  cases hup : req.userUpdate with
  | none =>
    rw [hup] at h
    exact .inl (by rw [h])
  | some userUpdate =>
    rw [hup] at h
    exact user_checkProtectRoleField h u

theorem role_passesCheck (h : req.PassesCheck T db actor db') (hx : db u = some x)
    (hx' : db' u = some x') : x'.role = x.role := by
  rcases user_passesCheck h u with hu | ⟨y, hy, hu⟩
  · rw [hu, hx] at hx'
    cases hx'
    rfl
  · rw [hx] at hy
    cases hy
    rw [hx'] at hu
    cases hu
    rfl

/-! ### Dependencies and endpoint -/

omit [DecidableEq ID] in
theorem getUserOr404_eq_ok {id : String} :
    getUserOr404 T db id = .ok (u, user) ↔ T.parse id = some u ∧ db u = some user := by
  constructor
  · intro h
    unfold getUserOr404 at h
    split at h
    · split at h
      · cases h
        exact ⟨‹_›, ‹_›⟩
      · cases h
    · cases h
  · rintro ⟨hparse, huser⟩
    simp only [getUserOr404, hparse, huser]

/-- What it takes to pass the dependencies. -/
theorem dependencies_eq_ok : req.dependencies T db = .ok db' ↔
    ∃ actor, db req.currentUser = some actor ∧ actor.isActive ∧
      (req.ById → actor.isSuperuser ∧ Role.userAdmin.q ≤ actor.role.q) ∧
      req.PassesCheck T db actor db' := by
  unfold dependencies PassesCheck ById userUpdate UserRequest.id
  cases hroute : req.route with
  | patchCurrentUser userUpdate =>
    have hnot : ¬ ∀ u, UserRoute.patchCurrentUser userUpdate ≠ .patchCurrentUser u :=
      fun h => h userUpdate rfl
    simp only [bind_eq_ok_iff, currentActiveUser_eq_ok, and_assoc, hnot, false_implies, true_and]
    cases userUpdate with
    | none => simp only [pure_eq_ok]
    | some userUpdate => rfl
  | patchUser id userUpdate =>
    simp only [bind_eq_ok_iff, currentActiveSuperUser_eq_ok, checkRole_eq_ok, and_assoc, ne_eq,
      reduceCtorEq, not_false_eq_true, implies_true, true_implies, exists_and_left,
      exists_eq_left]
    cases userUpdate with
    | none => simp only [pure_eq_ok]
    | some userUpdate => rfl
  | deleteUser id =>
    simp only [bind_eq_ok_iff, currentActiveSuperUser_eq_ok, checkRole_eq_ok, and_assoc, ne_eq,
      reduceCtorEq, not_false_eq_true, implies_true, true_implies, exists_and_left,
      exists_eq_left, pure_eq_ok]

/-- What the endpoint makes of its user. -/
def after (req : UserRequest ID) (user : User) : Option (Option User) :=
  match req.route with
  | .patchCurrentUser userUpdate => userUpdate.map fun up => some (up.createUpdateDict.applyTo user)
  | .patchUser _ userUpdate => userUpdate.map fun up => some (up.applyTo user)
  | .deleteUser _ => some none

omit [DecidableEq ID] in
theorem updatedUser_eq_ok {after : Option User} : req.updatedUser T db = .ok (u, after) ↔
    req.target T = some u ∧ ∃ x, db u = some x ∧ (¬ req.ById → x.isActive) ∧
      req.after x = some after := by
  unfold updatedUser target UserRequest.after ById
  cases hroute : req.route with
  | patchCurrentUser userUpdate =>
    have hnot : ¬ ∀ u, UserRoute.patchCurrentUser userUpdate ≠ .patchCurrentUser u :=
      fun h => h userUpdate rfl
    simp only [bind_eq_ok_iff, currentActiveUser_eq_ok, and_assoc, hnot, not_false_eq_true,
      true_implies, Option.some.injEq]
    cases userUpdate with
    | none => simp
    | some userUpdate =>
      simp only [pure_eq_ok, Option.map_some, Option.some.injEq, Prod.mk.injEq]
      constructor
      · rintro ⟨x, hx, hactive, rfl, rfl⟩
        exact ⟨rfl, x, hx, hactive, rfl⟩
      · rintro ⟨rfl, x, hx, hactive, rfl⟩
        exact ⟨x, hx, hactive, rfl, rfl⟩
  | patchUser id userUpdate =>
    simp only [bind_eq_ok_iff, Prod.exists, getUserOr404_eq_ok, and_assoc, ne_eq, reduceCtorEq,
      not_false_eq_true, implies_true, not_true_eq_false, false_implies, true_and]
    cases userUpdate with
    | none => simp
    | some userUpdate =>
      simp only [pure_eq_ok, Option.map_some, Option.some.injEq, Prod.mk.injEq]
      constructor
      · rintro ⟨v, x, hparse, hx, rfl, rfl⟩
        exact ⟨hparse, x, hx, rfl⟩
      · rintro ⟨hparse, x, hx, rfl⟩
        exact ⟨u, x, hparse, hx, rfl, rfl⟩
  | deleteUser id =>
    simp only [bind_eq_ok_iff, Prod.exists, getUserOr404_eq_ok, and_assoc, ne_eq, reduceCtorEq,
      not_false_eq_true, implies_true, not_true_eq_false, false_implies, true_and, pure_eq_ok,
      Option.some.injEq, Prod.mk.injEq]
    constructor
    · rintro ⟨v, x, hparse, hx, rfl, rfl⟩
      exact ⟨hparse, x, hx, rfl⟩
    · rintro ⟨hparse, x, hx, rfl⟩
      exact ⟨u, x, hparse, hx, rfl, rfl⟩

/-- What it takes for the endpoint to succeed. -/
theorem endpoint_eq_ok : req.endpoint T db = .ok db' ↔ req.endpointError = none ∧
    ∃ u x after, req.target T = some u ∧ db u = some x ∧ (¬ req.ById → x.isActive) ∧
      req.after x = some after ∧ db' = Function.update db u after := by
  unfold endpoint
  simp only [bind_eq_ok_iff, Prod.exists, updatedUser_eq_ok]
  cases req.endpointError with
  | some e => simp
  | none =>
    simp only [pure_eq_ok, true_and, and_assoc, exists_and_left]
    constructor
    · rintro ⟨u, htarget, after, ⟨x, hx, hactive, hafter⟩, rfl⟩
      exact ⟨u, htarget, x, hx, hactive, after, hafter, rfl⟩
    · rintro ⟨u, htarget, x, hx, hactive, after, hafter, rfl⟩
      exact ⟨u, htarget, after, ⟨x, hx, hactive, hafter⟩, rfl⟩

omit [DecidableEq ID] in
/-- The endpoint writes the role of a valid payload. -/
theorem after_of_userUpdate {userUpdate : UserUpdate} (h : req.userUpdate = some userUpdate)
    (x : User) : ∃ x', req.after x = some (some x') ∧ x'.role = userUpdate.role.getD x.role := by
  unfold UserRequest.userUpdate at h
  unfold UserRequest.after
  cases hroute : req.route with
  | patchCurrentUser up =>
    rw [hroute] at h
    obtain rfl : up = some userUpdate := h
    exact ⟨_, rfl, rfl⟩
  | patchUser id up =>
    rw [hroute] at h
    obtain rfl : up = some userUpdate := h
    exact ⟨_, rfl, rfl⟩
  | deleteUser id =>
    rw [hroute] at h
    cases h

omit [DecidableEq ID] in
theorem exists_userUpdate (h : req.after x = some (some x')) :
    ∃ userUpdate, req.userUpdate = some userUpdate := by
  unfold UserRequest.after at h
  unfold UserRequest.userUpdate
  cases hroute : req.route with
  | patchCurrentUser up =>
    rw [hroute] at h
    obtain ⟨userUpdate, hup, -⟩ := Option.map_eq_some_iff.1 h
    exact ⟨userUpdate, hup⟩
  | patchUser id up =>
    rw [hroute] at h
    obtain ⟨userUpdate, hup, -⟩ := Option.map_eq_some_iff.1 h
    exact ⟨userUpdate, hup⟩
  | deleteUser id =>
    rw [hroute] at h
    cases h

omit [DecidableEq ID] in
theorem role_after (h : req.after x = some (some x')) :
    x'.role = req.newRole.getD x.role := by
  obtain ⟨userUpdate, hup⟩ := exists_userUpdate h
  obtain ⟨y, hy, hrole⟩ := after_of_userUpdate hup x
  obtain rfl : x' = y := by simpa using h.symm.trans hy
  rw [hrole, UserRequest.newRole, hup, Option.bind_some]

omit [DecidableEq ID] in
theorem after_of_newRole (h : req.newRole = some newRole) (x : User) :
    ∃ x', req.after x = some (some x') ∧ x'.role = newRole := by
  obtain ⟨userUpdate, hup, hrole⟩ := Option.bind_eq_some_iff.1 h
  obtain ⟨x', hx', hrole'⟩ := after_of_userUpdate hup x
  exact ⟨x', hx', by rw [hrole', hrole, Option.getD_some]⟩

omit [DecidableEq ID] in
theorem exists_after_iff : (∃ after, req.after x = some after) ↔ ¬ req.Malformed := by
  unfold Malformed UserRequest.userUpdate UserRequest.after
  cases req.route with
  | patchCurrentUser userUpdate => cases userUpdate <;> simp
  | patchUser id userUpdate => cases userUpdate <;> simp
  | deleteUser id => simp

theorem handle_of_rejected (h : ∀ db', req.dependencies T db ≠ .ok db') :
    (req.handle T db).1 = db ∧ (req.handle T db).2.isSome := by
  unfold handle
  cases hdeps : req.dependencies T db with
  | error e => exact ⟨rfl, rfl⟩
  | ok db' => exact absurd hdeps (h db')

theorem handle_of_failed (hdeps : req.dependencies T db = .ok db')
    (h : ∀ db'', req.endpoint T db' ≠ .ok db'') :
    (req.handle T db).1 = db' ∧ (req.handle T db).2.isSome := by
  unfold handle
  rw [hdeps]
  cases hend : req.endpoint T db' with
  | error e => exact ⟨by simp only [hend], by simp only [hend]; rfl⟩
  | ok db'' => exact absurd hend (h db'')

theorem handle_of_accepted {db'' : Users ID} (hdeps : req.dependencies T db = .ok db')
    (h : req.endpoint T db' = .ok db'') : req.handle T db = (db'', none) := by
  simp only [handle, hdeps, h]

end UserRequest

end StormPiper
