import StormPiper.Python.Uuid
import StormPiper.Users.Models
import Mathlib.Logic.Function.Basic

/-!
# The checks of the user

The dependencies of the routes that change users: the user of the token, who is active and may have
to be a superuser, the check of the role, and `check_protected_user_patch`, which looks only at
payloads that set the role (`apps/supersafe/users.py`).

* `checkProtectRoleField_of_none` : a payload without a role passes.
* `checkProtectRoleField_noId`, `checkProtectRoleField_id` : what it takes to pass with a role.
* `user_checkProtectRoleField` : the check writes at most `is_superuser`.
-/

namespace StormPiper

/-- The table of users. -/
abbrev Users (ID : Type) := ID → Option User

section Dependencies

variable {ID : Type} [DecidableEq ID] (T : UuidText ID) (db : Users ID)

/-- `current_active_user` -/
def currentActiveUser (currentUser : ID) : Except PyError User :=
  match db currentUser with
  | some user => if user.isActive then .ok user else .error (.httpException 401)
  | none => .error (.httpException 401)

/-- `current_active_super_user` -/
def currentActiveSuperUser (currentUser : ID) : Except PyError User := do
  let user ← currentActiveUser db currentUser
  if user.isSuperuser then return user else throw (.httpException 403)

/-- `check_role` -/
def checkRole (minRole : Role) (user : User) : Except PyError User :=
  if user.role.q ≥ minRole.q then .ok user else .error (.httpException 401)

/-- `user_db.get(id)` for the text of an id. -/
def userDbGet (id : String) : Except PyError (Option (ID × User)) :=
  match T.bind id with
  | some u => .ok ((db u).map (u, ·))
  | none => .error (.external "DataError")

/-- `getattr(other_user, "role", Role.public)` -/
def otherUserRole (otherUser : Option (ID × User)) : Role :=
  match otherUser with
  | some (_, user) => user.role
  | none => .public

/-- `check_protected_user_patch`: the users after the dependency. -/
def checkProtectedUserPatch (field : UserField) (minRole : Role) (userUpdate : UserUpdate)
    (currentUserId : ID) (currentUser : User) (id : Option String) :
    Except PyError (Users ID) := do
  if field ∉ userUpdate.data then return db
  -- `if id`: empty text counts as no id
  let id := id.filter (· ≠ "")
  let (otherUserCurrentRole, changingSelf) ← match id with
    | some id => do
      let otherUser ← userDbGet T db id
      pure (otherUserRole otherUser, id == T.str currentUserId)
    | none => pure (.public, true)
  let newRole := userUpdate.newRole
  if currentUser.role.q ≥ minRole.q ∧ currentUser.role.q ≥ newRole.q ∧
      currentUser.role.q ≥ otherUserCurrentRole.q ∧
      ¬ (changingSelf ∧ currentUser.role.q ≠ newRole.q) then
    match id with
    | some id =>
      if newRole.q ≥ Role.userAdmin.q then
        match ← userDbGet T db id with
        | some (u, user) => return Function.update db u (some { user with isSuperuser := true })
        -- an attribute of `None` is set
        | none => throw (.external "AttributeError")
      else return db
    | none => return db
  else throw (.httpException 401)

/-- `check_protect_role_field` -/
def checkProtectRoleField := checkProtectedUserPatch T db .role .userAdmin

/-- What the check of a role writes: a user who becomes user admin or more is made a superuser. -/
def Promotes (newRole : Role) (u : ID) (db' : Users ID) : Prop :=
  if Role.userAdmin.q ≤ newRole.q then
    ∃ x, db u = some x ∧ db' = Function.update db u (some { x with isSuperuser := true })
  else db' = db

end Dependencies

section

variable {ID : Type} [DecidableEq ID] {T : UuidText ID} {db db' : Users ID}
  {userUpdate : UserUpdate} {currentUserId : ID} {currentUser : User} {id : Option String}
  {newRole : Role}

omit [DecidableEq ID] in
theorem currentActiveUser_eq_ok :
    currentActiveUser db currentUserId = .ok currentUser ↔
      db currentUserId = some currentUser ∧ currentUser.isActive := by
  unfold currentActiveUser
  cases db currentUserId with
  | none => simp
  | some user =>
    dsimp only
    split_ifs with hactive
    · simp only [Except.ok.injEq, Option.some.injEq]
      exact ⟨fun h => ⟨h, h ▸ hactive⟩, And.left⟩
    · simp only [Option.some.injEq, false_iff, not_and]
      rintro rfl
      exact hactive

omit [DecidableEq ID] in
theorem currentActiveSuperUser_eq_ok :
    currentActiveSuperUser db currentUserId = .ok currentUser ↔
      db currentUserId = some currentUser ∧ currentUser.isActive ∧ currentUser.isSuperuser := by
  simp only [currentActiveSuperUser, bind_eq_ok_iff, currentActiveUser_eq_ok, ite_throw_eq_ok,
    pure_eq_ok, and_assoc]
  constructor
  · rintro ⟨user, huser, hactive, hsuper, rfl⟩
    exact ⟨huser, hactive, hsuper⟩
  · rintro ⟨huser, hactive, hsuper⟩
    exact ⟨currentUser, huser, hactive, hsuper, rfl⟩

theorem checkRole_eq_ok {minRole : Role} {user : User} :
    checkRole minRole user = .ok currentUser ↔ minRole.q ≤ user.role.q ∧ currentUser = user := by
  unfold checkRole
  split_ifs with h
  · simp [h, eq_comm]
  · simp [h]

/-! ### The check of the role -/

theorem checkProtectRoleField_of_none (h : userUpdate.role = none) :
    checkProtectRoleField T db userUpdate currentUserId currentUser id = .ok db := by
  have hdata : UserField.role ∉ userUpdate.data := by simp [UserUpdate.role_mem_data, h]
  rw [checkProtectRoleField, checkProtectedUserPatch, if_pos hdata]
  rfl

/-- What it takes to pass the check with a role that is set, without an id. -/
theorem checkProtectRoleField_noId (h : userUpdate.role = some newRole)
    (hid : id.filter (· ≠ "") = none) :
    checkProtectRoleField T db userUpdate currentUserId currentUser id = .ok db' ↔
      Role.userAdmin.q ≤ currentUser.role.q ∧ currentUser.role = newRole ∧ db' = db := by
  have hdata : ¬ UserField.role ∉ userUpdate.data := by simp [UserUpdate.role_mem_data, h]
  have hnew : userUpdate.newRole = newRole := by simp [UserUpdate.newRole, h]
  rw [checkProtectRoleField, checkProtectedUserPatch, if_neg hdata]
  simp only [hid, hnew, pure_bind, ite_throw_eq_ok, pure_eq_ok]
  constructor
  · rintro ⟨⟨hmin, -, -, hself⟩, hdb⟩
    exact ⟨hmin, by simpa using hself, hdb⟩
  · rintro ⟨hmin, rfl, hdb⟩
    exact ⟨⟨hmin, le_refl _, Nat.zero_le _, by simp⟩, hdb⟩

theorem Promotes.exists_user {u : ID} (h : Promotes db newRole u db')
    (hge : Role.userAdmin.q ≤ newRole.q) : ∃ x, db u = some x := by
  rw [Promotes, if_pos hge] at h
  obtain ⟨x, hx, -⟩ := h
  exact ⟨x, hx⟩

theorem exists_promotes {u : ID} (h : Role.userAdmin.q ≤ newRole.q → ∃ x, db u = some x) :
    ∃ db', Promotes db newRole u db' := by
  unfold Promotes
  split_ifs with hge
  · obtain ⟨x, hx⟩ := h hge
    exact ⟨_, x, hx, rfl⟩
  · exact ⟨db, rfl⟩

/-- At most one user becomes a superuser, and everything else is as it was. -/
theorem Promotes.user {v : ID} (h : Promotes db newRole v db') (u : ID) :
    db' u = db u ∨ ∃ x, db u = some x ∧ db' u = some { x with isSuperuser := true } := by
  unfold Promotes at h
  split_ifs at h with hge
  · obtain ⟨x, hx, rfl⟩ := h
    by_cases hu : u = v
    · subst hu
      exact .inr ⟨x, hx, Function.update_self ..⟩
    · exact .inl (Function.update_of_ne hu ..)
  · exact .inl (by rw [h])

omit [DecidableEq ID] in
theorem otherUserRole_le {u : ID} {user : Option User} {q : ℕ} :
    q ≥ (otherUserRole (user.map (u, ·))).q ↔ ∀ x, user = some x → x.role.q ≤ q := by
  cases user with
  | none => exact iff_of_true (Nat.zero_le q) (by simp)
  | some x => simp [otherUserRole]

/-- What it takes to pass the check with a role that is set, with the text of an id. -/
theorem checkProtectRoleField_id {idText : String} (h : userUpdate.role = some newRole)
    (hid : id.filter (· ≠ "") = some idText) :
    checkProtectRoleField T db userUpdate currentUserId currentUser id = .ok db' ↔
      Role.userAdmin.q ≤ currentUser.role.q ∧ newRole.q ≤ currentUser.role.q ∧
      (idText = T.str currentUserId → currentUser.role = newRole) ∧
      ∃ named, T.bind idText = some named ∧
        (∀ x, db named = some x → x.role.q ≤ currentUser.role.q) ∧
        Promotes db newRole named db' := by
  have hdata : ¬ UserField.role ∉ userUpdate.data := by simp [UserUpdate.role_mem_data, h]
  have hnew : userUpdate.newRole = newRole := by simp [UserUpdate.newRole, h]
  rw [checkProtectRoleField, checkProtectedUserPatch, if_neg hdata]
  simp only [hid, hnew, userDbGet]
  cases hbind : T.bind idText with
  | none => simp [error_bind]
  | some named =>
    have hself : ¬ ((idText == T.str currentUserId) = true ∧ currentUser.role.q ≠ newRole.q) ↔
        (idText = T.str currentUserId → currentUser.role = newRole) := by simp
    simp only [ok_bind, pure_bind, ite_throw_eq_ok, otherUserRole_le, hself, Option.some.injEq,
      exists_eq_left', and_assoc]
    refine and_congr_right fun _ => and_congr_right fun _ => ?_
    rw [and_left_comm]
    refine and_congr_right fun _ => and_congr_right fun _ => ?_
    unfold Promotes
    split_ifs with hadmin
    · cases hnamed : db named <;> simp [pure_eq_ok]
    · exact pure_eq_ok

/-- The check writes at most `is_superuser`. -/
theorem user_checkProtectRoleField
    (h : checkProtectRoleField T db userUpdate currentUserId currentUser id = .ok db') (u : ID) :
    db' u = db u ∨ ∃ x, db u = some x ∧ db' u = some { x with isSuperuser := true } := by
  cases hrole : userUpdate.role with
  | none =>
    rw [checkProtectRoleField_of_none hrole] at h
    exact .inl (by rw [Except.ok.inj h])
  | some newRole =>
    cases hid : id.filter (· ≠ "") with
    | none =>
      obtain ⟨-, -, rfl⟩ := (checkProtectRoleField_noId hrole hid).1 h
      exact .inl rfl
    | some idText =>
      obtain ⟨-, -, -, named, -, -, hdb⟩ := (checkProtectRoleField_id hrole hid).1 h
      exact hdb.user u

end

end StormPiper
