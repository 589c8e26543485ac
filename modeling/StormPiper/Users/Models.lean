import StormPiper.Python.Basic

/-!
# Users, roles and updates

The records of `apps/supersafe/models.py` and `apps/supersafe/db.py`: a user as the database has it
and the payload of a `PATCH` request, in which every field may be set or not.
-/

namespace StormPiper

/-- `Role` -/
inductive Role where
  | «public»
  | reader
  | editor
  | userAdmin
  | admin
  deriving DecidableEq, Repr

/-- `_q()` -/
def Role.q : Role → ℕ
  | «public» => 0
  | reader => 20
  | editor => 40
  | userAdmin => 60
  | admin => 100

theorem Role.q_injective : Function.Injective Role.q := by
  intro a b
  cases a <;> cases b <;> simp [q]

@[simp] theorem Role.q_inj {a b : Role} : a.q = b.q ↔ a = b := Role.q_injective.eq_iff

/-- A row of the table of users, but for its id. -/
structure User where
  email : String
  /-- The password that the stored hash belongs to. -/
  password : String
  isActive : Bool
  isSuperuser : Bool
  isVerified : Bool
  firstName : Option String
  lastName : Option String
  role : Role
  deriving DecidableEq, Repr

/-- An active superuser with a role. -/
def User.superuser (role : Role) : User where
  email := "someone@example.com"
  password := "supersafepassword"
  isActive := true
  isSuperuser := true
  isVerified := true
  firstName := none
  lastName := none
  role := role

/-- The names of the fields of a payload. -/
inductive UserField where
  | password
  | email
  | isActive
  | isSuperuser
  | isVerified
  | firstName
  | lastName
  | role
  deriving DecidableEq, Repr

/-- A payload, with `none` for a field that is not set.  Of the columns only the names may be null:
with a null for another one the endpoint fails, and a null role is not valid. -/
structure UserUpdate where
  password : Option String := none
  email : Option String := none
  isActive : Option Bool := none
  isSuperuser : Option Bool := none
  isVerified : Option Bool := none
  firstName : ModelField String := .unset
  lastName : ModelField String := .unset
  role : Option Role := none
  deriving DecidableEq, Repr

namespace UserUpdate

variable (userUpdate : UserUpdate) (user : User)

/-- The fields of `model_dump(exclude_unset=True)`. -/
def data : List UserField :=
  [(.password, userUpdate.password.isSome), (.email, userUpdate.email.isSome),
   (.isActive, userUpdate.isActive.isSome), (.isSuperuser, userUpdate.isSuperuser.isSome),
   (.isVerified, userUpdate.isVerified.isSome), (.firstName, userUpdate.firstName.isSet),
   (.lastName, userUpdate.lastName.isSet), (.role, userUpdate.role.isSome)].filterMap
    fun (f, isSet) => if isSet then some f else none

/-- `user_update.role`, with its default. -/
def newRole : Role := userUpdate.role.getD .public

/-- The payload without the fields that users may not set for themselves. -/
def createUpdateDict : UserUpdate :=
  { userUpdate with isActive := none, isSuperuser := none, isVerified := none }

/-- The user with the fields of the payload. -/
def applyTo : User where
  email := userUpdate.email.getD user.email
  password := userUpdate.password.getD user.password
  isActive := userUpdate.isActive.getD user.isActive
  isSuperuser := userUpdate.isSuperuser.getD user.isSuperuser
  isVerified := userUpdate.isVerified.getD user.isVerified
  firstName := userUpdate.firstName.apply user.firstName
  lastName := userUpdate.lastName.apply user.lastName
  role := userUpdate.role.getD user.role

variable {userUpdate}

theorem role_mem_data : UserField.role ∈ userUpdate.data ↔ userUpdate.role.isSome := by
  simp [data]

end UserUpdate

end StormPiper
