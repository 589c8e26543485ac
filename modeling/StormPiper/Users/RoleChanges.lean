import StormPiper.Users.Routes

/-!
# Roles change from above, but for one's own

A role changes only in the endpoint of an accepted request with a role in its payload.  The check
of this role compares the actor with the user that its argument `id` names.  On `/users/{id}` this
is the user whom the endpoint changes.  On `/users/me` it is any user that the query names, and on
both routes the check recognises the actor only in one spelling of the id.

* `FromAbove` : who may change a role.
* `ChangesOwnRole` : a request in which the check takes the actor for another user.
* `rolesFromAbove_iff` : in a run roles change from above exactly if it has no such request.
* `not_rolesFromAbove_ownRole` : two runs in which a user admin changes their own role.
-/

namespace StormPiper

namespace UserRequest

variable {ID : Type} [DecidableEq ID] {T : UuidText ID} {db db' : Users ID} {req : UserRequest ID}
  {u : ID} {x x' actor : User} {newRole : Role}

/-- Where the role of a user changes, the actor is another user, is at least user admin and has at
least the old and the new role. -/
def FromAbove (db : Users ID) (req : UserRequest ID) (db' : Users ID) : Prop :=
  ∀ u x x', db u = some x → db' u = some x' → x.role ≠ x'.role →
    u ≠ req.currentUser ∧ ∃ actor, db req.currentUser = some actor ∧
      Role.userAdmin.q ≤ actor.role.q ∧ x.role.q ≤ actor.role.q ∧ x'.role.q ≤ actor.role.q

/-- An actor sets their own role to another one, with a text for the id that is not their own id as
`str` writes it but the id of `named`, and is not stopped by the rest of the checks. -/
structure ChangesOwnRole (T : UuidText ID) (db : Users ID) (req : UserRequest ID) (actor : User)
    (newRole : Role) (idText : String) (named : ID) : Prop where
  actor_eq : db req.currentUser = some actor
  target_eq : req.target T = some req.currentUser
  newRole_eq : req.newRole = some newRole
  newRole_ne : actor.role ≠ newRole
  id_eq : req.id.filter (· ≠ "") = some idText
  id_ne : idText ≠ T.str req.currentUser
  bind_eq : T.bind idText = some named
  isActive : actor.isActive
  isSuperuser : req.ById → actor.isSuperuser
  userAdmin_le : Role.userAdmin.q ≤ actor.role.q
  newRole_le : newRole.q ≤ actor.role.q
  named_le : ∀ x, db named = some x → x.role.q ≤ actor.role.q
  exists_named : Role.userAdmin.q ≤ newRole.q → ∃ x, db named = some x
  endpointError_eq : req.endpointError = none

/-- **How a role changes.**  In the endpoint of a request on this user whose payload sets the role
and has passed all checks. -/
theorem role_handle (hx : db u = some x) (hx' : (req.handle T db).1 u = some x')
    (hne : x.role ≠ x'.role) : ∃ actor db', db req.currentUser = some actor ∧ actor.isActive ∧
      (req.ById → actor.isSuperuser ∧ Role.userAdmin.q ≤ actor.role.q) ∧
      req.PassesCheck T db actor db' ∧ req.target T = some u ∧ req.newRole = some x'.role ∧
      req.endpointError = none := by
  cases hdeps : req.dependencies T db with
  | error e =>
    rw [(handle_of_rejected (by simp [hdeps])).1, hx] at hx'
    cases hx'
    exact absurd rfl hne
  | ok db' =>
    obtain ⟨actor, hactor, hactive, hroute, hpass⟩ := dependencies_eq_ok.1 hdeps
    cases hend : req.endpoint T db' with
    | error e =>
      rw [(handle_of_failed hdeps (by simp [hend])).1] at hx'
      exact absurd (role_passesCheck hpass hx hx').symm hne
    | ok db'' =>
      obtain ⟨herror, v, y, after, htarget, hy, -, hafter, rfl⟩ := endpoint_eq_ok.1 hend
      rw [handle_of_accepted hdeps hend] at hx'
      dsimp only at hx'
      by_cases huv : u = v
      · subst huv
        rw [Function.update_self] at hx'
        subst hx'
        have hrole := role_after hafter
        rw [role_passesCheck hpass hx hy] at hrole
        cases hnew : req.newRole with
        | none =>
          rw [hnew] at hrole
          exact absurd hrole.symm hne
        | some newRole =>
          rw [hnew] at hrole
          refine ⟨actor, db', hactor, hactive, hroute, hpass, htarget, ?_, herror⟩
          rw [hrole]
          rfl
      · rw [Function.update_of_ne huv] at hx'
        exact absurd (role_passesCheck hpass hx hx').symm hne

/-- Requests that are not such a change of one's own role change roles from above. -/
theorem fromAbove_of_not
    (h : ¬ ∃ actor newRole idText named, req.ChangesOwnRole T db actor newRole idText named) :
    FromAbove db req (req.handle T db).1 := by
  intro u x x' hx hx' hne
  obtain ⟨actor, db', hactor, hactive, hroute, hpass, htarget, hnew, herror⟩ :=
    role_handle hx hx' hne
  by_cases hu : u = req.currentUser
  · subst hu
    obtain rfl : actor = x := Option.some.inj (hactor.symm.trans hx)
    exfalso
    cases hid : req.id.filter (· ≠ "") with
    | none => exact hne ((passesCheck_noId hnew hid).1 hpass).2.1
    | some idText =>
      obtain ⟨hadmin, hle, hself, named, hbind, hnamed, hdb⟩ := (passesCheck_id hnew hid).1 hpass
      refine h ⟨actor, x'.role, idText, named, hactor, htarget, hnew, hne, hid,
        fun hstr => hne (hself hstr), hbind, hactive, fun hby => (hroute hby).1, hadmin, hle,
        hnamed, hdb.exists_user, herror⟩
  · obtain ⟨idText, hid, hparse⟩ := parse_id htarget hu hnew
    obtain ⟨hadmin, hle, -, named, hbind, hnamed, -⟩ := (passesCheck_id hnew hid).1 hpass
    obtain rfl := T.eq_of_parse_of_bind hparse hbind
    exact ⟨hu, actor, hactor, hadmin, hnamed x hx, hle⟩

/-- Such a change of one's own role is accepted. -/
theorem ChangesOwnRole.handle {idText : String} {named : ID}
    (h : req.ChangesOwnRole T db actor newRole idText named) :
    ∃ x', (req.handle T db).1 req.currentUser = some x' ∧ x'.role = newRole := by
  obtain ⟨db', hdb⟩ : ∃ db', Promotes db newRole named db' := exists_promotes h.exists_named
  have hpass : req.PassesCheck T db actor db' :=
    (passesCheck_id h.newRole_eq h.id_eq).2 ⟨h.userAdmin_le, h.newRole_le,
      fun hstr => absurd hstr h.id_ne, named, h.bind_eq, h.named_le, hdb⟩
  have hdeps : req.dependencies T db = .ok db' :=
    dependencies_eq_ok.2 ⟨actor, h.actor_eq, h.isActive,
      fun hby => ⟨h.isSuperuser hby, h.userAdmin_le⟩, hpass⟩
  obtain ⟨y, hy, hactive⟩ : ∃ y, db' req.currentUser = some y ∧ y.isActive := by
    rcases user_passesCheck hpass req.currentUser with hu | ⟨z, hz, hu⟩
    · exact ⟨actor, hu.trans h.actor_eq, h.isActive⟩
    · obtain rfl : actor = z := Option.some.inj (h.actor_eq.symm.trans hz)
      exact ⟨_, hu, h.isActive⟩
  obtain ⟨x', hafter, hrole⟩ := after_of_newRole h.newRole_eq y
  have hend : req.endpoint T db' = .ok (Function.update db' req.currentUser (some x')) :=
    endpoint_eq_ok.2 ⟨h.endpointError_eq, req.currentUser, y, some x', h.target_eq, hy,
      fun _ => hactive, hafter, rfl⟩
  rw [handle_of_accepted hdeps hend]
  exact ⟨x', Function.update_self .., hrole⟩

theorem fromAbove_iff : FromAbove db req (req.handle T db).1 ↔
    ¬ ∃ actor newRole idText named, req.ChangesOwnRole T db actor newRole idText named := by
  refine ⟨?_, fromAbove_of_not⟩
  rintro habove ⟨actor, newRole, idText, named, h⟩
  obtain ⟨x', hx', hrole⟩ := h.handle
  have hne : actor.role ≠ x'.role := hrole ▸ h.newRole_ne
  exact (habove req.currentUser actor x' h.actor_eq hx' hne).1 rfl

/-- **When roles only change from above.**  In every run, exactly if no request of it changes the
role of the actor by way of another text for the id. -/
theorem rolesFromAbove_iff {reqs : List (UserRequest ID)} :
    (usersMachine T).EachStep FromAbove db reqs ↔
      (usersMachine T).Guarded (fun db req => ¬ ∃ actor newRole idText named,
        req.ChangesOwnRole T db actor newRole idText named) db reqs :=
  Machine.eachStep_iff_guarded fun _ _ => ⟨_, rfl, fromAbove_iff⟩

/-- A user admin names another user in the query of `/users/me`, or writes their own id in
capitals. -/
theorem not_rolesFromAbove_ownRole :
    let db := twoUsers .reader
    let me : UserRequest Uuid :=
      ⟨Uuid.repeated 10, .patchCurrentUser (some { role := some .public }),
        [("id", "00000000-0000-0000-0000-000000000000")], none⟩
    let byId : UserRequest Uuid :=
      ⟨Uuid.repeated 10, .patchUser "AAAAAAAA-AAAA-AAAA-AAAA-AAAAAAAAAAAA"
        (some { role := some .public }), [], none⟩
    ¬ (usersMachine Uuid.text).EachStep FromAbove db [me] ∧
    ¬ (usersMachine Uuid.text).EachStep FromAbove db [byId] := by
  intro db me byId
  have hactor : db (Uuid.repeated 10) = some (.superuser .userAdmin) := by decide
  have hme : (me.handle Uuid.text db).1 (Uuid.repeated 10) =
      some { User.superuser .userAdmin with role := .public } := by decide +kernel
  have hbyId : (byId.handle Uuid.text db).1 (Uuid.repeated 10) =
      some { User.superuser .userAdmin with role := .public } := by decide +kernel
  constructor
  · intro h
    exact ((h _ rfl).1 _ _ _ hactor hme (by decide)).1 rfl
  · intro h
    exact ((h _ rfl).1 _ _ _ hactor hbyId (by decide)).1 rfl

end UserRequest

end StormPiper
