import StormPiper.Users.Routes

/-!
# Nobody edits upwards, unless the role is left out

A request on `/users/{id}` for a user whose role is higher than that of the actor.  The check of the
role compares the two, but it is made only for a payload that sets the role, and `DELETE` has no
payload.  Every other request is accepted once the actor is an active superuser and user admin.

* `editRejected_iff` : which requests on a user with a higher role are rejected.
* `not_editRejected_password` : a user admin sets the password of an admin and deletes an admin.
-/

namespace StormPiper

namespace UserRequest

variable {ID : Type} [DecidableEq ID] {T : UuidText ID} {db db' : Users ID} {req : UserRequest ID}
  {target : ID} {actor victim : User} {newRole : Role}

/-- The request is rejected and leaves the target as it is. -/
def EditRejected (T : UuidText ID) (db : Users ID) (req : UserRequest ID) (target : ID) : Prop :=
  (req.handle T db).2.isSome ∧ (req.handle T db).1 target = db target

/-- A payload with a role for a user with a higher role does not pass the check. -/
theorem not_passesCheck (hactor : db req.currentUser = some actor)
    (hvictim : db target = some victim) (htarget : req.target T = some target)
    (hlt : actor.role.q < victim.role.q) (hrole : req.newRole = some newRole) :
    ¬ req.PassesCheck T db actor db' := by
  intro hpass
  have hne : target ≠ req.currentUser := by
    rintro rfl
    obtain rfl : actor = victim := Option.some.inj (hactor.symm.trans hvictim)
    omega
  obtain ⟨idText, hid, hparse⟩ := parse_id htarget hne hrole
  obtain ⟨-, -, -, named, hbind, hle, -⟩ := (passesCheck_id hrole hid).1 hpass
  -- the check and the endpoint read the same user
  obtain rfl := T.eq_of_parse_of_bind hparse hbind
  exact absurd (hle victim hvictim) (by omega)

/-- A valid payload without a role, of an actor who passes the route, is accepted. -/
theorem accepted_of_none (hactor : db req.currentUser = some actor)
    (hvictim : db target = some victim) (hby : req.ById) (htarget : req.target T = some target)
    (hactive : actor.isActive) (hsuper : actor.isSuperuser)
    (hadmin : Role.userAdmin.q ≤ actor.role.q) (hrole : req.newRole = none)
    (hvalid : ¬ req.Malformed) (hend : req.endpointError = none) : (req.handle T db).2 = none := by
  have hdeps : req.dependencies T db = .ok db :=
    dependencies_eq_ok.2 ⟨actor, hactor, hactive, fun _ => ⟨hsuper, hadmin⟩,
      (passesCheck_of_none hrole).2 rfl⟩
  obtain ⟨after, hafter⟩ := (exists_after_iff (x := victim)).2 hvalid
  have hendpoint : req.endpoint T db = .ok (Function.update db target after) :=
    endpoint_eq_ok.2 ⟨hend, target, victim, after, htarget, hvictim, fun h => absurd hby h,
      hafter, rfl⟩
  rw [handle_of_accepted hdeps hendpoint]

/-- An edit upwards that passes the dependencies has no role, and they have written nothing. -/
theorem of_dependencies_eq_ok (hactor : db req.currentUser = some actor)
    (hvictim : db target = some victim) (hby : req.ById) (htarget : req.target T = some target)
    (hlt : actor.role.q < victim.role.q) (hdeps : req.dependencies T db = .ok db') :
    actor.isActive ∧ actor.isSuperuser ∧ Role.userAdmin.q ≤ actor.role.q ∧
      req.newRole = none ∧ db' = db := by
  obtain ⟨actor', hactor', hactive, hroute, hpass⟩ := dependencies_eq_ok.1 hdeps
  obtain rfl : actor = actor' := Option.some.inj (hactor.symm.trans hactor')
  obtain ⟨hsuper, hadmin⟩ := hroute hby
  cases hrole : req.newRole with
  | none => exact ⟨hactive, hsuper, hadmin, rfl, (passesCheck_of_none hrole).1 hpass⟩
  | some newRole => exact absurd hpass (not_passesCheck hactor hvictim htarget hlt hrole)

/-- **Which edits upwards are rejected.**  Those of an actor who does not pass the dependencies of
the route, and those that set the role; no other, unless the endpoint itself fails. -/
theorem editRejected_iff (hactor : db req.currentUser = some actor)
    (hvictim : db target = some victim) (hby : req.ById) (htarget : req.target T = some target)
    (hlt : actor.role.q < victim.role.q) : req.EditRejected T db target ↔
      actor.isActive = false ∨ actor.isSuperuser = false ∨
        actor.role.q < Role.userAdmin.q ∨ req.newRole.isSome ∨
        req.Malformed ∨ req.endpointError.isSome := by
  constructor
  · rintro ⟨herror, -⟩
    by_contra hnot
    simp only [not_or, Bool.not_eq_false, not_lt, Bool.not_eq_true, Option.isSome_eq_false_iff,
      Option.isNone_iff_eq_none] at hnot
    obtain ⟨hactive, hsuper, hadmin, hrole, hvalid, hend⟩ := hnot
    rw [accepted_of_none hactor hvictim hby htarget hactive hsuper hadmin hrole hvalid hend]
      at herror
    cases herror
  · intro h
    by_cases hdeps : ∃ db', req.dependencies T db = .ok db'
    · obtain ⟨db', hdeps⟩ := hdeps
      obtain ⟨hactive, hsuper, hadmin, hrole, rfl⟩ :=
        of_dependencies_eq_ok hactor hvictim hby htarget hlt hdeps
      -- the actor has passed the route, so that it is the endpoint that fails
      have hfails : ∀ db'', req.endpoint T db' ≠ .ok db'' := by
        intro db'' hok
        obtain ⟨hend, u, x, after, -, -, -, hafter, -⟩ := endpoint_eq_ok.1 hok
        rcases h with h | h | h | h | h | h
        · simp [hactive] at h
        · simp [hsuper] at h
        · omega
        · simp [hrole] at h
        · exact exists_after_iff.1 ⟨after, hafter⟩ h
        · simp [hend] at h
      obtain ⟨hdb, herror⟩ := handle_of_failed hdeps hfails
      exact ⟨herror, by rw [hdb]⟩
    · obtain ⟨hdb, herror⟩ := handle_of_rejected fun db' h => hdeps ⟨db', h⟩
      exact ⟨herror, by rw [hdb]⟩

/-- A user admin sends a payload with a role for an admin. -/
theorem editRejected_role :
    EditRejected Uuid.text (twoUsers .admin)
      ⟨Uuid.repeated 10, .patchUser "00000000-0000-0000-0000-000000000000"
        (some { role := some .public, password := some "mine" }), [], none⟩ (Uuid.repeated 0) :=
  have hactor : twoUsers .admin (Uuid.repeated 10) = some (User.superuser .userAdmin) := by decide
  have hvictim : twoUsers .admin (Uuid.repeated 0) = some (User.superuser .admin) := by decide
  (editRejected_iff hactor hvictim (fun _ h => by cases h) (by decide +kernel) (by decide)).2
    (.inr (.inr (.inr (.inl rfl))))

/-- The user admin sets the password of the admin, or deletes the admin. -/
theorem not_editRejected_password :
    let patch : UserRequest Uuid :=
      ⟨Uuid.repeated 10, .patchUser "00000000-0000-0000-0000-000000000000"
        (some { password := some "mine" }), [], none⟩
    let delete : UserRequest Uuid :=
      ⟨Uuid.repeated 10, .deleteUser "00000000-0000-0000-0000-000000000000", [], none⟩
    (patch.handle Uuid.text (twoUsers .admin)).2 = none ∧
    (patch.handle Uuid.text (twoUsers .admin)).1 (Uuid.repeated 0) =
      some { User.superuser .admin with password := "mine" } ∧
    (delete.handle Uuid.text (twoUsers .admin)).1 (Uuid.repeated 0) = none ∧
    ¬ patch.EditRejected Uuid.text (twoUsers .admin) (Uuid.repeated 0) ∧
    ¬ delete.EditRejected Uuid.text (twoUsers .admin) (Uuid.repeated 0) := by
  unfold EditRejected
  decide +kernel

end UserRequest

end StormPiper
