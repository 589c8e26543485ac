import StormPiper.Users.Routes

/-!
# Superusers are user admins

A user admin needs `is_superuser` to edit other users, so that the check of the role sets it on the
user whom its argument `id` names when the new role is user admin or more.  It does so before the
endpoint writes the role, and nothing takes it away again.

* `SuperusersManage` : every superuser is at least user admin.
* `Demotes`, `PromotesWithoutRole` : the two kinds of request that break it.
* `superusersManage_iff` : in a run every superuser stays user admin exactly if it has neither.
* `not_superusersManage_demoted` : a user admin makes another one reader.
-/

namespace StormPiper

/-- Every superuser is at least user admin. -/
def SuperusersManage {ID : Type} (db : Users ID) : Prop :=
  ∀ u x, db u = some x → x.isSuperuser → Role.userAdmin.q ≤ x.role.q

namespace UserRequest

variable {ID : Type} [DecidableEq ID] {T : UuidText ID} {db db' : Users ID} {req : UserRequest ID}
  {u named : ID} {x x' actor : User} {newRole : Role} {idText : String}

/-- The payload does not set `is_superuser` itself. -/
def LeavesSuperuser (req : UserRequest ID) : Prop := (req.userUpdate.bind (·.isSuperuser)) = none

/-- The actor passes all checks with a payload that sets `newRole`, where the check of the role
looks at `named`. -/
structure Admitted (T : UuidText ID) (db : Users ID) (req : UserRequest ID) (actor : User)
    (newRole : Role) (named : ID) : Prop where
  actor_eq : db req.currentUser = some actor
  isActive : actor.isActive
  isSuperuser : req.ById → actor.isSuperuser
  userAdmin_le : Role.userAdmin.q ≤ actor.role.q
  newRole_eq : req.newRole = some newRole
  newRole_le : newRole.q ≤ actor.role.q
  id_eq : ∃ idText, req.id.filter (· ≠ "") = some idText ∧ T.bind idText = some named ∧
    (idText = T.str req.currentUser → actor.role = newRole)
  named_le : ∀ x, db named = some x → x.role.q ≤ actor.role.q

/-- A superuser gets a role below user admin. -/
def Demotes (T : UuidText ID) (db : Users ID) (req : UserRequest ID) : Prop :=
  ∃ actor newRole named u x, req.Admitted T db actor newRole named ∧
    newRole.q < Role.userAdmin.q ∧ req.target T = some u ∧ db u = some x ∧ x.isSuperuser ∧
    req.endpointError = none

/-- The check makes a superuser of a user below user admin, and the endpoint fails or writes the
role of another user. -/
def PromotesWithoutRole (T : UuidText ID) (db : Users ID) (req : UserRequest ID) : Prop :=
  ∃ actor newRole named x, req.Admitted T db actor newRole named ∧
    Role.userAdmin.q ≤ newRole.q ∧ db named = some x ∧ x.role.q < Role.userAdmin.q ∧
    (req.target T ≠ some named ∨ req.endpointError.isSome)

/-- The dependencies let an admitted request pass. -/
theorem Admitted.dependencies (h : req.Admitted T db actor newRole named)
    (hdb : Promotes db newRole named db') : req.dependencies T db = .ok db' := by
  obtain ⟨idText, hid, hbind, hself⟩ := h.id_eq
  have hpass : req.PassesCheck T db actor db' :=
    (passesCheck_id h.newRole_eq hid).2
      ⟨h.userAdmin_le, h.newRole_le, hself, named, hbind, h.named_le, hdb⟩
  exact dependencies_eq_ok.2
    ⟨actor, h.actor_eq, h.isActive, fun hby => ⟨h.isSuperuser hby, h.userAdmin_le⟩, hpass⟩

/-- The requests that pass the dependencies: the payload sets no role, or the check knows no other
user and the role is the actor's own, or the request is admitted. -/
theorem of_dependencies (h : req.dependencies T db = .ok db') :
    (req.newRole = none ∧ db' = db) ∨
    (∃ actor : User, req.newRole = some actor.role ∧ Role.userAdmin.q ≤ actor.role.q ∧ db' = db) ∨
    ∃ actor newRole named, req.Admitted T db actor newRole named ∧
      Promotes db newRole named db' := by
  obtain ⟨actor, hactor, hactive, hroute, hpass⟩ := dependencies_eq_ok.1 h
  cases hnew : req.newRole with
  | none => exact .inl ⟨rfl, (passesCheck_of_none hnew).1 hpass⟩
  | some newRole =>
    cases hid : req.id.filter (· ≠ "") with
    | none =>
      obtain ⟨hadmin, rfl, hdb⟩ := (passesCheck_noId hnew hid).1 hpass
      exact .inr (.inl ⟨actor, rfl, hadmin, hdb⟩)
    | some idText =>
      obtain ⟨hadmin, hle, hself, named, hbind, hnamed, hdb⟩ := (passesCheck_id hnew hid).1 hpass
      exact .inr (.inr ⟨actor, newRole, named, ⟨hactor, hactive, fun hby => (hroute hby).1, hadmin,
        hnew, hle, ⟨idText, hid, hbind, hself⟩, hnamed⟩, hdb⟩)

omit [DecidableEq ID] in
/-- The endpoint writes `is_superuser` only for a payload that sets it. -/
theorem isSuperuser_after (hleaves : req.LeavesSuperuser) (h : req.after x = some (some x')) :
    x'.isSuperuser = x.isSuperuser := by
  obtain ⟨userUpdate, hup⟩ := exists_userUpdate h
  unfold LeavesSuperuser at hleaves
  rw [hup, Option.bind_some] at hleaves
  unfold UserRequest.userUpdate at hup
  unfold UserRequest.after at h
  cases hroute : req.route with
  | patchCurrentUser up =>
    rw [hroute] at hup h
    obtain rfl : up = some userUpdate := hup
    simp only [Option.map_some, Option.some.injEq] at h
    rw [← h]
    rfl
  | patchUser id up =>
    rw [hroute] at hup h
    obtain rfl : up = some userUpdate := hup
    simp only [Option.map_some, Option.some.injEq] at h
    rw [← h, UserUpdate.applyTo, hleaves, Option.getD_none]
  | deleteUser id =>
    rw [hroute] at hup
    cases hup

theorem superusersManage_update (h : SuperusersManage db) {after : Option User}
    (hafter : ∀ x, after = some x → x.isSuperuser → Role.userAdmin.q ≤ x.role.q) :
    SuperusersManage (Function.update db u after) := by
  intro v x hx hsuper
  by_cases hv : v = u
  · subst hv
    rw [Function.update_self] at hx
    exact hafter x hx hsuper
  · rw [Function.update_of_ne hv] at hx
    exact h v x hx hsuper

/-- Where the dependencies have kept it, the endpoint breaks it only on its own user. -/
theorem superusersManage_handle (hdeps : req.dependencies T db = .ok db')
    (h : SuperusersManage db') (hleaves : req.LeavesSuperuser)
    (hrole : ∀ u x, req.target T = some u → db' u = some x → x.isSuperuser →
      req.endpointError = none → Role.userAdmin.q ≤ (req.newRole.getD x.role).q) :
    SuperusersManage (req.handle T db).1 := by
  cases hend : req.endpoint T db' with
  | error e =>
    rw [(handle_of_failed hdeps (by simp [hend])).1]
    exact h
  | ok db'' =>
    obtain ⟨herror, u, x, after, htarget, hx, -, hafter, rfl⟩ := endpoint_eq_ok.1 hend
    rw [handle_of_accepted hdeps hend]
    refine superusersManage_update h fun x' hx' hsuper => ?_
    subst hx'
    rw [isSuperuser_after hleaves hafter] at hsuper
    rw [role_after hafter]
    exact hrole u x htarget hx hsuper herror

omit [DecidableEq ID] in
/-- An endpoint on the user of the token has an active user. -/
theorem Admitted.isActive_target (h : req.Admitted T db actor newRole named)
    (htarget : req.target T = some u) (hx : db u = some x) (hby : ¬ req.ById) : x.isActive := by
  unfold UserRequest.ById at hby
  push Not at hby
  obtain ⟨up, hroute⟩ := hby
  unfold UserRequest.target at htarget
  rw [hroute] at htarget
  obtain rfl : req.currentUser = u := Option.some.inj htarget
  obtain rfl : actor = x := Option.some.inj (h.actor_eq.symm.trans hx)
  exact h.isActive

/-- A demoted superuser stays a superuser. -/
theorem Demotes.not_superusersManage (h : req.Demotes T db) (hleaves : req.LeavesSuperuser) :
    ¬ SuperusersManage (req.handle T db).1 := by
  obtain ⟨actor, newRole, named, u, x, hadm, hlt, htarget, hx, hsuper, herror⟩ := h
  have hdeps : req.dependencies T db = .ok db :=
    hadm.dependencies (by rw [Promotes, if_neg (by omega)])
  obtain ⟨x', hafter, hrole⟩ := after_of_newRole hadm.newRole_eq x
  have hend : req.endpoint T db = .ok (Function.update db u (some x')) :=
    endpoint_eq_ok.2
      ⟨herror, u, x, some x', htarget, hx, hadm.isActive_target htarget hx, hafter, rfl⟩
  rw [handle_of_accepted hdeps hend]
  intro hmanage
  have hle : Role.userAdmin.q ≤ x'.role.q :=
    hmanage u x' (Function.update_self ..) ((isSuperuser_after hleaves hafter).trans hsuper)
  rw [hrole] at hle
  omega

/-- What the check wrote stays, without the role. -/
theorem PromotesWithoutRole.not_superusersManage (h : req.PromotesWithoutRole T db) :
    ¬ SuperusersManage (req.handle T db).1 := by
  obtain ⟨actor, newRole, named, x, hadm, hge, hx, hlt, hor⟩ := h
  have hdeps := hadm.dependencies (by rw [Promotes, if_pos hge]; exact ⟨x, hx, rfl⟩)
  intro hmanage
  suffices hnamed : (req.handle T db).1 named = some { x with isSuperuser := true } by
    have hle : Role.userAdmin.q ≤ x.role.q :=
      hmanage named { x with isSuperuser := true } hnamed rfl
    omega
  cases hend : req.endpoint T
      (Function.update db named (some { x with isSuperuser := true })) with
  | error e =>
    rw [(handle_of_failed hdeps (by simp [hend])).1, Function.update_self]
  | ok db'' =>
    obtain ⟨herror, u, y, after, htarget, -, -, -, rfl⟩ := endpoint_eq_ok.1 hend
    -- the endpoint has succeeded, so that it is on another user
    have hne : named ≠ u := by
      rintro rfl
      rcases hor with hor | hor
      · exact hor htarget
      · rw [herror] at hor
        cases hor
    rw [handle_of_accepted hdeps hend]
    dsimp only
    rw [Function.update_of_ne hne, Function.update_self]

/-- A promotion by the endpoint overwrites the user whom the check has made a superuser. -/
theorem Admitted.superusersManage_overwritten (h : req.Admitted T db actor newRole named)
    (h₀ : SuperusersManage db) (hge : Role.userAdmin.q ≤ newRole.q) (hx : db named = some x)
    (htarget : req.target T = some named) (herror : req.endpointError = none) :
    SuperusersManage (req.handle T db).1 := by
  have hdeps := h.dependencies (by rw [Promotes, if_pos hge]; exact ⟨x, hx, rfl⟩)
  obtain ⟨x', hafter, hrole⟩ := after_of_newRole h.newRole_eq { x with isSuperuser := true }
  have hactive : ¬ req.ById → x.isActive := h.isActive_target htarget hx
  have hend := endpoint_eq_ok.2 ⟨herror, named, { x with isSuperuser := true }, some x', htarget,
    Function.update_self named _ db, hactive, hafter, rfl⟩
  rw [handle_of_accepted hdeps hend]
  dsimp only
  rw [Function.update_idem]
  refine superusersManage_update h₀ fun y hy _ => ?_
  obtain rfl : x' = y := Option.some.inj hy
  rwa [hrole]

/-- **One request** keeps every superuser at user admin or more exactly if it neither demotes one
nor promotes a user whose role then stays. -/
theorem superusersManage_handle_iff (h₀ : SuperusersManage db) (hleaves : req.LeavesSuperuser) :
    SuperusersManage (req.handle T db).1 ↔
      ¬ req.Demotes T db ∧ ¬ req.PromotesWithoutRole T db := by
  constructor
  · exact fun h => ⟨fun hdem => hdem.not_superusersManage hleaves h,
      fun hpro => hpro.not_superusersManage h⟩
  rintro ⟨hdem, hpro⟩
  cases hdeps : req.dependencies T db with
  | error e =>
    rw [(handle_of_rejected (by simp [hdeps])).1]
    exact h₀
  | ok db' =>
    rcases of_dependencies hdeps with ⟨hnew, rfl⟩ | ⟨actor, hnew, hadmin, rfl⟩ |
      ⟨actor, newRole, named, hadm, hdb⟩
    · -- the role stays
      refine superusersManage_handle hdeps h₀ hleaves fun u x _ hx hsuper _ => ?_
      rw [hnew]
      exact h₀ u x hx hsuper
    · -- the new role is the actor's
      refine superusersManage_handle hdeps h₀ hleaves fun u x _ _ _ _ => ?_
      rw [hnew]
      exact hadmin
    · rcases lt_or_ge newRole.q Role.userAdmin.q with hlt | hge
      · -- the check writes nothing, and the endpoint demotes no superuser
        obtain rfl : db' = db := by rwa [Promotes, if_neg (by omega)] at hdb
        refine superusersManage_handle hdeps h₀ hleaves fun u x htarget hx hsuper herror => ?_
        exact absurd ⟨actor, newRole, named, u, x, hadm, hlt, htarget, hx, hsuper, herror⟩ hdem
      · obtain ⟨x, hx⟩ := hdb.exists_user hge
        rcases lt_or_ge x.role.q Role.userAdmin.q with hxlt | hxge
        · -- the endpoint writes the role of the user whom the check has promoted
          have hnot : ¬ (req.target T ≠ some named ∨ req.endpointError.isSome) := fun hor =>
            hpro ⟨actor, newRole, named, x, hadm, hge, hx, hxlt, hor⟩
          simp only [not_or, not_not, Bool.not_eq_true, Option.isSome_eq_false_iff,
            Option.isNone_iff_eq_none] at hnot
          exact hadm.superusersManage_overwritten h₀ hge hx hnot.1 hnot.2
        · rw [Promotes, if_pos hge] at hdb
          obtain ⟨y, hy, rfl⟩ := hdb
          obtain rfl : x = y := Option.some.inj (hx.symm.trans hy)
          have h : SuperusersManage
              (Function.update db named (some { x with isSuperuser := true })) := by
            refine superusersManage_update h₀ fun y hy _ => ?_
            rw [← Option.some.inj hy]
            exact hxge
          refine superusersManage_handle hdeps h hleaves fun u x _ _ _ _ => ?_
          rw [hadm.newRole_eq]
          exact hge

omit [DecidableEq ID] in
/-- On `/users/{id}` the check and the endpoint have the same user. -/
theorem Admitted.target_eq {userUpdate : Option UserUpdate} {id : String}
    (h : req.Admitted T db actor newRole named) (hroute : req.route = .patchUser id userUpdate)
    (hparse : T.parse id = some u) : req.target T = some named := by
  obtain ⟨idText, hid, hbind, -⟩ := h.id_eq
  unfold UserRequest.id at hid
  rw [hroute] at hid
  obtain ⟨hsome, -⟩ := Option.filter_eq_some_iff.1 hid
  obtain rfl : id = idText := Option.some.inj hsome
  obtain rfl := T.eq_of_parse_of_bind hparse hbind
  unfold UserRequest.target
  rw [hroute]
  exact hparse

theorem superusersManage_twoUsers {role : Role} (h : Role.userAdmin.q ≤ role.q) :
    SuperusersManage (twoUsers role) := by
  intro u x hx _
  unfold twoUsers at hx
  split_ifs at hx
  · rw [← Option.some.inj hx]
    exact le_refl _
  · rw [← Option.some.inj hx]
    exact h

/-- **When superusers stay user admins.**  In every run of requests that do not set `is_superuser`,
exactly if no request of it demotes a superuser or promotes a user whose role then stays. -/
theorem superusersManage_iff {reqs : List (UserRequest ID)} (h₀ : SuperusersManage db)
    (hreqs : ∀ req ∈ reqs, req.LeavesSuperuser) :
    (usersMachine T).Always SuperusersManage db reqs ↔
      (usersMachine T).Guarded
        (fun db req => ¬ req.Demotes T db ∧ ¬ req.PromotesWithoutRole T db) db reqs := by
  obtain ⟨db', hrun⟩ := Machine.exists_run (M := usersMachine T) (fun _ _ => ⟨_, rfl⟩) db reqs
  refine Machine.always_iff_guarded_of_mem h₀ (fun db req hreq db' h₀ hstep => ?_) hrun
  obtain rfl : (req.handle T db).1 = db' := Option.some.inj hstep
  exact superusersManage_handle_iff h₀ (hreqs req hreq)

/-- A user admin makes a reader user admin. -/
theorem superusersManage_promoted :
    (usersMachine Uuid.text).Always SuperusersManage
      (Function.update (twoUsers .userAdmin) (Uuid.repeated 0)
        (some { User.superuser .reader with isSuperuser := false }))
      [⟨Uuid.repeated 10, .patchUser "00000000-0000-0000-0000-000000000000"
        (some { role := some .userAdmin }), [], none⟩] := by
  refine (superusersManage_iff ?_ ?_).2 ⟨⟨?_, ?_⟩, fun _ _ => trivial⟩
  · refine superusersManage_update (superusersManage_twoUsers (le_refl _)) fun x hx hsuper => ?_
    rw [← Option.some.inj hx] at hsuper
    cases hsuper
  · simp [LeavesSuperuser, UserRequest.userUpdate]
  · rintro ⟨actor, newRole, named, u, x, hadm, hlt, -⟩
    obtain rfl : Role.userAdmin = newRole := Option.some.inj hadm.newRole_eq
    exact absurd hlt (lt_irrefl _)
  · rintro ⟨actor, newRole, named, x, hadm, -, -, -, hor⟩
    have hparse : Uuid.text.parse "00000000-0000-0000-0000-000000000000" =
        some (Uuid.repeated 0) := by decide +kernel
    rcases hor with hor | hor
    · exact hor (hadm.target_eq rfl hparse)
    · cases hor

/-- A user admin makes another one reader, or the endpoint fails after the check has made a
superuser of a reader. -/
theorem not_superusersManage_demoted :
    let demote : UserRequest Uuid :=
      ⟨Uuid.repeated 10, .patchUser "00000000-0000-0000-0000-000000000000"
        (some { role := some .reader }), [], none⟩
    let fail : UserRequest Uuid :=
      ⟨Uuid.repeated 10, .patchUser "00000000-0000-0000-0000-000000000000"
        (some { role := some .userAdmin }), [], some (.httpException 400)⟩
    let users := Function.update (twoUsers .userAdmin) (Uuid.repeated 0)
      (some { User.superuser .reader with isSuperuser := false })
    SuperusersManage (twoUsers .userAdmin) ∧
    ¬ (usersMachine Uuid.text).Always SuperusersManage (twoUsers .userAdmin) [demote] ∧
    ¬ (usersMachine Uuid.text).Always SuperusersManage users [fail] := by
  intro demote fail users
  have hdemoted : (demote.handle Uuid.text (twoUsers .userAdmin)).1 (Uuid.repeated 0) =
      some (User.superuser .reader) := by decide +kernel
  have hpromoted : (fail.handle Uuid.text users).1 (Uuid.repeated 0) =
      some (User.superuser .reader) := by decide +kernel
  refine ⟨superusersManage_twoUsers (le_refl _), fun h => ?_, fun h => ?_⟩
  · exact absurd (h.2 _ rfl _ _ hdemoted rfl) (by decide)
  · exact absurd (h.2 _ rfl _ _ hpromoted rfl) (by decide)

end UserRequest

end StormPiper
