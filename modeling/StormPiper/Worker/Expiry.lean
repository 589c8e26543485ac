import StormPiper.Run.Machine
import Mathlib.Logic.Function.Basic
import Mathlib.Tactic.SplitIfs

/-!
# Who releases a lock

The lock of a `Singleton` task is an entry of the backend that records the task.  It is set if there
is none (`lock`), deleted when the task ends or cannot be published (`unlock`), and it lapses after
`singleton_lock_expiry`.  `unlock` deletes the entry of a key, whatever task it records.

`Singleton.machine` interleaves any number of submissions, with the steps of each one:
`lock_and_run` and the look-up of the existing task that follows where the lock was not acquired,
the publication, and the end of the task.

* `ReleasesOwn` : no task that ends now, or cannot be published now, deletes the entry of another
  one.
* `releasesOwn_always_iff` : this holds all along a run exactly if no lock is acquired while an
  earlier task that acquired it is in flight.
* `expired_lock_released` : a task whose lock has lapsed deletes the lock of the next one.
-/

namespace StormPiper

variable {Key TaskId : Type} [DecidableEq Key] [DecidableEq TaskId]

/-- How far the submission of a task has come. -/
inductive Phase where
  /-- `lock_and_run` is about to acquire the lock. -/
  | locking
  /-- The lock was not acquired; the existing task is about to be looked up. -/
  | lookingUp
  /-- The lock was acquired and the task is being published. -/
  | publishing
  /-- The task is queued or running. -/
  | running
  deriving DecidableEq, Repr

/-- The entries of the backend, and the tasks that were submitted and have not ended. -/
structure SingletonState (Key TaskId : Type) where
  locks : Key → Option TaskId
  tasks : TaskId → Option (Key × Phase)

/-- What happens to the tasks and their locks. -/
inductive SingletonAction (Key TaskId : Type) where
  /-- `apply_async` is called, which generates the key. -/
  | applyAsync (id : TaskId) (key : Key)
  /-- `aquire_lock` sets the entry if there is none. -/
  | aquireLock (id : TaskId)
  /-- `get_existing_task_id` reads the entry. -/
  | getExistingTaskId (id : TaskId)
  | published (id : TaskId)
  /-- The publication raises. -/
  | publishFailed (id : TaskId)
  | onSuccess (id : TaskId)
  | onFailure (id : TaskId)
  /-- The entry of a key reaches its expiry. -/
  | expire (key : Key)
  deriving DecidableEq

namespace Singleton

/-- `RedisBackend.unlock`. -/
def unlock (locks : Key → Option TaskId) (key : Key) : Key → Option TaskId :=
  Function.update locks key none

/-- The state with a task in another phase, or gone. -/
def setTask (s : SingletonState Key TaskId) (id : TaskId) (task : Option (Key × Phase)) :
    SingletonState Key TaskId :=
  { s with tasks := Function.update s.tasks id task }

/-- The entry of the key is set. -/
def acquire (s : SingletonState Key TaskId) (id : TaskId) (key : Key) :
    SingletonState Key TaskId :=
  { setTask s id (some (key, .publishing)) with locks := Function.update s.locks key (some id) }

/-- The task ends and unlocks its key. -/
def release (s : SingletonState Key TaskId) (id : TaskId) (key : Key) :
    SingletonState Key TaskId :=
  { setTask s id none with locks := unlock s.locks key }

/-- The steps of all submissions. -/
def machine : Machine (SingletonState Key TaskId) (SingletonAction Key TaskId) where
  step s
    | .applyAsync id key =>
      if s.tasks id = none then some (setTask s id (some (key, .locking))) else none
    | .aquireLock id =>
      match s.tasks id with
      | some (key, .locking) =>
        if s.locks key = none then some (acquire s id key)
        else some (setTask s id (some (key, .lookingUp)))
      | _ => none
    | .getExistingTaskId id =>
      match s.tasks id with
      | some (key, .lookingUp) =>
        -- the loop tries again where the entry is gone; else the call returns the existing task
        if s.locks key = none then some (setTask s id (some (key, .locking)))
        else some (setTask s id none)
      | _ => none
    | .published id =>
      match s.tasks id with
      | some (key, .publishing) => some (setTask s id (some (key, .running)))
      | _ => none
    | .publishFailed id =>
      match s.tasks id with
      | some (key, .publishing) => some (release s id key)
      | _ => none
    | .onSuccess id | .onFailure id =>
      match s.tasks id with
      | some (key, .running) => some (release s id key)
      | _ => none
    | .expire key => some { s with locks := unlock s.locks key }

/-- The task that an action ends. -/
def released : SingletonAction Key TaskId → Option TaskId
  | .publishFailed id | .onSuccess id | .onFailure id => some id
  | _ => none

/-- A task that acquired a key and has not ended. -/
def InFlight (s : SingletonState Key TaskId) (id : TaskId) (key : Key) : Prop :=
  s.tasks id = some (key, .publishing) ∨ s.tasks id = some (key, .running)

/-- No task that ends now deletes the entry of another one. -/
def ReleasesOwn (s : SingletonState Key TaskId) : Prop :=
  ∀ a id t, released a = some id → machine.step s a = some t →
    ∀ key other, s.locks key = some other → t.locks key = none → other = id

/-- A lock is acquired only when no task that acquired it before is in flight. -/
def AcquiresFree (s : SingletonState Key TaskId) : SingletonAction Key TaskId → Prop
  | .aquireLock id => ∀ key, s.tasks id = some (key, .locking) → s.locks key = none →
      ∀ other, ¬ InFlight s other key
  | _ => True

variable {s t : SingletonState Key TaskId} {id : TaskId} {key : Key}

/-! ### What a step can do -/

theorem locks_acquire_self : (acquire s id key).locks key = some id := Function.update_self ..

theorem locks_acquire_of_ne {k : Key} (hne : k ≠ key) :
    (acquire s id key).locks k = s.locks k := Function.update_of_ne hne ..

omit [DecidableEq TaskId] in
@[simp] theorem unlock_self (locks : Key → Option TaskId) (key : Key) :
    unlock locks key key = none :=
  Function.update_self ..

omit [DecidableEq TaskId] in
theorem unlock_of_ne (locks : Key → Option TaskId) {k key : Key} (hne : k ≠ key) :
    unlock locks key k = locks k := Function.update_of_ne hne ..

omit [DecidableEq TaskId] in
theorem eq_some_of_unlock {locks : Key → Option TaskId} {k key : Key} {other : TaskId}
    (h : unlock locks key k = some other) : k ≠ key ∧ locks k = some other := by
  have hne : k ≠ key := by
    rintro rfl
    simp at h
  exact ⟨hne, (unlock_of_ne locks hne).symm.trans h⟩

omit [DecidableEq Key] in
theorem inFlight_setTask_of_ne {task : Option (Key × Phase)} {other : TaskId} (hne : other ≠ id) :
    InFlight (setTask s id task) other key ↔ InFlight s other key := by
  simp only [InFlight, setTask, Function.update_of_ne hne]

omit [DecidableEq Key] [DecidableEq TaskId] in
theorem not_inFlight_of_phase {k : Key} {phase : Phase} (h : s.tasks id = some (k, phase))
    (hphase : phase = .locking ∨ phase = .lookingUp) : ¬ InFlight s id key := by
  rintro (hin | hin) <;> rw [h] at hin <;> rcases hphase with rfl | rfl <;> cases hin

/-- The kinds of steps: a task goes on without a change of the locks, a lock is acquired, a task
ends, or a lock lapses. -/
inductive StepKind (s t : SingletonState Key TaskId) : SingletonAction Key TaskId → Prop
  | goesOn {a : SingletonAction Key TaskId} {id : TaskId} {task : Option (Key × Phase)} :
      released a = none → AcquiresFree s a → t = setTask s id task →
      (∀ key, InFlight t id key → InFlight s id key) → StepKind s t a
  | acquires {id : TaskId} {key : Key} : s.tasks id = some (key, .locking) → s.locks key = none →
      t = acquire s id key → StepKind s t (.aquireLock id)
  | ends {a : SingletonAction Key TaskId} {id : TaskId} {key : Key} : released a = some id →
      InFlight s id key → t = release s id key → StepKind s t a
  | lapses {key : Key} : t = { s with locks := unlock s.locks key } → StepKind s t (.expire key)

theorem stepKind {a : SingletonAction Key TaskId} (h : machine.step s a = some t) :
    StepKind s t a := by
  cases a with
  | applyAsync id key =>
    simp only [machine] at h
    split_ifs at h with hnew
    obtain rfl := Option.some.inj h
    exact .goesOn rfl trivial rfl fun k hk => by simp [InFlight, setTask] at hk
  | aquireLock id =>
    simp only [machine] at h
    split at h
    · rename_i key hphase
      split_ifs at h with hfree
      · exact .acquires hphase hfree (Option.some.inj h).symm
      · obtain rfl := Option.some.inj h
        refine .goesOn rfl (fun k hk hfree' => ?_) rfl fun k hk => by simp [InFlight, setTask] at hk
        rw [hphase] at hk
        cases hk
        exact absurd hfree' hfree
    · cases h
  | getExistingTaskId id =>
    simp only [machine] at h
    split at h
    · split_ifs at h
      · obtain rfl := Option.some.inj h
        exact .goesOn rfl trivial rfl fun k hk => by simp [InFlight, setTask] at hk
      · obtain rfl := Option.some.inj h
        exact .goesOn rfl trivial rfl fun k hk => by simp [InFlight, setTask] at hk
    · cases h
  | published id =>
    simp only [machine] at h
    split at h
    · rename_i key hphase
      obtain rfl := Option.some.inj h
      refine .goesOn rfl trivial rfl fun k hk => .inl ?_
      simp only [InFlight, setTask, Function.update_self, Option.some.injEq, Prod.mk.injEq,
        reduceCtorEq, and_false, and_true, false_or] at hk
      rw [hphase, hk]
    · cases h
  | publishFailed id =>
    simp only [machine] at h
    split at h
    · rename_i key hphase
      exact .ends rfl (.inl hphase) (Option.some.inj h).symm
    · cases h
  | onSuccess id =>
    simp only [machine] at h
    split at h
    · rename_i key hphase
      exact .ends rfl (.inr hphase) (Option.some.inj h).symm
    · cases h
  | onFailure id =>
    simp only [machine] at h
    split at h
    · rename_i key hphase
      exact .ends rfl (.inr hphase) (Option.some.inj h).symm
    · cases h
  | expire key => exact .lapses (Option.some.inj h).symm

/-! ### The entries of tasks in flight -/

/-- The entry of the key of a task in flight, if it is there, records this task. -/
def OwnEntries (s : SingletonState Key TaskId) : Prop :=
  ∀ id key, InFlight s id key → ∀ other, s.locks key = some other → other = id

theorem exists_release (h : InFlight s id key) :
    ∃ a, released a = some id ∧ machine.step s a = some (release s id key) := by
  rcases h with h | h
  · exact ⟨.publishFailed id, rfl, by simp only [machine, h]⟩
  · exact ⟨.onSuccess id, rfl, by simp only [machine, h]⟩

theorem releasesOwn_iff : ReleasesOwn s ↔ OwnEntries s := by
  constructor
  · intro h id key hin other hother
    obtain ⟨a, hrel, hstep⟩ := exists_release hin
    exact h a id _ hrel hstep key other hother (Function.update_self ..)
  · intro h a id t hrel hstep key other hother hgone
    cases stepKind hstep with
    | goesOn hnone => rw [hnone] at hrel; cases hrel
    | acquires => cases hrel
    | @ends _ id' key' hrel' hin ht =>
      obtain rfl : id' = id := Option.some.inj (hrel'.symm.trans hrel)
      by_cases hkey : key = key'
      · exact h id' key (hkey ▸ hin) other hother
      · rw [ht] at hgone
        exact absurd (hother.symm.trans ((unlock_of_ne s.locks hkey).symm.trans hgone)) (by simp)
    | lapses => cases hrel

/-- **A step keeps the entries right exactly if it acquires no lock of a task in flight.** -/
theorem ownEntries_step_iff (h : OwnEntries s) {a : SingletonAction Key TaskId}
    (hstep : machine.step s a = some t) : OwnEntries t ↔ AcquiresFree s a := by
  cases stepKind hstep with
  | @goesOn _ id task hrel hfree ht hkeeps =>
    refine iff_of_true (fun id' key hin other hother => ?_) hfree
    have hlocks : t.locks = s.locks := by rw [ht]; rfl
    rw [hlocks] at hother
    by_cases hid : id' = id
    · subst hid
      exact h id' key (hkeeps key hin) other hother
    · rw [ht, inFlight_setTask_of_ne hid] at hin
      exact h id' key hin other hother
  | @acquires id key hphase hnone ht =>
    have hin : ∀ {id' k}, id' ≠ id → (InFlight t id' k ↔ InFlight s id' k) := by
      intro id' k hne
      rw [ht]
      exact inFlight_setTask_of_ne hne
    constructor
    · intro hown k hk _ other hother
      rw [hphase] at hk
      cases hk
      have hne : other ≠ id := by
        rintro rfl
        exact not_inFlight_of_phase hphase (.inl rfl) hother
      have hentry : t.locks key = some id := by rw [ht, locks_acquire_self]
      exact hne (hown other key ((hin hne).2 hother) id hentry).symm
    · intro hfree id' k hin' other hother
      by_cases hid : id' = id
      · subst hid
        have hk : k = key := by
          rw [ht] at hin'
          simpa [InFlight, acquire, setTask, eq_comm] using hin'
        rw [ht, hk, locks_acquire_self] at hother
        exact (Option.some.inj hother).symm
      · rw [hin hid] at hin'
        have hk : k ≠ key := by
          rintro rfl
          exact hfree k hphase hnone id' hin'
        rw [ht, locks_acquire_of_ne hk] at hother
        exact h id' k hin' other hother
  | @ends _ id key hrel hin ht =>
    have hfree : AcquiresFree s a := by
      cases a with
      | aquireLock id => cases hrel
      | _ => trivial
    refine iff_of_true (fun id' k hin' other hother => ?_) hfree
    have hid : id' ≠ id := by
      rintro rfl
      rw [ht] at hin'
      simp [InFlight, release, setTask] at hin'
    rw [ht] at hin' hother
    obtain ⟨-, hentry⟩ := eq_some_of_unlock hother
    exact h id' k ((inFlight_setTask_of_ne hid).1 hin') other hentry
  | @lapses key ht =>
    refine iff_of_true (fun id' k hin' other hother => ?_) trivial
    rw [ht] at hin' hother
    obtain ⟨-, hentry⟩ := eq_some_of_unlock hother
    exact h id' k hin' other hentry

/-! ### Runs -/

/-- No locks and no tasks. -/
def initial : SingletonState Key TaskId := ⟨fun _ => none, fun _ => none⟩

omit [DecidableEq Key] [DecidableEq TaskId] in
theorem ownEntries_initial : OwnEntries (initial : SingletonState Key TaskId) := by
  rintro id key (h | h) <;> cases h

/-- **Who releases a lock.**  All along a run every task releases its own lock only, exactly if no
lock is acquired while a task that acquired it before is in flight. -/
theorem releasesOwn_always_iff {as : List (SingletonAction Key TaskId)}
    (hrun : machine.run initial as = some t) :
    machine.Always ReleasesOwn initial as ↔ machine.Guarded AcquiresFree initial as := by
  refine Machine.always_iff_guarded (releasesOwn_iff.2 ownEntries_initial) ?_ hrun
  intro s a t h hstep
  rw [releasesOwn_iff, ownEntries_step_iff (releasesOwn_iff.1 h) hstep]

/-- A task that ends before its lock lapses, and a duplicate of it. -/
def duplicateRun : List (SingletonAction String String) :=
  [.applyAsync "A" "refresh", .aquireLock "A", .published "A", .applyAsync "B" "refresh",
   .aquireLock "B", .getExistingTaskId "B", .onSuccess "A"]

theorem releasesOwn_duplicateRun : machine.Always ReleasesOwn initial duplicateRun := by
  obtain ⟨t, ht⟩ : ∃ t, machine.run initial duplicateRun = some t := ⟨_, rfl⟩
  refine (releasesOwn_always_iff ht).2 ?_
  simp [duplicateRun, Machine.Guarded, AcquiresFree, machine, initial, setTask, acquire, InFlight,
    Function.update_apply]

/-- A task whose lock lapses while it runs, and another task with the same key. -/
def expiredRun : List (SingletonAction String String) :=
  [.applyAsync "A" "refresh", .aquireLock "A", .published "A", .expire "refresh",
   .applyAsync "B" "refresh", .aquireLock "B"]

/-- **A task whose lock has lapsed releases the lock of the next one.** -/
theorem expired_lock_released :
    ¬ ∀ as t, machine.run (initial : SingletonState String String) as = some t →
      machine.Always ReleasesOwn initial as := by
  intro hall
  obtain ⟨t, ht⟩ : ∃ t, machine.run initial expiredRun = some t := ⟨_, rfl⟩
  have hown := (hall expiredRun t ht).last ht
  obtain ⟨u, hu, hgone⟩ : ∃ u, machine.step t (.onSuccess "A") = some u ∧
      u.locks "refresh" = none := by
    cases ht
    exact ⟨_, rfl, rfl⟩
  have hentry : t.locks "refresh" = some "B" := by
    cases ht
    rfl
  exact absurd (hown _ "A" u rfl hu "refresh" "B" hentry hgone) (by decide)

end Singleton

end StormPiper
