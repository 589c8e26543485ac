import StormPiper.Run.Machine
import Mathlib.Data.List.Nodup
import Mathlib.Logic.Function.Basic

/-!
# Concurrent requests to a table

The endpoints of a table go through `CRUDBase`: a request looks its row up, commits one statement,
reads the row back and commits its entry in the change log, each in a step of its own
(`database/crud/base.py`, `api/endpoints/tmnt_source_control.py`).  Any number of requests are
served at a time, and their steps interleave.  The database itself does not fail.

* `CrudTable.machine` : the steps of all requests.
* `CrudTable.replay` : what the committed statements make of a table, one after the other.
* `CrudTable.Linearized` : the table is what the statements make of it, a request commits at most
  one of them, and its answer tells whether it did and shows the row at a moment after it, or tells
  that another request has deleted the row.
-/

namespace StormPiper

/-! ### Tables, requests and their steps -/

/-- A table with the primary key `idOf`, which a sequence fills in. -/
structure CrudTable (Row Id : Type) where
  idOf : Row → Id
  setId : Id → Row → Row
  idOf_setId : ∀ id r, idOf (setId id r) = id
  /-- The values of the sequence. -/
  serial : ℕ → Id
  serial_injective : Function.Injective serial
  /-- The ids that the driver can pass on. -/
  inRange : Id → Bool
  /-- What the database checks of the rows, besides the primary key. -/
  constraints : List Row → Bool
  /-- A row can always be deleted. -/
  constraints_filter : ∀ p rows, constraints rows = true → constraints (rows.filter p) = true

/-- The requests to the endpoints of a table. -/
inductive CrudRequest (Row Id : Type) where
  | get (id : Id)
  /-- There is no row where the driver cannot pass on a value of it. -/
  | create (newObj : Option Row)
  | patch (id : Id) (updateData : Row → Row)
  | remove (id : Id)

/-- The exceptions that the endpoints catch. -/
inductive CrudError where
  /-- `RecordNotFound` -/
  | recordNotFound
  /-- The driver or the database refuses a statement. -/
  | refused
  /-- `InvalidRequestError`: the row could not be refreshed. -/
  | notRefreshed
  deriving DecidableEq

/-- The answer to a request. -/
inductive CrudAnswer (Row : Type) where
  | ok (obj : Row)
  | noContent
  | notFound
  /-- `422`, with the text of an exception. -/
  | failed (e : CrudError)
  /-- `500`: an exception that the endpoint does not catch. -/
  | serverError

/-- How far a request has come. -/
inductive CrudPhase (Row Id : Type) where
  | started
  /-- The endpoint has looked the row up. -/
  | looked
  /-- `CRUDBase.update` has looked the row up. -/
  | found
  /-- The statement is committed. -/
  | written (id : Id)
  /-- `db.refresh` has read the row back. -/
  | refreshed (obj : Row)
  /-- The row is deleted. -/
  | removed
  | done (answer : CrudAnswer Row)

/-- A request and how far it has come. -/
structure CrudSession (Row Id : Type) where
  request : CrudRequest Row Id
  phase : CrudPhase Row Id

/-- A statement that changes the table. -/
inductive CrudChange (Row Id : Type) where
  | insert (row : Row)
  | modify (id : Id) (updateData : Row → Row)
  | delete (id : Id)

/-- What a request commits. -/
inductive CrudCommit (Row Id : Type) where
  | changed (change : CrudChange Row Id)
  | logged

/-- What a step does. -/
structure CrudTurn (Row Id : Type) where
  rows : List Row
  nextId : ℕ
  phase : CrudPhase Row Id
  commits : List (CrudCommit Row Id)

/-- The table, its sequence, the requests and the commits so far, each with the number of its
request. -/
structure CrudState (Row Id : Type) where
  rows : List Row
  nextId : ℕ
  sessions : List (CrudSession Row Id)
  commits : List (ℕ × CrudCommit Row Id)

/-- What happens next. -/
inductive CrudAction (Row Id : Type) where
  /-- A request arrives. -/
  | request (r : CrudRequest Row Id)
  /-- The request with a number makes its next step. -/
  | step (i : ℕ)

variable {Row Id : Type} [DecidableEq Id]

namespace CrudTable

variable (t : CrudTable Row Id)

/-- `db.execute(select(...).where(id == ...)).scalars().first()` -/
def find (rows : List Row) (id : Id) : Option Row := rows.find? fun r => t.idOf r = id

/-- The database accepts a table. -/
def accepts (rows : List Row) : Bool := (rows.map t.idOf).Nodup && t.constraints rows

/-- The next step of a request. -/
def turn (rows : List Row) (nextId : ℕ) (session : CrudSession Row Id) :
    Option (CrudTurn Row Id) :=
  match session.phase, session.request with
  | .started, .get id => some <|
    -- the endpoints for `GET` and `PATCH` look a row up outside of their `try`
    if t.inRange id then
      match t.find rows id with
      | some row => ⟨rows, nextId, .done (.ok row), []⟩
      | none => ⟨rows, nextId, .done .notFound, []⟩
    else ⟨rows, nextId, .done .serverError, []⟩
  | .started, .create none => some ⟨rows, nextId, .done (.failed .refused), []⟩
  | .started, .create (some newObj) =>
    -- the sequence moves on even if the row is refused
    let row := t.setId (t.serial nextId) newObj
    some <| if t.inRange (t.serial nextId) && t.accepts (rows ++ [row]) then
      ⟨rows ++ [row], nextId + 1, .written (t.serial nextId), [.changed (.insert row)]⟩
    else ⟨rows, nextId + 1, .done (.failed .refused), []⟩
  | .started, .patch id _ => some <|
    if t.inRange id then
      if (t.find rows id).isSome then ⟨rows, nextId, .looked, []⟩
      else ⟨rows, nextId, .done .notFound, []⟩
    else ⟨rows, nextId, .done .serverError, []⟩
  | .started, .remove id => some <|
    if t.inRange id then
      ⟨rows.filter fun r => t.idOf r ≠ id, nextId, .removed, [.changed (.delete id)]⟩
    else ⟨rows, nextId, .done (.failed .refused), []⟩
  | .looked, .patch id _ => some <|
    if (t.find rows id).isSome then ⟨rows, nextId, .found, []⟩
    else ⟨rows, nextId, .done (.failed .recordNotFound), []⟩
  | .found, .patch id updateData =>
    let updated := rows.map fun r => if t.idOf r = id then t.setId id (updateData r) else r
    some <| if (t.find rows id).isNone then ⟨rows, nextId, .written id, []⟩
    else if t.accepts updated then
      ⟨updated, nextId, .written id, [.changed (.modify id updateData)]⟩
    else ⟨rows, nextId, .done (.failed .refused), []⟩
  | .written id, _ => some <|
    match t.find rows id with
    | some row => ⟨rows, nextId, .refreshed row, []⟩
    | none => ⟨rows, nextId, .done (.failed .notRefreshed), []⟩
  | .refreshed row, _ => some ⟨rows, nextId, .done (.ok row), [.logged]⟩
  | .removed, _ => some ⟨rows, nextId, .done .noContent, [.logged]⟩
  | _, _ => none

/-- The state after a step of a request. -/
def after (s : CrudState Row Id) (i : ℕ) (session : CrudSession Row Id) (turn : CrudTurn Row Id) :
    CrudState Row Id where
  rows := turn.rows
  nextId := turn.nextId
  sessions := s.sessions.set i { session with phase := turn.phase }
  commits := s.commits ++ turn.commits.map fun c => (i, c)

/-- The steps of all requests. -/
def machine : Machine (CrudState Row Id) (CrudAction Row Id) where
  step s
    | .request r => some { s with sessions := s.sessions ++ [⟨r, .started⟩] }
    | .step i => do
      let session ← s.sessions[i]?
      let turn ← t.turn s.rows s.nextId session
      return after s i session turn

/-! ### One statement after the other -/

/-- The row that a statement is about. -/
def changedId : CrudChange Row Id → Id
  | .insert row => t.idOf row
  | .modify id _ => id
  | .delete id => id

/-- What a statement makes of the rows. -/
def apply (rowOf : Id → Option Row) : CrudChange Row Id → Id → Option Row
  | .insert row => Function.update rowOf (t.idOf row) (some row)
  | .modify id updateData =>
    Function.update rowOf id ((rowOf id).map fun r => t.setId id (updateData r))
  | .delete id => Function.update rowOf id none

/-- What a commit makes of the rows. -/
def applyCommit (rowOf : Id → Option Row) : ℕ × CrudCommit Row Id → Id → Option Row
  | (_, .changed change) => t.apply rowOf change
  | (_, .logged) => rowOf

/-- What the commits make of a table, one after the other. -/
def replay (rows : List Row) (commits : List (ℕ × CrudCommit Row Id)) : Id → Option Row :=
  commits.foldl t.applyCommit (t.find rows)

/-- The change of a commit of a request. -/
def changeOf (i : ℕ) : ℕ × CrudCommit Row Id → Option (CrudChange Row Id)
  | (j, .changed change) => if j = i then some change else none
  | (_, .logged) => none

/-- The changes of a request. -/
def changesOf (i : ℕ) (commits : List (ℕ × CrudCommit Row Id)) : List (CrudChange Row Id) :=
  commits.filterMap (changeOf i)

/-- The change that a request asks for. -/
def Asks : CrudRequest Row Id → CrudChange Row Id → Prop
  | .get _, _ => False
  | .create newObj, change => ∃ row ∈ newObj, ∃ n, change = .insert (t.setId (t.serial n) row)
  | .patch id updateData, change => change = .modify id updateData
  | .remove id, change => change = .delete id

/-- The row had this value at some moment. -/
def Seen (rows : List Row) (commits : List (ℕ × CrudCommit Row Id)) (id : Id) (obj : Option Row) :
    Prop :=
  ∃ past, past <+: commits ∧ t.replay rows past id = obj

/-- The row had this value at some moment after the change of the request. -/
def SeenAfter (rows : List Row) (commits : List (ℕ × CrudCommit Row Id)) (i : ℕ)
    (change : CrudChange Row Id) (obj : Row) : Prop :=
  ∃ past, past <+: commits ∧ (i, .changed change) ∈ past ∧
    t.replay rows past (t.changedId change) = some obj

/-- Another request deletes the row after the change. -/
def DeletedAfter (commits : List (ℕ × CrudCommit Row Id)) (i : ℕ) (change : CrudChange Row Id) :
    Prop :=
  ∃ past later j, commits = past ++ (i, .changed change) :: later ∧ j ≠ i ∧
    (j, .changed (.delete (t.changedId change))) ∈ later

/-- Another request deletes the row. -/
def DeletedByOther (commits : List (ℕ × CrudCommit Row Id)) (i : ℕ) (id : Id) : Prop :=
  ∃ j, j ≠ i ∧ (j, .changed (.delete id)) ∈ commits

/-- The request is a `PATCH` that changes nothing, as another request deletes its row. -/
def Misses (commits : List (ℕ × CrudCommit Row Id)) (i : ℕ) (request : CrudRequest Row Id) : Prop :=
  changesOf i commits = [] ∧ ∃ id updateData, request = .patch id updateData ∧
    DeletedByOther commits i id

/-- What the answer of a request tells. -/
def Tells (rows : List Row) (commits : List (ℕ × CrudCommit Row Id)) (i : ℕ)
    (request : CrudRequest Row Id) : CrudAnswer Row → Prop
  | .ok obj => match request with
    | .get id => changesOf i commits = [] ∧ t.Seen rows commits id (some obj)
    | _ => ∃ change, changesOf i commits = [change] ∧ t.Asks request change ∧
      t.SeenAfter rows commits i change obj
  | .noContent => ∃ id, request = .remove id ∧ changesOf i commits = [.delete id]
  | .notFound => changesOf i commits = [] ∧ ∃ id, t.Seen rows commits id none ∧
    (request = .get id ∨ ∃ updateData, request = .patch id updateData)
  | .failed .recordNotFound => Misses commits i request
  | .failed .refused => changesOf i commits = []
  -- another request deletes the row before the statement or after it
  | .failed .notRefreshed => Misses commits i request ∨ ∃ change, changesOf i commits = [change] ∧
    t.Asks request change ∧ t.DeletedAfter commits i change
  | .serverError => changesOf i commits = [] ∧ ∃ id, t.inRange id = false ∧
    (request = .get id ∨ ∃ updateData, request = .patch id updateData)

/-- The requests took effect one after the other. -/
structure Linearized (rows : List Row) (s : CrudState Row Id) : Prop where
  /-- The table is what the statements make of it. -/
  replayed : t.find s.rows = t.replay rows s.commits
  accepted : t.accepts s.rows = true
  /-- An answer tells what its request did. -/
  answered : ∀ (i : ℕ) request answer, s.sessions[i]? = some ⟨request, .done answer⟩ →
    t.Tells rows s.commits i request answer
  /-- When all requests are answered, every change is followed by an entry in the change log. -/
  recorded : (∀ session ∈ s.sessions, ∃ answer, session.phase = .done answer) →
    ∀ past i change later, s.commits = past ++ (i, .changed change) :: later →
      ∃ j, (j, .logged) ∈ later

end CrudTable

end StormPiper
