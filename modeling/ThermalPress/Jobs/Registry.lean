import ThermalPress.Jobs.Record

/-!
# The registry of jobs

The records of recent jobs in the order of their creation (`Registry`).  There are never more than the limit: when a
job is created beyond it, the oldest record goes, and of several that are equally old the one created first
(`oldest?`).  Changing a record that is gone changes nothing.
-/

namespace ThermalPress

/-- Records of jobs, at most `limit` of them. -/
structure Registry where
  limit : Nat
  jobs : List JobRecord
  deriving DecidableEq, Repr

namespace Registry

/-- A registry without jobs. -/
def empty (limit : Nat) : Registry := ⟨limit, []⟩

/-- The first of the oldest records. -/
def oldest? : List JobRecord → Option JobRecord
  | [] => none
  | job :: jobs =>
    match oldest? jobs with
    | none => some job
    | some other => if job.createdAt ≤ other.createdAt then some job else some other

/-- The records without the first of the oldest ones. -/
def dropOldest (jobs : List JobRecord) : List JobRecord :=
  match oldest? jobs with
  | none => jobs
  | some job => jobs.erase job

/-- Drops that many of the oldest records. -/
def dropOldestTimes : Nat → List JobRecord → List JobRecord
  | 0, jobs => jobs
  | n + 1, jobs => dropOldestTimes n (dropOldest jobs)

/-- The registry with a new record. -/
def create (registry : Registry) (job : JobRecord) : Registry :=
  let jobs := registry.jobs ++ [job]
  { registry with jobs := dropOldestTimes (jobs.length - registry.limit) jobs }

/-- The record of a job. -/
def get? (registry : Registry) (id : String) : Option JobRecord := registry.jobs.find? (·.id == id)

/-- Whether there is a record of a job. -/
def contains (registry : Registry) (id : String) : Bool := (registry.get? id).isSome

/-- Changes the record of a job at some time. -/
def update (registry : Registry) (id : String) (now : Timestamp) (change : JobRecord → JobRecord) : Registry :=
  { registry with
    jobs := registry.jobs.map fun job => if job.id = id then { change job with updatedAt := now } else job }

/-- All records, the newest first; records created at one time stay in the order of their creation. -/
def newestFirst (registry : Registry) : List JobRecord :=
  registry.jobs.mergeSort fun a b => decide (b.createdAt ≤ a.createdAt)

end Registry

end ThermalPress
