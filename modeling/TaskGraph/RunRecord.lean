-- SUMMARY: Records of task runs, and which one counts for a task.
import TaskGraph.Json.Fields

/-!
# Run records

Of the records of a task the latest counts: the one with the greatest start time,
where a record without a start time is older than any with one. Of records that
start at the same time the last one in the list counts.
-/
namespace TaskGraph

open Json (Constant Value)

/-- How far the run of a task is. -/
inductive Status where
  /-- Not started; also the status of a task without any record. -/
  | init
  | waiting
  | running
  | skipped
  | failed
  | succeeded
  | suspended
  deriving DecidableEq, Repr, Inhabited

instance : Constant Status where
  all := [.init, .waiting, .running, .skipped, .failed, .succeeded, .suspended]
  name
    | .init => "INIT"
    | .waiting => "WAITING"
    | .running => "RUNNING"
    | .skipped => "SKIPPED"
    | .failed => "FAILED"
    | .succeeded => "SUCCEEDED"
    | .suspended => "SUSPENDED"

structure RunRecord where
  businessId : Option String := none
  /-- The id of the node that the record is about. -/
  node : String
  status : Status
  /-- In milliseconds since the epoch. -/
  startTime : Option Nat := none
  deriving DecidableEq, Repr

namespace RunRecord

/-- Whether `a` started no later than `b`. -/
def notAfter (a b : RunRecord) : Bool :=
  match a.startTime, b.startTime with
  | none, _ => true
  | some _, none => false
  | some s, some t => s ≤ t

/-- The record of a node that counts. -/
def latest? (records : List RunRecord) (node : String) : Option RunRecord :=
  (records.filter (·.node == node)).foldl
    (fun best r => match best with
      | some b => if b.notAfter r then some r else some b
      | none => some r)
    none

/-- Start times are 64-bit numbers. -/
def maxStartTime : Nat := UInt64.size - 1

def ofJson? (v : Value) : Option RunRecord := do
  let fs ← v.fields? ["businessId", "nodeName", "status", "startTime"]
  return {
    businessId := ← fs.optional? "businessId" Value.text?
    node := ← fs.required? "nodeName" Value.text?
    status := ← fs.required? "status" Value.constantOf?
    startTime := ← fs.optional? "startTime" (Value.natUpTo? maxStartTime) }

def listOfJson? : Value → Option (List RunRecord) := Value.listOf? ofJson?

end RunRecord
end TaskGraph
