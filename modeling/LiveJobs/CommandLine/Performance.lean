import LiveJobs.CommandLine.Complaint
import LiveJobs.Rehearsal.Once

/-!
# Performances

A command that is carried out against a scripted service. Following the list gives every view of
it that differs from the one before. A cancellation is asked for as soon as the job is known, and
given up if it is not known after fifteen seconds.
-/

namespace LiveJobs.CommandLine

open LiveJobs.Time

/-- What a command comes to. -/
structure Performance where
  views : List ListView
  accepted : Option CancelAccepted
  complaint : Option Complaint

namespace Performance

/-- A command that does nothing but fail. -/
def failed (complaint : Complaint) : Performance := ⟨[], none, some complaint⟩

/-- The code that a program ends with. -/
def exitCode (performance : Performance) : UInt8 := if performance.complaint.isSome then 1 else 0

end Performance

/-- The channels that the command line listens to. -/
def channels : List Channel := [.backgroundJobs, .deployments]

/-- How long a job is looked for, in milliseconds. -/
def lookupLimit : Nat := 15000

/-- The views that are shown until a given time, if some changes have been heard of before. -/
def viewsUntil (stage : Stage) (heard now target : Nat) : List ListView :=
  let settled := stage.settle now
  let store := settled.session.store
  let shown := if store.announced = heard then [] else [store.snapshot.view]
  match settled.nextDue? now with
  | none => shown
  | some due =>
      if _later : now < due ∧ due ≤ target then
        shown ++ viewsUntil settled store.announced due target
      else shown
termination_by target - now
decreasing_by omega

/-- Waits until a job is known, but no longer than until a given time. -/
def awaitJob (stage : Stage) (job : JobId) (now target : Nat) : Option (Nat × Stage) :=
  let settled := stage.settle now
  if (settled.session.store.job? job).isSome then some (now, settled)
  else
    match settled.nextDue? now with
    | none => none
    | some due =>
        if _later : now < due ∧ due ≤ target then awaitJob settled job due target else none
termination_by target - now
decreasing_by omega

/-- Follows the list until a given time. -/
def watchList (stage : Stage) (job : Option JobId) (target : Nat) : Performance :=
  let mounted := stage.session.mount
  let session := match job with
    | none => mounted
    | some job => mounted.watch job 0
  ⟨viewsUntil { stage with session := session } 0 0 target, none, none⟩

/-- Asks for the cancellation of a job. -/
def cancelJob (stage : Stage) (job : JobId) (reason : Option String) : Performance :=
  let watching := { stage with session := stage.session.watch job 0 }
  match awaitJob watching job 0 lookupLimit with
  | none => .failed (notFoundComplaint job)
  | some (now, found) =>
      match (found.awaitCancel now job reason).2.2 with
      | some (.ok accepted) => ⟨[], some accepted, none⟩
      | some (.error error) => .failed (cancelComplaint job error)
      | none => ⟨[], none, none⟩

/-- Carries out the command that the arguments ask for. Arguments are looked at before the
variables. -/
def perform (arguments : List String) (setting : Settings.Variables) (script : Script)
    (wall : Instant) (target : Nat) : Performance :=
  match Command.read arguments with
  | .error error => .failed error.complaint
  | .ok command =>
      match Settings.ofVariables setting with
      | .error error => .failed (settingsComplaint error)
      | .ok settings =>
          let stage := Stage.set (.start settings channels 0) script wall
          match command with
          | .watch job => watchList stage job target
          | .cancel job reason => cancelJob stage job reason

end LiveJobs.CommandLine
