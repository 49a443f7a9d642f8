import LiveJobs.Cancellation
import LiveJobs.CommandLine.Arguments
import LiveJobs.Settings.Basic

/-!
# Complaints

How a failed command explains itself: what it was about, and what caused that, the nearest cause
first. Several causes are numbered.
-/

namespace LiveJobs.CommandLine

/-- An explanation of a failure. -/
structure Complaint where
  message : String
  causes : List String
  deriving DecidableEq, Repr

namespace Complaint

/-- The lines of numbered causes. -/
def numbered : (number : Nat) → List String → List String
  | _, [] => []
  | number, cause :: rest =>
      ("    " ++ toString number ++ ": " ++ cause) :: numbered (number + 1) rest

/-- The lines of the explanation. -/
def lines (complaint : Complaint) : List String :=
  let first := "Error: " ++ complaint.message
  match complaint.causes with
  | [] => [first]
  | [cause] => [first, "", "Caused by:", "    " ++ cause]
  | causes => [first, "", "Caused by:"] ++ numbered 0 causes

end Complaint

/-- What is said of arguments that ask for nothing. -/
def ArgumentError.complaint : ArgumentError → Complaint
  | .missingJob => ⟨"usage: jobsync-watch cancel <job-id> [reason]", []⟩
  | .invalidJob error => ⟨"invalid job id", [error.message]⟩
  | .unknownOption text => ⟨"unknown option " ++ text, []⟩
  | .unexpected text => ⟨"unexpected argument " ++ text, []⟩

/-- What is said of variables that do not make settings. -/
def settingsComplaint (error : SettingsError) : Complaint :=
  ⟨"reading JOBSYNC_* configuration", [error.toFault.message]⟩

/-- What is said of a job that is not found in time. -/
def notFoundComplaint (job : JobId) : Complaint :=
  ⟨"job " ++ job.text ++ " not found", ["deadline has elapsed"]⟩

/-- The causes of an error, the nearest first. -/
def causesOf (error : CancelError) : List String :=
  match error with
  | .request fault => [error.message, fault.message]
  | _ => [error.message]

/-- What is said of a cancellation that was not accepted. -/
def cancelComplaint (job : JobId) (error : CancelError) : Complaint :=
  ⟨"cancelling job " ++ job.text, causesOf error⟩

end LiveJobs.CommandLine
