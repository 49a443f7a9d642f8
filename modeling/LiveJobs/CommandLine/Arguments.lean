import LiveJobs.Ident

/-!
# Arguments

What the command line asks for: to follow the job list, with or without one job that is followed
too, or to ask for the cancellation of a job.
-/

namespace LiveJobs.CommandLine

/-- What is asked for. -/
inductive Command where
  | watch (job : Option JobId)
  | cancel (job : JobId) (reason : Option String)
  deriving DecidableEq, Repr

/-- Why arguments ask for nothing. -/
inductive ArgumentError where
  /-- No job is named to be cancelled. -/
  | missingJob
  | invalidJob (error : NameError)
  | unknownOption (text : String)
  | unexpected (text : String)
  deriving DecidableEq, Repr

/-- Reads the name of a job. -/
def readJob (text : String) : Except ArgumentError JobId :=
  match JobId.read text with
  | .ok job => .ok job
  | .error error => .error (.invalidJob error)

/-- The reason that words give; none if they are empty. -/
def reasonOf (words : List String) : Option String :=
  let reason := " ".intercalate words
  if reason.isEmpty then none else some reason

/-- Whether an argument looks like an option. -/
def isOption (text : String) : Bool := text.toList.head? = some '-'

/-- Reads the arguments. -/
def Command.read : List String → Except ArgumentError Command
  | [] => .ok (.watch none)
  | "cancel" :: [] => .error .missingJob
  | "cancel" :: text :: words => do
      let job ← readJob text
      .ok (.cancel job (reasonOf words))
  | [text] =>
      if isOption text then .error (.unknownOption text)
      else do
        let job ← readJob text
        .ok (.watch (some job))
  | text :: extra :: _ =>
      if isOption text then .error (.unknownOption text) else .error (.unexpected extra)

end LiveJobs.CommandLine
