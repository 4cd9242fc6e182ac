/-!
# What goes wrong with a driver

A driver cannot be started, cannot be written to or read from, ends before it answers, answers
something else than was asked for, or reports a failure of its own.

* `Error.ofReport`: the error that a driver reports by a code and a message.
* `Error.message`: the text of an error.
-/

namespace LedgerQuery.Driver

/-- Why a program cannot be started. -/
inductive StartFault where
  | missing
  | denied
  deriving DecidableEq, Inhabited

/-- The text of a fault on starting a program. -/
def StartFault.message : StartFault → String
  | .missing => "No such file or directory (os error 2)"
  | .denied => "Permission denied (os error 13)"

/-- What goes wrong with a driver. -/
inductive Error where
  | notStarted (fault : StartFault)
  /-- The driver takes no more requests. -/
  | notWritten
  /-- A line of the driver is no text. -/
  | notRead
  /-- The result of a response is not of the expected form. -/
  | undecodable
  /-- The driver ended before it answered. -/
  | exited
  | notFound (message : String)
  | connectionFailed (message : String)
  | invalidRequest (message : String)
  | unknownMethod (message : String)
  | queryFailed (message : String)
  /-- A failure that the driver reports by a code of its own. -/
  | reported (code message : String)
  deriving DecidableEq, Inhabited

namespace Error

/-- The error that a driver reports by a code and a message. -/
def ofReport (code message : String) : Error :=
  if code = "DRIVER_NOT_FOUND" then .notFound message
  else if code = "CONNECTION_FAILED" then .connectionFailed message
  else if code = "INVALID_REQUEST" then .invalidRequest message
  else if code = "METHOD_NOT_FOUND" then .unknownMethod message
  else if code = "QUERY_FAILED" then .queryFailed message
  else .reported code message

/-- The error of a failure that is reported without a code. -/
def unexplained : Error :=
  .reported "UNKNOWN" "driver returned failure without error details"

/-- The text of an error. -/
def message : Error → String
  | .notStarted f => "failed to spawn driver process: " ++ f.message
  | .notWritten => "failed to write to driver: Broken pipe (os error 32)"
  | .notRead => "failed to read from driver: stream did not contain valid UTF-8"
  | .undecodable => "failed to deserialize response"
  | .exited => "driver process exited unexpectedly"
  | .notFound m => "warehouse driver not found: " ++ m
  | .connectionFailed m => "warehouse connection failed: " ++ m
  | .invalidRequest m => "invalid request: " ++ m
  | .unknownMethod m => "method not found: " ++ m
  | .queryFailed m => m
  | .reported code m => "driver error: " ++ m ++ " (code: " ++ code ++ ")"

end Error

end LedgerQuery.Driver
