/-! # Faults

How a call to the gateway fails. Nothing but messages depends on the kind: whoever made the call
treats every fault as a call that did not succeed.
-/

namespace FleetWatch

inductive Fault where
  /-- The gateway could not be reached. -/
  | connection (detail : String)
  /-- No answer came in time. -/
  | timeout
  /-- The answer's status was no success. -/
  | status (method path : String) (code : Nat)
  /-- The answer's body was not of the expected form. -/
  | decode (detail : String)
  /-- The request could not be made or broke off. -/
  | request (detail : String)
  deriving Repr, DecidableEq, Inhabited

def Fault.message : Fault → String
  | connection detail => "connection failed: " ++ detail
  | timeout => "request timed out"
  | status method path code => method ++ " " ++ path ++ " returned status " ++ code.repr
  | decode detail => "failed to decode response: " ++ detail
  | request detail => "request failed: " ++ detail

end FleetWatch
