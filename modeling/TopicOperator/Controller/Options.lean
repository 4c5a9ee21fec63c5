import TopicOperator.Time.Duration

/-!
# Options of the controller

How many passes may run at once, when the next pass is due after one that succeeded or failed, and how
long a call of the remote service may take.
-/

namespace TopicOperator

/-- Options of the controller. -/
structure ControllerOptions where
  maxConcurrent : Nat := 4
  /-- The delay after a pass that succeeded. -/
  requeueInterval : Duration := .ofSeconds 60
  /-- The delay after a pass that failed. -/
  errorRequeueInterval : Duration := .ofSeconds 10
  /-- How long a call may take. -/
  callTimeout : Duration := .ofSeconds 30
deriving DecidableEq, Repr

/-- Options as events show them. -/
def ControllerOptions.text (o : ControllerOptions) : String :=
  "ControllerOptions \x7b max_concurrent_reconciles: " ++ Number.decimal o.maxConcurrent ++
    ", requeue_interval: " ++ o.requeueInterval.text ++
    ", error_requeue_interval: " ++ o.errorRequeueInterval.text ++
    ", external_call_timeout: " ++ o.callTimeout.text ++ " \x7d"

end TopicOperator
