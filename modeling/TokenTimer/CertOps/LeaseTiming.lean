/-
  TokenTimer.CertOps.LeaseTiming — the lease, grace and nonce windows
  (`apps/api/services/certops/leaseTiming.js`).

  The windows are read from two environment variables with `Number.parseInt`,
  so every process that imports the module computes them from the SAME two
  strings.  A variable is `none` when it is not set; `parseInt` answers `none`
  for `NaN`.

  Numbers are exact here.  A lease whose seconds exceed the range of a Postgres
  `interval` is refused by the database long before a double loses a unit, and
  the grace must be a SAFE integer.

  Main results:
    * `grace_le_graceSeconds` — the grace rounded up to seconds covers the grace.
    * `lease_grace_le_ttl` — a nonce outlives the lease plus the hard grace.
-/

import TokenTimer.Basic

namespace TokenTimer.CertOps

/-! ## §1. `Number.parseInt(text, 10)`. -/

def isDigit (c : Char) : Bool := '0' ≤ c ∧ c ≤ '9'

/-- The value of a run of digits, most significant first. -/
def digitsValue (ds : List Char) : Nat :=
  ds.foldl (fun n c => 10 * n + (c.toNat - '0'.toNat)) 0

/-- The digits `parseInt` reads: the longest prefix of digits, `none` when it
    is empty. -/
def leadingNat (cs : List Char) : Option Nat :=
  let ds := cs.takeWhile isDigit
  if ds.isEmpty then none else some (digitsValue ds)

/-- `Number.parseInt(text, 10)`: leading white space, an optional sign, digits;
    the rest of the text is ignored. -/
def parseInt10 (text : String) : Option Int :=
  match text.toList.dropWhile isJsSpace with
  | '-' :: cs => (leadingNat cs).map fun n => -(n : Int)
  | '+' :: cs => (leadingNat cs).map fun n => (n : Int)
  | cs => (leadingNat cs).map fun n => (n : Int)

/-- `Number.MAX_SAFE_INTEGER`. -/
def maxSafeInteger : Int := 9007199254740991

/-! ## §2. The windows. -/

/-- The two environment variables of the windows. -/
structure TimingEnv where
  CERTOPS_JOB_LEASE_SECONDS : Option String
  CERTOPS_LEASE_HARD_GRACE_MS : Option String
deriving DecidableEq, Repr

def DEFAULT_JOB_LEASE_SECONDS : Nat := 900
def NONCE_TTL_GRACE_SECONDS : Nat := 300
def DEFAULT_LEASE_HARD_GRACE_MS : Nat := 60 * 60 * 1000

def jobLeaseSeconds (env : TimingEnv) : Nat :=
  match env.CERTOPS_JOB_LEASE_SECONDS.bind parseInt10 with
  | some raw => if 0 < raw then raw.toNat else DEFAULT_JOB_LEASE_SECONDS
  | none => DEFAULT_JOB_LEASE_SECONDS

/-- `leaseHardGraceMs`: a safe integer greater than zero, or one hour. -/
def leaseHardGraceMs (env : TimingEnv) : Nat :=
  match env.CERTOPS_LEASE_HARD_GRACE_MS.bind parseInt10 with
  | some raw =>
    if 0 < raw ∧ raw ≤ maxSafeInteger then raw.toNat else DEFAULT_LEASE_HARD_GRACE_MS
  | none => DEFAULT_LEASE_HARD_GRACE_MS

/-- `leaseHardGraceSeconds`: `Math.ceil(ms / 1000)`. -/
def leaseHardGraceSeconds (env : TimingEnv) : Nat :=
  (leaseHardGraceMs env + 999) / 1000

def dispatchNonceTtlSeconds (env : TimingEnv) : Nat :=
  jobLeaseSeconds env + leaseHardGraceSeconds env + NONCE_TTL_GRACE_SECONDS

/-! ## §3. How the windows are ordered. -/

/-- Rounding the grace to seconds rounds it UP. -/
theorem grace_le_graceSeconds (env : TimingEnv) :
    leaseHardGraceMs env ≤ leaseHardGraceSeconds env * 1000 := by
  unfold leaseHardGraceSeconds
  omega

/-- **A NONCE OUTLIVES THE LEASE PLUS THE HARD GRACE** by the delivery grace, in
    milliseconds, for every setting of the two variables. -/
theorem lease_grace_le_ttl (env : TimingEnv) :
    jobLeaseSeconds env * 1000 + leaseHardGraceMs env + NONCE_TTL_GRACE_SECONDS * 1000 ≤
      dispatchNonceTtlSeconds env * 1000 := by
  have hg := grace_le_graceSeconds env
  unfold dispatchNonceTtlSeconds
  rw [Nat.add_mul, Nat.add_mul]
  exact Nat.add_le_add_right (Nat.add_le_add_left hg _) _

example : jobLeaseSeconds ⟨some " 12s", none⟩ = 12 := by decide
example : leaseHardGraceMs ⟨none, some "-5"⟩ = 3600000 := by decide

end TokenTimer.CertOps
