/-
  TokenTimer.Agent.Journal — the side-effect journal of job attempts
  (`packages/agent/src/job-journal/index.js`).

  A marker is written, under a temporary name first, before an attempt touches
  the host, and removed when the attempt's terminal result is recorded.  A
  marker that is still there after a restart stops the job from being executed
  again.
-/

import TokenTimer.Agent.Host

namespace TokenTimer.Agent

open Lib.Faulty TokenTimer.Json

/-! ## §1. Names. -/

/-- `id.replace(/[^A-Za-z0-9_.:-]/g, "_")`. -/
def sanitizeId (id : JsString) : JsString := id.map fun c => if isIdUnit c then c else unit '_'

/-- The file name of `journalPathFor`. -/
def journalName (jobId attemptId : JsString) : JsString :=
  sanitizeId jobId ++ js "-" ++ sanitizeId attemptId ++ ENTRY_FILE_SUFFIX

def journalPathFor (jobId attemptId : JsString) : OnHost JsString :=
  if jobId = [] then raise (.other (js "job-journal: jobId is required"))
  else if attemptId = [] then raise (.other (js "job-journal: attemptId is required"))
  else pure (journalName jobId attemptId)

def findMarker (name : JsString) (journal : List JournalFile) : Option JournalFile :=
  journal.find? (·.name = name)

def removeMarker (name : JsString) (journal : List JournalFile) : List JournalFile :=
  journal.filter (·.name ≠ name)

/-! ## §2. The journal's operations. -/

/-- `renameSync` of the written marker. -/
def putMarker (name : JsString) (entry : JournalEntry) : OnHost Unit :=
  op fun host => .ok ((),
    { host with journal := removeMarker name host.journal ++ [⟨name, some entry⟩] })

def markSideEffectReached (jobId attemptId stage : JsString) : OnHost Unit :=
  if stage = [] ∨ stage.length > 64 then
    raise (.other (js "job-journal: stage must be a non-empty string <= 64 chars"))
  else do
    -- `ensureJournalDir`.
    tick
    tick
    let name ← journalPathFor jobId attemptId
    let host ← look
    if (findMarker name host.journal).isSome then pure ()
    else do
      -- The temporary file and its permissions.
      tick
      tick
      putMarker name ⟨jobId, attemptId, false⟩

/-- The marker call of `executeJob` for the attempt under way. -/
def markMutation (stage : JsString) : OnHost Unit := do
  let host ← look
  if host.attempt.2 = [] then pure ()
  else markSideEffectReached host.attempt.1 host.attempt.2 stage

/-- The entry a scan takes from a file. -/
def JournalFile.unresolved (file : JournalFile) : Option JournalEntry :=
  file.content.filter (!·.reconciled)

/-- One turn of `scanUnresolvedJournalEntries`: a file that cannot be read is
    skipped. -/
def readJournalFile (file : JournalFile) : OnHost (Option JournalEntry) :=
  if ENTRY_FILE_SUFFIX.isSuffixOf file.name then do
    match ← attempt tick with
    | .ok _ => pure file.unresolved
    | .error _ => pure none
  else pure none

/-- The files of the journal: none where `existsSync` or `readdirSync` fails. -/
def listJournal : OnHost (List JournalFile) := do
  match ← attempt tick with
  | .error _ => pure []
  | .ok _ =>
    match ← attempt (op fun host => .ok (host.journal, host)) with
    | .error _ => pure []
    | .ok files => pure files

def scanUnresolvedJournalEntries : OnHost (List JournalEntry) := do
  let files ← listJournal
  collect readJournalFile files

def hasUnresolvedJournalForJob (jobId : JsString) : OnHost Bool :=
  if jobId = [] then pure false
  else do
    let entries ← scanUnresolvedJournalEntries
    pure (entries.any (·.jobId = jobId))

/-- `clearJournalOnTerminal` for a terminal status; every status of a result is
    one.  `ENOENT` answers that nothing was cleared. -/
def clearJournalOnTerminal (jobId attemptId : JsString) : OnHost Bool := do
  let name ← journalPathFor jobId attemptId
  let removed ← attempt (op fun host =>
    match findMarker name host.journal with
    | none => .error .enoent
    | some _ => .ok ((), { host with journal := removeMarker name host.journal }))
  match removed with
  | .ok _ => pure true
  | .error .enoent => pure false
  | .error error => raise error

end TokenTimer.Agent
