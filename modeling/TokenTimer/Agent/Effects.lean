/-
  TokenTimer.Agent.Effects — what the programs of the deploy module and of the
  executors can do to the host.

  A predicate of the host is STABLE for paths `W` that may be written and paths
  `R` that may be removed, if it survives every single such operation, an answer
  of the outside world, a random nonce and the note of a mutation.  A program
  that writes only to `W` and removes only from `R` then keeps it, however the
  program stops.  Every frame fact about these programs is one instance.

  Main results:
    * `Stable.deployCertificate`, `Stable.deployCertificateAndKey` — the deploys.
    * `Undisturbed.runDeployReloadVerifyForTargets` — the deploy tail.
-/

import TokenTimer.Agent.Execution

namespace TokenTimer.Agent

open Lib.Faulty TokenTimer.Json

/-! ## §1. Programs that only look. -/

section Observing

variable {I : Host → Prop} {path : Path}

theorem observes_readFile :
    Observes (readFile path) fun content host => host.files.lookup path = some content := by
  refine Observes.op fun host content host' heq => ?_
  cases hl : host.files.lookup path with
  | none =>
    rw [hl] at heq
    cases heq
  | some found =>
    rw [hl] at heq
    injection heq with heq
    injection heq with hc hh
    exact ⟨hh.symm, congrArg some hc⟩

theorem observes_existsFile :
    Observes (existsFile path) fun found host => found = (host.files.lookup path).isSome := by
  refine Observes.op fun host found host' heq => ?_
  injection heq with heq
  injection heq with hf hh
  exact ⟨hh.symm, hf.symm⟩

theorem keeps_readFile : Keeps I (readFile path) := observes_readFile.keeps

theorem keeps_existsFile : Keeps I (existsFile path) := observes_existsFile.keeps

theorem keeps_readExisting : Keeps I (readExisting path) := by
  unfold readExisting
  refine Keeps.bind (Keeps.attempt keeps_readFile) fun result => ?_
  rcases result with (_ | _) | _
  · exact Keeps.pure
  · exact Keeps.pure
  · exact Keeps.pure

theorem keeps_raise {α : Type} {error : FileError} : Keeps I (raise error : OnHost α) :=
  Triple.raise fun _ h => h

theorem keeps_look : Keeps I (look : OnHost Host) := Triple.look fun _ h => h

theorem keeps_answer {β : Type} {get : Answers → List β} {set : Answers → List β → Answers}
    {fallback : β} (hanswers : ∀ host answers, I host → I { host with answers := answers }) :
    Keeps I (answer get set fallback) := by
  refine Keeps.op fun host b host' hi heq => ?_
  cases hget : get host.answers with
  | nil =>
    rw [hget] at heq
    injection heq with heq
    injection heq with _ heq
    rw [← heq]
    exact hi
  | cons b' rest =>
    rw [hget] at heq
    injection heq with heq
    injection heq with _ heq
    rw [← heq]
    exact hanswers host _ hi

variable {env : Environment}

theorem keeps_validatePath : Keeps I (validatePath env path) := by
  unfold validatePath
  refine Keeps.ite Keeps.pure (Keeps.bind (Keeps.attempt Keeps.tick) fun result => ?_)
  cases result <;> exact Keeps.pure

variable {paths : List Path} {certificatePem : JsString}

theorem keeps_validatePaths :
    Keeps I (validatePaths env paths) := by
  induction paths with
  | nil => exact Keeps.pure
  | cons path paths ih => exact Keeps.bind keeps_validatePath fun _ => Keeps.ite ih Keeps.pure

theorem keeps_validateTargetConfig {target : Target} :
    Keeps I (validateTargetConfig env target) :=
  Keeps.ite Keeps.pure (Keeps.bind keeps_validatePaths fun _ => Keeps.ite Keeps.pure Keeps.pure)

theorem keeps_resolveDestinations :
    Keeps I (resolveDestinations env paths) := by
  unfold resolveDestinations
  refine Keeps.bind (Keeps.attempt (Keeps.forEach fun _ _ => Keeps.tick)) fun result => ?_
  cases result <;> exact Keeps.pure

theorem keeps_assertPublicMaterial {chainPem : Option JsString} :
    Keeps I (assertPublicMaterial env certificatePem chainPem) :=
  Keeps.ite keeps_raise (Keeps.ite keeps_raise Keeps.pure)

theorem keeps_readChain {chainPath : Option Path} : Keeps I (readChain chainPath) := by
  cases chainPath with
  | none => exact Keeps.pure
  | some path => exact keeps_readExisting

theorem keeps_readPrivateKeyPem : Keeps I (readPrivateKeyPem env path) := by
  unfold readPrivateKeyPem
  refine Keeps.bind (Keeps.attempt keeps_readFile) fun result => ?_
  cases result <;> exact Keeps.pure

theorem keeps_readLiveKeyPem {quarantined : Bool} :
    Keeps I (readLiveKeyPem env quarantined path) := Keeps.ite Keeps.pure keeps_readPrivateKeyPem

theorem keeps_rotationStagingSiblings : Keeps I (rotationStagingSiblings path) := by
  unfold rotationStagingSiblings
  refine Keeps.bind (Keeps.attempt Keeps.tick) fun result => ?_
  cases result with
  | error _ => exact Keeps.pure
  | ok _ => exact Keeps.bind keeps_look fun _ => Keeps.pure

theorem keeps_lastMatchingSibling {siblings : List Path} :
    Keeps I (lastMatchingSibling env certificatePem siblings) := by
  induction siblings with
  | nil => exact Keeps.pure
  | cons sibling siblings ih =>
    refine Keeps.bind keeps_readPrivateKeyPem fun pem => ?_
    cases pem with
    | none => exact ih
    | some pem => exact Keeps.ite Keeps.pure ih

theorem keeps_resolveAgentCustodyKey {live : Path} {certificatePem : Option JsString} :
    Keeps I (resolveAgentCustodyKey env live certificatePem) := by
  unfold resolveAgentCustodyKey
  refine Keeps.bind (Keeps.attempt keeps_readFile) fun marker => Keeps.bind keeps_readLiveKeyPem
    fun livePem => ?_
  refine Keeps.ite Keeps.pure (Keeps.bind keeps_rotationStagingSiblings fun siblings => ?_)
  cases certificatePem with
  | none => exact Keeps.pure
  | some cert =>
    refine Keeps.ite (Keeps.bind keeps_lastMatchingSibling fun sibling => ?_) Keeps.pure
    cases sibling <;> exact Keeps.pure

end Observing

/-! ## §2. Stable predicates. -/

/-- The predicate survives the single operations of the deploy programs. -/
structure Stable (W R : Path → Prop) (I : Host → Prop) : Prop where
  mutated : ∀ host, I host →
    I { host with history := host.history ++ [.mutated host.attempt.1 host.attempt.2] }
  insert : ∀ host path content, W path → I host →
    I { host with files := host.files.insert path content }
  erase : ∀ host path, R path → I host → I { host with files := host.files.erase path }
  answers : ∀ host answers, I host → I { host with answers := answers }
  nonce : ∀ host n, host.nextNonce ≤ n → I host → I { host with nextNonce := n }
  fresh : ∀ host destination backupDir, I host → W (backupPathFor host destination backupDir)

theorem le_freshNonce (host : Host) : host.nextNonce ≤ freshNonce host := by
  unfold freshNonce
  induction host.files.keys with
  | nil => exact Nat.le_refl _
  | cons path paths ih =>
    show host.nextNonce ≤ max (path.nonce + 1) (List.foldr _ host.nextNonce paths)
    omega

namespace Stable

variable {W R : Path → Prop} {I : Host → Prop} {path : Path} {content : Bytes}

section Operations

variable (h : Stable W R I)

include h

theorem mutation : Keeps I mutation := Triple.note h.mutated

theorem putFileAt (hw : W path) : Keeps I (putFileAt path content) := by
  refine Keeps.op fun host _ host' hi heq => ?_
  injection heq with heq
  injection heq with _ heq
  rw [← heq]
  exact h.insert host path content hw hi

theorem overwriteFile (hw : W path) : Keeps I (overwriteFile path content) :=
  Keeps.bind h.mutation fun _ => h.putFileAt hw

theorem writeNewFile (hw : W path) : Keeps I (writeNewFile path content) := by
  refine Keeps.bind h.mutation fun _ => Keeps.op fun host _ host' hi heq => ?_
  by_cases hexists : (host.files.lookup path).isSome
  · rw [if_pos hexists] at heq
    cases heq
  · rw [if_neg hexists] at heq
    injection heq with heq
    injection heq with _ heq
    rw [← heq]
    exact h.insert host path content hw hi

theorem atomicWrite (hw : W path) : Keeps I (atomicWrite path content) :=
  Keeps.bind h.mutation fun _ => Keeps.bind Keeps.tick fun _ => Keeps.bind (h.putFileAt hw) fun _ =>
    Keeps.bind (Keeps.attempt Keeps.tick) fun _ => Keeps.pure

theorem unlinkFile (hr : R path) : Keeps I (unlinkFile path) := by
  refine Keeps.bind h.mutation fun _ => Keeps.op fun host _ host' hi heq => ?_
  by_cases hexists : (host.files.lookup path).isSome
  · rw [if_pos hexists] at heq
    injection heq with heq
    injection heq with _ heq
    rw [← heq]
    exact h.erase host path hr hi
  · rw [if_neg hexists] at heq
    cases heq

theorem removeFileForce (hr : R path) : Keeps I (removeFileForce path) := by
  refine Keeps.bind h.mutation fun _ => Keeps.op fun host _ host' hi heq => ?_
  injection heq with heq
  injection heq with _ heq
  rw [← heq]
  exact h.erase host path hr hi

theorem renameFile {source : Path} (hr : R source) (hw : W path) :
    Keeps I (renameFile source path) := by
  refine Keeps.bind h.mutation fun _ => Keeps.op fun host _ host' hi heq => ?_
  cases hl : host.files.lookup source with
  | none =>
    rw [hl] at heq
    cases heq
  | some found =>
    rw [hl] at heq
    injection heq with heq
    injection heq with _ heq
    rw [← heq]
    exact h.insert _ path found hw (h.erase host source hr hi)

theorem answer {β : Type} {get : Answers → List β} {set : Answers → List β → Answers}
    {fallback : β} : Keeps I (answer get set fallback) := keeps_answer h.answers

theorem renewJobLeaseOrAbort : Keeps I renewJobLeaseOrAbort := by
  refine Keeps.bind (Keeps.attempt h.answer) fun held => ?_
  cases held <;> exact Keeps.pure

theorem effects {count : Nat} : Keeps I (effects count) :=
  Keeps.forEach fun _ _ => Keeps.bind h.mutation fun _ => Keeps.tick

end Operations

/-! ## §3. The deploy module. -/

section Deploying

variable {env : Environment} {mode : Restoring} {target : Target} {destination : Path}
  {backupDir : Option Path} {existing : Option Bytes}

theorem restoring {α : Type} {m : OnHost α} (h : Keeps I m) : Keeps I (restoring mode m) := by
  cases mode with
  | mayFail => exact h
  | succeeds => exact Triple.faultless h

theorem backUp (h : Stable W R I) {write : Path → Bytes → OnHost Unit}
    (hwrite : ∀ path content, W path → Keeps I (write path content)) :
    Keeps I (backUp write destination backupDir existing) := by
  cases existing with
  | none => exact Keeps.pure
  | some existing =>
    refine Triple.pin fun host hi => Triple.bind (Q := fun read s => read = host ∧ s = host)
      (Triple.look fun s hs => ⟨hs, hs⟩) fun read => Triple.of_forall fun hread => ?_
    subst hread
    refine Triple.bind (Q := fun _ => I) (Triple.note fun s hs => ?_) fun _ =>
      Keeps.bind (hwrite _ _ (h.fresh read destination backupDir hi)) fun _ => Keeps.pure
    subst hs
    exact h.nonce _ _ (Nat.le_succ_of_le (le_freshNonce _)) hi

theorem unlinkIfPresent (h : Stable W R I) (hr : R path) : Keeps I (unlinkIfPresent path) := by
  unfold TokenTimer.Agent.unlinkIfPresent
  refine Keeps.bind (Keeps.attempt (h.unlinkFile hr)) fun result => ?_
  rcases result with (_ | _) | _
  · exact Keeps.pure
  · exact keeps_raise
  · exact Keeps.pure

/-- Pruning removes backups of the destination, other than the one preserved. -/
theorem pruneDeployBackups (h : Stable W R I) {count : Nat} {preserved : Path}
    (hr : ∀ path, Path.isBackupOf destination (backupDir.getD (.dirname destination)) path = true →
      path ≠ preserved → R path) :
    Keeps I (pruneDeployBackups destination backupDir count preserved) := by
  unfold TokenTimer.Agent.pruneDeployBackups
  refine Keeps.bind (Keeps.attempt (Keeps.bind Keeps.tick fun _ => Keeps.bind keeps_look fun host =>
    Keeps.ite Keeps.pure (Keeps.forEach fun path hpath => ?_))) fun _ => Keeps.pure
  have hfiltered := List.mem_filter.mp (List.mem_of_mem_take hpath)
  have hcandidate := List.mem_filter.mp ((List.perm_insertionSort _ _).mem_iff.mp hfiltered.1)
  exact h.unlinkIfPresent (hr path hcandidate.2 (of_decide_eq_true hfiltered.2))

theorem pruneAfterDeploy (h : Stable W R I) {made : List (Path × Option Path)}
    (hr : ∀ x ∈ made, ∀ preserved, x.2 = some preserved → ∀ path,
      Path.isBackupOf x.1 (target.backupDir.getD (.dirname x.1)) path = true →
        path ≠ preserved → R path) :
    Keeps I (pruneAfterDeploy target made) := by
  unfold TokenTimer.Agent.pruneAfterDeploy
  cases target.backupRetentionCount with
  | none => exact Keeps.pure
  | some count =>
    refine Keeps.forEach ?_
    rintro ⟨destination, backup⟩ hx
    cases backup with
    | none => exact Keeps.pure
    | some preserved => exact h.pruneDeployBackups (hr _ hx preserved rfl)

/-- A slot whose destination may be written, by a writer that keeps the
    predicate. -/
def Slot.Keeps (I : Host → Prop) (W : Path → Prop) (slot : Slot) : Prop :=
  W slot.destination ∧ ∀ content, Lib.Faulty.Keeps I (slot.write slot.destination content)

variable {slots : List Slot} {retain : Bool} {keyPath : Path}

theorem rollbackSlots (hslots : ∀ slot ∈ slots, Slot.Keeps I W slot) :
    Keeps I (rollbackSlots slots) := by
  unfold TokenTimer.Agent.rollbackSlots
  refine Keeps.bind (Keeps.attempt (Keeps.forEach fun slot hslot => ?_)) fun result => ?_
  · cases slot.existing with
    | none => exact Keeps.pure
    | some existing => exact (hslots slot hslot).2 existing
  · cases result <;> exact Keeps.pure

theorem writeSlots (h : Stable W R I) (hslots : ∀ slot ∈ slots, Slot.Keeps I W slot) :
    Keeps I (writeSlots mode slots) := by
  unfold TokenTimer.Agent.writeSlots
  refine Keeps.bind (Keeps.attempt (Keeps.forEach fun slot hslot =>
    h.atomicWrite (hslots slot hslot).1)) fun result => ?_
  cases result with
  | ok _ => exact Keeps.pure
  | error _ => exact Keeps.bind (restoring (rollbackSlots hslots)) fun _ => Keeps.pure

/-- What retention may remove after a deploy to `destination`. -/
def Prunable (R : Path → Prop) (destination : Path) : Prop :=
  ∀ directory path, Path.isBackupOf destination directory path = true → R path

theorem backUpChain (h : Stable W R I) {chain : Option Slot} :
    Keeps I (backUpChain backupDir chain) := by
  cases chain with
  | none => exact Keeps.pure
  | some chain => exact h.backUp fun _ _ => h.writeNewFile

theorem prunable_made {destinations : List (Path × Option Path)}
    (hr : ∀ x ∈ destinations, Prunable R x.1) : ∀ x ∈ destinations, ∀ preserved,
      x.2 = some preserved → ∀ path,
        Path.isBackupOf x.1 (target.backupDir.getD (.dirname x.1)) path = true →
          path ≠ preserved → R path :=
  fun x hx _ _ path hpath _ => hr x hx _ path hpath

variable {cert key : Slot} {chain : Option Slot}

theorem installCertificate (h : Stable W R I)
    (hslots : ∀ slot ∈ cert :: chain.toList, Slot.Keeps I W slot ∧ Prunable R slot.destination) :
    Keeps I (installCertificate mode target cert chain) := by
  unfold TokenTimer.Agent.installCertificate
  refine Keeps.bind (Keeps.attempt (Keeps.bind (h.backUp fun _ _ => h.writeNewFile) fun _ =>
    Keeps.bind h.backUpChain fun _ => Keeps.pure)) fun backups => ?_
  rcases backups with _ | ⟨certBackup, chainBackup⟩
  · exact Keeps.pure
  · refine Keeps.bind (h.writeSlots fun slot hslot => (hslots slot hslot).1) fun written => ?_
    cases written with
    | some rolledBack => exact Keeps.pure
    | none =>
      refine Keeps.bind (h.pruneAfterDeploy (prunable_made ?_)) fun _ => Keeps.pure
      intro x hx
      rcases List.mem_cons.mp hx with rfl | hx
      · exact (hslots cert List.mem_cons_self).2
      · obtain ⟨slot, hslot, rfl⟩ := List.mem_map.mp hx
        exact (hslots slot (List.mem_cons_of_mem _ hslot)).2

/-- The files of a target that a deploy writes, with the backups it may prune. -/
def Deployable (W R : Path → Prop) (paths : List Path) : Prop :=
  ∀ path ∈ paths, W path ∧ Prunable R path

theorem chain_slot {chainPath : Option Path} {slot : Slot} (h : Stable W R I)
    (hpaths : Deployable W R chainPath.toList)
    (hslot : slot ∈ (chainPath.map fun path => (⟨path, content, existing, TokenTimer.Agent.overwriteFile⟩ : Slot)).toList) :
    Slot.Keeps I W slot ∧ Prunable R slot.destination := by
  cases chainPath with
  | none => cases hslot
  | some path =>
    rw [Option.map_some, Option.toList_some, List.mem_singleton] at hslot
    obtain ⟨hw, hr⟩ := hpaths path List.mem_cons_self
    rw [hslot]
    exact ⟨⟨hw, fun _ => h.overwriteFile hw⟩, hr⟩

variable {certificatePem : JsString} {chainPem : Option JsString}

theorem deployCertificate (h : Stable W R I)
    (hpaths : Deployable W R (target.certPath :: target.chainPath.toList)) :
    Keeps I (deployCertificate env mode target certificatePem chainPem) := by
  unfold TokenTimer.Agent.deployCertificate
  refine Keeps.bind keeps_assertPublicMaterial fun _ => Keeps.bind keeps_validateTargetConfig
    fun _ => Keeps.ite Keeps.pure (Keeps.ite Keeps.pure (Keeps.bind keeps_resolveDestinations
      fun stage => ?_))
  cases stage with
  | some _ => exact Keeps.pure
  | none =>
    refine Keeps.bind keeps_readExisting fun existingContent => ?_
    cases existingContent with
    | error _ => exact Keeps.pure
    | ok existingContent =>
      refine Keeps.bind keeps_readChain fun existingChain => ?_
      cases existingChain with
      | error _ => exact Keeps.pure
      | ok existingChain =>
        refine Keeps.ite Keeps.pure (h.installCertificate ?_)
        intro slot hslot
        rcases List.mem_cons.mp hslot with rfl | hslot
        · obtain ⟨hw, hr⟩ := hpaths target.certPath List.mem_cons_self
          exact ⟨⟨hw, fun _ => h.overwriteFile hw⟩, hr⟩
        · exact chain_slot h (fun path hpath => hpaths path (List.mem_cons_of_mem _ hpath)) hslot

/-- The files around a live custody key. -/
structure CustodyPaths (W R : Path → Prop) (live : Path) : Prop where
  write : W live
  remove : R live
  marker : W (.quarantineMarker live)
  unmark : R (.quarantineMarker live)
  stale : W (.stale live)

theorem quarantineCustodyKey (h : Stable W R I) {live : Path} (hlive : CustodyPaths W R live) :
    Keeps I (quarantineCustodyKey env live) := by
  unfold TokenTimer.Agent.quarantineCustodyKey
  refine Keeps.bind (Keeps.attempt (h.overwriteFile hlive.marker)) fun marked => Keeps.bind
    (Keeps.attempt (Keeps.bind keeps_readFile fun _ => h.renameFile hlive.remove hlive.stale))
      fun moved => ?_
  cases marked with
  | ok _ => cases moved <;> exact Keeps.pure
  | error _ =>
    cases moved with
    | ok _ => exact Keeps.pure
    | error _ =>
      refine Keeps.bind (Keeps.attempt (Keeps.bind h.mutation fun _ => Keeps.op
        fun host _ host' hi heq => ?_)) fun _ => Keeps.pure
      by_cases hexists : (host.files.lookup live).isSome
      · rw [if_pos hexists] at heq
        injection heq with heq
        injection heq with _ heq
        rw [← heq]
        exact h.insert host live [] hlive.write hi
      · rw [if_neg hexists] at heq
        cases heq

/-- The key a deploy reads may be removed, and promoted, where it is a staging
    sibling. -/
def KeySource (W R : Path → Prop) (privateKeyPath : Path) : Prop :=
  ∀ live suffix, privateKeyPath = .rotationStaging live suffix →
    R privateKeyPath ∧ CustodyPaths W R live

variable {privateKeyPath : Path}

theorem promoteCustodyKey (h : Stable W R I) {keyDestination : Path}
    (hsource : KeySource W R privateKeyPath) :
    Keeps I (promoteCustodyKey env privateKeyPath keyDestination) := by
  unfold TokenTimer.Agent.promoteCustodyKey
  cases privateKeyPath with
  | rotationStaging live suffix =>
    obtain ⟨hr, hlive⟩ := hsource live suffix rfl
    refine Keeps.ite Keeps.pure (Keeps.ite
      (Keeps.bind (Keeps.attempt (h.unlinkFile hr)) fun _ => Keeps.pure) ?_)
    refine Keeps.bind (Keeps.attempt (Keeps.bind keeps_readFile fun _ => Keeps.bind
      (h.atomicWrite hlive.write) fun _ => Keeps.bind keeps_readFile fun _ =>
        Keeps.ite Keeps.pure keeps_raise)) fun promotion => ?_
    cases promotion with
    | ok _ => exact Keeps.bind (Keeps.attempt (h.unlinkFile hlive.unmark)) fun _ =>
        Keeps.bind (Keeps.attempt (h.unlinkFile hr)) fun _ => Keeps.pure
    | error _ => exact Keeps.bind (h.quarantineCustodyKey hlive) fun _ => Keeps.pure
  | _ => exact Keeps.pure

theorem installCertificateAndKey (h : Stable W R I)
    (hsource : retain = false → KeySource W R privateKeyPath)
    (hslots : ∀ slot ∈ cert :: key :: chain.toList, Slot.Keeps I W slot ∧ Prunable R slot.destination) :
    Keeps I (installCertificateAndKey env mode target privateKeyPath retain cert key chain) := by
  unfold TokenTimer.Agent.installCertificateAndKey
  refine Keeps.bind (Keeps.attempt (Keeps.bind (h.backUp fun _ _ => h.writeNewFile) fun _ =>
    Keeps.bind (h.backUp fun _ _ => h.atomicWrite) fun _ =>
      Keeps.bind h.backUpChain fun _ => Keeps.pure)) fun backups => ?_
  rcases backups with _ | ⟨certBackup, keyBackup, chainBackup⟩
  · exact Keeps.pure
  · refine Keeps.bind (h.writeSlots fun slot hslot => (hslots slot hslot).1) fun written => ?_
    cases written with
    | some rolledBack => exact Keeps.pure
    | none =>
      have hcustody : Keeps I (promoteUnlessRetained env retain privateKeyPath key.destination) := by
        unfold promoteUnlessRetained
        cases retain with
        | true => exact Keeps.pure
        | false => exact h.promoteCustodyKey (hsource rfl)
      refine Keeps.bind hcustody fun _ =>
        Keeps.bind (h.pruneAfterDeploy (prunable_made ?_)) fun _ => Keeps.pure
      intro x hx
      rcases List.mem_cons.mp hx with rfl | hx
      · exact (hslots cert List.mem_cons_self).2
      · rcases List.mem_cons.mp hx with rfl | hx
        · exact (hslots key (List.mem_cons_of_mem _ List.mem_cons_self)).2
        · obtain ⟨slot, hslot, rfl⟩ := List.mem_map.mp hx
          exact (hslots slot (List.mem_cons_of_mem _ (List.mem_cons_of_mem _ hslot))).2

theorem deployCertificateAndKey (h : Stable W R I)
    (hsource : retain = false → KeySource W R privateKeyPath)
    (hpaths : Deployable W R (target.certPath :: keyPath :: target.chainPath.toList)) :
    Keeps I (deployCertificateAndKey env mode target keyPath certificatePem privateKeyPath chainPem
      retain) := by
  unfold TokenTimer.Agent.deployCertificateAndKey
  refine Keeps.bind keeps_assertPublicMaterial fun _ => Keeps.bind keeps_validateTargetConfig
    fun _ => Keeps.ite Keeps.pure (Keeps.ite Keeps.pure (Keeps.bind keeps_resolveDestinations
      fun stage => ?_))
  cases stage with
  | some _ => exact Keeps.pure
  | none =>
    refine Keeps.bind (Keeps.attempt keeps_readFile) fun keyContent => ?_
    cases keyContent with
    | error _ => exact Keeps.pure
    | ok keyContent =>
      refine Keeps.ite Keeps.pure (Keeps.bind keeps_readExisting fun existingCert => ?_)
      cases existingCert with
      | error _ => exact Keeps.pure
      | ok existingCert =>
        refine Keeps.bind keeps_readExisting fun existingKey => ?_
        cases existingKey with
        | error _ => exact Keeps.pure
        | ok existingKey =>
          refine Keeps.bind keeps_readChain fun existingChain => ?_
          cases existingChain with
          | error _ => exact Keeps.pure
          | ok existingChain =>
            refine Keeps.ite Keeps.pure (h.installCertificateAndKey hsource ?_)
            intro slot hslot
            rcases List.mem_cons.mp hslot with rfl | hslot
            · obtain ⟨hw, hr⟩ := hpaths target.certPath List.mem_cons_self
              exact ⟨⟨hw, fun _ => h.overwriteFile hw⟩, hr⟩
            · rcases List.mem_cons.mp hslot with rfl | hslot
              · obtain ⟨hw, hr⟩ := hpaths keyPath (List.mem_cons_of_mem _ List.mem_cons_self)
                exact ⟨⟨hw, fun _ => h.atomicWrite hw⟩, hr⟩
              · exact chain_slot h (fun path hpath =>
                  hpaths path (List.mem_cons_of_mem _ (List.mem_cons_of_mem _ hpath))) hslot

theorem restoreCustodyKey (h : Stable W R I) {custodyKeyPath : Path} (hw : W custodyKeyPath) :
    Keeps I (restoreCustodyKey env custodyKeyPath keyPath certificatePem) := by
  unfold TokenTimer.Agent.restoreCustodyKey
  refine Keeps.bind (Keeps.attempt (Keeps.bind keeps_readFile fun _ => Keeps.ite Keeps.pure
    (Keeps.ite Keeps.pure (Keeps.bind (h.atomicWrite hw) fun _ =>
      Keeps.bind keeps_readFile fun _ => Keeps.pure)))) fun restored => ?_
  cases restored <;> exact Keeps.pure

theorem removeDeployedArtifacts (h : Stable W R I) {destinations : List Path}
    (hr : ∀ path ∈ destinations, R path) : Keeps I (removeDeployedArtifacts env destinations) := by
  induction destinations with
  | nil => exact Keeps.pure
  | cons path paths ih =>
    rw [List.forall_mem_cons] at hr
    refine Keeps.bind (Keeps.ite Keeps.pure (Keeps.bind (Keeps.attempt (h.unlinkFile hr.1))
      fun result => ?_)) fun _ => Keeps.bind (ih hr.2) fun _ => Keeps.pure
    rcases result with (_ | _) | _
    · exact Keeps.pure
    · exact Keeps.pure
    · exact Keeps.pure

end Deploying

end Stable

/-! ## §4. The tail and the executors. -/

/-- Stable whatever is written or removed. -/
abbrev Undisturbed (I : Host → Prop) : Prop := Stable (fun _ => True) (fun _ => True) I

namespace Undisturbed

variable {I : Host → Prop} {env : Environment} {mode : Restoring} {job : TailJob}
  {target : DeployTarget} {deployment : Deployment} {previousPem : JsString} {leaseOpts : Bool}

theorem deployable {paths : List Path} : Stable.Deployable (fun _ => True) (fun _ => True) paths :=
  fun _ _ => ⟨trivial, fun _ _ _ => trivial⟩

theorem keySource {path : Path} : Stable.KeySource (fun _ => True) (fun _ => True) path :=
  fun _ _ _ => ⟨trivial, trivial, trivial, trivial, trivial, trivial⟩

variable (h : Undisturbed I)

include h

theorem reloadService : Keeps I reloadService := Keeps.bind h.mutation fun _ => h.answer

theorem leaseGate : Keeps I (leaseGate leaseOpts) := Keeps.ite h.renewJobLeaseOrAbort Keeps.pure

variable {service : Option JsString} {applied : List Applied}

theorem maybeReloadForJob :
    Keeps I (maybeReloadForJob env job service leaseOpts) := by
  unfold TokenTimer.Agent.maybeReloadForJob
  cases service with
  | none => exact Keeps.pure
  | some service =>
    cases job.reloadCommandRefs with
    | none => exact Keeps.pure
    | some refs =>
      exact Keeps.ite Keeps.pure (Keeps.ite Keeps.pure (Keeps.bind h.leaseGate fun _ =>
        Keeps.ite Keeps.pure (Keeps.bind h.reloadService fun _ =>
          Keeps.bind Keeps.tick fun _ => Keeps.pure)))

theorem restoreDeployment : Keeps I (restoreDeployment env mode target deployment previousPem) := by
  unfold TokenTimer.Agent.restoreDeployment
  cases deployment.keyBackup with
  | none => exact h.deployCertificate deployable
  | some keyBackup =>
    cases deployment.keyDestination with
    | none => exact h.deployCertificate deployable
    | some liveKeyPath =>
      refine Triple.ensure (M := fun _ => I) ?_ fun result => ?_
      · refine (Keeps.bind (Keeps.bind keeps_readFile fun _ => h.overwriteFile trivial) fun _ =>
          h.deployCertificateAndKey (fun _ => keySource) deployable).conseq (fun _ hi => hi)
            (fun _ _ hi => hi) ?_
        intro stop host hi
        cases stop <;> exact hi
      · refine (h.removeFileForce trivial).conseq (fun _ hi => hi) ?_ fun _ _ hi => hi
        intro _ host hi
        cases result <;> exact hi

theorem restoreCustody : Keeps I (restoreCustody env deployment previousPem) := by
  unfold TokenTimer.Agent.restoreCustody
  cases deployment.keyBackup with
  | none => exact Keeps.pure
  | some keyBackup =>
    cases deployment.keyDestination with
    | none => exact Keeps.pure
    | some liveKeyPath =>
      cases deployment.custodyKeyPath with
      | none => exact Keeps.pure
      | some custodyKeyPath => exact Keeps.bind (h.restoreCustodyKey trivial) fun _ => Keeps.pure

theorem reloadAfterRestore :
    Keeps I (reloadAfterRestore env job service) := by
  unfold TokenTimer.Agent.reloadAfterRestore
  cases service with
  | none => exact Keeps.pure
  | some service =>
    cases job.reloadCommandRefs with
    | none => exact Keeps.pure
    | some refs =>
      exact Keeps.ite (Keeps.bind (Keeps.attempt h.reloadService) fun _ => Keeps.pure) Keeps.pure

theorem rollbackAfterFailedTail {result : Option DeployResult} :
    Keeps I (rollbackAfterFailedTail env mode job target result) := by
  rcases result with _ | deployment | _ | _
  · exact Keeps.pure
  · unfold TokenTimer.Agent.rollbackAfterFailedTail
    dsimp only
    cases deployment.certBackup with
    | none => exact Keeps.bind Keeps.tick fun _ => Keeps.pure
    | some certBackup =>
      refine Keeps.bind (Keeps.attempt keeps_readFile) fun previous => ?_
      cases previous with
      | error _ => exact Keeps.pure
      | ok previous =>
        exact Keeps.bind h.restoreDeployment fun _ => Keeps.ite
          (Keeps.bind h.restoreCustody fun _ => Keeps.bind h.reloadAfterRestore fun _ =>
            Keeps.bind Keeps.tick fun _ => Keeps.pure)
          (Keeps.bind Keeps.tick fun _ => Keeps.pure)
  · exact Keeps.pure
  · exact Keeps.pure

variable {delivery : Delivery} {retainBackups retain : Bool} {status : Status}
  {deployResult : DeployResult}

theorem failAfterDeploy :
    Keeps I (failAfterDeploy env mode job target retainBackups status deployResult) :=
  Keeps.ite Keeps.pure (Keeps.bind (Stable.restoring h.rollbackAfterFailedTail) fun _ => Keeps.pure)

theorem discardDeployBackups : Keeps I (discardDeployBackups deployResult) := by
  cases deployResult with
  | deployed deployment => exact Keeps.forEach fun _ _ => h.unlinkIfPresent trivial
  | skipped | failed => exact Keeps.pure

theorem verifyEndpoint {host : Option JsString} : Keeps I (verifyEndpoint env target host) := by
  unfold TokenTimer.Agent.verifyEndpoint
  cases host with
  | none => exact Keeps.pure
  | some host =>
    exact Keeps.ite (Keeps.bind Keeps.tick fun _ => Keeps.pure) (Keeps.bind h.answer fun _ =>
      Keeps.ite Keeps.pure (Keeps.bind Keeps.tick fun _ => Keeps.pure))

theorem verifyDeployed :
    Keeps I (verifyDeployed env mode job target retainBackups deployResult) := by
  unfold TokenTimer.Agent.verifyDeployed
  refine Keeps.bind keeps_readFile fun _ => Keeps.ite keeps_raise
    (Keeps.bind h.verifyEndpoint fun refused => ?_)
  cases refused with
  | some status => exact h.failAfterDeploy
  | none =>
    exact Keeps.bind Keeps.tick fun _ => Keeps.ite Keeps.pure
      (Keeps.bind (Keeps.attempt h.discardDeployBackups) fun _ => Keeps.pure)

omit h in
theorem validateDelivery {reference : JsString} : Keeps I (validateDelivery env delivery reference) := by
  unfold TokenTimer.Agent.validateDelivery
  have hread : ∀ path, Keeps I (readKeyForValidation env path) := by
    intro path
    cases path with
    | none => exact Keeps.pure
    | some path => exact Keeps.bind keeps_readFile fun _ => Keeps.pure
  refine Keeps.bind (Keeps.attempt (hread _)) fun privateKeyPem => ?_
  cases privateKeyPem with
  | error _ => exact Keeps.pure
  | ok _ => exact Keeps.ite Keeps.pure (Keeps.bind Keeps.tick fun _ => Keeps.pure)

theorem deployTo {pems : JsString × Option JsString} :
    Keeps I (deployTo env mode target delivery pems retain) := by
  unfold TokenTimer.Agent.deployTo
  cases usePairedDeploy delivery.keyPath delivery.stagedKeyPath delivery.keyRotated with
  | none => exact h.deployCertificate deployable
  | some paths => exact h.deployCertificateAndKey (fun _ => keySource) deployable

variable (hmark : ∀ stage, Keeps I (markMutation stage))

include hmark

theorem runDeployReloadVerify :
    Keeps I (runDeployReloadVerify env mode job target delivery leaseOpts retainBackups retain) := by
  unfold TokenTimer.Agent.runDeployReloadVerify
  refine Keeps.bind validateDelivery fun _ => Keeps.ite Keeps.pure (Keeps.bind h.leaseGate fun _ =>
    Keeps.ite Keeps.pure (Keeps.bind (hmark _) fun _ => ?_))
  cases deployPems env target delivery.certificatePem with
  | none => exact Keeps.pure
  | some pems =>
    refine Keeps.bind h.deployTo fun deployResult => Keeps.bind Keeps.tick fun _ => Keeps.ite
      Keeps.pure (Keeps.bind h.maybeReloadForJob fun reload => ?_)
    rcases reload with _ | _ | _ | _ | _ | _ | _
    · exact h.verifyDeployed
    · exact h.verifyDeployed
    all_goals exact h.failAfterDeploy

omit hmark in
theorem rollbackAll : Keeps I (rollbackAll env mode job applied) := by
  induction applied with
  | nil => exact Keeps.pure
  | cons entry applied ih =>
    refine Keeps.bind (Keeps.ite ?_ ?_) fun _ => Keeps.bind ih fun _ => Keeps.pure
    · exact Keeps.bind (h.removeDeployedArtifacts fun _ _ => trivial) fun _ =>
        Keeps.bind (Keeps.attempt h.maybeReloadForJob) fun _ => Keeps.pure
    · exact Keeps.bind h.rollbackAfterFailedTail fun _ => Keeps.pure

omit hmark in
theorem rollbackAppliedTargets :
    Keeps I (rollbackAppliedTargets env mode job applied status) :=
  Keeps.bind h.rollbackAll fun _ => Keeps.ite Keeps.pure (Keeps.ite Keeps.pure Keeps.pure)

variable {targets : List DeployTarget} {keyPath stagedKeyPath : Path}

theorem applyTargets {index : Nat} {outcomes : List TargetOutcome} :
    Keeps I (applyTargets env mode job delivery leaseOpts index targets applied outcomes) := by
  induction targets generalizing index applied outcomes with
  | nil =>
    exact Keeps.bind (Keeps.forEach fun _ _ =>
      Keeps.bind (Keeps.attempt h.discardDeployBackups) fun _ => Keeps.pure) fun _ => Keeps.pure
  | cons target targets ih =>
    exact Keeps.bind (h.runDeployReloadVerify hmark) fun _ => Keeps.bind Keeps.tick fun _ =>
      Keeps.ite ih (Keeps.bind (Stable.restoring h.rollbackAppliedTargets) fun _ => Keeps.pure)

theorem runDeployReloadVerifyForTargets :
    Keeps I (runDeployReloadVerifyForTargets env mode job targets delivery leaseOpts) := by
  unfold TokenTimer.Agent.runDeployReloadVerifyForTargets
  rcases targets with _ | ⟨target, _ | ⟨target', targets⟩⟩
  · exact keeps_raise
  · exact Keeps.bind (h.runDeployReloadVerify hmark) fun _ => Keeps.pure
  · exact Keeps.bind h.leaseGate fun _ => Keeps.ite Keeps.pure (Keeps.ite Keeps.pure
      (Keeps.bind validateDelivery fun _ => Keeps.ite Keeps.pure (Keeps.ite Keeps.pure
        (h.applyTargets hmark))))

omit hmark in
theorem discardStagedKey :
    Keeps I (discardStagedKey keyPath stagedKeyPath) :=
  Keeps.ite Keeps.pure (Keeps.bind (Keeps.attempt (h.unlinkFile trivial)) fun _ => Keeps.pure)

omit hmark in
theorem generateKeyPairToFile {overwrite : Bool} :
    Keeps I (generateKeyPairToFile keyPath overwrite) := by
  unfold TokenTimer.Agent.generateKeyPairToFile
  exact Keeps.bind keeps_existsFile fun _ => Keeps.ite keeps_raise (Keeps.bind h.answer fun _ =>
    Keeps.bind (h.writeNewFile trivial) fun _ => Keeps.bind Keeps.tick fun _ => Keeps.pure)

omit h hmark in
theorem readDeployedCertificatePem :
    Keeps I (readDeployedCertificatePem env targets) := by
  induction targets with
  | nil => exact Keeps.pure
  | cons target targets ih =>
    refine Keeps.bind (Keeps.attempt keeps_readFile) fun result => ?_
    rcases result with (_ | _) | _
    · exact ih
    · exact Keeps.pure
    · exact Keeps.ite Keeps.pure ih

variable {renewal : Job}

omit hmark in
theorem chooseKey : Keeps I (chooseKey env renewal targets) := by
  unfold TokenTimer.Agent.chooseKey
  refine Keeps.bind readDeployedCertificatePem fun deployed => ?_
  cases deployed with
  | error _ => exact Keeps.pure
  | ok deployed =>
    refine Keeps.bind keeps_resolveAgentCustodyKey fun choice => ?_
    cases choice.quarantined with
    | true => cases choice.path <;> exact Keeps.pure
    | false =>
      exact Keeps.bind keeps_existsFile fun _ => Keeps.ite
        (Keeps.bind h.generateKeyPairToFile fun _ => Keeps.pure) Keeps.pure

theorem issueCertificate :
    Keeps I (issueCertificate leaseOpts keyPath stagedKeyPath) := by
  unfold TokenTimer.Agent.issueCertificate
  refine Keeps.bind h.leaseGate fun _ => Keeps.ite
    (Keeps.bind h.discardStagedKey fun _ => Keeps.pure) (Keeps.bind (hmark _) fun _ =>
      Keeps.bind (Keeps.bind h.answer fun _ => Keeps.bind h.effects fun _ => Keeps.pure)
        fun issuance => Keeps.bind Keeps.tick fun _ => ?_)
  cases issuance with
  | issued _ => exact Keeps.pure
  | refused | unissued => exact Keeps.bind h.discardStagedKey fun _ => Keeps.pure

omit hmark in
theorem discardingOnThrow {α : Type} {m : OnHost α} (hm : Keeps I m) :
    Keeps I (discardingOnThrow keyPath stagedKeyPath m) := by
  refine Keeps.bind (Keeps.attempt hm) fun result => ?_
  cases result with
  | ok _ => exact Keeps.pure
  | error _ => exact Keeps.bind h.discardStagedKey fun _ => keeps_raise

theorem renewWithKey {key : KeyChoice} :
    Keeps I (renewWithKey env mode renewal targets leaseOpts key) := by
  unfold TokenTimer.Agent.renewWithKey
  refine Keeps.bind keeps_readFile fun _ => Keeps.bind Keeps.tick fun _ => Keeps.bind
    (h.discardingOnThrow (h.issueCertificate hmark)) fun issued => ?_
  cases issued with
  | error _ => exact Keeps.pure
  | ok certificatePem =>
    exact Keeps.bind (h.discardingOnThrow (h.runDeployReloadVerifyForTargets hmark)) fun _ =>
      Keeps.ite (Keeps.bind h.discardStagedKey fun _ => Keeps.pure) Keeps.pure

end Undisturbed

/-! ## §5. Marking before mutating. -/

/-- `P` is what holds before an attempt is marked and when it is over, `Q` what
    holds while it is marked: only the marker call leads from one to the other,
    and only `Q` need survive a mutation. -/
structure Marking (P Q : Host → Prop) : Prop where
  stable : Undisturbed Q
  again : ∀ stage, Keeps Q (markMutation stage)
  answers : ∀ host answers, P host → P { host with answers := answers }
  mark : ∀ stage, stage ≠ [] ∧ stage.length ≤ 64 →
    Triple P (markMutation stage) (fun _ => Q) (fun _ => P)
  weaken : ∀ host, Q host → P host

namespace Marking

variable {P Q : Host → Prop} {env : Environment} {mode : Restoring} {job : TailJob}
  {target : DeployTarget} {delivery : Delivery} {leaseOpts retainBackups retain : Bool}

variable (h : Marking P Q)

include h

theorem relax {α : Type} {m : OnHost α} (hm : Keeps Q m) :
    Triple Q m (fun _ => P) (fun _ => P) :=
  hm.conseq (fun _ hq => hq) (fun _ => h.weaken) fun _ => h.weaken

theorem leaseGate : Keeps P (leaseGate leaseOpts) := by
  refine Keeps.ite (Keeps.bind (Keeps.attempt (keeps_answer h.answers)) fun held => ?_) Keeps.pure
  cases held <;> exact Keeps.pure

/-- The deploy tail of one target: it was marked, or it failed before it touched
    anything. -/
theorem runDeployReloadVerify :
    Triple P (runDeployReloadVerify env mode job target delivery leaseOpts retainBackups retain)
      (fun outcome host =>
        (outcome.deployResult = none ∧ outcome.status ≠ .succeeded ∧ P host) ∨ Q host)
      (fun _ => P) := by
  unfold TokenTimer.Agent.runDeployReloadVerify
  have hearly : ∀ status, status ≠ Status.succeeded →
      Triple P (pure ⟨status, none⟩ : OnHost StepOutcome)
        (fun outcome host =>
          (outcome.deployResult = none ∧ outcome.status ≠ .succeeded ∧ P host) ∨ Q host)
        (fun _ => P) := fun status hne => Triple.pure fun host hp => .inl ⟨rfl, hne, hp⟩
  refine Triple.bind Undisturbed.validateDelivery fun _ => Triple.ite
    (fun _ => hearly _ (by decide)) fun _ => ?_
  refine Triple.bind h.leaseGate fun _ => Triple.ite (fun _ => hearly _ (by decide)) fun _ => ?_
  refine Triple.bind (h.mark (js "deploy") (by decide)) fun _ => ?_
  have hrest : ∀ {m : OnHost StepOutcome}, Keeps Q m → Triple Q m
      (fun outcome host =>
        (outcome.deployResult = none ∧ outcome.status ≠ .succeeded ∧ P host) ∨ Q host)
      (fun _ => P) := fun hm => hm.conseq (fun _ hq => hq) (fun _ _ => .inr) fun _ => h.weaken
  cases deployPems env target delivery.certificatePem with
  | none => exact hrest Keeps.pure
  | some pems =>
    refine hrest (Keeps.bind h.stable.deployTo fun deployResult => Keeps.bind Keeps.tick fun _ =>
      Keeps.ite Keeps.pure (Keeps.bind h.stable.maybeReloadForJob fun reload => ?_))
    rcases reload with _ | _ | _ | _ | _ | _ | _
    · exact h.stable.verifyDeployed
    · exact h.stable.verifyDeployed
    all_goals exact h.stable.failAfterDeploy

omit h in
theorem rollbackNothing {status : Status} :
    Keeps P (restoring mode (rollbackAppliedTargets env mode job [] status)) :=
  Stable.restoring (Keeps.bind Keeps.pure fun _ => Keeps.ite Keeps.pure (Keeps.ite Keeps.pure Keeps.pure))

variable {targets : List DeployTarget}

/-- The loop over several targets before the first of them is marked. -/
theorem applyTargets {outcomes : List TargetOutcome} {index : Nat} :
    Keeps P (applyTargets env mode job delivery leaseOpts index targets [] outcomes) := by
  cases targets with
  | nil => exact Keeps.bind Keeps.pure fun _ => Keeps.pure
  | cons target targets =>
    refine Triple.bind h.runDeployReloadVerify fun result => ?_
    refine Triple.pin fun host hor => ?_
    rcases hor with ⟨hnone, hne, hp⟩ | hq
    · rw [hnone]
      refine Triple.conseq (Keeps.bind (I := P) Keeps.tick fun _ => ?_) (fun s hs => hs ▸ hp)
        (fun _ _ hs => hs) fun _ _ hs => hs
      rw [if_neg hne]
      exact Keeps.bind rollbackNothing fun _ => Keeps.pure
    · exact (h.relax (Keeps.bind Keeps.tick fun _ => Keeps.ite (h.stable.applyTargets h.again)
        (Keeps.bind (Stable.restoring h.stable.rollbackAppliedTargets) fun _ => Keeps.pure))).conseq
          (fun s hs => hs ▸ hq) (fun _ _ hs => hs) fun _ _ hs => hs

theorem runDeployReloadVerifyForTargets :
    Keeps P (runDeployReloadVerifyForTargets env mode job targets delivery leaseOpts) := by
  unfold TokenTimer.Agent.runDeployReloadVerifyForTargets
  rcases targets with _ | ⟨target, _ | ⟨target', targets⟩⟩
  · exact keeps_raise
  · refine Triple.bind h.runDeployReloadVerify fun _ => Triple.pure fun host hor => ?_
    rcases hor with ⟨-, -, hp⟩ | hq
    · exact hp
    · exact h.weaken host hq
  · exact Keeps.bind h.leaseGate fun _ => Keeps.ite Keeps.pure (Keeps.ite Keeps.pure
      (Keeps.bind Undisturbed.validateDelivery fun _ => Keeps.ite Keeps.pure (Keeps.ite Keeps.pure
        h.applyTargets)))

variable {attempted : Job}

theorem executeRenewJob : Keeps P (executeRenewJob env mode attempted leaseOpts) := by
  unfold TokenTimer.Agent.executeRenewJob
  cases renewRefusal env attempted with
  | some _ => exact Keeps.pure
  | none =>
    refine Keeps.bind h.leaseGate fun _ => Keeps.ite Keeps.pure
      (Triple.bind (h.mark (js "keygen") (by decide)) fun _ => h.relax ?_)
    refine Keeps.bind h.stable.effects fun _ => Keeps.bind h.stable.chooseKey fun key => ?_
    cases key with
    | none => exact Keeps.pure
    | some key => exact h.stable.renewWithKey h.again

theorem executeDeployJob {certificatePem : JsString} :
    Keeps P (executeDeployJob env mode attempted certificatePem leaseOpts) := by
  unfold TokenTimer.Agent.executeDeployJob
  cases attempted.targets with
  | none => exact Keeps.pure
  | some targets =>
    have hkey : Keeps P (deployKey env attempted certificatePem) := by
      refine Keeps.ite (Keeps.bind keeps_resolveAgentCustodyKey fun choice => ?_) Keeps.pure
      cases choice.quarantined with
      | true => cases choice.path <;> exact Keeps.pure
      | false => exact Keeps.pure
    refine Keeps.ite Keeps.pure (Keeps.bind hkey fun keyPath => ?_)
    cases keyPath with
    | none => exact Keeps.pure
    | some keyPath =>
      exact Keeps.ite Keeps.pure (Keeps.bind h.runDeployReloadVerifyForTargets fun _ => Keeps.pure)

theorem executeReloadJob : Keeps P (executeReloadJob env attempted leaseOpts) := by
  refine Triple.bind (h.mark (js "reload") (by decide)) fun _ => h.relax ?_
  refine Keeps.bind h.stable.maybeReloadForJob fun status => ?_
  cases status <;> exact Keeps.pure

theorem executeTrustJob : Keeps P (executeTrustJob env attempted leaseOpts) := by
  unfold TokenTimer.Agent.executeTrustJob
  refine Keeps.ite Keeps.pure (Keeps.ite Keeps.pure (Keeps.ite Keeps.pure (Keeps.ite Keeps.pure
    (Keeps.bind h.leaseGate fun _ => Keeps.ite Keeps.pure
      (Triple.bind (h.mark _ ?_) fun _ => h.relax ?_)))))
  · by_cases haction : attempted.action = .distributeTrust
    · rw [if_pos haction]
      decide
    · rw [if_neg haction]
      decide
  · exact Keeps.bind (Keeps.bind h.stable.answer fun _ => Keeps.bind h.stable.effects fun _ =>
      Keeps.pure) fun _ => Keeps.bind Keeps.tick fun _ => Keeps.pure

/-- **EVERY EXECUTOR MARKS BEFORE IT MUTATES.** -/
theorem executeJob : Keeps P (executeJob env attempted) := by
  have hplan : Keeps P (executeDryRunPlan attempted) := by
    unfold executeDryRunPlan
    cases attempted.planRefusal with
    | none => exact Keeps.bind Keeps.tick fun _ => Keeps.pure
    | some _ => exact Keeps.pure
  unfold TokenTimer.Agent.executeJob
  cases attempted.action with
  | noop => exact Keeps.bind Keeps.tick fun _ => Keeps.pure
  | revoke | unsupported => exact Keeps.pure
  | distributeTrust | revokeTrust => exact Keeps.ite Keeps.pure h.executeTrustJob
  | renew => exact Keeps.ite hplan (Keeps.ite Keeps.pure h.executeRenewJob)
  | deploy =>
    cases attempted.certificatePem with
    | none => exact Keeps.pure
    | some _ => exact Keeps.ite hplan (Keeps.ite Keeps.pure h.executeDeployJob)
  | reload => exact Keeps.ite hplan (Keeps.ite Keeps.pure h.executeReloadJob)

end Marking

end TokenTimer.Agent
