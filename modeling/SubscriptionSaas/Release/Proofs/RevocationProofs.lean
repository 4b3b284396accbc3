import Mathlib.Data.List.Sort
import SubscriptionSaas.Lib.DigestChain
import SubscriptionSaas.Release.ApprovalRevocations

/-!
# The latest approval revocations

The loop of `fetchLatestTrustedRevocations` checks every artifact of the chain as it checks the newest
one, its age included. So the newest revocations are obtained as long as all artifacts of the chain
are fresh, and no longer; while what is obtained is always the end of an unbroken chain.
-/

namespace SubscriptionSaas.Release

open Results

variable {Envelope : Type} {P : Platform} {policy : ApprovalPolicy} {client : GithubClient Envelope}
  {artifact : RevocationArtifact} {set : VerifiedRevocationSet} {runs : List WorkflowRun}

/-! ## One artifact -/

/-- The artifact's publication is recent enough, and its time has not run out. -/
def freshAt (source : RevocationSource) (artifact : RevocationArtifact) (now : Int) : Bool :=
  match Calendar.ofISOString artifact.issuedAt, Calendar.ofISOString artifact.notAfter with
  | some issuedAt, some notAfter => inTime source now issuedAt notAfter
  | _, _ => false

/-- What the checks of one artifact establish, its age apart. -/
structure Accepted (P : Platform) (policy : ApprovalPolicy) (artifact : RevocationArtifact)
    (attestation : VerifiedAttestation) (receipt : Option CustodyReceipt) (head : Int)
    (previous : String) (observed : Option Observed) : Prop where
  policyValid : P.validPolicy policy
  valid : P.validArtifact artifact
  ofPolicy : artifact.policyDigest = P.sha256Policy policy
  trusted : issuerTrusted policy.revocationSource artifact attestation
  attested : attestationMatches artifact (P.sha256Artifact artifact) attestation
  kept : inCustody P policy receipt (P.sha256Artifact artifact)
  linked : artifact.previousArtifactDigest = previous
  isHead : artifact.sequence = head
  fromMinimum : policy.revocationSource.minimumWorkflowRunNumber ≤ artifact.sequence
  notBehind : behind artifact.sequence (P.sha256Artifact artifact) observed = false
  ordered : sortedUniqueRevocations P artifact.revocations

theorem epoch_bind_ok {text : String} {error : RevocationError} {α : Type}
    {f : Int → Except RevocationError α} {a : α} :
    (epoch text error >>= f) = .ok a ↔ ∃ t, Calendar.ofISOString text = some t ∧ f t = .ok a := by
  unfold epoch
  cases Calendar.ofISOString text with
  | none =>
    constructor
    · intro h
      cases h
    · rintro ⟨t, ht, -⟩
      cases ht
  | some t =>
    constructor
    · intro h
      exact ⟨t, rfl, h⟩
    · rintro ⟨t', ht, h⟩
      obtain rfl := Option.some.inj ht
      exact h

/-- The checks of one artifact. -/
theorem verifyRevocationArtifact_ok {attestation : VerifiedAttestation}
    {receipt : Option CustodyReceipt} {head : Int} {previous : String} {observed : Option Observed}
    {now : Option Int} :
    verifyRevocationArtifact P (some artifact) policy attestation receipt head previous observed now =
        .ok set ↔
      Accepted P policy artifact attestation receipt head previous observed ∧
        (∃ t, now = some t ∧ freshAt policy.revocationSource artifact t) ∧
        set = verifiedSet artifact (P.sha256Artifact artifact) := by
  unfold verifyRevocationArtifact
  simp only [require_bind, epoch_bind_ok, beq_iff_eq, Bool.and_eq_true, decide_eq_true_eq,
    Bool.not_eq_true']
  constructor
  · rintro ⟨hpolicy, hvalid, hof, htrusted, hattested, hkept, hlinked, ⟨hlower, hmin⟩, hupper,
      hbehind, hordered, issuedAt, hissued, notAfter, hafter, htime, hset⟩
    refine ⟨⟨hpolicy, hvalid, hof, htrusted, hattested, hkept, hlinked, by omega, hmin, hbehind,
      hordered⟩, ?_, (Except.ok.inj hset).symm⟩
    cases now with
    | none => cases htime
    | some t =>
      refine ⟨t, rfl, ?_⟩
      unfold freshAt
      rw [hissued, hafter]
      exact htime
  · rintro ⟨h, ⟨t, rfl, hfresh⟩, rfl⟩
    have hhead := h.isHead
    refine ⟨h.policyValid, h.valid, h.ofPolicy, h.trusted, h.attested, h.kept, h.linked,
      ⟨by omega, h.fromMinimum⟩, by omega, h.notBehind, h.ordered, ?_⟩
    unfold freshAt at hfresh
    split at hfresh
    · rename_i issuedAt notAfter hissued hafter
      exact ⟨issuedAt, hissued, notAfter, hafter, hfresh, rfl⟩
    · cases hfresh

/-- What the loop knows of a run after it has passed. -/
theorem verifyRun_ok {now : Option Int} {previous : String} {run : WorkflowRun}
    (h : verifyRun P client policy now previous run = .ok set) :
    ∃ artifact t, (client.downloadRun policy.revocationSource run).bind (·.artifact) = some artifact ∧
      artifact.sequence = run.number ∧ artifact.previousArtifactDigest = previous ∧ now = some t ∧
      freshAt policy.revocationSource artifact t ∧
      set = verifiedSet artifact (P.sha256Artifact artifact) := by
  unfold verifyRun at h
  split at h
  · cases h
  · rename_i downloaded hdownload
    split at h
    · cases h
    · rename_i artifact hartifact
      rw [require_bind] at h
      obtain ⟨hrun, h⟩ := h
      simp only [Bool.and_eq_true, beq_iff_eq] at hrun
      split at h
      · cases h
      · obtain ⟨haccepted, ⟨t, hnow, hfresh⟩, hset⟩ := verifyRevocationArtifact_ok.mp h
        refine ⟨artifact, t, ?_, hrun.1, haccepted.linked, hnow, hfresh, hset⟩
        rw [hdownload]
        exact hartifact

/-! ## Chains of publications -/

structure Publication (Envelope : Type) where
  artifact : RevocationArtifact
  attestation : Envelope
  custodyReceipt : CustodyReceipt

def Publication.run (p : Publication Envelope) : WorkflowRun :=
  ⟨some p.artifact.sequence, p.artifact.workflowRunId, 1⟩

def Publication.verified (P : Platform) (p : Publication Envelope) : VerifiedRevocationSet :=
  verifiedSet p.artifact (P.sha256Artifact p.artifact)

/-- An artifact that its workflow has published under the policy. -/
structure Published (P : Platform) (policy : ApprovalPolicy)
    (verifier : Option (AttestationVerifier Envelope)) (p : Publication Envelope) : Prop where
  valid : P.validArtifact p.artifact
  ofPolicy : p.artifact.policyDigest = P.sha256Policy policy
  attested : ∃ attestation,
    verifyTrustedArtifactAttestation p.attestation verifier (P.sha256Artifact p.artifact) =
      .ok attestation ∧
    issuerTrusted policy.revocationSource p.artifact attestation ∧
    attestationMatches p.artifact (P.sha256Artifact p.artifact) attestation
  kept : inCustody P policy (some p.custodyReceipt) (P.sha256Artifact p.artifact)
  ordered : sortedUniqueRevocations P p.artifact.revocations
  fresh : ∃ t, freshAt policy.revocationSource p.artifact t

/-- Each publication names the digest of the one before it, the first that of the checkpoint. -/
abbrev LinkedFrom (P : Platform) : String → List RevocationArtifact → Prop :=
  DigestChain.Linked P.sha256Artifact (·.previousArtifactDigest)

/-- Publications from the policy's minimum run on. -/
structure PublishedChain (P : Platform) (policy : ApprovalPolicy)
    (verifier : Option (AttestationVerifier Envelope)) (pubs : List (Publication Envelope)) : Prop where
  published : ∀ p ∈ pubs, Published P policy verifier p
  numbered : ∀ i (h : i < pubs.length),
    pubs[i].artifact.sequence = policy.revocationSource.minimumWorkflowRunNumber + i
  linked : LinkedFrom P policy.revocationSource.checkpointArtifactDigest (pubs.map (·.artifact))

/-- The pages of a listing from a cursor on: the cursors that follow, and all runs. -/
inductive Paged (list : Option String → Option Page) :
    Option String → List String → List WorkflowRun → Prop
  | last {cursor : Option String} {runs : List WorkflowRun}
      (hpage : list cursor = some ⟨some runs, .absent⟩) : Paged list cursor [] runs
  | more {cursor : Option String} {runs rest : List WorkflowRun} {next : String}
      {cursors : List String} (hpage : list cursor = some ⟨some runs, .text next⟩)
      (hrest : Paged list (some next) cursors rest) : Paged list cursor (next :: cursors) (runs ++ rest)

/-- The client's listing of the policy's workflow. -/
def GithubClient.listing (client : GithubClient Envelope) (source : RevocationSource) :
    Option String → Option Page :=
  client.listSuccessfulWorkflowRuns source.repository source.workflowPath source.workflowRef

/-- The client lists the publications' runs in whatever pages and order, perhaps with runs from before
the policy's minimum, and has their artifacts. -/
structure Serves (client : GithubClient Envelope) (source : RevocationSource)
    (pubs : List (Publication Envelope)) (cursors : List String) (runs : List WorkflowRun) : Prop where
  paged : Paged (client.listing source) none cursors runs
  distinct : cursors.Nodup
  listed : (runs.filter (fromMinimum source)).Perm (pubs.map (·.run))
  downloads : ∀ p ∈ pubs, client.downloadRun source p.run =
    some { artifact := some p.artifact, attestation := p.attestation,
           custodyReceipt := some p.custodyReceipt }

/-- A published artifact passes the loop as long as it is fresh. -/
theorem Published.verifyRun {p : Publication Envelope} {now : Int} {previous : String}
    (h : Published P policy client.attestationVerifier p) (hpolicy : P.validPolicy policy)
    (hmin : policy.revocationSource.minimumWorkflowRunNumber ≤ p.artifact.sequence)
    (hprevious : p.artifact.previousArtifactDigest = previous)
    (hdownload : client.downloadRun policy.revocationSource p.run =
      some { artifact := some p.artifact, attestation := p.attestation,
             custodyReceipt := some p.custodyReceipt }) :
    verifyRun P client policy (some now) previous p.run = .ok set ↔
      freshAt policy.revocationSource p.artifact now ∧ set = p.verified P := by
  obtain ⟨attestation, hverified, htrusted, hmatches⟩ := h.attested
  unfold Release.verifyRun
  simp only [hdownload, require_bind, hverified]
  have haccepted : Accepted P policy p.artifact attestation (some p.custodyReceipt) p.run.number
      previous none :=
    ⟨hpolicy, h.valid, h.ofPolicy, htrusted, hmatches, h.kept, hprevious, rfl, hmin, rfl, h.ordered⟩
  rw [verifyRevocationArtifact_ok]
  constructor
  · rintro ⟨-, -, ⟨t, hnow, hfresh⟩, hset⟩
    obtain rfl := Option.some.inj hnow
    exact ⟨hfresh, hset⟩
  · rintro ⟨hfresh, hset⟩
    exact ⟨by simp [WorkflowRun.number, Publication.run], haccepted, ⟨now, rfl, hfresh⟩, hset⟩

/-- The loop over published artifacts succeeds as long as all of them are fresh. -/
theorem loop_published (now : Int) (first set : VerifiedRevocationSet)
    (hpolicy : P.validPolicy policy) {pubs : List (Publication Envelope)}
    (hpubs : ∀ p ∈ pubs, Published P policy client.attestationVerifier p ∧
      policy.revocationSource.minimumWorkflowRunNumber ≤ p.artifact.sequence ∧
      client.downloadRun policy.revocationSource p.run =
        some { artifact := some p.artifact, attestation := p.attestation,
               custodyReceipt := some p.custodyReceipt })
    (hlinked : LinkedFrom P first.artifactDigest (pubs.map (·.artifact))) :
    (pubs.map (·.run)).foldlM (fun latest run =>
        verifyRun P client policy (some now) latest.artifactDigest run) first = .ok set ↔
      (∀ p ∈ pubs, freshAt policy.revocationSource p.artifact now) ∧
        set = (pubs.getLast?.map (·.verified P)).getD first := by
  induction pubs generalizing first with
  | nil =>
    constructor
    · intro h
      exact ⟨fun p hp => absurd hp List.not_mem_nil, (Except.ok.inj h).symm⟩
    · rintro ⟨-, rfl⟩
      rfl
  | cons p pubs ih =>
    obtain ⟨hp, hmin, hdownload⟩ := hpubs p List.mem_cons_self
    have hrest : ∀ {set : VerifiedRevocationSet}, set = p.verified P →
        LinkedFrom P set.artifactDigest (pubs.map (·.artifact)) := by
      rintro _ rfl
      exact hlinked.2
    rw [List.map_cons, List.foldlM_cons, List.forall_mem_cons]
    constructor
    · intro h
      obtain ⟨next, hnext, h⟩ := bind_ok h
      obtain ⟨hfresh, rfl⟩ := (hp.verifyRun hpolicy hmin hlinked.1 hdownload).mp hnext
      obtain ⟨hall, hset⟩ :=
        (ih _ (fun q hq => hpubs q (List.mem_cons_of_mem p hq)) (hrest rfl)).mp h
      refine ⟨⟨hfresh, hall⟩, ?_⟩
      rw [hset]
      cases pubs with
      | nil => rfl
      | cons q pubs => rw [List.getLast?_cons_cons, List.getLast?_cons]; rfl
    · rintro ⟨⟨hfresh, hall⟩, hset⟩
      rw [(hp.verifyRun hpolicy hmin hlinked.1 hdownload).mpr ⟨hfresh, rfl⟩]
      refine (ih _ (fun q hq => hpubs q (List.mem_cons_of_mem p hq)) (hrest rfl)).mpr ⟨hall, ?_⟩
      rw [hset]
      cases pubs with
      | nil => rfl
      | cons q pubs => rw [List.getLast?_cons_cons, List.getLast?_cons]; rfl

/-! ## The listing -/

theorem Paged.readRuns {list : Option String → Option Page} {cursor : Option String}
    {cursors seen : List String} {fuel : Nat} {before : List WorkflowRun}
    (h : Paged list cursor cursors runs) (hdistinct : (seen ++ cursors).Nodup)
    (hfuel : cursors.length < fuel) :
    readRuns list fuel cursor seen before = .ok (before ++ runs) := by
  induction h generalizing seen fuel before with
  | last hpage =>
    obtain ⟨fuel, rfl⟩ : ∃ n, fuel = n + 1 := ⟨fuel - 1, by simp at hfuel; omega⟩
    simp [Release.readRuns, hpage]
  | @more cursor runs rest next cursors hpage hrest ih =>
    obtain ⟨fuel, rfl⟩ : ∃ n, fuel = n + 1 := ⟨fuel - 1, by simp at hfuel; omega⟩
    have hnew : next ∉ seen := by
      intro hmem
      exact (List.nodup_append.mp hdistinct).2.2 next hmem next List.mem_cons_self rfl
    have hlater : ((seen ++ [next]) ++ cursors).Nodup := by
      rw [List.append_assoc]
      exact hdistinct
    have hrun : Release.readRuns list fuel (some next) (seen ++ [next]) (before ++ runs) =
        .ok (before ++ runs ++ rest) := ih hlater (by simp at hfuel; omega)
    simp [Release.readRuns, hpage, hnew, hrun]

/-- A listing that has been read is the whole listing. -/
theorem Paged.readRuns_eq {list : Option String → Option Page} {cursor : Option String}
    {cursors seen : List String} {fuel : Nat} {before read : List WorkflowRun}
    (h : Paged list cursor cursors runs)
    (hread : Release.readRuns list fuel cursor seen before = .ok read) : read = before ++ runs := by
  induction h generalizing seen fuel before with
  | last hpage =>
    cases fuel with
    | zero => cases hread
    | succ fuel =>
      simp only [Release.readRuns, hpage] at hread
      exact (Except.ok.inj hread).symm
  | @more cursor runs rest next cursors hpage hrest ih =>
    cases fuel with
    | zero => cases hread
    | succ fuel =>
      simp only [Release.readRuns, hpage] at hread
      obtain ⟨-, hread⟩ := guard_ok hread
      rw [ih hread, List.append_assoc]

/-! ## The order of the runs -/

theorem mem_orderRuns {source : RevocationSource} {run : WorkflowRun} :
    run ∈ orderRuns source runs ↔ run ∈ runs ∧ fromMinimum source run ∧ run.runAttempt = 1 := by
  unfold orderRuns
  rw [(List.mergeSort_perm _ _).mem_iff, List.mem_filter]
  simp

theorem fromMinimum_iff {source : RevocationSource} {run : WorkflowRun} :
    fromMinimum source run ↔
      run.runNumber = some run.number ∧ source.minimumWorkflowRunNumber ≤ run.number := by
  unfold fromMinimum WorkflowRun.number
  cases run.runNumber with
  | none => simp
  | some n => simp

theorem orderRuns_sorted {source : RevocationSource} :
    (orderRuns source runs).Pairwise fun left right => left.number ≤ right.number := by
  have h := @List.pairwise_mergeSort WorkflowRun (fun left right =>
    decide (left.number ≤ right.number)) (fun a b c hab hbc => ?_) (fun a b => ?_)
    (runs.filter fun run => fromMinimum source run && run.runAttempt == 1)
  · exact h.imp fun hle => by simpa using hle
  · simp only [decide_eq_true_eq] at *
    omega
  · simp only [Bool.or_eq_true, decide_eq_true_eq]
    omega

/-- Runs of distinct numbers have one order. -/
theorem orderRuns_eq {source : RevocationSource} {sorted : List WorkflowRun}
    (hperm : (runs.filter (fromMinimum source)).Perm sorted)
    (hattempt : ∀ run ∈ sorted, run.runAttempt = 1)
    (hsorted : sorted.Pairwise fun left right => left.number < right.number) :
    orderRuns source runs = sorted := by
  have hfilter : (runs.filter fun run => fromMinimum source run && run.runAttempt == 1) =
      runs.filter (fromMinimum source) := by
    refine List.filter_congr fun run hrun => ?_
    cases hmin : fromMinimum source run with
    | false => rfl
    | true =>
      have := hattempt run (hperm.mem_iff.mp (List.mem_filter.mpr ⟨hrun, hmin⟩))
      simp [this]
  have hsame : (orderRuns source runs).Perm sorted := by
    unfold orderRuns
    rw [hfilter]
    exact (List.mergeSort_perm _ _).trans hperm
  have hweak : sorted.Pairwise fun left right => left.number ≤ right.number :=
    hsorted.imp fun h => by omega
  refine List.Perm.eq_of_pairwise ?_ orderRuns_sorted hweak hsame
  -- two runs of the same number are the same
  intro a b ha hb hab hba
  have hdistinct : (sorted.map (·.number)).Nodup := by
    rw [List.Nodup, List.pairwise_map]
    exact hsorted.imp fun h => by omega
  exact List.inj_on_of_nodup_map hdistinct (hsame.mem_iff.mp ha) hb (by omega)

/-! ## Fetching -/

/-- The runs are followed in their order, each from the digest of the one before. -/
def followRuns (P : Platform) (client : GithubClient Envelope) (policy : ApprovalPolicy)
    (now : Option Int) (orderedRuns : List WorkflowRun) :
    Except RevocationError VerifiedRevocationSet :=
  match orderedRuns with
  | [] => .error .missing
  | first :: rest => do
    let set ← verifyRun P client policy now policy.revocationSource.checkpointArtifactDigest first
    rest.foldlM (fun latest run => verifyRun P client policy now latest.artifactDigest run) set

theorem fetch_ok {fuel : Nat} {observed : Option Observed} {now : Option Int} :
    fetchLatestTrustedRevocations P fuel policy (some client) observed now = .ok set ↔
      P.validPolicy policy ∧ ∃ runs, readRuns (client.listing policy.revocationSource) fuel none [] [] =
          .ok runs ∧
        (runs.any fun run => fromMinimum policy.revocationSource run && run.runAttempt != 1) = false ∧
        ((orderRuns policy.revocationSource runs).map (·.runNumber)).Nodup ∧
        followRuns P client policy now (orderRuns policy.revocationSource runs) = .ok set ∧
        behind set.sequence set.artifactDigest observed = false := by
  unfold fetchLatestTrustedRevocations followRuns GithubClient.listing
  simp only [require_bind]
  refine and_congr_right fun _ => ?_
  constructor
  · intro h
    obtain ⟨runs, hread, h⟩ := bind_ok h
    rw [require_bind] at h
    obtain ⟨hattempts, h⟩ := h
    refine ⟨runs, hread, by simpa using hattempts, ?_⟩
    rcases horder : orderRuns policy.revocationSource runs with _ | ⟨first, rest⟩
    · rw [horder] at h
      cases h
    · rw [horder, require_bind] at h
      obtain ⟨hnodup, h⟩ := h
      obtain ⟨set₁, hfirst, h⟩ := bind_ok h
      obtain ⟨latest, hrest, h⟩ := bind_ok h
      rw [require_bind] at h
      obtain rfl := Except.ok.inj h.2
      exact ⟨of_decide_eq_true hnodup, (bind_eq hfirst).trans hrest, by simpa using h.1⟩
  · rintro ⟨runs, hread, hattempts, hnodup, hfollow, hbehind⟩
    refine (bind_eq hread).trans ?_
    rw [require_bind]
    refine ⟨by simpa using hattempts, ?_⟩
    rcases horder : orderRuns policy.revocationSource runs with _ | ⟨first, rest⟩
    · rw [horder] at hfollow
      cases hfollow
    · rw [horder] at hfollow hnodup
      obtain ⟨set₁, hfirst, hrest⟩ := bind_ok hfollow
      rw [require_bind]
      refine ⟨decide_eq_true hnodup, (bind_eq hfirst).trans ((bind_eq hrest).trans ?_)⟩
      rw [require_bind]
      exact ⟨by simpa using hbehind, rfl⟩

theorem PublishedChain.sorted {pubs : List (Publication Envelope)}
    {verifier : Option (AttestationVerifier Envelope)} (h : PublishedChain P policy verifier pubs) :
    (pubs.map (·.run)).Pairwise fun left right => left.number < right.number := by
  rw [List.pairwise_map, List.pairwise_iff_getElem]
  intro i j hi hj hij
  show pubs[i].artifact.sequence < pubs[j].artifact.sequence
  rw [h.numbered i hi, h.numbered j hj]
  omega

theorem PublishedChain.fromMinimum {pubs : List (Publication Envelope)}
    {verifier : Option (AttestationVerifier Envelope)} (h : PublishedChain P policy verifier pubs)
    {p : Publication Envelope} (hp : p ∈ pubs) :
    policy.revocationSource.minimumWorkflowRunNumber ≤ p.artifact.sequence := by
  obtain ⟨i, hi, rfl⟩ := List.getElem_of_mem hp
  rw [h.numbered i hi]
  omega

/-- From a client that serves a published chain, the newest revocations are fetched exactly as long as
every artifact of the chain is fresh. -/
theorem fetch_published {pubs : List (Publication Envelope)} {newest : Publication Envelope}
    {cursors : List String} {now : Int} {fuel : Nat} {observed : Option Observed}
    (hpolicy : P.validPolicy policy)
    (hchain : PublishedChain P policy client.attestationVerifier pubs)
    (hserves : Serves client policy.revocationSource pubs cursors runs)
    (hnewest : pubs.getLast? = some newest)
    (hbehind : behind newest.artifact.sequence (P.sha256Artifact newest.artifact) observed = false)
    (hfuel : cursors.length < fuel) :
    fetchLatestTrustedRevocations P fuel policy (some client) observed (some now) = .ok set ↔
      (∀ p ∈ pubs, freshAt policy.revocationSource p.artifact now) ∧ set = newest.verified P := by
  have horder : orderRuns policy.revocationSource runs = pubs.map (·.run) := by
    refine orderRuns_eq hserves.listed ?_ hchain.sorted
    intro run hrun
    obtain ⟨p, -, rfl⟩ := List.mem_map.mp hrun
    rfl
  have hattempts : (runs.any fun run =>
      Release.fromMinimum policy.revocationSource run && run.runAttempt != 1) = false := by
    rw [List.any_eq_false]
    intro run hrun hbad
    simp only [Bool.and_eq_true, bne_iff_ne] at hbad
    have hlisted := hserves.listed.mem_iff.mp (List.mem_filter.mpr ⟨hrun, hbad.1⟩)
    obtain ⟨p, -, rfl⟩ := List.mem_map.mp hlisted
    exact hbad.2 rfl
  have hnodup : ((pubs.map (·.run)).map (·.runNumber)).Nodup := by
    rw [List.Nodup, List.pairwise_map]
    refine hchain.sorted.imp_of_mem ?_
    intro a b ha hb hlt heq
    simp [WorkflowRun.number, heq] at hlt
  have hread : readRuns (client.listing policy.revocationSource) fuel none [] [] = .ok runs :=
    hserves.paged.readRuns hserves.distinct hfuel
  have hpubs : ∀ p ∈ pubs, Published P policy client.attestationVerifier p ∧
      policy.revocationSource.minimumWorkflowRunNumber ≤ p.artifact.sequence ∧
      client.downloadRun policy.revocationSource p.run =
        some { artifact := some p.artifact, attestation := p.attestation,
               custodyReceipt := some p.custodyReceipt } := fun p hp =>
    ⟨hchain.published p hp, hchain.fromMinimum hp, hserves.downloads p hp⟩
  have hfollow : followRuns P client policy (some now) (pubs.map (·.run)) = .ok set ↔
      (∀ p ∈ pubs, freshAt policy.revocationSource p.artifact now) ∧ set = newest.verified P := by
    have hlinked := hchain.linked
    cases pubs with
    | nil => cases hnewest
    | cons p pubs =>
      obtain ⟨hp, hmin, hdownload⟩ := hpubs p List.mem_cons_self
      have hloop := loop_published now (p.verified P) set hpolicy
        (fun q hq => hpubs q (List.mem_cons_of_mem p hq)) hlinked.2
      have hlast : (pubs.getLast?.map (·.verified P)).getD (p.verified P) = newest.verified P := by
        rw [List.getLast?_cons] at hnewest
        obtain rfl := Option.some.inj hnewest
        cases pubs.getLast? <;> rfl
      rw [hlast] at hloop
      rw [List.forall_mem_cons, and_assoc, ← hloop]
      constructor
      · intro h
        obtain ⟨first, hfirst, hrest⟩ := bind_ok h
        obtain ⟨hfresh, rfl⟩ := (hp.verifyRun hpolicy hmin hlinked.1 hdownload).mp hfirst
        exact ⟨hfresh, hrest⟩
      · rintro ⟨hfresh, hrest⟩
        unfold followRuns
        simp only [List.map_cons]
        rw [(hp.verifyRun hpolicy hmin hlinked.1 hdownload).mpr ⟨hfresh, rfl⟩]
        exact hrest
  rw [fetch_ok]
  constructor
  · rintro ⟨-, runs', hread', -, -, hfollowed, -⟩
    obtain rfl : runs = runs' := Except.ok.inj (hread.symm.trans hread')
    rw [horder] at hfollowed
    exact hfollow.mp hfollowed
  · rintro ⟨hfresh, rfl⟩
    refine ⟨hpolicy, runs, hread, hattempts, ?_, ?_, hbehind⟩
    · rw [horder]
      exact hnodup
    · rw [horder]
      exact hfollow.mpr ⟨hfresh, rfl⟩

/-! ## Unbroken chains -/

/-- The client's artifact for each of the runs, with the run's number. -/
def served (client : GithubClient Envelope) (source : RevocationSource) (runs : List WorkflowRun) :
    List (Int × Option RevocationArtifact) :=
  (orderRuns source runs).map fun run =>
    (run.number, (client.downloadRun source run).bind (·.artifact))

def entry (artifact : RevocationArtifact) : Int × Option RevocationArtifact :=
  (artifact.sequence, some artifact)

theorem loop_ok {now : Option Int} {ordered : List WorkflowRun} {first : VerifiedRevocationSet}
    (h : ordered.foldlM
      (fun latest run => verifyRun P client policy now latest.artifactDigest run) first = .ok set) :
    ∃ artifacts, (ordered.map fun run => (run.number,
        (client.downloadRun policy.revocationSource run).bind (·.artifact))) = artifacts.map entry ∧
      LinkedFrom P first.artifactDigest artifacts ∧
      set = (artifacts.getLast?.map fun a => verifiedSet a (P.sha256Artifact a)).getD first := by
  induction ordered generalizing first with
  | nil => exact ⟨[], rfl, trivial, (Except.ok.inj h).symm⟩
  | cons run ordered ih =>
    rw [List.foldlM_cons] at h
    obtain ⟨next, hnext, h⟩ := bind_ok h
    obtain ⟨artifact, -, hdownload, hnumber, hprevious, -, -, rfl⟩ := verifyRun_ok hnext
    obtain ⟨artifacts, hserved, hlinked, hset⟩ := ih h
    refine ⟨artifact :: artifacts, ?_, ⟨hprevious, hlinked⟩, ?_⟩
    · rw [List.map_cons, List.map_cons, hserved, hdownload, ← hnumber]
      rfl
    · rw [hset, List.getLast?_cons]
      cases artifacts.getLast? <;> rfl

/-- A fetch that succeeds has followed an unbroken chain to its end. -/
theorem followRuns_ok {now : Option Int}
    (h : followRuns P client policy now (orderRuns policy.revocationSource runs) = .ok set) :
    ∃ artifacts last, served client policy.revocationSource runs = artifacts.map entry ∧
      LinkedFrom P policy.revocationSource.checkpointArtifactDigest artifacts ∧
      artifacts.getLast? = some last ∧ set = verifiedSet last (P.sha256Artifact last) := by
  unfold served
  cases horder : orderRuns policy.revocationSource runs with
  | nil =>
    rw [horder] at h
    cases h
  | cons run rest =>
    rw [horder] at h
    obtain ⟨first, hfirst, h⟩ := bind_ok h
    obtain ⟨artifact, -, hdownload, hnumber, hprevious, -, -, rfl⟩ := verifyRun_ok hfirst
    obtain ⟨artifacts, hserved, hlinked, hset⟩ := loop_ok h
    refine ⟨artifact :: artifacts, artifacts.getLast?.getD artifact, ?_, ⟨hprevious, hlinked⟩,
      List.getLast?_cons, ?_⟩
    · rw [List.map_cons, List.map_cons, hserved, hdownload, ← hnumber]
      rfl
    · rw [hset]
      cases artifacts.getLast? <;> rfl

theorem served_fromMinimum (client : GithubClient Envelope) {source : RevocationSource} {e : Int × Option RevocationArtifact}
    (he : e ∈ served client source runs) : source.minimumWorkflowRunNumber ≤ e.1 := by
  obtain ⟨run, hrun, rfl⟩ := List.mem_map.mp he
  exact (fromMinimum_iff.mp (mem_orderRuns.mp hrun).2.1).2

theorem served_sorted (client : GithubClient Envelope) {source : RevocationSource}
    (hnodup : ((orderRuns source runs).map (·.runNumber)).Nodup) :
    (served client source runs).Pairwise fun left right => left.1 < right.1 := by
  unfold served
  rw [List.pairwise_map]
  rw [List.Nodup, List.pairwise_map] at hnodup
  refine (orderRuns_sorted.and hnodup).imp_of_mem ?_
  rintro a b ha hb ⟨hle, hne⟩
  have hnumber : a.number ≠ b.number := by
    intro heq
    rw [(fromMinimum_iff.mp (mem_orderRuns.mp ha).2.1).1,
      (fromMinimum_iff.mp (mem_orderRuns.mp hb).2.1).1, heq] at hne
    exact hne rfl
  show a.number < b.number
  omega

/-- The artifacts are numbered without a gap from the minimum on. -/
theorem numbered_suffix {min : Int} {xs ys : List RevocationArtifact} (hys : ys <:+ xs)
    (hnumbered : ∀ (i : Nat) (h : i < xs.length), xs[i].sequence = min + i)
    (hmin : min ∈ ys.map (·.sequence)) : ys = xs := by
  obtain ⟨missing, rfl⟩ := hys
  obtain ⟨a, ha, hsequence⟩ := List.mem_map.mp hmin
  obtain ⟨i, hi, rfl⟩ := List.getElem_of_mem ha
  have := hnumbered (missing.length + i) (by rw [List.length_append]; omega)
  rw [List.getElem_append_right (by omega)] at this
  simp only [Nat.add_sub_cancel_left] at this
  have hnil : missing.length = 0 := by omega
  rw [List.eq_nil_of_length_eq_zero hnil]
  rfl

/-- What is refused of a chain: an artifact before the newest that is missing, altered or out of its
place; and a newest artifact behind what was observed before. -/
structure Refuses (Envelope : Type) (P : Platform) (policy : ApprovalPolicy)
    (published : List RevocationArtifact) : Prop where
  broken : ∀ (client : GithubClient Envelope) (fuel : Nat) (cursors : List String)
    (runs : List WorkflowRun) (observed : Option Observed) (now : Option Int),
    Paged (client.listing policy.revocationSource) none cursors runs →
    (∀ a ∈ published, ∀ n b, (n, some b) ∈ served client policy.revocationSource runs →
      P.sha256Artifact b = P.sha256Artifact a → b = a) →
    (served client policy.revocationSource runs).getLast? = (published.map entry).getLast? →
    policy.revocationSource.minimumWorkflowRunNumber ∈
      (served client policy.revocationSource runs).map (·.1) →
    served client policy.revocationSource runs ≠ published.map entry →
    ∃ error, fetchLatestTrustedRevocations P fuel policy (some client) observed now = .error error
  rolledBack : ∀ (client : GithubClient Envelope) (fuel : Nat) (cursors : List String)
    (runs : List WorkflowRun) (observed : Observed) (now : Option Int),
    Paged (client.listing policy.revocationSource) none cursors runs →
    (∀ e ∈ served client policy.revocationSource runs, e.1 < observed.sequence) →
    ∃ error,
      fetchLatestTrustedRevocations P fuel policy (some client) (some observed) now = .error error

theorem error_of_not_ok {ε α : Type} {x : Except ε α} (h : ∀ a, x ≠ .ok a) : ∃ e, x = .error e := by
  cases x with
  | error e => exact ⟨e, rfl⟩
  | ok a => exact absurd rfl (h a)

theorem PublishedChain.artifacts_numbered {pubs : List (Publication Envelope)}
    {verifier : Option (AttestationVerifier Envelope)} (h : PublishedChain P policy verifier pubs)
    (i : Nat) (hi : i < (pubs.map (·.artifact)).length) :
    (pubs.map fun p : Publication Envelope => p.artifact)[i].sequence =
      policy.revocationSource.minimumWorkflowRunNumber + i := by
  rw [List.getElem_map]
  exact h.numbered i _

/-- A broken chain and a rollback are refused, whatever the time. -/
theorem PublishedChain.refuses {pubs : List (Publication Envelope)}
    {verifier : Option (AttestationVerifier Envelope)} (h : PublishedChain P policy verifier pubs) :
    Refuses Envelope P policy (pubs.map (·.artifact)) where
  broken := by
    intro client fuel cursors runs observed now hpaged hcollision hlast hmin hne
    refine error_of_not_ok fun set hfetch => hne ?_
    obtain ⟨-, read, hread, -, hnodup, hfollow, -⟩ := fetch_ok.mp hfetch
    obtain rfl : read = runs := (hpaged.readRuns_eq hread).trans (List.nil_append _)
    obtain ⟨artifacts, last, hserved, hlinked, hsome, -⟩ := followRuns_ok hfollow
    have hsorted := served_sorted client hnodup
    have hfrom : ∀ e ∈ served client policy.revocationSource read,
        policy.revocationSource.minimumWorkflowRunNumber ≤ e.1 :=
      fun e he => served_fromMinimum client he
    rw [hserved] at hlast hmin hcollision hsorted hfrom ⊢
    have hend : artifacts.getLast? = (pubs.map (·.artifact)).getLast? := by
      rw [List.getLast?_map, List.getLast?_map] at hlast
      exact Option.map_injective (fun a b hab => by simpa [entry] using congrArg Prod.snd hab) hlast
    have hboth := hlinked.suffix h.linked (fun x hx y hy hxy =>
      hcollision y hy x.sequence x (List.mem_map.mpr ⟨x, hx, rfl⟩) hxy) hend
    have hnumbered := h.artifacts_numbered
    have hmin' : policy.revocationSource.minimumWorkflowRunNumber ∈ artifacts.map (·.sequence) := by
      rw [List.map_map] at hmin
      exact hmin
    rcases hboth with hshort | hlong
    · rw [numbered_suffix hshort hnumbered hmin']
    · -- what precedes the chain would be older than the minimum
      obtain ⟨extra, rfl⟩ := hlong
      cases extra with
      | nil => rfl
      | cons a extra =>
        have hfirst : a.sequence < policy.revocationSource.minimumWorkflowRunNumber := by
          have hpos : 0 < (pubs.map (·.artifact)).length :=
            List.length_pos_of_mem (List.mem_of_getLast? (hend.symm.trans hsome))
          rw [List.map_append, List.map_cons, List.cons_append, List.pairwise_cons] at hsorted
          have hlt := hsorted.1 _
            (List.mem_append_right _ (List.mem_map_of_mem (List.getElem_mem hpos)))
          have hzero := hnumbered 0 hpos
          simp only [entry] at hlt
          omega
        have := hfrom (entry a) (List.mem_map_of_mem List.mem_cons_self)
        simp only [entry] at this
        omega
  rolledBack := by
    intro client fuel cursors runs observed now hpaged hold
    refine error_of_not_ok fun set hfetch => ?_
    obtain ⟨-, read, hread, -, -, hfollow, hbehind⟩ := fetch_ok.mp hfetch
    obtain rfl : read = runs := (hpaged.readRuns_eq hread).trans (List.nil_append _)
    obtain ⟨artifacts, last, hserved, -, hlast, rfl⟩ := followRuns_ok hfollow
    have hlt := hold (entry last) (by
      rw [hserved]
      exact List.mem_map_of_mem (List.mem_of_getLast? hlast))
    have : behind last.sequence (P.sha256Artifact last) (some observed) = true := by
      simp [behind, show last.sequence < observed.sequence from hlt]
    rw [show behind last.sequence (P.sha256Artifact last) (some observed) = false from hbehind] at this
    cases this

/-- The newest revocations can be obtained, and never older ones, exactly as long as every artifact of
the chain is fresh. -/
theorem revocations_current_iff (fuel : Nat) {pubs : List (Publication Envelope)}
    {newest : Publication Envelope} {cursors : List String} {now : Int} {observed : Option Observed}
    (hpolicy : P.validPolicy policy)
    (hchain : PublishedChain P policy client.attestationVerifier pubs)
    (hserves : Serves client policy.revocationSource pubs cursors runs)
    (hnewest : pubs.getLast? = some newest)
    (hbehind : behind newest.artifact.sequence (P.sha256Artifact newest.artifact) observed = false)
    (hfuel : cursors.length < fuel) :
    (fetchLatestTrustedRevocations P fuel policy (some client) observed (some now) =
          .ok (newest.verified P) ∧
        Refuses Envelope P policy (pubs.map (·.artifact))) ↔
      ∀ p ∈ pubs, freshAt policy.revocationSource p.artifact now := by
  rw [fetch_published hpolicy hchain hserves hnewest hbehind hfuel]
  constructor
  · rintro ⟨⟨hfresh, -⟩, -⟩
    exact hfresh
  · intro hfresh
    exact ⟨⟨hfresh, rfl⟩, hchain.refuses⟩

/-! A first artifact that has run out, and a second one that is ten minutes old. -/

def releasePolicy : ApprovalPolicy :=
  { policyId := "s1-release-operations"
    revocationSource :=
      { repository := "keqi119/subscription-Saas"
        workflowPath := ".github/workflows/release-approval-revocations.yml"
        workflowRef := "refs/heads/main"
        artifactNamePrefix := "approval-revocations-"
        attestationIssuer := "https://token.actions.githubusercontent.com"
        maximumPublicationDelaySeconds := 1800
        maximumArtifactLifetimeSeconds := 3600
        minimumWorkflowRunNumber := 10
        checkpointArtifactDigest :=
          "sha256:9999999999999999999999999999999999999999999999999999999999999999" }
    custody :=
      { owner := "release-engineering"
        readers := ["release", "qa", "security", "audit"]
        expiryDisposition := "review" } }

def firstArtifact : RevocationArtifact :=
  { schemaVersion := "approval-revocations.v1"
    issuer := "https://token.actions.githubusercontent.com"
    repository := "keqi119/subscription-Saas"
    workflowPath := ".github/workflows/release-approval-revocations.yml"
    workflowRef := "refs/heads/main"
    workflowRunId := "5010"
    runAttempt := 1
    policyDigest := "sha256:22af8af136cabf3e42ad207ae5e789351683ce6dcd234a8e38284b39b12dcfe3"
    sequence := 10
    previousArtifactDigest :=
      "sha256:9999999999999999999999999999999999999999999999999999999999999999"
    issuedAt := "2026-09-02T06:50:00.000Z"
    notAfter := "2026-09-02T07:50:00.000Z"
    revocations := [] }

def secondArtifact : RevocationArtifact :=
  { firstArtifact with
    workflowRunId := "5011"
    sequence := 11
    previousArtifactDigest :=
      "sha256:329c55efb5e752b83fb3a04c28916dd664cdc7eac6ce48186e0a98507f141122"
    issuedAt := "2026-09-02T07:50:00.000Z"
    notAfter := "2026-09-02T08:50:00.000Z" }

def releasePlatform : Platform :=
  { sha256Artifact := fun artifact =>
      if artifact.sequence = 10 then
        "sha256:329c55efb5e752b83fb3a04c28916dd664cdc7eac6ce48186e0a98507f141122"
      else "sha256:de5c95bd9e0261b8ef4c1e56a91943c2b471e80425bc7835f25605bcaf89a0e8"
    sha256Policy := fun _ => "sha256:22af8af136cabf3e42ad207ae5e789351683ce6dcd234a8e38284b39b12dcfe3"
    validPolicy := fun _ => true
    validArtifact := fun _ => true
    localeCompare := fun left right => if left < right then -1 else if left = right then 0 else 1
    forbiddenValue := fun _ => false }

/-- The artifact with an attestation of it and a receipt of the instant. -/
def releasePublication (artifact : RevocationArtifact) (uploadedAt retainUntil : String) :
    Publication AttestationClaims :=
  { artifact := artifact
    attestation := ⟨some (releasePlatform.sha256Artifact artifact), some artifact.issuer,
      some artifact.repository, some artifact.workflowPath, some artifact.workflowRef,
      some artifact.workflowRunId, some 1⟩
    custodyReceipt :=
      { attestationRef := "attestation://release/revocations"
        contentDigest := releasePlatform.sha256Artifact artifact
        contentSizeBytes := 100
        expiryDisposition := "review"
        owner := "release-engineering"
        readbackAt := uploadedAt
        readbackDigest := releasePlatform.sha256Artifact artifact
        readers := ["release", "qa", "security", "audit"]
        receiptId := "86a44ae9-287a-4457-ac85-a0866625543c"
        retainUntil := retainUntil
        schemaVersion := "custody-receipt.v1"
        storeRef := "artifact://release/revocations"
        uploadedAt := uploadedAt } }

def releasePublications : List (Publication AttestationClaims) :=
  [releasePublication firstArtifact "2026-09-02T06:50:00.000Z" "2027-03-01T06:50:00.000Z",
    releasePublication secondArtifact "2026-09-02T07:50:00.000Z" "2027-03-01T07:50:00.000Z"]

def releaseRuns : List WorkflowRun := [⟨some 11, "5011", 1⟩, ⟨some 10, "5010", 1⟩]

/-- The newer run is on the first page. -/
def releaseClient : GithubClient AttestationClaims :=
  { attestationVerifier := some ⟨"github-artifact-attestation/v1", some⟩
    listSuccessfulWorkflowRuns := fun _ _ _ cursor =>
      match cursor with
      | none => some ⟨some [⟨some 11, "5011", 1⟩], .text "page-2"⟩
      | some _ => some ⟨some [⟨some 10, "5010", 1⟩], .absent⟩
    downloadRunArtifact := fun _ runId _ =>
      (releasePublications.find? (·.artifact.workflowRunId == runId)).map fun p =>
        { artifact := some p.artifact, attestation := p.attestation,
          custodyReceipt := some p.custodyReceipt } }

theorem releasePublications_chain :
    PublishedChain releasePlatform releasePolicy releaseClient.attestationVerifier
      releasePublications where
  published := by
    intro p hp
    simp only [releasePublications, List.mem_cons, List.not_mem_nil, or_false] at hp
    rcases hp with rfl | rfl
    · exact ⟨rfl, rfl, ⟨_, rfl, by decide +kernel, by decide +kernel⟩, by decide +kernel,
        by decide +kernel, 1788331800000, by decide +kernel⟩
    · exact ⟨rfl, rfl, ⟨_, rfl, by decide +kernel, by decide +kernel⟩, by decide +kernel,
        by decide +kernel, 1788335400000, by decide +kernel⟩
  numbered := by decide
  linked := by
    refine ⟨rfl, ?_, trivial⟩
    decide

theorem releaseClient_serves :
    Serves releaseClient releasePolicy.revocationSource releasePublications ["page-2"]
      releaseRuns where
  paged := by
    show Paged _ none ["page-2"] ([⟨some 11, "5011", 1⟩] ++ [⟨some 10, "5010", 1⟩])
    exact .more rfl (.last rfl)
  distinct := by decide
  listed := by decide
  downloads := by
    intro p hp
    simp only [releasePublications, List.mem_cons, List.not_mem_nil, or_false] at hp
    rcases hp with rfl | rfl <;> rfl

/-- The instant of the second artifact's publication, ten minutes later. -/
def tenMinutesLater : Int := 1788336000000

theorem revocations_current_iff_release :
    (fetchLatestTrustedRevocations releasePlatform 2 releasePolicy (some releaseClient) none
          (some tenMinutesLater) =
          .ok ((releasePublication secondArtifact "2026-09-02T07:50:00.000Z"
            "2027-03-01T07:50:00.000Z").verified releasePlatform) ∧
        Refuses AttestationClaims releasePlatform releasePolicy
          (releasePublications.map (·.artifact))) ↔
      ∀ p ∈ releasePublications, freshAt releasePolicy.revocationSource p.artifact tenMinutesLater :=
  revocations_current_iff 2 rfl releasePublications_chain releaseClient_serves rfl rfl (by decide)

/-- The newest artifact is fresh, and nothing newer was observed, but nothing is answered. -/
theorem fetch_fails_of_fresh :
    PublishedChain releasePlatform releasePolicy releaseClient.attestationVerifier
        releasePublications ∧
      Serves releaseClient releasePolicy.revocationSource releasePublications ["page-2"]
        releaseRuns ∧
      freshAt releasePolicy.revocationSource secondArtifact tenMinutesLater ∧
      ∃ error, fetchLatestTrustedRevocations releasePlatform 2 releasePolicy (some releaseClient) none
        (some tenMinutesLater) = .error error := by
  refine ⟨releasePublications_chain, releaseClient_serves, by decide +kernel, ?_⟩
  refine error_of_not_ok fun set hfetch => ?_
  have hfresh := ((fetch_published rfl releasePublications_chain releaseClient_serves rfl rfl
    (by decide)).mp hfetch).1 _ List.mem_cons_self
  revert hfresh
  decide +kernel

end SubscriptionSaas.Release
