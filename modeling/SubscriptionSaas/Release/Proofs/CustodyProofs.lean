import SubscriptionSaas.Lib.Proofs.CalendarProofs
import SubscriptionSaas.Release.EvidenceCustody

/-!
# When a call puts evidence into custody

A receipt is returned only with both objects in the store. Whether a call whose steps all succeed
returns one depends on the times that the store reports, for each contract in its own way. A value
whose content is in the store is refused from then on.
-/

namespace SubscriptionSaas.Release

open Results

variable {P : CustodyPlatform} {input : CustodyInput} {env : CustodyEnv} {storage : Storage}

/-- The behaviour of the platform that the code relies on. -/
structure CustodyPlatform.Documented (P : CustodyPlatform) : Prop where
  /-- A canonical date text is parsed as it was written. -/
  dateParse : ∀ text time, Calendar.ofISOString text = some time → P.dateParse text = some time
  /-- The canonical JSON of a value is that of the value that is read from it. -/
  canonicalJson : ∀ value bytes, P.canonicalJson value = some bytes →
    ∃ accepted, P.parseJson bytes = some accepted ∧ P.canonicalJson accepted = some bytes
  parseReceipt : ∀ receipt, P.parseReceipt (P.receiptBytes receipt) = some receipt
  digest : ∀ bytes, digestPattern (P.sha256Bytes bytes) = true

/-! ## The store -/

theorem contentKey_ne_receiptKey (digest receiptId : String) :
    contentKey digest ≠ receiptKey receiptId := by
  intro h
  have hlist := congrArg String.toList h
  simp [contentKey, receiptKey] at hlist

/-- What is created was not there, and is as it was sent. -/
theorem createOnly_ok {key : String} {bytes : List UInt8} {outcome : CreateOutcome}
    {facts : StoredFacts} : (createOnly key bytes outcome storage).2 = .ok facts ↔
      outcome = .answered facts ∧ storage.lookup key = none := by
  unfold createOnly
  cases outcome with
  | failed => simp
  | unanswered facts' => cases storage.lookup key <;> simp
  | answered facts' =>
    cases storage.lookup key with
    | none => simp
    | some object => simp

theorem createOnly_answered {key : String} {bytes : List UInt8} {facts : StoredFacts}
    (h : storage.lookup key = none) : createOnly key bytes (.answered facts) storage =
      ((key, ⟨bytes, facts⟩) :: storage, .ok facts) := by
  simp [createOnly, h]

theorem createOnly_taken {key : String} {bytes : List UInt8} {object : StoredObject}
    (outcome : CreateOutcome) (h : storage.lookup key = some object) :
    ∃ error, createOnly key bytes outcome storage = (storage, .error error) := by
  unfold createOnly
  rw [h]
  cases outcome <;> exact ⟨_, rfl⟩

/-- An object stays as it was created. -/
theorem createOnly_keeps {key key' : String} {bytes : List UInt8} {object : StoredObject}
    (outcome : CreateOutcome) (h : storage.lookup key' = some object) :
    (createOnly key bytes outcome storage).1.lookup key' = some object := by
  have hcons : ∀ facts, storage.lookup key = none →
      ((key, (⟨bytes, facts⟩ : StoredObject)) :: storage).lookup key' = some object := by
    intro facts hnone
    have hne : key' ≠ key := by
      rintro rfl
      rw [hnone] at h
      cases h
    rw [List.lookup_cons, beq_false_of_ne hne]
    exact h
  unfold createOnly
  cases hk : storage.lookup key with
  | some object' => cases outcome <;> exact h
  | none =>
    cases outcome with
    | failed => exact h
    | unanswered facts => exact hcons facts hk
    | answered facts => exact hcons facts hk

/-! ## Checks -/

theorem clock_ok {reading : Option ISODate} {date : ISODate} :
    clock reading = .ok date ↔ reading = some date := by
  cases reading <;> simp [clock]

theorem validDate_ok {time : Option Int} {t : Int} : validDate time = .ok t ↔ time = some t := by
  cases time <;> simp [validDate]

theorem addUtcDays_eq_some {time days t : Int} : addUtcDays time days = some t ↔
    (-8640000000000000 ≤ t ∧ t ≤ 8640000000000000) ∧ t = time + days * 86400000 := by
  unfold addUtcDays
  rw [Option.ite_none_right_eq_some, Option.some.injEq]
  constructor
  · rintro ⟨h, rfl⟩
    exact ⟨h, rfl⟩
  · rintro ⟨h, rfl⟩
    exact ⟨h, rfl⟩

theorem readObject_ok {succeeds : Bool} {key : String} {object : Option StoredObject} :
    readObject succeeds key storage = .ok object ↔
      succeeds = true ∧ storage.lookup key = object := by
  cases succeeds <;> simp [readObject]

/-- What the contract demands of the facts about an object. -/
def CustodyPlatform.Accepts (P : CustodyPlatform) (receiptPolicy : ReceiptPolicy)
    (facts : StoredFacts) (expectedSize expectedRetainUntil minimumRetainUntil : Int) : Prop :=
  facts.storeRef ≠ "" ∧ P.forbiddenValue facts.storeRef = false ∧
    facts.contentSizeBytes = expectedSize ∧ (P.dateParse facts.storedAt).isSome ∧
    (if receiptPolicy.legacy then
      Calendar.ofISOString facts.retainUntil == some expectedRetainUntil
    else facts.retained receiptPolicy.days minimumRetainUntil) = true

theorem assertStoredFacts_ok {receiptPolicy : ReceiptPolicy} {facts accepted : StoredFacts}
    {size expected minimum : Int} :
    P.assertStoredFacts receiptPolicy facts size expected minimum = .ok accepted ↔
      P.Accepts receiptPolicy facts size expected minimum ∧ accepted = facts := by
  unfold CustodyPlatform.assertStoredFacts CustodyPlatform.Accepts
  simp only [require_bind, Bool.and_eq_true, bne_iff_ne, beq_iff_eq, Bool.not_eq_true', pure,
    Except.pure, Except.ok.injEq]
  constructor
  · rintro ⟨⟨⟨⟨href, hsize⟩, hstored⟩, hretain⟩, hallowed, rfl⟩
    exact ⟨⟨href, hallowed, hsize, hstored, hretain⟩, rfl⟩
  · rintro ⟨⟨href, hallowed, hsize, hstored, hretain⟩, rfl⟩
    exact ⟨⟨⟨⟨href, hsize⟩, hstored⟩, hretain⟩, hallowed, rfl⟩

/-- The metadata of an object are the facts it was created with. -/
theorem assertStorageMetadata_ok {receiptPolicy : ReceiptPolicy} {facts accepted : StoredFacts}
    {size expected minimum : Int} (h : P.Accepts receiptPolicy facts size expected minimum) :
    P.assertStorageMetadata receiptPolicy (some facts) facts size expected minimum =
      .ok accepted ↔ accepted = facts := by
  unfold CustodyPlatform.assertStorageMetadata
  dsimp only
  rw [bind_ok_iff]
  simp only [assertStoredFacts_ok, require_bind, beq_iff_eq, pure, Except.pure, Except.ok.injEq]
  constructor
  · rintro ⟨observed, ⟨-, rfl⟩, -, rfl⟩
    rfl
  · rintro rfl
    exact ⟨accepted, ⟨h, rfl⟩, rfl, rfl⟩

theorem metadata_ok {receiptPolicy : ReceiptPolicy} {succeeds : Bool} {key : String}
    {object : StoredObject} {accepted : StoredFacts} {size expected minimum : Int}
    (h : storage.lookup key = some object)
    (hfacts : P.Accepts receiptPolicy object.facts size expected minimum) :
    P.metadata receiptPolicy succeeds key object.facts size expected minimum storage =
      .ok accepted ↔
        (receiptPolicy.legacy = true ∨ succeeds = true) ∧ accepted = object.facts := by
  unfold CustodyPlatform.metadata
  cases receiptPolicy.legacy with
  | true => simp [eq_comm]
  | false =>
    rw [if_neg Bool.false_ne_true, bind_ok_iff]
    constructor
    · rintro ⟨found, hread, hmeta⟩
      obtain ⟨hsucceeds, rfl⟩ := readObject_ok.1 hread
      rw [h] at hmeta
      exact ⟨.inr hsucceeds, (assertStorageMetadata_ok hfacts).1 hmeta⟩
    · rintro ⟨hsucceeds, rfl⟩
      refine ⟨some object, readObject_ok.2 ⟨?_, h⟩, (assertStorageMetadata_ok hfacts).2 rfl⟩
      exact hsucceeds.resolve_left Bool.false_ne_true

/-- An object with the digest is read back. -/
theorem readback_ok {succeeds : Bool} {key digest : String} {missing mismatch : CustodyError}
    {object : StoredObject} {bytes : List UInt8} (h : storage.lookup key = some object)
    (hdigest : P.sha256Bytes object.bytes = digest) :
    P.readback succeeds key digest missing mismatch storage = .ok bytes ↔
      succeeds = true ∧ bytes = object.bytes := by
  unfold CustodyPlatform.readback
  cases succeeds with
  | false => simp [readObject, bind, Except.bind]
  | true => simp [readObject, bind, Except.bind, h, hdigest, require, pure, Except.pure, eq_comm]

/-! ## The parts of a call -/

/-- What is known of a request for content. -/
structure Requested (P : CustodyPlatform) (input : CustodyInput) (reading : Option ISODate)
    (request : ContentRequest) : Prop where
  selected : selectReceiptPolicy input.receiptContract = .ok request.receiptPolicy
  accepted : P.assertPolicy input.policy request.receiptPolicy = .ok ()
  attestationRef : input.attestationRef ≠ "" ∧ P.forbiddenValue input.attestationRef = false
  bytes : P.canonicalJson input.value = some request.bytes
  digest : request.contentDigest = P.sha256Bytes request.bytes
  requestedAt : reading = some request.requestedAt
  retainUntil : addUtcDays request.requestedAt.time request.receiptPolicy.days =
    some request.retainUntil

/-- A value is accepted with the canonical JSON that it had. -/
theorem redactEvidence_ok (hP : P.Documented) {value accepted : Json} {policy : EvidencePolicy}
    {receiptContract : String} (h : P.redactEvidence value policy receiptContract = .ok accepted) :
    ∃ bytes, P.canonicalJson value = some bytes ∧ P.canonicalJson accepted = some bytes := by
  obtain ⟨_, -, h⟩ := bind_ok h
  obtain ⟨_, -, h⟩ := bind_ok h
  obtain ⟨_, -, h⟩ := bind_ok h
  cases hbytes : P.canonicalJson value with
  | none =>
    rw [hbytes] at h
    cases h
  | some bytes =>
    obtain ⟨parsed, hparsed, hcanonical⟩ := hP.canonicalJson value bytes hbytes
    have hbind : (some bytes >>= P.parseJson) = some parsed := hparsed
    rw [hbytes, hbind] at h
    cases h
    exact ⟨bytes, rfl, hcanonical⟩

theorem requestContent_ok (hP : P.Documented) {reading : Option ISODate}
    {request : ContentRequest} (h : P.requestContent input reading = .ok request) :
    Requested P input reading request := by
  obtain ⟨receiptPolicy, hselect, h⟩ := bind_ok h
  obtain ⟨_, hpolicy, h⟩ := bind_ok h
  obtain ⟨hinput, h⟩ := require_bind.1 h
  obtain ⟨hallowed, h⟩ := require_bind.1 h
  obtain ⟨accepted, hredact, h⟩ := bind_ok h
  obtain ⟨bytes, hvalue, haccepted⟩ := redactEvidence_ok hP hredact
  simp only [haccepted] at h
  obtain ⟨date, hclock, h⟩ := bind_ok h
  obtain ⟨retainUntil, hretain, h⟩ := bind_ok h
  cases h
  simp only [Bool.and_eq_true, bne_iff_ne, Bool.not_eq_true'] at hinput hallowed
  exact ⟨hselect, hpolicy, ⟨hinput.2, hallowed.2⟩, hvalue, rfl,
    clock_ok.1 hclock, validDate_ok.1 hretain⟩

/-- The content's key depends on the value alone. -/
theorem contentDigest_eq (hP : P.Documented) {input' : CustodyInput} {reading reading' : Option ISODate}
    {request request' : ContentRequest} (h : P.requestContent input reading = .ok request)
    (h' : P.requestContent input' reading' = .ok request') (hvalue : input'.value = input.value) :
    request'.contentDigest = request.contentDigest := by
  have hr := requestContent_ok hP h
  have hr' := requestContent_ok hP h'
  have hbytes : request'.bytes = request.bytes := by
    have := hr'.bytes
    rw [hvalue, hr.bytes] at this
    exact (Option.some.inj this).symm
  rw [hr'.digest, hr.digest, hbytes]

/-- From content in the store comes its receipt. -/
theorem receiptOf_ok {request : ContentRequest} {facts : StoredFacts} {receipt : CustodyReceipt}
    (h : storage.lookup (contentKey request.contentDigest) = some ⟨request.bytes, facts⟩)
    (hdigest : request.contentDigest = P.sha256Bytes request.bytes) :
    P.receiptOf input env request storage facts = .ok receipt ↔
      P.Accepts request.receiptPolicy facts request.bytes.length request.retainUntil 0 ∧
        (request.receiptPolicy.legacy = true ∨ env.contentMetadata = true) ∧
        env.contentRead = true ∧
        ∃ date, env.readbackAt = some date ∧ uuidPattern env.receiptId = true ∧
          (∃ until_, P.receiptRetainUntil request facts date = .ok until_) ∧
          receipt = request.receipt input facts date env.receiptId := by
  unfold CustodyPlatform.receiptOf
  constructor
  · intro hok
    obtain ⟨upload, hupload, hupon⟩ := bind_ok hok
    obtain ⟨hfacts, hsame⟩ := assertStoredFacts_ok.1 hupload
    rw [hsame] at hupon
    obtain ⟨metadata, hmetadata, hmeta⟩ := bind_ok hupon
    obtain ⟨hread, hobserved⟩ := (metadata_ok h hfacts).1 hmetadata
    rw [hobserved] at hmeta
    obtain ⟨bytes, hbytes, hback⟩ := bind_ok hmeta
    obtain ⟨hcontent, -⟩ := (readback_ok h hdigest.symm).1 hbytes
    obtain ⟨date, hdate, hdated⟩ := bind_ok hback
    obtain ⟨hid, hnamed⟩ := require_bind.1 hdated
    obtain ⟨asked, hasked, hreceipt⟩ := bind_ok hnamed
    cases hreceipt
    exact ⟨hfacts, hread, hcontent, date, clock_ok.1 hdate, hid, ⟨asked, hasked⟩, rfl⟩
  · rintro ⟨hfacts, hread, hcontent, date, hdate, hid, ⟨asked, hasked⟩, rfl⟩
    rw [bind_eq (assertStoredFacts_ok.2 ⟨hfacts, rfl⟩),
      bind_eq ((metadata_ok h hfacts).2 ⟨hread, rfl⟩),
      bind_eq ((readback_ok h hdigest.symm).2 ⟨hcontent, rfl⟩), bind_eq (clock_ok.2 hdate)]
    exact require_bind.2 ⟨hid, bind_eq hasked⟩

theorem expectedRetainUntil_ok {receiptPolicy : ReceiptPolicy} {receipt : CustodyReceipt} :
    (∃ time, P.expectedRetainUntil receiptPolicy receipt = .ok time) ↔
      ∀ uploadedAt, P.dateParse receipt.uploadedAt = some uploadedAt →
        (addUtcDays uploadedAt receiptPolicy.days).isSome := by
  unfold CustodyPlatform.expectedRetainUntil
  cases P.dateParse receipt.uploadedAt with
  | none => simp
  | some uploadedAt =>
    cases hadd : addUtcDays uploadedAt receiptPolicy.days with
    | none => simp [validDate, Except.map, hadd]
    | some time => simp [validDate, Except.map, hadd]

theorem assertCustodyComplete_ok {receiptPolicy : ReceiptPolicy} {receipt stored : CustodyReceipt}
    {digest : String} : P.assertCustodyComplete receiptPolicy receipt digest = .ok stored ↔
      (∀ uploadedAt, P.dateParse receipt.uploadedAt = some uploadedAt →
        (addUtcDays uploadedAt receiptPolicy.days).isSome) ∧
      receiptComplete P.toPlatform receiptPolicy receipt digest = true ∧ stored = receipt := by
  unfold CustodyPlatform.assertCustodyComplete
  rw [bind_ok_iff, ← expectedRetainUntil_ok]
  simp only [require_bind, pure, Except.pure, Except.ok.injEq]
  constructor
  · rintro ⟨time, htime, hcomplete, rfl⟩
    exact ⟨⟨time, htime⟩, hcomplete, rfl⟩
  · rintro ⟨⟨time, htime⟩, hcomplete, rfl⟩
    exact ⟨time, htime, hcomplete, rfl⟩

/-- A receipt in the store ends the call. -/
theorem complete_ok (hP : P.Documented) {request : ContentRequest} {facts : StoredFacts}
    {receipt stored : CustodyReceipt}
    (h : storage.lookup (receiptKey receipt.receiptId) = some ⟨P.receiptBytes receipt, facts⟩) :
    P.complete env request receipt storage facts = .ok stored ↔
      P.Accepts request.receiptPolicy facts (P.receiptBytes receipt).length request.retainUntil
        (P.minimumRetainUntil receipt) ∧
      (request.receiptPolicy.legacy = true ∨ env.receiptMetadata = true) ∧
      env.receiptRead = true ∧
      P.assertCustodyComplete request.receiptPolicy receipt request.contentDigest = .ok stored := by
  unfold CustodyPlatform.complete
  constructor
  · intro hok
    obtain ⟨upload, hupload, hupon⟩ := bind_ok hok
    obtain ⟨hfacts, hsame⟩ := assertStoredFacts_ok.1 hupload
    rw [hsame] at hupon
    obtain ⟨metadata, hmetadata, hmeta⟩ := bind_ok hupon
    obtain ⟨hread, -⟩ := (metadata_ok h hfacts).1 hmetadata
    obtain ⟨bytes, hbytes, hback⟩ := bind_ok hmeta
    obtain ⟨hcontent, hsent⟩ := (readback_ok h rfl).1 hbytes
    rw [hsent, hP.parseReceipt] at hback
    exact ⟨hfacts, hread, hcontent, hback⟩
  · rintro ⟨hfacts, hread, hcontent, hcomplete⟩
    rw [bind_eq (assertStoredFacts_ok.2 ⟨hfacts, rfl⟩),
      bind_eq ((metadata_ok h hfacts).2 ⟨hread, rfl⟩),
      bind_eq ((readback_ok h rfl).2 ⟨hcontent, rfl⟩), hP.parseReceipt]
    exact hcomplete

/-! ## The call -/

/-- Every step of a call that returns a receipt. -/
structure Completed (P : CustodyPlatform) (input : CustodyInput) (env : CustodyEnv)
    (storage : Storage) (request : ContentRequest) (content facts : StoredFacts) (date : ISODate)
    (receipt : CustodyReceipt) : Prop where
  createContent : env.createContent = .answered content
  contentFree : storage.lookup (contentKey request.contentDigest) = none
  contentFacts : P.Accepts request.receiptPolicy content request.bytes.length request.retainUntil 0
  contentMetadata : request.receiptPolicy.legacy = true ∨ env.contentMetadata = true
  contentRead : env.contentRead = true
  readbackAt : env.readbackAt = some date
  receiptId : uuidPattern env.receiptId = true
  asked : ∃ time, P.receiptRetainUntil request content date = .ok time
  sent : receipt = request.receipt input content date env.receiptId
  createReceipt : env.createReceipt = .answered facts
  receiptFree : storage.lookup (receiptKey env.receiptId) = none
  receiptFacts : P.Accepts request.receiptPolicy facts (P.receiptBytes receipt).length
    request.retainUntil (P.minimumRetainUntil receipt)
  receiptMetadata : request.receiptPolicy.legacy = true ∨ env.receiptMetadata = true
  receiptRead : env.receiptRead = true
  complete : P.assertCustodyComplete request.receiptPolicy receipt request.contentDigest =
    .ok receipt

theorem lookup_receiptKey {content : StoredObject} (digest receiptId : String) :
    List.lookup (receiptKey receiptId) ((contentKey digest, content) :: storage) =
      storage.lookup (receiptKey receiptId) := by
  rw [List.lookup_cons, beq_false_of_ne (contentKey_ne_receiptKey digest receiptId).symm]

/-- A call whose steps succeed leaves both objects and returns the receipt. -/
theorem completed_result (hP : P.Documented) {request : ContentRequest} {content facts : StoredFacts}
    {date : ISODate} {receipt : CustodyReceipt}
    (h : Completed P input env storage request content facts date receipt)
    (hrequest : P.requestContent input env.uploadStartedAt = .ok request) :
    P.custodyEvidence input env storage =
      ((receiptKey env.receiptId, ⟨P.receiptBytes receipt, facts⟩) ::
        (contentKey request.contentDigest, ⟨request.bytes, content⟩) :: storage, .ok receipt) := by
  have hdigest := (requestContent_ok hP hrequest).digest
  obtain rfl := h.sent
  have hreceipt : P.receiptOf input env request
      ((contentKey request.contentDigest, ⟨request.bytes, content⟩) :: storage) content =
      .ok (request.receipt input content date env.receiptId) :=
    (receiptOf_ok List.lookup_cons_self hdigest).2 ⟨h.contentFacts, h.contentMetadata,
      h.contentRead, date, h.readbackAt, h.receiptId, h.asked, rfl⟩
  unfold CustodyPlatform.custodyEvidence
  rw [hrequest]
  dsimp only
  rw [h.createContent, createOnly_answered h.contentFree]
  dsimp only
  rw [bind_eq rfl, hreceipt]
  dsimp only
  have hid : (request.receipt input content date env.receiptId).receiptId = env.receiptId := rfl
  rw [hid, h.createReceipt, createOnly_answered ((lookup_receiptKey _ _).trans h.receiptFree),
    bind_eq rfl]
  refine Prod.ext rfl ((complete_ok hP List.lookup_cons_self).2
    ⟨h.receiptFacts, h.receiptMetadata, h.receiptRead, h.complete⟩)

/-- A call returns a receipt exactly when every step succeeds. -/
theorem custodyEvidence_ok (hP : P.Documented) {request : ContentRequest}
    (hrequest : P.requestContent input env.uploadStartedAt = .ok request)
    {receipt : CustodyReceipt} :
    (P.custodyEvidence input env storage).2 = .ok receipt ↔
      ∃ content facts date, Completed P input env storage request content facts date receipt := by
  have hdigest := (requestContent_ok hP hrequest).digest
  constructor
  · intro hok
    unfold CustodyPlatform.custodyEvidence at hok
    rw [hrequest] at hok
    dsimp only at hok
    split at hok
    · cases hok
    · next receipt' hcontent =>
      obtain ⟨content, hcreate, hreceipt⟩ := bind_ok hcontent
      obtain ⟨houtcome, hfree⟩ := createOnly_ok.1 hcreate
      rw [houtcome, createOnly_answered hfree] at hreceipt hok
      obtain ⟨haccepted, hmeta, hread, date, hdate, hid, hasked, rfl⟩ :=
        (receiptOf_ok List.lookup_cons_self hdigest).1 hreceipt
      obtain ⟨facts, hcreate', hcomplete⟩ := bind_ok hok
      obtain ⟨houtcome', hfree'⟩ := createOnly_ok.1 hcreate'
      rw [houtcome', createOnly_answered hfree'] at hcomplete
      obtain ⟨haccepted', hmeta', hread', hall⟩ :=
        (complete_ok hP List.lookup_cons_self).1 hcomplete
      obtain ⟨-, -, rfl⟩ := assertCustodyComplete_ok.1 hall
      rw [lookup_receiptKey] at hfree'
      exact ⟨content, facts, date, houtcome, hfree, haccepted, hmeta, hread, hdate, hid, hasked, rfl,
        houtcome', hfree', haccepted', hmeta', hread', hall⟩
  · rintro ⟨content, facts, date, h⟩
    rw [completed_result hP h hrequest]

/-! ## Times -/

/-- What the store reports of an object of some size, with the instants of its texts. -/
structure Reported (P : CustodyPlatform) (facts : StoredFacts) (size : Nat)
    (storedAt retainUntil : Int) : Prop where
  storeRef : facts.storeRef ≠ ""
  allowed : P.forbiddenValue facts.storeRef = false
  size : facts.contentSizeBytes = size
  storedAt : Calendar.ofISOString facts.storedAt = some storedAt
  retainUntil : Calendar.ofISOString facts.retainUntil = some retainUntil

/-- Every step of the call succeeds: the value is accepted, the keys are free, the store answers
`content` and `facts`, the objects are read back, and the clock and the receipt's number are there. -/
structure Succeeds (P : CustodyPlatform) (input : CustodyInput) (env : CustodyEnv)
    (storage : Storage) (request : ContentRequest) (content facts : StoredFacts)
    (date : ISODate) : Prop where
  requested : P.requestContent input env.uploadStartedAt = .ok request
  contentFree : storage.lookup (contentKey request.contentDigest) = none
  receiptFree : storage.lookup (receiptKey env.receiptId) = none
  createContent : env.createContent = .answered content
  contentMetadata : env.contentMetadata = true
  contentRead : env.contentRead = true
  readbackAt : env.readbackAt = some date
  receiptId : uuidPattern env.receiptId = true
  createReceipt : env.createReceipt = .answered facts
  receiptMetadata : env.receiptMetadata = true
  receiptRead : env.receiptRead = true

/-- What a contract demands of the times: those of the clock's first reading, of the content and of
the receipt. -/
def Suffices (receiptPolicy : ReceiptPolicy)
    (requestedAt storedAt retainUntil storedAt' retainUntil' : Int) : Prop :=
  if receiptPolicy.legacy then
    storedAt = requestedAt ∧ retainUntil = requestedAt + receiptPolicy.days * 86400000 ∧
      retainUntil' = retainUntil
  else
    storedAt + receiptPolicy.days * 86400000 ≤ retainUntil ∧ 0 ≤ retainUntil ∧
      storedAt' + receiptPolicy.days * 86400000 ≤ retainUntil'

theorem selectReceiptPolicy_days {receiptContract : String} {receiptPolicy : ReceiptPolicy}
    (h : selectReceiptPolicy receiptContract = .ok receiptPolicy) : 0 ≤ receiptPolicy.days := by
  unfold selectReceiptPolicy at h
  split at h
  · next found hfound =>
    cases h
    have hmem := List.mem_of_find?_eq_some hfound
    simp only [receiptPolicies, List.mem_cons, List.not_mem_nil, or_false] at hmem
    rcases hmem with rfl | rfl <;> decide
  · cases h

/-- A time that is long enough before another one can be carried so far. -/
theorem addUtcDays_any {time days limit : Int} (hdays : 0 ≤ days)
    (htime : -8640000000000000 ≤ time) (hlimit : limit ≤ 8640000000000000) :
    (addUtcDays time days).any (· ≤ limit) = true ↔ time + days * 86400000 ≤ limit := by
  unfold addUtcDays
  split_ifs with h
  · simp
  · simp only [Option.any_none, Bool.false_eq_true, false_iff]
    omega

theorem Reported.accepts (hP : P.Documented) {receiptPolicy : ReceiptPolicy} {facts : StoredFacts}
    {size : Nat} {storedAt retainUntil expected minimum : Int}
    (h : Reported P facts size storedAt retainUntil) (hdays : 0 ≤ receiptPolicy.days) :
    P.Accepts receiptPolicy facts size expected minimum ↔
      if receiptPolicy.legacy then retainUntil = expected
      else storedAt + receiptPolicy.days * 86400000 ≤ retainUntil ∧ minimum ≤ retainUntil := by
  have hstored := Calendar.ofISOString_range h.storedAt
  have hretain := Calendar.ofISOString_range h.retainUntil
  have hparse := hP.dateParse _ _ h.storedAt
  unfold CustodyPlatform.Accepts StoredFacts.retained
  simp only [ne_eq, h.storeRef, not_false_eq_true, h.allowed, h.size, hparse, Option.isSome_some,
    true_and, h.storedAt, h.retainUntil]
  cases receiptPolicy.legacy with
  | true => simp
  | false =>
    simp only [Bool.false_eq_true, if_false, Bool.and_eq_true, decide_eq_true_eq,
      addUtcDays_any hdays hstored.1 hretain.2]

/-- A receipt of accepted input is complete as its times are. -/
theorem receipt_complete (hP : P.Documented) {reading : Option ISODate} {request : ContentRequest}
    (hrequest : Requested P input reading request) {content : StoredFacts} {date : ISODate}
    {receiptId : String} {storedAt retainUntil : Int}
    (hcontent : Reported P content request.bytes.length storedAt retainUntil)
    (hid : uuidPattern receiptId = true) (hle : storedAt ≤ date.time) :
    receiptComplete P.toPlatform request.receiptPolicy
      (request.receipt input content date receiptId) request.contentDigest = true ↔
      if request.receiptPolicy.legacy then
        retainUntil = storedAt + request.receiptPolicy.days * 86400000
      else storedAt + request.receiptPolicy.days * 86400000 ≤ retainUntil := by
  have hpolicy := require_ok hrequest.accepted
  simp only [Bool.and_eq_true, Bool.not_eq_true'] at hpolicy
  obtain ⟨⟨⟨⟨⟨⟨⟨howner, hreaders⟩, hnames⟩, hnodup⟩, -⟩, hexpiry⟩, hallowed⟩, hallowed'⟩ := hpolicy
  have hdigest : digestPattern request.contentDigest = true := hrequest.digest ▸ hP.digest _
  have href : (content.storeRef != "") = true := bne_iff_ne.2 hcontent.storeRef
  have hattestation : (input.attestationRef != "") = true := bne_iff_ne.2 hrequest.attestationRef.1
  have hsize : (0 : Int) ≤ request.bytes.length := Int.natCast_nonneg _
  unfold receiptComplete ContentRequest.receipt
  simp only [hcontent.storedAt, date.canonical, hcontent.retainUntil, beq_self_eq_true, hid, hdigest,
    href, hcontent.allowed, howner, hreaders, hnames, hnodup, hexpiry, hattestation,
    hrequest.attestationRef.2, hallowed, hallowed', hle, hsize, Bool.not_false, Bool.and_true,
    Bool.true_and, decide_true]
  cases request.receiptPolicy.legacy with
  | true => simp
  | false => simp

/-- The retention asked for a receipt is, under the newer contract, at least that of the content. -/
theorem receiptRetainUntil_ok (hP : P.Documented) {request : ContentRequest} {content : StoredFacts}
    {date : ISODate} {size : Nat} {storedAt retainUntil asked : Int}
    (hcontent : Reported P content size storedAt retainUntil)
    (h : P.receiptRetainUntil request content date = .ok asked) :
    if request.receiptPolicy.legacy then asked = request.retainUntil else retainUntil ≤ asked := by
  unfold CustodyPlatform.receiptRetainUntil at h
  cases hlegacy : request.receiptPolicy.legacy with
  | true =>
    rw [hlegacy, if_pos rfl] at h
    exact (Except.ok.inj h).symm
  | false =>
    rw [hlegacy, if_neg Bool.false_ne_true, validDate_ok, hP.dateParse _ _ hcontent.retainUntil] at h
    change ((addUtcDays date.time request.receiptPolicy.days).bind fun due =>
      some (max retainUntil due)) = some asked at h
    obtain ⟨due, -, h⟩ := Option.bind_eq_some_iff.1 h
    cases h
    exact le_max_left _ _

/-- A call whose steps all succeed returns a receipt exactly when the times suffice. -/
theorem succeeds_iff (hP : P.Documented) {request : ContentRequest} {content facts : StoredFacts}
    {date : ISODate} {storedAt retainUntil storedAt' retainUntil' asked : Int}
    (h : Succeeds P input env storage request content facts date)
    (hcontent : Reported P content request.bytes.length storedAt retainUntil)
    (hfacts : Reported P facts
      (P.receiptBytes (request.receipt input content date env.receiptId)).length storedAt' retainUntil')
    (hbetween : request.requestedAt.time ≤ storedAt ∧ storedAt ≤ date.time)
    (hasked : P.receiptRetainUntil request content date = .ok asked) (hretain : asked ≤ retainUntil') :
    (∃ receipt, (P.custodyEvidence input env storage).2 = .ok receipt) ↔
      Suffices request.receiptPolicy request.requestedAt.time storedAt retainUntil storedAt'
        retainUntil' := by
  have hrequest := requestContent_ok hP h.requested
  have hdays := selectReceiptPolicy_days hrequest.selected
  have huntil := (addUtcDays_eq_some.1 hrequest.retainUntil).2
  have hminimum : P.minimumRetainUntil (request.receipt input content date env.receiptId) =
      retainUntil := by
    unfold CustodyPlatform.minimumRetainUntil ContentRequest.receipt
    rw [hP.dateParse _ _ hcontent.retainUntil, Option.getD_some]
  have hhigh := (Calendar.ofISOString_range hcontent.retainUntil).2
  have hlow := (Calendar.ofISOString_range hcontent.storedAt).1
  have hleast := receiptRetainUntil_ok hP hcontent hasked
  -- each of the three checks says what the contract says of its times
  have hchecks : ((P.Accepts request.receiptPolicy content request.bytes.length
        request.retainUntil 0 ∧
      P.Accepts request.receiptPolicy facts
        (P.receiptBytes (request.receipt input content date env.receiptId)).length
        request.retainUntil retainUntil) ∧
      receiptComplete P.toPlatform request.receiptPolicy
        (request.receipt input content date env.receiptId) request.contentDigest = true) ↔
      Suffices request.receiptPolicy request.requestedAt.time storedAt retainUntil storedAt'
        retainUntil' := by
    rw [hcontent.accepts hP hdays, hfacts.accepts hP hdays,
      receipt_complete hP hrequest hcontent h.receiptId hbetween.2]
    unfold Suffices
    cases hlegacy : request.receiptPolicy.legacy with
    | true =>
      simp only [if_true]
      omega
    | false =>
      simp only [hlegacy, Bool.false_eq_true, if_false] at hleast ⊢
      omega
  rw [← hchecks]
  constructor
  · rintro ⟨receipt, hok⟩
    obtain ⟨content', facts', date', hc⟩ := (custodyEvidence_ok hP h.requested).1 hok
    obtain rfl : content = content' := by
      have := hc.createContent
      rw [h.createContent] at this
      exact CreateOutcome.answered.inj this
    obtain rfl : facts = facts' := by
      have := hc.createReceipt
      rw [h.createReceipt] at this
      exact CreateOutcome.answered.inj this
    obtain rfl : date = date' := by
      have := hc.readbackAt
      rw [h.readbackAt] at this
      exact Option.some.inj this
    obtain rfl := hc.sent
    exact ⟨⟨hc.contentFacts, hminimum ▸ hc.receiptFacts⟩, (assertCustodyComplete_ok.1 hc.complete).2.1⟩
  · rintro ⟨⟨hfirst, hsecond⟩, hcomplete⟩
    have hdate : ∀ uploadedAt, P.dateParse content.storedAt = some uploadedAt →
        (addUtcDays uploadedAt request.receiptPolicy.days).isSome := by
      intro uploadedAt hparse
      rw [hP.dateParse _ _ hcontent.storedAt] at hparse
      cases hparse
      have hdue := (receipt_complete hP hrequest hcontent h.receiptId hbetween.2).1 hcomplete
      rw [Option.isSome_iff_exists]
      refine ⟨_, addUtcDays_eq_some.2 ⟨?_, rfl⟩⟩
      split_ifs at hdue <;> omega
    exact ⟨_, (custodyEvidence_ok hP h.requested).2 ⟨content, facts, date, h.createContent,
      h.contentFree, hfirst, .inr h.contentMetadata, h.contentRead, h.readbackAt, h.receiptId,
      ⟨asked, hasked⟩, rfl, h.createReceipt, h.receiptFree, hminimum.symm ▸ hsecond,
      .inr h.receiptMetadata, h.receiptRead, assertCustodyComplete_ok.2 ⟨hdate, hcomplete, rfl⟩⟩⟩

/-! ## Soundness, and later calls -/

/-- The value and its receipt are in the store, as canonical bytes. -/
structure InCustody (P : CustodyPlatform) (input : CustodyInput) (storage : Storage)
    (receiptPolicy : ReceiptPolicy) (bytes : List UInt8) (receipt : CustodyReceipt) : Prop where
  selected : selectReceiptPolicy input.receiptContract = .ok receiptPolicy
  canonical : P.canonicalJson input.value = some bytes
  content : (storage.lookup (contentKey (P.sha256Bytes bytes))).map (·.bytes) = some bytes
  stored : (storage.lookup (receiptKey receipt.receiptId)).map (·.bytes) =
    some (P.receiptBytes receipt)
  complete : P.assertCustodyComplete receiptPolicy receipt (P.sha256Bytes bytes) = .ok receipt

theorem custody_sound (hP : P.Documented) {receipt : CustodyReceipt}
    (h : (P.custodyEvidence input env storage).2 = .ok receipt) :
    ∃ receiptPolicy bytes,
      InCustody P input (P.custodyEvidence input env storage).1 receiptPolicy bytes receipt := by
  cases hrequest : P.requestContent input env.uploadStartedAt with
  | error error =>
    unfold CustodyPlatform.custodyEvidence at h
    rw [hrequest] at h
    cases h
  | ok request =>
    have hr := requestContent_ok hP hrequest
    obtain ⟨content, facts, date, hc⟩ := (custodyEvidence_ok hP hrequest).1 h
    have hid : receipt.receiptId = env.receiptId := by rw [hc.sent]; rfl
    refine ⟨request.receiptPolicy, request.bytes, hr.selected, hr.bytes, ?_, ?_, ?_⟩
    · rw [completed_result hP hc hrequest, ← hr.digest, List.lookup_cons,
        beq_false_of_ne (contentKey_ne_receiptKey _ _), List.lookup_cons_self]
      rfl
    · rw [completed_result hP hc hrequest, hid, List.lookup_cons_self]
      rfl
    · exact hr.digest ▸ hc.complete

/-- Content that was created stays in the store, whatever becomes of the call. -/
theorem custody_stored {request : ContentRequest} {facts : StoredFacts}
    (hrequest : P.requestContent input env.uploadStartedAt = .ok request)
    (hcreate : env.createContent = .answered facts)
    (hfree : storage.lookup (contentKey request.contentDigest) = none) :
    (P.custodyEvidence input env storage).1.lookup (contentKey request.contentDigest) =
      some ⟨request.bytes, facts⟩ := by
  unfold CustodyPlatform.custodyEvidence
  rw [hrequest]
  dsimp only
  rw [hcreate, createOnly_answered hfree]
  split
  · exact List.lookup_cons_self
  · exact createOnly_keeps _ List.lookup_cons_self

/-- A value whose content is in the store is refused. -/
theorem custody_refused (hP : P.Documented) {request : ContentRequest}
    {reading : Option ISODate} (hrequest : P.requestContent input reading = .ok request)
    {object : StoredObject} (h : storage.lookup (contentKey request.contentDigest) = some object)
    {input' : CustodyInput} (hvalue : input'.value = input.value) (env' : CustodyEnv) :
    ∃ error, P.custodyEvidence input' env' storage = (storage, .error error) := by
  unfold CustodyPlatform.custodyEvidence
  cases hrequest' : P.requestContent input' env'.uploadStartedAt with
  | error error => exact ⟨error, rfl⟩
  | ok request' =>
    rw [← contentDigest_eq hP hrequest hrequest' hvalue] at h
    obtain ⟨error, htaken⟩ : ∃ error, createOnly (contentKey request'.contentDigest) request'.bytes
      env'.createContent storage = (storage, .error error) := createOnly_taken _ h
    dsimp only
    rw [htaken]
    exact ⟨error, rfl⟩

/-- Custody is sound; a call whose steps all succeed returns a receipt exactly when the store's times
suffice for the contract; and once the content is in the store, a call for its value is refused. -/
theorem custody_exact (hP : P.Documented) (input : CustodyInput) (env : CustodyEnv)
    (storage : Storage) :
    (∀ receipt, (P.custodyEvidence input env storage).2 = .ok receipt →
      ∃ receiptPolicy bytes,
        InCustody P input (P.custodyEvidence input env storage).1 receiptPolicy bytes receipt) ∧
    (∀ request content facts date storedAt retainUntil storedAt' retainUntil' asked,
      Succeeds P input env storage request content facts date →
      Reported P content request.bytes.length storedAt retainUntil →
      Reported P facts
        (P.receiptBytes (request.receipt input content date env.receiptId)).length
        storedAt' retainUntil' →
      request.requestedAt.time ≤ storedAt → storedAt ≤ date.time →
      request.retainUntil ≤ retainUntil →
      P.receiptRetainUntil request content date = .ok asked → asked ≤ retainUntil' →
      ((∃ receipt, (P.custodyEvidence input env storage).2 = .ok receipt) ↔
        Suffices request.receiptPolicy request.requestedAt.time storedAt retainUntil storedAt'
          retainUntil')) ∧
    (∀ request object, P.requestContent input env.uploadStartedAt = .ok request →
      (P.custodyEvidence input env storage).1.lookup (contentKey request.contentDigest) =
        some object →
      ∀ later : Storage, later.lookup (contentKey request.contentDigest) = some object →
      ∀ input' env', input'.value = input.value →
        ∃ error, P.custodyEvidence input' env' later = (later, .error error)) := by
  refine ⟨fun receipt h => custody_sound hP h, ?_, ?_⟩
  · intro request content facts date storedAt retainUntil storedAt' retainUntil' asked h hcontent
      hfacts hfrom hto _ hasked hretain
    exact succeeds_iff hP h hcontent hfacts ⟨hfrom, hto⟩ hasked hretain
  · intro request object hrequest _ later hlater input' env' hvalue
    exact custody_refused hP hrequest hlater hvalue env'

/-! ### A store that writes a millisecond later -/

namespace CustodySample

def sampleText (text : String) : List UInt8 := text.toList.map fun c => UInt8.ofNat c.toNat

/-- Numbers as bytes, each as so many ones and a zero. -/
def sampleNumber (n : Nat) : List UInt8 := List.replicate n 1 ++ [0]

def sampleNumbers (numbers : List (List Nat)) : List UInt8 :=
  numbers.flatMap fun ns => ns.flatMap sampleNumber ++ [2]

def sampleByte (byte : UInt8) (numbers : List (List Nat)) : List (List Nat) :=
  if byte = 2 then [] :: numbers
  else
    match numbers with
    | [] => []
    | ns :: numbers =>
      if byte = 0 then (0 :: ns) :: numbers
      else
        match ns with
        | [] => [] :: numbers
        | n :: ns => ((n + 1) :: ns) :: numbers

theorem sampleNumber_read (n : Nat) {rest : List UInt8} {ns : List Nat} {numbers : List (List Nat)}
    (h : rest.foldr sampleByte [] = ns :: numbers) :
    (sampleNumber n ++ rest).foldr sampleByte [] = (n :: ns) :: numbers := by
  induction n with
  | zero => simp [sampleNumber, sampleByte, h]
  | succ n ih =>
    have hcons : sampleNumber (n + 1) ++ rest = 1 :: (sampleNumber n ++ rest) := rfl
    rw [hcons, List.foldr_cons, ih]
    rfl

theorem sampleNumbers_read (numbers : List (List Nat)) :
    (sampleNumbers numbers).foldr sampleByte [] = numbers := by
  have hline : ∀ (ns : List Nat) (rest : List UInt8) (numbers : List (List Nat)),
      rest.foldr sampleByte [] = numbers →
      (ns.flatMap sampleNumber ++ 2 :: rest).foldr sampleByte [] = ns :: numbers := by
    intro ns rest numbers hrest
    induction ns with
    | nil => simp [sampleByte, hrest]
    | cons n ns ih =>
      rw [List.flatMap_cons, List.append_assoc]
      exact sampleNumber_read n ih
  induction numbers with
  | nil => rfl
  | cons ns numbers ih =>
    have hcons : sampleNumbers (ns :: numbers) =
        ns.flatMap sampleNumber ++ 2 :: sampleNumbers numbers := by
      simp [sampleNumbers]
    rw [hcons]
    exact hline ns _ numbers ih

def sampleLine (text : String) : List Nat := text.toList.map Char.toNat

def sampleLine? (line : List Nat) : String := String.ofList (line.map Char.ofNat)

theorem sampleLine_read (text : String) : sampleLine? (sampleLine text) = text := by
  simp [sampleLine, sampleLine?, Function.comp_def]

def sampleLines (receipt : CustodyReceipt) : List (List Nat) :=
  [if receipt.contentSizeBytes < 0 then 1 else 0, receipt.contentSizeBytes.natAbs] ::
    ([receipt.attestationRef, receipt.contentDigest, receipt.expiryDisposition, receipt.owner,
      receipt.readbackAt, receipt.readbackDigest, receipt.receiptId, receipt.retainUntil,
      receipt.schemaVersion, receipt.storeRef, receipt.uploadedAt] ++ receipt.readers).map sampleLine

def sampleLines? (lines : List (List Nat)) : Option CustodyReceipt :=
  match lines with
  | [sign, size] :: lines =>
    match lines.map sampleLine? with
    | a :: b :: c :: d :: e :: f :: g :: h :: i :: j :: k :: readers =>
      some ⟨a, b, if sign = 1 then -size else size, c, d, e, f, readers, g, h, i, j, k⟩
    | _ => none
  | _ => none

theorem sampleLines_read (receipt : CustodyReceipt) :
    sampleLines? (sampleLines receipt) = some receipt := by
  have hlines : ∀ texts : List String, (texts.map sampleLine).map sampleLine? = texts := by
    intro texts
    rw [List.map_map]
    exact (List.map_congr_left fun text _ => sampleLine_read text).trans (List.map_id texts)
  have hsize : (if (if receipt.contentSizeBytes < 0 then 1 else 0) = 1 then
      -(receipt.contentSizeBytes.natAbs : Int) else receipt.contentSizeBytes.natAbs) =
      receipt.contentSizeBytes := by
    by_cases hneg : receipt.contentSizeBytes < 0
    · rw [if_pos hneg, if_pos rfl]
      omega
    · rw [if_neg hneg, if_neg Nat.zero_ne_one]
      omega
  unfold sampleLines sampleLines?
  dsimp only
  rw [hlines]
  dsimp only [List.cons_append, List.nil_append]
  rw [hsize]

def sampleContent : String := "\x7b\"operationId\":\"operation-1\"\x7d"

def sampleContentDigest : String :=
  "sha256:e086c7c74da97db8b2a4092d3c29714b602d0eba45d57ba57a9e41834ee2d74a"

/-- The receipt of content that is stored so many milliseconds after eight, in one digit. -/
def sampleCustodyReceipt (digit : String) : CustodyReceipt :=
  { attestationRef := "attestation://release/operation-1"
    contentDigest := sampleContentDigest
    contentSizeBytes := 29
    expiryDisposition := "review"
    owner := "release-engineering"
    readbackAt := "2026-09-02T08:00:01.000Z"
    readbackDigest := sampleContentDigest
    readers := ["release", "audit"]
    receiptId := "90d96a42-b007-4050-9c86-7d98a926a1d0"
    retainUntil := "2027-03-01T08:00:00.000Z"
    schemaVersion := "custody-receipt.v1"
    storeRef := "memory://evidence"
    uploadedAt := "2026-09-02T08:00:00.00" ++ digit ++ "Z" }

/-- The canonical JSON of that receipt, up to the digit. -/
def sampleReceiptStart : List String :=
  ["\x7b", "\"attestationRef\":\"attestation://release/operation-1\",", "\"contentDigest\":\"",
    sampleContentDigest, "\",\"contentSizeBytes\":29,\"expiryDisposition\":\"review\",",
    "\"owner\":\"release-engineering\",\"readbackAt\":\"2026-09-02T08:00:01.000Z\",",
    "\"readbackDigest\":\"", sampleContentDigest, "\",\"readers\":[\"release\",\"audit\"],",
    "\"receiptId\":\"90d96a42-b007-4050-9c86-7d98a926a1d0\",",
    "\"retainUntil\":\"2027-03-01T08:00:00.000Z\",\"schemaVersion\":\"custody-receipt.v1\",",
    "\"storeRef\":\"memory://evidence\",\"uploadedAt\":\"2026-09-02T08:00:00.00"]

def sampleReceiptText (digit : String) : List UInt8 :=
  sampleReceiptStart.flatMap sampleText ++ sampleText (digit ++ "Z\"\x7d")

/-- Two receipts have the bytes given for them, and others are written as numbers. -/
def receiptBytesOf (receipt₀ receipt₁ : CustodyReceipt) (bytes₀ bytes₁ : List UInt8)
    (receipt : CustodyReceipt) : List UInt8 :=
  if receipt = receipt₀ then bytes₀ else if receipt = receipt₁ then bytes₁
  else 0 :: sampleNumbers (sampleLines receipt)

def receiptOfBytes (receipt₀ receipt₁ : CustodyReceipt) (bytes₀ bytes : List UInt8) :
    Option CustodyReceipt :=
  if bytes.head? = some 0 then sampleLines? (bytes.tail.foldr sampleByte [])
  else if bytes = bytes₀ then some receipt₀ else some receipt₁

theorem receiptOfBytes_read {receipt₀ receipt₁ : CustodyReceipt} {bytes₀ bytes₁ : List UInt8}
    (h₀ : bytes₀.head? ≠ some 0) (h₁ : bytes₁.head? ≠ some 0) (hne : bytes₁ ≠ bytes₀)
    (receipt : CustodyReceipt) :
    receiptOfBytes receipt₀ receipt₁ bytes₀
      (receiptBytesOf receipt₀ receipt₁ bytes₀ bytes₁ receipt) = some receipt := by
  unfold receiptBytesOf receiptOfBytes
  by_cases hr₀ : receipt = receipt₀
  · rw [if_pos hr₀, if_neg h₀, if_pos rfl, hr₀]
  · by_cases hr₁ : receipt = receipt₁
    · rw [if_neg hr₀, if_pos hr₁, if_neg h₁, if_neg hne, hr₁]
    · rw [if_neg hr₀, if_neg hr₁, List.head?_cons, if_pos rfl, List.tail_cons, sampleNumbers_read,
        sampleLines_read]

/-- The platform on the sample's value and receipts. -/
def samplePlatform : CustodyPlatform :=
  { sha256Artifact := fun _ => sampleContentDigest
    sha256Policy := fun _ => sampleContentDigest
    validPolicy := fun _ => true
    validArtifact := fun _ => true
    localeCompare := fun left right => if left < right then -1 else if left = right then 0 else 1
    forbiddenValue := fun _ => false
    dateParse := Calendar.ofISOString
    sha256Bytes := fun bytes =>
      if bytes = sampleText sampleContent then sampleContentDigest
      else if bytes = sampleReceiptText "0" then
        "sha256:184e5b5234c28ecd317d85c3c2b376ca36fe14a6f2e01c8367aba06b378e276f"
      else "sha256:b39ca031073a03de53399f7e6200f7d34134ad8576eb0881d7a79a69cd0e5f77"
    canonicalJson := fun value =>
      match value with
      | .object [("operationId", .text "operation-1")] => some (sampleText sampleContent)
      | _ => none
    parseJson := fun bytes =>
      if bytes = sampleText sampleContent then
        some (.object [("operationId", .text "operation-1")])
      else none
    receiptBytes := receiptBytesOf (sampleCustodyReceipt "0") (sampleCustodyReceipt "1")
      (sampleReceiptText "0") (sampleReceiptText "1")
    parseReceipt := receiptOfBytes (sampleCustodyReceipt "0") (sampleCustodyReceipt "1")
      (sampleReceiptText "0") }

theorem samplePlatform_canonicalJson {value : Json} {bytes : List UInt8}
    (h : samplePlatform.canonicalJson value = some bytes) : bytes = sampleText sampleContent := by
  unfold samplePlatform at h
  dsimp only at h
  split at h
  · exact (Option.some.inj h).symm
  · cases h

theorem sampleReceiptText_head (digit : String) : (sampleReceiptText digit).head? ≠ some 0 := by
  have hbrace : sampleText "\x7b" = [123] := by decide
  unfold sampleReceiptText sampleReceiptStart
  rw [List.flatMap_cons, hbrace]
  change some (123 : UInt8) ≠ some 0
  decide

theorem sampleReceiptText_ne : sampleReceiptText "1" ≠ sampleReceiptText "0" := by
  intro h
  have hend : sampleText ("1" ++ "Z\"\x7d") ≠ sampleText ("0" ++ "Z\"\x7d") := by decide
  exact hend (List.append_cancel_left h)

theorem samplePlatform_parseReceipt (receipt : CustodyReceipt) :
    samplePlatform.parseReceipt (samplePlatform.receiptBytes receipt) = some receipt := by
  unfold samplePlatform
  dsimp only
  exact receiptOfBytes_read (sampleReceiptText_head "0") (sampleReceiptText_head "1")
    sampleReceiptText_ne receipt

/-- The texts of the sample that have to be digests or identifiers are. -/
theorem sampleDigests_ok : digestPattern sampleContentDigest = true ∧
    digestPattern "sha256:184e5b5234c28ecd317d85c3c2b376ca36fe14a6f2e01c8367aba06b378e276f" = true ∧
    digestPattern "sha256:b39ca031073a03de53399f7e6200f7d34134ad8576eb0881d7a79a69cd0e5f77" = true ∧
    uuidPattern "90d96a42-b007-4050-9c86-7d98a926a1d0" = true := by
  decide

theorem samplePlatform_digest (bytes : List UInt8) :
    digestPattern (samplePlatform.sha256Bytes bytes) = true := by
  have hif (c : Prop) [Decidable c] (a b : String) (ha : digestPattern a = true)
      (hb : digestPattern b = true) : digestPattern (if c then a else b) = true := by
    split_ifs
    · exact ha
    · exact hb
  obtain ⟨hcontent, hfirst, hsecond, -⟩ := sampleDigests_ok
  exact hif _ _ _ hcontent (hif _ _ _ hfirst hsecond)

theorem samplePlatform_documented : samplePlatform.Documented := by
  refine ⟨fun _ _ h => h, ?_, samplePlatform_parseReceipt, samplePlatform_digest⟩
  intro value bytes h
  obtain rfl := samplePlatform_canonicalJson h
  refine ⟨.object [("operationId", .text "operation-1")], ?_, rfl⟩
  unfold samplePlatform
  dsimp only
  rw [if_pos rfl]

def sampleInput : CustodyInput :=
  { value := .object [("operationId", .text "operation-1")]
    policy := ⟨"release-engineering", ["release", "audit"], 180, "review"⟩
    trustPolicy := "immutable-content-addressed/v1"
    writerIdentity := "protected-ci-writer"
    auditReaderIdentity := "audit-reader"
    readMetadata := false
    attestationRef := "attestation://release/operation-1"
    receiptContract := "custody-receipt.v1" }

def sampleStart : ISODate := ⟨"2026-09-02T08:00:00.000Z", 1788336000000, by decide⟩

def sampleReadback : ISODate := ⟨"2026-09-02T08:00:01.000Z", 1788336001000, by decide⟩

/-- The other dates of the sample. -/
theorem sampleDates_read :
    Calendar.ofISOString ("2026-09-02T08:00:00.00" ++ "0" ++ "Z") = some 1788336000000 ∧
      Calendar.ofISOString ("2026-09-02T08:00:00.00" ++ "1" ++ "Z") = some 1788336000001 ∧
      Calendar.ofISOString "2027-03-01T08:00:00.000Z" = some 1803888000000 := by
  decide

def sampleContentFacts (digit : String) : StoredFacts :=
  ⟨"memory://evidence", 29, "2026-09-02T08:00:00.00" ++ digit ++ "Z", "2027-03-01T08:00:00.000Z"⟩

def sampleReceiptFacts : StoredFacts :=
  ⟨"memory://receipts", 586, "2026-09-02T08:00:01.000Z", "2027-03-01T08:00:00.000Z"⟩

/-- Every step succeeds, and the store keeps both objects as long as it was asked to. -/
def sampleEnv (digit : String) : CustodyEnv :=
  { uploadStartedAt := some sampleStart
    createContent := .answered (sampleContentFacts digit)
    contentMetadata := true
    contentRead := true
    readbackAt := some sampleReadback
    receiptId := "90d96a42-b007-4050-9c86-7d98a926a1d0"
    createReceipt := .answered sampleReceiptFacts
    receiptMetadata := true
    receiptRead := true }

def sampleRequest : ContentRequest :=
  { receiptPolicy := ⟨"custody-receipt.v1", 180, true⟩
    bytes := sampleText sampleContent
    contentDigest := sampleContentDigest
    requestedAt := sampleStart
    retainUntil := 1803888000000 }

theorem sampleRequest_ok :
    samplePlatform.requestContent sampleInput (some sampleStart) = .ok sampleRequest := by
  decide

theorem sampleEnv_succeeds (digit : String) : Succeeds samplePlatform sampleInput (sampleEnv digit)
    [] sampleRequest (sampleContentFacts digit) sampleReceiptFacts sampleReadback :=
  { requested := sampleRequest_ok
    contentFree := rfl
    receiptFree := rfl
    createContent := rfl
    contentMetadata := rfl
    contentRead := rfl
    readbackAt := rfl
    receiptId := sampleDigests_ok.2.2.2
    createReceipt := rfl
    receiptMetadata := rfl
    receiptRead := rfl }

theorem sampleContentFacts_reported : Reported samplePlatform (sampleContentFacts "0")
      sampleRequest.bytes.length 1788336000000 1803888000000 ∧
    Reported samplePlatform (sampleContentFacts "1") sampleRequest.bytes.length 1788336000001
      1803888000000 := by
  obtain ⟨hfirst, hsecond, hretain⟩ := sampleDates_read
  have hsize : (29 : Int) = sampleRequest.bytes.length := by decide
  exact ⟨⟨by decide, rfl, hsize, hfirst, hretain⟩, ⟨by decide, rfl, hsize, hsecond, hretain⟩⟩

/-- The receipt that the call makes. -/
def sampleReceipt (digit : String) : CustodyReceipt :=
  sampleRequest.receipt sampleInput (sampleContentFacts digit) sampleReadback
    (sampleEnv digit).receiptId

theorem sampleReceipt_eq (digit : String) : sampleReceipt digit = sampleCustodyReceipt digit := by
  have hsize : (sampleRequest.bytes.length : Int) = 29 := sampleContentFacts_reported.1.size.symm
  unfold sampleReceipt ContentRequest.receipt
  rw [hsize]
  rfl

theorem sampleReceipt_ne : sampleCustodyReceipt "1" ≠ sampleCustodyReceipt "0" := by
  intro h
  have huploaded : (sampleCustodyReceipt "1").uploadedAt ≠ (sampleCustodyReceipt "0").uploadedAt := by
    decide +kernel
  exact huploaded (congrArg CustodyReceipt.uploadedAt h)

theorem sampleText_length (text : String) : (sampleText text).length = text.length := by
  rw [sampleText, List.length_map, String.length_toList]

theorem sampleReceiptText_length :
    (sampleReceiptText "0").length = 586 ∧ (sampleReceiptText "1").length = 586 := by
  unfold sampleReceiptText
  rw [List.length_append, List.length_append, List.length_flatMap]
  simp only [sampleText_length]
  decide +kernel

/-- Both receipts have as many bytes as the store reports. -/
theorem sampleReceiptFacts_size :
    sampleReceiptFacts.contentSizeBytes =
        (samplePlatform.receiptBytes (sampleReceipt "0")).length ∧
      sampleReceiptFacts.contentSizeBytes =
        (samplePlatform.receiptBytes (sampleReceipt "1")).length := by
  rw [sampleReceipt_eq, sampleReceipt_eq]
  unfold samplePlatform receiptBytesOf
  dsimp only
  rw [if_pos rfl, if_neg sampleReceipt_ne, if_pos rfl, sampleReceiptText_length.1,
    sampleReceiptText_length.2]
  exact ⟨rfl, rfl⟩

theorem sampleReceiptFacts_reported {size : Nat} (h : sampleReceiptFacts.contentSizeBytes = size) :
    Reported samplePlatform sampleReceiptFacts size 1788336001000 1803888000000 :=
  ⟨by decide, rfl, h, sampleReadback.canonical, sampleDates_read.2.2⟩

theorem sampleEnv_stored (digit : String) :
    (samplePlatform.custodyEvidence sampleInput (sampleEnv digit) []).1.lookup
      (contentKey sampleRequest.contentDigest) =
        some ⟨sampleRequest.bytes, sampleContentFacts digit⟩ :=
  custody_stored sampleRequest_ok rfl rfl

/-- Where the store writes at the very time of the clock's reading, the receipt is returned, and the
next call is refused. -/
theorem custody_exact_sample :
    (∃ receipt, (samplePlatform.custodyEvidence sampleInput (sampleEnv "0") []).2 = .ok receipt) ∧
    ∃ error, samplePlatform.custodyEvidence sampleInput (sampleEnv "0")
      (samplePlatform.custodyEvidence sampleInput (sampleEnv "0") []).1 =
        ((samplePlatform.custodyEvidence sampleInput (sampleEnv "0") []).1, .error error) := by
  obtain ⟨-, hexact, hlater⟩ :=
    custody_exact samplePlatform_documented sampleInput (sampleEnv "0") []
  constructor
  · have hreported := sampleReceiptFacts_reported sampleReceiptFacts_size.1
    have htimes : sampleRequest.requestedAt.time ≤ 1788336000000 ∧
        1788336000000 ≤ sampleReadback.time ∧ sampleRequest.retainUntil ≤ 1803888000000 := by decide
    refine (hexact sampleRequest (sampleContentFacts "0") sampleReceiptFacts sampleReadback
      1788336000000 1803888000000 1788336001000 1803888000000 1803888000000 (sampleEnv_succeeds "0")
      sampleContentFacts_reported.1 hreported htimes.1 htimes.2.1 htimes.2.2 rfl le_rfl).2 ?_
    exact ⟨rfl, rfl, rfl⟩
  · have hobject := sampleEnv_stored "0"
    exact hlater sampleRequest _ sampleRequest_ok hobject _ hobject sampleInput _ rfl

/-- Where the store writes a millisecond later, every step succeeds and the content is stored, but no
receipt is returned, now or later. -/
theorem custody_not_completed :
    (samplePlatform.Documented ∧
      Succeeds samplePlatform sampleInput (sampleEnv "1") [] sampleRequest (sampleContentFacts "1")
        sampleReceiptFacts sampleReadback ∧
      Reported samplePlatform (sampleContentFacts "1") sampleRequest.bytes.length 1788336000001
        1803888000000 ∧
      sampleStart.time ≤ 1788336000001 ∧ 1788336000001 ≤ sampleReadback.time ∧
      sampleRequest.retainUntil = 1803888000000 ∧
      Reported samplePlatform sampleReceiptFacts
        (samplePlatform.receiptBytes (sampleReceipt "1")).length 1788336001000 1803888000000) ∧
    (∀ receipt,
      (samplePlatform.custodyEvidence sampleInput (sampleEnv "1") []).2 ≠ .ok receipt) ∧
    (samplePlatform.custodyEvidence sampleInput (sampleEnv "1") []).1.lookup
      (contentKey sampleRequest.contentDigest) =
        some ⟨sampleRequest.bytes, sampleContentFacts "1"⟩ ∧
    ∀ env', ∃ error, samplePlatform.custodyEvidence sampleInput env'
      (samplePlatform.custodyEvidence sampleInput (sampleEnv "1") []).1 =
        ((samplePlatform.custodyEvidence sampleInput (sampleEnv "1") []).1, .error error) := by
  have htimes : sampleStart.time ≤ 1788336000001 ∧ 1788336000001 ≤ sampleReadback.time := by decide
  have hreported := sampleReceiptFacts_reported sampleReceiptFacts_size.2
  have hobject := sampleEnv_stored "1"
  refine ⟨⟨samplePlatform_documented, sampleEnv_succeeds "1", sampleContentFacts_reported.2, htimes.1,
    htimes.2, rfl, hreported⟩, ?_, hobject, ?_⟩
  · intro receipt hok
    have hasked : samplePlatform.receiptRetainUntil sampleRequest (sampleContentFacts "1")
        sampleReadback = .ok 1803888000000 := rfl
    have hsuffices := (succeeds_iff samplePlatform_documented (sampleEnv_succeeds "1")
      sampleContentFacts_reported.2 hreported htimes hasked le_rfl).1 ⟨receipt, hok⟩
    exact absurd hsuffices.1 (by decide)
  · intro env'
    exact custody_refused samplePlatform_documented sampleRequest_ok hobject rfl env'

end CustodySample

end SubscriptionSaas.Release
