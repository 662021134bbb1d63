import Hivra.Host.PeerIndex
import Hivra.Host.PumpRuns

namespace Hivra

open JsonDocument DeliveryOutbox

namespace DeliveryLifecycle

/-!
# The receipts of a delivery cycle

A retry answers a code and a text of receipts.  The receipts are looked at twice: once for one
that matches the item, and once for whether there are any.  The item is published where one
matches, superseded where the code is good and none is seen, and tried again later where the
code is bad; a text that is no list of receipts counts as none.
-/

section Receipts

variable {Double : Type} (dart : DartRuntime Double)

/-- A byte of a recipient. -/
def recipientByte : DartValue Double → Option UInt8
  | .num (.inl value) => byteOfInt value
  | _ => none

def recipientHex : Option (DartValue Double) → Option String
  | some (.arr items) =>
    if items.length = 32 then (items.mapM recipientByte).map hexText else none
  | _ => none

def boundedText (raw : Option (DartValue Double)) : Option String :=
  boundedReceiptText (displayText dart raw)

/-- A text that is the reference of an item. -/
def referenceMatches (receiptReference : Option String) (item : DeliveryOutboxItem) : Bool :=
  match item.deliveryReference with
  | none => false
  | some expected => receiptReference.map trimmedLower == some expected

def labelMatchesKind (label kind : String) : Bool :=
  match kind with
  | "InvitationSent" => label == "InvitationSent" || label == "InvitationSentRetry"
  | "InvitationTerminal" =>
    label == "InvitationAccepted" || label == "InvitationAcceptedRetry" ||
      label == "InvitationRejected" || label == "InvitationRejectedRetry" ||
      label == "InvitationExpired" || label == "InvitationExpiredRetry"
  | "RelationshipBroken" => label == "RelationshipBroken" || label == "RelationshipBrokenRetry"
  | _ => false

/-- The evidence in a receipt, if it is complete. -/
def receiptEvidence (receipt : List (String × DartValue Double)) : Option PublicationEvidence :=
  match recipientHex (receipt.lookup "recipient"), boundedText dart (receipt.lookup "accepted_by"),
      boundedText dart (receipt.lookup "envelope_id"), countMember receipt "message_kind",
      countMember receipt "failed_before_accept" with
  | some recipientHex, some acceptedBy, some envelopeId, some messageKind,
      some failedBeforeAccept =>
    some {
      recipientHex
      adapterAcceptedBy := acceptedBy
      adapterEnvelopeId := envelopeId
      adapterMessageKind := messageKind
      adapterFailedBeforeAccept := failedBeforeAccept
      publishedAt := 0 }
  | _, _, _, _, _ => none

/-- An entry is about an item: its transport, a label of its kind, and its reference. -/
def isAbout (item : DeliveryOutboxItem) (raw receipt : List (String × DartValue Double)) : Bool :=
  displayText dart (receipt.lookup "transport") == some item.transport &&
    labelMatchesKind ((displayText dart (raw.lookup "label")).getD "") item.kind &&
    referenceMatches (displayText dart (raw.lookup "correlation_id_hex")) item

/-- The evidence of an entry for an item. -/
def entryEvidence (item : DeliveryOutboxItem) : DartValue Double → Option PublicationEvidence
  | .obj raw =>
    match raw.lookup "receipt" with
    | some (.obj receipt) => if isAbout dart item raw receipt then receiptEvidence dart receipt else none
    | _ => none
  | _ => none

/-- The receipts of a text, none where it is no object with a list of them.  A missing text and
    an empty one have no document. -/
def listedReceipts : Option StoredText → Option (List (DartValue Double))
  | some (.json doc) =>
    match jsonDecode dart doc with
    | .obj members =>
      match members.lookup "receipts" with
      | some (.arr entries) => some entries
      | _ => none
    | _ => none
  | _ => none

/-- The evidence of the first receipt that matches. -/
def matchingReceiptEvidence (receipts : Option StoredText) (item : DeliveryOutboxItem) :
    Option PublicationEvidence :=
  ((listedReceipts dart receipts).getD []).findSome? (entryEvidence dart item)

def hasAnyReceipt (receipts : Option StoredText) : Bool :=
  match listedReceipts dart receipts with
  | some entries => !entries.isEmpty
  | none => false

/-! ### What the receipts say -/

/-- A listed receipt confirms an item. -/
def Confirms (item : DeliveryOutboxItem) (raw receipt : List (String × DartValue Double)) : Prop :=
  displayText dart (receipt.lookup "transport") = some item.transport ∧
    labelMatchesKind ((displayText dart (raw.lookup "label")).getD "") item.kind = true ∧
    (∃ reference ∈ item.deliveryReference,
      (displayText dart (raw.lookup "correlation_id_hex")).map trimmedLower = some reference) ∧
    (receiptEvidence dart receipt).isSome = true

/-- Some listed receipt confirms an item. -/
def Confirmed (receipts : Option StoredText) (item : DeliveryOutboxItem) : Prop :=
  ∃ entries ∈ listedReceipts dart receipts, ∃ raw, .obj raw ∈ entries ∧
    ∃ receipt, raw.lookup "receipt" = some (.obj receipt) ∧ Confirms dart item raw receipt

/-- The adapter reported no receipt: there is no text, or it is a list of none. -/
def ReportsNone (receipts : Option StoredText) : Prop :=
  receipts = none ∨ listedReceipts dart receipts = some []

variable {dart} {item : DeliveryOutboxItem}

theorem isAbout_iff {raw receipt : List (String × DartValue Double)} :
    isAbout dart item raw receipt = true ∧ (receiptEvidence dart receipt).isSome = true ↔
      Confirms dart item raw receipt := by
  unfold isAbout Confirms referenceMatches
  cases item.deliveryReference with
  | none => simp
  | some reference => simp [and_assoc]

variable {receipts : Option StoredText}

/-- **When a receipt confirms an item.** -/
theorem matchingReceiptEvidence_isSome_iff :
    (matchingReceiptEvidence dart receipts item).isSome = true ↔ Confirmed dart receipts item := by
  unfold matchingReceiptEvidence Confirmed
  rw [List.findSome?_isSome_iff]
  cases hlisted : listedReceipts dart receipts with
  | none => simp
  | some entries =>
    simp only [Option.getD_some, Option.mem_def, Option.some.injEq, exists_eq_left']
    constructor
    · rintro ⟨entry, hentry, hsome⟩
      unfold entryEvidence at hsome
      split at hsome
      · rename_i raw
        split at hsome
        · rename_i receipt hreceipt
          split_ifs at hsome with habout
          · exact ⟨raw, hentry, receipt, hreceipt, isAbout_iff.mp ⟨habout, hsome⟩⟩
          · cases hsome
        · cases hsome
      · cases hsome
    · rintro ⟨raw, hentry, receipt, hreceipt, hconfirms⟩
      refine ⟨.obj raw, hentry, ?_⟩
      obtain ⟨habout, hsome⟩ := isAbout_iff.mpr hconfirms
      rw [entryEvidence, hreceipt]
      dsimp only
      rw [if_pos habout]
      exact hsome

/-- The bytes of a recipient are as many as its items. -/
theorem length_recipient {items : List (DartValue Double)} {bytes : List UInt8}
    (h : items.mapM recipientByte = some bytes) : bytes.length = items.length := by
  induction items generalizing bytes with
  | nil =>
    cases h
    rfl
  | cons item rest ih =>
    rw [List.mapM_cons] at h
    cases hbyte : recipientByte item with
    | none => simp [hbyte] at h
    | some byte =>
      cases hrest : rest.mapM recipientByte with
      | none => simp [hbyte, hrest] at h
      | some others =>
        simp only [hbyte, hrest, Option.pure_def, Option.bind_eq_bind, Option.bind_some,
          Option.some.injEq] at h
        rw [← h, List.length_cons, List.length_cons, ih hrest]

variable {evidence : PublicationEvidence}

/-- Evidence that is read is complete. -/
theorem complete_of_receiptEvidence {receipt : List (String × DartValue Double)}
    (h : receiptEvidence dart receipt = some evidence) : evidence.complete = true := by
  have hbounded : ∀ {raw : Option (DartValue Double)} {text : String},
      boundedText dart raw = some text → (boundedReceiptText (some text)).isSome = true := by
    intro raw text htext
    have hagain := boundedReceiptText_idem (displayText dart raw)
    rw [boundedText] at htext
    rw [htext] at hagain
    rw [hagain]
    rfl
  have hrecipient : ∀ {raw : Option (DartValue Double)} {text : String},
      recipientHex raw = some text →
        (normalizeDeliveryReference (some text)).isSome = true := by
    intro raw text htext
    unfold recipientHex at htext
    split at htext
    · split_ifs at htext with hlength
      obtain ⟨bytes, hbytes, rfl⟩ := Option.map_eq_some_iff.mp htext
      have hhex := isHex64_hexText ((length_recipient hbytes).trans hlength)
      rw [normalizeDeliveryReference, Option.map_some, trimmedLower_hexText, Option.filter_some,
        if_pos hhex]
      rfl
    · cases htext
  unfold receiptEvidence at h
  split at h
  · rename_i hto haccepted henvelope _ _
    rw [← Option.some.inj h, PublicationEvidence.complete]
    simp [hrecipient hto, hbounded haccepted, hbounded henvelope]
  · cases h

theorem complete_of_matching (h : matchingReceiptEvidence dart receipts item = some evidence) :
    evidence.complete = true := by
  obtain ⟨entry, -, hentry⟩ := List.exists_of_findSome?_eq_some h
  unfold entryEvidence at hentry
  split at hentry
  · split at hentry
    · split_ifs at hentry
      exact complete_of_receiptEvidence hentry
    · cases hentry
  · cases hentry

end Receipts

/-! ### The cycle -/

section Cycle

variable {Double : Type} (setup : LifecycleSetup Double) (now : ℤ) (item : DeliveryOutboxItem)
  (code : ℤ) (lastError : Option String) (deliveryReceiptsJson : Option StoredText)

/-- What a retry answers, as the cycle of an item reads it. -/
def cycleResult : CapsuleDeliveryCycleResult where
  code := code
  lastError := lastError
  evidence :=
    match h : matchingReceiptEvidence setup.outbox.toDartRuntime deliveryReceiptsJson item with
    | some evidence => some ⟨evidence, complete_of_matching h⟩
    | none => none
  anyReceipt := hasAnyReceipt setup.outbox.toDartRuntime deliveryReceiptsJson

/-- The mark a cycle makes. -/
def cycleMark : Option OutboxCall :=
  recordItemCycle setup now item (cycleResult setup item code lastError deliveryReceiptsJson)

/-- What the mark of a cycle makes of the item. -/
def recorded : List DeliveryOutboxItem :=
  ((cycleMark setup now item code lastError deliveryReceiptsJson).bind
    (transform setup.outbox setup.capsuleHex [item])).getD [item]

/-- A cycle publishes only what is confirmed, supersedes only what the adapter reported no
    receipt for, and puts everything else off; the item is not due again at once. -/
structure SoundCycle : Prop where
  published : ∀ itemId nextAttemptAt evidence,
    cycleMark setup now item code lastError deliveryReceiptsJson
        = some (.markPublished itemId nextAttemptAt evidence) →
      Confirmed setup.outbox.toDartRuntime deliveryReceiptsJson item
  superseded : ∀ itemId,
    cycleMark setup now item code lastError deliveryReceiptsJson = some (.markSuperseded itemId) →
      0 ≤ code ∧ ReportsNone setup.outbox.toDartRuntime deliveryReceiptsJson
  otherwise : (∀ itemId nextAttemptAt evidence,
      cycleMark setup now item code lastError deliveryReceiptsJson
        ≠ some (.markPublished itemId nextAttemptAt evidence)) →
    (∀ itemId,
      cycleMark setup now item code lastError deliveryReceiptsJson ≠ some (.markSuperseded itemId)) →
    ∀ after ∈ recorded setup now item code lastError deliveryReceiptsJson,
      after.status = item.status ∧ now < after.nextAttemptAt
  backoff : ∀ after ∈ recorded setup now item code lastError deliveryReceiptsJson,
    isDue now after = false

/-- A receipt confirms the item, or the code is good and the adapter reported no receipt, or
    the code is bad and the delay is positive, or the code is good, there are receipts, and the
    item is not due anyway. -/
def CycleDecides : Prop :=
  Confirmed setup.outbox.toDartRuntime deliveryReceiptsJson item ∨
    (0 ≤ code ∧ ReportsNone setup.outbox.toDartRuntime deliveryReceiptsJson) ∨
    (code < 0 ∧ 0 < backoffFor setup item.nextAttempts) ∨
    0 ≤ code ∧ (∃ entry rest, listedReceipts setup.outbox.toDartRuntime deliveryReceiptsJson
      = some (entry :: rest)) ∧ now < item.nextAttemptAt

variable {setup now item code lastError deliveryReceiptsJson}

theorem cycleResult_evidence_isSome :
    (cycleResult setup item code lastError deliveryReceiptsJson).evidence.isSome = true ↔
      Confirmed setup.outbox.toDartRuntime deliveryReceiptsJson item := by
  rw [← matchingReceiptEvidence_isSome_iff]
  unfold cycleResult
  dsimp only
  split <;> simp_all

theorem transform_single (call : OutboxCall) (change : DeliveryOutboxItem → DeliveryOutboxItem)
    (h : transform setup.outbox setup.capsuleHex [item] call
      = some (changeItem item.id change [item])) :
    (some call).bind (transform setup.outbox setup.capsuleHex [item]) = some [change item] := by
  rw [Option.bind_some, h, changeItem, List.map_singleton, if_pos rfl]

/-- **When a cycle neither drops an obligation nor leaves it due.** -/
theorem recordItemCycle_sound_iff (setup : LifecycleSetup Double) (now : ℤ)
    (item : DeliveryOutboxItem) (code : ℤ) (lastError : Option String)
    (deliveryReceiptsJson : Option StoredText) :
    SoundCycle setup now item code lastError deliveryReceiptsJson ↔
      CycleDecides setup now item code deliveryReceiptsJson := by
  have hconfirmed := @cycleResult_evidence_isSome _ setup item code lastError deliveryReceiptsJson
  unfold CycleDecides
  cases hevidence : (cycleResult setup item code lastError deliveryReceiptsJson).evidence with
  | some evidence =>
    rw [hevidence] at hconfirmed
    have hyes := hconfirmed.mp rfl
    -- the mark publishes, and a published item is never due
    have hmark : cycleMark setup now item code lastError deliveryReceiptsJson
        = some (.markPublished item.id (now + backoffFor setup item.nextAttempts)
            { evidence.val with publishedAt := now }) := by
      rw [cycleMark, recordItemCycle, hevidence]
    refine ⟨fun _ => Or.inl hyes, fun _ => ⟨fun _ _ _ _ => hyes, ?_, ?_, ?_⟩⟩
    · intro itemId h
      rw [hmark] at h
      cases h
    · intro h
      exact absurd hmark (h _ _ _)
    · intro after hafter
      rw [recorded, hmark, transform_single _ (publishedItem _ _) rfl, Option.getD_some,
        List.mem_singleton] at hafter
      rw [hafter]
      rfl
  | none =>
    rw [hevidence] at hconfirmed
    have hno : ¬ Confirmed setup.outbox.toDartRuntime deliveryReceiptsJson item := by
      intro hyes
      exact absurd (hconfirmed.mpr hyes) (by simp)
    by_cases hcode : 0 ≤ code
    · have hbad : ¬ code < 0 := by omega
      cases hany : hasAnyReceipt setup.outbox.toDartRuntime deliveryReceiptsJson with
      | true =>
        -- receipts that match nothing leave the item as it is
        have hmark : cycleMark setup now item code lastError deliveryReceiptsJson = none := by
          rw [cycleMark, recordItemCycle, hevidence]
          show (if 0 ≤ code then if hasAnyReceipt _ _ = true then none else _ else _) = _
          rw [if_pos hcode, if_pos hany]
        have hlisted : ∃ entry rest, listedReceipts setup.outbox.toDartRuntime deliveryReceiptsJson
            = some (entry :: rest) := by
          unfold hasAnyReceipt at hany
          cases hlist : listedReceipts setup.outbox.toDartRuntime deliveryReceiptsJson with
          | none => simp [hlist] at hany
          | some entries =>
            cases entries with
            | nil => simp [hlist] at hany
            | cons entry rest => exact ⟨entry, rest, rfl⟩
        have hreports : ¬ ReportsNone setup.outbox.toDartRuntime deliveryReceiptsJson := by
          obtain ⟨entry, rest, hlist⟩ := hlisted
          rintro (hnone | hempty)
          · rw [hnone] at hlist
            cases hlist
          · rw [hempty] at hlist
            cases hlist
        have hrecorded : recorded setup now item code lastError deliveryReceiptsJson = [item] := by
          rw [recorded, hmark]
          rfl
        constructor
        · intro hsound
          have hlater := (hsound.otherwise (by simp [hmark]) (by simp [hmark]) item
            (by rw [hrecorded]; exact List.mem_singleton_self item)).2
          exact Or.inr (Or.inr (Or.inr ⟨hcode, hlisted, hlater⟩))
        · rintro (hyes | ⟨-, hnone⟩ | ⟨hneg, -⟩ | ⟨-, -, hlater⟩)
          · exact absurd hyes hno
          · exact absurd hnone hreports
          · exact absurd hneg hbad
          · refine ⟨by simp [hmark], by simp [hmark], ?_, ?_⟩
            · intro _ _ after hafter
              rw [hrecorded, List.mem_singleton] at hafter
              rw [hafter]
              exact ⟨rfl, hlater⟩
            · intro after hafter
              rw [hrecorded, List.mem_singleton] at hafter
              rw [hafter, isDue, decide_eq_false (by omega), Bool.and_false]
      | false =>
        -- no receipt is seen, whether or not the text is a list
        have hmark : cycleMark setup now item code lastError deliveryReceiptsJson
            = some (.markSuperseded item.id) := by
          rw [cycleMark, recordItemCycle, hevidence]
          show (if 0 ≤ code then if hasAnyReceipt _ _ = true then none else _ else _) = _
          rw [if_pos hcode, if_neg (by simp [hany])]
        have hlisted : ¬ ∃ entry rest, listedReceipts setup.outbox.toDartRuntime deliveryReceiptsJson
            = some (entry :: rest) := by
          rintro ⟨entry, rest, hlist⟩
          simp [hasAnyReceipt, hlist] at hany
        constructor
        · intro hsound
          exact Or.inr (Or.inl (hsound.superseded item.id hmark))
        · rintro (hyes | hnone | ⟨hneg, -⟩ | ⟨-, hlist, -⟩)
          · exact absurd hyes hno
          · refine ⟨by simp [hmark], fun _ _ => hnone, fun _ h => absurd hmark (h _), ?_⟩
            intro after hafter
            rw [recorded, hmark, transform_single _ supersededItem rfl, Option.getD_some,
              List.mem_singleton] at hafter
            rw [hafter]
            rfl
          · exact absurd hneg hbad
          · exact absurd hlist hlisted
    · have hneg : code < 0 := by omega
      have hmark : cycleMark setup now item code lastError deliveryReceiptsJson
          = some (.markAttempt item.id (now + backoffFor setup item.nextAttempts) lastError) := by
        rw [cycleMark, recordItemCycle, hevidence]
        show (if 0 ≤ code then _ else _) = _
        rw [if_neg hcode]
        rfl
      have hrecorded : recorded setup now item code lastError deliveryReceiptsJson
          = [attempted (now + backoffFor setup item.nextAttempts) lastError item] := by
        rw [recorded, hmark, transform_single _ (attempted _ _) rfl, Option.getD_some]
      constructor
      · intro hsound
        have hlater : now < now + backoffFor setup item.nextAttempts :=
          (hsound.otherwise (by simp [hmark]) (by simp [hmark]) _
            (by rw [hrecorded]; exact List.mem_singleton_self _)).2
        exact Or.inr (Or.inr (Or.inl ⟨hneg, by omega⟩))
      · rintro (hyes | ⟨hgood, -⟩ | ⟨-, hdelay⟩ | ⟨hgood, -⟩)
        · exact absurd hyes hno
        · exact absurd hgood hcode
        · refine ⟨by simp [hmark], by simp [hmark], ?_, ?_⟩
          · intro _ _ after hafter
            rw [hrecorded, List.mem_singleton] at hafter
            rw [hafter]
            exact ⟨rfl, show now < now + _ by omega⟩
          · intro after hafter
            rw [hrecorded, List.mem_singleton] at hafter
            rw [hafter, isDue, Bool.and_eq_false_iff]
            exact Or.inr (decide_eq_false (show ¬ now + _ ≤ now by omega))
        · exact absurd hgood hcode

end Cycle

/-- An offer that is due. -/
def dueOffer : DeliveryOutboxItem :=
  newItem sampleOutbox capsuleText (invitationObligation firstReference)

/-- **Counterexample.** A good code with a text that is no document supersedes an offer that no
    receipt is known of. -/
theorem garbledReceipts_supersede :
    ¬ ∀ (item : DeliveryOutboxItem) (code : ℤ) (lastError : Option String)
      (deliveryReceiptsJson : Option StoredText),
      SoundCycle sampleSetup 5 item code lastError deliveryReceiptsJson := by
  intro hsound
  have hnone : cycleMark sampleSetup 5 dueOffer 0 none (some .garbled)
      = some (.markSuperseded dueOffer.id) := rfl
  rcases ((hsound dueOffer 0 none (some .garbled)).superseded dueOffer.id hnone).2 with h | h
  · cases h
  · cases h

end DeliveryLifecycle

end Hivra
