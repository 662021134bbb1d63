import Hivra.Ffi.ViewDocuments
import Hivra.Host.Projections

namespace Hivra

open ByteString JsonDocument Serde

/-!
# Do the host views show what the core sees?

The host shows a ledger through its own copy of the document.  A row is lost when its date is
zero, a date beyond the range of the host makes the whole call throw, and a ledger with a
number from 2⁶³ on is not projected at all.

* `invitationsFaithful_iff`, `relationshipsFaithful_iff` — when the two services do.
-/

/-! ### Loops over rows -/

section Rows

variable {Double : Type} {dart : DartViews Double} {α β : Type}

/-- The models are those of the wanted rows, one for each, in some order. -/
def OnePerRow (wanted : α → Bool) (shown : α → β → Prop) (rows : List α) (models : List β) : Prop :=
  ∃ ordered, models.Perm ordered ∧ List.Forall₂ shown (rows.filter wanted) ordered

/-- What a loop over encoded rows returns. -/
private theorem readRows_map (read : DartRow Double → Option (Option β)) (row : α → DartRow Double)
    (rows : List α) :
    readRows read (rows.map fun x => .obj (row x)) =
      if ∀ x ∈ rows, read (row x) ≠ none then some (rows.filterMap fun x => (read (row x)).join)
      else none := by
  induction rows with
  | nil => simp [readRows]
  | cons x rows ih =>
    rw [List.map_cons, readRows]
    cases hx : read (row x) with
    | none => simp [hx]
    | some result =>
      cases result with
      | none => simp [ih, hx]
      | some model =>
        rw [ih]
        by_cases hrest : ∀ y ∈ rows, read (row y) ≠ none
        · rw [if_pos hrest, if_pos (by simpa [hx] using hrest)]
          simp [hx]
        · rw [if_neg hrest, if_neg (by simpa [hx] using hrest)]
          rfl

/-- The models a loop keeps are at most as many as the wanted rows. -/
private theorem length_kept {wanted : α → Bool} {outcome : α → Option (Option β)} {rows : List α}
    (hwanted : ∀ x ∈ rows, ∀ model, outcome x = some (some model) → wanted x = true) :
    (rows.filterMap fun x => (outcome x).join).length ≤ (rows.filter wanted).length ∧
      ((rows.filterMap fun x => (outcome x).join).length = (rows.filter wanted).length →
        ∀ x ∈ rows, wanted x = true → (outcome x).join ≠ none) := by
  induction rows with
  | nil => simp
  | cons x rows ih =>
    obtain ⟨hle, heq⟩ := ih fun y hy => hwanted y (List.mem_cons_of_mem x hy)
    rw [List.filterMap_cons, List.filter_cons]
    cases hjoin : (outcome x).join with
    | none =>
      dsimp only
      by_cases hx : wanted x = true
      · rw [if_pos hx, List.length_cons]
        refine ⟨by omega, fun h => ?_⟩
        omega
      · rw [if_neg hx]
        refine ⟨hle, fun h y hy hwant => ?_⟩
        rcases List.mem_cons.mp hy with rfl | hy
        · exact absurd hwant hx
        · exact heq h y hy hwant
    | some model =>
      have hx : wanted x = true :=
        hwanted x List.mem_cons_self model (Option.join_eq_some_iff.mp hjoin)
      dsimp only
      rw [if_pos hx, List.length_cons, List.length_cons]
      refine ⟨by omega, fun h y hy hwant => ?_⟩
      rcases List.mem_cons.mp hy with rfl | hy
      · rw [hjoin]
        simp
      · exact heq (by omega) y hy hwant

/-- **Each wanted row exactly once.**  The loop does not throw and shows each wanted row once
    iff no row throws and no wanted row is left out. -/
theorem readRows_shown_iff {read : DartRow Double → Option (Option β)}
    {row : α → DartRow Double} {rows : List α} {wanted : α → Bool} {shown : α → β → Prop}
    (hshown : ∀ x ∈ rows, ∀ model, read (row x) = some (some model) →
      wanted x = true ∧ shown x model) (le : β → β → Bool) :
    (∃ models, (readRows read (rows.map fun x => .obj (row x))).map (dart.sort le) = some models ∧
      OnePerRow wanted shown rows models) ↔
    ∀ x ∈ rows, read (row x) ≠ none ∧ (wanted x = true → read (row x) ≠ some none) := by
  rw [readRows_map]
  by_cases hthrows : ∀ x ∈ rows, read (row x) ≠ none
  swap
  · rw [if_neg hthrows]
    refine iff_of_false (by simp) fun h => hthrows fun x hx => (h x hx).1
  rw [if_pos hthrows]
  have hkept := length_kept fun x hx model h => (hshown x hx model h).1
  constructor
  · rintro ⟨models, hmodels, ordered, hperm, hall⟩ x hx
    refine ⟨hthrows x hx, fun hwant hnone => ?_⟩
    have hlength := (dart.sort_perm le (rows.filterMap fun x => (read (row x)).join)).length_eq
    rw [Option.map_some, Option.some.injEq] at hmodels
    rw [hmodels, hperm.length_eq, ← hall.length_eq] at hlength
    exact hkept.2 hlength.symm x hx hwant (by rw [hnone]; rfl)
  · intro h
    refine ⟨_, rfl, rows.filterMap fun x => (read (row x)).join, dart.sort_perm le _, ?_⟩
    clear hthrows hkept
    induction rows with
    | nil => exact .nil
    | cons x rows ih =>
      have hrest := ih (fun y hy => hshown y (List.mem_cons_of_mem x hy))
        fun y hy => h y (List.mem_cons_of_mem x hy)
      obtain ⟨hruns, hwant⟩ := h x List.mem_cons_self
      rw [List.filterMap_cons, List.filter_cons]
      cases hx : read (row x) with
      | none => exact absurd hx hruns
      | some result =>
        cases result with
        | none =>
          rw [if_neg fun hyes => hwant hyes hx]
          exact hrest
        | some model =>
          obtain ⟨hyes, hmodel⟩ := hshown x List.mem_cons_self model hx
          rw [if_pos hyes]
          exact .cons hmodel hrest

end Rows

/-! ### Fields that were written -/

section Fields

variable {Double : Type} (dart : DartViews Double)

/-- A member of an object the runtime wrote, as the host decodes it. -/
def decoded (doc : Document) : DartValue Double := doc.map (decodeNumber dart.toDartRuntime)

/-- The members of a row the runtime wrote, as the host decodes it. -/
def decodedRow (members : List (String × Document)) : DartRow Double :=
  Json.mapMembers (decodeNumber dart.toDartRuntime) members

theorem decoded_writeNat {value : ℕ} (h : value < 2 ^ 63) :
    decoded dart (writeNat value) = .num (.inl value) := by
  have hrange : -2 ^ 63 ≤ (value : ℤ) ∧ (value : ℤ) < 2 ^ 63 := by omega
  rw [decoded, writeNat, Json.map, decodeNumber, if_pos hrange]

theorem decoded_items (bytes : List UInt8) :
    Json.mapItems (decodeNumber dart.toDartRuntime) (bytes.map writeU8)
      = bytes.map fun byte => .num (.inl (byte.toNat : ℤ)) := by
  induction bytes with
  | nil => rfl
  | cons byte rest ih =>
    have hbound := byte.toNat_lt
    have hbyte := decoded_writeNat dart (show byte.toNat < 2 ^ 63 by omega)
    rw [List.map_cons, List.map_cons, Json.mapItems, ih]
    rw [show (writeU8 byte).map (decodeNumber dart.toDartRuntime) = _ from hbyte]

theorem byteOfInt_toNat (byte : UInt8) : byteOfInt (byte.toNat : ℤ) = some byte := by
  have hbound := byte.toNat_lt
  rw [byteOfInt, if_pos (by omega), Int.toNat_natCast, UInt8.ofNat_toNat]

private theorem rowBytes_written {bytes : List UInt8} {length : ℕ} (h : bytes.length = length) :
    rowBytes (some (decoded dart (writeBytes bytes))) length = some bytes := by
  rw [decoded, writeBytes, Json.map, decoded_items, rowBytes, if_neg (by simpa using h)]
  clear h
  induction bytes with
  | nil => rfl
  | cons byte rest ih =>
    rw [List.map_cons, List.mapM_cons]
    dsimp only
    rw [byteOfInt_toNat, ih]
    rfl

private theorem rowNumbers_written {bytes : List UInt8} {length : ℕ} (h : bytes.length = length) :
    rowNumbers dart (some (decoded dart (writeBytes bytes))) length = some (some bytes) := by
  have hitems : ∀ out, numberItems dart out (bytes.map fun byte => .num (.inl (byte.toNat : ℤ)))
      = some (some (out ++ bytes)) := by
    clear h
    induction bytes with
    | nil => simp [numberItems]
    | cons byte rest ih =>
      intro out
      rw [List.map_cons, numberItems, byteOfInt_toNat]
      dsimp only
      rw [ih, List.append_assoc]
      rfl
  rw [decoded, writeBytes, Json.map, decoded_items, rowNumbers, if_neg (by simpa using h), hitems]
  rfl

private theorem rowStarterKind_written (kind : StarterKind) :
    rowStarterKind dart (some (decoded dart (writeU8 kind.toByte))) = some (some kind) := by
  have hbound := kind.toByte.toNat_lt
  rw [writeU8, decoded_writeNat dart (by omega)]
  cases kind <;> rfl

/-- The date the host makes of a timestamp; the outer result is none where it throws. -/
def hostTimestamp (ts : UInt64) : Option (Option DateTime) :=
  if ts = 0 then some none
  else
    (fromMillisecondsSinceEpoch
      (if ts.toNat < 100000000000 then ts.toNat * 1000 else ts.toNat)).map some

private theorem rowTimestamp_written {ts : UInt64} (h : ts.toNat < 2 ^ 63) :
    rowTimestamp dart (some (decoded dart (writeU64 ts))) = hostTimestamp ts := by
  rw [writeU64, decoded_writeNat dart h, rowTimestamp, numberNotAtMost, hostTimestamp]
  by_cases hzero : ts = 0
  · rw [if_pos hzero, hzero]
    rfl
  · have hpos : 0 < ts.toNat := by
      rcases Nat.eq_zero_or_pos ts.toNat with hnat | hpos
      · exact absurd (UInt64.toNat_inj.mp hnat) hzero
      · exact hpos
    have habove : ¬ decide ((0 : ℤ) < ts.toNat) = false := by
      simp only [decide_eq_false_iff_not, not_not]
      omega
    rw [if_neg hzero, if_neg habove, numberToInt]
    dsimp only
    by_cases hsmall : ts.toNat < 100000000000
    · rw [if_pos hsmall, if_pos (by omega)]
    · rw [if_neg hsmall, if_neg (by omega)]

/-- The last millisecond that is a date in the host. -/
def lastHostMillis : ℕ := 8640000000000000

/-- A timestamp has a date up to the end of the range of the host. -/
theorem hostTimestamp_ne_none (ts : UInt64) :
    hostTimestamp ts ≠ none ↔ ts.toNat ≤ lastHostMillis := by
  unfold hostTimestamp fromMillisecondsSinceEpoch lastHostMillis
  by_cases hzero : ts = 0
  · rw [if_pos hzero, hzero]
    exact iff_of_true (by simp) (by decide)
  · rw [if_neg hzero]
    simp only [ne_eq, Option.map_eq_none_iff, dite_eq_right_iff, reduceCtorEq, imp_false]
    split_ifs <;> omega

/-- Only zero has no date. -/
theorem hostTimestamp_eq_some_none (ts : UInt64) : hostTimestamp ts = some none ↔ ts = 0 := by
  unfold hostTimestamp
  by_cases hzero : ts = 0
  · simp [hzero]
  · simp [hzero]

/-! ### Rows that were written -/

/-- The status of the host for one of the core. -/
def hostStatus : InvitationStatus → HostInvitationStatus
  | .pending => .pending
  | .accepted _ _ _ => .accepted
  | .rejected _ => .rejected
  | .expired => .expired

/-- A model has the id, the direction and the status of a record. -/
structure ShowsRecord (record : InvitationRecord) (invitation : Invitation) : Prop where
  id : invitation.id = record.invitationId.toList
  direction : invitation.toPubkey = none ↔ record.direction = .incoming
  status : invitation.status = hostStatus record.status

/-- A model has the key, the peer starter and the status of a row. -/
structure ShowsRow (row : RelationshipCurrentItemV1) (relationship : Relationship) : Prop where
  peer : relationship.peerPubkey = row.peerPubkey.bytes.toList
  ownStarter : relationship.ownStarterId = row.ownStarterId.bytes.toList
  peerStarter : relationship.peerStarterId = row.peerStarterId.bytes.toList
  active : relationship.isActive = true ↔ row.status ≠ "broken"
  pending : relationship.hasPendingRemoteBreak = true ↔ row.status = "pending_remote_break"

/-- The date of the answer to an invitation. -/
def respondedDate : Option Timestamp → Option (Option DateTime)
  | none => some none
  | some ts => hostTimestamp ts

theorem lookup_decodedRow (members : List (String × Document)) (name : String) :
    (decodedRow dart members).lookup name = (members.lookup name).map (decoded dart) :=
  Json.lookup_mapMembers _ members name

private theorem hostStatusOfText_text (status : InvitationStatus) :
    hostStatusOfText status.text = some (hostStatus status) := by
  cases status <;> rfl

/-- The fields of the row of a record, as the host reads them. -/
private structure RecordFields (ledger : Ledger) (record : InvitationRecord)
    (row : DartRow Double) : Prop where
  id : rowBytes (row.lookup "invitation_id") 32 = some record.invitationId.toList
  sender : ∃ sender, rowBytes (row.lookup "from_pubkey") 32 = some sender
  direction : rowText (row.lookup "direction")
    = some (if record.direction = .incoming then "incoming" else "outgoing")
  recipient : record.direction ≠ .incoming →
    ∃ recipient, rowBytes (row.lookup "to_pubkey") 32 = some recipient
  status : (rowText (row.lookup "status")).bind hostStatusOfText = some (hostStatus record.status)
  kind : rowStarterKind dart (row.lookup "starter_kind") = some (recordStarterKind ledger record)
  sentAt : rowTimestamp dart (row.lookup "sent_at") = hostTimestamp record.sentAt
  respondedAt : rowTimestamp dart (row.lookup "responded_at") = respondedDate record.respondedAt
  slot : ∃ slot, rowSlot dart (row.lookup "starter_slot") = some slot

variable {record : InvitationRecord}

private theorem recordFields_written (ledger : Ledger) (slots : SlotLayout)
    (hsent : record.sentAt.toNat < 2 ^ 63)
    (hresponded : ∀ ts ∈ record.respondedAt, ts.toNat < 2 ^ 63) :
    RecordFields dart ledger record (decodedRow dart
      (invitationItemMembers (invitationCurrentItem ledger slots record))) := by
  have hkey : ∀ key : PubKey,
      rowBytes (some (decoded dart (writePubKey key))) 32 = some key.bytes.toList :=
    fun key => rowBytes_written dart key.bytes.2
  have hnull : decoded dart .null = .null := by rw [decoded, Json.map]
  have htext : ∀ text, decoded dart (.str text) = .str text := by
    intro text
    rw [decoded, Json.map]
  constructor <;> rw [lookup_decodedRow] <;>
    simp only [invitationItemMembers, List.lookup, String.reduceBEq, Option.map_some]
  · exact rowBytes_written dart record.invitationId.2
  · exact ⟨_, hkey _⟩
  · rw [htext, rowText]
    cases hdirection : record.direction <;> simp [invitationCurrentItem, hdirection]
  · intro houtgoing
    refine ⟨record.recipientPubkey.bytes.toList, ?_⟩
    have hto : (invitationCurrentItem ledger slots record).toPubkey
        = some record.recipientPubkey := by
      cases hdirection : record.direction with
      | incoming => exact absurd hdirection houtgoing
      | outgoing => simp [invitationCurrentItem, hdirection]
    rw [hto]
    exact hkey _
  · rw [htext, rowText, Option.bind_some]
    exact hostStatusOfText_text record.status
  · show rowStarterKind dart (some (decoded dart (writeOption writeU8
      ((recordStarterKind ledger record).map StarterKind.toByte)))) = _
    cases recordStarterKind ledger record with
    | none =>
      rw [Option.map_none, writeOption, hnull]
      rfl
    | some kind => exact rowStarterKind_written dart kind
  · exact rowTimestamp_written dart hsent
  · show rowTimestamp dart (some (decoded dart (writeOption writeU64 record.respondedAt))) = _
    cases hanswer : record.respondedAt with
    | none =>
      rw [writeOption, hnull]
      rfl
    | some ts => exact rowTimestamp_written dart (hresponded ts hanswer)
  · cases (invitationCurrentItem ledger slots record).starterSlot with
    | none =>
      rw [writeOption, hnull]
      exact ⟨none, rfl⟩
    | some slot =>
      have hbound := slot.toNat_lt
      rw [writeOption, writeU8, decoded_writeNat dart (by omega)]
      exact ⟨_, rfl⟩

/-- How the host reads the row of a record: both dates must be in range, and it takes a kind
    and a date of the offer to be shown. -/
theorem readInvitation_written (ledger : Ledger) (slots : SlotLayout)
    (hsent : record.sentAt.toNat < 2 ^ 63)
    (hresponded : ∀ ts ∈ record.respondedAt, ts.toNat < 2 ^ 63) :
    ∃ invitation : StarterKind → DateTime → Option DateTime → Invitation,
      (∀ kind sentAt respondedAt, ShowsRecord record (invitation kind sentAt respondedAt)) ∧
      readInvitation dart (decodedRow dart
          (invitationItemMembers (invitationCurrentItem ledger slots record))) =
        match hostTimestamp record.sentAt with
        | none => none
        | some sentAt =>
          match recordStarterKind ledger record, sentAt with
          | some kind, some sentAt =>
            (respondedDate record.respondedAt).map fun respondedAt =>
              some (invitation kind sentAt respondedAt)
          | _, _ => some none := by
  have hfields := recordFields_written dart ledger slots hsent hresponded
  revert hfields
  generalize decodedRow dart (invitationItemMembers (invitationCurrentItem ledger slots record))
    = row
  intro hfields
  obtain ⟨sender, hsender⟩ := hfields.sender
  obtain ⟨slot, hslot⟩ := hfields.slot
  have haddressed : ¬ (rowText (row.lookup "direction") = some "outgoing" ∧
      rowBytes (row.lookup "to_pubkey") 32 = none) := by
    rw [hfields.direction]
    rintro ⟨houtgoing, hnone⟩
    obtain ⟨recipient, hrecipient⟩ := hfields.recipient (by
      intro hincoming
      simp [hincoming] at houtgoing)
    rw [hrecipient] at hnone
    cases hnone
  have hknown : ¬ (rowText (row.lookup "direction") ≠ some "incoming" ∧
      rowText (row.lookup "direction") ≠ some "outgoing") := by
    rw [hfields.direction]
    split_ifs <;> simp
  refine ⟨fun kind sentAt respondedAt => {
    id := record.invitationId.toList
    fromPubkey := sender
    fromRootPubkey := rowBytes (row.lookup "from_root_pubkey") 32
    fromCardSignatureHex := (rowBytes (row.lookup "from_card_signature") 64).map hexText
    toPubkey :=
      if rowText (row.lookup "direction") = some "incoming" then none
      else rowBytes (row.lookup "to_pubkey") 32
    kind := kind
    starterSlot := slot
    status := hostStatus record.status
    sentAt := sentAt
    expiresAt := if hostStatus record.status = .expired then respondedAt else none
    respondedAt := respondedAt
    rejectionReason := (rowText (row.lookup "rejection_reason")).bind rejectionReasonOfText },
    ?_, ?_⟩
  · intro kind sentAt respondedAt
    refine ⟨rfl, ?_, rfl⟩
    dsimp only
    rw [hfields.direction]
    by_cases hincoming : record.direction = .incoming
    · simp [hincoming]
    · obtain ⟨recipient, hrecipient⟩ := hfields.recipient hincoming
      simp [hincoming, hrecipient]
  · unfold readInvitation
    rw [hfields.id, hsender]
    dsimp only
    rw [if_neg hknown, if_neg haddressed, hfields.status, hfields.kind, hfields.sentAt, hslot,
      hfields.respondedAt]
    cases hostTimestamp record.sentAt with
    | none => rfl
    | some sentAt =>
      cases recordStarterKind ledger record with
      | none => cases sentAt <;> rfl
      | some kind =>
        cases sentAt with
        | none => rfl
        | some sentAt =>
          dsimp only
          cases respondedDate record.respondedAt <;> rfl

/-- What becomes of the row of a record. -/
theorem readInvitation_cases (ledger : Ledger) (slots : SlotLayout)
    (hsent : record.sentAt.toNat < 2 ^ 63)
    (hresponded : ∀ ts ∈ record.respondedAt, ts.toNat < 2 ^ 63) :
    let result := readInvitation dart (decodedRow dart
      (invitationItemMembers (invitationCurrentItem ledger slots record)))
    (∀ model, result = some (some model) →
      (recordStarterKind ledger record).isSome = true ∧ ShowsRecord record model) ∧
    ((result ≠ none ∧ ((recordStarterKind ledger record).isSome = true → result ≠ some none)) ↔
      record.sentAt.toNat ≤ lastHostMillis ∧
        ((recordStarterKind ledger record).isSome = true → record.sentAt ≠ 0 ∧
          ∀ ts ∈ record.respondedAt, ts.toNat ≤ lastHostMillis)) := by
  dsimp only
  obtain ⟨invitation, hshows, hread⟩ := readInvitation_written dart ledger slots hsent hresponded
  have hdate := hostTimestamp_ne_none record.sentAt
  have hzero := hostTimestamp_eq_some_none record.sentAt
  have hanswer : respondedDate record.respondedAt ≠ none ↔
      ∀ ts ∈ record.respondedAt, ts.toNat ≤ lastHostMillis := by
    cases record.respondedAt with
    | none => simp [respondedDate]
    | some ts => simpa [respondedDate] using hostTimestamp_ne_none ts
  rw [hread, ← hanswer, ← hdate, ne_eq record.sentAt, ← hzero]
  cases hostTimestamp record.sentAt with
  | none => simp
  | some sentAt =>
    cases recordStarterKind ledger record with
    | none => simp
    | some kind =>
      cases sentAt with
      | none => simp
      | some sentAt =>
        cases respondedDate record.respondedAt with
        | none => simp
        | some respondedAt =>
          refine ⟨fun model hmodel => ⟨rfl, ?_⟩, by simp⟩
          rw [← Option.some.inj (Option.some.inj hmodel)]
          exact hshows kind sentAt respondedAt

/-- The fields of a row of the relationship view, as the host reads them. -/
private structure RowFields (relationship : ProjectedRelationship)
    (item : RelationshipCurrentItemV1) (row : DartRow Double) : Prop where
  peer : rowNumbers dart (row.lookup "peer_pubkey") 32 = some (some item.peerPubkey.bytes.toList)
  peerRoot : ∃ root, rowNumbers dart (row.lookup "peer_root_pubkey") 32 = some root
  peerIdentity : rowNumbers dart (row.lookup "peer_identity") 32
    = some (some item.peerIdentity.bytes.toList)
  ownStarter : rowNumbers dart (row.lookup "own_starter_id") 32
    = some (some item.ownStarterId.bytes.toList)
  peerStarter : rowNumbers dart (row.lookup "peer_starter_id") 32
    = some (some item.peerStarterId.bytes.toList)
  kind : rowStarterKind dart (row.lookup "starter_kind") = some (some relationship.kind)
  establishedAt : rowTimestamp dart (row.lookup "established_at")
    = hostTimestamp relationship.establishedAt
  status : rowText (row.lookup "status") = some relationship.statusText

variable {relationship : ProjectedRelationship}

private theorem rowFields_written (projected : List ProjectedRelationship)
    (h : relationship.establishedAt.toNat < 2 ^ 63) :
    RowFields dart relationship (relationshipCurrentItem projected relationship)
      (decodedRow dart
        (relationshipItemMembers (relationshipCurrentItem projected relationship))) := by
  have hkey : ∀ key : PubKey,
      rowNumbers dart (some (decoded dart (writePubKey key))) 32 = some (some key.bytes.toList) :=
    fun key => rowNumbers_written dart key.bytes.2
  constructor <;> rw [lookup_decodedRow] <;>
    simp only [relationshipItemMembers, List.lookup, String.reduceBEq, Option.map_some]
  · exact hkey _
  · cases (relationshipCurrentItem projected relationship).peerRootPubkey with
    | none =>
      rw [writeOption, decoded, Json.map]
      exact ⟨none, rfl⟩
    | some root => exact ⟨_, hkey root⟩
  · exact hkey _
  · exact rowNumbers_written dart (relationshipCurrentItem projected relationship).ownStarterId.bytes.2
  · exact rowNumbers_written dart
      (relationshipCurrentItem projected relationship).peerStarterId.bytes.2
  · exact rowStarterKind_written dart relationship.kind
  · exact rowTimestamp_written dart h
  · rw [decoded, Json.map]
    rfl

/-- How the host reads the row of a relationship: its date must be in range and not zero. -/
theorem readRelationship_written (projected : List ProjectedRelationship)
    (h : relationship.establishedAt.toNat < 2 ^ 63) :
    ∃ model : DateTime → Relationship,
      (∀ establishedAt, ShowsRow (relationshipCurrentItem projected relationship)
        (model establishedAt)) ∧
      readRelationship dart (decodedRow dart
          (relationshipItemMembers (relationshipCurrentItem projected relationship))) =
        (hostTimestamp relationship.establishedAt).map fun establishedAt =>
          establishedAt.map model := by
  have hfields := rowFields_written dart projected h
  revert hfields
  generalize decodedRow dart (relationshipItemMembers
    (relationshipCurrentItem projected relationship)) = row
  generalize hitem : relationshipCurrentItem projected relationship = item
  intro hfields
  obtain ⟨root, hroot⟩ := hfields.peerRoot
  have hstatus : relationship.statusText = item.status := by rw [← hitem]; rfl
  have hknown : ¬ (some relationship.statusText ≠ some "active" ∧
      some relationship.statusText ≠ some "pending_remote_break" ∧
      some relationship.statusText ≠ some "broken") := by
    unfold ProjectedRelationship.statusText
    split_ifs <;> simp
  refine ⟨fun establishedAt => {
    peerPubkey := item.peerPubkey.bytes.toList
    peerRootPubkey := shownRoot root item.peerIdentity.bytes.toList item.peerPubkey.bytes.toList
    kind := relationship.kind
    ownStarterId := item.ownStarterId.bytes.toList
    peerStarterId := item.peerStarterId.bytes.toList
    establishedAt := establishedAt
    isActive := some relationship.statusText != some "broken"
    hasPendingRemoteBreak := some relationship.statusText == some "pending_remote_break" },
    ?_, ?_⟩
  · intro establishedAt
    exact ⟨rfl, rfl, rfl, by simp [hstatus], by simp [hstatus]⟩
  · unfold readRelationship
    rw [hfields.peer, hroot, hfields.peerIdentity, hfields.ownStarter, hfields.peerStarter,
      hfields.kind, hfields.establishedAt, hfields.status]
    cases hostTimestamp relationship.establishedAt with
    | none => rfl
    | some establishedAt =>
      cases establishedAt with
      | none => rfl
      | some establishedAt =>
        dsimp only
        rw [if_neg hknown]
        rfl

/-- What becomes of the row of a relationship. -/
theorem readRelationship_cases (projected : List ProjectedRelationship)
    (h : relationship.establishedAt.toNat < 2 ^ 63) :
    let result := readRelationship dart (decodedRow dart
      (relationshipItemMembers (relationshipCurrentItem projected relationship)))
    (∀ model, result = some (some model) →
      ShowsRow (relationshipCurrentItem projected relationship) model) ∧
    ((result ≠ none ∧ result ≠ some none) ↔
      relationship.establishedAt ≠ 0 ∧ relationship.establishedAt.toNat ≤ lastHostMillis) := by
  dsimp only
  obtain ⟨model, hshows, hread⟩ := readRelationship_written dart projected h
  have hdate := hostTimestamp_ne_none relationship.establishedAt
  have hzero := hostTimestamp_eq_some_none relationship.establishedAt
  rw [hread, ← hdate, ne_eq relationship.establishedAt, ← hzero]
  cases hostTimestamp relationship.establishedAt with
  | none => simp
  | some establishedAt =>
    cases establishedAt with
    | none => simp
    | some establishedAt =>
      refine ⟨fun other hother => ?_, by simp⟩
      rw [← Option.some.inj (Option.some.inj hother)]
      exact hshows establishedAt

end Fields

/-! ### The services -/

section Services

variable {Double : Type} (dart : DartViews Double) (lossy : Literal → Option UInt64)
  (sha256 : Sha256)

/-- The host can encode its copy of the exported ledger. -/
def HostEncodes (ledger : Ledger) : Prop :=
  (exportedLedger sha256 ledger).traverse (hostLiteral dart.toDartRuntime) ≠ none

theorem decoded_objects {α : Type} (members : α → List (String × Document)) (rows : List α) :
    Json.mapItems (decodeNumber dart.toDartRuntime) (rows.map fun x => .obj (members x))
      = rows.map fun x => .obj (decodedRow dart (members x)) := by
  induction rows with
  | nil => rfl
  | cons x rest ih =>
    rw [List.map_cons, List.map_cons, Json.mapItems, ih, Json.map]
    rfl

theorem wellKeyed_writeOption {α : Type} {write : α → Document}
    (h : ∀ value, (write value).WellKeyed) (value : Option α) :
    (writeOption write value).WellKeyed := by
  cases value with
  | none => exact trivial
  | some value => exact h value

private theorem wellKeyed_invitationItem (item : InvitationCurrentItemV1) :
    (Json.obj (invitationItemMembers item)).WellKeyed := by
  refine ⟨by simp [invitationItemMembers], (Json.wellKeyedMembers_iff _).mpr ?_⟩
  simp only [invitationItemMembers, List.mem_cons, List.not_mem_nil, or_false, forall_eq_or_imp,
    forall_eq]
  have hbyte : ∀ value, (writeU8 value).WellKeyed := fun _ => trivial
  have hnumber : ∀ value, (writeU64 value).WellKeyed := fun _ => trivial
  have htext : ∀ text, (Json.str text : Document).WellKeyed := fun _ => trivial
  exact ⟨wellKeyed_writeBytes _, wellKeyed_writeBytes _, trivial, wellKeyed_writeBytes _,
    wellKeyed_writeOption (fun _ => wellKeyed_writeBytes _) _,
    wellKeyed_writeOption (fun _ => wellKeyed_writeBytes _) _,
    wellKeyed_writeOption (fun _ => wellKeyed_writeBytes _) _,
    wellKeyed_writeOption hbyte _, wellKeyed_writeOption hbyte _, trivial, trivial,
    wellKeyed_writeOption hnumber _, trivial, wellKeyed_writeOption htext _⟩

private theorem wellKeyed_relationshipItem (item : RelationshipCurrentItemV1) :
    (Json.obj (relationshipItemMembers item)).WellKeyed := by
  refine ⟨by simp [relationshipItemMembers], (Json.wellKeyedMembers_iff _).mpr ?_⟩
  simp only [relationshipItemMembers, List.mem_cons, List.not_mem_nil, or_false, forall_eq_or_imp,
    forall_eq]
  exact ⟨wellKeyed_writeBytes _, wellKeyed_writeOption (fun _ => wellKeyed_writeBytes _) _,
    wellKeyed_writeBytes _, wellKeyed_writeBytes _, wellKeyed_writeBytes _, trivial, trivial,
    trivial⟩

/-- What the host reads of the document of a view. -/
theorem decoded_view {α : Type} {top : List (String × Document)} {schema field : String}
    {rows : List α} {members : α → List (String × Document)}
    (hkeyed : (Json.obj top).WellKeyed) (hschema : top.lookup "schema" = some (.str schema))
    (hversion : top.lookup "version" = some (writeNat (1 : UInt16).toNat))
    (hrows : top.lookup field = some (.arr (rows.map fun x => .obj (members x)))) :
    ∃ root, jsonDecode dart.toDartRuntime (.obj top) = .obj root ∧
      rowText (root.lookup "schema") = some schema ∧
      isBackupVersion dart.toDartRuntime (root.lookup "version") = true ∧
      root.lookup field = some (.arr (rows.map fun x => .obj (decodedRow dart (members x)))) := by
  have hone := decoded_writeNat dart (show (1 : UInt16).toNat < 2 ^ 63 by decide)
  rw [jsonDecode, Json.collapse_of_wellKeyed _ hkeyed, Json.map]
  refine ⟨_, rfl, ?_, ?_, ?_⟩
  · rw [Json.lookup_mapMembers, hschema, Option.map_some, Json.map]
    rfl
  · rw [Json.lookup_mapMembers, hversion, Option.map_some]
    rw [show (writeNat (1 : UInt16).toNat).map (decodeNumber dart.toDartRuntime) = _ from hone]
    rfl
  · rw [Json.lookup_mapMembers, hrows, Option.map_some, Json.map, decoded_objects]

/-- The rows of a view. -/
theorem projectRows_written {α : Type} {top : List (String × Document)} {schema field : String}
    {rows : List α} {members : α → List (String × Document)}
    (hkeyed : (Json.obj top).WellKeyed) (hschema : top.lookup "schema" = some (.str schema))
    (hversion : top.lookup "version" = some (writeNat (1 : UInt16).toNat))
    (hrows : top.lookup field = some (.arr (rows.map fun x => .obj (members x)))) :
    projectRows dart schema field (some (.obj top))
      = some (rows.map fun x => .obj (decodedRow dart (members x))) := by
  obtain ⟨root, hroot, htext, hone, hfield⟩ := decoded_view dart hkeyed hschema hversion hrows
  rw [projectRows, hroot]
  dsimp only
  rw [if_pos ⟨htext, hone⟩, hfield]

private theorem wellKeyed_invitationView (view : InvitationCurrentViewV1) :
    (invitationViewDocument view).WellKeyed := by
  refine ⟨by simp, (Json.wellKeyedMembers_iff _).mpr ?_⟩
  simp only [List.mem_cons, List.not_mem_nil, or_false, forall_eq_or_imp, forall_eq]
  refine ⟨trivial, trivial, trivial, Json.wellKeyed_arr fun item hitem => ?_⟩
  obtain ⟨row, -, rfl⟩ := List.mem_map.mp hitem
  exact wellKeyed_invitationItem row

private theorem wellKeyed_relationshipView (view : RelationshipCurrentViewV1) :
    (relationshipViewDocument view).WellKeyed := by
  refine ⟨by simp, (Json.wellKeyedMembers_iff _).mpr ?_⟩
  simp only [List.mem_cons, List.not_mem_nil, or_false, forall_eq_or_imp, forall_eq]
  refine ⟨trivial, trivial, trivial, trivial, Json.wellKeyed_arr fun item hitem => ?_⟩
  obtain ⟨row, -, rfl⟩ := List.mem_map.mp hitem
  exact wellKeyed_relationshipItem row

/-- What a service returns for the host's copy of an exported ledger: the models of its rows,
    nothing when a number does not fit, and it throws when that copy cannot be encoded. -/
private theorem loadModels_exported {α β : Type} {schema field : String}
    {read : DartRow Double → Option (Option β)} {le : β → β → Bool}
    {project : Document → Option Document} {viewOf : Ledger → Document} {ledger : Ledger}
    {rows : List α} {row : α → DartRow Double}
    (hproject : ∀ doc, project doc = match parseLedgerJson lossy doc with
      | .error _ => none
      | .ok ledger => some (viewOf ledger))
    (hrows : projectRows dart schema field (some (viewOf ledger))
      = some (rows.map fun x => .obj (row x))) :
    (FitsHost ledger ∧ loadModels dart schema field read le project
        (decodedMembers dart.toDartRuntime sha256 ledger)
          = (readRows read (rows.map fun x => .obj (row x))).map (dart.sort le)) ∨
    (¬ FitsHost ledger ∧ ¬ HostEncodes dart sha256 ledger ∧ loadModels dart schema field read le
      project (decodedMembers dart.toDartRuntime sha256 ledger) = none) ∨
    (¬ FitsHost ledger ∧ HostEncodes dart sha256 ledger ∧ loadModels dart schema field read le
      project (decodedMembers dart.toDartRuntime sha256 ledger) = some []) := by
  unfold loadModels HostEncodes
  rw [jsonEncode_decodedMembers]
  by_cases hfits : FitsHost ledger
  · have hcount : ledger.CountFits := by
      intro continuity hcontinuity
      have hsmall := hfits.counts continuity hcontinuity
      omega
    refine Or.inl ⟨hfits, ?_⟩
    rw [exported_kept dart.toDartRuntime sha256 hfits]
    dsimp only
    rw [hproject, parseLedgerJson_export lossy sha256 hcount]
    dsimp only
    rw [hrows]
  · refine Or.inr ?_
    cases hdoc : (exportedLedger sha256 ledger).traverse (hostLiteral dart.toDartRuntime) with
    | none => exact Or.inl ⟨hfits, by simp, rfl⟩
    | some doc =>
      refine Or.inr ⟨hfits, by simp, ?_⟩
      dsimp only
      rw [hproject]
      cases hparse : parseLedgerJson lossy doc with
      | error message => rfl
      | ok parsed =>
        exact absurd (fitsHost_of_parse dart.toDartRuntime lossy sha256 hdoc hparse) hfits

/-- Nothing shown is right only when nothing is wanted. -/
private theorem onePerRow_nil {α β : Type} {wanted : α → Bool} {shown : α → β → Prop}
    {rows : List α} : OnePerRow wanted shown rows [] ↔ ∀ x ∈ rows, wanted x = false := by
  constructor
  · rintro ⟨ordered, hperm, hall⟩ x hx
    rw [List.nil_perm.mp hperm, List.forall₂_nil_right_iff, List.filter_eq_nil_iff] at hall
    simpa using hall x hx
  · intro h
    refine ⟨[], .nil, ?_⟩
    rw [List.forall₂_nil_right_iff, List.filter_eq_nil_iff]
    intro x hx
    rw [h x hx]
    simp

/-- The host shows the invitations of a ledger document it was given. -/
def InvitationsFaithful (doc : Document) (ledger : Ledger) : Prop :=
  ∃ root models, exportLedgerRoot dart.toDartRuntime doc = some root ∧
    loadInvitations dart (hivraProjectInvitationCurrentViewV1 lossy) root = some models ∧
    OnePerRow (fun record => (recordStarterKind ledger record).isSome) ShowsRecord
      (invitationsWithStatus ledger) models

/-- The host shows the relationships of a ledger document it was given. -/
def RelationshipsFaithful (localTransport : Option PubKey) (doc : Document) (ledger : Ledger) :
    Prop :=
  ∃ root models, exportLedgerRoot dart.toDartRuntime doc = some root ∧
    loadRelationships dart (hivraProjectRelationshipCurrentViewV1 lossy localTransport) root
      = some models ∧
    OnePerRow (fun _ => true) ShowsRow
      (relationshipCurrentViewV1 ledger localTransport).relationships models

/-- Every date of the offers is in range, and an offer whose kind is known has a date and no
    answer out of range. -/
def InvitationsFit (ledger : Ledger) : Prop :=
  ∀ record ∈ invitationsWithStatus ledger, record.sentAt.toNat ≤ lastHostMillis ∧
    ((recordStarterKind ledger record).isSome → record.sentAt ≠ 0 ∧
      ∀ ts ∈ record.respondedAt, ts.toNat ≤ lastHostMillis)

/-- Every relationship has a date, in range. -/
def RelationshipsFit (ledger : Ledger) (localTransport : Option PubKey) : Prop :=
  ∀ relationship ∈ projectRelationships ledger localTransport,
    relationship.establishedAt ≠ 0 ∧ relationship.establishedAt.toNat ≤ lastHostMillis

/-- **When a service shows its rows**: the numbers of the ledger and each row fit, or nothing is
    wanted and the host can encode its copy. -/
private theorem loadModels_shown_iff {α β : Type} {schema field : String}
    {read : DartRow Double → Option (Option β)} {le : β → β → Bool}
    {project : Document → Option Document} {viewOf : Ledger → Document} {ledger : Ledger}
    {rows : List α} {row : α → DartRow Double} {wanted : α → Bool} {shown : α → β → Prop}
    {fits : α → Prop} (hproject : ∀ doc, project doc = match parseLedgerJson lossy doc with
      | .error _ => none
      | .ok ledger => some (viewOf ledger))
    (hrows : projectRows dart schema field (some (viewOf ledger))
      = some (rows.map fun x => .obj (row x)))
    (hcases : FitsHost ledger → ∀ x ∈ rows,
      (∀ model, read (row x) = some (some model) → wanted x = true ∧ shown x model) ∧
      ((read (row x) ≠ none ∧ (wanted x = true → read (row x) ≠ some none)) ↔ fits x)) :
    (∃ models, loadModels dart schema field read le project
        (decodedMembers dart.toDartRuntime sha256 ledger) = some models ∧
      OnePerRow wanted shown rows models) ↔
      (FitsHost ledger ∧ ∀ x ∈ rows, fits x) ∨
      (¬ FitsHost ledger ∧ HostEncodes dart sha256 ledger ∧ ∀ x ∈ rows, wanted x = false) := by
  rcases loadModels_exported dart lossy sha256 hproject hrows with
    ⟨hfits, hload⟩ | ⟨hfits, hthrows, hload⟩ | ⟨hfits, hencodes, hload⟩
  · rw [hload, readRows_shown_iff (fun x hx => (hcases hfits x hx).1)]
    constructor
    · exact fun h => Or.inl ⟨hfits, fun x hx => (hcases hfits x hx).2.mp (h x hx)⟩
    · rintro (⟨-, h⟩ | ⟨hno, -⟩)
      · exact fun x hx => (hcases hfits x hx).2.mpr (h x hx)
      · exact absurd hfits hno
  · rw [hload]
    refine iff_of_false (by simp) ?_
    rintro (⟨hno, -⟩ | ⟨-, hencodes, -⟩)
    · exact hfits hno
    · exact hthrows hencodes
  · rw [hload]
    simp only [Option.some.injEq, exists_eq_left', onePerRow_nil]
    constructor
    · exact fun h => Or.inr ⟨hfits, hencodes, h⟩
    · rintro (⟨hno, -⟩ | ⟨-, -, h⟩)
      · exact absurd hno hfits
      · exact h

/-- **Invitations.**  They are shown iff the numbers of the ledger and the dates fit, or there is
    nothing to show and the host can encode its copy. -/
theorem invitationsFaithful_iff (ledger : Ledger) :
    InvitationsFaithful dart lossy (exportedLedger sha256 ledger) ledger ↔
      (FitsHost ledger ∧ InvitationsFit ledger) ∨
      (¬ FitsHost ledger ∧ HostEncodes dart sha256 ledger ∧
        ∀ record ∈ invitationsWithStatus ledger, recordStarterKind ledger record = none) := by
  have hrows : projectRows dart "hivra.invitation_current_view" "invitations"
      (some (invitationViewDocument (invitationCurrentViewV1 ledger))) =
        some ((invitationsWithStatus ledger).map fun record => .obj (decodedRow dart
          (invitationItemMembers (invitationCurrentItem ledger (SlotLayout.fromLedger ledger)
            record)))) := by
    have hview := @projectRows_written _ dart _ _ "hivra.invitation_current_view" "invitations"
      _ invitationItemMembers (wellKeyed_invitationView (invitationCurrentViewV1 ledger)) rfl rfl rfl
    exact hview.trans (congrArg some (List.map_map ..))
  have hbound : FitsHost ledger → ∀ ts : UInt64, (∃ event ∈ ledger.events, ts = event.timestamp) →
      ts.toNat < 2 ^ 63 := by
    rintro hfits ts ⟨event, hevent, rfl⟩
    exact hfits.timestamps event hevent
  have hshown := @loadModels_shown_iff _ dart lossy sha256 _ _ _ _ (readInvitation dart)
    (fun a b => decide (b.sentAt.millis ≤ a.sentAt.millis))
    (hivraProjectInvitationCurrentViewV1 lossy) _ ledger _ _
    (fun record => (recordStarterKind ledger record).isSome) ShowsRecord _ (fun _ => rfl) hrows
    fun hfits record hrecord => readInvitation_cases dart ledger (SlotLayout.fromLedger ledger)
      (hbound hfits _ (record_times hrecord).1)
      fun ts hts => hbound hfits ts ((record_times hrecord).2 ts hts)
  unfold InvitationsFaithful loadInvitations
  rw [exportLedgerRoot_exported]
  simpa [InvitationsFit] using hshown

/-- **Relationships.**  They are shown iff the numbers of the ledger and the dates fit, or there
    is nothing to show and the host can encode its copy. -/
theorem relationshipsFaithful_iff (ledger : Ledger) (localTransport : Option PubKey) :
    RelationshipsFaithful dart lossy localTransport (exportedLedger sha256 ledger) ledger ↔
      (FitsHost ledger ∧ RelationshipsFit ledger localTransport) ∨
      (¬ FitsHost ledger ∧ HostEncodes dart sha256 ledger ∧
        projectRelationships ledger localTransport = []) := by
  let projected := projectRelationships ledger localTransport
  have hitems : (relationshipCurrentViewV1 ledger localTransport).relationships
      = projected.map (relationshipCurrentItem projected) := rfl
  have hone : ∀ models, OnePerRow (fun _ => true) ShowsRow
      (relationshipCurrentViewV1 ledger localTransport).relationships models ↔
      OnePerRow (fun _ => true)
        (fun relationship => ShowsRow (relationshipCurrentItem projected relationship))
        projected models := by
    intro models
    unfold OnePerRow
    rw [hitems, List.filter_true, List.filter_true]
    simp only [List.forall₂_map_left_iff]
  have hrows : projectRows dart "hivra.relationship_current_view" "relationships"
      (some (relationshipViewDocument (relationshipCurrentViewV1 ledger localTransport))) =
        some (projected.map fun relationship => .obj (decodedRow dart
          (relationshipItemMembers (relationshipCurrentItem projected relationship)))) := by
    have hview := @projectRows_written _ dart _ _ "hivra.relationship_current_view"
      "relationships" _ relationshipItemMembers
      (wellKeyed_relationshipView (relationshipCurrentViewV1 ledger localTransport)) rfl rfl rfl
    exact hview.trans (congrArg some (List.map_map ..))
  have hread := fun (hfits : FitsHost ledger) relationship (hmem : relationship ∈ projected) =>
    readRelationship_cases dart projected (show relationship.establishedAt.toNat < 2 ^ 63 by
      obtain ⟨event, hevent, hdate⟩ := relationship_time hmem
      rw [hdate]
      exact hfits.timestamps event hevent)
  have hshown := @loadModels_shown_iff _ dart lossy sha256 _ _ _ _ (readRelationship dart)
    (fun left right => decide (right.establishedAt.millis ≤ left.establishedAt.millis))
    (hivraProjectRelationshipCurrentViewV1 lossy localTransport) _ ledger _ _
    (fun _ => true) (fun relationship => ShowsRow (relationshipCurrentItem projected relationship))
    _ (fun _ => rfl) hrows fun hfits relationship hmem =>
      ⟨fun model hmodel => ⟨rfl, (hread hfits relationship hmem).1 model hmodel⟩,
        by simpa using (hread hfits relationship hmem).2⟩
  unfold RelationshipsFaithful loadRelationships
  rw [exportLedgerRoot_exported]
  simpa [hone, RelationshipsFit, List.eq_nil_iff_forall_not_mem] using hshown

/-- The host shows the invitations and the relationships of a runtime state. -/
def HostViewsFaithful (localTransport : Option PubKey) (state : RuntimeState) : Prop :=
  ∀ capsule doc, state.capsule = some capsule → exportRuntimeLedger sha256 state = .ok doc →
    InvitationsFaithful dart lossy doc capsule.ledger ∧
      RelationshipsFaithful dart lossy localTransport doc capsule.ledger

/-- **The host views of a runtime state.**  Whatever the run that led to it, they are total and
    faithful iff the numbers and the dates of the ledger fit, or it does not come through the
    host and there is nothing to show. -/
theorem hostViews_iff (localTransport : Option PubKey) (state : RuntimeState) :
    HostViewsFaithful dart lossy sha256 localTransport state ↔
      ∀ capsule, state.capsule = some capsule →
        (FitsHost capsule.ledger ∧ InvitationsFit capsule.ledger ∧
          RelationshipsFit capsule.ledger localTransport) ∨
        (¬ FitsHost capsule.ledger ∧ HostEncodes dart sha256 capsule.ledger ∧
          (∀ record ∈ invitationsWithStatus capsule.ledger,
            recordStarterKind capsule.ledger record = none) ∧
          projectRelationships capsule.ledger localTransport = []) := by
  have hboth : ∀ ledger : Ledger,
      (InvitationsFaithful dart lossy (exportedLedger sha256 ledger) ledger ∧
        RelationshipsFaithful dart lossy localTransport (exportedLedger sha256 ledger) ledger) ↔
      (FitsHost ledger ∧ InvitationsFit ledger ∧ RelationshipsFit ledger localTransport) ∨
        (¬ FitsHost ledger ∧ HostEncodes dart sha256 ledger ∧
          (∀ record ∈ invitationsWithStatus ledger, recordStarterKind ledger record = none) ∧
          projectRelationships ledger localTransport = []) := by
    intro ledger
    rw [invitationsFaithful_iff, relationshipsFaithful_iff]
    by_cases hfits : FitsHost ledger
    · simp [hfits]
    · simp only [hfits, false_and, false_or, not_false_eq_true, true_and]
      exact ⟨fun h => ⟨h.1.1, h.1.2, h.2.2⟩, fun h => ⟨⟨h.1, h.2.1⟩, h.1, h.2.2⟩⟩
  constructor
  · intro h capsule hcapsule
    have hexport : exportRuntimeLedger sha256 state
        = .ok (exportedLedger sha256 capsule.ledger) := by
      rw [exportRuntimeLedger, hcapsule]
    exact (hboth capsule.ledger).mp (h capsule _ hcapsule hexport)
  · intro h capsule doc hcapsule hexport
    rw [exportRuntimeLedger, hcapsule] at hexport
    rw [← Except.ok.inj hexport]
    exact (hboth capsule.ledger).mpr (h capsule hcapsule)

end Services

/-! ### An offer behind the last date -/

/-- An offer one millisecond behind the last date of the host, as the root key 67 signs it. -/
def lateOffer : Event :=
  let unsigned := Event.newV5 .invitationReceived
    (List.replicate 32 1 ++ List.replicate 32 2 ++ List.replicate 32 17 ++ List.replicate 32 67)
    8640000000000001 ⟨fill 64 0⟩ ⟨fill 32 67⟩
  { unsigned with signature := ⟨⟨(unsigned.eventId sampleDigest).toList ++ List.replicate 32 67,
    by simp⟩⟩ }

/-- The offer in an envelope. -/
def lateOfferEnvelope : DeliveryEnvelope where
  fromPubkey := ⟨fill 32 66⟩
  toPubkey := ⟨fill 32 17⟩
  kind := 1
  payload := lateOffer.payload
  timestamp := lateOffer.timestamp
  domainEvent := some {
    version := 5
    kind := 9
    signer := lateOffer.signer
    signature := lateOffer.signature.bytes.toList }

/-- The host after the offer was delivered. -/
def lateOfferState : RuntimeState :=
  (routeInboundEnvelope samplePlatform hostSeed hostSeed.2 hostOutside lateOfferEnvelope
    ⟨0, 0, 0, 0, 0, 0, 0, 0, 0, 0, 0, 0, 0, 0⟩ hostState).state

/-- **Counterexample.**  The runtime takes the offer; its numbers come through the host, and the
    host does not show its invitations. -/
theorem lateOffer_hidesAll :
    lateOfferState.events.map (fun event => event.timestamp) = [8640000000000001] ∧
      ¬ HostViewsFaithful sampleViews (fun _ => none) sampleDigest none lateOfferState := by
  refine ⟨by decide +kernel, ?_⟩
  intro hfaithful
  have hsome : lateOfferState.capsule.isSome = true := by decide +kernel
  obtain ⟨capsule, hcapsule⟩ := Option.isSome_iff_exists.mp hsome
  have hexport : exportRuntimeLedger sampleDigest lateOfferState
      = .ok (exportedLedger sampleDigest capsule.ledger) := by
    rw [exportRuntimeLedger, hcapsule]
  have hlate : lateOfferState.capsule.any (fun capsule =>
      (invitationsWithStatus capsule.ledger).any fun record =>
        decide (lastHostMillis < record.sentAt.toNat)) = true := by decide +kernel
  have hnumbers : lateOfferState.capsule.all (fun capsule =>
      capsule.ledger.events.all (fun event => decide (event.timestamp.toNat < 2 ^ 63)) &&
        capsule.ledger.continuityV5.all fun continuity =>
          continuity.receipts.all (fun receipt => decide (receipt.sequence.toNat < 2 ^ 63)) &&
            decide (continuity.legacyEventCount < 2 ^ 63)) = true := by decide +kernel
  rw [hcapsule, Option.any_some, List.any_eq_true] at hlate
  obtain ⟨record, hrecord, hbeyond⟩ := hlate
  rw [hcapsule, Option.all_some, Bool.and_eq_true] at hnumbers
  have hcontinuity : ∀ continuity ∈ capsule.ledger.continuityV5,
      (∀ receipt ∈ continuity.receipts, receipt.sequence.toNat < 2 ^ 63) ∧
        continuity.legacyEventCount < 2 ^ 63 := by
    intro continuity hsome
    have hall := hnumbers.2
    rw [Option.mem_def.mp hsome, Option.all_some, Bool.and_eq_true] at hall
    simpa using hall
  have hfits : FitsHost capsule.ledger :=
    ⟨by simpa using hnumbers.1, fun continuity h => (hcontinuity continuity h).1,
      fun continuity h => (hcontinuity continuity h).2⟩
  rcases (invitationsFaithful_iff sampleViews _ sampleDigest capsule.ledger).mp
    (hfaithful capsule _ hcapsule hexport).1 with ⟨-, hdates⟩ | ⟨hno, -⟩
  · have hlast := (hdates record hrecord).1
    rw [decide_eq_true_eq] at hbeyond
    omega
  · exact hno hfits

end Hivra
