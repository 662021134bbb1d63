import Hivra.Host.DeliveryReceipts

namespace Hivra

open Replay

namespace DeliveryOutbox

/-!
# The states of an outbox item

Calls that meet no other, one after the other on the outbox of a capsule.  A call changes the
items under one id or adds one; whatever the file was, what it leaves is read as it was
written.
-/

section Machine

variable {Double : Type} (host : OutboxHost Double) (capsuleHex : String)

/-! ### One call after the other -/

/-- A call that meets no other. -/
def outboxStep (file : Option (DartValue Double)) (call : OutboxCall) : Option (DartValue Double) :=
  if ready capsuleHex call then
    ((outboxCell host capsuleHex).write call (load host file)).getD
      ((migrated host file).getD file)
  else file

def storeRun (file : Option (DartValue Double)) (calls : List OutboxCall) :
    Option (DartValue Double) :=
  replay (outboxStep host capsuleHex) file calls

/-- The items that are due in a file. -/
def due (now : ℤ) (file : Option (DartValue Double)) : List DeliveryOutboxItem :=
  (load host file).filter (DeliveryLifecycle.isDue now)

/-- An item with the status it is read with. -/
def settledItem (item : DeliveryOutboxItem) : DeliveryOutboxItem :=
  { item with status := readStatus item }

/-- An item that is written by a call on a file. -/
def Written (file : Option (DartValue Double)) (call : OutboxCall) (item : DeliveryOutboxItem) :
    Prop :=
  ∃ next ∈ transform host capsuleHex (load host file) call, item ∈ next

/-- An item of a file that is of an older schema is written back as well. -/
def Refreshed (file : Option (DartValue Double)) (item : DeliveryOutboxItem) : Prop :=
  (migrated host file).isSome = true ∧ item ∈ load host file

variable {host capsuleHex} {call : OutboxCall}

/-- The items behind a call are what it leaves of those before it. -/
theorem load_outboxStep (file : Option (DartValue Double)) (hready : ready capsuleHex call = true) :
    (load host (outboxStep host capsuleHex file call)).Perm
      (effect host capsuleHex call (load host file)) := by
  have hlawful := outboxCell_lawful host capsuleHex
  unfold outboxStep
  rw [if_pos hready]
  cases hwrite : (outboxCell host capsuleHex).write call (load host file) with
  | some written => exact hlawful.write_read hwrite
  | none =>
    refine List.Perm.trans ?_ (hlawful.effect_settled hwrite).symm
    rw [Option.getD_none]
    cases hmigrated : migrated host file with
    | none => exact List.Perm.refl _
    | some refreshed => exact load_migrated hmigrated

variable {file : Option (DartValue Double)} {after : DeliveryOutboxItem}

/-- **Where the items behind a call come from**: an item that was there, changed by the call, or
    the obligation that it enqueues. -/
theorem mem_load_outboxStep (hready : ready capsuleHex call = true)
    (h : after ∈ load host (outboxStep host capsuleHex file call)) :
    (∃ item ∈ load host file, after = settledItem (call.change host capsuleHex item)) ∨
      ∃ obligation, call.obligation = some obligation ∧
        stableId host capsuleHex obligation ∉ (load host file).map DeliveryOutboxItem.id ∧
        reread host (newItem host capsuleHex obligation) = some after := by
  rw [(load_outboxStep file hready).mem_iff] at h
  unfold effect at h
  cases htransform : transform host capsuleHex (load host file) call with
  | none =>
    rw [htransform] at h
    obtain ⟨value, hvalue⟩ := mem_load h
    refine Or.inl ⟨after, h, ?_⟩
    rw [change_of_transform_none htransform, settledItem, (readable_of_fromJson hvalue).2]
  | some next =>
    rw [htransform] at h
    obtain ⟨written, hwritten, hread⟩ := List.mem_filterMap.mp h
    have hchanged : written ∈ (load host file).map (call.change host capsuleHex) →
        ∃ item ∈ load host file, after = settledItem (call.change host capsuleHex item) := by
      intro hmem
      obtain ⟨item, hitem, rfl⟩ := List.mem_map.mp hmem
      have hreadable := (change_keeps host capsuleHex call item (readable_load file item hitem)).1
        (counted_of_reread hread)
      rw [reread_of_readable hreadable] at hread
      exact ⟨item, hitem, (Option.some.inj hread).symm⟩
    rcases transform_eq_some htransform with ⟨rfl, -⟩ | ⟨obligation, hcall, habsent, rfl⟩
    · exact Or.inl (hchanged hwritten)
    · rcases List.mem_append.mp hwritten with hold | hnew
      · exact Or.inl (hchanged hold)
      · rw [List.mem_singleton.mp hnew] at hread
        exact Or.inr ⟨obligation, hcall, habsent, hread⟩

/-- The evidence of a publication. -/
def evidenceOf (item : DeliveryOutboxItem) :
    Option String × Option String × Option String × Option ℕ × Option ℕ × Option ℤ :=
  (item.recipientHex, item.adapterAcceptedBy, item.adapterEnvelopeId, item.adapterMessageKind,
    item.adapterFailedBeforeAccept, item.publishedAt)

/-- An obligation that was enqueued is read under its id and without evidence. -/
theorem reread_newItem {obligation : Obligation}
    (h : reread host (newItem host capsuleHex obligation) = some after) :
    after.id = stableId host capsuleHex obligation ∧
      evidenceOf after = (none, none, none, none, none, none) := by
  obtain ⟨hid, -, -, -, -, -, hrecipient, haccepted, henvelope, hmessage, hfailed, hpublished,
    -, -, -, -, -⟩ := @lookup_itemMembers _ host (newItem host capsuleHex obligation)
  have hhex : isHex64 (stableId host capsuleHex obligation) = true := host.sha256Hex_hex _
  have hread : itemOfMembers host (itemMembers host (newItem host capsuleHex obligation))
      = some after := h
  unfold itemOfMembers at hread
  split at hread
  · rw [checkedItem] at hread
    split_ifs at hread
    rw [← Option.some.inj hread]
    unfold itemOf evidenceOf
    rw [textMember_of hid, textMember_of hrecipient, textMember_of haccepted,
      textMember_of henvelope, countMember_of hmessage, countMember_of hfailed,
      dateMember_of hpublished]
    exact ⟨trimmed_of_isHex64 hhex, rfl⟩
  · cases hread

/-! ### Finished items -/

/-- Published or superseded. -/
def Finished (status : DeliveryOutboxStatus) : Prop :=
  status = .published ∨ status = .superseded

variable {item : DeliveryOutboxItem}

/-- What is read of a finished item is finished in the same way. -/
theorem readStatus_of_finished (h : Finished item.status) : readStatus item = item.status := by
  unfold readStatus quarantineUnbound
  rcases h with h | h
  · simp [h]
  · simp [h]

/-- A finished item stays finished with every call that does not enqueue its obligation. -/
theorem finished_change (h : Finished item.status)
    (hcall : ∀ obligation, call = .enqueue obligation → stableId host capsuleHex obligation ≠ item.id) :
    Finished (settledItem (call.change host capsuleHex item)).status := by
  have hkept : ∀ changed : DeliveryOutboxItem, Finished changed.status →
      Finished (settledItem changed).status := by
    intro changed hchanged
    show Finished (readStatus changed)
    rw [readStatus_of_finished hchanged]
    exact hchanged
  apply hkept
  unfold OutboxCall.change
  cases call with
  | load => exact h
  | enqueueIfAbsent obligation => exact h
  | enqueue obligation =>
    dsimp only
    rw [if_neg (Ne.symm (hcall obligation rfl))]
    exact h
  | markAttempt itemId nextAttemptAt lastError =>
    dsimp only
    split_ifs
    · exact h
    · exact h
  | markPublished itemId nextAttemptAt evidence =>
    dsimp only
    split_ifs
    · exact Or.inl rfl
    · exact h
  | markSuperseded itemId =>
    dsimp only
    split_ifs
    · exact Or.inr rfl
    · exact h

theorem outboxStep_not_ready (h : ¬ ready capsuleHex call = true) :
    outboxStep host capsuleHex file call = file := by
  rw [outboxStep, if_neg h]

/-- The change of a call keeps the id. -/
theorem settledItem_change_id (h : item ∈ load host file) (call : OutboxCall) :
    (settledItem (call.change host capsuleHex item)).id = item.id :=
  (change_keeps host capsuleHex call item (readable_load file item h)).2

variable {itemId : String}

/-- A call loses no id, unless it counts too far. -/
theorem id_mem_outboxStep (h : itemId ∈ (load host file).map DeliveryOutboxItem.id)
    (hcount : CountableAt itemId call (load host file)) :
    itemId ∈ (load host (outboxStep host capsuleHex file call)).map DeliveryOutboxItem.id := by
  by_cases hready : ready capsuleHex call = true
  · rw [((load_outboxStep file hready).map DeliveryOutboxItem.id).mem_iff]
    exact effect_keeps (readable_load file) hcount h
  · rw [outboxStep_not_ready hready]
    exact h

/-- All items under an id are finished, and there is one. -/
def FinishedId (host : OutboxHost Double) (itemId : String) (file : Option (DartValue Double)) :
    Prop :=
  itemId ∈ (load host file).map DeliveryOutboxItem.id ∧
    ∀ item ∈ load host file, item.id = itemId → Finished item.status

theorem FinishedId.step (h : FinishedId host itemId file)
    (hcount : CountableAt itemId call (load host file))
    (hcall : ∀ obligation, call = .enqueue obligation → stableId host capsuleHex obligation ≠ itemId) :
    FinishedId host itemId (outboxStep host capsuleHex file call) := by
  by_cases hready : ready capsuleHex call = true
  · refine ⟨id_mem_outboxStep h.1 hcount, ?_⟩
    intro after hafter hid
    rcases mem_load_outboxStep hready hafter with ⟨item, hitem, rfl⟩ |
      ⟨obligation, hobligation, habsent, hread⟩
    · rw [settledItem_change_id hitem] at hid
      exact finished_change (h.2 item hitem hid) (by rw [hid]; exact hcall)
    · -- a new item has an id that was not there
      rw [← (reread_newItem hread).1, hid] at habsent
      exact absurd h.1 habsent
  · rw [outboxStep_not_ready hready]
    exact h

/-- No call of a run marks an item under an id that was attempted as often as can be counted. -/
def CountedRun (host : OutboxHost Double) (capsuleHex itemId : String)
    (file : Option (DartValue Double)) (calls : List OutboxCall) : Prop :=
  Along (outboxStep host capsuleHex) (fun file call => CountableAt itemId call (load host file))
    file calls

/-- **A finished item is pending again only after its obligation was enqueued**, unless its
    attempts were counted too far. -/
theorem finishedId_run (h : FinishedId host itemId file) {calls : List OutboxCall}
    (hcounted : CountedRun host capsuleHex itemId file calls)
    (hcalls : ∀ obligation, .enqueue obligation ∈ calls →
      stableId host capsuleHex obligation ≠ itemId) :
    FinishedId host itemId (storeRun host capsuleHex file calls) := by
  induction calls generalizing file with
  | nil => exact h
  | cons call calls ih =>
    refine ih (h.step hcounted.1 ?_) hcounted.2 ?_
    · exact fun obligation heq => hcalls obligation (List.mem_cons.mpr (Or.inl heq.symm))
    · exact fun obligation hmem => hcalls obligation (List.mem_cons_of_mem call hmem)

/-! ### The evidence of a publication -/

/-- What last gave the items under an id their evidence, or took it. -/
inductive LastChange
  | stored
  | enqueued
  | published
  deriving DecidableEq

/-- A file, and what last changed the evidence under each id. -/
structure TrackedOutbox (Double : Type) where
  file : Option (DartValue Double)
  last : String → LastChange

/-- The change of a call that gets as far as to read. -/
def lastChange (host : OutboxHost Double) (capsuleHex : String) (file : Option (DartValue Double))
    (last : String → LastChange) (call : OutboxCall) (itemId : String) : LastChange :=
  match call with
  | .enqueue obligation =>
    if itemId = stableId host capsuleHex obligation then .enqueued else last itemId
  | .enqueueIfAbsent obligation =>
    if itemId = stableId host capsuleHex obligation ∧
        itemId ∉ (load host file).map DeliveryOutboxItem.id then .enqueued
    else last itemId
  | .markPublished changedId _ _ =>
    if itemId = changedId ∧ itemId ∈ (load host file).map DeliveryOutboxItem.id then .published
    else last itemId
  | _ => last itemId

def trackedStep (host : OutboxHost Double) (capsuleHex : String) (state : TrackedOutbox Double)
    (call : OutboxCall) : TrackedOutbox Double where
  file := outboxStep host capsuleHex state.file call
  last :=
    if ready capsuleHex call then lastChange host capsuleHex state.file state.last call
    else state.last

def trackedRun (host : OutboxHost Double) (capsuleHex : String) (file : Option (DartValue Double))
    (calls : List OutboxCall) : TrackedOutbox Double :=
  replay (trackedStep host capsuleHex) ⟨file, fun _ => .stored⟩ calls

/-- All evidence is there. -/
def HasEvidence (item : DeliveryOutboxItem) : Prop :=
  item.recipientHex.isSome = true ∧ item.adapterAcceptedBy.isSome = true ∧
    item.adapterEnvelopeId.isSome = true ∧ item.adapterMessageKind.isSome = true ∧
    item.adapterFailedBeforeAccept.isSome = true ∧ item.publishedAt.isSome = true

instance (item : DeliveryOutboxItem) : Decidable (HasEvidence item) :=
  inferInstanceAs (Decidable (_ ∧ _))

/-- There is no evidence. -/
def NoEvidence (item : DeliveryOutboxItem) : Prop :=
  evidenceOf item = (none, none, none, none, none, none)

/-- The evidence of an item is that of what changed it last. -/
def EvidenceKept (host : OutboxHost Double) (before : Option (DartValue Double))
    (last : LastChange) (item : DeliveryOutboxItem) : Prop :=
  match last with
  | .published => HasEvidence item
  | .enqueued => NoEvidence item
  | .stored => ∃ old ∈ load host before, old.id = item.id ∧ evidenceOf old = evidenceOf item

theorem hasEvidence_of_eq {item item' : DeliveryOutboxItem}
    (h : evidenceOf item = evidenceOf item') : HasEvidence item ↔ HasEvidence item' := by
  simp only [evidenceOf, Prod.mk.injEq] at h
  obtain ⟨hrecipient, haccepted, henvelope, hmessage, hfailed, hpublished⟩ := h
  unfold HasEvidence
  rw [hrecipient, haccepted, henvelope, hmessage, hfailed, hpublished]

/-- Only the evidence of an item matters to whether it is kept. -/
theorem EvidenceKept.congr {before : Option (DartValue Double)} {last : LastChange}
    {item item' : DeliveryOutboxItem} (hid : item.id = item'.id)
    (h : evidenceOf item = evidenceOf item') (hkept : EvidenceKept host before last item) :
    EvidenceKept host before last item' := by
  cases last with
  | published => exact (hasEvidence_of_eq h).mp hkept
  | enqueued => exact h.symm.trans hkept
  | stored =>
    obtain ⟨old, hold, holdId, hevidence⟩ := hkept
    exact ⟨old, hold, holdId.trans hid, hevidence.trans h⟩

theorem evidenceOf_settledItem (item : DeliveryOutboxItem) :
    evidenceOf (settledItem item) = evidenceOf item := rfl

/-- Complete evidence is there once it is written. -/
theorem hasEvidence_publishedItem {nextAttemptAt : ℤ} {evidence : PublicationEvidence}
    (h : evidence.complete = true) (item : DeliveryOutboxItem) :
    HasEvidence (publishedItem nextAttemptAt evidence item) := by
  simp only [PublicationEvidence.complete, Bool.and_eq_true] at h
  obtain ⟨⟨⟨⟨hrecipient, haccepted⟩, henvelope⟩, -⟩, -⟩ := h
  unfold HasEvidence publishedItem
  dsimp only
  exact ⟨hrecipient, haccepted, henvelope, rfl, rfl, rfl⟩

/-- What a call makes of the evidence of an item that is there. -/
theorem evidenceKept_change {before file : Option (DartValue Double)} {last : String → LastChange}
    (hready : ready capsuleHex call = true) (hitem : item ∈ load host file)
    (h : EvidenceKept host before (last item.id) item) :
    EvidenceKept host before (lastChange host capsuleHex file last call item.id)
      (settledItem (call.change host capsuleHex item)) := by
  have hpresent : item.id ∈ (load host file).map DeliveryOutboxItem.id :=
    List.mem_map_of_mem hitem
  unfold OutboxCall.change lastChange
  cases call with
  | load => exact h.congr rfl rfl
  | enqueue obligation =>
    dsimp only
    split_ifs with hnamed
    · rfl
    · exact h.congr rfl rfl
  | enqueueIfAbsent obligation =>
    dsimp only
    rw [if_neg fun hnew => hnew.2 hpresent]
    exact h.congr rfl rfl
  | markAttempt itemId nextAttemptAt lastError =>
    dsimp only
    split_ifs
    · exact h.congr rfl rfl
    · exact h.congr rfl rfl
  | markPublished itemId nextAttemptAt evidence =>
    dsimp only
    by_cases hnamed : item.id = itemId
    · rw [if_pos hnamed, if_pos ⟨hnamed, hpresent⟩]
      have hcomplete : evidence.complete = true := by simpa only [ready] using hready
      exact (hasEvidence_of_eq (evidenceOf_settledItem _)).mpr
        (hasEvidence_publishedItem hcomplete item)
    · rw [if_neg hnamed, if_neg fun hboth => hnamed hboth.1]
      exact h.congr rfl rfl
  | markSuperseded itemId =>
    dsimp only
    split_ifs
    · exact h.congr rfl rfl
    · exact h.congr rfl rfl

/-- **An item has the evidence of its last publication**, unless it was enqueued since. -/
theorem evidenceKept_run (file : Option (DartValue Double)) (calls : List OutboxCall) :
    ∀ item ∈ load host (trackedRun host capsuleHex file calls).file,
      EvidenceKept host file ((trackedRun host capsuleHex file calls).last item.id) item := by
  refine replay_invariant (P := fun state : TrackedOutbox Double =>
    ∀ item ∈ load host state.file, EvidenceKept host file (state.last item.id) item) ?_ ?_
  · exact fun item hitem => ⟨item, hitem, rfl, rfl⟩
  · intro state call _ hstate after hafter
    unfold trackedStep at hafter ⊢
    dsimp only at hafter ⊢
    by_cases hready : ready capsuleHex call = true
    · rw [if_pos hready]
      rcases mem_load_outboxStep hready hafter with ⟨item, hitem, rfl⟩ |
        ⟨obligation, hobligation, habsent, hread⟩
      · rw [settledItem_change_id hitem]
        exact evidenceKept_change hready hitem (hstate item hitem)
      · obtain ⟨hid, hnone⟩ := reread_newItem hread
        have hlast : lastChange host capsuleHex state.file state.last call after.id = .enqueued := by
          rw [hid]
          cases call with
          | enqueue other =>
            obtain rfl : other = obligation := Option.some.inj hobligation
            exact if_pos rfl
          | enqueueIfAbsent other =>
            obtain rfl : other = obligation := Option.some.inj hobligation
            exact if_pos ⟨rfl, habsent⟩
          | load => cases hobligation
          | markAttempt itemId nextAttemptAt lastError => cases hobligation
          | markPublished itemId nextAttemptAt evidence => cases hobligation
          | markSuperseded itemId => cases hobligation
        rw [hlast]
        exact hnone
    · rw [if_neg hready]
      rw [outboxStep_not_ready hready] at hafter
      exact hstate after hafter

theorem trackedRun_file (file : Option (DartValue Double)) (calls : List OutboxCall) :
    (trackedRun host capsuleHex file calls).file = storeRun host capsuleHex file calls :=
  replay_simulation (R := fun (state : TrackedOutbox Double) file => state.file = file) rfl
    fun state file call _ hsame => by
      show outboxStep host capsuleHex state.file call = _
      rw [hsame]

/-- The items under an id whose last change was a publication have its evidence. -/
theorem hasEvidence_of_last {calls : List OutboxCall}
    (h : (trackedRun host capsuleHex file calls).last itemId = .published) :
    ∀ item ∈ load host (storeRun host capsuleHex file calls), item.id = itemId →
      HasEvidence item := by
  intro item hitem hid
  rw [← trackedRun_file] at hitem
  have hkept := evidenceKept_run file calls item hitem
  rw [hid, h] at hkept
  exact hkept

/-! ### What is written is read back -/

/-- An item that is written is read as itself, unless it was enqueued with texts that are blank
    or have white space at their ends, or its attempts were counted too far. -/
theorem reread_written (hready : ready capsuleHex call = true)
    (hcount : Countable call (load host file))
    (hnamed : ∀ obligation, call.obligation = some obligation → obligation.Named)
    (h : Written host capsuleHex file call item) : reread host item = some (settledItem item) := by
  obtain ⟨next, hnext, hitem⟩ := h
  have hchanged : item ∈ (load host file).map (call.change host capsuleHex) → Readable item := by
    intro hmem
    obtain ⟨old, hold, rfl⟩ := List.mem_map.mp hmem
    exact readable_change (readable_load file old hold) (hcount old hold)
  apply reread_of_readable
  rcases transform_eq_some hnext with ⟨rfl, -⟩ | ⟨obligation, hcall, -, rfl⟩
  · exact hchanged hitem
  · rcases List.mem_append.mp hitem with hold | hnew
    · exact hchanged hold
    · rw [List.mem_singleton.mp hnew]
      exact newItem_readable (hnamed obligation hcall) (named_of_ready hready hcall)

/-- What is read of a file is written back as itself. -/
theorem reread_refreshed (h : Refreshed host file item) :
    reread host item = some (settledItem item) := by
  obtain ⟨value, hvalue⟩ := mem_load h.2
  exact reread_of_readable (readable_of_fromJson hvalue).1

/-- A file that was written is of the current schema. -/
theorem migrated_write (items : List DeliveryOutboxItem) :
    migrated host (write host items) = none :=
  rfl

/-- A load leaves the items, and after a load the next one leaves the file. -/
theorem load_again (file : Option (DartValue Double)) :
    (load host (outboxStep host capsuleHex file .load)).Perm (load host file) ∧
      outboxStep host capsuleHex (outboxStep host capsuleHex file .load) .load
        = outboxStep host capsuleHex file .load := by
  refine ⟨load_outboxStep file rfl, ?_⟩
  have hload : ∀ other : Option (DartValue Double),
      outboxStep host capsuleHex other .load = (migrated host other).getD other := fun _ => rfl
  rw [hload, hload]
  cases hmigrated : migrated host file with
  | none => rw [Option.getD_none, hmigrated, Option.getD_none]
  | some refreshed =>
    have hcurrent : migrated host refreshed = none := by
      unfold migrated at hmigrated
      split at hmigrated
      · split_ifs at hmigrated
        obtain ⟨items, -, rfl⟩ := Option.map_eq_some_iff.mp hmigrated
        exact migrated_write _
      · cases hmigrated
    rw [Option.getD_some, hcurrent, Option.getD_none]

end Machine

/-- **The states of an item in the file that a run of calls leaves.** -/
structure StatusMachine {Double : Type} (host : OutboxHost Double) (capsuleHex : String)
    (file : Option (DartValue Double)) (calls : List OutboxCall) : Prop where
  /-- Nothing without a reference is due. -/
  bound : ∀ now, ∀ item ∈ due host now (storeRun host capsuleHex file calls),
    item.deliveryReference.isSome = true
  /-- A finished item is pending again only after its obligation was enqueued. -/
  finished : ∀ itemId, FinishedId host itemId file → CountedRun host capsuleHex itemId file calls →
    (∃ item ∈ load host (storeRun host capsuleHex file calls),
      item.id = itemId ∧ item.status = .pending) →
    ∃ obligation, .enqueue obligation ∈ calls ∧ stableId host capsuleHex obligation = itemId
  /-- An item has the evidence of its last publication since it was enqueued. -/
  evidence : ∀ item ∈ load host (storeRun host capsuleHex file calls),
    EvidenceKept host file ((trackedRun host capsuleHex file calls).last item.id) item
  /-- What the next call writes is read back as itself. -/
  reread : ∀ call, ready capsuleHex call = true →
    Countable call (load host (storeRun host capsuleHex file calls)) →
    (∀ obligation, call.obligation = some obligation → obligation.Named) →
    ∀ item, Written host capsuleHex (storeRun host capsuleHex file calls) call item ∨
        Refreshed host (storeRun host capsuleHex file calls) item →
      reread host item = some (settledItem item)
  /-- A load leaves the items, and the next one the file. -/
  stable : (load host (outboxStep host capsuleHex (storeRun host capsuleHex file calls) .load)).Perm
      (load host (storeRun host capsuleHex file calls)) ∧
    outboxStep host capsuleHex
        (outboxStep host capsuleHex (storeRun host capsuleHex file calls) .load) .load
      = outboxStep host capsuleHex (storeRun host capsuleHex file calls) .load

/-- **The states of an outbox item**, for every file and every run of calls. -/
theorem outbox_statusMachine {Double : Type} (host : OutboxHost Double) (capsuleHex : String)
    (file : Option (DartValue Double)) (calls : List OutboxCall) :
    StatusMachine host capsuleHex file calls where
  bound := by
    intro now item hitem
    obtain ⟨hmem, hdue⟩ := List.mem_filter.mp hitem
    obtain ⟨value, hvalue⟩ := mem_load hmem
    have hpending : item.status = .pending := eq_of_beq (Bool.and_eq_true_iff.mp hdue).1
    have hstatus := (readable_of_fromJson hvalue).2
    rw [hpending, readStatus, hpending, quarantineUnbound] at hstatus
    cases hreference : item.deliveryReference with
    | some reference => rfl
    | none =>
      rw [hreference] at hstatus
      cases hstatus
  finished := by
    rintro itemId hfinished hcounted ⟨item, hitem, hid, hpending⟩
    by_contra hnone
    have hrun := finishedId_run hfinished hcounted
      fun obligation hmem heq => hnone ⟨obligation, hmem, heq⟩
    rcases hrun.2 item hitem hid with h | h
    · rw [hpending] at h
      cases h
    · rw [hpending] at h
      cases h
  evidence := by
    rw [← trackedRun_file]
    exact evidenceKept_run file calls
  reread := by
    rintro call hready hcount hnamed item (hwritten | hrefreshed)
    · exact reread_written hready hcount hnamed hwritten
    · exact reread_refreshed hrefreshed
  stable := load_again _

/-! ### Evidence of an earlier publication -/

/-- The id a call is about. -/
def OutboxCall.itemId {Double : Type} (host : OutboxHost Double) (capsuleHex : String) :
    OutboxCall → Option String
  | .load => none
  | .enqueue obligation => some (stableId host capsuleHex obligation)
  | .enqueueIfAbsent obligation => some (stableId host capsuleHex obligation)
  | .markAttempt itemId _ _ => some itemId
  | .markPublished itemId _ _ => some itemId
  | .markSuperseded itemId => some itemId

/-- The evidence is on the items whose last call published them, and on no other. -/
def EvidenceOfLastCall {Double : Type} (host : OutboxHost Double) (capsuleHex : String)
    (calls : List OutboxCall) : Prop :=
  ∀ item ∈ load host (storeRun host capsuleHex none calls),
    HasEvidence item ↔ ∃ nextAttemptAt evidence,
      (calls.filter fun call => call.itemId host capsuleHex == some item.id).getLast?
        = some (.markPublished item.id nextAttemptAt evidence)

/-- An obligation that was published and then superseded has its evidence still. -/
theorem hasEvidence_of_superseded {Double : Type} {host : OutboxHost Double} {capsuleHex : String}
    {obligation : Obligation} (hnamed : obligation.Named)
    (hcapsule : trimmedLower capsuleHex ≠ "") {evidence : PublicationEvidence}
    (hcomplete : evidence.complete = true) (nextAttemptAt : ℤ) :
    ∃ item ∈ load host (storeRun host capsuleHex none [.enqueue obligation,
        .markPublished (stableId host capsuleHex obligation) nextAttemptAt evidence,
        .markSuperseded (stableId host capsuleHex obligation)]),
      HasEvidence item ∧ item.id = stableId host capsuleHex obligation := by
  have hready : ready capsuleHex (.enqueue obligation) = true := by simpa [ready] using hcapsule
  have hpresent : stableId host capsuleHex obligation ∈
      (load host (outboxStep host capsuleHex none (.enqueue obligation))).map
        DeliveryOutboxItem.id := by
    rw [((load_outboxStep none hready).map DeliveryOutboxItem.id).mem_iff]
    exact effect_enqueues rfl hnamed hcapsule (readable_load none)
  have hrun : storeRun host capsuleHex none [.enqueue obligation,
      .markPublished (stableId host capsuleHex obligation) nextAttemptAt evidence,
      .markSuperseded (stableId host capsuleHex obligation)]
      = outboxStep host capsuleHex (outboxStep host capsuleHex
          (outboxStep host capsuleHex none (.enqueue obligation))
          (.markPublished (stableId host capsuleHex obligation) nextAttemptAt evidence))
          (.markSuperseded (stableId host capsuleHex obligation)) := rfl
  -- a new item was not attempted yet
  have hcount : CountableAt (stableId host capsuleHex obligation)
      (.markPublished (stableId host capsuleHex obligation) nextAttemptAt evidence)
      (load host (outboxStep host capsuleHex none (.enqueue obligation))) := by
    intro item hitem _ _
    rcases mem_load_outboxStep hready hitem with ⟨old, hold, -⟩ | ⟨other, hother, -, hread⟩
    · cases hold
    · obtain rfl : obligation = other := Option.some.inj hother
      rw [reread_of_readable (newItem_readable hnamed hcapsule)] at hread
      rw [← Option.some.inj hread]
      exact show (0 : ℤ) < 9223372036854775807 by decide
  have hsuperseded : CountableAt (stableId host capsuleHex obligation)
      (.markSuperseded (stableId host capsuleHex obligation))
      (load host (outboxStep host capsuleHex
        (outboxStep host capsuleHex none (.enqueue obligation))
        (.markPublished (stableId host capsuleHex obligation) nextAttemptAt evidence))) := by
    intro _ _ _ hmarks
    cases hmarks
  obtain ⟨item, hitem, hid⟩ := List.mem_map.mp
    (id_mem_outboxStep (id_mem_outboxStep hpresent hcount) hsuperseded)
  rw [← hrun] at hitem
  refine ⟨item, hitem, ?_, hid⟩
  refine hasEvidence_of_last ?_ item hitem hid
  -- the last change of its evidence was the publication
  simp only [trackedRun, replay_cons, replay_nil, trackedStep, hready,
    show ready capsuleHex (.markPublished (stableId host capsuleHex obligation) nextAttemptAt
      evidence) = true from hcomplete,
    show ready capsuleHex (.markSuperseded (stableId host capsuleHex obligation)) = true from rfl,
    ↓reduceIte, lastChange, hpresent, and_self]

def offerId : String := stableId sampleOutbox capsuleText (invitationObligation firstReference)

/-- An offer is enqueued, published and superseded. -/
def supersedingCalls : List OutboxCall :=
  [.enqueue (invitationObligation firstReference),
    .markPublished offerId 5 ⟨capsuleText, "relay", "envelope", 1, 0, 4⟩,
    .markSuperseded offerId]

/-- A published offer with as many attempts as can be counted. -/
def countedOffer : DeliveryOutboxItem :=
  { newItem sampleOutbox capsuleText (invitationObligation firstReference) with
    attempts := 9223372036854775807
    status := .published }

/-- **Counterexample.** A superseded offer still has the evidence of its publication, an
    obligation with a blank reason is not read back, and a published offer whose attempts are
    counted too far is lost and enqueued as a new one. -/
theorem supersededOffer_hasEvidence :
    (¬ ∀ calls, EvidenceOfLastCall sampleOutbox capsuleText calls) ∧
    (¬ ∀ (file : Option (DartValue String)) (call : OutboxCall),
      ready capsuleText call = true → ∀ item, Written sampleOutbox capsuleText file call item →
        reread sampleOutbox item = some (settledItem item)) ∧
    ¬ ∀ (file : Option (DartValue String)) (calls : List OutboxCall),
      FinishedId sampleOutbox offerId file →
      (∃ item ∈ load sampleOutbox (storeRun sampleOutbox capsuleText file calls),
        item.id = offerId ∧ item.status = .pending) →
      ∃ obligation, .enqueue obligation ∈ calls ∧
        stableId sampleOutbox capsuleText obligation = offerId := by
  refine ⟨?_, ?_, ?_⟩
  · intro hclaim
    have hevidence : ∃ item ∈ load sampleOutbox (storeRun sampleOutbox capsuleText none
        supersedingCalls), HasEvidence item ∧ item.id = offerId := by
      have hnamed : (invitationObligation firstReference).Named := by
        unfold Obligation.Named
        decide +kernel
      have hcapsule : trimmedLower capsuleText ≠ "" := by decide +kernel
      have hcomplete : PublicationEvidence.complete ⟨capsuleText, "relay", "envelope", 1, 0, 4⟩
          = true := by decide +kernel
      unfold supersedingCalls offerId
      exact hasEvidence_of_superseded hnamed hcapsule hcomplete 5
    obtain ⟨item, hitem, hhas, hid⟩ := hevidence
    obtain ⟨_, _, hlast⟩ := (hclaim supersedingCalls item hitem).mp hhas
    have hsuperseded : (supersedingCalls.filter fun call =>
        call.itemId sampleOutbox capsuleText == some offerId).getLast?
          = some (.markSuperseded offerId) := by decide +kernel
    rw [hid, hsuperseded] at hlast
    cases hlast
  · intro hclaim
    have hlost : reread sampleOutbox (newItem sampleOutbox capsuleText
        { invitationObligation firstReference with reason := "" }) = none := by decide +kernel
    have hread := hclaim none
      (.enqueue { invitationObligation firstReference with reason := "" }) (by decide +kernel) _
      ⟨_, rfl, List.mem_append_right _ (List.mem_singleton_self _)⟩
    rw [hlost] at hread
    cases hread
  · intro hclaim
    have hrun : FinishedId sampleOutbox offerId (write sampleOutbox [countedOffer]) ∧
        ∃ item ∈ load sampleOutbox (storeRun sampleOutbox capsuleText
          (write sampleOutbox [countedOffer]) [.markAttempt offerId 5 none,
            .enqueueIfAbsent (invitationObligation firstReference)]),
          item.id = offerId ∧ item.status = .pending := by
      unfold FinishedId Finished
      decide +kernel
    obtain ⟨obligation, hmem, -⟩ := hclaim _ _ hrun.1 hrun.2
    simp at hmem

end DeliveryOutbox

end Hivra
