import Hivra.Host.DeliveryOutbox

namespace Hivra

open Replay SharedCell

namespace DeliveryOutbox

/-!
# Overlapping outbox calls

Nothing keeps a call on the outbox from writing between the read and the write of another one.
Where it does not happen, the file holds what the completed calls leave in the order in which
they were completed; where it does, what the first one wrote is lost.

* `outbox_serial` — runs whose writes find what was read lose nothing.
* `overlapping_enqueues_lose` — two calls that both read before they write.
-/

/-- An obligation with the texts an item must have. -/
def Obligation.Named (obligation : Obligation) : Prop :=
  (trimmed obligation.transport = obligation.transport ∧ obligation.transport ≠ "") ∧
    (trimmed obligation.kind = obligation.kind ∧ obligation.kind ≠ "") ∧
    (trimmed obligation.reason = obligation.reason ∧ obligation.reason ≠ "")

section Runs

variable {Double ι : Type} [DecidableEq ι] {host : OutboxHost Double} {capsuleHex : String}
  {calls : ι → OutboxCall}

/-- A run of calls on a file; a call that fails leaves what it has written. -/
def outboxRun (host : OutboxHost Double) (capsuleHex : String) (calls : ι → OutboxCall)
    (file : Option (DartValue Double)) (events : List (SharedCell.Event ι)) :
    SharedCell.State (Option (DartValue Double)) (List DeliveryOutboxItem) ι :=
  replay ((outboxCell host capsuleHex).step calls) (State.start file) events

/-- Each step of a run that writes finds in the file the items its call has read, and marks none
    of them that was attempted as often as can be counted. -/
def UndisturbedRun (host : OutboxHost Double) (capsuleHex : String) (calls : ι → OutboxCall)
    (file : Option (DartValue Double)) (events : List (SharedCell.Event ι)) : Prop :=
  Along ((outboxCell host capsuleHex).step calls)
    ((outboxCell host capsuleHex).Fresh calls List.Perm Countable) (State.start file) events

/-- The file holds what the completed calls leave in some order, and every obligation that was
    enqueued. -/
structure NothingLost (host : OutboxHost Double) (capsuleHex : String) (calls : ι → OutboxCall)
    (file : Option (DartValue Double))
    (state : SharedCell.State (Option (DartValue Double)) (List DeliveryOutboxItem) ι) : Prop where
  serial : ∃ order : List ι, order.Perm state.completed ∧
    (load host state.file).Perm
      (replay (fun items i => effect host capsuleHex (calls i) items) (load host file) order)
  enqueued : ∀ i ∈ state.completed, ∀ obligation, (calls i).obligation = some obligation →
    stableId host capsuleHex obligation ∈ (load host state.file).map DeliveryOutboxItem.id

variable {obligation : Obligation}

theorem named_of_ready {call : OutboxCall} (h : ready capsuleHex call = true)
    (hcall : call.obligation = some obligation) : trimmedLower capsuleHex ≠ "" := by
  cases call with
  | enqueue other => simpa [ready] using h
  | enqueueIfAbsent other => simpa [ready] using h
  | _ => exact nomatch hcall

theorem newItem_readable (h : obligation.Named) (hcapsule : trimmedLower capsuleHex ≠ "") :
    Readable (newItem host capsuleHex obligation) := by
  obtain ⟨⟨htransport, htransport'⟩, ⟨hkind, hkind'⟩, hreason, hreason'⟩ := h
  have hid : isHex64 (stableId host capsuleHex obligation) = true := host.sha256Hex_hex _
  refine ⟨trimmed_of_isHex64 hid, trimmedLower_trimmedLower capsuleHex, htransport, hkind, hreason,
    normalizeDeliveryReference_idem obligation.deliveryReference, rfl, rfl, rfl, ?_, Int.le_refl 0⟩
  unfold DeliveryOutboxItem.named
  simp only [newItem, Bool.and_eq_true, bne_iff_ne]
  exact ⟨⟨⟨⟨ne_empty_of_isHex64 hid, hcapsule⟩, htransport'⟩, hkind'⟩, hreason'⟩

variable {items : List DeliveryOutboxItem}

theorem countable_of_obligation {call : OutboxCall} (hcall : call.obligation = some obligation) :
    Countable call items := by
  intro item _ hmarks
  cases call with
  | enqueue other => cases hmarks
  | enqueueIfAbsent other => cases hmarks
  | load => cases hcall
  | markAttempt itemId nextAttemptAt lastError => cases hcall
  | markPublished itemId nextAttemptAt evidence => cases hcall
  | markSuperseded itemId => cases hcall

/-- A call that enqueues leaves its item. -/
theorem effect_enqueues {call : OutboxCall} (hcall : call.obligation = some obligation)
    (hnamed : obligation.Named) (hcapsule : trimmedLower capsuleHex ≠ "")
    (hitems : ∀ item ∈ items, Readable item) :
    stableId host capsuleHex obligation ∈
      (effect host capsuleHex call items).map DeliveryOutboxItem.id := by
  by_cases hheld : holds items (stableId host capsuleHex obligation) = true
  · -- an item that is there stays
    refine effect_keeps hitems ((countable_of_obligation hcall).at _) ?_
    obtain ⟨item, hmem, hid⟩ := List.any_eq_true.mp hheld
    exact List.mem_map.mpr ⟨item, hmem, eq_of_beq hid⟩
  · have hnew : ∀ before : List DeliveryOutboxItem, stableId host capsuleHex obligation ∈
        ((before ++ [newItem host capsuleHex obligation]).filterMap (reread host)).map
          DeliveryOutboxItem.id := fun before =>
      id_mem_reread (List.mem_append_right before (List.mem_singleton.mpr rfl))
        (newItem_readable hnamed hcapsule)
    cases call with
    | enqueue other =>
      obtain rfl : other = obligation := Option.some.inj hcall
      have heffect : effect host capsuleHex (.enqueue other) items =
          (changeItem (stableId host capsuleHex other) (revived other) items ++
            [newItem host capsuleHex other]).filterMap (reread host) := by
        show List.filterMap (reread host) (_ ++ if _ then [] else [_]) = _
        rw [if_neg hheld]
      rw [heffect]
      exact hnew _
    | enqueueIfAbsent other =>
      obtain rfl : other = obligation := Option.some.inj hcall
      unfold effect
      rw [transform_enqueueIfAbsent, if_neg hheld]
      exact hnew _
    | _ => exact nomatch hcall

/-- What a call that enqueues leaves, as long as its obligation has the texts an item must have. -/
def Enqueued (host : OutboxHost Double) (capsuleHex : String) (call : OutboxCall)
    (items : List DeliveryOutboxItem) : Prop :=
  ∀ obligation, call.obligation = some obligation → obligation.Named →
    stableId host capsuleHex obligation ∈ items.map DeliveryOutboxItem.id

/-- **No call takes away what another one enqueued.** -/
theorem enqueued_keeping : Cell.Keeping (outboxCell host capsuleHex) List.Perm Countable
    (effect host capsuleHex) (Enqueued host capsuleHex) where
  congr := fun hperm h obligation hcall hnamed =>
    ((hperm.map DeliveryOutboxItem.id).mem_iff).mp (h obligation hcall hnamed)
  settled := by
    intro call file _ h obligation hcall _
    rcases transform_eq_none.mp (Option.map_eq_none_iff.mp h) with rfl | ⟨other, rfl, hmem⟩
    · cases hcall
    · obtain rfl : other = obligation := Option.some.inj hcall
      exact hmem
  completed := fun hready _ _ hcall hnamed =>
    effect_enqueues hcall hnamed (named_of_ready hready hcall) (readable_load _)
  other := fun hcount h obligation hcall hnamed =>
    effect_keeps (readable_load _) (hcount.at _) (h obligation hcall hnamed)

end Runs

/-- **Outbox updates are not lost in an undisturbed run**: whatever the calls, the file they begin
    with and the calls that fail, the file then holds what the completed calls leave one after
    the other, and every obligation they enqueued. -/
theorem outbox_serial {Double ι : Type} [DecidableEq ι] (host : OutboxHost Double)
    (capsuleHex : String) (calls : ι → OutboxCall) (file : Option (DartValue Double))
    (events : List (SharedCell.Event ι))
    (hnamed : ∀ i obligation, (calls i).obligation = some obligation → obligation.Named)
    (hrun : UndisturbedRun host capsuleHex calls file events) :
    NothingLost host capsuleHex calls file (outboxRun host capsuleHex calls file events) := by
  have hlawful := outboxCell_lawful host capsuleHex
  refine ⟨⟨_, List.Perm.refl _, (Cell.serial_of_fresh hlawful file hrun).serial⟩, ?_⟩
  intro i hi obligation hcall
  exact Cell.left_of_fresh hlawful enqueued_keeping file hrun i hi obligation hcall
    (hnamed i obligation hcall)

/-! ### Two calls that overlap -/

def epochText : List Char := "1970-01-01T00:00:00.000Z".toList

/-- The beginning of the epoch, and other times by their distance from it. -/
def sampleIso (time : ℤ) : String :=
  String.ofList (epochText ++ List.replicate time.natAbs (if time < 0 then '-' else '+'))

def sampleParseDate (text : String) : Option ℤ :=
  if epochText.isPrefixOf text.toList then
    if (text.toList.drop 24).head? = some '-' then some (-(text.toList.drop 24).length)
    else some (text.toList.drop 24).length
  else none

theorem sampleParseDate_iso (time : ℤ) : sampleParseDate (sampleIso time) = some time := by
  unfold sampleParseDate sampleIso
  have hdrop : (epochText ++ List.replicate time.natAbs (if time < 0 then '-' else '+')).drop 24 =
      List.replicate time.natAbs (if time < 0 then '-' else '+') := List.drop_left' rfl
  rw [String.toList_ofList, hdrop, if_pos (by simp), List.length_replicate]
  by_cases hneg : time < 0
  · obtain ⟨n, hn⟩ : ∃ n, time.natAbs = n + 1 := ⟨time.natAbs - 1, by omega⟩
    rw [if_pos hneg, hn, List.replicate_succ, List.head?_cons, if_pos rfl]
    congr 1
    omega
  · rw [if_neg hneg]
    have hhead : (List.replicate time.natAbs '+').head? ≠ some '-' := by
      cases time.natAbs <;> simp [List.replicate_succ]
    rw [if_neg hhead]
    congr 1
    omega

def capsuleText : String := "1111111111111111111111111111111111111111111111111111111111111111"
def firstReference : String := "2222222222222222222222222222222222222222222222222222222222222222"
def secondReference : String := "3333333333333333333333333333333333333333333333333333333333333333"

def invitationText (reference : String) : String :=
  capsuleText ++ "|nostr|InvitationSent|send_invitation_retry|" ++ reference

/-- The digests of the two texts, and another key for every other text. -/
def sampleDigest (text : String) : String :=
  if text = invitationText firstReference then
    "dd1931136fb0a7ad54cc9e1b14091c641bd1d833d52e9d66d9b54ad00aad187e"
  else if text = invitationText secondReference then
    "cd0c14d173fca39d70ef7322d2b433b4b034820b5211ef423fe24cfdf827bf51"
  else capsuleText

theorem sampleDigest_hex (text : String) : isHex64 (sampleDigest text) = true := by
  unfold sampleDigest
  split_ifs <;> decide +kernel

def sampleOutbox : OutboxHost String where
  toDartViews := { sampleViews with
    sort := fun le items => items.insertionSort fun a b => le a b = true
    sort_perm := @insertionSort_perm }
  toIso8601String := sampleIso
  tryParseDate := sampleParseDate
  tryParseDate_iso := sampleParseDate_iso
  tryParseDate_empty := by decide
  sha256Hex := sampleDigest
  sha256Hex_hex := sampleDigest_hex

def invitationObligation (reference : String) : Obligation :=
  ⟨"nostr", "InvitationSent", "send_invitation_retry", some reference, 0⟩

/-- Two obligations are enqueued. -/
def twoEnqueues : Bool → OutboxCall
  | false => .enqueue (invitationObligation firstReference)
  | true => .enqueue (invitationObligation secondReference)

/-- The second call reads before the first one writes. -/
def overlapping : List (SharedCell.Event Bool) :=
  [.advance false, .advance true, .advance false, .advance true]

theorem outbox_serial_sequential :
    NothingLost sampleOutbox capsuleText twoEnqueues none
      (outboxRun sampleOutbox capsuleText twoEnqueues none
        [.advance false, .advance false, .advance true, .advance true]) := by
  refine outbox_serial sampleOutbox capsuleText twoEnqueues none _ ?_ ?_
  · rintro (_ | _) _ ⟨⟩
    · unfold Obligation.Named
      decide +kernel
    · unfold Obligation.Named
      decide +kernel
  · unfold UndisturbedRun
    decide +kernel

/-- The obligation of the first call is not in the file any more. -/
theorem overlapping_enqueues_lose :
    ¬ NothingLost sampleOutbox capsuleText twoEnqueues none
      (outboxRun sampleOutbox capsuleText twoEnqueues none overlapping) := by
  intro h
  have hlost : false ∈ (outboxRun sampleOutbox capsuleText twoEnqueues none overlapping).completed ∧
      stableId sampleOutbox capsuleText (invitationObligation firstReference) ∉
        (load sampleOutbox
          (outboxRun sampleOutbox capsuleText twoEnqueues none overlapping).file).map
            DeliveryOutboxItem.id := by
    decide +kernel
  exact hlost.2 (h.enqueued false hlost.1 _ rfl)

end DeliveryOutbox

end Hivra
