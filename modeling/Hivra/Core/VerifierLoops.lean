import Hivra.Core.Ledger
import Mathlib.Data.List.Induction

namespace Hivra

/-!
# The loops over a v4 ledger

Appending checks one event against the ledger before it, and two verifiers check a whole ledger in
loops of their own.  All of them come to the same ledgers.

* `Ledger.History.append`, `Ledger.append_of_history` — what an append keeps, and when it succeeds.
-/

open ByteString

namespace Ledger

/-- The loop of `verify` over the rest of the events, with the index of the next one. -/
def verifyFrom (ledger : Ledger) (index : ℕ) (hash : UInt64) (lastTs : Option Timestamp) :
    List Event → Bool
  | [] => hash == ledger.lastHash
  | event :: rest =>
    if event.version ≠ protocolVersion then false
    else if (ledger.events.take index).any (· == event) then false
    else if lastTs.any (fun ts => decide (event.timestamp < ts)) then false
    else verifyFrom ledger (index + 1) (chainHash hash event) (some event.timestamp) rest

/-- What `verify` does with a v4 ledger. -/
def verifyV4 (ledger : Ledger) : Bool := verifyFrom ledger 0 0 none ledger.events

/-- Append events one after the other; none may be refused. -/
def appendAll (ledger : Ledger) (events : List Event) : Except LedgerError Ledger :=
  events.foldlM append ledger

/-- **The two verifiers make the same checks**, with the events that are passed in a list of their
    own or as a prefix. -/
theorem verifyFrom_eq (ledger : Ledger) {seen rest : List Event}
    (hevents : ledger.events = seen ++ rest) (hash : UInt64) (lastTs : Option Timestamp) :
    ledger.verifyFrom seen.length hash lastTs rest
      = verifyV4Loop ledger.lastHash seen hash lastTs rest := by
  induction rest generalizing seen hash lastTs with
  | nil => rfl
  | cons event rest ih =>
    have htake : ledger.events.take seen.length = seen := by
      rw [hevents]
      exact List.take_left
    have hnext := @ih (seen ++ [event]) (by rw [hevents]; simp) (chainHash hash event)
      (some event.timestamp)
    rw [List.length_append, List.length_singleton] at hnext
    rw [verifyFrom, verifyV4Loop, htake, hnext]

theorem verifyV4_eq (ledger : Ledger) :
    ledger.verifyV4 = verifyV4Events ledger.events ledger.lastHash :=
  verifyFrom_eq ledger (List.nil_append _).symm 0 none

/-- A v4 ledger of an owner with a history. -/
structure History (owner : PubKey) (ledger : Ledger) : Prop where
  isV4 : ledger.continuityV5 = none
  owner_eq : ledger.owner = owner
  history : V4History ledger.events ledger.lastHash

theorem History.new (owner : PubKey) : History owner (new owner) where
  isV4 := rfl
  owner_eq := rfl
  history := ⟨by simp [Ledger.new], List.nodup_nil, List.Pairwise.nil, rfl⟩

variable {events : List Event} {hash : UInt64} {event : Event}

/-- Every event of a history is at most as late as its last one. -/
theorem V4History.le_of_last (h : V4History events hash) {ts : Timestamp}
    (hlast : ∀ last ∈ events.getLast?, last.timestamp ≤ ts) (hevent : event ∈ events) :
    event.timestamp ≤ ts := by
  cases events using List.reverseRecOn with
  | nil => cases hevent
  | append_singleton events last =>
    have hle := hlast last (by simp)
    rcases List.mem_append.mp hevent with hbefore | hsame
    · have hpair := (List.pairwise_append.mp h.ordered).2.2
      exact UInt64.le_trans (hpair event hbefore last (List.mem_singleton_self last)) hle
    · rw [List.mem_singleton.mp hsame]
      exact hle

variable {owner : PubKey} {ledger ledger' : Ledger}

/-- What an append keeps. -/
theorem History.append (h : History owner ledger) (happend : ledger.append event = .ok ledger') :
    History owner ledger' := by
  obtain ⟨hv4, hversion, hfresh, horder, rfl⟩ := append_ok happend
  refine ⟨hv4, h.owner_eq, ?_, ?_, ?_, ?_⟩
  · intro other hother
    rcases List.mem_append.mp hother with hold | hnew
    · exact h.history.versions other hold
    · rw [List.mem_singleton.mp hnew]
      exact hversion
  · show (ledger.events ++ [event]).Nodup
    rw [List.nodup_append]
    refine ⟨h.history.nodup, List.nodup_singleton event, ?_⟩
    intro other hother last hlast heq
    rw [heq, List.mem_singleton.mp hlast] at hother
    exact hfresh hother
  · show (ledger.events ++ [event]).Pairwise _
    rw [List.pairwise_append]
    refine ⟨h.history.ordered, List.pairwise_singleton _ event, ?_⟩
    intro other hother last hlast
    rw [List.mem_singleton.mp hlast]
    exact V4History.le_of_last h.history horder hother
  · show (ledger.events ++ [event]).foldl chainHash 0 = chainHash ledger.lastHash event
    rw [List.foldl_append, h.history.hash_eq]
    rfl

theorem History.appendAll (h : History owner ledger)
    (happend : ledger.appendAll events = .ok ledger') : History owner ledger' := by
  induction events generalizing ledger with
  | nil =>
    rw [← Except.ok.inj happend]
    exact h
  | cons event rest ih =>
    unfold Ledger.appendAll at happend
    rw [List.foldlM_cons] at happend
    cases hfirst : ledger.append event with
    | error e =>
      rw [hfirst] at happend
      cases happend
    | ok next =>
      rw [hfirst] at happend
      exact ih (h.append hfirst) happend

/-- An event that continues a history is appended. -/
theorem append_of_history (owner : PubKey) (h : V4History (events ++ [event]) hash) :
    (ofEvents owner events).append event = .ok (ofEvents owner (events ++ [event])) := by
  have hversion := h.versions event (by simp)
  have hfresh : event ∉ events := by
    intro hmem
    exact (List.nodup_append.mp h.nodup).2.2 event hmem event (List.mem_singleton_self event) rfl
  have horder : events.getLast?.any (fun last => decide (event.timestamp < last.timestamp))
      = false := by
    rw [Option.any_eq_false]
    intro last hlast
    have hle := (List.pairwise_append.mp h.ordered).2.2 last (List.mem_of_getLast? hlast) event
      (List.mem_singleton_self event)
    simpa using hle
  unfold append
  rw [if_neg (by simp [ofEvents]), if_neg (not_not.mpr hversion),
    if_neg (by simpa [ofEvents] using hfresh), if_neg (by simp [ofEvents, horder])]
  simp [ofEvents]

/-- The front of a history is one. -/
theorem V4History.front (h : V4History (events ++ [event]) hash) :
    V4History events (events.foldl chainHash 0) where
  versions := fun other hother => h.versions other (List.mem_append_left _ hother)
  nodup := (List.nodup_append.mp h.nodup).1
  ordered := (List.pairwise_append.mp h.ordered).1
  hash_eq := rfl

/-- A history is appended event by event. -/
theorem appendAll_of_history (h : V4History events hash) :
    (Ledger.new owner).appendAll events = .ok (Ledger.ofEvents owner events) := by
  induction events using List.reverseRecOn generalizing hash with
  | nil => rfl
  | append_singleton events event ih =>
    unfold appendAll at ih ⊢
    rw [List.foldlM_append, ih (V4History.front h)]
    show ((ofEvents owner events).append event >>= fun next => pure next) = _
    rw [append_of_history owner h]
    rfl

/-- **A v4 ledger is verified exactly if it was appended, event by event, from nothing**, and the
    verifier of event lists gives the same answer. -/
theorem verify_iff_appended (sha256 : Sha256) {ledger : Ledger} (hv4 : ledger.continuityV5 = none) :
    (ledger.verifyV4 = true ↔
        ∃ events, (Ledger.new ledger.owner).appendAll events = .ok ledger) ∧
      verifyV4Events ledger.events ledger.lastHash = ledger.verifyV4 ∧
      ledger.verify sha256 = ledger.verifyV4 := by
  have hverify : ledger.verify sha256 = verifyV4Events ledger.events ledger.lastHash := by
    unfold verify
    rw [if_neg (by simp [hv4])]
  refine ⟨?_, (verifyV4_eq ledger).symm, hverify.trans (verifyV4_eq ledger).symm⟩
  rw [verifyV4_eq, verifyV4Events_iff]
  constructor
  · intro h
    refine ⟨ledger.events, (appendAll_of_history h).trans ?_⟩
    have hsame : Ledger.ofEvents ledger.owner ledger.events = ledger := by
      unfold ofEvents
      rw [h.hash_eq, ← hv4]
    rw [hsame]
  · rintro ⟨events, happend⟩
    exact ((History.new ledger.owner).appendAll happend).history

/-- A birth, an offer and its end at one time. -/
def verifiedEvents : List Event :=
  [.new .capsuleCreated [1, 0] 5 ⟨fill 64 0⟩ ⟨fill 32 1⟩,
    .new .invitationSent [2] 7 ⟨fill 64 0⟩ ⟨fill 32 1⟩,
    .new .invitationExpired [2] 7 ⟨fill 64 0⟩ ⟨fill 32 1⟩]

/-- The ledger with these events. -/
theorem verifiedEvents_verified :
    let ledger := Ledger.ofEvents ⟨fill 32 1⟩ verifiedEvents
    ((ledger.verifyV4 = true ↔
        ∃ events, (Ledger.new ledger.owner).appendAll events = .ok ledger) ∧
      verifyV4Events ledger.events ledger.lastHash = ledger.verifyV4 ∧
      ledger.verify sampleDigest = ledger.verifyV4) :=
  verify_iff_appended sampleDigest rfl

end Ledger

end Hivra
