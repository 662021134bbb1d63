import Hivra.Host.InboxCalls
import Mathlib.Data.List.Sort

namespace Hivra

open Replay ChatDelivery

namespace DeliveryInbox

/-!
# Runs of chat timelines

* `merge_lost` — a message that is merged while a copy is being written is lost.
-/

variable {ι : Type}

/-! ### What a capsule keeps -/

/-- What is owed for one capsule is there; where memory covers the file, it has both. -/
structure EntrySound (entry : CapsuleEntry ι) : Prop where
  memory : ∀ message ∈ entry.owed.inMemory, entry.messages.holds message = true
  stored : ∀ message ∈ entry.owed.inFile, (stored entry.file).holds message = true
  covered : entry.owed.covers = true →
    ∀ message ∈ entry.owed.inFile, entry.messages.holds message = true

/-- A copy has what is owed, apart from what it gives up and what was merged since. -/
structure CopySound (owed : Owed) (staged : Staged) (written : Bool) : Prop where
  accepted : ∀ message ∈ staged.accepted, staged.timeline.holds message = true
  file : ∀ message ∈ owed.inFile, message.id ∉ staged.evictedIds →
    staged.timeline.holds message = true
  memory : owed.merged = false → ∀ message ∈ owed.inMemory, message.id ∉ staged.evictedIds →
    staged.timeline.holds message = true
  written : written = true → ∀ message ∈ owed.inFile, staged.timeline.holds message = true

structure Sound (inbox : Inbox ι) : Prop where
  entries : ∀ capsule, EntrySound (inbox.entries capsule)
  copies : ∀ i capsule staged written, (inbox.phase i).copy? = some (capsule, staged, written) →
    CopySound (inbox.entries capsule).owed staged written
  single : ∀ i j copy copy', (inbox.phase i).copy? = some copy →
    (inbox.phase j).copy? = some copy' → copy.1 = copy'.1 → i = j

namespace Sound

variable {inbox : Inbox ι}

theorem owes (h : Sound inbox) : Owes inbox :=
  ⟨fun capsule => (h.entries capsule).memory, fun capsule => (h.entries capsule).stored⟩

theorem start (files : String → TimelineFile) : Sound (Inbox.start (ι := ι) files) where
  entries _ := ⟨fun _ h => (nomatch h), fun _ h => (nomatch h), fun _ _ h => (nomatch h)⟩
  copies _ _ _ _ h := nomatch h
  single _ _ _ _ h := nomatch h

variable {f : CapsuleEntry ι → CapsuleEntry ι}

/-- A step that changes one capsule and its copies. -/
theorem change (h : Sound inbox) {capsule : String}
    (hentry : EntrySound (f (inbox.entries capsule)))
    (hcopies : ∀ i staged written, (inbox.phase i).copy? = some (capsule, staged, written) →
      CopySound (f (inbox.entries capsule)).owed staged written) :
    Sound (inbox.change capsule f) where
  entries other := by
    show EntrySound (Function.update inbox.entries capsule _ other)
    by_cases hother : other = capsule
    · rw [hother, Function.update_self]
      exact hentry
    · rw [Function.update_of_ne hother]
      exact h.entries other
  copies i other staged written hcopy := by
    show CopySound (Function.update inbox.entries capsule _ other).owed staged written
    by_cases hother : other = capsule
    · subst hother
      rw [Function.update_self]
      exact hcopies i staged written hcopy
    · rw [Function.update_of_ne hother]
      exact h.copies i other staged written hcopy
  single := h.single

/-- What neither changes a timeline nor what is owed. -/
theorem changeOther (h : Sound inbox) (capsule : String)
    (hmessages : ∀ entry, (f entry).messages = entry.messages)
    (hfile : ∀ entry, (f entry).file = entry.file) (howed : ∀ entry, (f entry).owed = entry.owed) :
    Sound (inbox.change capsule f) := by
  refine h.change ⟨?_, ?_, ?_⟩ ?_
  · rw [hmessages, howed]
    exact (h.entries capsule).memory
  · rw [hfile, howed]
    exact (h.entries capsule).stored
  · rw [hmessages, howed]
    exact (h.entries capsule).covered
  · intro i staged written hcopy
    rw [howed]
    exact h.copies i capsule staged written hcopy

theorem touch (h : Sound inbox) (capsule : String) : Sound (inbox.touchCapsule capsule) :=
  ⟨h.entries, h.copies, h.single⟩

theorem finish (h : Sound inbox) (persist : PersistId ι) : Sound (inbox.finish persist) :=
  ⟨h.entries, h.copies, h.single⟩

theorem clear (h : Sound inbox) (capsule : String) : Sound (inbox.clearCapsule capsule) := by
  have hdropped : Sound (inbox.change capsule Inbox.dropped) := by
    refine h.change ⟨fun _ hmem => (nomatch hmem), (h.entries capsule).stored,
      fun hcovers => (nomatch hcovers)⟩ ?_
    intro i staged written hcopy
    have hsound := h.copies i capsule staged written hcopy
    exact ⟨hsound.accepted, hsound.file, fun _ _ hmem => (nomatch hmem), hsound.written⟩
  exact ⟨hdropped.entries, hdropped.copies, hdropped.single⟩

theorem retain (h : Sound inbox) (host : InboxHost) : Sound (inbox.retainNewestCapsules host) :=
  replay_invariant h fun _ capsule _ h => h.clear capsule

variable [DecidableEq ι]

/-- A call goes on to a wait without a copy. -/
theorem enter (h : Sound inbox) (i : ι) {phase : Phase ι} (hphase : phase.copy? = none) :
    Sound (inbox.enter i phase) := by
  have hold : ∀ {j copy}, (Function.update inbox.phase i phase j).copy? = some copy →
      (inbox.phase j).copy? = some copy := by
    intro j copy hcopy
    by_cases hj : j = i
    · rw [hj, Function.update_self, hphase] at hcopy
      exact nomatch hcopy
    · rw [Function.update_of_ne hj] at hcopy
      exact hcopy
  exact ⟨h.entries, fun j capsule staged written hcopy => h.copies j _ _ _ (hold hcopy),
    fun j k copy copy' hj hk => h.single j k copy copy' (hold hj) (hold hk)⟩

/-- A call goes on with the only copy of its capsule. -/
theorem enterCopy (h : Sound inbox) {i : ι} {capsule : String} {own : Bool} {staged : Staged}
    {written : Bool} (hcopy : CopySound (inbox.entries capsule).owed staged written)
    (honly : ∀ j copy, j ≠ i → (inbox.phase j).copy? = some copy → copy.1 ≠ capsule) :
    Sound (inbox.enter i (.persisting capsule own staged written)) := by
  have hcases : ∀ {j copy}, (Function.update inbox.phase i
      (.persisting capsule own staged written) j).copy? = some copy →
        (j = i ∧ copy = (capsule, staged, written)) ∨
          (j ≠ i ∧ (inbox.phase j).copy? = some copy) := by
    intro j copy hj
    by_cases heq : j = i
    · rw [heq, Function.update_self] at hj
      exact .inl ⟨heq, (Option.some.inj hj).symm⟩
    · rw [Function.update_of_ne heq] at hj
      exact .inr ⟨heq, hj⟩
  refine ⟨h.entries, fun j other staged' written' hj => ?_, fun j k copy copy' hj hk hsame => ?_⟩
  · rcases hcases hj with ⟨-, heq⟩ | ⟨-, hold⟩
    · cases heq
      exact hcopy
    · exact h.copies j other staged' written' hold
  · rcases hcases hj with ⟨rfl, rfl⟩ | ⟨hne, hold⟩ <;>
      rcases hcases hk with ⟨rfl, rfl⟩ | ⟨hne', hold'⟩
    · rfl
    · exact absurd hsame.symm (honly k copy' hne' hold')
    · exact absurd hsame (honly j copy hne hold)
    · exact h.single j k copy copy' hold hold' hsame

end Sound

/-! ### Fills -/

theorem same_trans {a b c : CapsuleChatInboxMessage} (hab : sameMessageSemantics a b = true)
    (hbc : sameMessageSemantics b c = true) : sameMessageSemantics a c = true := by
  rw [sameMessageSemantics_iff] at hab hbc ⊢
  rw [← hbc, ← hab]

variable {file : TimelineFile} {message : CapsuleChatInboxMessage} {timeline other : Timeline}

/-- A timeline that answers from another one first holds what that one holds. -/
theorem holds_or
    (hlookup : ∀ id, timeline.lookup id = (other.lookup id).or ((stored file).lookup id))
    (h : other.holds message = true) : timeline.holds message = true := by
  obtain ⟨held, hheld, hsame⟩ := (Option.any_eq_true _ _).mp h
  unfold Timeline.holds
  rw [hlookup, hheld]
  exact hsame

/-- Where the two agree, it holds what the file holds as well. -/
theorem holds_or_stored
    (hlookup : ∀ id, timeline.lookup id = (other.lookup id).or ((stored file).lookup id))
    (hagrees : agrees other file = true) (h : (stored file).holds message = true) :
    timeline.holds message = true := by
  obtain ⟨held, hheld, hsame⟩ := (Option.any_eq_true _ _).mp h
  have hid := Timeline.id_of_lookup hheld
  have hagree := List.all_eq_true.mp hagrees held (Timeline.mem_messages.mpr (hid ▸ hheld))
  unfold Timeline.holds
  rw [hlookup, hheld]
  rw [hid] at hagree
  cases hother : other.lookup message.id with
  | none => exact hsame
  | some existing =>
    rw [hother] at hagree
    exact same_trans hagree hsame

theorem lookup_filled {budget : Option ℤ} {raw : List (Option CapsuleChatInboxMessage)}
    {loaded : List CapsuleChatInboxMessage} (hfile : file = .timeline budget raw)
    (hloaded : raw.reduceOption = loaded) (timeline : Timeline) (id : String) :
    (Timeline.ofMessages (loaded ++ timeline.messages)).lookup id =
      (timeline.lookup id).or ((stored file).lookup id) := by
  rw [Timeline.lookup_ofMessages_append, Timeline.lookup_ofMessages (List.Perm.refl _), hfile,
    ← hloaded]
  rfl

namespace Sound

variable {inbox : Inbox ι}

/-- A fill keeps what is in memory, and adds what the file holds. -/
theorem fill (h : Sound inbox) {capsule : String} {file : TimelineFile}
    {f : CapsuleEntry ι → CapsuleEntry ι}
    (hlookup : ∀ id, (f (inbox.entries capsule)).messages.lookup id =
      ((inbox.entries capsule).messages.lookup id).or ((stored file).lookup id))
    (hfile : (f (inbox.entries capsule)).file = (inbox.entries capsule).file)
    (howed : (f (inbox.entries capsule)).owed =
      { (inbox.entries capsule).owed with covers := coversAfter file (inbox.entries capsule) }) :
    Sound (inbox.change capsule f) := by
  have hentry := h.entries capsule
  refine h.change ⟨?_, ?_, ?_⟩ ?_
  · rw [howed]
    exact fun message hmem => holds_or hlookup (hentry.memory message hmem)
  · rw [hfile, howed]
    exact hentry.stored
  · rw [howed]
    intro hcovers message hmem
    rcases Bool.or_eq_true_iff.mp hcovers with hold | hread
    · exact holds_or hlookup (hentry.covered hold message hmem)
    · -- the file is still the one that was read
      obtain ⟨hsame, hagrees⟩ := Bool.and_eq_true_iff.mp hread
      have hstored := hentry.stored message hmem
      rw [of_decide_eq_true hsame] at hstored
      exact holds_or_stored hlookup hagrees hstored
  · intro i staged written hcopy
    have hsound := h.copies i capsule staged written hcopy
    rw [howed]
    exact ⟨hsound.accepted, hsound.file, hsound.memory, hsound.written⟩

variable {host : InboxHost}

/-- **The copy has what is owed**, where memory has it. -/
theorem copySound {entry : CapsuleEntry ι} (h : EntrySound entry)
    (hcovers : entry.owed.covers = true) (call : ChatCall) (own : Bool) :
    CopySound { entry.owed with merged := false } (staged host call own entry) false where
  accepted message hmem := by
    obtain ⟨haccepted, hid⟩ := List.mem_filter.mp hmem
    exact Timeline.holds_remove (holds_accepted haccepted) (of_decide_eq_true hid)
  file message hmem hid :=
    Timeline.holds_remove (holds_merge (h.covered hcovers message hmem) _) hid
  memory _ message hmem hid :=
    Timeline.holds_remove (holds_merge (h.memory message hmem) _) hid
  written hwritten := nomatch hwritten

theorem mergedIn (h : Sound inbox) (capsule : String) (messages : List CapsuleChatInboxMessage) :
    Sound (inbox.change capsule (mergedIn host messages)) := by
  have hentry := h.entries capsule
  refine h.change ⟨?_, ?_, ?_⟩ ?_
  · intro message hmem
    obtain ⟨hmem, hid⟩ := List.mem_filter.mp hmem
    refine Timeline.holds_remove ?_ (of_decide_eq_true hid)
    rcases List.mem_append.mp hmem with hold | hnew
    · exact holds_merge (hentry.memory message hold) _
    · exact holds_accepted hnew
  · exact fun message hmem => hentry.stored message (List.mem_filter.mp hmem).1
  · intro hcovers message hmem
    obtain ⟨hmem, hid⟩ := List.mem_filter.mp hmem
    exact Timeline.holds_remove (holds_merge (hentry.covered hcovers message hmem) _)
      (of_decide_eq_true hid)
  · intro i staged written hcopy
    have hsound := h.copies i capsule staged written hcopy
    exact ⟨hsound.accepted, fun message hmem => hsound.file message (List.mem_filter.mp hmem).1,
      fun hmerged => (nomatch hmerged),
      fun hwritten message hmem => hsound.written hwritten message (List.mem_filter.mp hmem).1⟩

variable [DecidableEq ι] {calls : ι → ChatCall}

theorem hydrateBegins (h : Sound inbox) (i : ι) (capsule : String) :
    Sound (hydrateBegins inbox i capsule) := by
  unfold DeliveryInbox.hydrateBegins
  split_ifs
  · exact h.enter i rfl
  · exact h.enter i rfl
  · exact h.enter i rfl

theorem queuePersist (h : Sound inbox) (i : ι) (capsule : String) (own : Bool) :
    Sound (queuePersist inbox i capsule own) := by
  refine Sound.enter ?_ i rfl
  exact h.changeOther capsule (fun _ => rfl) (fun _ => rfl) fun _ => rfl

theorem hydrateMessages (h : Sound inbox) (i : ι) (capsule : String) {file : TimelineFile}
    {budget : Option ℤ} {raw : List (Option CapsuleChatInboxMessage)}
    (hfile : file = .timeline budget raw) : Sound (hydrateMessages inbox i capsule file raw) := by
  unfold DeliveryInbox.hydrateMessages
  split
  · exact h.enter i rfl
  · next messages hmessages =>
    have hfilled : Sound (inbox.change capsule (filled file messages)) :=
      h.fill (lookup_filled hfile (decoded_all hmessages) _) rfl rfl
    dsimp only
    split_ifs
    · exact hfilled.enter i rfl
    · exact (hfilled.touch capsule).queuePersist i capsule false

theorem hydrateFills (h : Sound inbox) (i : ι) (capsule : String) (file : TimelineFile) :
    Sound (hydrateFills host inbox i capsule file) := by
  cases file with
  | missing =>
    have hlookup : ∀ id, (inbox.entries capsule).messages.lookup id =
        ((inbox.entries capsule).messages.lookup id).or ((stored .missing).lookup id) :=
      fun id => Option.or_none.symm
    refine Sound.enter ?_ i rfl
    exact h.fill hlookup rfl rfl
  | invalid throws =>
    refine Sound.enter ?_ i rfl
    split_ifs
    · exact h.changeOther capsule (fun _ => rfl) (fun _ => rfl) fun _ => rfl
    · exact h
  | timeline budget raw =>
    unfold DeliveryInbox.hydrateFills
    dsimp only
    split_ifs
    · exact h.enter i rfl
    · refine Sound.hydrateMessages ?_ i capsule rfl
      exact h.changeOther capsule (fun _ => rfl) (fun _ => rfl) fun _ => rfl

/-! ### Persists -/

theorem persistStages (h : Sound inbox) (i : ι) (capsule : String) (own : Bool)
    (hfits : FitsCopy host calls inbox i capsule own) :
    Sound (persistStages host inbox i capsule (calls i) own) := by
  unfold DeliveryInbox.persistStages
  split_ifs with hwrites
  · obtain ⟨hcovers, hfree⟩ := hfits hwrites
    have hnone : ∀ j copy, (inbox.phase j).copy? = some copy → copy.1 ≠ capsule := by
      intro j copy hcopy
      have hj := hfree j
      rw [hcopy] at hj
      exact of_decide_eq_true (by simpa using hj)
    have hcopied : Sound (inbox.change capsule copied) := by
      have hentry := h.entries capsule
      refine h.change ⟨hentry.memory, hentry.stored, hentry.covered⟩ ?_
      exact fun j staged written hcopy => absurd rfl (hnone j _ hcopy)
    refine hcopied.enterCopy ?_ fun j copy _ hcopy => hnone j copy hcopy
    show CopySound (Function.update inbox.entries capsule _ capsule).owed _ _
    rw [Function.update_self]
    exact copySound (h.entries capsule) hcovers (calls i) own
  · exact (h.finish _).enter i rfl

/-- What is owed after a persist is in the copy. -/
theorem holds_owedAfter {owed : List CapsuleChatInboxMessage} {staged : Staged}
    (haccepted : ∀ message ∈ staged.accepted, staged.timeline.holds message = true)
    (howed : ∀ message ∈ owed, message.id ∉ staged.evictedIds →
      staged.timeline.holds message = true) :
    ∀ message ∈ owedAfter owed staged, staged.timeline.holds message = true := by
  intro message hmem
  rcases List.mem_append.mp hmem with hold | hnew
  · obtain ⟨hold, hid⟩ := List.mem_filter.mp hold
    exact howed message hold (of_decide_eq_true hid)
  · exact haccepted message hnew

theorem holds_written {timeline : Timeline} {budget : ℤ} {message : CapsuleChatInboxMessage}
    (h : timeline.holds message = true) :
    (stored (writtenFile host timeline budget)).holds message = true := by
  rw [Timeline.holds_congr (lookup_written host timeline budget message.id)]
  exact h

theorem persistWrites (h : Sound inbox) {i : ι} {capsule : String} {own : Bool} {staged : Staged}
    (hphase : inbox.phase i = .persisting capsule own staged false) :
    Sound ((inbox.change capsule (fileWritten host staged)).enter i
      (.persisting capsule own staged true)) := by
  have hcopy : (inbox.phase i).copy? = some (capsule, staged, false) := by
    rw [hphase]
    rfl
  have hsound := h.copies i capsule staged false hcopy
  have howed := holds_owedAfter hsound.accepted hsound.file
  have hentry := h.entries capsule
  have hafter : ∀ written, CopySound (fileWritten host staged (inbox.entries capsule)).owed staged
      written := fun written =>
    ⟨hsound.accepted, fun message hmem _ => howed message hmem, hsound.memory,
      fun _ => howed⟩
  have hchanged : Sound (inbox.change capsule (fileWritten host staged)) := by
    refine h.change ⟨hentry.memory, fun message hmem => holds_written (howed message hmem),
      fun hcovers => (nomatch hcovers)⟩ ?_
    intro j staged' written hother
    -- the capsule has no other copy
    have hj := h.single i j _ _ hcopy hother rfl
    rw [← hj, hcopy] at hother
    cases hother
    exact hafter false
  refine hchanged.enterCopy ?_ ?_
  · show CopySound (Function.update inbox.entries capsule _ capsule).owed _ _
    rw [Function.update_self]
    exact hafter true
  · exact fun j copy hne hother hsame => hne (h.single i j _ _ hcopy hother hsame.symm).symm

theorem persistEnds (h : Sound inbox) {i : ι} {capsule : String} {own : Bool} {staged : Staged}
    (hphase : inbox.phase i = .persisting capsule own staged true)
    (hfits : (inbox.entries capsule).owed.merged = false) :
    Sound (persistEnds host inbox i capsule own staged) := by
  have hcopy : (inbox.phase i).copy? = some (capsule, staged, true) := by
    rw [hphase]
    rfl
  have hsound := h.copies i capsule staged true hcopy
  have howed := holds_owedAfter hsound.accepted (hsound.memory hfits)
  have hchanged : Sound (inbox.change capsule (copyInPlace staged)) := by
    refine h.change ⟨howed, (h.entries capsule).stored, fun _ => hsound.written rfl⟩ ?_
    intro j staged' written hother
    have hj := h.single i j _ _ hcopy hother rfl
    rw [← hj, hcopy] at hother
    cases hother
    exact ⟨hsound.accepted, hsound.file, fun _ message hmem _ => howed message hmem,
      hsound.written⟩
  exact (((hchanged.touch capsule).retain host).finish _).enter i rfl

theorem persistReturns (h : Sound inbox) (i : ι) (capsule : String) (own success : Bool) :
    Sound (persistReturns host inbox i capsule own success) := by
  unfold DeliveryInbox.persistReturns
  split_ifs
  · exact h.enter i rfl
  · exact (h.retain host).enter i rfl
  · refine Sound.enter ?_ i rfl
    exact h.changeOther capsule (fun _ => rfl) (fun _ => rfl) fun _ => rfl

/-! ### Steps -/

theorem callBegins (h : Sound inbox) (i : ι) (call : ChatCall) :
    Sound (callBegins host inbox i call) := by
  cases call with
  | hydrateCapsule capsuleRootHex => exact h.hydrateBegins i _
  | mergeDurably capsuleRootHex messages =>
    unfold DeliveryInbox.callBegins
    dsimp only
    split_ifs
    · exact h.enter i rfl
    · exact h.hydrateBegins i _
  | merge capsuleRootHex messages =>
    unfold DeliveryInbox.callBegins
    dsimp only
    split_ifs
    · exact h.enter i rfl
    · exact (((h.touch _).mergedIn _ messages).retain host).enter i rfl
  | setCacheBudgetBytes capsuleRootHex bytes =>
    unfold DeliveryInbox.callBegins
    dsimp only
    split_ifs
    · exact h.enter i rfl
    · exact h.hydrateBegins i _
  | unreadMessageCountsByPeer capsuleRootHex =>
    unfold DeliveryInbox.callBegins
    dsimp only
    split_ifs
    · exact h.enter i rfl
    · exact h.hydrateBegins i _
  | markMessagesRead capsuleRootHex =>
    unfold DeliveryInbox.callBegins
    dsimp only
    split_ifs
    · exact h.enter i rfl
    · exact h.hydrateBegins i _

theorem callContinues (h : Sound inbox) (i : ι) (capsule : String) (success : Bool)
    (call : ChatCall) : Sound (callContinues inbox i capsule success call) := by
  unfold DeliveryInbox.callContinues
  split
  · split_ifs
    · exact h.queuePersist i capsule true
    · exact h.enter i rfl
  · split_ifs
    · exact h.queuePersist i capsule true
    · exact h.enter i rfl
  · exact h.enter i rfl

theorem advance (h : Sound inbox) {i : ι} (hfits : Fits host calls inbox (.advance i)) :
    Sound (advance host calls inbox i) := by
  have hfits : FitsAt host calls inbox i (inbox.phase i) := hfits
  unfold DeliveryInbox.advance
  split
  · exact h.callBegins i (calls i)
  · exact h.enter i rfl
  · exact h.hydrateFills i _ _
  · next capsule own previous hphase =>
    rw [hphase] at hfits
    split_ifs with hturn
    · exact h.persistStages i capsule own (hfits hturn)
    · exact h
  · next hphase => exact h.persistWrites hphase
  · next hphase =>
    rw [hphase] at hfits
    exact h.persistEnds hphase hfits
  · refine Sound.enter ?_ i rfl
    exact h.changeOther _ (fun _ => rfl) (fun _ => rfl) fun _ => rfl
  · exact h.persistReturns i _ _ _
  · exact h.callContinues i _ _ (calls i)
  · exact h

theorem failing (h : Sound inbox) (i : ι) : Sound (failing inbox i) := by
  unfold DeliveryInbox.failing
  split
  · refine Sound.enter ?_ i rfl
    exact h.changeOther _ (fun _ => rfl) (fun _ => rfl) fun _ => rfl
  · split_ifs
    · exact h
    · exact h.enter i rfl
  · exact (h.finish _).enter i rfl
  · exact h

theorem step (h : Sound inbox) {event : InboxEvent ι} (hfits : Fits host calls inbox event) :
    Sound (inboxStep host calls inbox event) := by
  cases event with
  | advance i => exact h.advance hfits
  | fail i => exact h.failing i

end Sound

/-- **No message is lost in a run whose steps fit**: whatever the calls, the files they begin
    with, the order of the steps and what fails, memory and the files have what they owe. -/
theorem messages_kept (host : InboxHost) (calls : ι → ChatCall) (files : String → TimelineFile)
    [DecidableEq ι] (events : List (InboxEvent ι))
    (hrun : Along (inboxStep host calls) (Fits host calls) (Inbox.start files) events) :
    Owes (replay (inboxStep host calls) (Inbox.start files) events) := by
  have hsound := along_invariant (P := Sound) hrun (Sound.start files) fun _ _ h hfits =>
    h.step hfits
  exact hsound.owes

/-! ### A merge beside a persist -/

def sampleInbox : InboxHost where
  maxCapsules := 8
  initialCacheBudgetBytes := 100000000
  entryBytes message := message.messageText.length + 400
  sort le messages := messages.insertionSort fun a b => le a b = true
  sort_perm _ messages := List.perm_insertionSort _ messages

/-- The text of a key. -/
def sampleKey (digit : Char) : String := String.ofList (List.replicate 64 digit)

def sampleIncoming (id : String) : CapsuleChatInboxMessage where
  id := id
  fromHex := sampleKey 'b'
  toHex := some (sampleKey 'a')
  messageText := "text"
  createdAtUtc := "2026-01-01T00:00:00.000Z"
  envelopeHashHex := id
  timestampMs := 1767225600000
  direction := .incoming
  deliveryState := .received

/-- A drain merges a message durably, and a receive pass merges another one in memory. -/
def sampleChatCalls : Bool → ChatCall
  | false => .mergeDurably (sampleKey 'a') [sampleIncoming "first"]
  | true => .merge (sampleKey 'a') [sampleIncoming "second"]

def sampleRun (events : List (InboxEvent Bool)) : Inbox Bool :=
  replay (inboxStep sampleInbox sampleChatCalls) (Inbox.start fun _ => .missing) events

/-- The durable merge reads, fills, queues and copies. -/
def untilCopied : List (InboxEvent Bool) := List.replicate 5 (.advance false)

/-- It writes, puts the copy in its place and returns. -/
def untilDone : List (InboxEvent Bool) := List.replicate 4 (.advance false)

def allDone (inbox : Inbox Bool) : Bool :=
  [false, true].all fun i => match inbox.phase i with
    | .done _ => true
    | _ => false

theorem messages_kept_one_by_one :
    allDone (sampleRun (untilCopied ++ untilDone ++ [.advance true])) = true ∧
      Owes (sampleRun (untilCopied ++ untilDone ++ [.advance true])) :=
  ⟨by decide +kernel, messages_kept sampleInbox sampleChatCalls _ _ (by decide +kernel)⟩

/-- The second message was taken and is not in memory when both calls are done. -/
theorem merge_lost :
    allDone (sampleRun (untilCopied ++ [.advance true] ++ untilDone)) = true ∧
      ¬ Owes (sampleRun (untilCopied ++ [.advance true] ++ untilDone)) := by
  have hrun : allDone (sampleRun (untilCopied ++ [.advance true] ++ untilDone)) = true ∧
      ∃ message ∈ ((sampleRun (untilCopied ++ [.advance true] ++ untilDone)).entries
        (sampleKey 'a')).owed.inMemory,
          ((sampleRun (untilCopied ++ [.advance true] ++ untilDone)).entries
            (sampleKey 'a')).messages.holds message = false := by
    decide +kernel
  obtain ⟨hdone, message, hmem, hlost⟩ := hrun
  refine ⟨hdone, fun howes => ?_⟩
  have hheld := howes.memory (sampleKey 'a') message hmem
  rw [hlost] at hheld
  exact nomatch hheld

end DeliveryInbox

end Hivra
