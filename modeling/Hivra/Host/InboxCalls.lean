import Hivra.Host.DeliveryInbox

namespace Hivra

open Replay ChatDelivery

namespace DeliveryInbox

/-!
# Calls on the chat timelines

A call waits where the code awaits: for the file of a timeline and for the key that opens it, for
the persist it is queued behind, for its own file.  What it finds when it goes on is what the
others have left by then.
-/

inductive ChatCall
  | hydrateCapsule (capsuleRootHex : String)
  | mergeDurably (capsuleRootHex : String) (messages : List CapsuleChatInboxMessage)
  | merge (capsuleRootHex : String) (messages : List CapsuleChatInboxMessage)
  | setCacheBudgetBytes (capsuleRootHex : String) (bytes : ℤ)
  | unreadMessageCountsByPeer (capsuleRootHex : String)
  | markMessagesRead (capsuleRootHex : String)

/-- What a persist is given to merge. -/
def ChatCall.incoming : ChatCall → List CapsuleChatInboxMessage
  | .mergeDurably _ messages => messages
  | _ => []

def ChatCall.cacheBudgetBytes : ChatCall → Option ℤ
  | .setCacheBudgetBytes _ bytes => some bytes
  | _ => none

/-- A copy of a timeline that is going to be written, with what it gives up and what it takes. -/
structure Staged where
  timeline : Timeline
  budget : ℤ
  evictedIds : List String
  accepted : List CapsuleChatInboxMessage

/-- A call persists for itself, or before that for its hydration. -/
structure PersistId (ι : Type) where
  call : ι
  own : Bool
  deriving DecidableEq

/-- Where a call is. -/
inductive Phase (ι : Type)
  | waiting
  | reading (capsule : String)
  | opening (capsule : String) (file : TimelineFile)
  | queued (capsule : String) (own : Bool) (previous : Option (PersistId ι))
  | persisting (capsule : String) (own : Bool) (staged : Staged) (written : Bool)
  | persisted (capsule : String) (own : Bool) (success : Bool)
  | settled (capsule : String) (own : Bool) (success : Bool)
  | hydrated (capsule : String) (success : Bool)
  | done (success : Bool)

/-- What the store has taken for a capsule and not given up again: the messages it owes in memory
    since the capsule was last dropped, and the messages it owes in the file.  Beside this,
    whether memory has what the file owes, and whether a merge came after the last copy. -/
structure Owed where
  inMemory : List CapsuleChatInboxMessage
  inFile : List CapsuleChatInboxMessage
  covers : Bool
  merged : Bool

/-- What the maps of the store hold under a capsule, its file, and what is owed. -/
structure CapsuleEntry (ι : Type) where
  messages : Timeline
  hydrated : Bool
  cacheBudget : Option ℤ
  writeTail : Option (PersistId ι)
  file : TimelineFile
  owed : Owed

structure Inbox (ι : Type) where
  entries : String → CapsuleEntry ι
  capsuleOrder : List String
  phase : ι → Phase ι
  finished : List (PersistId ι)

inductive InboxEvent (ι : Type)
  | advance (call : ι)
  | fail (call : ι)

/-- The store of a new process. -/
def Inbox.start {ι : Type} (files : String → TimelineFile) : Inbox ι where
  entries := fun capsule => ⟨Timeline.empty, false, none, none, files capsule, [], [], false, false⟩
  capsuleOrder := []
  phase := fun _ => .waiting
  finished := []

section Store

variable {ι : Type} [DecidableEq ι] (host : InboxHost)

namespace Inbox

def enter (inbox : Inbox ι) (i : ι) (phase : Phase ι) : Inbox ι :=
  { inbox with phase := Function.update inbox.phase i phase }

/-- Change what the store has under a capsule. -/
def change (inbox : Inbox ι) (capsule : String) (f : CapsuleEntry ι → CapsuleEntry ι) : Inbox ι :=
  { inbox with entries := Function.update inbox.entries capsule (f (inbox.entries capsule)) }

def finish (inbox : Inbox ι) (persist : PersistId ι) : Inbox ι :=
  { inbox with finished := persist :: inbox.finished }

def touchCapsule (inbox : Inbox ι) (capsule : String) : Inbox ι :=
  { inbox with capsuleOrder := inbox.capsuleOrder.erase capsule ++ [capsule] }

/-- A capsule leaves memory; its file stays. -/
def dropped (entry : CapsuleEntry ι) : CapsuleEntry ι :=
  { entry with
    messages := Timeline.empty
    hydrated := false
    cacheBudget := none
    writeTail := none
    owed := { entry.owed with inMemory := [], covers := false } }

def clearCapsule (inbox : Inbox ι) (capsule : String) : Inbox ι :=
  { inbox.change capsule dropped with capsuleOrder := inbox.capsuleOrder.erase capsule }

/-- The capsules that were touched first go, until no more than the limit are left. -/
def retainNewestCapsules (inbox : Inbox ι) : Inbox ι :=
  replay clearCapsule inbox
    (inbox.capsuleOrder.take (inbox.capsuleOrder.length - host.maxCapsules))

end Inbox

/-! ### Hydration -/

/-- `hydrateCapsule` up to its first wait. -/
def hydrateBegins (inbox : Inbox ι) (i : ι) (capsule : String) : Inbox ι :=
  if !isHex64 capsule then inbox.enter i (.hydrated capsule false)
  else if (inbox.entries capsule).hydrated then inbox.enter i (.hydrated capsule true)
  else inbox.enter i (.reading capsule)

/-- `_persistTimeline` up to its wait for the persist before it. -/
def queuePersist (inbox : Inbox ι) (i : ι) (capsule : String) (own : Bool) : Inbox ι :=
  (inbox.change capsule fun entry => { entry with writeTail := some ⟨i, own⟩ }).enter i
    (.queued capsule own (inbox.entries capsule).writeTail)

/-- Whether the messages in memory agree with those of a file under the same ids. -/
def agrees (timeline : Timeline) (file : TimelineFile) : Bool :=
  (stored file).messages.all fun message =>
    (timeline.lookup message.id).all (sameMessageSemantics · message)

/-- Whether memory has what a file holds, after that file was read. -/
def coversAfter (file : TimelineFile) (entry : CapsuleEntry ι) : Bool :=
  entry.owed.covers || (decide (entry.file = file) && agrees entry.messages file)

/-- The entry of a capsule without a file. -/
def filledMissing (entry : CapsuleEntry ι) : CapsuleEntry ι :=
  { entry with
    cacheBudget := some host.initialCacheBudgetBytes
    hydrated := true
    owed := { entry.owed with covers := coversAfter .missing entry } }

/-- A hydrated entry; `loaded` are the messages of the file that was read. -/
def filled (file : TimelineFile) (loaded : List CapsuleChatInboxMessage)
    (entry : CapsuleEntry ι) : CapsuleEntry ι :=
  { entry with
    hydrated := true
    messages := Timeline.ofMessages (loaded ++ entry.messages.messages)
    owed := { entry.owed with covers := coversAfter file entry } }

def withBudget (budget : ℤ) (entry : CapsuleEntry ι) : CapsuleEntry ι :=
  { entry with cacheBudget := some budget }

def notHydrated (entry : CapsuleEntry ι) : CapsuleEntry ι := { entry with hydrated := false }

/-- The messages are decoded and join those in memory; the timeline is then persisted, where
    there is one. -/
def hydrateMessages (inbox : Inbox ι) (i : ι) (capsule : String) (file : TimelineFile)
    (raw : List (Option CapsuleChatInboxMessage)) : Inbox ι :=
  match raw.mapM (decodeTimelineMessage capsule) with
  | none => inbox.enter i (.hydrated capsule false)
  | some messages =>
    let inbox := inbox.change capsule (filled file messages)
    if (inbox.entries capsule).messages.byId.isEmpty then inbox.enter i (.hydrated capsule true)
    else queuePersist (inbox.touchCapsule capsule) i capsule false

/-- `hydrateCapsule` after the file was read and opened. -/
def hydrateFills (inbox : Inbox ι) (i : ι) (capsule : String) (file : TimelineFile) : Inbox ι :=
  match file with
  | .missing =>
    (inbox.change capsule (filledMissing host)).enter i (.hydrated capsule true)
  | .invalid throws =>
    (if throws then inbox.change capsule notHydrated else inbox).enter i (.hydrated capsule false)
  | .timeline budget raw =>
    if budget.any (fun bytes => decide (bytes ≤ 0)) then inbox.enter i (.hydrated capsule false)
    else
      hydrateMessages
        (inbox.change capsule (withBudget (budget.getD host.initialCacheBudgetBytes))) i capsule
        file raw

/-! ### Persists -/

/-- What a persist makes of the timeline in memory. -/
def mergedFor (call : ChatCall) (own : Bool) (entry : CapsuleEntry ι) : Timeline :=
  entry.messages.merge (if own then call.incoming else [])

def budgetFor (call : ChatCall) (own : Bool) (entry : CapsuleEntry ι) : ℤ :=
  ((if own then call.cacheBudgetBytes else none).or entry.cacheBudget).getD
    host.initialCacheBudgetBytes

def evictedFor (call : ChatCall) (own : Bool) (entry : CapsuleEntry ι) : Option (List String) :=
  evicted host (mergedFor call own entry) (budgetFor host call own entry)

/-- Whether a persist has something to write. -/
def writes (call : ChatCall) (own : Bool) (entry : CapsuleEntry ι) : Bool :=
  own && (!call.incoming.isEmpty || call.cacheBudgetBytes.isSome) ||
    (evictedFor host call own entry).isSome

def staged (call : ChatCall) (own : Bool) (entry : CapsuleEntry ι) : Staged :=
  let evictedIds := (evictedFor host call own entry).getD []
  { timeline := (mergedFor call own entry).remove evictedIds
    budget := budgetFor host call own entry
    evictedIds := evictedIds
    accepted := (DeliveryInbox.accepted entry.messages.byId
      (if own then call.incoming else [])).filter fun message => message.id ∉ evictedIds }

def copied (entry : CapsuleEntry ι) : CapsuleEntry ι :=
  { entry with owed := { entry.owed with merged := false } }

/-- `_persistTimelineNow` up to its first wait. -/
def persistStages (inbox : Inbox ι) (i : ι) (capsule : String) (call : ChatCall) (own : Bool) :
    Inbox ι :=
  if writes host call own (inbox.entries capsule) then
    (inbox.change capsule copied).enter i
      (.persisting capsule own (staged host call own (inbox.entries capsule)) false)
  else (inbox.finish ⟨i, own⟩).enter i (.persisted capsule own true)

/-- Messages that stay owed, and those that come to it. -/
def owedAfter (owed : List CapsuleChatInboxMessage) (staged : Staged) :
    List CapsuleChatInboxMessage :=
  owed.filter (fun message => message.id ∉ staged.evictedIds) ++ staged.accepted

def fileWritten (staged : Staged) (entry : CapsuleEntry ι) : CapsuleEntry ι :=
  { entry with
    file := writtenFile host staged.timeline staged.budget
    owed := { entry.owed with inFile := owedAfter entry.owed.inFile staged, covers := false } }

/-- The copy takes the place of the timeline in memory. -/
def copyInPlace (staged : Staged) (entry : CapsuleEntry ι) : CapsuleEntry ι :=
  { entry with
    messages := staged.timeline
    cacheBudget := some staged.budget
    owed := { entry.owed with
      inMemory := owedAfter entry.owed.inMemory staged
      covers := true } }

/-- The rest of `_persistTimelineNow`, after the file was written. -/
def persistEnds (inbox : Inbox ι) (i : ι) (capsule : String) (own : Bool) (staged : Staged) :
    Inbox ι :=
  ((((inbox.change capsule (copyInPlace staged)).touchCapsule capsule).retainNewestCapsules
    host).finish ⟨i, own⟩).enter i (.persisted capsule own true)

/-- A persist leaves the queue, if no other stands behind it. -/
def leaveQueue (persist : PersistId ι) (entry : CapsuleEntry ι) : CapsuleEntry ι :=
  { entry with
    writeTail := if entry.writeTail = some persist then none else entry.writeTail }

/-- What awaits the persist goes on: the hydration, or the call itself. -/
def persistReturns (inbox : Inbox ι) (i : ι) (capsule : String) (own success : Bool) : Inbox ι :=
  if own then inbox.enter i (.done success)
  else if success then
    (inbox.retainNewestCapsules host).enter i (.hydrated capsule true)
  else (inbox.change capsule notHydrated).enter i (.hydrated capsule false)

/-! ### The calls -/

/-- A merge in memory. -/
def mergedIn (messages : List CapsuleChatInboxMessage) (entry : CapsuleEntry ι) : CapsuleEntry ι :=
  let merged := entry.messages.merge messages
  let evictedIds :=
    (evicted host merged (entry.cacheBudget.getD host.initialCacheBudgetBytes)).getD []
  { entry with
    messages := merged.remove evictedIds
    owed := { entry.owed with
      inMemory := (entry.owed.inMemory ++ accepted entry.messages.byId messages).filter
        fun message => message.id ∉ evictedIds
      inFile := entry.owed.inFile.filter fun message => message.id ∉ evictedIds
      merged := true } }

/-- A call up to its first wait. -/
def callBegins (inbox : Inbox ι) (i : ι) : ChatCall → Inbox ι
  | .hydrateCapsule capsuleRootHex => hydrateBegins inbox i (trimmedLower capsuleRootHex)
  | .mergeDurably capsuleRootHex messages =>
    if !isHex64 (trimmedLower capsuleRootHex) || messages.isEmpty then inbox.enter i (.done true)
    else hydrateBegins inbox i (trimmedLower capsuleRootHex)
  | .merge capsuleRootHex messages =>
    if !isHex64 (trimmedLower capsuleRootHex) || messages.isEmpty then inbox.enter i (.done true)
    else
      (((inbox.touchCapsule (trimmedLower capsuleRootHex)).change (trimmedLower capsuleRootHex)
        (mergedIn host messages)).retainNewestCapsules host).enter i (.done true)
  | .setCacheBudgetBytes capsuleRootHex bytes =>
    if bytes ≤ 0 then inbox.enter i (.done false)
    else hydrateBegins inbox i (trimmedLower capsuleRootHex)
  | .unreadMessageCountsByPeer capsuleRootHex =>
    if !isHex64 (trimmedLower capsuleRootHex) then inbox.enter i (.done true)
    else hydrateBegins inbox i (trimmedLower capsuleRootHex)
  | .markMessagesRead capsuleRootHex =>
    if !isHex64 (trimmedLower capsuleRootHex) then inbox.enter i (.done true)
    else hydrateBegins inbox i (trimmedLower capsuleRootHex)

/-- A call after its hydration; the read state is read and written without the timeline. -/
def callContinues (inbox : Inbox ι) (i : ι) (capsule : String) (success : Bool) :
    ChatCall → Inbox ι
  | .mergeDurably .. | .setCacheBudgetBytes .. =>
    if success then queuePersist inbox i capsule true else inbox.enter i (.done false)
  | _ => inbox.enter i (.done true)

variable (calls : ι → ChatCall)

/-- A call goes on from where it waits; one in a queue only after the persist before it. -/
def advance (inbox : Inbox ι) (i : ι) : Inbox ι :=
  match inbox.phase i with
  | .waiting => callBegins host inbox i (calls i)
  | .reading capsule => inbox.enter i (.opening capsule (inbox.entries capsule).file)
  | .opening capsule file => hydrateFills host inbox i capsule file
  | .queued capsule own previous =>
    if previous.all (· ∈ inbox.finished) then
      persistStages host inbox i capsule (calls i) own
    else inbox
  | .persisting capsule own staged false =>
    (inbox.change capsule (fileWritten host staged)).enter i (.persisting capsule own staged true)
  | .persisting capsule own staged true => persistEnds host inbox i capsule own staged
  | .persisted capsule own success =>
    (inbox.change capsule (leaveQueue ⟨i, own⟩)).enter i (.settled capsule own success)
  | .settled capsule own success => persistReturns host inbox i capsule own success
  | .hydrated capsule success => callContinues inbox i capsule success (calls i)
  | .done _ => inbox

/-- What a call awaits fails: the read of the file, the key that opens it, the write. -/
def failing (inbox : Inbox ι) (i : ι) : Inbox ι :=
  match inbox.phase i with
  | .reading capsule => (inbox.change capsule notHydrated).enter i (.hydrated capsule false)
  | .opening capsule file =>
    if file = .missing then inbox else inbox.enter i (.hydrated capsule false)
  | .persisting capsule own _ false =>
    (inbox.finish ⟨i, own⟩).enter i (.persisted capsule own false)
  | _ => inbox

def inboxStep (inbox : Inbox ι) : InboxEvent ι → Inbox ι
  | .advance i => advance host calls inbox i
  | .fail i => failing inbox i

/-! ### What is owed -/

/-- The capsule and the copy of a call that is between its copy and the end of its persist, and
    whether the file is written. -/
def Phase.copy? : Phase ι → Option (String × Staged × Bool)
  | .persisting capsule _ staged written => some (capsule, staged, written)
  | _ => none

/-- **No message is lost**: memory has what the store owes there, and so have the files. -/
structure Owes (inbox : Inbox ι) : Prop where
  memory : ∀ capsule, ∀ message ∈ (inbox.entries capsule).owed.inMemory,
    (inbox.entries capsule).messages.holds message = true
  stored : ∀ capsule, ∀ message ∈ (inbox.entries capsule).owed.inFile,
    (stored (inbox.entries capsule).file).holds message = true

/-- A persist copies a timeline that has what the file owes, and no other persist of the capsule
    is under way. -/
def FitsCopy (inbox : Inbox ι) (i : ι) (capsule : String) (own : Bool) : Prop :=
  writes host (calls i) own (inbox.entries capsule) = true →
    (inbox.entries capsule).owed.covers = true ∧
      ∀ j, (inbox.phase j).copy?.all (fun copy => copy.1 != capsule) = true

/-- What a call has to find where it waits. -/
def FitsAt (inbox : Inbox ι) (i : ι) : Phase ι → Prop
  | .queued capsule own previous =>
    previous.all (· ∈ inbox.finished) = true → FitsCopy host calls inbox i capsule own
  | .persisting capsule _ _ true => (inbox.entries capsule).owed.merged = false
  | _ => True

/-- A step that copies does so from a timeline that is filled, with no other copy of it under way;
    one that puts a copy in its place finds that nothing was merged since. -/
def Fits (inbox : Inbox ι) : InboxEvent ι → Prop
  | .advance i => FitsAt host calls inbox i (inbox.phase i)
  | .fail _ => True

instance decidableFitsCopy [Fintype ι] (inbox : Inbox ι) (i : ι) (capsule : String) (own : Bool) :
    Decidable (FitsCopy host calls inbox i capsule own) :=
  inferInstanceAs (Decidable (_ = true → _ ∧ ∀ _, _))

instance decidableFitsAt [Fintype ι] (inbox : Inbox ι) (i : ι) :
    ∀ phase, Decidable (FitsAt host calls inbox i phase)
  | .queued _ _ _ => inferInstanceAs (Decidable (_ = true → FitsCopy ..))
  | .persisting _ _ _ true => inferInstanceAs (Decidable (_ = _))
  | .persisting _ _ _ false => isTrue trivial
  | .waiting => isTrue trivial
  | .reading _ => isTrue trivial
  | .opening _ _ => isTrue trivial
  | .persisted _ _ _ => isTrue trivial
  | .settled _ _ _ => isTrue trivial
  | .hydrated _ _ => isTrue trivial
  | .done _ => isTrue trivial

instance decidableFits [Fintype ι] (inbox : Inbox ι) :
    ∀ event, Decidable (Fits host calls inbox event)
  | .advance i => inferInstanceAs (Decidable (FitsAt host calls inbox i (inbox.phase i)))
  | .fail _ => isTrue trivial

end Store

end DeliveryInbox

end Hivra
