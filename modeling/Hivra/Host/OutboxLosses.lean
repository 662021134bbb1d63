import Hivra.Host.OutboxMachine

namespace Hivra

namespace DeliveryOutbox

/-!
# What an outbox call does to entries it cannot read

A call writes back the items it has read.  What it has read are the entries that parse; of a
file that is no outbox it has read nothing, and nothing either where the rewrite of an older
schema fails.  Whatever was not read is gone once the call writes.
-/

section Losses

variable {Double : Type} (host : OutboxHost Double) (capsuleHex : String)

/-- What is behind the name of an outbox file. -/
inductive OutboxFile (Double : Type)
  | missing
  /-- Bytes that are no text. -/
  | undecodable
  | blank
  /-- A text that is no document. -/
  | garbled
  | json (value : DartValue Double)

/-- The document of a file. -/
def OutboxFile.document : OutboxFile Double → Option (DartValue Double)
  | .json value => some value
  | _ => none

/-- The entries of a file, none where it is no outbox. -/
def OutboxFile.entries : OutboxFile Double → Option (List (DartValue Double))
  | .missing => some []
  | .blank => some []
  | .json (.obj members) => storedItems members
  | _ => none

/-- A document that replaces a file, if there is one. -/
def OutboxFile.replace (file : OutboxFile Double) : Option (DartValue Double) → OutboxFile Double
  | some value => .json value
  | none => file

/-- What a call has read, and the file behind the read; the rewrite of an older schema may
    fail. -/
def readOutbox (rewrites : Bool) (file : OutboxFile Double) :
    List DeliveryOutboxItem × OutboxFile Double :=
  match migrated host file.document with
  | some refreshed =>
    if rewrites then (load host file.document, file.replace refreshed) else ([], file)
  | none => (load host file.document, file)

/-- A call on a file.  Bytes that are no text throw before anything is read; the last write may
    fail. -/
def mutate (rewrites writes : Bool) (call : OutboxCall) (file : OutboxFile Double) :
    OutboxFile Double :=
  match file with
  | .undecodable => .undecodable
  | file =>
    if ready capsuleHex call then
      match transform host capsuleHex (readOutbox host rewrites file).1 call with
      | some next =>
        if writes then (readOutbox host rewrites file).2.replace (write host next)
        else (readOutbox host rewrites file).2
      | none => (readOutbox host rewrites file).2
    else file

/-! ### What is kept -/

/-- The id that an entry is stored under. -/
def entryId : DartValue Double → Option String
  | .obj members => (textMember host members "id").map trimmed
  | _ => none

/-- An entry is in a file: under the id of the item it stands for, which only a call about it may
    have changed, or else as it is. -/
def KeptEntry (call : OutboxCall) (after : OutboxFile Double) (entry : DartValue Double) : Prop :=
  match fromJson host entry with
  | some item => ∃ entries ∈ after.entries, ∃ entry' ∈ entries, entryId host entry' = some item.id ∧
      (call.itemId host capsuleHex = some item.id ∨ fromJson host entry' = some item)
  | none => ∃ entries ∈ after.entries, entry ∈ entries

/-- The file is as it was, or it still has every entry that was stored. -/
def Preserves (call : OutboxCall) (before after : OutboxFile Double) : Prop :=
  after = before ∨ ∃ entries ∈ before.entries, ∀ entry ∈ entries,
    KeptEntry host capsuleHex call after entry

/-- The read of a file is complete: no rewrite of an older schema fails. -/
def ReadsAll (rewrites : Bool) (file : OutboxFile Double) : Prop :=
  migrated host file.document = none ∨ rewrites = true

/-- A call leaves the file as it was: it does not get as far as to read, or no older schema is
    rewritten and there is nothing to write or the write fails. -/
def WritesNothing (rewrites writes : Bool) (call : OutboxCall) (file : OutboxFile Double) : Prop :=
  file = .undecodable ∨ ready capsuleHex call = false ∨
    (migrated host file.document = none ∨ rewrites = false) ∧
      (writes = false ∨ call = .load ∨ migrated host file.document = none ∧
        ∃ obligation, call = .enqueueIfAbsent obligation ∧ stableId host capsuleHex obligation
          ∈ (load host file.document).map DeliveryOutboxItem.id)

/-- An entry that parses is spared where the read is complete or the call enqueues it anew; one
    that does not, where the call writes the same entry. -/
def Spared (rewrites writes : Bool) (call : OutboxCall) (file : OutboxFile Double)
    (entry : DartValue Double) : Prop :=
  match fromJson host entry with
  | some item => ReadsAll host rewrites file ∨ writes = true ∧ ∃ obligation,
      call.obligation = some obligation ∧ stableId host capsuleHex obligation = item.id
  | none => writes = true ∧ ((∃ item ∈ (readOutbox host rewrites file).1,
        entry = toJson host (call.change host capsuleHex item)) ∨
      ∃ obligation, call.obligation = some obligation ∧
        stableId host capsuleHex obligation
          ∉ (readOutbox host rewrites file).1.map DeliveryOutboxItem.id ∧
        entry = toJson host (newItem host capsuleHex obligation))

variable {host capsuleHex}

/-! ### Entries of a written file -/

theorem entries_write (items : List DeliveryOutboxItem) (file : OutboxFile Double) :
    (file.replace (write host items)).entries
      = some ((host.sort (fun a b => decide (a.id ≤ b.id)) items).map (toJson host)) := rfl

variable {file : OutboxFile Double} {entry : DartValue Double} {items : List DeliveryOutboxItem}

theorem mem_entries_write :
    (∃ entries ∈ (file.replace (write host items)).entries, entry ∈ entries) ↔
      ∃ item ∈ items, toJson host item = entry := by
  rw [entries_write]
  simp only [Option.mem_def, Option.some.injEq, exists_eq_left', List.mem_map]
  refine exists_congr fun item => and_congr_left fun _ => ?_
  exact (host.sort_perm _ items).mem_iff

theorem exists_entry_write {P : DartValue Double → Prop} :
    (∃ entries ∈ (file.replace (write host items)).entries, ∃ entry ∈ entries, P entry) ↔
      ∃ item ∈ items, P (toJson host item) := by
  constructor
  · rintro ⟨entries, hentries, entry, hentry, h⟩
    obtain ⟨item, hitem, rfl⟩ := mem_entries_write.mp ⟨entries, hentries, hentry⟩
    exact ⟨item, hitem, h⟩
  · rintro ⟨item, hitem, h⟩
    obtain ⟨entries, hentries, hentry⟩ := mem_entries_write.mpr ⟨item, hitem, rfl⟩
    exact ⟨entries, hentries, _, hentry, h⟩

variable {item : DeliveryOutboxItem}

/-- An item is written under its id. -/
theorem entryId_toJson (h : trimmed item.id = item.id) :
    entryId host (toJson host item) = some item.id := by
  obtain ⟨hid, -⟩ := @lookup_itemMembers _ host item
  show (textMember host (itemMembers host item) "id").map trimmed = _
  rw [textMember_of hid, Option.map_some, h]

theorem entryId_newItem (obligation : Obligation) :
    entryId host (toJson host (newItem host capsuleHex obligation))
      = some (stableId host capsuleHex obligation) := by
  have hhex : isHex64 (newItem host capsuleHex obligation).id = true := host.sha256Hex_hex _
  exact entryId_toJson (trimmed_of_isHex64 hhex)

/-- An entry that parses is stored under the id of its item. -/
theorem entryId_of_fromJson (h : fromJson host entry = some item) :
    entryId host entry = some item.id := by
  have hnamed := (readable_of_fromJson h).1.named
  match entry, h with
  | .obj members, h =>
    have hread : itemOfMembers host members = some item := h
    unfold itemOfMembers at hread
    split at hread
    · rw [checkedItem] at hread
      split_ifs at hread
      have hid : item.id = ((textMember host members "id").map trimmed).getD "" := by
        rw [← Option.some.inj hread]
        rfl
      show (textMember host members "id").map trimmed = _
      rw [hid]
      cases htext : (textMember host members "id").map trimmed with
      | some text => rfl
      | none =>
        -- an item has an id
        rw [htext, Option.getD_none] at hid
        simp [DeliveryOutboxItem.named, hid] at hnamed
    · cases hread

variable {entries : List (DartValue Double)}

/-- The items that are read of a file are its entries that parse. -/
theorem mem_load_entries (hentries : file.entries = some entries) :
    item ∈ load host file.document ↔ ∃ entry ∈ entries, fromJson host entry = some item := by
  match file, hentries with
  | .missing, h => cases h; simp [OutboxFile.document, load]
  | .blank, h => cases h; simp [OutboxFile.document, load]
  | .json (.obj members), h =>
    have hload : load host (OutboxFile.json (.obj members)).document
        = entries.filterMap (fromJson host) := by
      show ((storedItems members).getD []).filterMap (fromJson host) = _
      rw [show storedItems members = some entries from h]
      rfl
    rw [hload, List.mem_filterMap]

variable {call : OutboxCall}

/-- A file keeps its own entries. -/
theorem keptEntry_self (hentries : file.entries = some entries) (h : entry ∈ entries) :
    KeptEntry host capsuleHex call file entry := by
  unfold KeptEntry
  split
  · rename_i item hitem
    exact ⟨entries, hentries, entry, h, entryId_of_fromJson hitem, Or.inr hitem⟩
  · exact ⟨entries, hentries, h⟩

/-- A call changes only the items it is about. -/
theorem change_of_other (h : call.itemId host capsuleHex ≠ some item.id) :
    call.change host capsuleHex item = item := by
  have hne : ∀ {itemId : String}, call.itemId host capsuleHex = some itemId → item.id ≠ itemId := by
    intro itemId hitemId heq
    exact h (by rw [hitemId, heq])
  unfold OutboxCall.change
  cases call with
  | load => rfl
  | enqueueIfAbsent obligation => rfl
  | enqueue obligation => exact if_neg (hne rfl)
  | markAttempt itemId nextAttemptAt lastError => exact if_neg (hne rfl)
  | markPublished itemId nextAttemptAt evidence => exact if_neg (hne rfl)
  | markSuperseded itemId => exact if_neg (hne rfl)

theorem itemId_of_obligation {obligation : Obligation} (h : call.obligation = some obligation) :
    call.itemId host capsuleHex = some (stableId host capsuleHex obligation) := by
  cases call with
  | enqueue other => exact congrArg _ (congrArg _ (Option.some.inj h))
  | enqueueIfAbsent other => exact congrArg _ (congrArg _ (Option.some.inj h))
  | load => cases h
  | markAttempt itemId nextAttemptAt lastError => cases h
  | markPublished itemId nextAttemptAt evidence => cases h
  | markSuperseded itemId => cases h

/-- What a call makes of the items, with what it adds. -/
theorem mem_transform {items next : List DeliveryOutboxItem}
    (h : transform host capsuleHex items call = some next) :
    item ∈ next ↔ (∃ old ∈ items, item = call.change host capsuleHex old) ∨
      ∃ obligation, call.obligation = some obligation ∧
        stableId host capsuleHex obligation ∉ items.map DeliveryOutboxItem.id ∧
        item = newItem host capsuleHex obligation := by
  rcases transform_eq_some h with ⟨rfl, hheld⟩ | ⟨obligation, hcall, habsent, rfl⟩
  · have hnone : ¬ ∃ obligation, call.obligation = some obligation ∧
        stableId host capsuleHex obligation ∉ items.map DeliveryOutboxItem.id ∧
        item = newItem host capsuleHex obligation := by
      rintro ⟨obligation, hobligation, hnot, -⟩
      exact hnot (hheld obligation hobligation)
    rw [or_iff_left hnone, List.mem_map]
    exact exists_congr fun old => and_congr_right fun _ => eq_comm
  · rw [List.mem_append, List.mem_map, List.mem_singleton]
    refine or_congr (exists_congr fun old => and_congr_right fun _ => eq_comm) ?_
    constructor
    · intro heq
      exact ⟨obligation, hcall, habsent, heq⟩
    · rintro ⟨other, hother, -, heq⟩
      rw [hcall, Option.some.injEq] at hother
      rw [hother]
      exact heq

/-! ### What a write keeps -/

/-- A readable item parses, so what does not parse is no readable item. -/
theorem not_readable_of_unparsed (hentry : toJson host item = entry)
    (hnone : fromJson host entry = none) : ¬ Readable item := by
  intro hreadable
  have hread := @reread_of_readable _ host _ hreadable
  rw [reread, hentry, hnone] at hread
  cases hread

theorem readable_readOutbox {rewrites : Bool} :
    ∀ item ∈ (readOutbox host rewrites file).1, Readable item := by
  unfold readOutbox
  split
  · split_ifs
    · exact readable_load _
    · simp
  · exact readable_load _

variable {next : List DeliveryOutboxItem}

/-- **What a write keeps of an entry that parses**: everything where the read was complete,
    else only what it enqueues anew. -/
theorem keptEntry_parsed_iff {rewrites : Bool} (hentries : file.entries = some entries)
    (hnext : transform host capsuleHex (readOutbox host rewrites file).1 call = some next)
    (hentry : entry ∈ entries) (hitem : fromJson host entry = some item)
    (other : OutboxFile Double) :
    (∃ entries ∈ (other.replace (write host next)).entries, ∃ entry' ∈ entries,
      entryId host entry' = some item.id ∧
        (call.itemId host capsuleHex = some item.id ∨ fromJson host entry' = some item)) ↔
    ReadsAll host rewrites file ∨ ∃ obligation,
      call.obligation = some obligation ∧ stableId host capsuleHex obligation = item.id := by
  have hload : item ∈ load host file.document :=
    (mem_load_entries hentries).mpr ⟨entry, hentry, hitem⟩
  by_cases hall : ReadsAll host rewrites file
  · -- the items that were read are the entries that parse
    have hread : (readOutbox host rewrites file).1 = load host file.document := by
      unfold readOutbox
      rcases hall with hnone | hrewrites
      · rw [hnone]
      · cases migrated host file.document with
        | none => rfl
        | some refreshed =>
          dsimp only
          rw [if_pos hrewrites]
    refine iff_of_true ?_ (Or.inl hall)
    have hreadable := (readable_of_fromJson hitem).1
    have hid := (change_keeps host capsuleHex call item hreadable).2
    refine exists_entry_write.mpr ⟨call.change host capsuleHex item, ?_, ?_, ?_⟩
    · rw [mem_transform hnext, hread]
      exact Or.inl ⟨item, hload, rfl⟩
    · rw [← hid]
      apply entryId_toJson
      rw [hid]
      exact hreadable.id
    · by_cases hnamed : call.itemId host capsuleHex = some item.id
      · exact Or.inl hnamed
      · right
        rw [change_of_other hnamed]
        exact reread_of_fromJson hitem
  · -- a failed rewrite has read nothing
    have hread : (readOutbox host rewrites file).1 = [] := by
      unfold readOutbox
      rw [ReadsAll, not_or] at hall
      cases hmigrated : migrated host file.document with
      | none => exact absurd hmigrated hall.1
      | some refreshed =>
        dsimp only
        rw [if_neg hall.2]
    rw [or_iff_right hall]
    have hnew : ∀ written, written ∈ next ↔ ∃ obligation, call.obligation = some obligation ∧
        written = newItem host capsuleHex obligation := by
      intro written
      rw [mem_transform hnext, hread]
      simp
    rw [exists_entry_write]
    constructor
    · rintro ⟨written, hwritten, hid, -⟩
      obtain ⟨obligation, hcall, rfl⟩ := (hnew written).mp hwritten
      rw [entryId_newItem] at hid
      exact ⟨obligation, hcall, Option.some.inj hid⟩
    · rintro ⟨obligation, hcall, hid⟩
      refine ⟨_, (hnew _).mpr ⟨obligation, hcall, rfl⟩, ?_, ?_⟩
      · rw [entryId_newItem]
        exact congrArg some hid
      · left
        rw [itemId_of_obligation hcall, hid]

/-- **What a write keeps of an entry that does not parse**: only what it writes just so. -/
theorem keptEntry_unparsed_iff {rewrites : Bool}
    (hnext : transform host capsuleHex (readOutbox host rewrites file).1 call = some next)
    (other : OutboxFile Double) :
    (∃ entries ∈ (other.replace (write host next)).entries, entry ∈ entries) ↔
    (∃ item ∈ (readOutbox host rewrites file).1,
        entry = toJson host (call.change host capsuleHex item)) ∨
      ∃ obligation, call.obligation = some obligation ∧
        stableId host capsuleHex obligation
          ∉ (readOutbox host rewrites file).1.map DeliveryOutboxItem.id ∧
        entry = toJson host (newItem host capsuleHex obligation) := by
  rw [mem_entries_write]
  constructor
  · rintro ⟨item, hitem, hentry⟩
    rcases (mem_transform hnext).mp hitem with ⟨old, hold, rfl⟩ | ⟨obligation, hcall, habsent, rfl⟩
    · exact Or.inl ⟨old, hold, hentry.symm⟩
    · exact Or.inr ⟨obligation, hcall, habsent, hentry.symm⟩
  · rintro (⟨old, hold, rfl⟩ | ⟨obligation, hcall, habsent, rfl⟩)
    · exact ⟨_, (mem_transform hnext).mpr (Or.inl ⟨old, hold, rfl⟩), rfl⟩
    · exact ⟨_, (mem_transform hnext).mpr (Or.inr ⟨obligation, hcall, habsent, rfl⟩), rfl⟩

variable {refreshed : Option (DartValue Double)}

/-- The rewrite of an older schema writes the items that were read. -/
theorem migrated_eq (h : migrated host file.document = some refreshed) :
    refreshed = write host (load host file.document) := by
  unfold migrated at h
  split at h
  · rename_i members hmembers
    split_ifs at h
    obtain ⟨items, hitems, rfl⟩ := Option.map_eq_some_iff.mp h
    rw [hmembers, load, hitems]
    rfl
  · cases h

/-- A call that writes nothing has nothing to enqueue. -/
theorem not_absent_of_transform_none (h : transform host capsuleHex items call = none) :
    ¬ ∃ obligation, call.obligation = some obligation ∧
      stableId host capsuleHex obligation ∉ items.map DeliveryOutboxItem.id := by
  rintro ⟨obligation, hcall, habsent⟩
  rcases transform_eq_none.mp h with rfl | ⟨other, rfl, hmem⟩
  · cases hcall
  · obtain rfl : other = obligation := Option.some.inj hcall
    exact habsent hmem

/-- What a rewrite alone keeps are the entries that parse. -/
theorem keptEntry_rewritten_iff {writes : Bool} (h : migrated host file.document = some refreshed)
    (hnothing : writes = false ∨
      transform host capsuleHex (readOutbox host true file).1 call = none)
    (hentries : file.entries = some entries) (hentry : entry ∈ entries) :
    KeptEntry host capsuleHex call (file.replace refreshed) entry ↔
      Spared host capsuleHex true writes call file entry := by
  rw [migrated_eq h]
  unfold KeptEntry Spared
  cases hparse : fromJson host entry with
  | some item =>
    refine iff_of_true (exists_entry_write.mpr ⟨item, ?_, ?_, ?_⟩) (Or.inl (Or.inr rfl))
    · exact (mem_load_entries hentries).mpr ⟨entry, hentry, hparse⟩
    · exact entryId_toJson (readable_of_fromJson hparse).1.id
    · exact Or.inr (reread_of_fromJson hparse)
  | none =>
    refine iff_of_false ?_ ?_
    · rw [mem_entries_write]
      rintro ⟨item, hitem, hsame⟩
      exact not_readable_of_unparsed hsame hparse (readable_load _ item hitem)
    · rintro ⟨hwrites, hwritten⟩
      rcases hnothing with hno | hnone
      · rw [hwrites] at hno
        cases hno
      · rcases hwritten with ⟨item, hitem, hsame⟩ | ⟨obligation, hcall, habsent, -⟩
        · rw [change_of_transform_none hnone] at hsame
          exact not_readable_of_unparsed hsame.symm hparse (readable_readOutbox item hitem)
        · exact not_absent_of_transform_none hnone ⟨obligation, hcall, habsent⟩

/-- What a write keeps. -/
theorem keptEntry_written_iff {rewrites : Bool}
    (hnext : transform host capsuleHex (readOutbox host rewrites file).1 call = some next)
    (hentries : file.entries = some entries) (hentry : entry ∈ entries)
    (other : OutboxFile Double) :
    KeptEntry host capsuleHex call (other.replace (write host next)) entry ↔
      Spared host capsuleHex rewrites true call file entry := by
  unfold KeptEntry Spared
  cases hparse : fromJson host entry with
  | some item =>
    dsimp only
    rw [keptEntry_parsed_iff hentries hnext hentry hparse other]
    simp only [true_and]
  | none =>
    dsimp only
    rw [keptEntry_unparsed_iff hnext other]
    simp only [true_and]

variable {rewrites writes : Bool}

/-- A file that was replaced by one with entries keeps what the new one keeps. -/
theorem preserves_of_stored {file after : OutboxFile Double} (hstored : after.entries.isSome = true)
    (hkept : ∀ entries, file.entries = some entries → ∀ entry ∈ entries,
      (KeptEntry host capsuleHex call after entry ↔
        Spared host capsuleHex rewrites writes call file entry)) :
    Preserves host capsuleHex call file after ↔ ∃ entries ∈ file.entries, ∀ entry ∈ entries,
      Spared host capsuleHex rewrites writes call file entry := by
  constructor
  · rintro (rfl | ⟨entries, hentries, hall⟩)
    · -- the same entries are there
      obtain ⟨entries, hentries⟩ := Option.isSome_iff_exists.mp hstored
      exact ⟨entries, hentries, fun entry hentry =>
        (hkept entries hentries entry hentry).mp (keptEntry_self hentries hentry)⟩
    · exact ⟨entries, hentries, fun entry hentry =>
        (hkept entries hentries entry hentry).mp (hall entry hentry)⟩
  · rintro ⟨entries, hentries, hall⟩
    exact Or.inr ⟨entries, hentries, fun entry hentry =>
      (hkept entries hentries entry hentry).mpr (hall entry hentry)⟩

theorem entries_write_isSome (items : List DeliveryOutboxItem) (file : OutboxFile Double) :
    (file.replace (write host items)).entries.isSome = true := rfl

/-- A call that gets as far as to read. -/
theorem mutate_ready (hfile : file ≠ .undecodable) (hready : ready capsuleHex call = true) :
    mutate host capsuleHex rewrites writes call file
      = match transform host capsuleHex (readOutbox host rewrites file).1 call with
        | some next =>
          if writes then (readOutbox host rewrites file).2.replace (write host next)
          else (readOutbox host rewrites file).2
        | none => (readOutbox host rewrites file).2 := by
  unfold mutate
  split
  · exact absurd rfl hfile
  · rw [if_pos hready]

/-- A call that has nothing to write, or whose write fails, leaves what was rewritten. -/
theorem preserves_unwritten_iff (hfile : file ≠ .undecodable)
    (hready : ready capsuleHex call = true) (hnothing : writes = false ∨
      transform host capsuleHex (readOutbox host rewrites file).1 call = none) :
    Preserves host capsuleHex call file (readOutbox host rewrites file).2 ↔
      WritesNothing host capsuleHex rewrites writes call file ∨
        ∃ entries ∈ file.entries, ∀ entry ∈ entries,
          Spared host capsuleHex rewrites writes call file entry := by
  cases hmigrated : migrated host file.document with
  | none =>
    have hread : readOutbox host rewrites file = (load host file.document, file) := by
      rw [readOutbox, hmigrated]
    rw [hread] at hnothing ⊢
    refine iff_of_true (Or.inl rfl) (Or.inl (Or.inr (Or.inr ⟨Or.inl hmigrated, ?_⟩)))
    rcases hnothing with hno | hnone
    · exact Or.inl hno
    · rcases transform_eq_none.mp hnone with hload | habsent
      · exact Or.inr (Or.inl hload)
      · exact Or.inr (Or.inr ⟨hmigrated, habsent⟩)
  | some refreshed =>
    cases rewrites with
    | false =>
      have hread : readOutbox host false file = ([], file) := by
        rw [readOutbox, hmigrated]
        rfl
      rw [hread] at hnothing ⊢
      refine iff_of_true (Or.inl rfl) (Or.inl (Or.inr (Or.inr ⟨Or.inr rfl, ?_⟩)))
      rcases hnothing with hno | hnone
      · exact Or.inl hno
      · rcases transform_eq_none.mp hnone with hload | ⟨_, -, hmem⟩
        · exact Or.inr (Or.inl hload)
        · cases hmem
    | true =>
      have hread : (readOutbox host true file).2 = file.replace refreshed := by
        rw [readOutbox, hmigrated]
        rfl
      have hwrites : ¬ WritesNothing host capsuleHex true writes call file := by
        rintro (hund | hnot | ⟨hnone | hfalse, -⟩)
        · exact hfile hund
        · rw [hready] at hnot
          cases hnot
        · rw [hmigrated] at hnone
          cases hnone
        · cases hfalse
      rw [or_iff_right hwrites, hread]
      apply preserves_of_stored
      · rw [migrated_eq hmigrated]
        exact entries_write_isSome _ file
      · intro entries hentries entry hentry
        exact keptEntry_rewritten_iff hmigrated hnothing hentries hentry

end Losses

/-- **When a call keeps every entry that was stored**: it writes nothing, or each entry is
    spared. -/
theorem mutate_preserves_iff {Double : Type} (host : OutboxHost Double) (capsuleHex : String)
    (rewrites writes : Bool) (call : OutboxCall) (file : OutboxFile Double) :
    Preserves host capsuleHex call file (mutate host capsuleHex rewrites writes call file) ↔
      WritesNothing host capsuleHex rewrites writes call file ∨
        ∃ entries ∈ file.entries, ∀ entry ∈ entries,
          Spared host capsuleHex rewrites writes call file entry := by
  by_cases hfile : file = .undecodable
  · rw [hfile]
    exact iff_of_true (Or.inl rfl) (Or.inl (Or.inl rfl))
  · by_cases hready : ready capsuleHex call = true
    · rw [mutate_ready hfile hready]
      cases htransform : transform host capsuleHex (readOutbox host rewrites file).1 call with
      | none => exact preserves_unwritten_iff hfile hready (Or.inr htransform)
      | some next =>
        cases writes with
        | false => exact preserves_unwritten_iff hfile hready (Or.inl rfl)
        | true =>
          have hwrites : ¬ WritesNothing host capsuleHex rewrites true call file := by
            rintro (hund | hnot | ⟨-, hfalse | hload | ⟨hnone, obligation, hcall, hmem⟩⟩)
            · exact hfile hund
            · rw [hready] at hnot
              cases hnot
            · cases hfalse
            · rw [hload] at htransform
              cases htransform
            · have hread : (readOutbox host rewrites file).1 = load host file.document := by
                rw [readOutbox, hnone]
              rw [hread, transform_eq_none.mpr (Or.inr ⟨obligation, hcall, hmem⟩)] at htransform
              cases htransform
          rw [or_iff_right hwrites]
          dsimp only
          rw [if_pos rfl]
          apply preserves_of_stored (entries_write_isSome next _)
          intro entries hentries entry hentry
          exact keptEntry_written_iff htransform hentries hentry _
    · have hsame : mutate host capsuleHex rewrites writes call file = file := by
        unfold mutate
        split
        · rfl
        · rw [if_neg hready]
      rw [hsame]
      exact iff_of_true (Or.inl rfl) (Or.inl (Or.inr (Or.inl (by simpa using hready))))

/-- **Counterexample.** A malformed outbox is replaced by the one obligation that is enqueued. -/
theorem garbledOutbox_replaced :
    ¬ ∀ (call : OutboxCall) (file : OutboxFile String),
      Preserves sampleOutbox capsuleText call file
        (mutate sampleOutbox capsuleText true true call file) := by
  intro hpreserves
  rcases hpreserves (.enqueue (invitationObligation firstReference)) .garbled with h | ⟨_, h, -⟩
  · have hready : ready capsuleText (.enqueue (invitationObligation firstReference)) = true := by
      decide +kernel
    rw [mutate_ready (by simp) hready] at h
    cases h
  · cases h

end DeliveryOutbox

end Hivra
