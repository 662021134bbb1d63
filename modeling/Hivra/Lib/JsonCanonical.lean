import Hivra.Lib.TextBytes
import Mathlib.Data.List.Sort

namespace JsonText

/-!
# Canonical JSON

The canonical text of a value has the members of every object in the order of their names, and
nothing between its words.  It says everything about the value but the order its members came in.
-/

/-! ### Members in order -/

/-- The order of texts, unit by unit. -/
def textLe : Text → Text → Bool
  | [], _ => true
  | _ :: _, [] => false
  | c :: rest, d :: rest' => decide (c < d) || (c == d && textLe rest rest')

theorem textLe_cons {c d : UInt16} {rest rest' : Text} :
    textLe (c :: rest) (d :: rest') = true ↔ c < d ∨ c = d ∧ textLe rest rest' = true := by
  simp [textLe]

theorem textLe_total : ∀ a b : Text, textLe a b = true ∨ textLe b a = true
  | [], _ => .inl rfl
  | _ :: _, [] => .inr rfl
  | c :: rest, d :: rest' => by
    rw [textLe_cons, textLe_cons]
    rcases Nat.lt_trichotomy c.toNat d.toNat with hlt | heq | hgt
    · exact .inl (.inl hlt)
    · have hsame := UInt16.toNat_inj.mp heq
      exact (textLe_total rest rest').imp (fun hle => .inr ⟨hsame, hle⟩)
        fun hle => .inr ⟨hsame.symm, hle⟩
    · exact .inr (.inl hgt)

theorem textLe_trans : ∀ {a b c : Text}, textLe a b = true → textLe b c = true → textLe a c = true
  | [], _, _, _, _ => rfl
  | _ :: _, [], _, hab, _ => by cases hab
  | _ :: _, _ :: _, [], _, hbc => by cases hbc
  | c :: _, d :: _, e :: _, hab, hbc => by
    rw [textLe_cons] at hab hbc ⊢
    rcases hab with hlt | ⟨rfl, hle⟩
    · rcases hbc with hlt' | ⟨rfl, -⟩
      · exact .inl (Nat.lt_trans (show c.toNat < d.toNat from hlt) hlt')
      · exact .inl hlt
    · exact hbc.imp id fun hboth => ⟨hboth.1, textLe_trans hle hboth.2⟩

/-- Members in the order of their names. -/
def sortByName {α : Type} (members : List (Text × α)) : List (Text × α) :=
  members.insertionSort fun a b => textLe a.1 b.1 = true

variable {α : Type}

theorem sortByName_perm (members : List (Text × α)) :
    (sortByName members).Perm members := List.perm_insertionSort _ members

/-- The canonical text of a value; an infinite double has none. -/
def canonicalJson : Value → Option Text
  | .obj members => (canonicalMembers members).map fun texts =>
    123 :: commaJoin ((sortByName texts).map fun entry => quote entry.1 ++ 58 :: entry.2) ++ [125]
  | .arr items => (canonicalItems items).map fun texts => 91 :: commaJoin texts ++ [93]
  | value => encode value
where
  canonicalItems : List Value → Option (List Text)
    | [] => some []
    | item :: rest => do
      let first ← canonicalJson item
      let others ← canonicalItems rest
      some (first :: others)
  canonicalMembers : List (Text × Value) → Option (List (Text × Text))
    | [] => some []
    | (name, value) :: rest => do
      let first ← canonicalJson value
      let others ← canonicalMembers rest
      some ((name, first) :: others)

/-- A value with the members of its objects in order. -/
def Value.sorted : Value → Value
  | .arr items => .arr (sortedItems items)
  | .obj members => .obj (sortByName (sortedMembers members))
  | value => value
where
  sortedItems : List Value → List Value
    | [] => []
    | item :: rest => item.sorted :: sortedItems rest
  sortedMembers : List (Text × Value) → List (Text × Value)
    | [] => []
    | (name, value) :: rest => (name, value.sorted) :: sortedMembers rest

/-! ### The canonical text is the text of the value in order -/

/-- A member and its name and text. -/
def WrittenAs (member : Text × Value) (entry : Text × Text) : Prop :=
  member.1 = entry.1 ∧ encode member.2 = some entry.2

variable {members : List (Text × Value)} {entries : List (Text × Text)}

theorem forall₂_orderedInsert {member : Text × Value} {entry : Text × Text}
    (hfirst : WrittenAs member entry) (h : List.Forall₂ WrittenAs members entries) :
    List.Forall₂ WrittenAs (members.orderedInsert (fun a b => textLe a.1 b.1 = true) member)
      (entries.orderedInsert (fun a b => textLe a.1 b.1 = true) entry) := by
  induction h with
  | nil => exact List.Forall₂.cons hfirst List.Forall₂.nil
  | @cons other text members entries hother hrest ih =>
    rw [List.orderedInsert, List.orderedInsert, hfirst.1, hother.1]
    split_ifs
    · exact List.Forall₂.cons hfirst (List.Forall₂.cons hother hrest)
    · exact List.Forall₂.cons hother ih

theorem forall₂_sortByName (h : List.Forall₂ WrittenAs members entries) :
    List.Forall₂ WrittenAs (sortByName members) (sortByName entries) := by
  induction h with
  | nil => exact List.Forall₂.nil
  | cons hfirst _ ih => exact forall₂_orderedInsert hfirst ih

theorem encodeMembers_of_forall₂ (h : List.Forall₂ WrittenAs members entries) :
    encode.encodeMembers members =
      some (entries.map fun entry => quote entry.1 ++ 58 :: entry.2) := by
  induction h with
  | nil => rfl
  | @cons member entry members entries hfirst _ ih =>
    obtain ⟨name, value⟩ := member
    obtain ⟨rfl, hvalue⟩ := hfirst
    show (do
      let first ← encode value
      let others ← encode.encodeMembers members
      some ((quote entry.1 ++ 58 :: first) :: others)) = _
    rw [hvalue, ih]
    rfl

mutual

/-- **The canonical text of a value is the text of the value in order.** -/
theorem encode_sorted : ∀ {v : Value} {t : Text}, canonicalJson v = some t →
    encode v.sorted = some t
  | .null, _, h => h
  | .bool _, _, h => h
  | .int _, _, h => h
  | .double _, _, h => h
  | .str _, _, h => h
  | .arr items, t, h => by
    obtain ⟨texts, htexts, rfl⟩ := Option.map_eq_some_iff.mp h
    show (encode.encodeItems (Value.sorted.sortedItems items)).map _ = _
    rw [encodeItems_sorted htexts]
    rfl
  | .obj members, t, h => by
    obtain ⟨entries, hentries, rfl⟩ := Option.map_eq_some_iff.mp h
    show (encode.encodeMembers (sortByName (Value.sorted.sortedMembers members))).map _ = _
    rw [encodeMembers_of_forall₂ (forall₂_sortByName (writtenAs_sorted hentries))]
    rfl

theorem encodeItems_sorted : ∀ {items : List Value} {texts : List Text},
    canonicalJson.canonicalItems items = some texts →
    encode.encodeItems (Value.sorted.sortedItems items) = some texts
  | [], _, h => h
  | item :: items, texts, h => by
    obtain ⟨first, hfirst, h⟩ := Option.bind_eq_some_iff.mp h
    obtain ⟨others, hothers, h⟩ := Option.bind_eq_some_iff.mp h
    show (do
      let first ← encode item.sorted
      let others ← encode.encodeItems (Value.sorted.sortedItems items)
      some (first :: others)) = _
    rw [encode_sorted hfirst, encodeItems_sorted hothers]
    exact h

theorem writtenAs_sorted : ∀ {members : List (Text × Value)} {entries : List (Text × Text)},
    canonicalJson.canonicalMembers members = some entries →
    List.Forall₂ WrittenAs (Value.sorted.sortedMembers members) entries
  | [], _, h => by
    cases h
    exact List.Forall₂.nil
  | (name, value) :: members, entries, h => by
    obtain ⟨first, hfirst, h⟩ := Option.bind_eq_some_iff.mp h
    obtain ⟨others, hothers, h⟩ := Option.bind_eq_some_iff.mp h
    cases h
    exact List.Forall₂.cons ⟨rfl, encode_sorted hfirst⟩ (writtenAs_sorted hothers)

end

/-! ### Sound values -/

variable {D : Text → Prop}

theorem soundItems_iff {items : List Value} :
    Value.Sound.soundItems D items ↔ ∀ item ∈ items, item.Sound D := by
  induction items with
  | nil => simp [Value.Sound.soundItems]
  | cons item rest ih => rw [Value.Sound.soundItems, ih, List.forall_mem_cons]

theorem soundMembers_iff :
    Value.Sound.soundMembers D members ↔ ∀ member ∈ members, member.2.Sound D := by
  induction members with
  | nil => simp [Value.Sound.soundMembers]
  | cons member rest ih =>
    obtain ⟨name, value⟩ := member
    rw [Value.Sound.soundMembers, ih, List.forall_mem_cons]

theorem sortedItems_eq (items : List Value) :
    Value.sorted.sortedItems items = items.map Value.sorted := by
  induction items with
  | nil => rfl
  | cons item rest ih => rw [Value.sorted.sortedItems, ih, List.map_cons]

theorem sortedMembers_eq (members : List (Text × Value)) :
    Value.sorted.sortedMembers members = members.map fun member => (member.1, member.2.sorted) := by
  induction members with
  | nil => rfl
  | cons member rest ih =>
    obtain ⟨name, value⟩ := member
    rw [Value.sorted.sortedMembers, ih, List.map_cons]

theorem names_sortedMembers (members : List (Text × Value)) :
    (Value.sorted.sortedMembers members).map Prod.fst = members.map Prod.fst := by
  rw [sortedMembers_eq, List.map_map]
  rfl

mutual

theorem Value.Sound.sorted : ∀ {v : Value}, v.Sound D → v.sorted.Sound D
  | .null, h => h
  | .bool _, h => h
  | .int _, h => h
  | .double _, h => h
  | .str _, h => h
  | .arr items, h => soundItems_sorted h
  | .obj members, h => by
    have hperm := sortByName_perm (Value.sorted.sortedMembers members)
    refine ⟨(hperm.map Prod.fst).nodup_iff.mpr ?_, soundMembers_iff.mpr fun member hmember => ?_⟩
    · rw [names_sortedMembers]
      exact h.1
    · exact soundMembers_iff.mp (soundMembers_sorted h.2) member (hperm.mem_iff.mp hmember)

theorem soundItems_sorted : ∀ {items : List Value}, Value.Sound.soundItems D items →
    Value.Sound.soundItems D (Value.sorted.sortedItems items)
  | [], _ => trivial
  | _ :: _, h => ⟨h.1.sorted, soundItems_sorted h.2⟩

theorem soundMembers_sorted : ∀ {members : List (Text × Value)},
    Value.Sound.soundMembers D members →
    Value.Sound.soundMembers D (Value.sorted.sortedMembers members)
  | [], _ => trivial
  | (_, _) :: _, h => ⟨h.1.sorted, soundMembers_sorted h.2⟩

end

variable {v v' : Value}

/-- **Two values with one canonical text differ in the order of their members only.** -/
theorem canonicalJson_inj {t : Text} (hv : v.Sound IsDouble) (hv' : v'.Sound IsDouble)
    (h : canonicalJson v = some t) (h' : canonicalJson v' = some t) : v.sorted = v'.sorted :=
  encode_inj hv.sorted hv'.sorted (encode_sorted h) (encode_sorted h')

/-! ### What is read is sound -/

theorem names_setMember (name : Text) (value : α) (members : List (Text × α)) :
    (setMember name value members).map Prod.fst =
      if name ∈ members.map Prod.fst then members.map Prod.fst
      else members.map Prod.fst ++ [name] := by
  induction members with
  | nil => rfl
  | cons member rest ih =>
    obtain ⟨other, old⟩ := member
    rw [setMember]
    split_ifs with hsame hmem hmem
    · rw [hsame]
      rfl
    · exact absurd (by rw [List.map_cons, hsame]; exact List.mem_cons_self) hmem
    · rw [List.map_cons, ih, if_pos]
      · rfl
      · exact (List.mem_cons.mp hmem).resolve_left (Ne.symm hsame)
    · rw [List.map_cons, ih, if_neg]
      · rfl
      · exact fun hrest => hmem (List.mem_cons_of_mem _ hrest)

variable {name : Text} {members : List (Text × α)} {value : α}

theorem nodup_setMember (h : (members.map Prod.fst).Nodup) :
    ((setMember name value members).map Prod.fst).Nodup := by
  rw [names_setMember]
  split_ifs with hmem
  · exact h
  · rw [List.nodup_append]
    refine ⟨h, List.nodup_singleton name, ?_⟩
    rintro other hother _ hname rfl
    rw [List.mem_singleton.mp hname] at hother
    exact hmem hother

theorem mem_setMember {member : Text × α} (h : member ∈ setMember name value members) :
    member = (name, value) ∨ member ∈ members := by
  induction members with
  | nil => exact Or.inl (List.mem_singleton.mp h)
  | cons first rest ih =>
    obtain ⟨other, old⟩ := first
    rw [setMember] at h
    split_ifs at h with hsame
    · rcases List.mem_cons.mp h with rfl | hrest
      · exact Or.inl rfl
      · exact Or.inr (List.mem_cons_of_mem _ hrest)
    · rcases List.mem_cons.mp h with rfl | hrest
      · exact Or.inr List.mem_cons_self
      · exact (ih hrest).imp_right (List.mem_cons_of_mem _)

/-- What the members read so far are. -/
def MembersSound (D : Text → Prop) (read : List (Text × Value)) : Prop := (Value.obj read).Sound D

theorem MembersSound.set {value : Value} {read : List (Text × Value)} (h : MembersSound D read)
    (hvalue : value.Sound D) : MembersSound D (setMember name value read) := by
  refine ⟨nodup_setMember h.1, soundMembers_iff.mpr fun member hmember => ?_⟩
  rcases mem_setMember hmember with rfl | hmember
  · exact hvalue
  · exact soundMembers_iff.mp h.2 member hmember

def Frame.Sound (D : Text → Prop) : Frame → Prop
  | .items read => Value.Sound.soundItems D read
  | .members read _ => MembersSound D read

def Expects.Sound (D : Text → Prop) : Expects → Prop
  | .behindItem read => Value.Sound.soundItems D read
  | .name read => MembersSound D read
  | .colon read _ => MembersSound D read
  | .behindMember read => MembersSound D read
  | .nothing result => result.Sound D
  | _ => True

/-- Everything the reader of values has read is sound. -/
def ReaderSound (D : Text → Prop) (state : List Frame × Expects) : Prop :=
  (∀ frame ∈ state.1, frame.Sound D) ∧ state.2.Sound D

theorem soundItems_append {items : List Value} {item : Value}
    (h : Value.Sound.soundItems D items) (hitem : item.Sound D) :
    Value.Sound.soundItems D (items ++ [item]) := by
  rw [soundItems_iff] at h ⊢
  intro other hother
  rcases List.mem_append.mp hother with hother | hother
  · exact h other hother
  · rw [List.mem_singleton.mp hother]
    exact hitem

theorem readerSound_complete {stack : List Frame} {value : Value}
    (h : ∀ frame ∈ stack, frame.Sound D) (hvalue : value.Sound D) :
    ReaderSound D (complete stack value) := by
  cases stack with
  | nil => exact ⟨h, hvalue⟩
  | cons frame rest =>
    have hframe := h frame List.mem_cons_self
    have hrest : ∀ other ∈ rest, other.Sound D := fun other hother =>
      h other (List.mem_cons_of_mem _ hother)
    cases frame with
    | items read => exact ⟨hrest, soundItems_append hframe hvalue⟩
    | members read name => exact ⟨hrest, MembersSound.set hframe hvalue⟩

section Reader

variable {doubleText : Text → Text}

theorem numberValue_sound (hdouble : ∀ read, D (doubleText read)) {read : Text} {value : Value}
    (h : numberValue doubleText read = some value) : value.Sound D := by
  unfold numberValue at h
  obtain ⟨behindFraction, -, h⟩ := Option.bind_eq_some_iff.mp h
  obtain ⟨behind, -, h⟩ := Option.bind_eq_some_iff.mp h
  rw [Option.ite_none_left_eq_some] at h
  have hcases : ∀ {p : Prop} [Decidable p] {a b : Value}, (if p then some a else some b) =
      some value → value = a ∨ value = b := by
    intro p _ a b hite
    split_ifs at hite
    · exact Or.inl (Option.some.inj hite).symm
    · exact Or.inr (Option.some.inj hite).symm
  rcases hcases h.2 with rfl | rfl
  · trivial
  · exact hdouble read

theorem bareValue_sound (hdouble : ∀ read, D (doubleText read)) {read : Text} {value : Value}
    (h : bareValue doubleText read = some value) : value.Sound D := by
  unfold bareValue at h
  split_ifs at h
  · cases h
    trivial
  · cases h
    trivial
  · cases h
    trivial
  · exact numberValue_sound hdouble h

theorem openValue_sound (hdouble : ∀ read, D (doubleText read)) {stack : List Frame} {word : Word}
    {state : List Frame × Expects} (hstack : ∀ frame ∈ stack, frame.Sound D)
    (h : openValue doubleText stack word = some state) : ReaderSound D state := by
  unfold openValue at h
  split at h
  · cases h
    exact ⟨hstack, trivial⟩
  · cases h
    exact ⟨hstack, trivial⟩
  · cases h
  · cases h
    exact readerSound_complete hstack trivial
  · obtain ⟨value, hvalue, rfl⟩ := Option.map_eq_some_iff.mp h
    exact readerSound_complete hstack (bareValue_sound hdouble hvalue)

variable {state state' : List Frame × Expects}

theorem readStep_sound (hdouble : ∀ read, D (doubleText read)) {word : Word}
    (hstate : ReaderSound D state) (h : readStep doubleText state word = some state') :
    ReaderSound D state' := by
  obtain ⟨stack, expects⟩ := state
  obtain ⟨hstack, hexpects⟩ := hstate
  have hopen : ∀ frame, frame.Sound D → ∀ other ∈ frame :: stack, other.Sound D :=
    fun frame hframe => List.forall_mem_cons.mpr ⟨hframe, hstack⟩
  have hempty : MembersSound D [] := ⟨List.nodup_nil, trivial⟩
  unfold readStep at h
  dsimp only at h
  split at h
  · exact openValue_sound hdouble hstack h
  · cases h
    exact readerSound_complete hstack trivial
  · exact openValue_sound hdouble (hopen (.items []) trivial) h
  · cases h
    exact ⟨hopen (.items _) hexpects, trivial⟩
  · cases h
    exact readerSound_complete hstack hexpects
  · cases h
    exact readerSound_complete hstack hempty
  · cases h
    exact ⟨hstack, hempty⟩
  · cases h
    exact ⟨hstack, hexpects⟩
  · cases h
    exact ⟨hopen (.members _ _) hexpects, trivial⟩
  · cases h
    exact ⟨hstack, hexpects⟩
  · cases h
    exact readerSound_complete hstack hexpects
  · cases h

theorem foldlM_readStep_sound (hdouble : ∀ read, D (doubleText read)) {words : List Word}
    (hstate : ReaderSound D state) (h : words.foldlM (readStep doubleText) state = some state') :
    ReaderSound D state' := by
  induction words generalizing state with
  | nil =>
    cases h
    exact hstate
  | cons word rest ih =>
    rw [List.foldlM_cons] at h
    obtain ⟨next, hnext, h⟩ := Option.bind_eq_some_iff.mp h
    exact ih (readStep_sound hdouble hstate hnext) h

/-- **What is read of a text repeats no name.** -/
theorem decode_sound (hdouble : ∀ read, D (doubleText read)) {t : Text} {v : Value}
    (h : decode doubleText t = some v) : v.Sound D := by
  unfold decode at h
  obtain ⟨words, -, h⟩ := Option.bind_eq_some_iff.mp h
  have hstart : ReaderSound D ([], .value) := ⟨fun _ hframe => (nomatch hframe), trivial⟩
  split at h
  · next value hread =>
    cases h
    exact (foldlM_readStep_sound hdouble hstart hread).2
  · cases h

end Reader

/-! ### Canonical texts in bytes -/

/-- **Two values with one canonical text in bytes differ in the order of their members only.** -/
theorem canonicalBytes_inj {t t' : Text} (hv : v.Sound IsDouble) (hv' : v'.Sound IsDouble)
    (h : canonicalJson v = some t) (h' : canonicalJson v' = some t')
    (hsame : utf8Encode t = utf8Encode t') : v.sorted = v'.sorted := by
  have hpaired := paired_encode hv.sorted (encode_sorted h)
  have hpaired' := paired_encode hv'.sorted (encode_sorted h')
  obtain rfl := utf8Encode_inj hpaired hpaired' hsame
  exact canonicalJson_inj hv hv' h h'

/-! ### What the order of members does not change -/

theorem member?_of_mem (hnames : (members.map Prod.fst).Nodup) (h : (name, value) ∈ members) :
    member? name members = some value := by
  induction members with
  | nil => exact absurd h List.not_mem_nil
  | cons member rest ih =>
    rw [List.map_cons, List.nodup_cons] at hnames
    rcases List.mem_cons.mp h with heq | hrest
    · subst heq
      simp [member?]
    · have hne : (member.1 == name) = false := by
        rw [beq_eq_false_iff_ne]
        rintro rfl
        exact hnames.1 (List.mem_map.mpr ⟨_, hrest, rfl⟩)
      rw [member?, List.find?_cons_of_neg (by rw [hne]; exact Bool.false_ne_true)]
      exact ih hnames.2 hrest

theorem mem_of_member? (h : member? name members = some value) : (name, value) ∈ members := by
  obtain ⟨entry, hfind, rfl⟩ := Option.map_eq_some_iff.mp h
  have hname := List.find?_some hfind
  rw [beq_iff_eq] at hname
  rw [← hname]
  exact List.mem_of_find?_eq_some hfind

/-- The members of an object in order are the members of the object. -/
theorem member?_sorted {members : List (Text × Value)} (h : (members.map Prod.fst).Nodup)
    (name : Text) :
    member? name (sortByName (Value.sorted.sortedMembers members)) =
      (member? name members).map Value.sorted := by
  have hperm := sortByName_perm (Value.sorted.sortedMembers members)
  have hnames : ((sortByName (Value.sorted.sortedMembers members)).map Prod.fst).Nodup := by
    rw [(hperm.map Prod.fst).nodup_iff, names_sortedMembers]
    exact h
  ext value
  rw [Option.map_eq_some_iff]
  constructor
  · intro hvalue
    have hmem := hperm.mem_iff.mp (mem_of_member? hvalue)
    rw [sortedMembers_eq, List.mem_map] at hmem
    obtain ⟨⟨other, old⟩, hmem, heq⟩ := hmem
    obtain ⟨rfl, rfl⟩ := Prod.mk.inj heq
    exact ⟨old, member?_of_mem h hmem, rfl⟩
  · rintro ⟨old, hold, rfl⟩
    refine member?_of_mem hnames (hperm.mem_iff.mpr ?_)
    rw [sortedMembers_eq, List.mem_map]
    exact ⟨(name, old), mem_of_member? hold, rfl⟩

/-- Two objects that differ in the order of members only have the same members. -/
theorem member?_eq_of_sorted {members members' : List (Text × Value)}
    (h : (members.map Prod.fst).Nodup) (h' : (members'.map Prod.fst).Nodup)
    (hsame : (Value.obj members).sorted = (Value.obj members').sorted) (name : Text) :
    (member? name members).map Value.sorted = (member? name members').map Value.sorted := by
  rw [← member?_sorted h, ← member?_sorted h', Value.obj.inj hsame]

/-- Whether no object in the value has two members. -/
def Value.orderFree : Value → Bool
  | .arr items => freeItems items
  | .obj members => decide (members.length ≤ 1) && freeMembers members
  | _ => true
where
  freeItems : List Value → Bool
    | [] => true
    | item :: rest => item.orderFree && freeItems rest
  freeMembers : List (Text × Value) → Bool
    | [] => true
    | (_, value) :: rest => value.orderFree && freeMembers rest

theorem sortByName_of_length_le (h : members.length ≤ 1) : sortByName members = members := by
  match members with
  | [] => rfl
  | [_] => rfl

mutual

theorem sorted_of_orderFree : ∀ {v : Value}, v.orderFree = true → v.sorted = v
  | .null, _ => rfl
  | .bool _, _ => rfl
  | .int _, _ => rfl
  | .double _, _ => rfl
  | .str _, _ => rfl
  | .arr items, h => congrArg Value.arr (sortedItems_of_free h)
  | .obj members, h => by
    have hfree := Bool.and_eq_true_iff.mp h
    show Value.obj (sortByName (Value.sorted.sortedMembers members)) = _
    rw [sortedMembers_of_free hfree.2, sortByName_of_length_le (of_decide_eq_true hfree.1)]

theorem sortedItems_of_free : ∀ {items : List Value}, Value.orderFree.freeItems items = true →
    Value.sorted.sortedItems items = items
  | [], _ => rfl
  | item :: items, h => by
    have hfree := Bool.and_eq_true_iff.mp h
    rw [Value.sorted.sortedItems, sorted_of_orderFree hfree.1, sortedItems_of_free hfree.2]

theorem sortedMembers_of_free : ∀ {members : List (Text × Value)},
    Value.orderFree.freeMembers members = true → Value.sorted.sortedMembers members = members
  | [], _ => rfl
  | (name, value) :: members, h => by
    have hfree := Bool.and_eq_true_iff.mp h
    rw [Value.sorted.sortedMembers, sorted_of_orderFree hfree.1, sortedMembers_of_free hfree.2]

end

theorem freeMembers_iff {members : List (Text × Value)} :
    Value.orderFree.freeMembers members = true ↔ ∀ member ∈ members, member.2.orderFree = true := by
  induction members with
  | nil => simp [Value.orderFree.freeMembers]
  | cons member rest ih =>
    obtain ⟨name, value⟩ := member
    rw [Value.orderFree.freeMembers, Bool.and_eq_true, ih, List.forall_mem_cons]

mutual

theorem orderFree_of_sorted : ∀ {v : Value}, v.sorted.orderFree = true → v.orderFree = true
  | .null, _ => rfl
  | .bool _, _ => rfl
  | .int _, _ => rfl
  | .double _, _ => rfl
  | .str _, _ => rfl
  | .arr _, h => freeItems_of_sorted h
  | .obj members, h => by
    have hfree := Bool.and_eq_true_iff.mp h
    have hperm := sortByName_perm (Value.sorted.sortedMembers members)
    refine Bool.and_eq_true_iff.mpr ⟨decide_eq_true ?_, freeMembers_of_sorted ?_⟩
    · have hlength := of_decide_eq_true hfree.1
      rw [hperm.length_eq, sortedMembers_eq, List.length_map] at hlength
      exact hlength
    · rw [freeMembers_iff]
      exact fun member hmember => freeMembers_iff.mp hfree.2 member (hperm.mem_iff.mpr hmember)

theorem freeItems_of_sorted : ∀ {items : List Value},
    Value.orderFree.freeItems (Value.sorted.sortedItems items) = true →
    Value.orderFree.freeItems items = true
  | [], _ => rfl
  | _ :: _, h => by
    have hfree := Bool.and_eq_true_iff.mp h
    exact Bool.and_eq_true_iff.mpr ⟨orderFree_of_sorted hfree.1, freeItems_of_sorted hfree.2⟩

theorem freeMembers_of_sorted : ∀ {members : List (Text × Value)},
    Value.orderFree.freeMembers (Value.sorted.sortedMembers members) = true →
    Value.orderFree.freeMembers members = true
  | [], _ => rfl
  | (_, _) :: _, h => by
    have hfree := Bool.and_eq_true_iff.mp h
    exact Bool.and_eq_true_iff.mpr ⟨orderFree_of_sorted hfree.1, freeMembers_of_sorted hfree.2⟩

end

/-- **A value without two members in one object is the only one with its members.** -/
theorem eq_of_orderFree (hv : v.orderFree = true) (h : v.sorted = v'.sorted) : v = v' := by
  have hv' : v'.orderFree = true := by
    refine orderFree_of_sorted ?_
    rw [← h, sorted_of_orderFree hv]
    exact hv
  rw [← sorted_of_orderFree hv, h, sorted_of_orderFree hv']

end JsonText
