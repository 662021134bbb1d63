import Mathlib.Computability.Primrec.List

namespace JsonDocument

/-!
# JSON documents

A document is the tree a JSON text stands for, over any type of numbers: the literals of a
text, or the numbers a language makes of them.  Object members keep their order and may
repeat a name, as in a text.

* `traverseItems_iff`, `traverseMembers_iff` — what changing every number does, level by level.
* `WellKeyed.traverse`, `lookup_of_forall₂` — changing the numbers keeps the names.
* `traverse_map` — changing the numbers twice.
-/

/-- A JSON document over the numbers `ν`. -/
inductive Json (ν : Type)
  | null
  | bool (value : Bool)
  | num (value : ν)
  | str (text : String)
  | arr (items : List (Json ν))
  | obj (members : List (String × Json ν))

variable {ν μ : Type}

/-- Set the member of a name: in its place, or else at the end. -/
def setMember (name : String) (value : Json ν) :
    List (String × Json ν) → List (String × Json ν)
  | [] => [(name, value)]
  | (other, old) :: rest =>
    if other = name then (name, value) :: rest else (other, old) :: setMember name value rest

variable {members : List (String × Json ν)} {value : Json ν} {name : String}

/-- Setting a new name adds a member at the end. -/
theorem setMember_of_not_mem (h : name ∉ members.map Prod.fst) :
    setMember name value members = members ++ [(name, value)] := by
  induction members with
  | nil => rfl
  | cons member rest ih =>
    simp only [List.map_cons, List.mem_cons, not_or] at h
    rw [setMember, if_neg (Ne.symm h.1), ih h.2]
    rfl

/-- Setting a name that is there keeps the names. -/
theorem names_setMember (h : name ∈ members.map Prod.fst) :
    (setMember name value members).map Prod.fst = members.map Prod.fst := by
  induction members with
  | nil => simp at h
  | cons member rest ih =>
    rw [setMember]
    split_ifs with hname
    · rw [List.map_cons, List.map_cons, hname]
    · have hrest : name ∈ rest.map Prod.fst := by
        rcases List.mem_cons.mp h with heq | hrest
        · exact absurd heq.symm hname
        · exact hrest
      rw [List.map_cons, List.map_cons, ih hrest]

/-- The member that was set. -/
theorem lookup_setMember_self (name : String) (value : Json ν) (members : List (String × Json ν)) :
    (setMember name value members).lookup name = some value := by
  induction members with
  | nil => simp [setMember]
  | cons member rest ih =>
    rw [setMember]
    split_ifs with hname
    · simp
    · have hne : (name == member.1) = false := by simpa using Ne.symm hname
      rw [List.lookup, hne]
      exact ih

/-- The other members stay. -/
theorem lookup_setMember_ne {name other : String} (h : other ≠ name) (value : Json ν)
    (members : List (String × Json ν)) :
    (setMember name value members).lookup other = members.lookup other := by
  have hother : (other == name) = false := by simpa using h
  induction members with
  | nil => simp [setMember, List.lookup, hother]
  | cons member rest ih =>
    obtain ⟨first, old⟩ := member
    rw [setMember]
    split_ifs with hname
    · rw [hname, List.lookup, List.lookup, hother]
    · cases hfirst : other == first with
      | true => rw [List.lookup, List.lookup, hfirst]
      | false =>
        rw [List.lookup, List.lookup, hfirst]
        exact ih

/-- Setting a member repeats no name. -/
theorem nodup_setMember (h : (members.map Prod.fst).Nodup) :
    ((setMember name value members).map Prod.fst).Nodup := by
  by_cases hname : name ∈ members.map Prod.fst
  · rw [names_setMember hname]
    exact h
  · rw [setMember_of_not_mem hname, List.map_append, List.nodup_append]
    refine ⟨h, List.nodup_singleton name, ?_⟩
    intro other hother last hlast heq
    rw [heq, List.mem_singleton.mp hlast] at hother
    exact hname hother

/-- A member after a set is the one that was set or an old one. -/
theorem mem_setMember {member : String × Json ν} (h : member ∈ setMember name value members) :
    member = (name, value) ∨ member ∈ members := by
  induction members with
  | nil => exact Or.inl (List.mem_singleton.mp h)
  | cons first rest ih =>
    rw [setMember] at h
    split_ifs at h with hname
    · rcases List.mem_cons.mp h with heq | hrest
      · exact Or.inl heq
      · exact Or.inr (List.mem_cons_of_mem _ hrest)
    · rcases List.mem_cons.mp h with heq | hrest
      · exact Or.inr (heq ▸ List.mem_cons_self)
      · exact (ih hrest).imp id (List.mem_cons_of_mem _)

namespace Json

/-! ### Objects as maps -/

mutual

/-- Every object read as a map: a later member replaces an earlier one of its name. -/
def collapse : Json ν → Json ν
  | null => null
  | bool value => bool value
  | num value => num value
  | str text => str text
  | arr items => arr (collapseItems items)
  | obj members => obj (collapseMembers [] members)

def collapseItems : List (Json ν) → List (Json ν)
  | [] => []
  | item :: rest => item.collapse :: collapseItems rest

/-- The members read so far, and the ones to come. -/
def collapseMembers (read : List (String × Json ν)) :
    List (String × Json ν) → List (String × Json ν)
  | [] => read
  | (name, value) :: rest => collapseMembers (setMember name value.collapse read) rest

end

mutual

/-- No object of a document repeats a name. -/
def WellKeyed : Json ν → Prop
  | null => True
  | bool _ => True
  | num _ => True
  | str _ => True
  | arr items => WellKeyedItems items
  | obj members => (members.map Prod.fst).Nodup ∧ WellKeyedMembers members

def WellKeyedItems : List (Json ν) → Prop
  | [] => True
  | item :: rest => item.WellKeyed ∧ WellKeyedItems rest

def WellKeyedMembers : List (String × Json ν) → Prop
  | [] => True
  | (_, value) :: rest => value.WellKeyed ∧ WellKeyedMembers rest

end

theorem wellKeyedItems_iff (items : List (Json ν)) :
    WellKeyedItems items ↔ ∀ item ∈ items, item.WellKeyed := by
  induction items with
  | nil => simp [WellKeyedItems]
  | cons item rest ih => simp [WellKeyedItems, ih]

theorem wellKeyedMembers_iff (members : List (String × Json ν)) :
    WellKeyedMembers members ↔ ∀ member ∈ members, member.2.WellKeyed := by
  induction members with
  | nil => simp [WellKeyedMembers]
  | cons member rest ih => simp [WellKeyedMembers, ih]

variable {items : List (Json ν)}

/-- An array is well keyed when its items are. -/
theorem wellKeyed_arr (h : ∀ item ∈ items, item.WellKeyed) : (arr items).WellKeyed :=
  (wellKeyedItems_iff items).mpr h

mutual

/-- **Reading objects as maps changes nothing when no name repeats.** -/
theorem collapse_of_wellKeyed : ∀ doc : Json ν, doc.WellKeyed → doc.collapse = doc
  | null, _ => by rw [collapse]
  | bool _, _ => by rw [collapse]
  | num _, _ => by rw [collapse]
  | str _, _ => by rw [collapse]
  | arr items, h => by rw [collapse, collapseItems_of_wellKeyed items h]
  | obj members, h => by
    rw [collapse, collapseMembers_of_wellKeyed members [] (by simpa using h.1) h.2]
    rfl

theorem collapseItems_of_wellKeyed :
    ∀ items : List (Json ν), WellKeyedItems items → collapseItems items = items
  | [], _ => by rw [collapseItems]
  | item :: rest, h => by
    rw [collapseItems, collapse_of_wellKeyed item h.1, collapseItems_of_wellKeyed rest h.2]

theorem collapseMembers_of_wellKeyed : ∀ members read : List (String × Json ν),
    ((read ++ members).map Prod.fst).Nodup → WellKeyedMembers members →
      collapseMembers read members = read ++ members
  | [], read, _, _ => by rw [collapseMembers, List.append_nil]
  | (name, value) :: rest, read, hnames, h => by
    -- the name was not read before, so the member goes to the end
    have hnew : name ∉ read.map Prod.fst := by
      intro hmem
      rw [List.map_append, List.nodup_append] at hnames
      exact hnames.2.2 name hmem name (by simp) rfl
    rw [collapseMembers, collapse_of_wellKeyed value h.1, setMember_of_not_mem hnew,
      collapseMembers_of_wellKeyed rest _ (by simpa using hnames) h.2]
    simp

end

mutual

/-- **What was read as maps repeats no name.** -/
theorem wellKeyed_collapse : ∀ doc : Json ν, doc.collapse.WellKeyed
  | null => by rw [collapse]; trivial
  | bool _ => by rw [collapse]; trivial
  | num _ => by rw [collapse]; trivial
  | str _ => by rw [collapse]; trivial
  | arr items => by rw [collapse]; exact wellKeyed_collapseItems items
  | obj members => by
    rw [collapse]
    exact wellKeyed_collapseMembers members [] List.nodup_nil trivial

theorem wellKeyed_collapseItems : ∀ items : List (Json ν), WellKeyedItems (collapseItems items)
  | [] => by rw [collapseItems]; trivial
  | item :: rest => by
    rw [collapseItems]
    exact ⟨wellKeyed_collapse item, wellKeyed_collapseItems rest⟩

theorem wellKeyed_collapseMembers : ∀ members read : List (String × Json ν),
    (read.map Prod.fst).Nodup → WellKeyedMembers read →
      (obj (collapseMembers read members)).WellKeyed
  | [], read, hnames, hread => by
    rw [collapseMembers]
    exact ⟨hnames, hread⟩
  | (name, value) :: rest, read, hnames, hread => by
    rw [collapseMembers]
    apply wellKeyed_collapseMembers rest _ (nodup_setMember hnames)
    rw [wellKeyedMembers_iff] at hread ⊢
    intro member hmember
    rcases mem_setMember hmember with rfl | hold
    · exact wellKeyed_collapse value
    · exact hread member hold

end

/-! ### Changing the numbers -/

mutual

/-- The document with every number changed, if each one can be. -/
def traverse (f : ν → Option μ) : Json ν → Option (Json μ)
  | null => some null
  | bool value => some (bool value)
  | num value => (f value).map num
  | str text => some (str text)
  | arr items => (traverseItems f items).map arr
  | obj members => (traverseMembers f members).map obj

def traverseItems (f : ν → Option μ) : List (Json ν) → Option (List (Json μ))
  | [] => some []
  | item :: rest =>
    match item.traverse f, traverseItems f rest with
    | some item, some rest => some (item :: rest)
    | _, _ => none

def traverseMembers (f : ν → Option μ) :
    List (String × Json ν) → Option (List (String × Json μ))
  | [] => some []
  | (name, value) :: rest =>
    match value.traverse f, traverseMembers f rest with
    | some value, some rest => some ((name, value) :: rest)
    | _, _ => none

end

variable {f : ν → Option μ}

/-- The items of a changed array. -/
theorem traverseItems_iff (items : List (Json ν)) (items' : List (Json μ)) :
    traverseItems f items = some items' ↔
      List.Forall₂ (fun item item' => item.traverse f = some item') items items' := by
  induction items generalizing items' with
  | nil => simp [traverseItems, eq_comm]
  | cons item rest ih =>
    rw [traverseItems, List.forall₂_cons_left_iff]
    cases hitem : item.traverse f with
    | none => simp
    | some changed =>
      cases hrest : traverseItems f rest with
      | none => simp [← ih, hrest]
      | some changedRest =>
        simp only [← ih, hrest, Option.some.injEq]
        constructor
        · rintro rfl
          exact ⟨changed, changedRest, rfl, rfl, rfl⟩
        · rintro ⟨_, _, rfl, rfl, rfl⟩
          rfl

/-- The members of a changed object. -/
theorem traverseMembers_iff (members : List (String × Json ν)) (members' : List (String × Json μ)) :
    traverseMembers f members = some members' ↔
      List.Forall₂ (fun member member' => member'.1 = member.1 ∧
        member.2.traverse f = some member'.2) members members' := by
  induction members generalizing members' with
  | nil => simp [traverseMembers, eq_comm]
  | cons member rest ih =>
    obtain ⟨name, value⟩ := member
    rw [traverseMembers, List.forall₂_cons_left_iff]
    cases hvalue : value.traverse f with
    | none => simp
    | some changed =>
      cases hrest : traverseMembers f rest with
      | none => simp [← ih, hrest]
      | some changedRest =>
        simp only [← ih, hrest, Option.some.injEq]
        constructor
        · rintro rfl
          exact ⟨(name, changed), changedRest, ⟨rfl, rfl⟩, rfl, rfl⟩
        · rintro ⟨⟨name', value'⟩, rest', ⟨rfl, rfl⟩, rfl, rfl⟩
          rfl

/-- A changed array is an array of changed items. -/
theorem traverse_arr_iff (items : List (Json ν)) (doc : Json μ) :
    (arr items).traverse f = some doc ↔ ∃ items', doc = arr items' ∧
      List.Forall₂ (fun item item' => item.traverse f = some item') items items' := by
  rw [traverse, Option.map_eq_some_iff]
  simp only [traverseItems_iff]
  exact ⟨fun ⟨items', h, heq⟩ => ⟨items', heq.symm, h⟩, fun ⟨items', heq, h⟩ => ⟨items', h, heq.symm⟩⟩

/-- A changed object has the same names over changed values. -/
theorem traverse_obj_iff (members : List (String × Json ν)) (doc : Json μ) :
    (obj members).traverse f = some doc ↔ ∃ members', doc = obj members' ∧
      List.Forall₂ (fun member member' => member'.1 = member.1 ∧
        member.2.traverse f = some member'.2) members members' := by
  rw [traverse, Option.map_eq_some_iff]
  simp only [traverseMembers_iff]
  exact ⟨fun ⟨members', h, heq⟩ => ⟨members', heq.symm, h⟩,
    fun ⟨members', heq, h⟩ => ⟨members', h, heq.symm⟩⟩

variable {members : List (String × Json ν)} {members' : List (String × Json μ)}

/-- The names of changed members. -/
theorem names_of_forall₂ (h : List.Forall₂ (fun member member' => member'.1 = member.1 ∧
      member.2.traverse f = some member'.2) members members') :
    members'.map Prod.fst = members.map Prod.fst := by
  induction h with
  | nil => rfl
  | cons hmember _ ih => rw [List.map_cons, List.map_cons, hmember.1, ih]

/-- The member of a name in a changed object. -/
theorem lookup_of_forall₂ (h : List.Forall₂ (fun member member' => member'.1 = member.1 ∧
      member.2.traverse f = some member'.2) members members') (name : String) :
    members'.lookup name = (members.lookup name).bind (traverse f) := by
  induction h with
  | nil => rfl
  | @cons member member' rest rest' hmember _ ih =>
    obtain ⟨first, value⟩ := member
    obtain ⟨first', value'⟩ := member'
    obtain ⟨rfl, hvalue⟩ : first' = first ∧ value.traverse f = some value' := hmember
    cases hname : name == first' with
    | true => rw [List.lookup, List.lookup, hname, Option.bind_some, hvalue]
    | false =>
      rw [List.lookup, List.lookup, hname]
      exact ih

/-- A member of a changed object has its changed value. -/
theorem exists_lookup_of_forall₂ {members' : List (String × Json μ)}
    (h : List.Forall₂ (fun member member' => member'.1 = member.1 ∧
      member.2.traverse f = some member'.2) members members') {name : String} {value : Json ν}
    (hlookup : members.lookup name = some value) :
    ∃ value', value.traverse f = some value' ∧ members'.lookup name = some value' := by
  induction h with
  | nil => cases hlookup
  | @cons member member' rest rest' hmember _ ih =>
    obtain ⟨first, old⟩ := member
    obtain ⟨first', old'⟩ := member'
    obtain ⟨rfl, hold⟩ : first' = first ∧ old.traverse f = some old' := hmember
    cases hname : name == first' with
    | true =>
      rw [List.lookup, hname] at hlookup
      rw [List.lookup, hname, ← Option.some.inj hlookup]
      exact ⟨old', hold, rfl⟩
    | false =>
      rw [List.lookup, hname] at hlookup
      rw [List.lookup, hname]
      exact ih hlookup

mutual

/-- **Changing the numbers keeps the names.** -/
theorem WellKeyed.traverse : ∀ (doc : Json ν) (doc' : Json μ), doc.WellKeyed →
    doc.traverse f = some doc' → doc'.WellKeyed
  | null, _, _, h => by rw [Json.traverse] at h; rw [← Option.some.inj h]; trivial
  | bool _, _, _, h => by rw [Json.traverse] at h; rw [← Option.some.inj h]; trivial
  | num value, _, _, h => by
    rw [Json.traverse, Option.map_eq_some_iff] at h
    obtain ⟨_, -, rfl⟩ := h
    trivial
  | str _, _, _, h => by rw [Json.traverse] at h; rw [← Option.some.inj h]; trivial
  | arr items, doc', hkeyed, h => by
    obtain ⟨items', rfl, hitems⟩ := (traverse_arr_iff items doc').mp h
    exact WellKeyedItems.traverse items items' hkeyed hitems
  | obj members, doc', hkeyed, h => by
    obtain ⟨members', rfl, hmembers⟩ := (traverse_obj_iff members doc').mp h
    refine ⟨?_, WellKeyedMembers.traverse members members' hkeyed.2 hmembers⟩
    rw [names_of_forall₂ hmembers]
    exact hkeyed.1

theorem WellKeyedItems.traverse : ∀ (items : List (Json ν)) (items' : List (Json μ)),
    WellKeyedItems items →
      List.Forall₂ (fun item item' => item.traverse f = some item') items items' →
      WellKeyedItems items'
  | [], _, _, .nil => trivial
  | item :: rest, _, hkeyed, .cons hitem hrest =>
    ⟨WellKeyed.traverse item _ hkeyed.1 hitem, WellKeyedItems.traverse rest _ hkeyed.2 hrest⟩

theorem WellKeyedMembers.traverse :
    ∀ (members : List (String × Json ν)) (members' : List (String × Json μ)),
    WellKeyedMembers members →
      List.Forall₂ (fun member member' => member'.1 = member.1 ∧
        member.2.traverse f = some member'.2) members members' →
      WellKeyedMembers members'
  | [], _, _, .nil => trivial
  | (_, value) :: rest, _, hkeyed, .cons hmember hrest =>
    ⟨WellKeyed.traverse value _ hkeyed.1 hmember.2,
      WellKeyedMembers.traverse rest _ hkeyed.2 hrest⟩

end

/-! ### Changing the numbers twice -/

mutual

/-- The document with every number changed. -/
def map (g : ν → μ) : Json ν → Json μ
  | null => null
  | bool value => bool value
  | num value => num (g value)
  | str text => str text
  | arr items => arr (mapItems g items)
  | obj members => obj (mapMembers g members)

def mapItems (g : ν → μ) : List (Json ν) → List (Json μ)
  | [] => []
  | item :: rest => item.map g :: mapItems g rest

def mapMembers (g : ν → μ) : List (String × Json ν) → List (String × Json μ)
  | [] => []
  | (name, value) :: rest => (name, value.map g) :: mapMembers g rest

end

/-- Items are changed one by one. -/
theorem mapItems_eq_map (g : ν → μ) (items : List (Json ν)) :
    mapItems g items = items.map (map g) := by
  induction items with
  | nil => rfl
  | cons item rest ih => rw [mapItems, ih, List.map_cons]

/-- The member of a name among changed members. -/
theorem lookup_mapMembers (g : ν → μ) (members : List (String × Json ν)) (name : String) :
    (mapMembers g members).lookup name = (members.lookup name).map (Json.map g) := by
  induction members with
  | nil => rfl
  | cons member rest ih =>
    obtain ⟨first, value⟩ := member
    cases hname : name == first with
    | true => rw [mapMembers, List.lookup, List.lookup, hname, Option.map_some]
    | false =>
      rw [mapMembers, List.lookup, List.lookup, hname]
      exact ih

section Twice

variable {κ : Type} {h : μ → Option κ} {g : ν → μ}

mutual

/-- A change behind a change that always goes through. -/
theorem traverse_map : ∀ doc : Json ν,
    (doc.map g).traverse h = doc.traverse fun number => h (g number)
  | null => by rw [map, traverse, traverse]
  | bool _ => by rw [map, traverse, traverse]
  | num _ => by rw [map, traverse, traverse]
  | str _ => by rw [map, traverse, traverse]
  | arr items => by rw [map, traverse, traverse, traverseItems_mapItems items]
  | obj members => by rw [map, traverse, traverse, traverseMembers_mapMembers members]

theorem traverseItems_mapItems : ∀ items : List (Json ν),
    traverseItems h (mapItems g items) = traverseItems (fun number => h (g number)) items
  | [] => by rw [mapItems, traverseItems, traverseItems]
  | item :: rest => by
    rw [mapItems, traverseItems, traverseItems, traverse_map item, traverseItems_mapItems rest]

theorem traverseMembers_mapMembers : ∀ members : List (String × Json ν),
    traverseMembers h (mapMembers g members)
      = traverseMembers (fun number => h (g number)) members
  | [] => by rw [mapMembers, traverseMembers, traverseMembers]
  | (name, value) :: rest => by
    rw [mapMembers, traverseMembers, traverseMembers, traverse_map value,
      traverseMembers_mapMembers rest]

end

end Twice

section Reads

variable {κ : Type} {f : ν → Option μ} {g : μ → κ} {h : ν → κ}

mutual

/-- **Changed numbers that read as the old ones do make a document that reads as the old
    one does.** -/
theorem map_of_traverse (hsame : ∀ value changed, f value = some changed → g changed = h value) :
    ∀ (doc : Json ν) (doc' : Json μ), doc.traverse f = some doc' → doc'.map g = doc.map h
  | null, _, hdoc => by
    rw [traverse] at hdoc
    rw [← Option.some.inj hdoc, map, map]
  | bool _, _, hdoc => by
    rw [traverse] at hdoc
    rw [← Option.some.inj hdoc, map, map]
  | num value, _, hdoc => by
    rw [traverse, Option.map_eq_some_iff] at hdoc
    obtain ⟨changed, hchanged, rfl⟩ := hdoc
    rw [map, map, hsame value changed hchanged]
  | str _, _, hdoc => by
    rw [traverse] at hdoc
    rw [← Option.some.inj hdoc, map, map]
  | arr items, doc', hdoc => by
    obtain ⟨items', rfl, hitems⟩ := (traverse_arr_iff items doc').mp hdoc
    rw [map, map, mapItems_of_traverse hsame items items' hitems]
  | obj members, doc', hdoc => by
    obtain ⟨members', rfl, hmembers⟩ := (traverse_obj_iff members doc').mp hdoc
    rw [map, map, mapMembers_of_traverse hsame members members' hmembers]

theorem mapItems_of_traverse
    (hsame : ∀ value changed, f value = some changed → g changed = h value) :
    ∀ (items : List (Json ν)) (items' : List (Json μ)),
      List.Forall₂ (fun item item' => item.traverse f = some item') items items' →
        mapItems g items' = mapItems h items
  | [], _, .nil => by rw [mapItems, mapItems]
  | item :: rest, _, .cons hitem hrest => by
    rw [mapItems, mapItems, map_of_traverse hsame item _ hitem,
      mapItems_of_traverse hsame rest _ hrest]

theorem mapMembers_of_traverse
    (hsame : ∀ value changed, f value = some changed → g changed = h value) :
    ∀ (members : List (String × Json ν)) (members' : List (String × Json μ)),
      List.Forall₂ (fun member member' => member'.1 = member.1 ∧
        member.2.traverse f = some member'.2) members members' →
        mapMembers g members' = mapMembers h members
  | [], _, .nil => by rw [mapMembers, mapMembers]
  | (name, value) :: rest, (name', value') :: _, .cons hmember hrest => by
    obtain ⟨rfl, hvalue⟩ : name' = name ∧ value.traverse f = some value' := hmember
    rw [mapMembers, mapMembers, map_of_traverse hsame value _ hvalue,
      mapMembers_of_traverse hsame rest _ hrest]

end

end Reads

/-! ### Numbers that stay -/

variable {g : ν → Option ν}

/-- An array of items that stay as they are stays as it is. -/
theorem traverse_arr_self (h : ∀ item ∈ items, item.traverse g = some item) :
    (arr items).traverse g = some (arr items) := by
  rw [traverse_arr_iff]
  refine ⟨items, rfl, ?_⟩
  rw [List.forall₂_same]
  exact h

/-- An object of values that stay as they are stays as it is. -/
theorem traverse_obj_self (h : ∀ member ∈ members, member.2.traverse g = some member.2) :
    (obj members).traverse g = some (obj members) := by
  rw [traverse_obj_iff]
  refine ⟨members, rfl, ?_⟩
  rw [List.forall₂_same]
  intro member hmember
  exact ⟨rfl, h member hmember⟩

end Json

end JsonDocument
