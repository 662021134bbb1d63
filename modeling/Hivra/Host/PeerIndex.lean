import Hivra.Host.IntentHandler

namespace Hivra

open Replay

/-!
# The peer routing projection

One transient index answers where to send to a root, and which root a transport stands for.
It is filled from trusted cards, then relationships, then incoming invitations; in either
direction the first writer wins.

* `peerIdentityIndex_maps` — what an index answers, by the first observation of a key.
-/

/-- The fields of a contact card that routing reads. -/
structure CapsuleAddressCard where
  rootHex : String
  nostrHex : String
  deriving DecidableEq

structure PeerIdentityIndex where
  transportPeers : List String
  transportToRoot : String → Option String
  rootToTransport : String → Option String

section Keys

variable {Double : Type} (dart : DartViews Double)

/-- The bytes of pairs of digits, as `int.parse` reads them. -/
def hexPairs : List Char → Option (List UInt8)
  | [] => some []
  | high :: low :: rest =>
    match dart.tryParseInt (some 16) [high, low], hexPairs rest with
    | some value, some bytes => some (UInt8.ofInt value :: bytes)
    | _, _ => none
  | [_] => none

/-- A text without colons, blanks and dashes. -/
def withoutMarks (input : List Char) : List Char :=
  input.filter fun c => c ≠ ':' ∧ c ≠ ' ' ∧ c ≠ '-'

/-- The 32 bytes of a text of 64 digits. -/
def decodeHex32 (input : List Char) : Option (List UInt8) :=
  if (withoutMarks input).length ≠ 64 then none else hexPairs dart (withoutMarks input)

def hexKey (value : String) : Option String :=
  (decodeHex32 dart (trimmedLower value).toList).map hexText

/-- The key of a decoded base 64 text. -/
def base64Key (bytes : List UInt8) : Option String :=
  if bytes.length = 32 then some (hexText bytes) else none

end Keys

namespace PeerIdentityIndex

def nothing : PeerIdentityIndex := ⟨[], fun _ => none, fun _ => none⟩

/-- A root is never its own endpoint. -/
def remember (index : PeerIdentityIndex) (root transport : Option String) : PeerIdentityIndex :=
  match root, transport with
  | some root, some transport =>
    if root = transport then index
    else
      { transportPeers := index.transportPeers.insert transport
        transportToRoot := putIfAbsent index.transportToRoot transport root
        rootToTransport := putIfAbsent index.rootToTransport root transport }
  | _, _ => index

/-- A legacy relationship names its transport only. -/
def addTransport (index : PeerIdentityIndex) (transport : Option String) : PeerIdentityIndex :=
  match transport with
  | some transport =>
    { index with transportPeers := index.transportPeers.insert transport }
  | none => index

def rememberRelationship (index : PeerIdentityIndex) (relationship : Relationship) :
    PeerIdentityIndex :=
  if !relationship.isActive || relationship.hasPendingRemoteBreak then index
  else
    match relationship.peerRootPubkey with
    | none => index.addTransport (base64Key relationship.peerPubkey)
    | some [] => index.addTransport (base64Key relationship.peerPubkey)
    | some root => index.remember (base64Key root) (base64Key relationship.peerPubkey)

/-- An incoming invitation names no recipient. -/
def rememberInvitation (index : PeerIdentityIndex) (invitation : Invitation) : PeerIdentityIndex :=
  if invitation.toPubkey.isNone then
    index.remember (base64Key (invitation.fromRootPubkey.getD []))
      (base64Key invitation.fromPubkey)
  else index

def resolveTransportForSend (index : PeerIdentityIndex) (peerHex : String) : Option String :=
  let normalized := trimmedLower peerHex
  if isHex64 normalized then
    match index.rootToTransport normalized with
    | some transport => some transport
    | none => if normalized ∈ index.transportPeers then some normalized else none
  else none

def resolveConsensusForIncoming (index : PeerIdentityIndex) (transportPeerHex : String) : String :=
  let normalized := trimmedLower transportPeerHex
  if isHex64 normalized then (index.transportToRoot normalized).getD normalized else normalized

end PeerIdentityIndex

open PeerIdentityIndex

section Index

variable {Double : Type} (dart : DartViews Double)

def rememberCard (index : PeerIdentityIndex) (card : CapsuleAddressCard) : PeerIdentityIndex :=
  index.remember (hexKey dart card.rootHex) (hexKey dart card.nostrHex)

def peerIdentityIndex (relationships : List Relationship) (invitations : List Invitation)
    (cards : List CapsuleAddressCard) : PeerIdentityIndex :=
  replay rememberInvitation
    (replay rememberRelationship (replay (rememberCard dart) nothing cards) relationships)
    invitations

/-! ### Routes -/

/-- What an observation of a root and a transport routes. -/
def route (root transport : Option String) : Option (String × String) :=
  match root, transport with
  | some root, some transport => if root = transport then none else some (root, transport)
  | _, _ => none

def cardRoute (card : CapsuleAddressCard) : Option (String × String) :=
  route (hexKey dart card.rootHex) (hexKey dart card.nostrHex)

def relationshipRoute (relationship : Relationship) : Option (String × String) :=
  if !relationship.isActive || relationship.hasPendingRemoteBreak then none
  else route (base64Key (relationship.peerRootPubkey.getD [])) (base64Key relationship.peerPubkey)

def invitationRoute (invitation : Invitation) : Option (String × String) :=
  if invitation.toPubkey.isNone then
    route (base64Key (invitation.fromRootPubkey.getD [])) (base64Key invitation.fromPubkey)
  else none

/-- What is observed beside the cards. -/
def observedRoutes (relationships : List Relationship) (invitations : List Invitation) :
    List (String × String) :=
  relationships.filterMap relationshipRoute ++ invitations.filterMap invitationRoute

/-- All routes in the order in which they are remembered. -/
def peerRoutes (relationships : List Relationship) (invitations : List Invitation)
    (cards : List CapsuleAddressCard) : List (String × String) :=
  cards.filterMap (cardRoute dart) ++ observedRoutes relationships invitations

/-- The maps after an observation. -/
def Observed (before after : PeerIdentityIndex) (routed : Option (String × String)) : Prop :=
  after.transportToRoot =
      routed.elim before.transportToRoot (fun p => putIfAbsent before.transportToRoot p.2 p.1) ∧
    after.rootToTransport =
      routed.elim before.rootToTransport (fun p => putIfAbsent before.rootToTransport p.1 p.2) ∧
    before.transportPeers ⊆ after.transportPeers ∧
    ∀ p, routed = some p → p.2 ∈ after.transportPeers

/-- What a loop body observes of its item. -/
def Observes {ι : Type} (step : PeerIdentityIndex → ι → PeerIdentityIndex)
    (observe : ι → Option (String × String)) : Prop :=
  ∀ index item, Observed index (step index item) (observe item)

theorem remembered_self (index : PeerIdentityIndex) : Observed index index none :=
  ⟨rfl, rfl, fun _ h => h, fun _ hp => nomatch hp⟩

theorem remember_observed (index : PeerIdentityIndex) (root transport : Option String) :
    Observed index (index.remember root transport) (route root transport) := by
  cases root with
  | none => exact remembered_self index
  | some r =>
    cases transport with
    | none => exact remembered_self index
    | some t =>
      rw [route, remember]
      by_cases heq : r = t
      · rw [if_pos heq, if_pos heq]
        exact remembered_self index
      · rw [if_neg heq, if_neg heq]
        refine ⟨rfl, rfl, fun _ h => List.mem_insert_of_mem h, fun p hp => ?_⟩
        rw [← Option.some.inj hp]
        exact List.mem_insert_self

theorem addTransport_observed (index : PeerIdentityIndex) (transport : Option String) :
    Observed index (index.addTransport transport) none := by
  cases transport with
  | none => exact remembered_self index
  | some t => exact ⟨rfl, rfl, fun _ h => List.mem_insert_of_mem h, fun _ hp => nomatch hp⟩

theorem rememberCard_observes : Observes (rememberCard dart) (cardRoute dart) := by
  intro index card
  unfold rememberCard cardRoute
  exact remember_observed index _ _

theorem rememberRelationship_observes : Observes rememberRelationship relationshipRoute := by
  intro index relationship
  unfold relationshipRoute rememberRelationship
  cases hskip : !relationship.isActive || relationship.hasPendingRemoteBreak with
  | true => exact remembered_self index
  | false =>
    -- without a root there is no route, and the transport is added alone
    rw [if_neg (by decide), if_neg (by decide)]
    cases hroot : relationship.peerRootPubkey with
    | none => exact addTransport_observed index _
    | some root =>
      cases root with
      | nil => exact addTransport_observed index _
      | cons byte rest => exact remember_observed index _ _

theorem rememberInvitation_observes : Observes rememberInvitation invitationRoute := by
  intro index invitation
  unfold invitationRoute rememberInvitation
  cases hincoming : invitation.toPubkey.isNone with
  | false => exact remembered_self index
  | true => exact remember_observed index _ _

/-- **Run.**  After a loop each map answers with the first route of the key. -/
theorem Observes.maps {ι : Type} {step : PeerIdentityIndex → ι → PeerIdentityIndex}
    {observe : ι → Option (String × String)} (h : Observes step observe)
    (index : PeerIdentityIndex) (items : List ι) :
    (∀ t, (replay step index items).transportToRoot t = (index.transportToRoot t).or
        (((items.filterMap observe).find? fun p => decide (p.2 = t)).map Prod.fst)) ∧
      ∀ r, (replay step index items).rootToTransport r = (index.rootToTransport r).or
        (((items.filterMap observe).find? fun p => decide (p.1 = r)).map Prod.snd) := by
  have hmaps : (replay step index items).transportToRoot =
        replay (fun table (p : String × String) => putIfAbsent table p.2 p.1)
          index.transportToRoot (items.filterMap observe) ∧
      (replay step index items).rootToTransport =
        replay (fun table (p : String × String) => putIfAbsent table p.1 p.2)
          index.rootToTransport (items.filterMap observe) := by
    induction items generalizing index with
    | nil => exact ⟨rfl, rfl⟩
    | cons item rest ih =>
      obtain ⟨hstep, hstep', -⟩ := h index item
      obtain ⟨hto, hfrom⟩ := ih (step index item)
      rw [replay_cons, hto, hfrom, hstep, hstep']
      cases hobserve : observe item with
      | none =>
        rw [List.filterMap_cons_none hobserve]
        exact ⟨rfl, rfl⟩
      | some p =>
        rw [List.filterMap_cons_some hobserve]
        exact ⟨rfl, rfl⟩
  rw [hmaps.1, hmaps.2]
  exact ⟨fun t => replay_putIfAbsent Prod.snd Prod.fst _ _ t,
    fun r => replay_putIfAbsent Prod.fst Prod.snd _ _ r⟩

/-- **Run.**  Every transport of a route is a known peer, and stays one. -/
theorem Observes.peers {ι : Type} {step : PeerIdentityIndex → ι → PeerIdentityIndex}
    {observe : ι → Option (String × String)} (h : Observes step observe)
    (index : PeerIdentityIndex) (items : List ι) :
    index.transportPeers ⊆ (replay step index items).transportPeers ∧
      ∀ p ∈ items.filterMap observe, p.2 ∈ (replay step index items).transportPeers := by
  induction items using List.reverseRecOn with
  | nil => exact ⟨fun _ h => h, fun _ hp => nomatch hp⟩
  | append_singleton items item ih =>
    obtain ⟨-, -, hkeep, hnew⟩ := h (replay step index items) item
    rw [replay_snoc]
    refine ⟨fun _ hpeer => hkeep (ih.1 hpeer), fun p hp => ?_⟩
    rw [List.filterMap_append, List.mem_append] at hp
    rcases hp with hold | hlast
    · exact hkeep (ih.2 p hold)
    · obtain ⟨other, hother, hroute⟩ := List.mem_filterMap.mp hlast
      rw [List.mem_singleton.mp hother] at hroute
      exact hnew p hroute

variable {dart} (relationships : List Relationship) (invitations : List Invitation)
  (cards : List CapsuleAddressCard)

/-- The maps of an index, loop after loop. -/
theorem peerIdentityIndex_maps :
    (∀ t, (peerIdentityIndex dart relationships invitations cards).transportToRoot t =
      ((peerRoutes dart relationships invitations cards).find?
        fun p => decide (p.2 = t)).map Prod.fst) ∧
    ∀ r, (peerIdentityIndex dart relationships invitations cards).rootToTransport r =
      ((peerRoutes dart relationships invitations cards).find?
        fun p => decide (p.1 = r)).map Prod.snd := by
  unfold peerIdentityIndex peerRoutes observedRoutes
  have hcards := (rememberCard_observes dart).maps nothing cards
  generalize replay (rememberCard dart) nothing cards = afterCards at hcards ⊢
  have hrelationships := rememberRelationship_observes.maps afterCards relationships
  generalize replay rememberRelationship afterCards relationships = after at hrelationships ⊢
  have hinvitations := rememberInvitation_observes.maps after invitations
  constructor
  · intro t
    rw [hinvitations.1, hrelationships.1, hcards.1, List.find?_append, List.find?_append,
      Option.map_or, Option.map_or, ← Option.or_assoc]
    exact congrArg (fun o : Option String => (o.or _).or _) (Option.none_or ..)
  · intro r
    rw [hinvitations.2, hrelationships.2, hcards.2, List.find?_append, List.find?_append,
      Option.map_or, Option.map_or, ← Option.or_assoc]
    exact congrArg (fun o : Option String => (o.or _).or _) (Option.none_or ..)

variable {relationships invitations cards}

/-- A transport that a card names is a known peer. -/
theorem mem_transportPeers_of_card {p : String × String}
    (hp : p ∈ cards.filterMap (cardRoute dart)) :
    p.2 ∈ (peerIdentityIndex dart relationships invitations cards).transportPeers := by
  have hcard := ((rememberCard_observes dart).peers nothing cards).2 p hp
  have hrelationships := (rememberRelationship_observes.peers _ relationships).1 hcard
  exact (rememberInvitation_observes.peers _ invitations).1 hrelationships

/-! ### Keys -/

/-- A key is the text of 32 bytes: it is read as itself. -/
def IsKey (key : String) : Prop := ∃ bytes : List UInt8, bytes.length = 32 ∧ key = hexText bytes

theorem trimmedLower_hexText (bytes : List UInt8) :
    trimmedLower (hexText bytes) = hexText bytes := by
  have hdigits : ∀ c ∈ (hexText bytes).toList, Char.toLower c = c :=
    forall_hexText (by decide) bytes
  have hlower : (hexText bytes).toList.map Char.toLower = (hexText bytes).toList :=
    (List.map_congr_left hdigits).trans (List.map_id' _)
  rw [trimmedLower, dartTrim_of_not_white not_white_hexText, hlower, String.ofList_toList]

theorem isHex64_hexText {bytes : List UInt8} (h : bytes.length = 32) :
    isHex64 (hexText bytes) = true := by
  have hdigits : ∀ c ∈ (hexText bytes).toList,
      (c.isDigit || (decide ('a' ≤ c) && decide (c ≤ 'f'))) = true :=
    forall_hexText (by decide) bytes
  rw [isHex64, length_hexText, h]
  simpa using hdigits

theorem IsKey.trimmedLower {key : String} (h : IsKey key) : trimmedLower key = key := by
  obtain ⟨bytes, -, rfl⟩ := h
  exact trimmedLower_hexText bytes

theorem IsKey.isHex64 {key : String} (h : IsKey key) : isHex64 key = true := by
  obtain ⟨bytes, hlength, rfl⟩ := h
  exact isHex64_hexText hlength

theorem resolveTransportForSend_root {index : PeerIdentityIndex} {peer transport : String}
    (hhex : Hivra.isHex64 (Hivra.trimmedLower peer) = true)
    (h : index.rootToTransport (Hivra.trimmedLower peer) = some transport) :
    index.resolveTransportForSend peer = some transport := by
  rw [resolveTransportForSend, if_pos hhex, h]

variable {key : String}

theorem resolveTransportForSend_key (index : PeerIdentityIndex) (h : IsKey key) :
    index.resolveTransportForSend key = (index.rootToTransport key).or
      (if key ∈ index.transportPeers then some key else none) := by
  rw [resolveTransportForSend, h.trimmedLower, if_pos h.isHex64]
  cases index.rootToTransport key <;> rfl

theorem resolveConsensusForIncoming_key (index : PeerIdentityIndex) (h : IsKey key) :
    index.resolveConsensusForIncoming key = (index.transportToRoot key).getD key := by
  rw [resolveConsensusForIncoming, h.trimmedLower, if_pos h.isHex64]

theorem length_hexPairs : ∀ {text : List Char} {bytes : List UInt8},
    hexPairs dart text = some bytes → text.length = 2 * bytes.length
  | [], bytes, h => by
    rw [hexPairs] at h
    rw [← Option.some.inj h]
    rfl
  | [_], bytes, h => by cases h
  | high :: low :: rest, bytes, h => by
    rw [hexPairs] at h
    split at h
    · rename_i value more _ hmore
      have ih := length_hexPairs hmore
      rw [← Option.some.inj h]
      simp only [List.length_cons]
      omega
    · cases h

theorem isKey_hexKey {value key : String} (h : hexKey dart value = some key) : IsKey key := by
  obtain ⟨bytes, hbytes, rfl⟩ := Option.map_eq_some_iff.mp h
  unfold decodeHex32 at hbytes
  split_ifs at hbytes with hlength
  refine ⟨bytes, ?_, rfl⟩
  have hpairs := length_hexPairs hbytes
  omega

theorem isKey_base64Key {bytes : List UInt8} (h : base64Key bytes = some key) : IsKey key := by
  unfold base64Key at h
  split_ifs at h with hlength
  exact ⟨bytes, hlength, (Option.some.inj h).symm⟩

theorem route_eq_some {root transport : Option String} {p : String × String} :
    route root transport = some p ↔
      root = some p.1 ∧ transport = some p.2 ∧ p.1 ≠ p.2 := by
  cases root with
  | none => simp [route]
  | some r =>
    cases transport with
    | none => simp [route]
    | some t =>
      obtain ⟨a, b⟩ := p
      rw [route]
      split_ifs with heq
      · simp only [Option.some.injEq, false_iff, not_and]
        rintro rfl rfl
        exact not_not.mpr heq
      · simp only [Option.some.injEq, Prod.mk.injEq]
        exact ⟨fun ⟨hr, ht⟩ => ⟨hr, ht, hr ▸ ht ▸ heq⟩, fun ⟨hr, ht, _⟩ => ⟨hr, ht⟩⟩

/-- Every route is between two different keys. -/
theorem mem_peerRoutes {p : String × String}
    (hp : p ∈ peerRoutes dart relationships invitations cards) :
    IsKey p.1 ∧ IsKey p.2 ∧ p.1 ≠ p.2 := by
  rw [peerRoutes, observedRoutes, List.mem_append, List.mem_append, List.mem_filterMap,
    List.mem_filterMap, List.mem_filterMap] at hp
  rcases hp with ⟨card, -, h⟩ | ⟨relationship, -, h⟩ | ⟨invitation, -, h⟩
  · obtain ⟨hroot, htransport, hne⟩ := route_eq_some.mp h
    exact ⟨isKey_hexKey hroot, isKey_hexKey htransport, hne⟩
  · unfold relationshipRoute at h
    split_ifs at h
    obtain ⟨hroot, htransport, hne⟩ := route_eq_some.mp h
    exact ⟨isKey_base64Key hroot, isKey_base64Key htransport, hne⟩
  · unfold invitationRoute at h
    split_ifs at h
    obtain ⟨hroot, htransport, hne⟩ := route_eq_some.mp h
    exact ⟨isKey_base64Key hroot, isKey_base64Key htransport, hne⟩

end Index

end Hivra
