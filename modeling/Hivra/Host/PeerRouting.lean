import Hivra.Host.PeerIndex

namespace Hivra

open Replay PeerIdentityIndex

/-!
# Both directions of peer routing

The two maps are filled one by one.  A root is sent to the transport of its first observation,
and a transport is read as the root of its own first observation; the two agree where the first
observation of a root is the first one of its transport as well.
-/

section Routing

variable {Double : Type} {dart : DartViews Double} {relationships : List Relationship}
  {invitations : List Invitation} {cards : List CapsuleAddressCard}

/-- Every root that is sent to a transport by the root map is read back from it. -/
def SentBack (index : PeerIdentityIndex) : Prop :=
  ∀ peer transport, isHex64 (trimmedLower peer) = true →
    index.rootToTransport (trimmedLower peer) = some transport →
    index.resolveTransportForSend peer = some transport ∧
      index.resolveConsensusForIncoming transport = trimmedLower peer

/-- The first route of a root is the first route over its transport. -/
def FirstOfBoth (routes : List (String × String)) : Prop :=
  ∀ front route back, routes = front ++ route :: back →
    route.1 ∉ front.map Prod.fst → route.2 ∉ front.map Prod.snd

variable {k : String}

/-- The first item with a key, by what is in front of it. -/
theorem find_key_first {ι : Type} {key : ι → String} {items : List ι} {item : ι}
    (h : items.find? (fun i => decide (key i = k)) = some item) :
    key item = k ∧ ∃ front back, items = front ++ item :: back ∧ k ∉ front.map key := by
  obtain ⟨hkey, front, back, hitems, hfront⟩ := List.find?_eq_some_iff_append.mp h
  refine ⟨of_decide_eq_true hkey, front, back, hitems, fun hmem => ?_⟩
  obtain ⟨other, hother, hk⟩ := List.mem_map.mp hmem
  have hnot := hfront other hother
  rw [decide_eq_true hk] at hnot
  cases hnot

theorem find_key_of_first {ι : Type} {key : ι → String} {front back : List ι} {item : ι}
    (h : key item ∉ front.map key) :
    (front ++ item :: back).find? (fun i => decide (key i = key item)) = some item := by
  rw [List.find?_eq_some_iff_append]
  refine ⟨decide_eq_true rfl, front, back, rfl, fun other hother => ?_⟩
  have hne : key other ≠ key item := fun heq => h (heq ▸ List.mem_map_of_mem hother)
  rw [decide_eq_false hne]
  rfl

/-- **When a root is read back.** -/
theorem sent_back_iff :
    SentBack (peerIdentityIndex dart relationships invitations cards) ↔
      FirstOfBoth (peerRoutes dart relationships invitations cards) := by
  obtain ⟨hto, hfrom⟩ := @peerIdentityIndex_maps Double dart relationships invitations cards
  generalize peerIdentityIndex dart relationships invitations cards = index at hto hfrom ⊢
  constructor
  · rintro hback front ⟨root, transport⟩ back hroutes hfirst hmem
    have hmemRoute : (root, transport) ∈ peerRoutes dart relationships invitations cards := by
      rw [hroutes]
      exact List.mem_append_right front (List.mem_cons_self ..)
    obtain ⟨hroot, htransport, hne⟩ := mem_peerRoutes hmemRoute
    have hsent : index.rootToTransport (trimmedLower root) = some transport := by
      have hfind := @find_key_of_first _ Prod.fst front back (root, transport) hfirst
      rw [hroot.trimmedLower, hfrom, hroutes, hfind]
      rfl
    obtain ⟨-, hread⟩ := hback root transport (hroot.trimmedLower.symm ▸ hroot.isHex64) hsent
    -- the transport is read as the root of the route in front of it
    obtain ⟨earlier, hearlier, hkey⟩ := List.mem_map.mp hmem
    have hsome : ((peerRoutes dart relationships invitations cards).find?
        fun p => decide (p.2 = transport)).isSome = true := by
      rw [List.find?_isSome, hroutes]
      exact ⟨earlier, List.mem_append_left _ hearlier, decide_eq_true hkey⟩
    obtain ⟨found, hfound⟩ := Option.isSome_iff_exists.mp hsome
    rw [resolveConsensusForIncoming_key index htransport, hto, hfound,
      hroot.trimmedLower] at hread
    have hfoundRoot : found.1 = root := hread
    have hfoundFront : found ∈ front := by
      rw [hroutes, List.find?_append] at hfound
      cases hfront : front.find? fun p => decide (p.2 = transport) with
      | none =>
        have hnone := List.find?_eq_none.mp hfront earlier hearlier
        exact absurd (decide_eq_true hkey) hnone
      | some first =>
        rw [hfront, Option.some_or] at hfound
        rw [← Option.some.inj hfound]
        exact List.mem_of_find?_eq_some hfront
    exact hfirst (List.mem_map.mpr ⟨found, hfoundFront, hfoundRoot⟩)
  · intro hfirst peer transport hhex hsent
    refine ⟨resolveTransportForSend_root hhex hsent, ?_⟩
    rw [hfrom, Option.map_eq_some_iff] at hsent
    obtain ⟨route, hfind, rfl⟩ := hsent
    obtain ⟨hkey, front, back, hroutes, hnew⟩ := find_key_first hfind
    have hmem : route ∈ peerRoutes dart relationships invitations cards := by
      rw [hroutes]
      exact List.mem_append_right _ (List.mem_cons_self ..)
    obtain ⟨-, htransport, -⟩ := mem_peerRoutes hmem
    have hread := @find_key_of_first _ Prod.snd front back route
      (hfirst front route back hroutes (hkey ▸ hnew))
    rw [resolveConsensusForIncoming_key index htransport, hto, hroutes, hread]
    exact hkey

/-! ### What a card names -/

/-- What an index answers for a root and a transport in both directions. -/
def answersFor (index : PeerIdentityIndex) (p : String × String) :
    (Option String × String) × (Option String × String) :=
  ((index.resolveTransportForSend p.1, index.resolveConsensusForIncoming p.2),
    (index.resolveTransportForSend p.2, index.resolveConsensusForIncoming p.1))

/-- Nothing observed changes what either direction answers for what a card names. -/
def Undisturbed (dart : DartViews Double) (relationships : List Relationship)
    (invitations : List Invitation) (cards : List CapsuleAddressCard) : Prop :=
  ∀ p ∈ cards.filterMap (cardRoute dart),
    answersFor (peerIdentityIndex dart relationships invitations cards) p =
      answersFor (peerIdentityIndex dart [] [] cards) p

/-- Nothing observed takes the transport of a card for a root, or its root for a transport,
    unless a card does. -/
def NoCrossedKeys (dart : DartViews Double) (relationships : List Relationship)
    (invitations : List Invitation) (cards : List CapsuleAddressCard) : Prop :=
  ∀ p ∈ cards.filterMap (cardRoute dart), ∀ q ∈ observedRoutes relationships invitations,
    (q.1 = p.2 → p.2 ∈ (cards.filterMap (cardRoute dart)).map Prod.fst) ∧
    (q.2 = p.1 → p.1 ∈ (cards.filterMap (cardRoute dart)).map Prod.snd)

theorem observedRoutes_nil : observedRoutes [] [] = [] := rfl

variable {key : String × String → String}

/-- A key that a card has is answered by the cards, in either map. -/
theorem find_key_cards (h : k ∈ (cards.filterMap (cardRoute dart)).map key) :
    (peerRoutes dart relationships invitations cards).find? (fun p => decide (key p = k)) =
      (peerRoutes dart [] [] cards).find? (fun p => decide (key p = k)) := by
  obtain ⟨p, hp, hkey⟩ := List.mem_map.mp h
  rw [peerRoutes, peerRoutes, List.find?_append, List.find?_append]
  cases hfind : (cards.filterMap (cardRoute dart)).find? fun p => decide (key p = k) with
  | none => exact absurd (decide_eq_true hkey) (List.find?_eq_none.mp hfind p hp)
  | some first => rfl

/-- A key that no card has is answered by what is observed. -/
theorem find_key_observed (h : k ∉ (cards.filterMap (cardRoute dart)).map key) :
    (peerRoutes dart relationships invitations cards).find? (fun p => decide (key p = k)) =
      (observedRoutes relationships invitations).find? (fun p => decide (key p = k)) := by
  rw [peerRoutes, List.find?_append]
  have hnone : (cards.filterMap (cardRoute dart)).find? (fun p => decide (key p = k)) = none := by
    rw [List.find?_eq_none]
    intro p hp hkey
    exact h (List.mem_map.mpr ⟨p, hp, of_decide_eq_true hkey⟩)
  rw [hnone, Option.none_or]

variable {p : String × String}

variable (relationships invitations) in
/-- **What always stays.**  A root that a card names is sent where the cards send it, and a
    transport that a card names is read as the cards read it. -/
theorem named_stays (hp : p ∈ cards.filterMap (cardRoute dart)) :
    (answersFor (peerIdentityIndex dart relationships invitations cards) p).1 =
      (answersFor (peerIdentityIndex dart [] [] cards) p).1 := by
  obtain ⟨hroot, htransport, -⟩ := mem_peerRoutes (List.mem_append_left
    (observedRoutes relationships invitations) hp)
  obtain ⟨hto, hfrom⟩ := @peerIdentityIndex_maps Double dart relationships invitations cards
  obtain ⟨hto', hfrom'⟩ := @peerIdentityIndex_maps Double dart [] [] cards
  generalize peerIdentityIndex dart relationships invitations cards = index at hto hfrom ⊢
  generalize peerIdentityIndex dart [] [] cards = trusted at hto' hfrom' ⊢
  have hsame : index.rootToTransport p.1 = trusted.rootToTransport p.1 := by
    rw [hfrom, hfrom', find_key_cards (List.mem_map_of_mem hp)]
  have hsent : (trusted.rootToTransport p.1).isSome = true := by
    rw [hfrom', Option.isSome_map, List.find?_isSome]
    exact ⟨p, List.mem_append_left _ hp, decide_eq_true rfl⟩
  obtain ⟨transport, hsent⟩ := Option.isSome_iff_exists.mp hsent
  rw [answersFor, answersFor, resolveTransportForSend_key index hroot,
    resolveTransportForSend_key trusted hroot, resolveConsensusForIncoming_key index htransport,
    resolveConsensusForIncoming_key trusted htransport, hsame, hsent, hto, hto',
    find_key_cards (List.mem_map_of_mem hp)]
  rfl

/-- A key that is never its own value is answered as the cards answer it exactly when nothing
    observed has it or a card does. -/
theorem answer_stays_iff {key value : String × String → String}
    (hne : ∀ q ∈ observedRoutes relationships invitations, key q = k → value q ≠ k) :
    (((peerRoutes dart relationships invitations cards).find?
        fun p => decide (key p = k)).map value).getD k =
      (((peerRoutes dart [] [] cards).find? fun p => decide (key p = k)).map value).getD k ↔
      ∀ q ∈ observedRoutes relationships invitations,
        key q = k → k ∈ (cards.filterMap (cardRoute dart)).map key := by
  by_cases hcard : k ∈ (cards.filterMap (cardRoute dart)).map key
  · rw [find_key_cards hcard]
    exact ⟨fun _ _ _ _ => hcard, fun _ => rfl⟩
  · rw [find_key_observed hcard, find_key_observed hcard, observedRoutes_nil, List.find?_nil,
      Option.map_none, Option.getD_none]
    cases hfind : (observedRoutes relationships invitations).find? fun q => decide (key q = k) with
    | none =>
      refine ⟨fun _ q hq heq => ?_, fun _ => rfl⟩
      exact absurd (decide_eq_true heq) (List.find?_eq_none.mp hfind q hq)
    | some q =>
      have hq := List.mem_of_find?_eq_some hfind
      have hfound := List.find?_some hfind
      have hkey : key q = k := of_decide_eq_true hfound
      exact ⟨fun heq => absurd heq (hne q hq hkey), fun hall => absurd (hall q hq hkey) hcard⟩

/-- The transport of a card as a recipient: it stays unless it is observed as a root. -/
theorem transport_sent_iff (hp : p ∈ cards.filterMap (cardRoute dart)) :
    (peerIdentityIndex dart relationships invitations cards).resolveTransportForSend p.2 =
        (peerIdentityIndex dart [] [] cards).resolveTransportForSend p.2 ↔
      ∀ q ∈ observedRoutes relationships invitations,
        q.1 = p.2 → p.2 ∈ (cards.filterMap (cardRoute dart)).map Prod.fst := by
  obtain ⟨-, htransport, -⟩ := mem_peerRoutes (List.mem_append_left
    (observedRoutes relationships invitations) hp)
  have hfrom := (@peerIdentityIndex_maps Double dart relationships invitations cards).2
  have hfrom' := (@peerIdentityIndex_maps Double dart [] [] cards).2
  have hpeer := @mem_transportPeers_of_card _ _ relationships invitations _ _ hp
  have hpeer' := @mem_transportPeers_of_card _ _ [] [] _ _ hp
  generalize peerIdentityIndex dart relationships invitations cards = index at hfrom hpeer ⊢
  generalize peerIdentityIndex dart [] [] cards = trusted at hfrom' hpeer' ⊢
  rw [resolveTransportForSend_key index htransport, resolveTransportForSend_key trusted htransport,
    if_pos hpeer, if_pos hpeer', hfrom, hfrom', Option.or_some, Option.or_some, Option.some_inj]
  exact answer_stays_iff fun q hq hkey heq => (@mem_peerRoutes _ dart _ _ cards q
    (List.mem_append_right _ hq)).2.2 (hkey.trans heq.symm)

/-- The root of a card as a sender: it stays unless it is observed as a transport. -/
theorem root_read_iff (hp : p ∈ cards.filterMap (cardRoute dart)) :
    (peerIdentityIndex dart relationships invitations cards).resolveConsensusForIncoming p.1 =
        (peerIdentityIndex dart [] [] cards).resolveConsensusForIncoming p.1 ↔
      ∀ q ∈ observedRoutes relationships invitations,
        q.2 = p.1 → p.1 ∈ (cards.filterMap (cardRoute dart)).map Prod.snd := by
  obtain ⟨hroot, -, -⟩ := mem_peerRoutes (List.mem_append_left
    (observedRoutes relationships invitations) hp)
  have hto := (@peerIdentityIndex_maps Double dart relationships invitations cards).1
  have hto' := (@peerIdentityIndex_maps Double dart [] [] cards).1
  generalize peerIdentityIndex dart relationships invitations cards = index at hto ⊢
  generalize peerIdentityIndex dart [] [] cards = trusted at hto' ⊢
  rw [resolveConsensusForIncoming_key index hroot, resolveConsensusForIncoming_key trusted hroot,
    hto, hto']
  exact answer_stays_iff fun q hq hkey heq => (@mem_peerRoutes _ dart _ _ cards q
    (List.mem_append_right _ hq)).2.2 (heq.trans hkey.symm)

theorem undisturbed_iff :
    Undisturbed dart relationships invitations cards ↔
      NoCrossedKeys dart relationships invitations cards := by
  refine forall₂_congr fun p hp => ?_
  have hnamed := named_stays relationships invitations hp
  rw [Prod.ext_iff, and_iff_right hnamed, answersFor, answersFor, Prod.mk.injEq,
    transport_sent_iff hp, root_read_iff hp]
  exact ⟨fun h q hq => ⟨h.1 q hq, h.2 q hq⟩,
    fun h => ⟨fun q hq => (h q hq).1, fun q hq => (h q hq).2⟩⟩

end Routing

/-- **Peer routing in both directions.**  Every root is read back from the transport it is sent
    to, and nothing observed changes what is answered for what a card names, exactly when the
    first route of each root is the first over its transport and nothing observed crosses the
    keys of a card.  The root of a card is sent, and its transport read, as the cards say in
    any case. -/
theorem peerRouting_iff {Double : Type} (dart : DartViews Double)
    (relationships : List Relationship) (invitations : List Invitation)
    (cards : List CapsuleAddressCard) :
    ((SentBack (peerIdentityIndex dart relationships invitations cards) ∧
        Undisturbed dart relationships invitations cards) ↔
      (FirstOfBoth (peerRoutes dart relationships invitations cards) ∧
        NoCrossedKeys dart relationships invitations cards)) ∧
    ∀ p ∈ cards.filterMap (cardRoute dart),
      (answersFor (peerIdentityIndex dart relationships invitations cards) p).1 =
        (answersFor (peerIdentityIndex dart [] [] cards) p).1 :=
  ⟨and_congr sent_back_iff undisturbed_iff,
    fun _ hp => named_stays relationships invitations hp⟩

/-! ### An invitation over the transport of a card -/

def keyText (byte : UInt8) : String := hexText (List.replicate 32 byte)

/-- A card names root 1 with transport 2. -/
def namedCard : CapsuleAddressCard := ⟨keyText 1, keyText 2⟩

/-- An incoming invitation names root 3 with the same transport. -/
def otherRootInvitation : Invitation where
  id := List.replicate 32 4
  fromPubkey := List.replicate 32 2
  fromRootPubkey := some (List.replicate 32 3)
  fromCardSignatureHex := none
  toPubkey := none
  kind := .juice
  starterSlot := none
  status := .pending
  sentAt := ⟨0, by decide⟩
  expiresAt := none
  respondedAt := none
  rejectionReason := none

theorem sharedTransport_routes :
    peerRoutes sampleViews [] [otherRootInvitation] [namedCard] =
      [(keyText 1, keyText 2), (keyText 3, keyText 2)] := by
  decide +kernel

/-- Root 3 is sent to the transport that is read as root 1. -/
theorem sharedTransport_split :
    ¬ (SentBack (peerIdentityIndex sampleViews [] [otherRootInvitation] [namedCard]) ∧
      Undisturbed sampleViews [] [otherRootInvitation] [namedCard]) := by
  rintro ⟨hback, -⟩
  have hfirst := sent_back_iff.mp hback
  rw [sharedTransport_routes] at hfirst
  exact hfirst [(keyText 1, keyText 2)] (keyText 3, keyText 2) [] rfl (by decide +kernel)
    (List.mem_singleton.mpr rfl)

end Hivra
