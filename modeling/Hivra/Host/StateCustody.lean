import Hivra.Host.WorkspaceActions

namespace Hivra

open Replay

/-!
# The state follows the custody

With the grant the state of a workspace goes to the VPS and comes back, but not by one rule: a
return replaces what the local host stores, and a VPS that stores a state keeps it when it
takes another handoff over.  So what the local host did between a return and the next handoff
is not what the VPS continues from.

* `step_moves` — what an operation does to the stores and to the checkpoints.
* `journal_move`, `follows_move` — what such a change keeps.
* `vpsKeepsItsState` — a VPS that goes on from an old state.
-/

/-! ### What an operation does -/

/-- One change of the stores and the checkpoints that are on their way. -/
inductive GrantMove (s : Custody) : Custody → Prop
  | unchanged : GrantMove s s
  /-- A local grant replaces none or a local one. -/
  | keptHere (control : ExecutionControl) (hlocal : control.executor ≠ some .onVps)
      (hstored : ∀ original ∈ s.here.control, original.executor ≠ some .onVps) :
      GrantMove s { s with here := { s.here with control := some control } }
  /-- The grant is assigned to the VPS under a fresh handoff. -/
  | handedOver (control : ExecutionControl) (handoff : String)
      (hvps : control.executor = some .onVps) (hhandoff : control.handoffId = some handoff)
      (hfresh : s.Fresh handoff) :
      GrantMove s { s with here := { s.here with control := some control } }
  /-- An assigned grant changes and keeps its handoff. -/
  | sameHandoff (original control : ExecutionControl) (hstored : s.here.control = some original)
      (horiginal : original.executor = some .onVps) (hvps : control.executor = some .onVps)
      (hhandoff : control.handoffId = original.handoffId) :
      GrantMove s { s with here := { s.here with control := some control } }
  /-- The assigned grant goes out with what the local host stores. -/
  | sent (control : ExecutionControl) (hvps : control.executor = some .onVps)
      (hkept : s.here.control = some control ∨
        ∃ handoff, control.handoffId = some handoff ∧ s.Fresh handoff) :
      GrantMove s { s with
        here := { s.here with control := some control }
        released := s.released ++
          [⟨control.packageDigest, control, s.here.workspace, s.here.effects⟩] }
  /-- The VPS changes a grant of its own. -/
  | keptThere (control : ExecutionControl) (hremote : s.there.Remote)
      (hvps : control.executor = some .onVps) :
      GrantMove s { s with there := { s.there with control := some control } }
  /-- The VPS takes over the handoff that the local host waits for. -/
  | takenOver (checkpoint : WorkspaceCheckpoint) (waiting control : ExecutionControl)
      (hsent : checkpoint ∈ s.released) (hnot : ¬ s.there.Remote)
      (hended : ¬ s.there.EndedWith checkpoint.execution.handoffId)
      (hwaiting : s.here.control = some waiting) (hassigned : waiting.executor = some .onVps)
      (hhandoff : waiting.handoffId = checkpoint.execution.handoffId)
      (hvps : control.executor = some .onVps) :
      GrantMove s { s with there :=
        ⟨some control, s.there.workspace <|> checkpoint.workspace,
          if s.there.workspace.isSome then s.there.effects
            else checkpoint.effects <|> s.there.effects⟩ }
  /-- The VPS ends its grant and sends back what it stores. -/
  | givenBack (original control : ExecutionControl) (hstored : s.there.control = some original)
      (hlocal : control.executor = some .onLocal)
      (hhandoff : control.handoffId = original.handoffId) :
      GrantMove s { s with
        there := { s.there with control := some control }
        returned := s.returned ++
          [⟨control.packageDigest, control, s.there.workspace, s.there.effects⟩] }
  /-- The local host has checked a return, and may come to write it. -/
  | checked (binding : PackageBinding) (checkpoint : WorkspaceCheckpoint)
      (control : ExecutionControl) (hsent : checkpoint ∈ s.returned)
      (hretained : checkpoint.workspace.isSome = true ∨ s.here.workspace = none)
      (hstored : s.here.control = some control) (hvps : control.executor = some .onVps)
      (hsome : control.handoffId.isSome = true)
      (hhandoff : control.handoffId = checkpoint.execution.handoffId) :
      GrantMove s { s with restoring := some (binding, checkpoint) }
  | restored (binding : PackageBinding) (checkpoint : WorkspaceCheckpoint)
      (hrestoring : s.restoring = some (binding, checkpoint)) :
      GrantMove s { s with here := restored binding checkpoint s.here, restoring := none }
  | dropped : GrantMove s { s with restoring := none }

variable {hash : WorkspaceCheckpoint → String} {identity : String} {s : Custody}

/-- An operation on the grant that meets its condition is one such change. -/
theorem step_moves {step : CustodyStep} (hgrant : step.onGrant = true) (hmeets : step.Meets s)
    (hfresh : ∀ handoff ∈ step.draws, s.Fresh handoff) :
    GrantMove s (s.step hash identity step) := by
  unfold Custody.step
  cases step with
  | setHere binding nowMs handoff reviewed args =>
    dsimp only
    split
    · rename_i control hset
      rcases setWorkspaceExecution_here hset with ⟨hvps, hhandoff⟩ | ⟨hlocal, hstored⟩
      · exact .handedOver control handoff hvps hhandoff (hfresh handoff rfl)
      · exact .keptHere control hlocal hstored
    · exact .unchanged
  | setThere binding nowMs handoff reviewed args =>
    dsimp only
    split
    · rename_i control hset
      obtain ⟨hvps, hstored⟩ := setWorkspaceExecution_there hset
      rcases hstored with ⟨hnone, hstart⟩ | ⟨original, hstored, horiginal⟩
      · have hsome := hmeets hstart
        rw [hnone] at hsome
        cases hsome
      · exact .keptThere control (remote_of_some hstored horiginal) hvps
    · exact .unchanged
  | release binding handoff executorId =>
    dsimp only
    split
    · exact .unchanged
    · split
      · rename_i control checkpoint hrelease
        obtain ⟨hvps, rfl, hkept⟩ := releaseWorkspaceToVps_ok hrelease
        apply GrantMove.sent control hvps
        exact hkept.imp_right fun hhandoff => ⟨handoff, hhandoff, hfresh handoff rfl⟩
      · exact .unchanged
  | setReleased binding executorId enabled revoke expectedRevision =>
    dsimp only
    split
    · rename_i control hset
      obtain ⟨original, hstored, horiginal, hvps, hhandoff⟩ := setReleasedWorkspaceEntries_ok hset
      exact .sameHandoff original control hstored horiginal hvps hhandoff
    · exact .unchanged
  | adopt binding nowMs index =>
    dsimp only
    split
    · rename_i checkpoint hindex
      split
      · rename_i store hadopt
        rcases adoptWorkspaceFromLocal_ok hadopt with
          ⟨original, control, hstored, rfl, horiginal, hvps, -⟩ |
            ⟨hnot, hended, control, rfl, hvps, -⟩
        · exact .keptThere control (remote_of_some hstored horiginal) hvps
        · rcases hmeets checkpoint hindex with
            hremote | hsame | ⟨waiting, hwaiting, hassigned, hhandoff⟩
          · exact absurd hremote hnot
          · exact absurd hsame hended
          · exact .takenOver checkpoint waiting control (List.mem_of_getElem? hindex) hnot hended
              hwaiting hassigned hhandoff hvps
      · exact .unchanged
    · exact .unchanged
  | giveBack binding handoffId requireSealed =>
    dsimp only
    split
    · rename_i control checkpoint hreturn
      obtain ⟨rfl, hlocal, original, hstored, hhandoff⟩ := returnWorkspaceToLocal_ok hreturn
      exact .givenBack original control hstored hlocal hhandoff
    · exact .unchanged
  | checkReturn binding executorId index =>
    dsimp only
    split
    · rename_i checkpoint hindex
      split
      · rename_i hchecked
        obtain ⟨-, hretained, control, hstored, hvps, hsome, hhandoff⟩ :=
          returnMatches_iff hchecked.2
        exact .checked binding checkpoint control (List.mem_of_getElem? hindex) hretained hstored
          hvps hsome hhandoff
      · exact .unchanged
    · exact .unchanged
  | restore =>
    dsimp only
    split
    · rename_i binding checkpoint hrestoring
      exact .restored binding checkpoint hrestoring
    · exact .unchanged
  | dropReturn => exact .dropped
  | workHere workspace effects => cases hgrant
  | workThere workspace effects => cases hgrant

/-! ### The journal -/

/-- Every store and checkpoint has the journal, but for a VPS that stores nothing yet. -/
structure JournalKept (journal : Option String) (s : Custody) : Prop where
  here : s.here.effects = journal
  there : s.there = ⟨none, none, none⟩ ∨ s.there.effects = journal
  released : ∀ checkpoint ∈ s.released, checkpoint.effects = journal
  returned : ∀ checkpoint ∈ s.returned, checkpoint.effects = journal
  restoring : ∀ binding checkpoint, s.restoring = some (binding, checkpoint) →
    checkpoint.effects = journal

variable {journal : Option String}

/-- A VPS with a grant has the journal. -/
theorem JournalKept.ofGrant (h : JournalKept journal s) (hgrant : s.there.control.isSome = true) :
    s.there.effects = journal := by
  rcases h.there with hempty | hjournal
  · rw [hempty] at hgrant
    cases hgrant
  · exact hjournal

theorem or_self_option (value : Option String) : (value <|> value) = value := by
  cases value <;> rfl

/-- A change keeps the journal. -/
theorem journal_move {s s' : Custody} (h : JournalKept journal s) (hmove : GrantMove s s') :
    JournalKept journal s' := by
  cases hmove with
  | unchanged => exact h
  | keptHere control | handedOver control | sameHandoff original control =>
    exact ⟨h.here, h.there, h.released, h.returned, h.restoring⟩
  | sent control hvps hkept =>
    refine ⟨h.here, h.there, ?_, h.returned, h.restoring⟩
    intro checkpoint hcheckpoint
    rcases List.mem_append.mp hcheckpoint with hold | hnew
    · exact h.released checkpoint hold
    · rw [List.mem_singleton.mp hnew]
      exact h.here
  | keptThere control hremote hvps =>
    obtain ⟨original, horiginal, -⟩ := hremote
    have hgrant : s.there.control.isSome = true := by
      rw [Option.mem_def.mp horiginal]
      rfl
    exact ⟨h.here, Or.inr (h.ofGrant hgrant), h.released, h.returned, h.restoring⟩
  | takenOver checkpoint waiting control hsent =>
    refine ⟨h.here, Or.inr ?_, h.released, h.returned, h.restoring⟩
    have hchecked := h.released checkpoint hsent
    show (if s.there.workspace.isSome then s.there.effects
      else checkpoint.effects <|> s.there.effects) = journal
    rcases h.there with hempty | hjournal
    · rw [hempty, hchecked]
      cases journal <;> rfl
    · rw [hjournal, hchecked, or_self_option, ite_self]
  | givenBack original control hstored =>
    have hjournal : s.there.effects = journal := h.ofGrant (by rw [hstored]; rfl)
    refine ⟨h.here, Or.inr hjournal, h.released, ?_, h.restoring⟩
    intro checkpoint hcheckpoint
    rcases List.mem_append.mp hcheckpoint with hold | hnew
    · exact h.returned checkpoint hold
    · rw [List.mem_singleton.mp hnew]
      exact hjournal
  | checked binding checkpoint control hsent =>
    refine ⟨h.here, h.there, h.released, h.returned, ?_⟩
    intro other back hback
    obtain ⟨-, rfl⟩ := Prod.mk.inj (Option.some.inj hback)
    exact h.returned _ hsent
  | restored binding checkpoint hrestoring =>
    refine ⟨?_, h.there, h.released, h.returned, ?_⟩
    · show (checkpoint.effects <|> s.here.effects) = journal
      rw [h.restoring binding checkpoint hrestoring, h.here, or_self_option]
    · intro other back hback
      cases hback
  | dropped =>
    refine ⟨h.here, h.there, h.released, h.returned, ?_⟩
    intro other back hback
    cases hback

/-! ### The state -/

/-- The VPS has the state the workspace continues from, and has one where the local host has. -/
def HeldThere (s : Custody) (kept : Continued) : Prop :=
  s.there.workspace = kept.last ∧ (s.there.workspace = none → s.here.workspace = none)

/-- Where the state is that a workspace continues from. -/
structure Follows (s : Custody) (kept : Continued) : Prop where
  onVps : s.there.workspace = kept.onVps
  here : ¬ s.here.Remote → s.here.workspace = kept.last
  transit : s.here.Remote → s.here.workspace = kept.last ∨ HeldThere s kept
  there : s.there.Remote → HeldThere s kept
  ended : ∀ control ∈ s.here.control, control.executor = some .onVps →
    control.handoffId.isSome = true → s.there.EndedWith control.handoffId → HeldThere s kept
  released : ∀ checkpoint ∈ s.released, ∀ control ∈ s.here.control,
    control.executor = some .onVps → control.handoffId = checkpoint.execution.handoffId →
    checkpoint.workspace = s.here.workspace
  returned : ∀ checkpoint ∈ s.returned, ∀ control ∈ s.here.control,
    control.executor = some .onVps → control.handoffId.isSome = true →
    control.handoffId = checkpoint.execution.handoffId → checkpoint.workspace = kept.last
  restoring : ∀ binding checkpoint, s.restoring = some (binding, checkpoint) →
    checkpoint.workspace = kept.last ∧
      (checkpoint.workspace.isSome = true ∨ s.here.workspace = none)

variable {kept : Continued}

/-- The state is at hand or on the VPS while the grant is assigned. -/
theorem Follows.anywhere (h : Follows s kept) :
    s.here.workspace = kept.last ∨ HeldThere s kept := by
  by_cases hremote : s.here.Remote
  · exact h.transit hremote
  · exact Or.inl (h.here hremote)

variable {control : ExecutionControl}

/-- The local host assigns the grant under a fresh handoff. -/
private theorem Follows.handedOver (h : Follows s kept) {handoff : String}
    (hvps : control.executor = some .onVps) (hhandoff : control.handoffId = some handoff)
    (hfresh : s.Fresh handoff) :
    Follows { s with here := { s.here with control := some control } } kept where
  onVps := h.onVps
  here := fun hnot => absurd (remote_some.mpr hvps) hnot
  transit := fun _ => h.anywhere
  there := h.there
  ended := by
    rintro other hother _ _ ⟨ended, hended, -, heq⟩
    rw [← Option.some.inj hother, hhandoff] at heq
    exact absurd heq (hfresh.2 ended hended)
  released := by
    intro checkpoint hcheckpoint other hother _ heq
    rw [← Option.some.inj hother, hhandoff] at heq
    exact absurd heq.symm (hfresh.1.1 checkpoint hcheckpoint)
  returned := by
    intro checkpoint hcheckpoint other hother _ _ heq
    rw [← Option.some.inj hother, hhandoff] at heq
    exact absurd heq.symm (hfresh.1.2 checkpoint hcheckpoint)
  restoring := h.restoring

/-- The assigned grant changes and keeps its handoff. -/
private theorem Follows.sameHandoff (h : Follows s kept) {original control : ExecutionControl}
    (hstored : s.here.control = some original) (horiginal : original.executor = some .onVps)
    (hvps : control.executor = some .onVps) (hhandoff : control.handoffId = original.handoffId) :
    Follows { s with here := { s.here with control := some control } } kept where
  onVps := h.onVps
  here := fun hnot => absurd (remote_some.mpr hvps) hnot
  transit := fun _ => h.anywhere
  there := h.there
  ended := by
    intro other hother _ hsome hended
    rw [← Option.some.inj hother, hhandoff] at hsome hended
    exact h.ended original hstored horiginal hsome hended
  released := by
    intro checkpoint hcheckpoint other hother _ heq
    rw [← Option.some.inj hother, hhandoff] at heq
    exact h.released checkpoint hcheckpoint original hstored horiginal heq
  returned := by
    intro checkpoint hcheckpoint other hother _ hsome heq
    rw [← Option.some.inj hother, hhandoff] at hsome heq
    exact h.returned checkpoint hcheckpoint original hstored horiginal hsome heq
  restoring := h.restoring

/-- A grant that is not assigned has nothing on its way. -/
private theorem Follows.keptHere (h : Follows s kept) (hlocal : control.executor ≠ some .onVps)
    (hnot : ¬ s.here.Remote) :
    Follows { s with here := { s.here with control := some control } } kept where
  onVps := h.onVps
  here := fun _ => h.here hnot
  transit := fun hremote => absurd (remote_some.mp hremote) hlocal
  there := h.there
  ended := by
    intro other hother hvps
    rw [← Option.some.inj hother] at hvps
    exact absurd hvps hlocal
  released := by
    intro checkpoint _ other hother hvps
    rw [← Option.some.inj hother] at hvps
    exact absurd hvps hlocal
  returned := by
    intro checkpoint _ other hother hvps
    rw [← Option.some.inj hother] at hvps
    exact absurd hvps hlocal
  restoring := h.restoring

/-- What a change makes of the state the workspace continues from. -/
def afterMove (s s' : Custody) (kept : Continued) : Continued :=
  if ¬ s.there.Remote ∧ s'.there.Remote then kept.step .takenOver else kept

/-- **Step lemma.** A change keeps track of the state. -/
theorem follows_move {s s' : Custody} (hcustody : InCustody s) (h : Follows s kept)
    (hmove : GrantMove s s') : Follows s' (afterMove s s' kept) := by
  have hsame : s'.there = s.there → afterMove s s' kept = kept := by
    intro heq
    unfold afterMove
    rw [heq, if_neg fun hboth => hboth.1 hboth.2]
  cases hmove with
  | unchanged =>
    rw [hsame rfl]
    exact h
  | keptHere control hlocal hstored =>
    rw [hsame rfl]
    apply h.keptHere hlocal
    rintro ⟨original, horiginal, hvps⟩
    exact hstored original horiginal hvps
  | handedOver control handoff hvps hhandoff hfresh =>
    rw [hsame rfl]
    exact h.handedOver hvps hhandoff hfresh
  | sameHandoff original control hstored horiginal hvps hhandoff =>
    rw [hsame rfl]
    exact h.sameHandoff hstored horiginal hvps hhandoff
  | sent control hvps hkept =>
    rw [hsame rfl]
    have hhere : Follows { s with here := { s.here with control := some control } } kept := by
      rcases hkept with hstored | ⟨handoff, hhandoff, hfresh⟩
      · exact h.sameHandoff hstored hvps hvps rfl
      · exact h.handedOver hvps hhandoff hfresh
    refine ⟨hhere.onVps, hhere.here, hhere.transit, hhere.there, hhere.ended, ?_, hhere.returned,
      hhere.restoring⟩
    intro checkpoint hcheckpoint other hother hassigned heq
    rcases List.mem_append.mp hcheckpoint with hold | hnew
    · exact hhere.released checkpoint hold other hother hassigned heq
    · rw [List.mem_singleton.mp hnew]
  | keptThere control hremote hvps =>
    have hkept : afterMove s { s with there := { s.there with control := some control } } kept
        = kept := by
      unfold afterMove
      rw [if_neg fun hboth => hboth.1 hremote]
    rw [hkept]
    refine ⟨h.onVps, h.here, h.transit, fun _ => h.there hremote, ?_, h.released, h.returned,
      h.restoring⟩
    intro _ _ _ _ _
    exact h.there hremote
  | takenOver checkpoint waiting control hsent hnot hended hwaiting hassigned hhandoff hvps =>
    have hremote : s.here.Remote := remote_of_some hwaiting hassigned
    have hstate := h.released checkpoint hsent waiting hwaiting hassigned hhandoff
    have htaken : (s.there.workspace <|> checkpoint.workspace) = (kept.onVps <|> kept.last) := by
      rw [hstate, ← h.onVps]
      cases hthere : s.there.workspace with
      | some state => rfl
      | none =>
        show s.here.workspace = kept.last
        -- a VPS without a state has the last one only where there is none
        rcases h.transit hremote with hlast | ⟨hlast, hnone⟩
        · exact hlast
        · rw [hnone hthere, ← hlast, hthere]
    have hboth : afterMove s { s with there :=
        ⟨some control, s.there.workspace <|> checkpoint.workspace,
          if s.there.workspace.isSome then s.there.effects
            else checkpoint.effects <|> s.there.effects⟩ } kept = kept.step .takenOver := by
      unfold afterMove
      rw [if_pos ⟨hnot, remote_some.mpr hvps⟩]
    rw [hboth]
    have hheld : HeldThere { s with there :=
        ⟨some control, s.there.workspace <|> checkpoint.workspace,
          if s.there.workspace.isSome then s.there.effects
            else checkpoint.effects <|> s.there.effects⟩ } (kept.step .takenOver) := by
      refine ⟨htaken, ?_⟩
      intro hnone
      rw [hstate] at hnone
      show s.here.workspace = none
      cases hthere : s.there.workspace with
      | some state =>
        rw [show s.there.workspace = some state from hthere] at hnone
        cases hnone
      | none =>
        rw [hthere] at hnone
        exact hnone
    refine ⟨htaken, fun hlocal => absurd hremote hlocal, fun _ => Or.inr hheld, fun _ => hheld,
      fun _ _ _ _ _ => hheld, h.released, ?_, ?_⟩
    · intro other hother control' hcontrol' hvps' hsome heq
      have hold := hcustody.returned other hother control' hcontrol' hvps' hsome heq
      rw [Option.mem_def, hwaiting, Option.some.injEq] at hcontrol'
      rw [← hcontrol', hhandoff] at hold
      exact absurd hold hended
    · intro binding other hrestoring
      obtain ⟨-, -, hold, hothers⟩ := hcustody.restoring binding other hrestoring
      rcases hothers waiting hwaiting with heq | hnone
      · rw [← heq, hhandoff] at hold
        exact absurd hold hended
      · exact absurd hhandoff.symm (hnone checkpoint hsent)
  | givenBack original control hstored hlocal hhandoff =>
    have hnot : control.executor ≠ some .onVps := by
      rw [hlocal]
      simp
    have hkept : afterMove s { s with
        there := { s.there with control := some control }
        returned := s.returned ++
          [⟨control.packageDigest, control, s.there.workspace, s.there.effects⟩] } kept
        = kept := by
      unfold afterMove
      rw [if_neg fun hboth => hnot (remote_some.mp hboth.2)]
    rw [hkept]
    -- the VPS has the state where the local host waits for this handoff
    have hheld : ∀ other ∈ s.here.control, other.executor = some .onVps →
        other.handoffId.isSome = true → other.handoffId = control.handoffId →
        HeldThere s kept := by
      intro other hother hvps hsome heq
      by_cases hremote : original.executor = some .onVps
      · exact h.there (remote_of_some hstored hremote)
      · apply h.ended other hother hvps hsome
        exact ⟨original, hstored, hremote, by rw [heq, hhandoff]⟩
    refine ⟨h.onVps, h.here, h.transit, fun hremote => absurd (remote_some.mp hremote) hnot, ?_,
      h.released, ?_, h.restoring⟩
    · rintro other hother hvps hsome ⟨ended, hended, -, heq⟩
      rw [← Option.some.inj hended] at heq
      exact hheld other hother hvps hsome heq.symm
    · intro checkpoint hcheckpoint other hother hvps hsome heq
      rcases List.mem_append.mp hcheckpoint with hold | hnew
      · exact h.returned checkpoint hold other hother hvps hsome heq
      · rw [List.mem_singleton.mp hnew] at heq ⊢
        exact (hheld other hother hvps hsome heq).1
  | checked binding checkpoint control hsent hretained hstored hvps hsome hhandoff =>
    rw [hsame rfl]
    refine ⟨h.onVps, h.here, h.transit, h.there, h.ended, h.released, h.returned, ?_⟩
    intro other back hback
    obtain ⟨-, rfl⟩ := Prod.mk.inj (Option.some.inj hback)
    exact ⟨h.returned _ hsent control hstored hvps hsome hhandoff, hretained⟩
  | restored binding checkpoint hrestoring =>
    rw [hsame rfl]
    obtain ⟨hlocal, -, hended, -⟩ := hcustody.restoring binding checkpoint hrestoring
    obtain ⟨hlast, hretained⟩ := h.restoring binding checkpoint hrestoring
    have hnot : ∀ control ∈ (restored binding checkpoint s.here).control,
        control.executor ≠ some .onVps := by
      intro control hcontrol hvps
      rw [← Option.some.inj hcontrol] at hvps
      rw [show checkpoint.execution.executor = some .onVps from hvps] at hlocal
      cases hlocal
    refine ⟨h.onVps, ?_, ?_, ?_, ?_, ?_, ?_, ?_⟩
    · intro _
      show (checkpoint.workspace <|> s.here.workspace) = kept.last
      rw [← hlast]
      rcases hretained with hsome | hnone
      · obtain ⟨state, hstate⟩ := Option.isSome_iff_exists.mp hsome
        rw [hstate]
        rfl
      · rw [hnone]
        cases checkpoint.workspace <;> rfl
    · rintro ⟨control, hcontrol, hvps⟩
      exact absurd hvps (hnot control hcontrol)
    · intro hremote
      exact absurd hended (not_endedWith_of_remote hremote _)
    · intro control hcontrol hvps
      exact absurd hvps (hnot control hcontrol)
    · intro _ _ control hcontrol hvps
      exact absurd hvps (hnot control hcontrol)
    · intro _ _ control hcontrol hvps
      exact absurd hvps (hnot control hcontrol)
    · intro other back hback
      cases hback
  | dropped =>
    rw [hsame rfl]
    refine ⟨h.onVps, h.here, h.transit, h.there, h.ended, h.released, h.returned, ?_⟩
    intro other back hback
    cases hback

/-! ### What an action does -/

/-- An action leaves a state where it found one. -/
theorem saved_some (outputs : List (Option String)) (workspace : Option String)
    (h : outputs.foldl (fun saved output => output <|> saved) workspace = none) :
    workspace = none := by
  induction outputs generalizing workspace with
  | nil => exact h
  | cons output outputs ih =>
    have hnext : (output <|> workspace) = none := ih _ h
    cases output with
    | none => exact hnext
    | some state => cases hnext

variable {outputs : List (Option String)} {store store' : WorkspaceStore} {binding : PackageBinding}
  {handed : Option String} {persistent : Bool}

/-- What an action that is run hands out, and what it leaves. -/
theorem runWorkspaceAction_ok {host : ExecutionHost}
    (h : runWorkspaceAction host binding persistent outputs store = some (handed, store')) :
    handed = handedState persistent store.workspace ∧ store'.effects = store.effects ∧
      (store'.workspace = none → store.workspace = none) ∧
      ∀ control ∈ store.control, control.executor.getD .onLocal = host.place := by
  unfold runWorkspaceAction at h
  split at h
  · cases h
  · split at h
    · cases h
    · rename_i read hread
      rw [Option.some.injEq, Prod.mk.injEq] at h
      obtain ⟨rfl, rfl⟩ := h
      refine ⟨rfl, rfl, ?_, ?_⟩
      · intro hnone
        dsimp only at hnone
        split at hnone
        · exact saved_some outputs store.workspace hnone
        · exact hnone
      · intro control hcontrol
        rw [Option.mem_def] at hcontrol
        rw [hcontrol] at hread
        exact (readExecution_cases hread).1 rfl

/-- The local host acts on the state that the workspace continues from. -/
theorem follows_workHere (hcustody : InCustody s) (h : Follows s kept) (hnot : ¬ s.here.Remote)
    (workspace effects : Option String) :
    Follows { s with here := { s.here with workspace := workspace, effects := effects } }
      (kept.step (.acted .onLocal workspace)) := by
  have hlocal : ∀ control ∈ s.here.control, control.executor ≠ some .onVps := by
    intro control hcontrol hvps
    exact hnot ⟨control, hcontrol, hvps⟩
  refine ⟨h.onVps, fun _ => rfl, fun hremote => absurd hremote hnot, ?_, ?_, ?_, ?_, ?_⟩
  · intro hremote
    exact absurd (hcustody.remote hremote) hnot
  · intro control hcontrol hvps
    exact absurd hvps (hlocal control hcontrol)
  · intro _ _ control hcontrol hvps
    exact absurd hvps (hlocal control hcontrol)
  · intro _ _ control hcontrol hvps
    exact absurd hvps (hlocal control hcontrol)
  · intro binding checkpoint hrestoring
    exact absurd (hcustody.restoring binding checkpoint hrestoring).2.1 hnot

/-- So does the VPS, and what it leaves is then what the workspace continues from. -/
theorem follows_workThere (hcustody : InCustody s) (h : Follows s kept) (hremote : s.there.Remote)
    {workspace : Option String} (effects : Option String)
    (hsome : workspace = none → s.there.workspace = none) :
    Follows { s with there := { s.there with workspace := workspace, effects := effects } }
      (kept.step (.acted .onVps workspace)) := by
  have hheld : HeldThere
      { s with there := { s.there with workspace := workspace, effects := effects } }
      (kept.step (.acted .onVps workspace)) :=
    ⟨rfl, fun hnone => (h.there hremote).2 (hsome hnone)⟩
  refine ⟨rfl, fun hnot => absurd (hcustody.remote hremote) hnot, fun _ => Or.inr hheld,
    fun _ => hheld, fun _ _ _ _ _ => hheld, h.released, ?_, ?_⟩
  · -- no return has ended a grant that the VPS still holds
    intro checkpoint hcheckpoint control hcontrol hvps hhandoff heq
    exact absurd (hcustody.returned checkpoint hcheckpoint control hcontrol hvps hhandoff heq)
      (not_endedWith_of_remote hremote _)
  · intro binding checkpoint hrestoring
    exact absurd (hcustody.restoring binding checkpoint hrestoring).2.2.1
      (not_endedWith_of_remote hremote _)

/-! ### Runs -/

/-- What holds of the hosts in a run. -/
structure HostsFollow (workspace journal : Option String) (s : Hosts) : Prop where
  custody : InCustody s.custody
  journal : JournalKept journal s.custody
  state : Follows s.custody (continued workspace s.history)

variable {workspace : Option String}

theorem continued_snoc (history : List WorkspaceEvent) (event : WorkspaceEvent) :
    continued workspace (history ++ [event]) = (continued workspace history).step event :=
  replay_snoc _ _ _ _

theorem hostsFollow_start : HostsFollow workspace journal (Hosts.start workspace journal) := by
  have hhere : ¬ (Hosts.start workspace journal).custody.here.Remote := by
    rintro ⟨control, hcontrol, -⟩
    cases hcontrol
  have hthere : ¬ (Hosts.start workspace journal).custody.there.Remote := by
    rintro ⟨control, hcontrol, -⟩
    cases hcontrol
  refine ⟨⟨fun hremote => absurd hremote hthere, ?_, ?_⟩, ⟨rfl, Or.inl rfl, ?_, ?_, ?_⟩,
    ⟨rfl, fun _ => rfl, fun hremote => absurd hremote hhere, fun hremote => absurd hremote hthere,
      ?_, ?_, ?_, ?_⟩⟩
  all_goals first
    | (intro checkpoint hcheckpoint; cases hcheckpoint; done)
    | (intro binding checkpoint hrestoring; cases hrestoring)

/-- An action on an assigned grant is not run on the local host. -/
theorem onVps_of_remote {place : Executor}
    (h : runWorkspaceAction (hostAt identity place) binding persistent outputs store
      = some (handed, store')) (hremote : store.Remote) : place = .onVps := by
  obtain ⟨-, -, -, hplace⟩ := runWorkspaceAction_ok h
  obtain ⟨control, hcontrol, hvps⟩ := hremote
  have hat := hplace control hcontrol
  rw [hvps] at hat
  cases place with
  | onLocal => cases hat
  | onVps => rfl

/-- With a grant the VPS runs an action only where the grant is assigned to it. -/
theorem remote_of_onVps (h : runWorkspaceAction (vpsHost identity) binding persistent outputs store
      = some (handed, store')) (hgrant : store.control.isSome = true) : store.Remote := by
  obtain ⟨-, -, -, hplace⟩ := runWorkspaceAction_ok h
  obtain ⟨control, hcontrol⟩ := Option.isSome_iff_exists.mp hgrant
  have hat := hplace control hcontrol
  refine ⟨control, hcontrol, ?_⟩
  cases hexecutor : control.executor with
  | none =>
    rw [hexecutor] at hat
    cases hat
  | some other =>
    rw [hexecutor] at hat
    rw [show other = .onVps from hat]

theorem work_meets (s : Custody) (store : WorkspaceStore) (place : Executor) :
    (CustodyStep.work store place).Meets s := by
  cases place <;> trivial

/-- **Step lemma.** One step keeps what holds of the hosts. -/
theorem hostsFollow_step {s : Hosts} {step : WorkspaceStep} (h : HostsFollow workspace journal s)
    (hmeets : step.Meets hash identity s) :
    HostsFollow workspace journal (s.step hash identity step) := by
  cases step with
  | custody step =>
    rcases hmeets with hrefused | ⟨hmeets, hfresh⟩
    · have hsame : s.step hash identity (.custody step) = s := by
        unfold Hosts.step
        dsimp only
        rw [hrefused, if_neg fun hboth => hboth.1 hboth.2]
      rw [hsame]
      exact h
    · have hmove : GrantMove s.custody (s.custody.step hash identity step.1) :=
        step_moves step.2 hmeets hfresh
      refine ⟨inCustody_step h.custody hmeets, journal_move h.journal hmove, ?_⟩
      have hstate := follows_move h.custody h.state hmove
      have hkept : continued workspace (s.step hash identity (.custody step)).history
          = afterMove s.custody (s.custody.step hash identity step.1)
            (continued workspace s.history) := by
        unfold Hosts.step afterMove
        dsimp only
        split
        · exact continued_snoc _ _
        · rfl
      rw [hkept]
      exact hstate
  | act place binding persistent outputs =>
    unfold Hosts.step
    dsimp only
    split
    · rename_i handed store hrun
      obtain ⟨-, heffects, hsome, -⟩ := runWorkspaceAction_ok hrun
      have hcustody : InCustody (s.custody.step hash identity (.work store place)) :=
        inCustody_step h.custody (work_meets s.custody store place)
      cases place with
      | onLocal =>
        have hnot : ¬ s.custody.here.Remote := by
          intro hremote
          cases onVps_of_remote hrun hremote
        refine ⟨hcustody, ?_, ?_⟩
        · refine ⟨?_, h.journal.there, h.journal.released, h.journal.returned,
            h.journal.restoring⟩
          exact heffects.trans h.journal.here
        · rw [continued_snoc]
          exact follows_workHere h.custody h.state hnot _ _
      | onVps =>
        have hremote : s.custody.there.Remote := remote_of_onVps hrun hmeets
        refine ⟨hcustody, ?_, ?_⟩
        · refine ⟨h.journal.here, Or.inr ?_, h.journal.released, h.journal.returned,
            h.journal.restoring⟩
          exact heffects.trans (h.journal.ofGrant hmeets)
        · rw [continued_snoc]
          exact follows_workThere h.custody h.state hremote _ hsome
    · exact h

/-- **The state follows the custody.** In a run whose steps meet their condition, an action is
    handed the state the workspace continues from, which is the one that the last action left
    where no takeover found another state on the VPS; and it keeps the journal. -/
theorem stateFollowsCustody (hash : WorkspaceCheckpoint → String) (identity : String)
    (workspace journal : Option String) {steps : List WorkspaceStep} {place : Executor}
    {binding : PackageBinding} {persistent : Bool} {outputs : List (Option String)}
    (hsteps : Along (Hosts.step hash identity) (WorkspaceStep.Meets hash identity)
      (Hosts.start workspace journal) (steps ++ [.act place binding persistent outputs]))
    {handed : Option String} {store : WorkspaceStore}
    (hrun : runWorkspaceAction (hostAt identity place) binding persistent outputs
      ((hostsRun hash identity (Hosts.start workspace journal) steps).custody.storeAt place)
        = some (handed, store)) :
    let s := hostsRun hash identity (Hosts.start workspace journal) steps
    handed = handedState persistent (continued workspace s.history).last ∧
      (Along Continued.step Continued.Agrees ⟨workspace, none⟩ s.history →
        handed = handedState persistent (lastLeft workspace s.history)) ∧
      (s.custody.storeAt place).effects = journal ∧ store.effects = journal := by
  intro s
  rw [along_append] at hsteps
  have hfollow : HostsFollow workspace journal s :=
    along_invariant hsteps.1 hostsFollow_start fun s step h hmeets => hostsFollow_step h hmeets
  obtain ⟨hhanded, heffects, -, -⟩ := runWorkspaceAction_ok hrun
  have hhere : (s.custody.storeAt place).workspace = (continued workspace s.history).last ∧
      (s.custody.storeAt place).effects = journal := by
    cases place with
    | onLocal =>
      refine ⟨hfollow.state.here ?_, hfollow.journal.here⟩
      intro hremote
      cases onVps_of_remote hrun hremote
    | onVps =>
      have hgrant : s.custody.there.control.isSome = true := hsteps.2.1
      have hremote : s.custody.there.Remote := remote_of_onVps hrun hgrant
      exact ⟨(hfollow.state.there hremote).1, hfollow.journal.ofGrant hgrant⟩
  have hlast : handed = handedState persistent (continued workspace s.history).last := by
    rw [hhanded, ← hhere.1]
  refine ⟨hlast, ?_, hhere.2, heffects.trans hhere.2⟩
  intro hagrees
  rw [hlast, continued_last hagrees]

/-! ### A VPS that goes on from an old state -/

section OldState

/-- The operation of a host, in such a run. -/
def onGrant (step : CustodyStep) (h : step.onGrant = true) : WorkspaceStep := .custody ⟨step, h⟩

/-- A handoff there and back with an action on the VPS, an action on the local host, and a
    second handoff. -/
def workedSteps : List WorkspaceStep := [
  onGrant (.setHere sampleBinding 0 (digits '0') none (startArgs none)) rfl,
  onGrant (.release sampleBinding (digits '1') (digits 'e')) rfl,
  onGrant (.adopt sampleBinding 0 0) rfl,
  .act .onVps sampleBinding true [some "remote"],
  onGrant (.giveBack sampleBinding none false) rfl,
  onGrant (.checkReturn sampleBinding (digits 'e') 0) rfl,
  onGrant .restore rfl,
  .act .onLocal sampleBinding true [some "local"],
  onGrant (.setHere sampleBinding 0 (digits '0') (grantAfter handoffSteps)
    (startArgs (some 3))) rfl,
  onGrant (.release sampleBinding (digits '2') (digits 'e')) rfl,
  onGrant (.adopt sampleBinding 0 1) rfl]

/-- The hosts after them. -/
def workedHosts : Hosts :=
  hostsRun sampleHash (digits 'e') (Hosts.start (some "first") none) workedSteps

/-- The steps meet their condition, what the local host left is the last, and the VPS is handed
    what it had left before. -/
theorem workedHosts_acts :
    (Along (Hosts.step sampleHash (digits 'e'))
      (WorkspaceStep.Meets sampleHash (digits 'e')) (Hosts.start (some "first") none)
      (workedSteps ++ [.act .onVps sampleBinding true []]) ∧
    lastLeft (some "first") workedHosts.history = some "local") ∧
    runWorkspaceAction (hostAt (digits 'e') .onVps) sampleBinding true []
      (workedHosts.custody.storeAt .onVps) = some (some "remote", workedHosts.custody.there) := by
  decide +kernel

/-- So it continues from its own state. -/
theorem stateFollowsCustody_kept :
    some "remote" = handedState true (continued (some "first") workedHosts.history).last ∧
      workedHosts.custody.there.effects = none := by
  obtain ⟨⟨hmeets, -⟩, hrun⟩ := workedHosts_acts
  have h := stateFollowsCustody sampleHash (digits 'e') (some "first") none hmeets hrun
  exact ⟨h.1, h.2.2.2⟩

/-- It does not continue from what the local host did between the return and the handoff. -/
theorem vpsKeepsItsState :
    ¬ (∀ (hash : WorkspaceCheckpoint → String) (identity : String)
      (workspace journal : Option String) (steps : List WorkspaceStep) (place : Executor)
      (binding : PackageBinding) (outputs : List (Option String)) (handed : Option String)
      (store : WorkspaceStore),
      runWorkspaceAction (hostAt identity place) binding true outputs
        ((hostsRun hash identity (Hosts.start workspace journal) steps).custody.storeAt place)
          = some (handed, store) →
        handed = lastLeft workspace
          (hostsRun hash identity (Hosts.start workspace journal) steps).history) := by
  intro h
  obtain ⟨⟨-, hleft⟩, hrun⟩ := workedHosts_acts
  have hhanded : some "remote" = lastLeft (some "first") workedHosts.history :=
    h sampleHash (digits 'e') (some "first") none workedSteps .onVps sampleBinding [] _ _ hrun
  rw [hleft] at hhanded
  exact absurd (Option.some.inj hhanded) (by decide)

end OldState

end Hivra
