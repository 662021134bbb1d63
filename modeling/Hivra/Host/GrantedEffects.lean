import Hivra.Host.CapabilityDispatcher
import Hivra.Host.WorkspaceRun

namespace Hivra

open JsonText PluginCapabilityDispatcher Processes Replay

namespace PluginWorkspaceRuntime

/-!
# No effect outside the grant

The history of a run is what it has done and been answered, the latest first.  Nothing is known
of the answers: the stored grant, the open capsule, the clock and the package may be others at
each look, and the package may ask for anything.

* `invoke_spec`, `continueRun_spec` — a call of the package, and the loop.
-/

/-- What a run has done, and what it was answered. -/
structure Entry where
  action : WorkspaceAction
  answer : Answer action

abbrev History := List Entry

def WorkspaceAction.isEffect : WorkspaceAction → Bool
  | .send .. => true
  | .dispatchInference _ => true
  | _ => false

def WorkspaceAction.isPackage : WorkspaceAction → Bool
  | .executePackage _ => true
  | _ => false

/-- An answer to every action a run may take. -/
abbrev Answers := (action : WorkspaceAction) → Answer action

/-- An action is answered, and both go into the history. -/
def record : Effect History Answers Unit Answer := fun _ action answers past =>
  (answers action, ⟨action, answers action⟩ :: past)

/-- The history of a run, after as many actions as were answered. -/
def history (invocation : Invocation) (action : Text) (settings : Members)
    (answers : List (Processes.Event Answers Unit)) : History :=
  (replay (step record) ⟨[], fun _ => (runWorkspaceOwned invocation action settings).run⟩
    answers).world

/-! ### What is claimed of a history -/

variable (invocation : Invocation)

/-- The first grant that was read in a history, and its revision. -/
def BeganWith (revision : Option ℤ) (past : History) : Prop :=
  ∃ later before raw first binding control,
    past = later ++ ⟨.readPluginState executionFile, some (some raw)⟩ ::
      ⟨.resolveRuntimeBinding, some binding⟩ ::
        ⟨.readPluginState executionFile, some (some first)⟩ :: before ∧
    (∀ entry ∈ before, entry.action ≠ .readPluginState executionFile) ∧
    decodeControl invocation raw = some control ∧ revisionOf control = revision

/-- The last that a run has done is to read the grant, right after the package, and to look at
    the clock: by then this grant allows the request. -/
def CheckedFor (revision : Option ℤ) (request control : Members) (past : History) : Prop :=
  ∃ rest raw first binding observed,
    past = ⟨.observe, some observed⟩ ::
      ⟨.readPluginState executionFile, some (some raw)⟩ ::
        ⟨.resolveRuntimeBinding, some binding⟩ ::
          ⟨.readPluginState executionFile, some (some first)⟩ :: rest ∧
    decodeControl invocation raw = some control ∧
    isStillOwned invocation observed = true ∧
    Granted invocation.host invocation.owner invocation.record binding revision observed.nowMs
      request control

/-- The address has an origin of the grant, under HTTPS, for the method and the connection of the
    request. -/
structure SentAsGranted (request control : Members) (method : Text) (uri : Uri) : Prop where
  method : get request "method" = .str method
  secure : uri.scheme = text "https"
  named : uri.host.isEmpty = false
  anonymous : uri.userInfo.isEmpty = true
  whole : uri.hasFragment = false
  granted : ∃ network rule, get (accessOf control) "network" = .arr network ∧ rule ∈ network ∧
    covers request uri rule = true

def isNotDispatched (result : Members) : Bool :=
  sameValue (get result "outcome") (.str (text "not_dispatched"))

/-- No effect since the package was called last. -/
def Calm (past : History) : Prop :=
  ∀ entry ∈ past.takeWhile fun entry => !entry.action.isPackage, entry.action.isEffect = false

/-- What is claimed of an entry after a history: an effect is granted, and the package is told of
    one that was not dispatched only if none was. -/
def Permitted (entry : Entry) (past : History) : Prop :=
  match entry.action with
  | .send request method uri _ _ => ∃ revision control, BeganWith invocation revision past ∧
      CheckedFor invocation revision request control past ∧
      SentAsGranted request control method uri
  | .dispatchInference request => ∃ revision control, BeganWith invocation revision past ∧
      CheckedFor invocation revision request control past
  | .executePackage request => request.result.any isNotDispatched = true → Calm past
  | _ => True

/-- Every entry of a history is permitted after what came before it. -/
def AllPermitted (now : History) : Prop :=
  ∀ entry past, (entry :: past) <:+ now → Permitted invocation entry past

theorem allPermitted_nil : AllPermitted invocation [] := by
  intro entry past h
  exact absurd (List.suffix_nil.mp h) (List.cons_ne_nil _ _)

variable {invocation} in
theorem AllPermitted.cons {entry : Entry} {past : History} (h : AllPermitted invocation past)
    (hentry : Permitted invocation entry past) : AllPermitted invocation (entry :: past) := by
  intro other before hbefore
  rcases List.suffix_cons_iff.mp hbefore with heq | hbefore
  · obtain ⟨rfl, rfl⟩ := List.cons.inj heq
    exact hentry
  · exact h other before hbefore

/-! ### Reasoning about a run -/

/-- There is one run, nothing else writes its history, and any answer may come. -/
def protocol : Protocol History Answers Unit WorkspaceAction where
  inv := AllPermitted invocation
  rely _ past past' := past = past'
  fits _ _ _ _ := True
  refl _ _ := rfl
  trans _ _ _ _ h h' := h.trans h'

variable {invocation} {Result Next : Type}

/-- What is stated holds of the history that a part of a run leaves. -/
def Leaves (invocation : Invocation) (part : Caught Result) (past : History)
    (post : Result → History → Prop) : Prop :=
  Holds (protocol invocation) record () post part past

namespace Leaves

variable {past : History} {post : Result → History → Prop}

theorem done {result : Result} (h : post result past) :
    Leaves invocation (.done result) past post := by
  rintro w rfl -
  exact h

theorem act {action : WorkspaceAction} {next : Answer action → Caught Result}
    (h : ∀ answer, Permitted invocation ⟨action, answer⟩ past ∧
      Leaves invocation (next answer) (⟨action, answer⟩ :: past) post) :
    Leaves invocation (.act action next) past post := by
  rintro w rfl hinv answers -
  exact ⟨hinv.cons (h _).1, fun j hj => absurd rfl hj, (h _).2⟩

theorem bind {part : Caught Next} {next : Next → Caught Result}
    (h : Leaves invocation part past fun result now => Leaves invocation (next result) now post) :
    Leaves invocation (part >>= next) past post := Holds.bind h

variable {post' : Result → History → Prop}

theorem mono {part : Caught Result} (h : Leaves invocation part past post)
    (hpost : ∀ result now, post result now → post' result now) :
    Leaves invocation part past post' := Holds.mono h fun result now _ => hpost result now

/-- A part that may throw, and what follows it if it does not. -/
theorem bindRun {post : Option Result → History → Prop} {part : Run Next} {next : Next → Run Result}
    (h : Leaves invocation part.run past fun result now => match result with
      | some value => Leaves invocation (next value).run now post
      | none => post none now) :
    Leaves invocation (part >>= next).run past post := by
  rw [OptionT.run_bind]
  refine bind (h.mono fun result now hnext => ?_)
  cases result with
  | none => exact done hnext
  | some value => exact hnext

theorem both {part : Caught Result} (h : Leaves invocation part past post)
    (h' : Leaves invocation part past post') :
    Leaves invocation part past fun result now => post result now ∧ post' result now :=
  Holds.and h h'

end Leaves

/-! ### Quiet parts -/

def WorkspaceAction.isQuiet (action : WorkspaceAction) : Bool :=
  !action.isEffect && !action.isPackage

/-- What was added to a history is allowed. -/
def Since (allowed : WorkspaceAction → Bool) (past now : History) : Prop :=
  ∃ added, now = added ++ past ∧ ∀ entry ∈ added, allowed entry.action = true

namespace Since

variable {allowed : WorkspaceAction → Bool} {past now later : History}

theorem refl : Since allowed past past := ⟨[], rfl, fun _ h => (nomatch h)⟩

theorem trans (h : Since allowed past now) (h' : Since allowed now later) :
    Since allowed past later := by
  obtain ⟨added, rfl, hadded⟩ := h
  obtain ⟨more, rfl, hmore⟩ := h'
  refine ⟨more ++ added, (List.append_assoc ..).symm, fun entry hentry => ?_⟩
  exact (List.mem_append.mp hentry).elim (hmore entry) (hadded entry)

theorem cons (h : Since allowed past now) {entry : Entry} (hentry : allowed entry.action = true) :
    Since allowed past (entry :: now) := by
  refine h.trans ⟨[entry], rfl, fun other hother => ?_⟩
  rw [List.mem_singleton.mp hother]
  exact hentry

theorem mono {allowed' : WorkspaceAction → Bool} (h : Since allowed past now)
    (hallowed : ∀ action, allowed action = true → allowed' action = true) :
    Since allowed' past now := by
  obtain ⟨added, hnow, hadded⟩ := h
  exact ⟨added, hnow, fun entry hentry => hallowed _ (hadded entry hentry)⟩

end Since

theorem not_package_of_quiet {action : WorkspaceAction} (h : action.isQuiet = true) :
    (!action.isPackage) = true := (Bool.and_eq_true_iff.mp h).2

theorem permitted_of_quiet {entry : Entry} (h : entry.action.isQuiet = true) (past : History) :
    Permitted invocation entry past := by
  obtain ⟨action, answer⟩ := entry
  cases action with
  | send => exact nomatch h
  | dispatchInference => exact nomatch h
  | executePackage => exact nomatch h
  | _ => exact trivial

/-- A part that takes allowed actions only. -/
def Takes (allowed : WorkspaceAction → Bool) : Caught Result → Prop
  | .done _ => True
  | .act action next => allowed action = true ∧ ∀ answer, Takes allowed (next answer)

/-- A part that neither calls the package nor has an effect. -/
abbrev Quiet : Caught Result → Prop := Takes WorkspaceAction.isQuiet

namespace Takes

variable {allowed : WorkspaceAction → Bool}

theorem bind {part : Caught Next} {next : Next → Caught Result} (h : Takes allowed part)
    (hnext : ∀ value, Takes allowed (next value)) : Takes allowed (part >>= next) := by
  induction part with
  | done value => exact hnext value
  | act action rest ih => exact ⟨h.1, fun answer => ih answer (h.2 answer)⟩

theorem bindRun {part : Run Next} {next : Next → Run Result} (h : Takes allowed part.run)
    (hnext : ∀ value, Takes allowed (next value).run) : Takes allowed (part >>= next).run := by
  rw [OptionT.run_bind]
  refine h.bind fun value => ?_
  cases value with
  | none => exact trivial
  | some value => exact hnext value

theorem leaves {part : Caught Result} (h : Takes allowed part)
    (hallowed : ∀ action, allowed action = true → action.isQuiet = true) (past : History) :
    Leaves invocation part past fun _ now => Since allowed past now := by
  induction part generalizing past with
  | done result => exact Leaves.done Since.refl
  | act action next ih =>
    refine Leaves.act fun answer => ⟨permitted_of_quiet (hallowed action h.1) past, ?_⟩
    exact (ih answer (h.2 answer) _).mono fun _ _ hsince => (Since.refl.cons h.1).trans hsince

end Takes

theorem Quiet.leaves {part : Caught Result} (h : Quiet part) (past : History) :
    Leaves invocation part past fun _ now => Since WorkspaceAction.isQuiet past now :=
  Takes.leaves h (fun _ hquiet => hquiet) past

theorem quiet_orThrow (result : Option Result) : Quiet (orThrow result).run := trivial

theorem quiet_demand (condition : Bool) : Quiet (demand condition).run := by
  unfold demand
  split_ifs <;> exact trivial

theorem quiet_observe : Quiet observe.run := ⟨rfl, fun _ => trivial⟩

theorem quiet_resolveRuntimeBinding : Quiet resolveRuntimeBinding.run := ⟨rfl, fun _ => trivial⟩

theorem quiet_readPluginState (name : Text) : Quiet (readPluginState name).run :=
  ⟨rfl, fun _ => trivial⟩

theorem quiet_writePluginState (name value : Text) : Quiet (writePluginState name value).run :=
  ⟨rfl, fun _ => trivial⟩

theorem quiet_readExecution (invocation : Invocation) (requiredCapabilities : List Text) :
    Quiet (readExecution invocation requiredCapabilities).run := by
  unfold readExecution
  refine (quiet_readPluginState _).bindRun fun first => ?_
  split
  · exact trivial
  · refine quiet_resolveRuntimeBinding.bindRun fun binding => ?_
    refine (quiet_readPluginState _).bindRun fun again => ?_
    split
    · exact trivial
    · refine (quiet_orThrow _).bindRun fun control => ?_
      exact (quiet_demand _).bindRun fun _ => trivial

theorem quiet_accessFor (session : Session) (request : Members) :
    Quiet (accessFor session request).run := by
  unfold accessFor
  refine (quiet_readExecution _ _).bindRun fun current => ?_
  exact quiet_observe.bindRun fun observed => quiet_demand _

theorem quiet_bound (session : Session) (capability : Text) :
    Quiet (bound session capability).run := by
  unfold bound
  refine quiet_observe.bindRun fun before => ?_
  refine (quiet_demand _).bindRun fun _ => ?_
  refine quiet_resolveRuntimeBinding.bindRun fun binding => ?_
  exact quiet_observe.bindRun fun after => quiet_demand _

theorem quiet_secrets (session : Session) (request : Members) :
    Quiet (secrets session request).run := by
  unfold secrets
  refine (quiet_accessFor session request).bindRun fun _ => ?_
  exact (quiet_orThrow _).bindRun fun references => ⟨rfl, fun _ => trivial⟩

theorem quiet_delay (request : Members) : Quiet (delay request).run := by
  unfold delay
  refine (quiet_orThrow _).bindRun fun milliseconds => ?_
  exact Takes.bindRun ⟨rfl, fun _ => trivial⟩ fun _ => trivial

theorem quiet_storageRead (request : Members) : Quiet (storageRead request).run := by
  unfold storageRead
  refine (quiet_orThrow _).bindRun fun key => ?_
  refine (quiet_readPluginState _).bindRun fun value => ?_
  split <;> exact trivial

theorem quiet_storageWrite (request : Members) : Quiet (storageWrite request).run := by
  unfold storageWrite
  refine (quiet_orThrow _).bindRun fun key => ?_
  refine (quiet_orThrow _).bindRun fun value => ?_
  exact (quiet_writePluginState _ _).bindRun fun _ => trivial

theorem quiet_saveState (session : Session) (state : Option Members) :
    Quiet (saveState session state).run := by
  unfold saveState
  split
  · split_ifs
    · refine (quiet_orThrow _).bindRun fun written => ?_
      exact quiet_writePluginState _ _
    · exact trivial
  · exact trivial

/-! ### The check before an effect -/

/-- **What a read of the grant leaves in the history.** -/
theorem readExecution_spec (invocation : Invocation) (requiredCapabilities : List Text)
    (past : History) :
    Leaves invocation (readExecution invocation requiredCapabilities).run past fun result now =>
      ∀ control, result = some (some control) → ∃ raw first binding,
        now = ⟨.readPluginState executionFile, some (some raw)⟩ ::
          ⟨.resolveRuntimeBinding, some binding⟩ ::
            ⟨.readPluginState executionFile, some (some first)⟩ :: past ∧
        decodeControl invocation raw = some control ∧ ownHost invocation.host control = true ∧
        bindingServes invocation binding requiredCapabilities control = true := by
  unfold readExecution
  refine Leaves.bindRun (Leaves.act fun answer => ⟨trivial, Leaves.done ?_⟩)
  match answer with
  | none => exact fun _ h => nomatch h
  | some none => exact Leaves.done fun _ h => nomatch h
  | some (some first) =>
    refine Leaves.bindRun (Leaves.act fun answer => ⟨trivial, Leaves.done ?_⟩)
    match answer with
    | none => exact fun _ h => nomatch h
    | some binding =>
      refine Leaves.bindRun (Leaves.act fun answer => ⟨trivial, Leaves.done ?_⟩)
      match answer with
      | none => exact fun _ h => nomatch h
      | some none => exact Leaves.done fun _ h => nomatch h
      | some (some raw) =>
        refine Leaves.bindRun (Leaves.done ?_)
        cases hdecoded : decodeControl invocation raw with
        | none => exact fun _ h => nomatch h
        | some control =>
          refine Leaves.bindRun ?_
          unfold demand
          by_cases hown : ownHost invocation.host control = true
          · rw [if_pos hown]
            refine Leaves.done (Leaves.done fun found hfound => ?_)
            have hfound := Option.some.inj hfound
            by_cases hserves : bindingServes invocation binding requiredCapabilities control = true
            · rw [if_pos hserves] at hfound
              obtain rfl := Option.some.inj hfound
              exact ⟨raw, first, binding, rfl, hdecoded, hown, hserves⟩
            · rw [if_neg hserves] at hfound
              exact nomatch hfound
          · rw [if_neg hown]
            exact Leaves.done fun _ h => nomatch h

theorem validated {control : Members} {raw : Text}
    (h : decodeControl invocation raw = some control) :
    validateWorkspaceExecutionControl invocation.host.compareDouble control invocation.owner
      invocation.record.pluginId = true := by
  unfold decodeControl at h
  split_ifs at h
  exact (Option.filter_eq_some_iff.mp h).2

/-- A grant names its owner and its plugin, and has a revision. -/
theorem bound_of_validated {compareDouble : CompareDouble} {control : Members}
    {owner pluginId : Text}
    (h : validateWorkspaceExecutionControl compareDouble control owner pluginId = true) :
    sameValue (get control "owner") (.str owner) = true ∧
      sameValue (get control "plugin_id") (.str pluginId) = true ∧
        (revisionOf control).isSome = true := by
  unfold validateWorkspaceExecutionControl at h
  simp only [Bool.and_eq_true] at h
  obtain ⟨⟨⟨⟨⟨⟨⟨⟨⟨⟨⟨⟨⟨⟨⟨⟨⟨-, howner⟩, hplugin⟩, hrevision⟩, -⟩, -⟩, -⟩,
    -⟩, -⟩, -⟩, -⟩, -⟩, -⟩, -⟩, -⟩, -⟩, -⟩, -⟩ := h
  refine ⟨howner, hplugin, ?_⟩
  obtain ⟨revision, hsome, -⟩ := (Option.any_eq_true _ _).mp hrevision
  exact Option.isSome_iff_exists.mpr ⟨revision, hsome⟩

variable {past now : History}

/-- **A check that passes leaves a grant that allows the request.** -/
theorem accessFor_spec (session : Session) (request : Members) (past : History) :
    Leaves session.toInvocation (accessFor session request).run past fun result now =>
      result = some () → ∃ control,
        CheckedFor session.toInvocation (session.control.bind revisionOf) request control now := by
  unfold accessFor
  refine Leaves.bindRun ((readExecution_spec _ _ past).mono fun current now hread => ?_)
  match current with
  | none => exact fun h => nomatch h
  | some none =>
    refine Leaves.bindRun (Leaves.act fun answer => ⟨trivial, Leaves.done ?_⟩)
    cases answer with
    | none => exact fun h => nomatch h
    | some observed => exact Leaves.done fun h => nomatch h
  | some (some control) =>
    obtain ⟨raw, first, binding, rfl, hdecoded, hown, hserves⟩ := hread control rfl
    refine Leaves.bindRun (Leaves.act fun answer => ⟨trivial, Leaves.done ?_⟩)
    cases answer with
    | none => exact fun h => nomatch h
    | some observed =>
      dsimp only
      unfold demand
      by_cases hgranted : isGranted session observed request control = true
      · rw [Option.any_some, if_pos hgranted]
        refine Leaves.done fun _ =>
          ⟨control, past, raw, first, binding, observed, rfl, hdecoded, ?_⟩
        obtain ⟨howner, hplugin, hrevision⟩ := bound_of_validated (validated hdecoded)
        simp only [isGranted, Bool.and_eq_true, decide_eq_true_eq] at hgranted
        obtain ⟨⟨⟨⟨⟨howned, hversion⟩, henabled⟩, hunchanged⟩, hactive⟩, hallowed⟩ := hgranted
        simp only [bindingServes, Bool.and_eq_true] at hserves
        exact ⟨howned, hversion, howner, hplugin, hserves.1.1, hown, henabled, hactive,
          ⟨hrevision, hunchanged⟩, hallowed⟩
      · rw [Option.any_some, if_neg hgranted]
        exact Leaves.done fun h => nomatch h

/-! ### The first grant -/

variable {allowed : WorkspaceAction → Bool}

theorem BeganWith.since {revision : Option ℤ} (h : BeganWith invocation revision past)
    (hsince : Since allowed past now) : BeganWith invocation revision now := by
  obtain ⟨later, before, raw, first, binding, control, rfl, hrest⟩ := h
  obtain ⟨added, rfl, -⟩ := hsince
  exact ⟨added ++ later, before, raw, first, binding, control,
    by rw [List.append_assoc], hrest⟩

/-- The grant that a session has is the first one that was read. -/
def Began (session : Session) (past : History) : Prop :=
  ∀ control, session.control = some control →
    BeganWith session.toInvocation (revisionOf control) past

theorem Began.since {session : Session} (h : Began session past) (hsince : Since allowed past now) :
    Began session now :=
  fun control hcontrol => (h control hcontrol).since hsince

variable {request control : Members}

/-- A grant that is still of the revision of the session is of the first revision. -/
theorem Began.checked {session : Session} (h : Began session past)
    (hsince : Since WorkspaceAction.isQuiet past now)
    (hchecked : CheckedFor session.toInvocation (session.control.bind revisionOf) request control
      now) :
    ∃ revision control, BeganWith session.toInvocation revision now ∧
      CheckedFor session.toInvocation revision request control now := by
  obtain ⟨rest, raw, first, binding, observed, hnow, hdecoded, howned, hgranted⟩ := hchecked
  obtain ⟨hsome, hsame⟩ := hgranted.unchanged
  rw [hsame] at hsome
  obtain ⟨revision, hrevision⟩ := Option.isSome_iff_exists.mp hsome
  obtain ⟨start, hstart, -⟩ := Option.bind_eq_some_iff.mp hrevision
  have hbegan := (h start hstart).since hsince
  have hbind : session.control.bind revisionOf = revisionOf start := by rw [hstart]; rfl
  rw [hbind] at hgranted
  exact ⟨_, control, hbegan, rest, raw, first, binding, observed, hnow, hdecoded, howned, hgranted⟩

/-! ### Requests on their way -/

/-- Two addresses of the same place. -/
structure SameDestination (uri other : Uri) : Prop where
  scheme : uri.scheme = other.scheme
  host : uri.host = other.host
  userInfo : uri.userInfo = other.userInfo
  origin : uri.origin = other.origin
  hasFragment : uri.hasFragment = other.hasFragment

/-- A new query leaves the place of an address as it is. -/
def KeepsDestination (lib : Library) : Prop :=
  ∀ uri params, SameDestination (lib.replaceQuery uri params) uri

variable {lib : Library}

theorem signQuery_destination (hlib : KeepsDestination lib) {values : List (Text × Text)}
    {uri signed : Uri} {signature : Members} {secrets : List Text}
    (h : signQuery lib values uri signature = some (signed, secrets)) :
    SameDestination signed uri := by
  unfold signQuery at h
  simp only [Option.bind_eq_bind, Option.bind_eq_some_iff] at h
  obtain ⟨parameter, -, h⟩ := h
  split_ifs at h
  obtain ⟨key, -, h⟩ := Option.bind_eq_some_iff.mp h
  obtain ⟨rfl, -⟩ := Prod.mk.inj (Option.some.inj h)
  exact hlib uri _

variable {credentials : Option (List (Text × Text))}

theorem authenticate_destination (hlib : KeepsDestination lib) {request : Members}
    {prepared sent : Prepared} (h : authenticate lib credentials request prepared = some sent) :
    sent.method = prepared.method ∧ SameDestination sent.uri prepared.uri := by
  unfold authenticate at h
  split at h
  · obtain rfl := Option.some.inj h
    exact ⟨rfl, rfl, rfl, rfl, rfl, rfl⟩
  · exact nomatch h
  · simp only [Option.bind_eq_bind, Option.bind_eq_some_iff] at h
    obtain ⟨values, -, assignments, -, h⟩ := h
    split_ifs at h
    obtain ⟨⟨headers, secrets⟩, -, h⟩ := Option.bind_eq_some_iff.mp h
    dsimp only at h
    split at h
    · obtain rfl := Option.some.inj h
      exact ⟨rfl, rfl, rfl, rfl, rfl, rfl⟩
    · obtain ⟨⟨uri, signed⟩, hsigned, h⟩ := Option.bind_eq_some_iff.mp h
      obtain rfl := Option.some.inj h
      exact ⟨rfl, signQuery_destination hlib hsigned⟩
    · exact nomatch h
  · exact nomatch h

/-- **A prepared request goes to the address of the request**, signed or not. -/
theorem prepare_destination (hlib : KeepsDestination lib) {request access : Members}
    {prepared : Prepared} (h : prepare lib request access credentials = some prepared) :
    ∃ uri, (stringOf (get request "url")).bind lib.parseUri = some uri ∧
      prepared.method = get request "method" ∧ SameDestination prepared.uri uri := by
  unfold prepare at h
  simp only [Option.bind_eq_bind, Option.bind_eq_some_iff] at h
  obtain ⟨paths, -, limit, -, url, hurl, body, -, h⟩ := h
  split_ifs at h
  obtain ⟨uri, huri, h⟩ := Option.bind_eq_some_iff.mp h
  obtain ⟨headers, -, h⟩ := Option.bind_eq_some_iff.mp h
  obtain ⟨hmethod, hplace⟩ := authenticate_destination hlib h
  exact ⟨uri, Option.bind_eq_some_iff.mpr ⟨url, hurl, huri⟩, hmethod, hplace⟩

theorem stringOf_eq_some {value : Value} {t : Text} (h : stringOf value = some t) :
    value = .str t := by
  cases value with
  | str other => exact congrArg Value.str (Option.some.inj h)
  | _ => exact nomatch h

/-- An address of the same place is covered by the same permissions. -/
theorem sentAsGranted_of {uri sent : Uri} {method : Text}
    (hkind : get request "kind" = .str (text "http.request"))
    (hallowed : allows lib (accessOf control) request = true)
    (huri : (stringOf (get request "url")).bind lib.parseUri = some uri)
    (hmethod : get request "method" = .str method) (hplace : SameDestination sent uri) :
    SentAsGranted request control method sent := by
  have hother : sameValue (get request "kind") (.str (text "ai.infer")) = false := by
    rw [hkind]
    decide
  unfold allows at hallowed
  rw [hother, huri] at hallowed
  simp only [Bool.and_eq_true, Bool.false_eq_true, if_false, Option.any_some, beq_iff_eq,
    Bool.not_eq_true'] at hallowed
  obtain ⟨-, ⟨⟨⟨hsecure, hnamed⟩, hanonymous⟩, hwhole⟩, hnetwork⟩ := hallowed
  refine ⟨hmethod, hplace.scheme.trans hsecure, ?_, ?_, hplace.hasFragment.trans hwhole, ?_⟩
  · rw [hplace.host]
    exact hnamed
  · rw [hplace.userInfo]
    exact hanonymous
  · split at hnetwork
    · next network hlist =>
      obtain ⟨rule, hrule, hcovers⟩ := List.any_eq_true.mp hnetwork
      refine ⟨network, rule, hlist, hrule, ?_⟩
      unfold covers at hcovers ⊢
      rw [hplace.origin]
      exact hcovers
    · exact nomatch hnetwork

/-! ### Effects -/

/-- The package is not called in between, and nothing else is done in front of a result that says
    that nothing was dispatched. -/
def Told (past : History) (nothingSent : Bool) (now : History) : Prop :=
  Since (fun action => !action.isPackage) past now ∧
    (nothingSent = true → Since WorkspaceAction.isQuiet past now)

theorem Told.of_quiet (h : Since WorkspaceAction.isQuiet past now) (nothingSent : Bool) :
    Told past nothingSent now :=
  ⟨h.mono fun _ => not_package_of_quiet, fun _ => h⟩

/-- An effect after nothing but looks: the result does not say that nothing was dispatched. -/
theorem Told.of_effect {entry : Entry} {nothingSent : Bool}
    (h : Since WorkspaceAction.isQuiet past now) (hentry : (!entry.action.isPackage) = true)
    (hsent : nothingSent = false) : Told past nothingSent (entry :: now) :=
  ⟨(h.mono fun _ => not_package_of_quiet).cons hentry, fun h => nomatch hsent.symm.trans h⟩

def HttpOutcome.isNotDispatched : HttpOutcome → Bool
  | .notDispatched => true
  | _ => false

theorem isNotDispatched_outcomeMembers (outcome : HttpOutcome) :
    isNotDispatched (outcomeMembers outcome) = HttpOutcome.isNotDispatched outcome := by
  match outcome with
  | .notDispatched => rfl
  | .unknown _ => rfl
  | .response _ _ (.body _) => rfl
  | .response _ _ (.json _) => rfl

theorem deliver_dispatched {prepared : Prepared} {response : TransportResponse}
    {outcome : HttpOutcome} (h : deliver lib prepared response = some outcome) :
    HttpOutcome.isNotDispatched outcome = false := by
  unfold deliver at h
  split_ifs at h
  obtain ⟨visible, -, h⟩ := Option.bind_eq_some_iff.mp h
  split_ifs at h
  · obtain rfl := Option.some.inj h
    rfl
  · split at h
    · obtain rfl := Option.some.inj h
      rfl
    · obtain ⟨decoded, -, h⟩ := Option.bind_eq_some_iff.mp h
      split_ifs at h
      obtain rfl := Option.some.inj h
      rfl

theorem isNotDispatched_inferenceResult (answer : Members) :
    isNotDispatched (inferenceResult answer) = false := by
  unfold inferenceResult
  dsimp only
  split_ifs <;> rfl

theorem isNotDispatched_id (id : Value) (members : Members) :
    isNotDispatched ((text "id", id) :: members) = isNotDispatched members := by
  have hother : (text "id" == text "outcome") = false := by decide
  have hget : get ((text "id", id) :: members) "outcome" = get members "outcome" := by
    unfold PluginCapabilityDispatcher.get member?
    rw [List.find?_cons_of_neg (by rw [hother]; decide)]
  unfold isNotDispatched
  rw [hget]

section Session

variable (session : Session) {past : History}

/-- A quiet part, and what follows it. -/
theorem Leaves.after {part : Caught Next} {next : Next → Caught Result}
    {post : Result → History → Prop} (hpart : Quiet part)
    (h : ∀ value now, Since WorkspaceAction.isQuiet past now →
      Leaves invocation (next value) now post) :
    Leaves invocation (part >>= next) past post :=
  Leaves.bind ((hpart.leaves past).mono h)

variable {request access : Members}

theorem transport_spec (hlib : KeepsDestination session.host.library)
    {credentials : Option (List (Text × Text))} {prepared : Prepared}
    (hprepared : prepare session.host.library request access credentials = some prepared)
    (hkind : get request "kind" = .str (text "http.request")) (hbegan : Began session past)
    {now : History} (hsince : Since WorkspaceAction.isQuiet past now) {control : Members}
    (hchecked : CheckedFor session.toInvocation (session.control.bind revisionOf) request control
      now) :
    Leaves session.toInvocation (transport session request prepared) now fun outcome later =>
      Told past (HttpOutcome.isNotDispatched outcome) later := by
  unfold transport
  obtain ⟨uri, huri, hmethod, hplace⟩ := prepare_destination hlib hprepared
  split
  · exact Leaves.done (Told.of_quiet hsince _)
  · next method hsome =>
    refine Leaves.act fun answer => ⟨?_, Leaves.done ?_⟩
    · obtain ⟨revision, control, hbegan, hchecked⟩ := hbegan.checked hsince hchecked
      refine ⟨revision, control, hbegan, hchecked, ?_⟩
      obtain ⟨_, _, _, _, _, _, _, _, hgranted⟩ := hchecked
      exact sentAsGranted_of hkind hgranted.allowed huri
        (hmethod.symm.trans (stringOf_eq_some hsome)) hplace
    · refine Told.of_effect hsince rfl ?_
      cases hdelivered : answer.bind (deliver session.host.library prepared) with
      | none => rfl
      | some outcome =>
        obtain ⟨response, -, hdelivered⟩ := Option.bind_eq_some_iff.mp hdelivered
        exact deliver_dispatched hdelivered

/-- What is done once the credentials are read, or not asked for. -/
private theorem http_rest_spec (hlib : KeepsDestination session.host.library)
    (hkind : get request "kind" = .str (text "http.request")) (hbegan : Began session past)
    (credentials : Option (List (Text × Text))) (now : History)
    (hsince : Since WorkspaceAction.isQuiet past now) :
    Leaves session.toInvocation
      (match prepare session.host.library request access credentials with
      | none => pure .notDispatched
      | some prepared => (accessFor session request).run >>= fun checked =>
        match checked with
        | none => pure .notDispatched
        | some () => transport session request prepared) now
      fun outcome now => Told past (HttpOutcome.isNotDispatched outcome) now := by
  split
  · exact Leaves.done (Told.of_quiet hsince _)
  · next prepared hprepared =>
    refine Leaves.bind (((quiet_accessFor session request).leaves now).both
      (accessFor_spec session request now) |>.mono fun checked later h => ?_)
    have hsince := hsince.trans h.1
    cases checked with
    | none => exact Leaves.done (Told.of_quiet hsince _)
    | some _ =>
      obtain ⟨control, hchecked⟩ := h.2 rfl
      exact transport_spec session hlib hprepared hkind hbegan hsince hchecked

/-- **A request over the network.** -/
theorem http_spec (hlib : KeepsDestination session.host.library)
    (hkind : get request "kind" = .str (text "http.request")) (hbegan : Began session past) :
    Leaves session.toInvocation (http session request access) past fun outcome now =>
      Told past (HttpOutcome.isNotDispatched outcome) now := by
  unfold http
  dsimp only
  split_ifs
  · exact Leaves.after (quiet_secrets session request)
      (http_rest_spec session hlib hkind hbegan)
  · exact http_rest_spec session hlib hkind hbegan none past Since.refl

/-- **An inference.** -/
theorem infer_spec (request : Members) (hbegan : Began session past) :
    Leaves session.toInvocation (infer session request) past fun result now =>
      Told past (isNotDispatched result) now := by
  unfold infer
  split_ifs
  swap
  · exact Leaves.done (Told.of_quiet Since.refl _)
  refine Leaves.after (quiet_accessFor session request) fun checked now hsince => ?_
  cases checked with
  | none => exact Leaves.done (Told.of_quiet hsince _)
  | some _ =>
    refine Leaves.bind (Leaves.act fun opened => ⟨trivial, Leaves.done ?_⟩)
    have hsince : Since WorkspaceAction.isQuiet past (⟨.openInference request, opened⟩ :: now) :=
      hsince.cons rfl
    cases opened with
    | none => exact Leaves.done (Told.of_quiet hsince _)
    | some _ =>
      refine Leaves.bind (((quiet_accessFor session request).leaves _).both
        (accessFor_spec session request _) |>.mono fun again later h => ?_)
      have hsince := hsince.trans h.1
      cases again with
      | none => exact Leaves.done (Told.of_quiet hsince _)
      | some _ =>
        obtain ⟨control, hchecked⟩ := h.2 rfl
        refine Leaves.bind (Leaves.act fun answer =>
          ⟨hbegan.checked hsince hchecked, Leaves.done ?_⟩)
        cases answer with
        | none => exact Leaves.done (Told.of_effect hsince rfl rfl)
        | some answer =>
          exact Leaves.done (Told.of_effect hsince rfl (isNotDispatched_inferenceResult answer))

/-! ### Requests, calls of the package, and the loop -/

/-- A quiet part that may throw, and what follows it. -/
theorem Leaves.afterRun {part : Run Next} {next : Next → Run Result}
    {post : Option Result → History → Prop} (hpart : Quiet part.run)
    (h : ∀ value now, Since WorkspaceAction.isQuiet past now →
      Leaves invocation (next value).run now post)
    (hnone : ∀ now, post none now) : Leaves invocation (part >>= next).run past post := by
  refine Leaves.bindRun ((hpart.leaves past).mono fun result now hsince => ?_)
  cases result with
  | none => exact hnone now
  | some value => exact h value now hsince

/-- **One request of the package.** -/
theorem operation_spec (hlib : KeepsDestination session.host.library) {request : Members}
    {kind : Text} (hkind : get request "kind" = .str kind) (hbegan : Began session past) :
    Leaves session.toInvocation (operation session request kind).run past fun result now =>
      ∀ members, result = some members → Told past (isNotDispatched members) now := by
  have hquiet : ∀ {part : Run Members}, Quiet part.run →
      Leaves session.toInvocation part.run past fun result now =>
        ∀ members, result = some members → Told past (isNotDispatched members) now := by
    intro part hpart
    exact (hpart.leaves past).mono fun _ _ hsince members _ => Told.of_quiet hsince _
  unfold operation
  split_ifs with hyield hwait hdescribe hinfer hhttp hread hwrite
  · exact hquiet trivial
  · exact hquiet (quiet_delay request)
  · exact hquiet trivial
  · refine Leaves.bind ((infer_spec session request hbegan).mono fun result now htold => ?_)
    refine Leaves.done fun members h => ?_
    obtain rfl := Option.some.inj h
    exact htold
  · rw [hhttp] at hkind
    refine Leaves.bindRun (Leaves.bind
      ((http_spec session hlib hkind hbegan).mono fun outcome now htold => Leaves.done ?_))
    refine Leaves.done fun members h => ?_
    obtain rfl := Option.some.inj h
    rw [isNotDispatched_outcomeMembers]
    exact htold
  · exact hquiet ((quiet_bound session _).bindRun fun _ => quiet_storageRead request)
  · exact hquiet ((quiet_bound session _).bindRun fun _ => quiet_storageWrite request)
  · exact hquiet trivial

theorem Calm.since {now : History} (h : Calm past)
    (hsince : Since WorkspaceAction.isQuiet past now) : Calm now := by
  obtain ⟨added, rfl, hadded⟩ := hsince
  induction added with
  | nil => exact h
  | cons entry added ih =>
    have hentry := hadded entry List.mem_cons_self
    have hrest := ih fun other hother => hadded other (List.mem_cons_of_mem _ hother)
    intro other hother
    rw [List.cons_append, List.takeWhile_cons, if_pos (not_package_of_quiet hentry)] at hother
    rcases List.mem_cons.mp hother with rfl | hother
    · exact (Bool.not_eq_true' _).mp (Bool.and_eq_true_iff.mp hentry).1
    · exact hrest other hother

theorem calm_of_package {entry : Entry} (h : entry.action.isPackage = true) (past : History) :
    Calm (entry :: past) := by
  intro other hother
  rw [List.takeWhile_cons, if_neg (by rw [h]; decide)] at hother
  exact nomatch hother

/-- **A call of the package**: none of its effects is outstanding after it. -/
theorem invoke_spec (action : Text) (continuation : Continuation) (result : Option Members)
    (hbegan : Began session past) (hcalm : result.any isNotDispatched = true → Calm past) :
    Leaves session.toInvocation (invoke session action continuation result).run past
      fun called now => called.isSome = true → Began session now ∧ Calm now := by
  have hnone : ∀ now, (none : Option (Members × Continuation × Members)).isSome = true →
      Began session now ∧ Calm now := fun _ h => nomatch h
  unfold invoke
  refine Leaves.afterRun (quiet_bound session _) (fun _ now hnow => ?_) hnone
  refine Leaves.afterRun (quiet_readExecution _ _) (fun current now' hnow' => ?_) hnone
  refine Leaves.afterRun quiet_observe (fun observed now'' hnow'' => ?_) hnone
  have hsince := (hnow.trans hnow').trans hnow''
  refine Leaves.bindRun (Leaves.act fun response =>
    ⟨fun htold => (hcalm htold).since hsince, Leaves.done ?_⟩)
  let told := packageRequest session action continuation result current observed
  have hcalled : Calm (⟨.executePackage told, response⟩ :: now'') := calm_of_package rfl now''
  have hadded : Since (fun _ => true) now'' (⟨.executePackage told, response⟩ :: now'') :=
    Since.refl.cons rfl
  have hstarted := (hbegan.since hsince).since hadded
  cases response with
  | none => exact hnone _
  | some response =>
    refine Quiet.leaves ?_ _ |>.mono fun _ later hlater _ =>
      ⟨hstarted.since hlater, hcalled.since hlater⟩
    refine (quiet_bound session _).bindRun fun _ => ?_
    refine (quiet_demand _).bindRun fun _ => ?_
    refine (quiet_orThrow _).bindRun fun output => ?_
    refine (quiet_orThrow _).bindRun fun state => ?_
    refine (quiet_saveState session state).bindRun fun _ => ?_
    exact (quiet_orThrow _).bindRun fun view => trivial

/-- **The loop**: each request is carried out and told, however many there are. -/
theorem continueRun_spec (hlib : KeepsDestination session.host.library) (steps : ℕ)
    (called : Members × Continuation × Members) (hbegan : Began session past) (hcalm : Calm past) :
    Leaves session.toInvocation (continueRun session steps called).run past fun _ _ => True := by
  induction steps generalizing past called with
  | zero => exact Leaves.done trivial
  | succ steps ih =>
    obtain ⟨output, continuation, view⟩ := called
    unfold continueRun
    refine Leaves.bindRun (Leaves.done ?_)
    cases requestOf output with
    | none => exact trivial
    | some asked =>
      cases asked with
      | none =>
        refine Leaves.afterRun (quiet_readExecution _ _) (fun _ _ _ => ?_) fun _ => trivial
        exact Leaves.done trivial
      | some request =>
        refine Leaves.bindRun (Leaves.done ?_)
        cases hkind : stringOf (get request "kind") with
        | none => exact trivial
        | some kind =>
          refine Leaves.afterRun (quiet_orThrow _) (fun next now hnow => ?_) fun _ => trivial
          refine Leaves.bindRun ((operation_spec session hlib (stringOf_eq_some hkind)
            (hbegan.since hnow)).mono fun result later htold => ?_)
          cases result with
          | none => exact trivial
          | some members =>
            obtain ⟨hlater, hquiet⟩ := htold members rfl
            have hcalm : isNotDispatched ((text "id", get request "id") :: members) = true →
                Calm later := by
              rw [isNotDispatched_id]
              exact fun h => (hcalm.since hnow).since (hquiet h)
            refine Leaves.bindRun ((invoke_spec session next continuation
              (some ((text "id", get request "id") :: members))
              ((hbegan.since hnow).since hlater) hcalm).mono fun again now h => ?_)
            cases again with
            | none => exact trivial
            | some again => exact ih again (h rfl).1 (h rfl).2

end Session

/-! ### Whole runs -/

/-- What is done before the grant is read. -/
def isBefore : WorkspaceAction → Bool
  | .createDirectory => true
  | .resolveRuntimeBinding => true
  | .readPluginState name => name == workspaceFile
  | _ => false

theorem quiet_of_before (action : WorkspaceAction) (h : isBefore action = true) :
    action.isQuiet = true := by
  cases action with
  | send => exact nomatch h
  | dispatchInference => exact nomatch h
  | executePackage => exact nomatch h
  | _ => rfl

theorem before_savedState (invocation : Invocation) (persistent : Bool) :
    Takes isBefore (savedState invocation persistent).run := by
  unfold savedState
  split_ifs
  · have hread : Takes isBefore (readPluginState workspaceFile).run :=
      ⟨by decide, fun _ => trivial⟩
    refine hread.bindRun fun saved => ?_
    split
    · exact trivial
    · next raw =>
      have hdecode : Takes isBefore (orThrow
          ((JsonText.decode invocation.host.library.doubleText raw).bind mapOf)).run := trivial
      exact hdecode.bindRun fun members => trivial
  · exact trivial

/-- What comes in front of the first read of the grant is no read of the grant. -/
theorem not_read_before {before : History} (h : Since isBefore [] before) :
    ∀ entry ∈ before, entry.action ≠ .readPluginState executionFile := by
  obtain ⟨added, rfl, hadded⟩ := h
  intro entry hentry heq
  rw [List.append_nil] at hentry
  have hbefore := hadded entry hentry
  rw [heq] at hbefore
  exact absurd hbefore (by decide)

/-- **A part in front of the first read of the grant**, and what follows it. -/
theorem Leaves.before {part : Run Next} {next : Next → Run Result} {past : History}
    (hpast : Since isBefore [] past) (hpart : Takes isBefore part.run)
    (h : ∀ value now, Since isBefore [] now →
      Leaves invocation (next value).run now fun _ _ => True) :
    Leaves invocation (part >>= next).run past fun _ _ => True := by
  refine Leaves.bindRun ((hpart.leaves quiet_of_before past).mono fun result now hsince => ?_)
  cases result with
  | none => exact trivial
  | some value => exact h value now (hpast.trans hsince)

theorem runWorkspaceOwned_spec (hlib : KeepsDestination invocation.host.library) (action : Text)
    (settings : Members) :
    Leaves invocation (runWorkspaceOwned invocation action settings).run [] fun _ _ => True := by
  unfold runWorkspaceOwned
  refine Leaves.before Since.refl ⟨rfl, fun _ => trivial⟩ fun _ past hpast => ?_
  refine Leaves.before hpast ⟨rfl, fun _ => trivial⟩ fun initial past hpast => ?_
  refine Leaves.before hpast trivial fun digest past hpast => ?_
  refine Leaves.before hpast ?_ fun _ past hpast => ?_
  · unfold demand
    split_ifs <;> exact trivial
  refine Leaves.before hpast (before_savedState _ _) fun state past hpast => ?_
  refine Leaves.bindRun (((quiet_readExecution invocation []).leaves past).both
    (readExecution_spec invocation [] past) |>.mono fun control now h => ?_)
  cases control with
  | none => exact trivial
  | some control =>
    -- The session has the grant that was just read, and nothing was sent before.
    let session : Session :=
      { invocation with
        digest := digest
        persistent := initial.capabilities.contains (text "state.plugin.read_write")
        control := control
        settings := effectiveSettings settings control }
    have hbegan : Began session now := by
      intro found hfound
      obtain ⟨raw, first, binding, rfl, hdecoded, -⟩ := h.2 found (congrArg some hfound)
      exact ⟨[], past, raw, first, binding, found, rfl, not_read_before hpast, hdecoded, rfl⟩
    have hcalm : Calm now := by
      have hempty : Calm [] := fun _ hentry => nomatch hentry
      exact hempty.since ((hpast.mono quiet_of_before).trans h.1)
    refine Leaves.bindRun ((invoke_spec session action ⟨.null, state⟩ none hbegan
      fun h => nomatch h).mono fun called now h => ?_)
    cases called with
    | none => exact trivial
    | some called => exact continueRun_spec session hlib 512 called (h rfl).1 (h rfl).2

/-- **No effect outside the grant**: whatever a run is answered, each effect comes directly after
    a look at a grant that allows it, a request goes where that grant says, and the package is
    told that nothing was dispatched only if nothing was. -/
theorem effects_granted (hlib : KeepsDestination invocation.host.library) (action : Text)
    (settings : Members) (answers : List (Processes.Event Answers Unit)) :
    AllPermitted invocation (history invocation action settings answers) := by
  have hsound : Sound (protocol invocation) record (fun _ _ _ => True)
      ⟨[], fun _ => (runWorkspaceOwned invocation action settings).run⟩ :=
    ⟨allPermitted_nil invocation, fun _ => runWorkspaceOwned_spec hlib action settings⟩
  exact (holds_every_run hsound (fun _ _ _ _ => trivial) answers).inv

/-! ### A run that sends a request -/

def sampleDigest : Text := List.replicate 64 97

/-- A client that knows one address. -/
def sampleLibrary : Library where
  parseUri t :=
    if t = text "https://a.b/" ∨ t = text "https://a.b" then
      some ⟨text "https", text "a.b", [], text "/", text "https://a.b", false, false, [], t⟩
    else none
  replaceQuery uri _ := uri
  hmacHex _ _ := text "00"
  doubleText t := t

/-- One origin, with a connection of one field. -/
def sampleAccess : Members :=
  [(text "version", .int 2),
    (text "network", .arr [.obj [(text "origin", .str (text "https://a.b")),
      (text "methods", .arr [.str (text "GET")]), (text "credential", .str (text "svc"))]]),
    (text "credentials", .obj [(text "svc", .arr [.obj [(text "id", .str (text "token")),
      (text "label", .str (text "Token"))]])])]

/-- A request with the field in a header. -/
def sampleRequest : Members :=
  [(text "kind", .str (text "http.request")), (text "url", .str (text "https://a.b/")),
    (text "method", .str (text "GET")), (text "credential", .str (text "svc")),
    (text "auth", .obj [(text "headers", .obj [(text "X-Token",
      .obj [(text "field", .str (text "token"))])])]),
    (text "response_json_paths", .null)]

def sampleInvocation : Invocation where
  host := ⟨text "local", none, false, sampleLibrary, fun _ _ => none⟩
  owner := text "aa"
  record := ⟨text "pkg", text "plugin"⟩

/-- A grant without a deadline for the sample access. -/
def sampleControl : Members :=
  [(text "version", .int 2), (text "owner", .str (text "aa")),
    (text "plugin_id", .str (text "plugin")), (text "revision", .int 1),
    (text "enabled", .bool true), (text "expires_at_ms", .null),
    (text "package_id", .str (text "pkg")), (text "package_digest", .str sampleDigest),
    (text "credentials", .obj [(text "svc", .obj [(text "token", .str (text "ref"))])]),
    (text "settings", .obj []),
    (text "scope", .obj [(text "version", .int 2), (text "access", .obj sampleAccess),
      (text "description", .str (text "d"))])]

/-- The package asks for one request, and for nothing more once it has a result. -/
def sampleOutput (request : PackageRequest) : Members :=
  [(text "view", .obj []),
    (text "requests", .arr (if request.result.isSome then []
      else [.obj ((text "continuation", .str (text "next")) :: sampleRequest)]))]

def sampleAnswers : Answers
  | .createDirectory => some ()
  | .resolveRuntimeBinding => some ⟨some (text "pkg"), some sampleDigest,
      [text "workspace.continue", text "network.http", text "credentials.use"]⟩
  | .readPluginState _ => some (encode (.obj sampleControl))
  | .writePluginState .. => some ()
  | .observe => some ⟨some (text "aa"), 0⟩
  | .executePackage request =>
    some ⟨some (text "pkg"), some sampleDigest, true, some (sampleOutput request)⟩
  | .delay _ => some ()
  | .resolveCredentials _ => some [(text "token", text "abc")]
  | .openInference _ => some ()
  | .dispatchInference _ => some []
  | .send .. => some ⟨200, [], text "ok"⟩

def sampleEvents : List (Processes.Event Answers Unit) := List.replicate 40 ⟨(), sampleAnswers⟩

theorem sampleLibrary_keepsDestination : KeepsDestination sampleInvocation.host.library :=
  fun _ _ => ⟨rfl, rfl, rfl, rfl, rfl⟩

/-- A granted request is sent, and every effect of its run is granted. -/
theorem effects_granted_once :
    ((history sampleInvocation (text "run") [] sampleEvents).filter
      fun entry => entry.action.isEffect).length = 1 ∧
    AllPermitted sampleInvocation (history sampleInvocation (text "run") [] sampleEvents) := by
  refine ⟨by decide +kernel, ?_⟩
  exact effects_granted sampleLibrary_keepsDestination (text "run") [] sampleEvents

end PluginWorkspaceRuntime

end Hivra
