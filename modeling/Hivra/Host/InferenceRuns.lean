import Hivra.Host.InferenceRuntime
import Hivra.Host.PreferenceRuns

namespace Hivra

open Replay Processes TicketLine

/-!
# Inference under current authority

Between the submission of a request and its question anything may change: keys, connections, the
open capsule, and what else was submitted.  What the runtime looks at without a wait, just before
it asks and just before it answers, is enough.

* `execute_holds`, `enqueue_holds` — each request by itself.
-/

namespace AiRuntime

open AiCredentials

variable {ι : Type}

/-! ### What is asked of a run -/

/-- The call of a submission to a scope. -/
def submissionTo (scope : String) : Record ι → Option ι
  | .submitted call binding => if scopeKey binding.request = scope then some call else none
  | _ => none

/-- A question is the one that was submitted, asked in the turn of its request after the owner
    has agreed, where he is asked, when nothing newer was submitted to its scope, its capsule is
    open, and its connection is still there and open with its address and its key.  A result is
    returned when nothing newer was submitted and the capsule is open. -/
def Justified (front : List (Record ι)) : Record ι → Prop
  | .asked call question view =>
    ∃ binding before between after,
      front = before ++ .submitted call binding :: (between ++ .began call :: after) ∧
      question = AiRuntime.question binding binding.provider ∧
      (binding.asksOwner = true → .authorized call ∈ after) ∧
      (∀ record ∈ between ++ .began call :: after,
        submissionTo (scopeKey binding.request) record = none) ∧
      view.activeCapsuleRootHex = some binding.request.capsuleRootHex ∧
      IsBoundConnection view binding
  | .returned call view =>
    ∃ binding before since,
      front = before ++ .submitted call binding :: since ∧
      (∀ record ∈ since, submissionTo (scopeKey binding.request) record = none) ∧
      view.activeCapsuleRootHex = some binding.request.capsuleRootHex
  | _ => True

/-- Every question and every result of a log is justified by what came before it. -/
def JustifiedLog (log : List (Record ι)) : Prop :=
  ∀ front record back, log = front ++ record :: back → Justified front record

theorem JustifiedLog.nil : JustifiedLog ([] : List (Record ι)) := by
  intro front record back h
  exact absurd h.symm (List.append_ne_nil_of_right_ne_nil _ (List.cons_ne_nil _ _))

variable {record : Record ι}

theorem JustifiedLog.snoc {log : List (Record ι)} (h : JustifiedLog log)
    (hrecord : Justified log record) : JustifiedLog (log ++ [record]) := by
  intro front other back heq
  rcases List.eq_nil_or_concat' back with rfl | ⟨back, last, rfl⟩
  · obtain ⟨rfl, hlast⟩ := List.append_inj' heq rfl
    rw [← List.cons_eq_cons.mp hlast |>.1]
    exact hrecord
  · rw [← List.cons_append, ← List.append_assoc] at heq
    obtain ⟨hlog, -⟩ := List.append_inj' heq rfl
    exact h front other back hlog

inductive RuntimeCall
  | infer (request : InferenceRequest)
  | inferAuthorized (request : InferenceRequest)
  | setCapsule (capsule : Option String)
  | store (call : StoreCall)

def RuntimeCall.process (texts : Texts) (addresses : Addresses) :
    RuntimeCall → RuntimeProcess ι (Outcome (Option InferenceResult))
  | .infer request => do
    let result ← AiRuntime.infer request
    return result.map some
  | .inferAuthorized request => do
    let result ← AiRuntime.inferAuthorized texts addresses request
    return result.map some
  | .setCapsule capsule => do
    act (.setCapsule capsule)
    return .ok none
  | .store call => do
    let result ← storeCall (call.process addresses)
    return result.map fun _ => none

abbrev RuntimeState (ι : Type) :=
  State (RuntimeWorld ι) ι (RuntimeAction ι) (RuntimeAnswer ι) (Outcome (Option InferenceResult))

/-- Nothing was submitted yet. -/
def RuntimeState.start (texts : Texts) (addresses : Addresses) (store : StoreWorld ι)
    (capsule : Option String) (calls : ι → RuntimeCall) : RuntimeState ι where
  world := ⟨store, capsule, .empty, []⟩
  calls := fun i => (calls i).process texts addresses

/-- The tasks of the store run one after the other, and so do the requests of the line. -/
def InTurn (world : RuntimeWorld ι) (i : ι) (action : RuntimeAction ι) (outside : Outside) : Prop :=
  match action with
  | .store action => Scheduled world.store i action outside.works
  | .begin entry => world.line.queue.head? = some entry.2
  | _ => True

instance [DecidableEq ι] (world : RuntimeWorld ι) (i : ι) (action : RuntimeAction ι)
    (outside : Outside) : Decidable (InTurn world i action outside) :=
  match action with
  | .store action => inferInstanceAs (Decidable (Scheduled world.store i action outside.works))
  | .begin entry => inferInstanceAs (Decidable (world.line.queue.head? = some entry.2))
  | .setCapsule _ | .look | .submit .. | .dispatch .. | .receive _ | .finish _ => isTrue trivial

/-! ### What holds at all times -/

/-- The last submission to a scope. -/
def newestSubmission (log : List (Record ι)) (scope : String) : Option ι :=
  (log.filterMap (submissionTo scope)).getLast?

structure Inv (w : RuntimeWorld ι) : Prop where
  justified : JustifiedLog w.log
  line : Sound w.line
  newest : ∀ scope ticket, newest w.line.queue scope = some ticket →
    newestSubmission w.log scope = some ticket.owner

/-- The call has submitted a request. -/
def IsSubmissionOf (i : ι) : Record ι → Prop
  | .submitted call _ => call = i
  | _ => False

/-- What a request relies on: the log only grows, what it has in the line stays there, and stays
    the first, and nobody submits in its name. -/
structure Others (i : ι) (w w' : RuntimeWorld ι) : Prop where
  log : ∃ more, w'.log = w.log ++ more ∧ ∀ record ∈ more, ¬ IsSubmissionOf i record
  waits : ∀ ticket ∈ w.line.queue, ticket.owner = i → ticket ∈ w'.line.queue
  first : ∀ ticket, w.line.queue.head? = some ticket → ticket.owner = i →
    w'.line.queue.head? = some ticket

theorem Others.refl (i : ι) (w : RuntimeWorld ι) : Others i w w :=
  ⟨⟨[], (List.append_nil _).symm, fun _ h => (nomatch h)⟩, fun _ h _ => h, fun _ h _ => h⟩

theorem Others.trans {i : ι} {w w' w'' : RuntimeWorld ι} (h : Others i w w')
    (h' : Others i w' w'') : Others i w w'' where
  log := by
    obtain ⟨more, hlog, hmore⟩ := h.log
    obtain ⟨more', hlog', hmore'⟩ := h'.log
    refine ⟨more ++ more', by rw [hlog', hlog, List.append_assoc], fun record hrecord => ?_⟩
    rcases List.mem_append.mp hrecord with hold | hnew
    · exact hmore record hold
    · exact hmore' record hnew
  waits ticket hmem howner := h'.waits ticket (h.waits ticket hmem howner) howner
  first ticket hfirst howner := h'.first ticket (h.first ticket hfirst howner) howner

def protocol : Protocol (RuntimeWorld ι) Outside ι (RuntimeAction ι) where
  inv := Inv
  rely := Others
  fits := InTurn
  refl := Others.refl
  trans _ _ _ _ := Others.trans

/-! ### A request on its way -/

/-- The request was submitted, and is in the line. -/
structure Waits (i : ι) (entry : QueuedRequest ι) (w : RuntimeWorld ι) : Prop where
  mem : entry.2 ∈ w.line.queue
  owner : entry.2.owner = i
  key : entry.2.key = scopeKey entry.1.request
  submitted : ∃ before since, w.log = before ++ .submitted i entry.1 :: since ∧
    ∀ record ∈ since, ¬ IsSubmissionOf i record

/-- It is its turn. -/
structure Served (i : ι) (entry : QueuedRequest ι) (w : RuntimeWorld ι) : Prop where
  first : w.line.queue.head? = some entry.2
  owner : entry.2.owner = i
  key : entry.2.key = scopeKey entry.1.request
  submitted : ∃ before between after,
    w.log = before ++ .submitted i entry.1 :: (between ++ .began i :: after) ∧
    ∀ record ∈ between ++ .began i :: after, ¬ IsSubmissionOf i record

variable {i : ι} {entry : QueuedRequest ι} {w w' : RuntimeWorld ι}

theorem Waits.stable (h : Waits i entry w) (hothers : Others i w w') : Waits i entry w' where
  mem := hothers.waits _ h.mem h.owner
  owner := h.owner
  key := h.key
  submitted := by
    obtain ⟨before, since, hlog, hsince⟩ := h.submitted
    obtain ⟨more, hmore, hnone⟩ := hothers.log
    refine ⟨before, since ++ more, by rw [hmore, hlog]; simp, fun record hrecord => ?_⟩
    rcases List.mem_append.mp hrecord with hold | hnew
    · exact hsince record hold
    · exact hnone record hnew

theorem Served.stable (h : Served i entry w) (hothers : Others i w w') : Served i entry w' where
  first := hothers.first _ h.first h.owner
  owner := h.owner
  key := h.key
  submitted := by
    obtain ⟨before, between, after, hlog, hsince⟩ := h.submitted
    obtain ⟨more, hmore, hnone⟩ := hothers.log
    refine ⟨before, between, after ++ more, by rw [hmore, hlog]; simp, fun record hrecord => ?_⟩
    rw [← List.cons_append, ← List.append_assoc] at hrecord
    rcases List.mem_append.mp hrecord with hold | hnew
    · exact hsince record hold
    · exact hnone record hnew

theorem Served.mem (h : Served i entry w) : entry.2 ∈ w.line.queue :=
  List.mem_of_mem_head? h.first

theorem isSubmissionOf_of_submissionTo {scope : String} (h : submissionTo scope record = some i) :
    IsSubmissionOf i record := by
  cases record with
  | submitted call binding =>
    unfold submissionTo at h
    dsimp only at h
    split_ifs at h
    exact Option.some.inj h
  | _ => exact nomatch h

/-- If the last submission to its scope is its own, nothing was submitted there since. -/
theorem newest_self {log before since : List (Record ι)} {binding : Binding}
    (hlog : log = before ++ .submitted i binding :: since)
    (hsince : ∀ record ∈ since, ¬ IsSubmissionOf i record)
    (hnewest : newestSubmission log (scopeKey binding.request) = some i) :
    ∀ record ∈ since, submissionTo (scopeKey binding.request) record = none := by
  have hown : submissionTo (scopeKey binding.request) (.submitted i binding) = some i := if_pos rfl
  rw [newestSubmission, hlog, List.filterMap_append, List.filterMap_cons_some hown] at hnewest
  rcases List.eq_nil_or_concat' (since.filterMap (submissionTo (scopeKey binding.request))) with
    hnil | ⟨rest, last, hconcat⟩
  · exact List.filterMap_eq_nil_iff.mp hnil
  · rw [hconcat, ← List.cons_append, ← List.append_assoc, List.getLast?_concat] at hnewest
    have hmem : last ∈ since.filterMap (submissionTo (scopeKey binding.request)) := by
      rw [hconcat]
      exact List.mem_append_right _ List.mem_cons_self
    obtain ⟨record, hrecord, hlast⟩ := List.mem_filterMap.mp hmem
    rw [Option.some.inj hnewest] at hlast
    exact absurd (isSubmissionOf_of_submissionTo hlast) (hsince record hrecord)

variable {texts : Texts} {Result : Type} {post : Result → RuntimeWorld ι → Prop}

/-- A note of something other than a submission. -/
theorem Inv.note (h : Inv w) (hrecord : Justified w.log record)
    (hnone : ∀ scope, submissionTo scope record = none) : Inv (w.note record) where
  justified := h.justified.snoc hrecord
  line := h.line
  newest scope ticket hticket := by
    show newestSubmission (w.log ++ [record]) scope = _
    rw [newestSubmission, List.filterMap_append, List.filterMap_cons_none (hnone scope)]
    rw [List.filterMap_nil, List.append_nil]
    exact h.newest scope ticket hticket

theorem Others.note {j : ι} (h : Others j w w') (hrecord : ¬ IsSubmissionOf j record) :
    Others j w (w'.note record) where
  log := by
    obtain ⟨more, hlog, hmore⟩ := h.log
    refine ⟨more ++ [record], by rw [← List.append_assoc, ← hlog]; rfl, fun other hother => ?_⟩
    rcases List.mem_append.mp hother with hold | hnew
    · exact hmore other hold
    · rw [List.mem_singleton.mp hnew]
      exact hrecord
  waits := h.waits
  first := h.first

/-- With its number the current one, nothing was submitted to the scope of a request since. -/
theorem Inv.newest_of_current (h : Inv w) (hmem : entry.2 ∈ w.line.queue)
    (howner : entry.2.owner = i) (hkey : entry.2.key = scopeKey entry.1.request)
    (hcurrent : w.line.IsCurrent entry.2) :
    newestSubmission w.log (scopeKey entry.1.request) = some i := by
  have hnewest := h.newest _ _ (h.line.newest_of_current hmem hcurrent)
  rw [hkey, howner] at hnewest
  exact hnewest

/-- The store and the open capsule are nothing that the log or the line tells. -/
theorem Inv.aside (h : Inv w) (store : StoreWorld ι) (capsule : Option String) :
    Inv { w with store := store, capsule := capsule } := ⟨h.justified, h.line, h.newest⟩

theorem Others.aside {j : ι} (w : RuntimeWorld ι) (store : StoreWorld ι) (capsule : Option String) :
    Others j w { w with store := store, capsule := capsule } :=
  ⟨⟨[], (List.append_nil _).symm, fun _ h => (nomatch h)⟩, fun _ h _ => h, fun _ h _ => h⟩

/-- A step that leaves everything as it is. -/
theorem unchanged (hinv : Inv w) {holds : Prop} (h : holds) :
    Inv w ∧ (∀ j, j ≠ i → Others j w w) ∧ holds := ⟨hinv, fun j _ => .refl j w, h⟩

/-- A step that notes something of its own call. -/
theorem noted (hinv : Inv w) (hrecord : Justified w.log record)
    (hnone : ∀ scope, submissionTo scope record = none) (hown : ∀ j, ¬ IsSubmissionOf j record)
    {holds : Prop} (h : holds) :
    Inv (w.note record) ∧ (∀ j, j ≠ i → Others j w (w.note record)) ∧ holds :=
  ⟨hinv.note hrecord hnone, fun j _ => (Others.refl j w).note (hown j), h⟩

/-- What is asked is justified by what is looked at just before. -/
theorem Served.asked (h : Served i entry w) (hinv : Inv w) (hmay : MayDispatch w entry)
    {granted : List (Record ι)} (hgranted : ∀ record ∈ granted, record = .authorized i)
    (hasked : entry.1.asksOwner = true → .authorized i ∈ granted) :
    Justified (w.log ++ granted) (.asked i (question entry.1 entry.1.provider) w.view) := by
  have hnewest := hinv.newest_of_current h.mem h.owner h.key hmay.current
  obtain ⟨before, between, after, hlog, hsince⟩ := h.submitted
  have hnone := newest_self hlog hsince hnewest
  refine ⟨entry.1, before, between, after ++ granted, ?_, rfl, ?_, ?_, hmay.capsule,
    hmay.connection⟩
  · rw [hlog]
    simp
  · exact fun hasks => List.mem_append_right _ (hasked hasks)
  · intro record hrecord
    rw [← List.cons_append, ← List.append_assoc] at hrecord
    rcases List.mem_append.mp hrecord with hold | hnew
    · exact hnone record hold
    · rw [hgranted record hnew]
      rfl

/-- The world once the owner has agreed, where he is asked. -/
def RuntimeWorld.granted (world : RuntimeWorld ι) (i : ι) (binding : Binding) : RuntimeWorld ι :=
  if binding.asksOwner then world.note (.authorized i) else world

theorem granted_log (w : RuntimeWorld ι) (i : ι) (binding : Binding) :
    ∃ granted, (w.granted i binding).log = w.log ++ granted ∧
      (∀ record ∈ granted, record = .authorized i) ∧
      (binding.asksOwner = true → .authorized i ∈ granted) := by
  unfold RuntimeWorld.granted
  split_ifs with hasks
  · exact ⟨[.authorized i], rfl, fun _ h => List.mem_singleton.mp h, fun _ => List.mem_cons_self⟩
  · exact ⟨[], (List.append_nil _).symm, fun _ h => (nomatch h), fun h => absurd h hasks⟩

theorem granted_spec (hinv : Inv w) (i : ι) (binding : Binding) :
    Inv (w.granted i binding) ∧ ∀ j, Others j w (w.granted i binding) := by
  unfold RuntimeWorld.granted
  split_ifs
  · exact ⟨hinv.note trivial fun _ => rfl, fun j => (Others.refl j w).note id⟩
  · exact ⟨hinv, fun j => .refl j w⟩

variable [DecidableEq ι]

/-- A call of the store goes on as anything that holds wherever it may be. -/
theorem storeCall_holds {α : Type} {process : StoreProcess α} {next : α → RuntimeProcess ι Result}
    (hnext : ∀ result w', Holds protocol (runtimeEffect texts) i post (next result) w') :
    Holds protocol (runtimeEffect texts) i post (storeCall process >>= next) w := by
  induction process generalizing w with
  | done result => exact hnext result w
  | act action rest ih =>
    intro w' _ hinv outside _
    exact ⟨hinv.aside _ _, fun j _ => Others.aside w' _ _, ih _⟩

theorem finish_holds {next : Unit → RuntimeProcess ι Result} (h : Served i entry w)
    (hnext : ∀ w', Holds protocol (runtimeEffect texts) i post (next ()) w') :
    Holds protocol (runtimeEffect texts) i post (act (.finish entry) >>= next) w := by
  intro w' hothers hinv outside _
  have hserved := h.stable hothers
  refine ⟨⟨hinv.justified, hinv.line.leave hserved.first, fun scope ticket hticket => ?_⟩,
    fun j hj => ⟨⟨[], (List.append_nil _).symm, fun _ h => (nomatch h)⟩,
      fun ticket hmem howner => ?_, fun ticket hfirst howner => ?_⟩, hnext _⟩
  · exact hinv.newest scope ticket (newest_of_leave hticket)
  · -- what another one has in the line is not the first
    have hne : ticket ≠ entry.2 := by
      rintro rfl
      exact hj (howner.symm.trans hserved.owner)
    show ticket ∈ w'.line.queue.tail
    cases hqueue : w'.line.queue with
    | nil =>
      rw [hqueue] at hmem
      exact nomatch hmem
    | cons first rest =>
      have hfirst := hserved.first
      rw [hqueue] at hmem hfirst
      obtain rfl : first = entry.2 := Option.some.inj hfirst
      exact (List.mem_cons.mp hmem).resolve_left hne
  · rw [hserved.first] at hfirst
    rw [← Option.some.inj hfirst] at howner
    exact absurd (howner.symm.trans hserved.owner) hj

theorem begin_holds {next : Option InferenceConnection → RuntimeProcess ι Result}
    (h : Waits i entry w) (hnext : ∀ adapter w', Served i entry w' →
      Holds protocol (runtimeEffect texts) i post (next adapter) w') :
    Holds protocol (runtimeEffect texts) i post (act (.begin entry) >>= next) w := by
  intro w' hothers hinv outside hturn
  have hwaits := h.stable hothers
  have hfirst : w'.line.queue.head? = some entry.2 := hturn
  obtain ⟨before, since, hlog, hsince⟩ := hwaits.submitted
  have hbegan : Justified w'.log (.began i) := trivial
  refine noted hinv hbegan (fun _ => rfl) (fun _ => id) (hnext _ _ ⟨hfirst, hwaits.owner,
    hwaits.key, before, since, [], ?_, fun record hrecord => ?_⟩)
  · show w'.log ++ [.began i] = _
    rw [hlog, List.append_assoc, List.cons_append]
  · rcases List.mem_append.mp hrecord with hold | hnew
    · exact hsince record hold
    · rw [List.mem_singleton.mp hnew]
      exact id

theorem dispatch_holds {next : Bool → RuntimeProcess ι Result} (h : Served i entry w)
    (hnext : ∀ asked w', Served i entry w' →
      Holds protocol (runtimeEffect texts) i post (next asked) w') :
    Holds protocol (runtimeEffect texts) i post
      (act (.dispatch entry entry.1.provider) >>= next) w := by
  intro w' hothers hinv outside _
  have hserved := h.stable hothers
  by_cases hrefused : (entry.1.asksOwner && !outside.authorizes) = true
  · have heffect : runtimeEffect texts i (.dispatch entry entry.1.provider) outside w' =
        (false, w') := if_pos hrefused
    rw [heffect]
    exact unchanged hinv (hnext _ _ hserved)
  · obtain ⟨hgranted, hthrough⟩ := granted_spec hinv i entry.1
    have hstill := hserved.stable (hthrough i)
    by_cases hmay : MayDispatch w' entry
    · have heffect : runtimeEffect texts i (.dispatch entry entry.1.provider) outside w' =
          (true, (w'.granted i entry.1).note
            (.asked i (question entry.1 entry.1.provider) w'.view)) := by
        unfold runtimeEffect
        dsimp only
        rw [if_neg hrefused, if_pos hmay]
        rfl
      rw [heffect]
      obtain ⟨granted, hlog, hall, hasked⟩ := granted_log w' i entry.1
      have hjustified := hserved.asked hinv hmay hall hasked
      rw [← hlog] at hjustified
      exact ⟨hgranted.note hjustified fun _ => rfl, fun j _ => (hthrough j).note id,
        hnext _ _ (hstill.stable ((Others.refl i _).note id))⟩
    · have heffect : runtimeEffect texts i (.dispatch entry entry.1.provider) outside w' =
          (false, w'.granted i entry.1) := by
        unfold runtimeEffect
        dsimp only
        rw [if_neg hrefused, if_neg hmay]
        rfl
      rw [heffect]
      exact ⟨hgranted, fun j _ => hthrough j, hnext _ _ hstill⟩

theorem receive_holds {next : Option InferenceResult → RuntimeProcess ι Result}
    (h : Served i entry w) (hnext : ∀ result w', Served i entry w' →
      Holds protocol (runtimeEffect texts) i post (next result) w') :
    Holds protocol (runtimeEffect texts) i post (act (.receive entry) >>= next) w := by
  intro w' hothers hinv outside _
  have hserved := h.stable hothers
  unfold runtimeEffect
  dsimp only
  cases outside.response with
  | none => exact unchanged hinv (hnext _ _ hserved)
  | some response =>
    dsimp only
    by_cases hwanted : w'.line.IsCurrent entry.2 ∧
        w'.view.activeCapsuleRootHex = some entry.1.request.capsuleRootHex
    · rw [if_pos hwanted]
      cases resultOf texts entry.1 response with
      | none => exact unchanged hinv (hnext _ _ hserved)
      | some result =>
        have hnewest := hinv.newest_of_current hserved.mem hserved.owner hserved.key hwanted.1
        obtain ⟨before, between, after, hlog, hsince⟩ := hserved.submitted
        have hreturned : Justified w'.log (.returned i w'.view) :=
          ⟨entry.1, before, _, hlog, newest_self hlog hsince hnewest, hwanted.2⟩
        exact noted hinv hreturned (fun _ => rfl) (fun _ => id)
          (hnext _ _ (hserved.stable ((Others.refl i w').note id)))
    · rw [if_neg hwanted]
      exact unchanged hinv (hnext _ _ hserved)

theorem execute_holds (h : Waits i entry w) :
    Holds protocol (runtimeEffect texts) i (fun _ => Served i entry) (executeRequest entry) w := by
  have hover : ∀ {result : Outcome InferenceResult} {w' : RuntimeWorld ι}, Served i entry w' →
      Holds protocol (runtimeEffect texts) i (fun _ => Served i entry) (pure result) w' :=
    fun hserved w' hothers _ => hserved.stable hothers
  unfold executeRequest
  refine begin_holds h fun adapter w₁ h₁ => ?_
  cases adapter with
  | none => exact hover h₁
  | some adapter =>
    refine Holds.ite (fun _ => hover h₁) fun hadapter => ?_
    obtain rfl : adapter = entry.1.provider := not_not.mp hadapter
    refine dispatch_holds h₁ fun asked w₂ h₂ => ?_
    refine Holds.ite (fun _ => ?_) fun _ => hover h₂
    refine receive_holds h₂ fun result w₃ h₃ => ?_
    cases result with
    | none => exact hover h₃
    | some result => exact hover h₃

variable {request : InferenceRequest}

/-- A request goes into the line with the next number of its scope. -/
theorem submit_holds {asksOwner : Bool} {next : Option (QueuedRequest ι) → RuntimeProcess ι Result}
    (hrefused : ∀ w', Holds protocol (runtimeEffect texts) i post (next none) w')
    (hnext : ∀ entry w', Waits i entry w' →
      Holds protocol (runtimeEffect texts) i post (next (some entry)) w') :
    Holds protocol (runtimeEffect texts) i post (act (.submit request asksOwner) >>= next) w := by
  intro w' _ hinv outside _
  unfold runtimeEffect
  dsimp only
  cases bindRequest texts w'.view request asksOwner with
  | none => exact unchanged hinv (hrefused _)
  | some binding =>
    refine ⟨⟨hinv.justified.snoc trivial, hinv.line.enter _ _, fun scope ticket hticket => ?_⟩,
      fun j hj => ⟨⟨[.submitted i binding], rfl, fun record hrecord => ?_⟩,
        fun ticket hmem _ => List.mem_append_left _ hmem, fun ticket hfirst _ => ?_⟩,
      hnext _ _ ⟨List.mem_append_right _ List.mem_cons_self, rfl, rfl, w'.log, [], rfl,
        fun _ h => nomatch h⟩⟩
    · -- the newest one of a scope is its last submission
      show newestSubmission (w'.log ++ [.submitted i binding]) scope = _
      have hticket : newest (w'.line.enter (scopeKey binding.request) i).queue scope =
        some ticket := hticket
      rw [newest_enter] at hticket
      unfold newestSubmission
      rw [List.filterMap_append]
      by_cases hscope : scopeKey binding.request = scope
      · have hto : submissionTo scope (.submitted i binding) = some i := if_pos hscope
        rw [if_pos hscope] at hticket
        rw [List.filterMap_cons_some hto, List.filterMap_nil, List.getLast?_concat,
          ← Option.some.inj hticket]
        rfl
      · have hto : submissionTo scope (.submitted i binding) = none := if_neg hscope
        rw [if_neg hscope] at hticket
        rw [List.filterMap_cons_none hto, List.filterMap_nil, List.append_nil]
        exact hinv.newest scope ticket hticket
    · rw [List.mem_singleton.mp hrecord]
      exact Ne.symm hj
    · show (w'.line.queue ++ [_]).head? = some ticket
      rw [List.head?_append, hfirst, Option.some_or]

theorem enqueue_holds {asksOwner : Bool} (w : RuntimeWorld ι) :
    Holds protocol (runtimeEffect texts) i (fun _ _ => True) (enqueue request asksOwner) w := by
  unfold enqueue
  refine submit_holds (fun w₁ => fun _ _ _ => trivial) fun entry w₁ h₁ => ?_
  refine Holds.bind ((execute_holds h₁).mono fun result w₂ _ h₂ => ?_)
  exact finish_holds h₂ fun w₃ => fun _ _ _ => trivial

theorem look_holds {next : View → RuntimeProcess ι Result}
    (hnext : ∀ view w', Holds protocol (runtimeEffect texts) i post (next view) w') :
    Holds protocol (runtimeEffect texts) i post (act .look >>= next) w :=
  fun _ _ hinv _ _ => unchanged hinv (hnext _ _)

private theorem unlocked_holds (result : Outcome Unit) (w : RuntimeWorld ι) :
    Holds protocol (runtimeEffect texts) i (fun _ _ => True)
      (match result with
        | .error _ => pure (.error ())
        | .ok _ => enqueue request true) w := by
  cases result with
  | error => exact fun _ _ _ => trivial
  | ok => exact enqueue_holds w

theorem inferAuthorized_holds {addresses : Addresses} (w : RuntimeWorld ι) :
    Holds protocol (runtimeEffect texts) i (fun _ _ => True)
      (inferAuthorized texts addresses request) w := by
  have herror : ∀ w' : RuntimeWorld ι, Holds protocol (runtimeEffect texts) i (fun _ _ => True)
      (pure (.error ()) : RuntimeProcess ι (Outcome InferenceResult)) w' :=
    fun _ _ _ _ => trivial
  unfold inferAuthorized
  refine look_holds fun view w₁ => ?_
  refine Holds.ite (fun _ => enqueue_holds w₁) fun _ => ?_
  refine Holds.ite (fun _ => ?_) fun _ => herror w₁
  unfold unlockProvider
  cases request.providerPolicy with
  | preferred => exact storeCall_holds unlocked_holds
  | explicit =>
    dsimp only
    cases requireProvider view.preferences.connections (request.providerId.getD "") with
    | none => exact herror w₁
    | some provider => exact storeCall_holds unlocked_holds

/-- **What is proved for each call.** -/
theorem call_holds {addresses : Addresses} (call : RuntimeCall) (w : RuntimeWorld ι) :
    Holds protocol (runtimeEffect texts) i (fun _ _ => True) (call.process texts addresses) w := by
  have hdone : ∀ (result : Outcome (Option InferenceResult)) (w' : RuntimeWorld ι),
      Holds protocol (runtimeEffect texts) i (fun _ _ => True) (pure result) w' :=
    fun _ _ _ _ _ => trivial
  cases call with
  | infer request => exact Holds.bind ((enqueue_holds w).mono fun result w₁ _ _ => hdone _ w₁)
  | inferAuthorized request =>
    exact Holds.bind ((inferAuthorized_holds w).mono fun result w₁ _ _ => hdone _ w₁)
  | setCapsule capsule =>
    exact fun w' _ hinv outside _ =>
      ⟨hinv.aside _ _, fun j _ => Others.aside w' _ _, hdone _ _⟩
  | store call => exact storeCall_holds fun result w' => hdone _ w'

/-- **Inference is dispatched under current authority.**  In every run every question and every
    result is justified by what came before it. -/
theorem dispatched_under_authority {addresses : Addresses} (store : StoreWorld ι)
    (capsule : Option String) (calls : ι → RuntimeCall) {events : List (Processes.Event Outside ι)}
    (hrun : Along (step (runtimeEffect texts)) (Meets InTurn)
      (RuntimeState.start texts addresses store capsule calls) events) :
    JustifiedLog (replay (step (runtimeEffect texts))
      (RuntimeState.start texts addresses store capsule calls) events).world.log := by
  have hstart : Sound protocol (runtimeEffect texts) (fun _ _ _ => True)
      (RuntimeState.start texts addresses store capsule calls) :=
    ⟨⟨.nil, .empty, fun _ _ h => (nomatch h)⟩, fun i => call_holds (calls i) _⟩
  exact (holds_run hstart hrun).inv.justified

/-! ### A request -/

/-- The texts of one request, and their hashes. -/
def exampleTexts : Texts where
  sha256Hex text :=
    if text = "\x7b\x7d" then "44136fa355b3678a1146ad16f7e8649e94fb4fc21fe77e8310c060f61caaff8a"
    else if text = "A summary" then
      "ef776f4654db75c06f4c94dcb5f0be295711ce0af3d070345d8897f527a2c161"
    else "044ec554a9cd9d0575ad0ec06e77a79445a427846e9a6e1839ed30eb14cb0c72"
  canonicalJson text := if text = "\x7b\x7d" then some text else none
  identityJson _ := "identity"

def exampleCapsule : String := String.ofList (List.replicate 64 'a')

def exampleRequest : InferenceRequest where
  requestId := "044ec554a9cd9d0575ad0ec06e77a79445a427846e9a6e1839ed30eb14cb0c72"
  capsuleRootHex := exampleCapsule
  capabilityId := "analyst"
  disclosureSchemaVersion := 1
  disclosureHashHex := "44136fa355b3678a1146ad16f7e8649e94fb4fc21fe77e8310c060f61caaff8a"
  disclosedSectionIds := ["summary"]
  disclosureByteCount := 2
  proposalSchemaId := "proposal"
  proposalSchemaVersion := 1
  providerPolicy := .explicit
  providerId := some "local_openai_compatible"
  modelPolicy := .explicit
  model := some "llama3.1:8b"
  maxInputBytes := maxSupportedInputBytes
  maxOutputBytes := maxSupportedOutputBytes
  timeoutMilliseconds := 60000
  maxConcurrentRequests := 1
  cancellationScope := "chat"
  instructions := "Summarize"
  inputJson := "\x7b\x7d"

/-- The local connection is open. -/
def exampleStore : StoreWorld Unit where
  session :=
    { apiKeys := fun _ => none
      baseUrls := fun _ => some "http://localhost:11434/v1"
      preferredProvider := some localOpenAiCompatible }
  preferences := ⟨[], [], none, true⟩
  file := none
  secrets := fun _ => none
  waiting := []
  running := none

def exampleOutside : Outside where
  works := true
  authorizes := true
  adapter := localOpenAiCompatible
  response := some ⟨"A summary", "llama3.1:8b", localOpenAiCompatible⟩

def exampleEvents : List (Processes.Event Outside Unit) := List.replicate 6 ⟨(), exampleOutside⟩

/-- A request that is asked, and answered. -/
theorem request_answered :
    let state := replay (step (runtimeEffect exampleTexts))
      (RuntimeState.start exampleTexts exampleAddresses exampleStore (some exampleCapsule)
        fun _ => .inferAuthorized exampleRequest) exampleEvents
    JustifiedLog state.world.log ∧ state.world.log.length = 5 := by
  have hrun : Along (step (runtimeEffect exampleTexts)) (Meets InTurn)
      (RuntimeState.start exampleTexts exampleAddresses exampleStore (some exampleCapsule)
        fun _ => .inferAuthorized exampleRequest) exampleEvents := by decide +kernel
  have hlength : (replay (step (runtimeEffect exampleTexts))
      (RuntimeState.start exampleTexts exampleAddresses exampleStore (some exampleCapsule)
        fun _ => .inferAuthorized exampleRequest) exampleEvents).world.log.length = 5 := by
    decide +kernel
  exact And.intro (dispatched_under_authority _ _ _ hrun) hlength

end AiRuntime

end Hivra
