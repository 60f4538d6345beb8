import OranE2.Termination.Session

/-!
# Registration before use

The simulation starts the loop before it registers its functions, so nothing
in its program keeps a request from arriving early.  Which callback runs when is
up to the simulator.  If it runs one only where it was registered, the function
was described to it before, whatever a loop sends.
-/

namespace OranE2
namespace Termination

open Asn1c
open Library
open PartialRun
open Interleaving
open Subscription

/-- What is relied on: a subscription callback runs in a loop that was entered,
and for a function that it was registered for. -/
structure RunsRegistered (e2Term : E2Termination) (dispatch : Dispatch) :
    Prop where
  entered : forall s k id request report,
    dispatch s (.receiveSubscription k id request report) = true ->
      (.reception k, e2Term.loopCall) ∈ s.log
  registered : forall s k id request report,
    dispatch s (.receiveSubscription k id request report) = true ->
      (.simulation, .registerSubscriptionCallback id) ∈ s.log

section

variable {e2Term : E2Termination} {dispatch : Dispatch}

/-- What a loop sends answers a request to a function whose callback was
registered, and the loop was entered. -/
def Served (e2Term : E2Termination) (events : List SessionEvent) :
    Thread -> E2SimCall -> List (Thread × E2SimCall) -> Prop
  | .reception k, .encodeAndSendSctpData pdu, log =>
      exists id request report,
        .receiveSubscription k id request report ∈ events ∧
          pdu ∈ Delivery.answers { request := request, report := report } ∧
          (.reception k, e2Term.loopCall) ∈ log ∧
          (.simulation, .registerSubscriptionCallback id) ∈ log
  | _, _, _ => True

theorem Served.imp {events events' : List SessionEvent} {t : Thread}
    {c : E2SimCall} {log log' : List (Thread × E2SimCall)}
    (hevents : forall e, e ∈ events -> e ∈ events')
    (hlog : forall entry, entry ∈ log -> entry ∈ log')
    (h : Served e2Term events t c log) : Served e2Term events' t c log' := by
  cases t with
  | simulation => trivial
  | reception k =>
      cases c with
      | encodeAndSendSctpData pdu =>
          rcases h with ⟨id, request, report, he, hpdu, hloop, hcallback⟩
          exact ⟨id, request, report, hevents _ he, hpdu, hlog _ hloop,
            hlog _ hcallback⟩
      | registerE2sm id rfdBuf => trivial
      | registerSubscriptionCallback id => trivial
      | registerSmCallback id => trivial
      | runLoop ricAddress ricPort clientPort gnbId plmnId => trivial

theorem served_of_accept (hdispatch : RunsRegistered e2Term dispatch)
    {events : List SessionEvent} {s : Session} {e : SessionEvent} {t : Thread}
    {block : List E2SimCall} (hadmits : dispatch s e = true)
    (hevent : e2Term.threadEvent e = .accept t block) :
    forall c, c ∈ block -> Served e2Term (events ++ [e]) t c s.log := by
  intro c hc
  cases e with
  | receiveSubscription k id request report =>
      cases hevent
      have hloop := hdispatch.entered s k id request report hadmits
      have hcallback := hdispatch.registered s k id request report hadmits
      rcases List.mem_map.mp (show c ∈ (Delivery.answers
        { request := request, report := report }).map
          E2SimCall.encodeAndSendSctpData from hc) with ⟨pdu, hpdu, rfl⟩
      exact ⟨id, request, report,
        List.mem_append_right events List.mem_cons_self, hpdu, hloop,
        hcallback⟩
  | start k =>
      cases hevent
      rw [List.mem_singleton.mp hc]
      trivial
  | receiveControl k id =>
      cases hevent
      cases hc
  | registerKpmCallback id description =>
      cases hevent
      trivial
  | registerSmCallback id description =>
      cases hevent
      trivial
  | sendE2Message pdu =>
      cases hevent
      trivial
  | issue t' => cases hevent

variable {events : List SessionEvent} {s : Session}

theorem served_of_session (hdispatch : RunsRegistered e2Term dispatch)
    (h : e2Term.session dispatch events = some s) :
    Justified (Served e2Term events) s := by
  refine justified_of_run (P := Served e2Term) ?_ ?_ ?_ h
  · intro events e t c log hserved
    exact hserved.imp (fun _ he => List.mem_append_left [e] he)
      fun _ hentry => hentry
  · intro events t c log entry hserved
    exact hserved.imp (fun _ he => he)
      fun _ hentry => List.mem_append_left [entry] hentry
  · intro events s e t block hadmits hevent
    exact served_of_accept hdispatch hadmits.right hevent

theorem event_of_loopCall {k : Nat} {e : SessionEvent} {block : List E2SimCall}
    (hblock : (e2Term.threadEvent e).block? (.reception k) = some block)
    (hmem : e2Term.loopCall ∈ block) : e = .start k := by
  have hown : forall {t : Thread} {calls : List E2SimCall},
      (if t = .reception k then some calls else none) = some block ->
        t = .reception k ∧ calls = block := by
    intro t calls h
    split at h
    · rename_i ht
      exact ⟨ht, Option.some.inj h⟩
    · cases h
  cases e with
  | start k' =>
      cases (hown hblock).left
      rfl
  | receiveSubscription k' id request report =>
      rw [← (hown hblock).right] at hmem
      rcases List.mem_cons.mp hmem with hfirst | hrest
      · cases hfirst
      · cases List.mem_singleton.mp hrest
  | receiveControl k' id =>
      rw [← (hown hblock).right] at hmem
      cases hmem
  | registerKpmCallback id description => cases hblock
  | registerSmCallback id description => cases hblock
  | sendE2Message pdu => cases hblock
  | issue t => cases hblock

theorem started_of_loopCall (h : e2Term.session dispatch events = some s)
    {k : Nat} (hloop : (.reception k, e2Term.loopCall) ∈ s.log) :
    .start k ∈ events ∧ e2Term.ricAddress ≠ "" := by
  rcases List.append_of_mem hloop with ⟨pre, post, hlog⟩
  rcases exists_block_of_log (run_of_guarded h) hlog with
    ⟨done, front, back, later, hblocks, _⟩
  have hmem : front ++ e2Term.loopCall :: back ∈
      blocksOf (.reception k) (events.map e2Term.threadEvent) := by
    rw [hblocks]
    exact List.mem_append_right _ List.mem_cons_self
  rcases List.mem_filterMap.mp hmem with ⟨e', he', hblock⟩
  rcases List.mem_map.mp he' with ⟨e, he, rfl⟩
  have hstart := event_of_loopCall hblock
    (List.mem_append_right front List.mem_cons_self)
  rw [hstart] at he
  rcases guard_of_mem h he with ⟨mid, hadmits, _⟩
  exact ⟨he, hadmits.left⟩

theorem block_of_callback {e : SessionEvent} {front back : List E2SimCall}
    {id : Int}
    (h : (e2Term.threadEvent e).block? .simulation =
      some (front ++ .registerSubscriptionCallback id :: back)) :
    exists description : FunctionDescription,
      e = .registerKpmCallback id description ∧
        front = [.registerE2sm id (.ofBytes description.buffer)] := by
  cases e with
  | registerKpmCallback id' description =>
      have hblock : registerKpmCallbackToE2Sm id' description =
          front ++ .registerSubscriptionCallback id :: back :=
        Option.some.inj h
      rcases front with _ | ⟨first, _ | ⟨second, others⟩⟩
      · injection hblock with hfirst _
        cases hfirst
      · injection hblock with hfirst hrest
        injection hrest with hsecond _
        cases hsecond
        exact ⟨description, rfl, by rw [← hfirst]⟩
      · injection hblock with _ hrest
        injection hrest with _ hothers
        cases others <;> cases hothers
  | registerSmCallback id' description =>
      have hblock : registerSmCallbackToE2Sm id' description =
          front ++ .registerSubscriptionCallback id :: back :=
        Option.some.inj h
      have hmem : .registerSubscriptionCallback id ∈
          registerSmCallbackToE2Sm id' description := by
        rw [hblock]
        exact List.mem_append_right _ List.mem_cons_self
      rcases List.mem_cons.mp hmem with hfirst | hsecond
      · cases hfirst
      · cases List.mem_singleton.mp hsecond
  | sendE2Message pdu =>
      have hblock : sendE2Message pdu =
          front ++ .registerSubscriptionCallback id :: back :=
        Option.some.inj h
      have hmem : .registerSubscriptionCallback id ∈ sendE2Message pdu := by
        rw [hblock]
        exact List.mem_append_right _ List.mem_cons_self
      cases List.mem_singleton.mp hmem
  | start k => cases h
  | receiveSubscription k id' request report => cases h
  | receiveControl k id' => cases h
  | issue t => cases h

theorem description_before_callback
    (h : e2Term.session dispatch events = some s)
    {id : Int} {pre post : List (Thread × E2SimCall)}
    (hlog : s.log =
      pre ++ (.simulation, .registerSubscriptionCallback id) :: post) :
    exists description : FunctionDescription,
      .registerKpmCallback id description ∈ events ∧
        (.simulation, .registerE2sm id (.ofBytes description.buffer)) ∈
          pre := by
  rcases exists_block_of_log (run_of_guarded h) hlog with
    ⟨done, front, back, later, hblocks, hpre⟩
  have hmem : front ++ .registerSubscriptionCallback id :: back ∈
      blocksOf .simulation (events.map e2Term.threadEvent) := by
    rw [hblocks]
    exact List.mem_append_right _ List.mem_cons_self
  rcases List.mem_filterMap.mp hmem with ⟨e', he', hblock⟩
  rcases List.mem_map.mp he' with ⟨e, he, rfl⟩
  rcases block_of_callback hblock with ⟨description, rfl, hfront⟩
  refine ⟨description, he, mem_callsOf.mp ?_⟩
  rw [hpre, hfront]
  exact List.mem_append_right _ List.mem_cons_self

/-- Before a loop that was started sends anything, the simulation described the
function that the answered request is for and then registered the callback for
it. -/
theorem registered_before_answer (hdispatch : RunsRegistered e2Term dispatch)
    (h : e2Term.session dispatch events = some s)
    {k : Nat} {pdu : E2apPdu} {pre post : List (Thread × E2SimCall)}
    (hlog : s.log =
      pre ++ (.reception k, .encodeAndSendSctpData pdu) :: post) :
    (.start k ∈ events ∧ e2Term.ricAddress ≠ "") ∧
      exists id request report, exists description : FunctionDescription,
        .receiveSubscription k id request report ∈ events ∧
          pdu ∈ Delivery.answers { request := request, report := report } ∧
          .registerKpmCallback id description ∈ events ∧
          List.Sublist
            [(.simulation, .registerE2sm id (.ofBytes description.buffer)),
              (.simulation, .registerSubscriptionCallback id)] pre := by
  have hserved := (served_of_session hdispatch h).issued pre (.reception k)
    (.encodeAndSendSctpData pdu) post hlog
  rcases hserved with ⟨id, request, report, he, hpdu, hloop, hcallback⟩
  have hentered : (.reception k, e2Term.loopCall) ∈ s.log := by
    rw [hlog]
    exact List.mem_append_left _ hloop
  refine ⟨started_of_loopCall h hentered, ?_⟩
  rcases List.append_of_mem hcallback with ⟨early, late, hsplit⟩
  rw [hsplit, List.append_assoc, List.cons_append] at hlog
  rcases description_before_callback h hlog with
    ⟨description, hregister, hdescribed⟩
  refine ⟨id, request, report, description, he, hpdu, hregister, ?_⟩
  rw [hsplit]
  exact (List.singleton_sublist.mpr hdescribed).append
    (List.singleton_sublist.mpr List.mem_cons_self)

end

theorem exampleDispatch_runsRegistered :
    RunsRegistered exampleTermination exampleDispatch where
  entered := by
    intro s k id request report h
    exact (of_decide_eq_true h).left
  registered := by
    intro s k id request report h
    exact (of_decide_eq_true h).right

def interfaceExampleRegistered : List (Thread × E2SimCall) :=
  [(.reception 0, exampleTermination.loopCall),
    (.simulation, .registerE2sm 200 (.ofBytes [])),
    (.simulation, .registerSubscriptionCallback 200)]

theorem interfaceExample_registered :
    (.start 0 ∈ interfaceExample ∧ exampleTermination.ricAddress ≠ "") ∧
      exists id request report, exists description : FunctionDescription,
        .receiveSubscription 0 id request report ∈ interfaceExample ∧
          .subscriptionResponse
              (processRicSubscriptionRequest (reportRequest 7)).response ∈
            Delivery.answers { request := request, report := report } ∧
          .registerKpmCallback id description ∈ interfaceExample ∧
          List.Sublist
            [(.simulation, .registerE2sm id (.ofBytes description.buffer)),
              (.simulation, .registerSubscriptionCallback id)]
            interfaceExampleRegistered := by
  have hlog : (exampleSession interfaceExample).map (fun s => s.log.take 4) =
      some (interfaceExampleRegistered ++
        [(.reception 0, .encodeAndSendSctpData (.subscriptionResponse
          (processRicSubscriptionRequest (reportRequest 7)).response))]) := by
    decide
  rcases Option.map_eq_some_iff.mp hlog with ⟨s, hs, htake⟩
  have hsplit := List.take_append_drop 4 s.log
  rw [htake, List.append_assoc] at hsplit
  exact registered_before_answer exampleDispatch_runsRegistered hs hsplit.symm

end Termination
end OranE2
