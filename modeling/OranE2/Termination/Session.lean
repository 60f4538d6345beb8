import OranE2.Library.Interleaving
import OranE2.Termination.Calls

/-!
# Sessions of an E2 termination

The simulation registers functions, starts the simulator and sends messages;
every start spawns a thread that runs the simulator's loop and the callbacks of
what it receives.  All of them use one simulator, and their calls on it
interleave.  A session is any such run; what arrives and when is left open.
-/

namespace OranE2
namespace Termination

open Library
open PartialRun
open Interleaving
open Subscription

inductive Thread where
  | simulation
  | reception (k : Nat)
  deriving DecidableEq, Repr

/-- A call of the interface by the simulation, the arrival of a PDU for a RAN
function at a loop, or the next call of a thread on the simulator. -/
inductive SessionEvent where
  | registerKpmCallback (ranFunctionId : Int) (description : FunctionDescription)
  | registerSmCallback (ranFunctionId : Int) (description : FunctionDescription)
  | start (k : Nat)
  | sendE2Message (pdu : E2apPdu)
  | receiveSubscription (k : Nat) (ranFunctionId : Int)
      (request : RICsubscriptionRequestT) (report : Report)
  | receiveControl (k : Nat) (ranFunctionId : Int)
  | issue (t : Thread)
  deriving DecidableEq

abbrev Session := Interleaving.State Thread E2SimCall

/-- When the simulator lets an event occur.  Its loop, which runs the callbacks,
is not part of the repository: any dispatch is possible. -/
abbrev Dispatch := Session -> SessionEvent -> Bool

namespace E2Termination

variable (e2Term : E2Termination)

def threadEvent : SessionEvent -> Interleaving.Event Thread E2SimCall
  | .registerKpmCallback id description =>
      .accept .simulation (registerKpmCallbackToE2Sm id description)
  | .registerSmCallback id description =>
      .accept .simulation (registerSmCallbackToE2Sm id description)
  | .start k => .accept (.reception k) e2Term.doStart
  | .sendE2Message pdu => .accept .simulation (sendE2Message pdu)
  | .receiveSubscription k _ request report =>
      .accept (.reception k) (kpmSubscriptionCallback request report)
  | .receiveControl k _ => .accept (.reception k) ricControlMessageCallback
  | .issue t => .issue t

/-- `Start` aborts on an empty address and spawns a new thread. -/
def Admits (s : Session) : SessionEvent -> Prop
  | .start k =>
      e2Term.ricAddress ≠ "" ∧ s.pending .simulation = [] ∧
        callsOf (.reception k) s.log = []
  | _ => True

instance (s : Session) (e : SessionEvent) : Decidable (e2Term.Admits s e) :=
  match e with
  | .start _ => inferInstanceAs (Decidable (_ ∧ _ ∧ _))
  | .receiveSubscription _ _ _ _ => inferInstanceAs (Decidable True)
  | .receiveControl _ _ => inferInstanceAs (Decidable True)
  | .registerKpmCallback _ _ => inferInstanceAs (Decidable True)
  | .registerSmCallback _ _ => inferInstanceAs (Decidable True)
  | .sendE2Message _ => inferInstanceAs (Decidable True)
  | .issue _ => inferInstanceAs (Decidable True)

def sessionStep (dispatch : Dispatch) (s : Session) (e : SessionEvent) :
    Option Session :=
  guardedStep (fun s e => e2Term.Admits s e ∧ dispatch s e = true)
    e2Term.threadEvent s e

def session (dispatch : Dispatch) (events : List SessionEvent) :
    Option Session :=
  run (e2Term.sessionStep dispatch) State.start events

end E2Termination

def sentBy (t : Thread) (s : Session) : List E2apPdu :=
  sentPdus (callsOf t s.log)

/-!
## Deliveries
-/

/-- A subscription request that reached a loop, with the report that is built
for it. -/
structure Delivery where
  request : RICsubscriptionRequestT
  report : Report
  deriving DecidableEq, Repr

namespace Delivery

def response (d : Delivery) : SubscriptionResponseSuccess :=
  (processRicSubscriptionRequest d.request).response

def indication (d : Delivery) : RICindication :=
  reportIndication (processRicSubscriptionRequest d.request).reqParams d.report

def answers (d : Delivery) : List E2apPdu :=
  [.subscriptionResponse d.response, .indication d.indication]

def calls (d : Delivery) : List E2SimCall :=
  kpmSubscriptionCallback d.request d.report

theorem sentPdus_calls (d : Delivery) : sentPdus d.calls = d.answers := rfl

end Delivery

def SessionEvent.delivery? (k : Nat) : SessionEvent -> Option Delivery
  | .receiveSubscription k' _ request report =>
      if k' = k then some { request := request, report := report } else none
  | _ => none

def deliveriesTo (k : Nat) (events : List SessionEvent) : List Delivery :=
  events.filterMap (SessionEvent.delivery? k)

theorem deliveriesTo_append (k : Nat) (events events' : List SessionEvent) :
    deliveriesTo k (events ++ events') =
      deliveriesTo k events ++ deliveriesTo k events' :=
  List.filterMap_append

/-!
## The blocks of a loop
-/

section

variable {e2Term : E2Termination}

theorem block_of_event (e2Term : E2Termination) (k : Nat) (e : SessionEvent) :
    ((e2Term.threadEvent e).block? (.reception k) = none ∧
        e.delivery? k = none) ∨
      (exists block, (e2Term.threadEvent e).block? (.reception k) = some block ∧
        sentPdus block = [] ∧ e.delivery? k = none) ∨
      exists d : Delivery,
        (e2Term.threadEvent e).block? (.reception k) = some d.calls ∧
          e.delivery? k = some d := by
  cases e with
  | registerKpmCallback id description => exact Or.inl ⟨rfl, rfl⟩
  | registerSmCallback id description => exact Or.inl ⟨rfl, rfl⟩
  | sendE2Message pdu => exact Or.inl ⟨rfl, rfl⟩
  | issue t => exact Or.inl ⟨rfl, rfl⟩
  | start k' =>
      by_cases hk : k' = k
      · subst hk
        exact Or.inr (Or.inl ⟨e2Term.doStart, if_pos rfl, rfl, rfl⟩)
      · refine Or.inl ⟨if_neg ?_, rfl⟩
        intro h
        exact hk (Thread.reception.inj h)
  | receiveControl k' id =>
      by_cases hk : k' = k
      · subst hk
        exact Or.inr (Or.inl ⟨ricControlMessageCallback, if_pos rfl, rfl, rfl⟩)
      · refine Or.inl ⟨if_neg ?_, rfl⟩
        intro h
        exact hk (Thread.reception.inj h)
  | receiveSubscription k' id request report =>
      by_cases hk : k' = k
      · subst hk
        exact Or.inr (Or.inr
          ⟨{ request := request, report := report }, if_pos rfl, if_pos rfl⟩)
      · refine Or.inl ⟨if_neg ?_, if_neg hk⟩
        intro h
        exact hk (Thread.reception.inj h)

theorem sentPdus_blocks (e2Term : E2Termination) (k : Nat)
    (events : List SessionEvent) :
    sentPdus (blocksOf (.reception k)
        (events.map e2Term.threadEvent)).flatten =
      (deliveriesTo k events).flatMap Delivery.answers := by
  induction events with
  | nil => rfl
  | cons e events ih =>
      unfold blocksOf deliveriesTo at ih ⊢
      rw [List.map_cons]
      rcases block_of_event e2Term k e with
        hnone | ⟨block, hblock, hsent, hnone⟩ | ⟨d, hblock, hd⟩
      · rw [List.filterMap_cons_none hnone.left,
          List.filterMap_cons_none hnone.right]
        exact ih
      · rw [List.filterMap_cons_some hblock, List.filterMap_cons_none hnone,
          List.flatten_cons, sentPdus_append, hsent, List.nil_append]
        exact ih
      · rw [List.filterMap_cons_some hblock, List.filterMap_cons_some hd,
          List.flatten_cons, sentPdus_append, List.flatMap_cons, ih,
          d.sentPdus_calls]

theorem block_answers {k : Nat} {events : List SessionEvent}
    {block : List E2SimCall}
    (hblock : block ∈ blocksOf (.reception k)
      (events.map e2Term.threadEvent)) :
    sentPdus block = [] ∨
      exists d, d ∈ deliveriesTo k events ∧ block = d.calls := by
  rcases List.mem_filterMap.mp hblock with ⟨e', he', hblock⟩
  rcases List.mem_map.mp he' with ⟨e, he, rfl⟩
  rcases block_of_event e2Term k e with
    hnone | ⟨block', hblock', hsent, _⟩ | ⟨d, hblock', hd⟩
  · rw [hnone.left] at hblock
    cases hblock
  · rw [hblock'] at hblock
    cases hblock
    exact Or.inl hsent
  · rw [hblock'] at hblock
    cases hblock
    exact Or.inr ⟨d, List.mem_filterMap.mpr ⟨e, he, hd⟩, rfl⟩

end

/-!
## Answers in order

Whatever the other threads do meanwhile, a loop answers its requests one after
the other: the response, then the indication.
-/

/-- All requests are answered, or all but the last, whose response may have
been sent already. -/
inductive AnsweredUpTo : List Delivery -> List E2apPdu -> Prop where
  | all (ds : List Delivery) : AnsweredUpTo ds (ds.flatMap Delivery.answers)
  | waiting (ds : List Delivery) (d : Delivery) :
      AnsweredUpTo (ds ++ [d]) (ds.flatMap Delivery.answers)
  | responded (ds : List Delivery) (d : Delivery) :
      AnsweredUpTo (ds ++ [d])
        (ds.flatMap Delivery.answers ++ [.subscriptionResponse d.response])

theorem length_flatMap_answers (ds : List Delivery) :
    (ds.flatMap Delivery.answers).length = 2 * ds.length := by
  induction ds with
  | nil => rfl
  | cons d ds ih =>
      rw [List.flatMap_cons, List.length_append, ih, List.length_cons]
      show 2 + 2 * ds.length = 2 * (ds.length + 1)
      omega

theorem eq_singleton_of_answers {ds : List Delivery} {d : Delivery}
    (hmem : d ∈ ds) (h : ds.flatMap Delivery.answers = d.answers) :
    ds = [d] := by
  have hlength := congrArg List.length h
  rw [length_flatMap_answers] at hlength
  have htwo : d.answers.length = 2 := rfl
  rcases List.length_eq_one_iff.mp (by omega : ds.length = 1) with ⟨d', rfl⟩
  rw [List.mem_singleton.mp hmem]

section

variable {e2Term : E2Termination} {dispatch : Dispatch}
variable {events : List SessionEvent} {s : Session}

theorem progress_of_session (h : e2Term.session dispatch events = some s)
    (t : Thread) :
    Progress (blocksOf t (events.map e2Term.threadEvent)) (callsOf t s.log)
      (s.pending t) :=
  progress_of_run (run_of_guarded h) t

theorem answeredUpTo_of_block {k : Nat} {front rest : List E2SimCall}
    {ds : List Delivery} {late : List SessionEvent}
    (hlate : blocksOf (.reception k) (late.map e2Term.threadEvent) =
      [front ++ rest]) :
    AnsweredUpTo (ds ++ deliveriesTo k late)
      (ds.flatMap Delivery.answers ++ sentPdus front) := by
  have hsent := sentPdus_blocks e2Term k late
  rw [hlate, List.flatten_singleton] at hsent
  have hmem : front ++ rest ∈ blocksOf (.reception k)
      (late.map e2Term.threadEvent) := by
    rw [hlate]
    exact List.mem_cons_self
  rcases block_answers hmem with hnone | ⟨d, hd, hcalls⟩
  · rw [hnone] at hsent
    rw [sentPdus_append] at hnone
    rw [(List.append_eq_nil_iff.mp hnone).left, hsent, ← List.flatMap_append]
    exact AnsweredUpTo.all _
  · rw [hcalls, d.sentPdus_calls] at hsent
    rw [eq_singleton_of_answers hd hsent.symm]
    -- The two calls of the callback are issued one at a time.
    rcases front with _ | ⟨first, _ | ⟨second, others⟩⟩
    · rw [show sentPdus [] = [] from rfl, List.append_nil]
      exact AnsweredUpTo.waiting ds d
    · cases hcalls
      exact AnsweredUpTo.responded ds d
    · have hothers : others ++ rest = [] := by
        injection hcalls with _ htail
        injection htail
      rw [List.cons_append, List.cons_append, hothers] at hcalls
      have hall : sentPdus (first :: second :: others) = d.answers := by
        rw [(List.append_eq_nil_iff.mp hothers).left, hcalls, d.sentPdus_calls]
      have hanswers := AnsweredUpTo.all (ds ++ [d])
      rw [List.flatMap_append, List.flatMap_singleton, ← hall] at hanswers
      exact hanswers

theorem answeredUpTo_session (h : e2Term.session dispatch events = some s)
    (k : Nat) :
    AnsweredUpTo (deliveriesTo k events) (sentBy (.reception k) s) := by
  have hprogress := progress_of_session h (.reception k)
  have hsent := sentPdus_blocks e2Term k events
  generalize hblocks : blocksOf (.reception k)
    (events.map e2Term.threadEvent) = blocks at hprogress hsent
  unfold sentBy
  generalize hcalls : callsOf (.reception k) s.log = issued at hprogress
  generalize s.pending (.reception k) = pending at hprogress
  cases hprogress with
  | idle =>
      have hanswers := AnsweredUpTo.all (deliveriesTo k events)
      rw [← hsent] at hanswers
      exact hanswers
  | block done front rest =>
      unfold blocksOf at hblocks
      rcases List.filterMap_eq_append_iff.mp hblocks with
        ⟨early', late', hsplit, hearly, hlate⟩
      rcases List.map_eq_append_iff.mp hsplit with
        ⟨early, late, rfl, rfl, rfl⟩
      have hdone := sentPdus_blocks e2Term k early
      unfold blocksOf at hdone
      rw [hearly] at hdone
      rw [deliveriesTo_append, sentPdus_append, hdone]
      exact answeredUpTo_of_block hlate

theorem sentBy_of_idle (h : e2Term.session dispatch events = some s) {k : Nat}
    (hidle : s.pending (.reception k) = []) :
    sentBy (.reception k) s =
      (deliveriesTo k events).flatMap Delivery.answers := by
  have hall := (progress_of_session h (.reception k)).issued_append_pending
  rw [hidle, List.append_nil] at hall
  unfold sentBy
  rw [hall, sentPdus_blocks e2Term k events]

theorem answered_in_order (h : e2Term.session dispatch events = some s)
    (k : Nat) :
    AnsweredUpTo (deliveriesTo k events) (sentBy (.reception k) s) ∧
      (s.pending (.reception k) = [] ->
        sentBy (.reception k) s =
          (deliveriesTo k events).flatMap Delivery.answers) :=
  ⟨answeredUpTo_session h k, sentBy_of_idle h⟩

end

def exampleTermination : E2Termination where
  ricAddress := "10.0.2.10"
  ricPort := 36422
  clientPort := 38472
  gnbId := "1"
  plmnId := "111"

/-- The dispatch of a simulator that runs a callback in a running loop, and only
the one that was registered for the function. -/
def exampleDispatch : Dispatch
  | s, .receiveSubscription k id _ _ =>
      decide ((.reception k, exampleTermination.loopCall) ∈ s.log ∧
        (.simulation, .registerSubscriptionCallback id) ∈ s.log)
  | s, .receiveControl k id =>
      decide ((.reception k, exampleTermination.loopCall) ∈ s.log ∧
        (.simulation, .registerSmCallback id) ∈ s.log)
  | _, _ => true

def exampleSession (events : List SessionEvent) : Option Session :=
  exampleTermination.session exampleDispatch events

def reportRequest (ricInstanceID : Int) : RICsubscriptionRequestT where
  protocolIEs :=
    [.ricRequestID { ricRequestorID := 1, ricInstanceID := ricInstanceID },
     .ricSubscriptionDetails
      { ricActionToBeSetupList :=
          [{ ricActionID := 1, ricActionType := .report }] }]

def interfaceExample : List SessionEvent :=
  let report : Report := { header := [], message := [] }
  [.start 0, .registerKpmCallback 200 { buffer := [] },
    .issue (.reception 0), .issue .simulation, .issue .simulation,
    .receiveSubscription 0 200 (reportRequest 7) report,
    .issue (.reception 0),
    .sendE2Message (.indication
      (reportIndication
        { requestorId := 1, instanceId := 1, ranFuncionId := 2, actionId := 0 }
        report)),
    .issue .simulation, .issue (.reception 0),
    .receiveSubscription 0 200 (reportRequest 8) report,
    .issue (.reception 0)]

theorem interfaceExample_answered :
    exists s, exampleSession interfaceExample = some s ∧
      AnsweredUpTo (deliveriesTo 0 interfaceExample)
          (sentBy (.reception 0) s) ∧
        (s.pending (.reception 0) = [] ->
          sentBy (.reception 0) s =
            (deliveriesTo 0 interfaceExample).flatMap Delivery.answers) := by
  have hruns : (exampleSession interfaceExample).isSome = true := by
    decide
  rcases Option.isSome_iff_exists.mp hruns with ⟨s, hs⟩
  exact ⟨s, hs, answered_in_order hs 0⟩

end Termination
end OranE2
