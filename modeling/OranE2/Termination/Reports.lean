import OranE2.Helper.Base
import OranE2.Kpm.Processing
import OranE2.Subscription.Order
import OranE2.Termination.Session

/-!
# From the reports to the RIC

What the RIC reads when it decodes the indications of a loop, in the order in
which they arrive: the containers of the reports that were built for the
requests, whatever else is sent meanwhile.
-/

namespace OranE2
namespace Termination

open Library
open Asn1c
open Kpm
open Subscription
open Helper (literal)

def E2apPdu.indication? : E2apPdu -> Option RICindication
  | .indication i => some i
  | .subscriptionResponse _ => none

def indications (pdus : List E2apPdu) : List RICindication :=
  pdus.filterMap E2apPdu.indication?

/-- The message of a report was built from values with a given container whose
PLMNs have no zero byte, and the decoding inverts the encoding of it. -/
structure BuiltFrom (codec : MessageCodec) (report : Report)
    (container : PmContainerValues) : Prop where
  plain : container.PlainPlmns
  built : exists p values,
    values.pmContainerValues = some container ∧
      KpmIndicationMessage.new codec p values =
        .ok { buffer := report.message } ∧
      forall format, fillAndEncodeKpmIndicationMessage p values = .ok format ->
        codec.Inverts format

/-- The ids of an indication are the last ones that the request states, narrowed
to the types that store them. -/
structure CarriesIds (request : RICsubscriptionRequestT) (i : RICindication) :
    Prop where
  requestorId : i.requestorId =
    lastWrite requestorIdWrite 0 request.protocolIEs
  instanceId : i.instanceId = lastWrite instanceIdWrite 0 request.protocolIEs
  ranFuncionId : i.ranFuncionId =
    lastWrite functionIdWrite 0 request.protocolIEs
  actionId : i.actionId =
    lastWrite (fun item => some (UInt8.ofInt item.ricActionID)) 0
      (requestedActions request)

structure Reports (codec : MessageCodec) (container : PmContainerValues)
    (d : Delivery) (i : RICindication) : Prop where
  ids : CarriesIds d.request i
  reads : exists reading, ReadsContainer container reading ∧
    decodeIndicationMessage codec { buffer := i.message } =
      .ok (.decodeOkay (some [reading]))

theorem indications_answers (ds : List Delivery) :
    indications (ds.flatMap Delivery.answers) = ds.map Delivery.indication := by
  induction ds with
  | nil => rfl
  | cons d ds ih =>
      unfold indications at ih ⊢
      rw [List.flatMap_cons, List.filterMap_append, ih]
      rfl

theorem indications_of_answeredUpTo {ds : List Delivery} {sent : List E2apPdu}
    (h : AnsweredUpTo ds sent) :
    exists handled waiting, ds = handled ++ waiting ∧ waiting.length ≤ 1 ∧
      indications sent = handled.map Delivery.indication := by
  cases h with
  | all =>
      exact ⟨ds, [], (List.append_nil ds).symm, Nat.zero_le 1,
        indications_answers ds⟩
  | waiting ds d =>
      exact ⟨ds, [d], rfl, Nat.le_refl 1, indications_answers ds⟩
  | responded ds d =>
      refine ⟨ds, [d], rfl, Nat.le_refl 1, ?_⟩
      unfold indications
      rw [List.filterMap_append]
      exact (List.append_nil _).trans (indications_answers ds)

theorem carriesIds_indication (d : Delivery) :
    CarriesIds d.request d.indication := by
  unfold Delivery.indication
  rw [processRicSubscriptionRequest_eq]
  exact ⟨rfl, rfl, rfl, rfl⟩

theorem reports_of_built {codec : MessageCodec} {d : Delivery}
    {container : PmContainerValues}
    (h : BuiltFrom codec d.report container) :
    Reports codec container d d.indication where
  ids := carriesIds_indication d
  reads := by
    rcases h.built with ⟨p, values, hcontainer, hnew, hcodec⟩
    exact decode_of_new hcontainer h.plain hnew hcodec

theorem indications_in_order {e2Term : E2Termination}
    {dispatch : Dispatch} {events : List SessionEvent} {s : Session}
    (h : e2Term.session dispatch events = some s) (k : Nat)
    {P : Delivery -> RICindication -> Prop}
    (hall : forall d, d ∈ deliveriesTo k events -> P d d.indication) :
    exists handled waiting,
      deliveriesTo k events = handled ++ waiting ∧ waiting.length ≤ 1 ∧
        (s.pending (.reception k) = [] -> waiting = []) ∧
        List.Forall₂ P handled (indications (sentBy (.reception k) s)) := by
  rcases indications_of_answeredUpTo (answeredUpTo_session h k) with
    ⟨handled, waiting, hsplit, hlength, hsent⟩
  refine ⟨handled, waiting, hsplit, hlength, ?_, ?_⟩
  · intro hidle
    rw [sentBy_of_idle h hidle, indications_answers, hsplit] at hsent
    have hlengths := congrArg List.length hsent
    rw [List.length_map, List.length_map, List.length_append] at hlengths
    exact List.eq_nil_of_length_eq_zero (by omega)
  · rw [hsent, List.forall₂_map_right_iff]
    apply List.forall₂_same.mpr
    intro d hd
    apply hall
    rw [hsplit]
    exact List.mem_append_left _ hd

/-- The RIC reads the reports for the requests of a loop in the order of the
requests, none lost or repeated; at most the last one is still to come. -/
theorem reports_arrive_in_order {e2Term : E2Termination}
    {dispatch : Dispatch} {events : List SessionEvent} {s : Session}
    (h : e2Term.session dispatch events = some s) (k : Nat)
    {codec : MessageCodec} (container : Delivery -> PmContainerValues)
    (hbuilt : forall d, d ∈ deliveriesTo k events ->
      BuiltFrom codec d.report (container d)) :
    exists handled waiting,
      deliveriesTo k events = handled ++ waiting ∧ waiting.length ≤ 1 ∧
        (s.pending (.reception k) = [] -> waiting = []) ∧
        List.Forall₂ (fun d i => Reports codec (container d) d i) handled
          (indications (sentBy (.reception k) s)) := by
  apply indications_in_order h k
  intro d hd
  exact reports_of_built (hbuilt d hd)

/-!
## The report of the example
-/

def dummyValues (id : List UInt8) : MeasurementItemList :=
  (MeasurementItemList.ofId id).addItems
    [(literal "DRB.PdcpSduVolumeDl_Filter.UEID", .valueInt 6),
      (literal "QosFlow.PdcpPduVolumeDL_Filter.UEID", .valueInt 7),
      (literal "Tot.PdcpSduNbrDl.UEID", .valueInt 8),
      (literal "DRB.PdcpPduNbrDl.Qos.UEID", .valueInt 9),
      -- The bit patterns of 10.0 and 11.0.
      (literal "DRB.IPThpDl.UEID", .valueReal { bits := 0x4024000000000000 }),
      (literal "DRB.IPLateDl.UEID", .valueReal { bits := 0x4026000000000000 })]

def cuUpValues : OCuUpContainerValues where
  plmId := .ofBytes (literal "111")
  pDCPBytesUL := 100
  pDCPBytesDL := 100

def reportValues : KpmIndicationMessageValues PmContainerValues where
  cellObjectId := []
  pmContainerValues := some (.cuUp cuUpValues)
  cellMeasurementItems := none
  ueIndications :=
    (RefSet.empty.insertNew (dummyValues (literal "UE-0"))).insertNew
      (dummyValues (literal "UE-1"))

def twoReports : List SessionEvent :=
  let report : Report := { header := [1], message := [2] }
  [.start 0, .registerKpmCallback 200 { buffer := [] },
    .issue (.reception 0), .issue .simulation, .issue .simulation,
    .receiveSubscription 0 200 (reportRequest 7) report,
    .issue (.reception 0), .issue (.reception 0),
    .receiveSubscription 0 200 (reportRequest 8) report,
    .issue (.reception 0)]

theorem twoReports_arrive :
    exists s format, exampleSession twoReports = some s ∧
      exists handled waiting,
        deliveriesTo 0 twoReports = handled ++ waiting ∧
          waiting.length ≤ 1 ∧
          (s.pending (.reception 0) = [] -> waiting = []) ∧
          List.Forall₂ (fun d i => Reports
              (singleMessageCodec format [2]) (.cuUp cuUpValues) d i)
            handled (indications (sentBy (.reception 0) s)) := by
  have hruns : (exampleSession twoReports).isSome = true := by
    decide
  rcases Option.isSome_iff_exists.mp hruns with ⟨s, hs⟩
  have hformat : exists format,
      fillAndEncodeKpmIndicationMessage Placement.increasing reportValues =
        .ok format := ⟨_, rfl⟩
  rcases hformat with ⟨format, hformat⟩
  have hmessages : forall d, d ∈ deliveriesTo 0 twoReports ->
      d.report.message = [2] := by
    decide
  refine ⟨s, format, hs, reports_arrive_in_order hs 0
    (fun _ => .cuUp cuUpValues) ?_⟩
  intro d hd
  refine ⟨trivial, Placement.increasing, reportValues, rfl, ?_, ?_⟩
  · rw [hmessages d hd]
    exact new_singleMessageCodec hformat [2]
  · intro format' _
    exact singleMessageCodec_inverts _ _ _

end Termination
end OranE2
