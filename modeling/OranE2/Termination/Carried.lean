import OranE2.Helper.Delivery
import OranE2.Termination.Reports

/-!
# From the helpers to the RIC

The simulation builds its reports with the indication message helpers.  What the
RIC decodes, in the order of its requests, is then determined by the operations
that were called on the helpers.
-/

namespace OranE2
namespace Termination

open Library
open Asn1c
open Kpm
open Helper

structure HelperRun where
  helperClass : HelperClass
  type : IndicationMessageType
  isOffline : Bool
  reducedPmValues : Bool
  operations : List (Operation helperClass)

/-- The message of a report was created by a helper, and the decoding inverts
the encoding of it. -/
def Created (ceil : Ceiling) (codec : MessageCodec) (r : HelperRun)
    (report : Report) : Prop :=
  exists start h p,
    r.helperClass.new r.type r.isOffline r.reducedPmValues =
        .completed start ∧
      runOperations ceil start r.operations = some h ∧
      KpmIndicationMessage.new codec p h.values =
        .ok { buffer := report.message } ∧
      forall format, h.createIndicationMessage p = .ok format ->
        codec.Inverts format

/-- An indication has the ids of a request, and is decoded to a received copy of
a message that carries the operations of a helper. -/
structure Carries (ceil : Ceiling) (codec : MessageCodec) (r : HelperRun)
    (d : Delivery) (i : RICindication) : Prop where
  ids : CarriesIds d.request i
  decoded : exists format received,
    CarriesOperations ceil r.type r.reducedPmValues r.operations format ∧
      codec.decode i.message = some (.indicationMessageFormat1 received) ∧
      ReceivedFormat format received

theorem carries_of_created_report {ceil : Ceiling} {codec : MessageCodec}
    {r : HelperRun} {d : Delivery} (h : Created ceil codec r d.report) :
    Carries ceil codec r d d.indication where
  ids := carriesIds_indication d
  decoded := by
    rcases h with ⟨start, h, p, hnew, hrun, hmsg, hcodec⟩
    rcases new_eq_ok hmsg with ⟨format, hformat, hencode⟩
    rw [new_cases hnew] at hrun
    rcases hcodec format hformat _ hencode with ⟨received, hdecode, hreceived⟩
    exact ⟨format, received, carries_of_created hrun hformat, hdecode,
      hreceived⟩

/-- The RIC decodes, for the requests of a loop in their order, messages that
carry the operations of the helpers; at most the last one is still to come. -/
theorem operations_reach_ric {e2Term : E2Termination}
    {dispatch : Dispatch} {events : List SessionEvent} {s : Session}
    (h : e2Term.session dispatch events = some s) (k : Nat) {ceil : Ceiling}
    {codec : MessageCodec} (helperRun : Delivery -> HelperRun)
    (hcreated : forall d, d ∈ deliveriesTo k events ->
      Created ceil codec (helperRun d) d.report) :
    exists handled waiting,
      deliveriesTo k events = handled ++ waiting ∧ waiting.length ≤ 1 ∧
        (s.pending (.reception k) = [] -> waiting = []) ∧
        List.Forall₂ (fun d i => Carries ceil codec (helperRun d) d i) handled
          (indications (sentBy (.reception k) s)) := by
  apply indications_in_order h k
  intro d hd
  exact carries_of_created_report (hcreated d hd)

def twoUesRun : HelperRun where
  helperClass := .mmWave
  type := .du
  isOffline := false
  reducedPmValues := false
  operations := fillDuAndAddTwo

theorem twoReports_carry_operations :
    exists s format, exampleSession twoReports = some s ∧
      exists handled waiting,
        deliveriesTo 0 twoReports = handled ++ waiting ∧
          waiting.length ≤ 1 ∧
          (s.pending (.reception 0) = [] -> waiting = []) ∧
          List.Forall₂ (fun d i => Carries exampleCeiling
              (singleMessageCodec format [2]) twoUesRun d i)
            handled (indications (sentBy (.reception 0) s)) := by
  have hruns : (exampleSession twoReports).isSome = true := by
    decide
  rcases Option.isSome_iff_exists.mp hruns with ⟨s, hs⟩
  have hhelper : exists h format,
      runOperations exampleCeiling
          (IndicationMessageHelper.new .du false false) fillDuAndAddTwo =
        some h ∧
      h.createIndicationMessage Placement.increasing = .ok format :=
    ⟨_, _, rfl, rfl⟩
  rcases hhelper with ⟨h, format, hrun, hformat⟩
  have hmessages : forall d, d ∈ deliveriesTo 0 twoReports ->
      d.report.message = [2] := by
    decide
  refine ⟨s, format, hs, operations_reach_ric hs 0 (fun _ => twoUesRun) ?_⟩
  intro d hd
  refine ⟨_, h, Placement.increasing, rfl, hrun, ?_, ?_⟩
  · rw [hmessages d hd]
    exact new_singleMessageCodec hformat [2]
  · intro format' _
    exact singleMessageCodec_inverts _ _ _

end Termination
end OranE2
