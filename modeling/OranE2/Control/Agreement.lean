import OranE2.Control.Decoding

/-!
# Agreement of the decoded members

The request type and the handover target should belong to the request id that
the object ends up with.  The constructor neither initialises nor resets the
request type and never resets the target, so this holds only for requests in
which no stale value survives.
-/

namespace OranE2
namespace Control

open Library
open E2ap
open Asn1c

/-- The members of a decoded message belong together. -/
def MembersAgree (message : RicControlMessage) : Prop :=
  (message.requestType = ControlMessageRequestIdType.TS ->
    message.ricRequestId.ricRequestorID = 1001) ∧
  (message.requestType = ControlMessageRequestIdType.QoS ->
    message.ricRequestId.ricRequestorID = 1002) ∧
  (message.secondaryCellId ≠ [] ->
    message.ricRequestId.ricRequestorID = 1001 ∧
      exists valueStr, lastString message.valuesExtracted = some valueStr ∧
        message.secondaryCellId = lastCharacter valueStr)

def finalRequestor (ies : List RICcontrolRequestIEs) : Option Int :=
  ((ies.filterMap requestIdWrite).getLast?).map (·.ricRequestorID)

def format1String (asn : AsnDecode) :
    RICcontrolRequestIEs -> Option (Option OctetString)
  | .ricControlMessage payload =>
      if isFormat1 (decodedMessage asn payload) then
        some (messageString asn payload)
      else
        none
  | _ => none

def finalString (asn : AsnDecode) (ies : List RICcontrolRequestIEs) :
    Option OctetString :=
  lastWrite (format1String asn) none ies

/-- The last requestor is a known one, or none is and the memory under the
object named neither request type. -/
def RequestorCurrent (leftover : ObjectLeftover)
    (ies : List RICcontrolRequestIEs) : Prop :=
  finalRequestor ies = some 1001 ∨ finalRequestor ies = some 1002 ∨
    ((forall ie, ie ∈ ies -> namedRequestType ie = none) ∧
      leftover.requestType ≠ ControlMessageRequestIdType.TS ∧
      leftover.requestType ≠ ControlMessageRequestIdType.QoS)

/-- The last control message that arrives under TS with an octet string, if
there is one, belongs to a request that ends with requestor 1001, and the last
Format1 message ends in the same character. -/
def HandoverCurrent (asn : AsnDecode) (leftover : ObjectLeftover)
    (ies : List RICcontrolRequestIEs) : Prop :=
  forall before payload after valueStr,
    underRequestType leftover.requestType ies =
        before ++ (ControlMessageRequestIdType.TS,
          RICcontrolRequestIEs.ricControlMessage payload) :: after ->
    messageString asn payload = some valueStr ->
    (forall later,
      (ControlMessageRequestIdType.TS,
        RICcontrolRequestIEs.ricControlMessage later) ∈ after ->
      messageString asn later = none) ->
    finalRequestor ies = some 1001 ∧
      exists final, finalString asn ies = some final ∧
        lastCharacter valueStr = lastCharacter final

/-!
## The request type
-/

theorem requestTypeOf_eq_some {requestor : Int}
    {requestType : ControlMessageRequestIdType}
    (h : requestTypeOf requestor = some requestType) :
    requestor = 1001 ∧ requestType = ControlMessageRequestIdType.TS ∨
      requestor = 1002 ∧ requestType = ControlMessageRequestIdType.QoS := by
  unfold requestTypeOf at h
  split at h
  · rename_i hid
    exact Or.inl ⟨hid, (Option.some.inj h).symm⟩
  · split at h
    · rename_i hid
      exact Or.inr ⟨hid, (Option.some.inj h).symm⟩
    · cases h

theorem namedRequestType_known {ie : RICcontrolRequestIEs}
    {requestType : ControlMessageRequestIdType}
    (h : namedRequestType ie = some requestType) :
    requestType = ControlMessageRequestIdType.TS ∨
      requestType = ControlMessageRequestIdType.QoS := by
  cases ie with
  | ricRequestID id =>
      rcases requestTypeOf_eq_some h with ⟨_, ht⟩ | ⟨_, ht⟩
      · exact Or.inl ht
      · exact Or.inr ht
  | _ => cases h

theorem namedRequestType_of_requestIdWrite_none {ie : RICcontrolRequestIEs}
    (h : requestIdWrite ie = none) : namedRequestType ie = none := by
  cases ie with
  | ricRequestID id => cases h
  | _ => rfl

theorem finalRequestor_split {ies : List RICcontrolRequestIEs}
    {requestor : Int} (h : finalRequestor ies = some requestor) :
    exists pre id post, ies = pre ++ .ricRequestID id :: post ∧
      id.ricRequestorID = requestor ∧
      forall ie, ie ∈ post -> requestIdWrite ie = none := by
  unfold finalRequestor at h
  rcases exists_last_write requestIdWrite ies with
    hsilent | ⟨pre, ie, post, id, hsplit, hie, hpost⟩
  · rw [List.filterMap_eq_nil_iff.mpr hsilent] at h
    cases h
  · have hlast : (ies.filterMap requestIdWrite).getLast? = some id := by
      rw [hsplit, List.filterMap_append, List.filterMap_cons_some hie,
        List.filterMap_eq_nil_iff.mpr hpost]
      simp
    rw [hlast] at h
    cases ie with
    | ricRequestID id' =>
        cases hie
        exact ⟨pre, id, post, hsplit, Option.some.inj h, hpost⟩
    | _ => cases hie

theorem requestType_of_finalRequestor {ies : List RICcontrolRequestIEs}
    {requestor : Int} (requestType : ControlMessageRequestIdType)
    (hfinal : finalRequestor ies = some requestor)
    (hknown : requestTypeOf requestor = some requestType)
    (init : ControlMessageRequestIdType) :
    lastWrite namedRequestType init ies = requestType := by
  rcases finalRequestor_split hfinal with ⟨pre, id, post, hsplit, hid, hpost⟩
  rw [hsplit]
  apply lastWrite_split namedRequestType pre
  · show requestTypeOf id.ricRequestorID = some requestType
    rw [hid]
    exact hknown
  · intro ie hie
    exact namedRequestType_of_requestIdWrite_none (hpost ie hie)

theorem requestType_agrees_iff {leftover : ObjectLeftover}
    {ies : List RICcontrolRequestIEs} {requestor : Int}
    (hfinal : finalRequestor ies = some requestor) :
    ((lastWrite namedRequestType leftover.requestType ies =
          ControlMessageRequestIdType.TS -> requestor = 1001) ∧
      (lastWrite namedRequestType leftover.requestType ies =
          ControlMessageRequestIdType.QoS -> requestor = 1002)) <->
      RequestorCurrent leftover ies := by
  unfold RequestorCurrent
  rw [hfinal]
  by_cases hTS : requestor = 1001
  · have htype := requestType_of_finalRequestor .TS hfinal
      (by rw [hTS]; rfl) leftover.requestType
    simp [hTS, htype]
  by_cases hQoS : requestor = 1002
  · have htype := requestType_of_finalRequestor .QoS hfinal
      (by rw [hQoS]; rfl) leftover.requestType
    simp [hQoS, htype]
  have hnot : ¬ (some requestor = some 1001) ∧ ¬ (some requestor = some 1002) :=
    ⟨fun h => hTS (Option.some.inj h), fun h => hQoS (Option.some.inj h)⟩
  constructor
  · intro h
    apply Or.inr
    apply Or.inr
    rcases exists_last_write namedRequestType ies with
      hsilent | ⟨pre, ie, post, requestType, hsplit, hie, hpost⟩
    · rw [lastWrite_of_silent hsilent] at h
      exact ⟨hsilent, fun ht => hTS (h.left ht), fun ht => hQoS (h.right ht)⟩
    · have hlast := lastWrite_split namedRequestType pre hie hpost
        leftover.requestType
      rw [← hsplit] at hlast
      rw [hlast] at h
      rcases namedRequestType_known hie with ht | ht
      · exact absurd (h.left ht) hTS
      · exact absurd (h.right ht) hQoS
  · intro h
    rcases h with h | h | ⟨hsilent, hnotTS, hnotQoS⟩
    · exact absurd h hnot.left
    · exact absurd h hnot.right
    · rw [lastWrite_of_silent hsilent]
      exact ⟨fun ht => absurd ht hnotTS, fun ht => absurd ht hnotQoS⟩

/-!
## The handover target
-/

theorem cellIdWrite_eq_some {asn : AsnDecode}
    {p : ControlMessageRequestIdType × RICcontrolRequestIEs}
    {cellId : List UInt8} (h : cellIdWrite asn p.1 p.2 = some cellId) :
    exists payload valueStr,
      p = (ControlMessageRequestIdType.TS, .ricControlMessage payload) ∧
        messageString asn payload = some valueStr ∧
        cellId = lastCharacter valueStr := by
  rcases p with ⟨requestType, ie⟩
  cases ie with
  | ricControlMessage payload =>
      change (if requestType = ControlMessageRequestIdType.TS then
        (messageString asn payload).map lastCharacter else none) =
          some cellId at h
      by_cases htype : requestType = ControlMessageRequestIdType.TS
      · rw [if_pos htype] at h
        rcases Option.map_eq_some_iff.mp h with ⟨valueStr, hstr, hcell⟩
        exact ⟨payload, valueStr, by rw [htype], hstr, hcell.symm⟩
      · rw [if_neg htype] at h
        cases h
  | _ => cases h

theorem cellIdWrite_message {asn : AsnDecode} {payload : OctetStringT}
    {valueStr : OctetString} (h : messageString asn payload = some valueStr) :
    cellIdWrite asn ControlMessageRequestIdType.TS
      (.ricControlMessage payload) = some (lastCharacter valueStr) := by
  simp [h]

theorem cellIdWrite_silent_iff {asn : AsnDecode}
    {ps : List (ControlMessageRequestIdType × RICcontrolRequestIEs)} :
    (forall p, p ∈ ps -> cellIdWrite asn p.1 p.2 = none) <->
      forall payload,
        (ControlMessageRequestIdType.TS,
          RICcontrolRequestIEs.ricControlMessage payload) ∈ ps ->
        messageString asn payload = none := by
  constructor
  · intro h payload hmem
    have hnone := h _ hmem
    cases hstr : messageString asn payload with
    | none => rfl
    | some valueStr =>
        rw [cellIdWrite_message hstr] at hnone
        cases hnone
  · intro h p hp
    cases hwrite : cellIdWrite asn p.1 p.2 with
    | none => rfl
    | some cellId =>
        rcases cellIdWrite_eq_some hwrite with ⟨payload, _, rfl, hstr, _⟩
        rw [h payload hp] at hstr
        cases hstr

theorem lastString_run {asn : AsnDecode} {s s' : DecodeState}
    {ies : List RICcontrolRequestIEs}
    (h : PartialRun.run (decodeIE asn) s ies = some s') :
    lastString s'.message.valuesExtracted =
      lastWrite (format1String asn) (lastString s.message.valuesExtracted)
        ies := by
  refine PartialRun.run_plain_register
    (fun s => lastString s.message.valuesExtracted) (format1String asn) ?_ h
  intro s ie s' hstep
  rw [decodeIE_eq_written hstep]
  cases ie with
  | ricControlMessage payload =>
      by_cases hformat : isFormat1 (decodedMessage asn payload)
      · have hstring := lastString_extractedValues asn (contextOf s) payload
        simp [written, format1String, hformat, hstring]
      · simp [written, format1String, hformat]
  | _ => rfl

theorem lastCharacter_ne_nil {asn : AsnDecode} {s : DecodeState}
    {payload : OctetStringT} {valueStr : OctetString}
    (hstep : ¬ Fault asn (contextOf s) (.ricControlMessage payload))
    (htype : s.message.requestType = ControlMessageRequestIdType.TS)
    (hstr : messageString asn payload = some valueStr) :
    lastCharacter valueStr ≠ [] := by
  rw [← lastString_extractedValues asn (contextOf s) payload] at hstr
  rcases List.mem_filterMap.mp (List.mem_of_getLast? hstr) with
    ⟨item, hitem, hvalue⟩
  have hreadable : Readable item := by
    by_contra hnot
    exact hstep (Or.inr ⟨htype, item, hitem, hnot⟩)
  unfold itemString at hvalue
  split at hvalue
  · rename_i hoctet
    rcases hreadable hoctet with ⟨readable, hsome, hcontent⟩
    rw [hvalue] at hsome
    cases hsome
    unfold lastCharacter
    intro hnil
    exact hcontent (List.getLast?_eq_none_iff.mp
      (Option.toList_eq_nil_iff.mp hnil))
  · cases hvalue

theorem lastCharacter_ne_nil_of_run {asn : AsnDecode} {s s' : DecodeState}
    {ies : List RICcontrolRequestIEs} {payload : OctetStringT}
    {valueStr : OctetString}
    (hrun : PartialRun.run (decodeIE asn) s ies = some s')
    (hmem : (ControlMessageRequestIdType.TS,
        RICcontrolRequestIEs.ricControlMessage payload) ∈
      underRequestType s.message.requestType ies)
    (hstr : messageString asn payload = some valueStr) :
    lastCharacter valueStr ≠ [] := by
  rcases mem_annotate_iff.mp hmem with ⟨pre, post, hsplit, htype⟩
  rw [hsplit] at hrun
  rcases PartialRun.run_append_some hrun with ⟨mid, hpre, hpost⟩
  have hmid : mid.message.requestType = pre.foldl nextRequestType
      s.message.requestType :=
    PartialRun.run_context (fun s => s.message.requestType) nextRequestType
      (decodeIE_requestType asn) hpre
  rw [← htype] at hmid
  refine lastCharacter_ne_nil (s := mid) ?_ hmid hstr
  intro hfault
  rw [PartialRun.run_cons, decodeIE_of_fault hfault] at hpost
  cases hpost

theorem mem_underRequestType_iff
    {requestType inForce : ControlMessageRequestIdType}
    {ie : RICcontrolRequestIEs} {ies : List RICcontrolRequestIEs} :
    (inForce, ie) ∈ underRequestType requestType ies <->
      exists pre post, ies = pre ++ ie :: post ∧
        inForce = (lastNamed pre).getD requestType := by
  unfold underRequestType
  rw [mem_annotate_iff]
  simp only [foldl_nextRequestType]
  exact Iff.rfl

def targetFrom (asn : AsnDecode) (requestType : ControlMessageRequestIdType)
    (ies : List RICcontrolRequestIEs) : List UInt8 :=
  lastWrite (fun p => cellIdWrite asn p.1 p.2) []
    (underRequestType requestType ies)

theorem secondaryCellId_new {asn : AsnDecode} {leftover : ObjectLeftover}
    {frames : Nat -> ItemLeftover} {request : RICcontrolRequestT}
    {message : RicControlMessage}
    (hnew : RicControlMessage.new asn leftover frames request
      = some message) :
    message.secondaryCellId =
      targetFrom asn leftover.requestType request.protocolIEs := by
  rcases new_eq_some_iff.mp hnew with ⟨s', hrun, rfl⟩
  exact (decode_effect hrun).cellId

theorem targetFrom_of_silent {asn : AsnDecode}
    {requestType : ControlMessageRequestIdType}
    {ies : List RICcontrolRequestIEs}
    (h : forall payload,
      (ControlMessageRequestIdType.TS,
        RICcontrolRequestIEs.ricControlMessage payload) ∈
        underRequestType requestType ies ->
      messageString asn payload = none) :
    targetFrom asn requestType ies = [] :=
  lastWrite_of_silent (cellIdWrite_silent_iff.mpr h) []

theorem targetFrom_of_last {asn : AsnDecode}
    {requestType : ControlMessageRequestIdType}
    {ies : List RICcontrolRequestIEs}
    {before after : List (ControlMessageRequestIdType × RICcontrolRequestIEs)}
    {payload : OctetStringT} {valueStr : OctetString}
    (hsplit : underRequestType requestType ies =
      before ++ (ControlMessageRequestIdType.TS,
        RICcontrolRequestIEs.ricControlMessage payload) :: after)
    (hstr : messageString asn payload = some valueStr)
    (hafter : forall later,
      (ControlMessageRequestIdType.TS,
        RICcontrolRequestIEs.ricControlMessage later) ∈ after ->
      messageString asn later = none) :
    targetFrom asn requestType ies = lastCharacter valueStr := by
  unfold targetFrom
  rw [hsplit]
  exact lastWrite_split
    (fun p : ControlMessageRequestIdType × RICcontrolRequestIEs =>
      cellIdWrite asn p.1 p.2)
    before
    (x := (ControlMessageRequestIdType.TS, .ricControlMessage payload))
    (cellIdWrite_message hstr) (cellIdWrite_silent_iff.mpr hafter) []

theorem targetFrom_cases (asn : AsnDecode)
    (requestType : ControlMessageRequestIdType)
    (ies : List RICcontrolRequestIEs) :
    ((forall payload,
        (ControlMessageRequestIdType.TS,
          RICcontrolRequestIEs.ricControlMessage payload) ∈
          underRequestType requestType ies ->
        messageString asn payload = none) ∧
      targetFrom asn requestType ies = []) ∨
    exists before payload after valueStr,
      underRequestType requestType ies =
          before ++ (ControlMessageRequestIdType.TS,
            RICcontrolRequestIEs.ricControlMessage payload) :: after ∧
        messageString asn payload = some valueStr ∧
        (forall later,
          (ControlMessageRequestIdType.TS,
            RICcontrolRequestIEs.ricControlMessage later) ∈ after ->
          messageString asn later = none) := by
  rcases exists_last_write (fun p => cellIdWrite asn p.1 p.2)
      (underRequestType requestType ies) with
    hsilent | ⟨before, p, after, cellId, hsplit, hp, hafter⟩
  · have hnone := cellIdWrite_silent_iff.mp hsilent
    exact Or.inl ⟨hnone, targetFrom_of_silent hnone⟩
  · rcases cellIdWrite_eq_some hp with ⟨payload, valueStr, rfl, hstr, _⟩
    exact Or.inr ⟨before, payload, after, valueStr, hsplit, hstr,
      cellIdWrite_silent_iff.mp hafter⟩

theorem targetFrom_ne_nil {asn : AsnDecode} {s s' : DecodeState}
    {ies : List RICcontrolRequestIEs}
    (hrun : PartialRun.run (decodeIE asn) s ies = some s')
    {payload : OctetStringT}
    (hmem : (ControlMessageRequestIdType.TS,
        RICcontrolRequestIEs.ricControlMessage payload) ∈
      underRequestType s.message.requestType ies)
    (hstring : messageString asn payload ≠ none) :
    targetFrom asn s.message.requestType ies ≠ [] := by
  rcases targetFrom_cases asn s.message.requestType ies with
    ⟨hnone, _⟩ | ⟨before, last, after, valueStr, hsplit, hstr, hafter⟩
  · exact absurd (hnone payload hmem) hstring
  · rw [targetFrom_of_last hsplit hstr hafter]
    apply lastCharacter_ne_nil_of_run hrun _ hstr
    rw [hsplit]
    exact List.mem_append.mpr (Or.inr List.mem_cons_self)

theorem cellId_agrees_iff {asn : AsnDecode} {leftover : ObjectLeftover}
    {frames : Nat -> ItemLeftover} {s' : DecodeState}
    {ies : List RICcontrolRequestIEs} {requestor : Int}
    (hrun : PartialRun.run (decodeIE asn)
      { message := leftover.object, frames := frames } ies = some s')
    (hfinal : finalRequestor ies = some requestor) :
    (s'.message.secondaryCellId ≠ [] ->
      requestor = 1001 ∧
        exists valueStr, lastString s'.message.valuesExtracted
            = some valueStr ∧
          s'.message.secondaryCellId = lastCharacter valueStr) <->
      HandoverCurrent asn leftover ies := by
  have hstring : lastString s'.message.valuesExtracted =
      finalString asn ies := lastString_run hrun
  have hcell : s'.message.secondaryCellId =
      targetFrom asn leftover.requestType ies :=
    (decode_effect hrun).cellId
  rw [hstring, hcell]
  unfold HandoverCurrent
  rw [hfinal]
  constructor
  · intro h before payload after valueStr hsplit hstr hafter
    have hmem : (ControlMessageRequestIdType.TS,
        RICcontrolRequestIEs.ricControlMessage payload) ∈
          underRequestType leftover.requestType ies := by
      rw [hsplit]
      exact List.mem_append.mpr (Or.inr List.mem_cons_self)
    have hne := targetFrom_ne_nil hrun hmem (by rw [hstr]; simp)
    rcases h hne with ⟨hrequestor, final, hfinalString, hchar⟩
    rw [targetFrom_of_last hsplit hstr hafter] at hchar
    exact ⟨congrArg some hrequestor, final, hfinalString, hchar⟩
  · intro h hne
    rcases targetFrom_cases asn leftover.requestType ies with
      ⟨_, hnil⟩ | ⟨before, payload, after, valueStr, hsplit, hstr, hafter⟩
    · exact absurd hnil hne
    · rcases h before payload after valueStr hsplit hstr hafter with
        ⟨hrequestor, final, hfinalString, hchar⟩
      rw [targetFrom_of_last hsplit hstr hafter]
      exact ⟨Option.some.inj hrequestor, final, hfinalString, hchar⟩

theorem finalRequestor_of_mem {ies : List RICcontrolRequestIEs}
    {id : RICrequestIDT} (h : .ricRequestID id ∈ ies) :
    exists requestor, finalRequestor ies = some requestor := by
  have hne : ies.filterMap requestIdWrite ≠ [] := by
    intro hnil
    have hnone := List.filterMap_eq_nil_iff.mp hnil _ h
    cases hnone
  rcases Option.isSome_iff_exists.mp (List.getLast?_isSome.mpr hne) with
    ⟨last, hlast⟩
  exact ⟨last.ricRequestorID, by unfold finalRequestor; rw [hlast]; rfl⟩

theorem requestor_of_run {asn : AsnDecode} {s s' : DecodeState}
    {ies : List RICcontrolRequestIEs} {requestor : Int}
    (hrun : PartialRun.run (decodeIE asn) s ies = some s')
    (hfinal : finalRequestor ies = some requestor) :
    s'.message.ricRequestId.ricRequestorID = requestor := by
  rw [(decode_effect hrun).requestId]
  unfold lastWrite
  rcases Option.map_eq_some_iff.mp hfinal with ⟨id, hid, hrequestor⟩
  rw [hid, ← hrequestor]
  rfl

theorem membersAgree_iff {asn : AsnDecode} {leftover : ObjectLeftover}
    {frames : Nat -> ItemLeftover} {request : RICcontrolRequestT}
    {message : RicControlMessage}
    (hid : exists id, .ricRequestID id ∈ request.protocolIEs)
    (hnew : RicControlMessage.new asn leftover frames request
      = some message) :
    MembersAgree message <->
      RequestorCurrent leftover request.protocolIEs ∧
        HandoverCurrent asn leftover request.protocolIEs := by
  rcases new_eq_some_iff.mp hnew with ⟨s', hrun, rfl⟩
  rcases hid with ⟨id, hmem⟩
  rcases finalRequestor_of_mem hmem with ⟨requestor, hfinal⟩
  have htype : s'.message.requestType =
      lastWrite namedRequestType leftover.requestType request.protocolIEs :=
    (decode_effect hrun).requestType
  unfold MembersAgree
  rw [requestor_of_run hrun hfinal, ← and_assoc, htype,
    requestType_agrees_iff hfinal, cellId_agrees_iff hrun hfinal]

def handoverRequest : RICcontrolRequestT where
  protocolIEs :=
    [.ricRequestID { ricRequestorID := 1001, ricInstanceID := 0 },
     .ricControlMessage (OctetStringT.ofBytes [])]

theorem handoverRequest_current :
    RequestorCurrent (zeroedExcept (.unnamed 0)) handoverRequest.protocolIEs ∧
      HandoverCurrent (AsnDecode.constant (octetStringMessage [49, 49, 49, 51]))
        (zeroedExcept (.unnamed 0)) handoverRequest.protocolIEs :=
  (membersAgree_iff ⟨_, List.mem_cons_self⟩
    (show RicControlMessage.new
        (AsnDecode.constant (octetStringMessage [49, 49, 49, 51]))
        (zeroedExcept (.unnamed 0))
        (fun _ => { valueType := .nothing, valueInt := 0 })
        handoverRequest = some _ from rfl)).mp
    ⟨fun _ => rfl, fun h => (by cases h),
      fun _ => ⟨rfl, _, rfl, rfl⟩⟩

def supersededRequest : RICcontrolRequestT where
  protocolIEs :=
    handoverRequest.protocolIEs ++
      [.ricRequestID { ricRequestorID := 7, ricInstanceID := 0 }]

theorem supersededRequest_disagrees :
    exists message,
      RicControlMessage.new
          (AsnDecode.constant (octetStringMessage [49, 49, 49, 51]))
          (zeroedExcept (.unnamed 0))
          (fun _ => { valueType := .nothing, valueInt := 0 })
          supersededRequest = some message ∧
        message.requestType = ControlMessageRequestIdType.TS ∧
        message.getSecondaryCellIdHO = [51] ∧
        message.ricRequestId.ricRequestorID = 7 ∧
        ¬ MembersAgree message := by
  refine ⟨_, rfl, rfl, rfl, rfl, ?_⟩
  intro h
  exact absurd (h.left rfl) (by decide)

end Control
end OranE2
