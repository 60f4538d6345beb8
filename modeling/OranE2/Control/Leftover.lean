import OranE2.Control.Agreement

/-!
# Independence of leftover memory

The constructor reads the request type that the memory under the object
happens to hold, and leaves three members as they were when the request lacks
the elements that set them.  This module determines for which requests two
objects built in different memory cannot be told apart.
-/

namespace OranE2
namespace Control

open Library
open E2ap
open Asn1c

def observe (message : RicControlMessage) :
    ControlMessageRequestIdType × List UInt8 × HeaderPointer :=
  (message.requestType, message.getSecondaryCellIdHO,
    message.e2SmRcControlHeaderFormat1)

/-- Whatever the memory under the object held, the caller sees the same. -/
def LeftoverInvisible (asn : AsnDecode) (frames : Nat -> ItemLeftover)
    (request : RICcontrolRequestT) : Prop :=
  forall leftover leftover',
    (RicControlMessage.new asn leftover frames request).map observe =
      (RicControlMessage.new asn leftover' frames request).map observe

/-- A control message that leaves the domain of the loop in every memory. -/
def Doomed (asn : AsnDecode) (frames : Nat -> ItemLeftover)
    (ies : List RICcontrolRequestIEs) : Prop :=
  exists pre payload post,
    ies = pre ++ .ricControlMessage payload :: post ∧
      (¬ MessageWalkable (decodedMessage asn payload) ∨
        (lastNamed pre = some ControlMessageRequestIdType.TS ∧
          exists item, item ∈ itemsAt asn frames pre payload ∧
            ¬ Readable item))

/-- The request sets every member that the caller sees, and no control message
that comes before the first known requestor makes a difference. -/
structure Settled (asn : AsnDecode) (frames : Nat -> ItemLeftover)
    (ies : List RICcontrolRequestIEs) : Prop where
  requestor : exists ie, ie ∈ ies ∧ namedRequestType ie ≠ none
  header : exists ie, ie ∈ ies ∧ headerWrite asn ie ≠ none
  earlyReadable : forall pre payload post,
    ies = pre ++ .ricControlMessage payload :: post ->
    lastNamed pre = none ->
    forall item, item ∈ itemsAt asn frames pre payload -> Readable item
  target :
    (forall pre payload post,
      ies = pre ++ .ricControlMessage payload :: post ->
      lastNamed pre = none -> messageString asn payload = none) ∨
    exists pre payload post,
      ies = pre ++ .ricControlMessage payload :: post ∧
        lastNamed pre = some ControlMessageRequestIdType.TS ∧
        messageString asn payload ≠ none

/-!
## The request type in force
-/

theorem lastNamed_eq_none_iff {pre : List RICcontrolRequestIEs} :
    lastNamed pre = none <->
      forall ie, ie ∈ pre -> namedRequestType ie = none := by
  unfold lastNamed
  rw [List.getLast?_eq_none_iff]
  exact List.filterMap_eq_nil_iff

theorem targetFrom_append {asn : AsnDecode}
    {pre : List RICcontrolRequestIEs}
    {named : ControlMessageRequestIdType} (hnamed : lastNamed pre = some named)
    (requestType : ControlMessageRequestIdType)
    (post : List RICcontrolRequestIEs) :
    targetFrom asn requestType (pre ++ post) =
      lastWrite (fun p => cellIdWrite asn p.1 p.2)
        (targetFrom asn requestType pre) (underRequestType named post) := by
  have hforce : pre.foldl nextRequestType requestType = named := by
    rw [foldl_nextRequestType]
    show (lastNamed pre).getD requestType = named
    rw [hnamed]
    rfl
  unfold targetFrom underRequestType
  rw [annotate_append, lastWrite_append, hforce]

theorem targetFrom_of_later {asn : AsnDecode}
    {pre post : List RICcontrolRequestIEs} {payload : OctetStringT}
    (hnamed : lastNamed pre = some ControlMessageRequestIdType.TS)
    (hstring : messageString asn payload ≠ none)
    (requestType requestType' : ControlMessageRequestIdType) :
    targetFrom asn requestType (pre ++ .ricControlMessage payload :: post) =
      targetFrom asn requestType'
        (pre ++ .ricControlMessage payload :: post) := by
  rw [targetFrom_append hnamed, targetFrom_append hnamed]
  rcases Option.ne_none_iff_exists'.mp hstring with ⟨valueStr, hstr⟩
  apply lastWrite_init_irrelevant
  refine ⟨(ControlMessageRequestIdType.TS, .ricControlMessage payload),
    List.mem_cons_self, ?_⟩
  show cellIdWrite asn ControlMessageRequestIdType.TS
    (.ricControlMessage payload) ≠ none
  rw [cellIdWrite_message hstr]
  exact Option.some_ne_none _

theorem targetFrom_of_early_silent {asn : AsnDecode}
    {ies : List RICcontrolRequestIEs}
    (hrequestor : exists ie, ie ∈ ies ∧ namedRequestType ie ≠ none)
    (hearly : forall pre payload post,
      ies = pre ++ .ricControlMessage payload :: post ->
      lastNamed pre = none -> messageString asn payload = none)
    (requestType requestType' : ControlMessageRequestIdType) :
    targetFrom asn requestType ies = targetFrom asn requestType' ies := by
  rcases exists_first_write namedRequestType ies with
    hsilent | ⟨early, ie, late, named, hsplit, hie, hsilent⟩
  · rcases hrequestor with ⟨ie, hmem, hie⟩
    exact absurd (hsilent ie hmem) hie
  · have hnone : forall t, targetFrom asn t early = [] := by
      intro t
      apply targetFrom_of_silent
      intro payload hmem
      rcases mem_underRequestType_iff.mp hmem with ⟨pre, post, hpre, _⟩
      apply hearly pre payload (post ++ ie :: late)
      · rw [hsplit, hpre, List.append_assoc]
        rfl
      · apply lastNamed_eq_none_iff.mpr
        intro other hother
        apply hsilent
        rw [hpre]
        exact List.mem_append.mpr (Or.inl hother)
    have hnamed : lastNamed (early ++ [ie]) = some named := by
      unfold lastNamed
      rw [List.filterMap_append, List.filterMap_cons_some hie]
      simp
    have hstart : forall t, targetFrom asn t (early ++ [ie]) = [] := by
      intro t
      unfold targetFrom underRequestType
      rw [annotate_append, lastWrite_append]
      show lastWrite _ (targetFrom asn t early) _ = []
      rw [hnone]
      cases ie with
      | ricRequestID id => rfl
      | _ => cases hie
    rw [hsplit, show early ++ ie :: late = early ++ [ie] ++ late by simp,
      targetFrom_append hnamed, targetFrom_append hnamed, hstart, hstart]

/-!
## Settled requests
-/

theorem doomed_of_none {asn : AsnDecode} {frames : Nat -> ItemLeftover}
    {leftover : ObjectLeftover} {request : RICcontrolRequestT}
    (hearly : forall pre payload post,
      request.protocolIEs = pre ++ .ricControlMessage payload :: post ->
      lastNamed pre = none ->
      (lastNamed pre).getD leftover.requestType =
        ControlMessageRequestIdType.TS ->
      forall item, item ∈ itemsAt asn frames pre payload -> Readable item)
    (hnew : RicControlMessage.new asn leftover frames request = none) :
    Doomed asn frames request.protocolIEs := by
  rcases new_eq_none_iff_at.mp hnew with ⟨pre, payload, post, hsplit, hbad⟩
  refine ⟨pre, payload, post, hsplit, ?_⟩
  rcases hbad with hnot | ⟨hTS, item, hitem, hread⟩
  · exact Or.inl hnot
  · cases hnamed : lastNamed pre with
    | none =>
        exact absurd (hearly pre payload post hsplit hnamed hTS item hitem)
          hread
    | some named =>
        rw [hnamed] at hTS
        exact Or.inr ⟨congrArg some hTS, item, hitem, hread⟩

theorem none_of_doomed {asn : AsnDecode} {frames : Nat -> ItemLeftover}
    {request : RICcontrolRequestT}
    (h : Doomed asn frames request.protocolIEs) (leftover : ObjectLeftover) :
    RicControlMessage.new asn leftover frames request = none := by
  rcases h with ⟨pre, payload, post, hsplit, hbad⟩
  apply new_eq_none_iff_at.mpr
  refine ⟨pre, payload, post, hsplit, ?_⟩
  rcases hbad with hnot | ⟨hnamed, hitem⟩
  · exact Or.inl hnot
  · rw [hnamed]
    exact Or.inr ⟨rfl, hitem⟩

theorem observe_new {asn : AsnDecode} {leftover : ObjectLeftover}
    {frames : Nat -> ItemLeftover} {request : RICcontrolRequestT}
    {message : RicControlMessage}
    (hnew : RicControlMessage.new asn leftover frames request
      = some message) :
    observe message =
      (lastWrite namedRequestType leftover.requestType request.protocolIEs,
        targetFrom asn leftover.requestType request.protocolIEs,
        lastWrite (headerWrite asn) leftover.e2SmRcControlHeaderFormat1
          request.protocolIEs) := by
  have htarget := secondaryCellId_new hnew
  rcases new_eq_some_iff.mp hnew with ⟨s', hrun, rfl⟩
  have heffect := decode_effect hrun
  unfold observe RicControlMessage.getSecondaryCellIdHO
  rw [heffect.requestType, htarget, heffect.header]
  rfl

theorem observe_eq_of_settled {asn : AsnDecode}
    {frames : Nat -> ItemLeftover} {request : RICcontrolRequestT}
    (h : Settled asn frames request.protocolIEs)
    {leftover leftover' : ObjectLeftover}
    {message message' : RicControlMessage}
    (hnew : RicControlMessage.new asn leftover frames request
      = some message)
    (hnew' : RicControlMessage.new asn leftover' frames request
      = some message') :
    observe message = observe message' := by
  have htarget : targetFrom asn leftover.requestType request.protocolIEs =
      targetFrom asn leftover'.requestType request.protocolIEs := by
    rcases h.target with hearly | ⟨pre, payload, post, hsplit, hnamed, hstr⟩
    · exact targetFrom_of_early_silent h.requestor hearly _ _
    · rw [hsplit]
      exact targetFrom_of_later hnamed hstr _ _
  rw [observe_new hnew, observe_new hnew', htarget,
    lastWrite_init_irrelevant h.requestor leftover.requestType
      leftover'.requestType,
    lastWrite_init_irrelevant h.header leftover.e2SmRcControlHeaderFormat1
      leftover'.e2SmRcControlHeaderFormat1]

theorem invisible_of_settled {asn : AsnDecode}
    {frames : Nat -> ItemLeftover} {request : RICcontrolRequestT}
    (h : Settled asn frames request.protocolIEs) :
    LeftoverInvisible asn frames request := by
  intro leftover leftover'
  have hboth : forall left right,
      RicControlMessage.new asn left frames request = none ->
      RicControlMessage.new asn right frames request = none := by
    intro left right hnone
    apply none_of_doomed
    apply doomed_of_none _ hnone
    intro pre payload post hsplit hnamed _
    exact h.earlyReadable pre payload post hsplit hnamed
  cases hnew : RicControlMessage.new asn leftover frames request with
  | none => rw [hboth leftover leftover' hnew]
  | some message =>
      cases hnew' : RicControlMessage.new asn leftover' frames request with
      | none =>
          rw [hboth leftover' leftover hnew'] at hnew
          cases hnew
      | some message' =>
          exact congrArg some (observe_eq_of_settled h hnew hnew')

/-!
## Requests that expose the memory
-/

section Exposed

variable {asn : AsnDecode} {frames : Nat -> ItemLeftover}
variable {request : RICcontrolRequestT}

theorem new_of_not_doomed
    (hnot : ¬ Doomed asn frames request.protocolIEs)
    (leftover : ObjectLeftover)
    (htype : leftover.requestType ≠ ControlMessageRequestIdType.TS) :
    exists message,
      RicControlMessage.new asn leftover frames request = some message := by
  cases hnew : RicControlMessage.new asn leftover frames request with
  | some message => exact ⟨message, rfl⟩
  | none =>
      refine absurd (doomed_of_none ?_ hnew) hnot
      intro pre payload post _ hnamed hTS
      rw [hnamed] at hTS
      exact absurd hTS htype

theorem observe_eq_of_invisible (h : LeftoverInvisible asn frames request)
    (hnot : ¬ Doomed asn frames request.protocolIEs)
    (leftover leftover' : ObjectLeftover) :
    exists message message',
      RicControlMessage.new asn leftover frames request = some message ∧
      RicControlMessage.new asn leftover' frames request = some message' ∧
      observe message = observe message' := by
  rcases new_of_not_doomed hnot (zeroedExcept .QoS)
    (by intro hne; cases hne) with ⟨other, hother⟩
  have hcompletes : forall left, exists message,
      RicControlMessage.new asn left frames request = some message := by
    intro left
    have hsame := h left (zeroedExcept .QoS)
    rw [hother] at hsame
    rcases Option.map_eq_some_iff.mp hsame with ⟨message, hnew, _⟩
    exact ⟨message, hnew⟩
  rcases hcompletes leftover with ⟨message, hnew⟩
  rcases hcompletes leftover' with ⟨message', hnew'⟩
  have hsame := h leftover leftover'
  rw [hnew, hnew'] at hsame
  exact ⟨message, message', hnew, hnew', Option.some.inj hsame⟩

theorem requestor_of_invisible (h : LeftoverInvisible asn frames request)
    (hnot : ¬ Doomed asn frames request.protocolIEs) :
    exists ie, ie ∈ request.protocolIEs ∧ namedRequestType ie ≠ none := by
  by_contra hnone
  push Not at hnone
  rcases observe_eq_of_invisible h hnot (zeroedExcept .TS)
    (zeroedExcept .QoS) with ⟨message, message', hnew, hnew', hsame⟩
  rw [observe_new hnew, observe_new hnew', lastWrite_of_silent hnone,
    lastWrite_of_silent hnone] at hsame
  cases congrArg Prod.fst hsame

theorem header_of_invisible (h : LeftoverInvisible asn frames request)
    (hnot : ¬ Doomed asn frames request.protocolIEs) :
    exists ie, ie ∈ request.protocolIEs ∧ headerWrite asn ie ≠ none := by
  by_contra hnone
  push Not at hnone
  rcases observe_eq_of_invisible h hnot
    { zeroedExcept .QoS with
      e2SmRcControlHeaderFormat1 := HeaderPointer.wild 0 }
    (zeroedExcept .QoS) with ⟨message, message', hnew, hnew', hsame⟩
  rw [observe_new hnew, observe_new hnew', lastWrite_of_silent hnone,
    lastWrite_of_silent hnone] at hsame
  cases congrArg (fun seen => seen.2.2) hsame

theorem earlyReadable_of_invisible (h : LeftoverInvisible asn frames request)
    (hnot : ¬ Doomed asn frames request.protocolIEs)
    {pre post : List RICcontrolRequestIEs} {payload : OctetStringT}
    (hsplit : request.protocolIEs = pre ++ .ricControlMessage payload :: post)
    (hnamed : lastNamed pre = none) {item : RANParameterItem}
    (hitem : item ∈ itemsAt asn frames pre payload) : Readable item := by
  by_contra hread
  rcases observe_eq_of_invisible h hnot (zeroedExcept .TS)
    (zeroedExcept .TS) with ⟨message, _, hnew, _⟩
  have hnone : RicControlMessage.new asn (zeroedExcept .TS) frames request
      = none := by
    apply new_eq_none_iff_at.mpr
    refine ⟨pre, payload, post, hsplit, Or.inr ⟨?_, item, hitem, hread⟩⟩
    rw [hnamed]
    rfl
  rw [hnone] at hnew
  cases hnew

theorem targetFrom_QoS {ies : List RICcontrolRequestIEs}
    (h : forall pre payload post,
      ies = pre ++ .ricControlMessage payload :: post ->
      lastNamed pre = some ControlMessageRequestIdType.TS ->
      messageString asn payload = none) :
    targetFrom asn ControlMessageRequestIdType.QoS ies = [] := by
  apply targetFrom_of_silent
  intro payload hmem
  rcases mem_underRequestType_iff.mp hmem with ⟨pre, post, hsplit, hTS⟩
  apply h pre payload post hsplit
  cases hnamed : lastNamed pre with
  | none =>
      rw [hnamed] at hTS
      cases hTS
  | some named =>
      rw [hnamed] at hTS
      exact congrArg some hTS.symm

theorem target_of_invisible (h : LeftoverInvisible asn frames request)
    (hnot : ¬ Doomed asn frames request.protocolIEs) :
    (forall pre payload post,
      request.protocolIEs = pre ++ .ricControlMessage payload :: post ->
      lastNamed pre = none -> messageString asn payload = none) ∨
    exists pre payload post,
      request.protocolIEs = pre ++ .ricControlMessage payload :: post ∧
        lastNamed pre = some ControlMessageRequestIdType.TS ∧
        messageString asn payload ≠ none := by
  by_contra hneither
  push Not at hneither
  rcases hneither with ⟨⟨pre, payload, post, hsplit, hnamed, hstring⟩, hlate⟩
  rcases observe_eq_of_invisible h hnot (zeroedExcept .TS)
    (zeroedExcept .QoS) with ⟨message, message', hnew, hnew', hsame⟩
  rw [observe_new hnew, observe_new hnew'] at hsame
  have htarget := congrArg (fun seen => seen.2.1) hsame
  have hQoS : targetFrom asn ControlMessageRequestIdType.QoS
      request.protocolIEs = [] := targetFrom_QoS hlate
  have hmem : (ControlMessageRequestIdType.TS,
      RICcontrolRequestIEs.ricControlMessage payload) ∈
        underRequestType ControlMessageRequestIdType.TS
          request.protocolIEs := by
    apply mem_underRequestType_iff.mpr
    exact ⟨pre, post, hsplit, by rw [hnamed]; rfl⟩
  rcases new_eq_some_iff.mp hnew with ⟨s', hrun, _⟩
  exact targetFrom_ne_nil hrun hmem hstring (htarget.trans hQoS)

end Exposed

theorem leftover_irrelevant_iff (asn : AsnDecode)
    (frames : Nat -> ItemLeftover) (request : RICcontrolRequestT) :
    LeftoverInvisible asn frames request <->
      Doomed asn frames request.protocolIEs ∨
        Settled asn frames request.protocolIEs := by
  constructor
  · intro h
    by_cases hdoomed : Doomed asn frames request.protocolIEs
    · exact Or.inl hdoomed
    · apply Or.inr
      exact
        { requestor := requestor_of_invisible h hdoomed
          header := header_of_invisible h hdoomed
          earlyReadable := fun _ _ _ hsplit hnamed _ hitem =>
            earlyReadable_of_invisible h hdoomed hsplit hnamed hitem
          target := target_of_invisible h hdoomed }
  · intro h
    rcases h with hdoomed | hsettled
    · intro leftover leftover'
      rw [none_of_doomed hdoomed, none_of_doomed hdoomed]
    · exact invisible_of_settled hsettled

def unknownRequestorRequest : RICcontrolRequestT where
  protocolIEs :=
    [.ricRequestID { ricRequestorID := 7, ricInstanceID := 0 },
     .ricControlMessage (OctetStringT.ofBytes [])]

/-- In memory that happens to hold TS, requestor 7 obtains a handover. -/
theorem unknownRequestorRequest_depends_on_leftover :
    (RicControlMessage.new
        (AsnDecode.constant (octetStringMessage [49, 49, 49, 51]))
        (zeroedExcept .TS) (fun _ => { valueType := .nothing, valueInt := 0 })
        unknownRequestorRequest).map observe =
      some (.TS, [51], .null) ∧
    (RicControlMessage.new
        (AsnDecode.constant (octetStringMessage [49, 49, 49, 51]))
        (zeroedExcept .QoS) (fun _ => { valueType := .nothing, valueInt := 0 })
        unknownRequestorRequest).map observe =
      some (.QoS, [], .null) ∧
    ¬ LeftoverInvisible
        (AsnDecode.constant (octetStringMessage [49, 49, 49, 51]))
        (fun _ => { valueType := .nothing, valueInt := 0 })
        unknownRequestorRequest := by
  refine ⟨rfl, rfl, ?_⟩
  intro h
  have hsame := h (zeroedExcept .TS) (zeroedExcept .QoS)
  change some (_, [51], _) = some (_, [], _) at hsame
  cases hsame

end Control
end OranE2
