import OranE2.Control.Agreement

/-!
# Order of the information elements

A control message is treated according to the request type in force when it
arrives, so the request id should come first.  This module determines for
which requests the order of the elements does not matter.
-/

namespace OranE2
namespace Control

open Library
open E2ap
open Asn1c

inductive IEKind where
  | ricRequestID
  | ranFunctionID
  | ricCallProcessID
  | ricControlHeader
  | ricControlMessage
  | ricControlAckRequest
  deriving DecidableEq, Repr

def kindOf : RICcontrolRequestIEs -> Option IEKind
  | .ricRequestID _ => some .ricRequestID
  | .ranFunctionID _ => some .ranFunctionID
  | .ricCallProcessID _ => some .ricCallProcessID
  | .ricControlHeader _ => some .ricControlHeader
  | .ricControlMessage _ => some .ricControlMessage
  | .ricControlAckRequest _ => some .ricControlAckRequest
  | .nothing => none
  | .other _ => none

def OncePerKind (ies : List RICcontrolRequestIEs) : Prop :=
  (ies.filterMap kindOf).Nodup

/-- The control message yields no item tagged as an octet string. -/
def NoOctetString (asn : AsnDecode) (frames : Nat -> ItemLeftover)
    (ies : List RICcontrolRequestIEs) : Prop :=
  forall payload, .ricControlMessage payload ∈ ies ->
    MessageWalkable (decodedMessage asn payload) ->
    forall item,
      item ∈ RANParameterItem.ofLeaves frames
        (messageLeaves (decodedMessage asn payload)) ->
      item.valueType ≠ ValueType.octectString

/-- The memory under the object agrees with the request id on whether the
request type is TS, or nothing in the message depends on it. -/
def OrderIrrelevant (asn : AsnDecode) (leftover : ObjectLeftover)
    (frames : Nat -> ItemLeftover) (id : RICrequestIDT)
    (ies : List RICcontrolRequestIEs) : Prop :=
  (leftover.requestType = ControlMessageRequestIdType.TS <->
      id.ricRequestorID = 1001) ∨
    NoOctetString asn frames ies

/-- The members that the elements store when each is treated as in the initial
context. -/
def storedMembers (asn : AsnDecode) (leftover : ObjectLeftover)
    (frames : Nat -> ItemLeftover) (ies : List RICcontrolRequestIEs) :
    RicControlMessage where
  requestType := lastWrite namedRequestType leftover.requestType ies
  valuesExtracted :=
    lastWrite (valuesWrite asn (startContext leftover frames)) [] ies
  ranFunctionId := lastWrite ranFunctionIdWrite leftover.ranFunctionId ies
  ricRequestId := lastWrite requestIdWrite leftover.ricRequestId ies
  ricCallProcessId :=
    lastWrite callProcessIdWrite leftover.ricCallProcessId ies
  e2SmRcControlHeaderFormat1 :=
    lastWrite (headerWrite asn) leftover.e2SmRcControlHeaderFormat1 ies
  secondaryCellId :=
    lastWrite (cellIdWrite asn leftover.requestType) [] ies

/-!
## The context of a single control message
-/

theorem framesAfter_of_no_message {asn : AsnDecode}
    {frames : Nat -> ItemLeftover} {pre : List RICcontrolRequestIEs}
    (h : forall payload, .ricControlMessage payload ∉ pre) :
    framesAfter asn frames pre = frames := by
  induction pre with
  | nil => rfl
  | cons ie pre ih =>
      have hidle : constructedItems asn ie = 0 := by
        cases ie with
        | ricControlMessage payload =>
            exact absurd List.mem_cons_self (h payload)
        | _ => rfl
      have hsame : (fun k => frames (constructedItems asn ie + k)) = frames := by
        funext k
        rw [hidle, Nat.zero_add]
      show framesAfter asn (fun k => frames (constructedItems asn ie + k)) pre
        = frames
      rw [hsame]
      exact ih fun payload hmem => h payload (List.mem_cons_of_mem ie hmem)

theorem ricRequestID_unique {ies : List RICcontrolRequestIEs}
    (honce : OncePerKind ies) {id other : RICrequestIDT}
    (hid : .ricRequestID id ∈ ies) (hother : .ricRequestID other ∈ ies) :
    other = id := by
  rcases List.append_of_mem hid with ⟨pre, post, hsplit⟩
  unfold OncePerKind at honce
  rw [hsplit] at honce hother
  have hout := not_mem_of_kind_nodup kindOf pre (y := .ricRequestID other)
    honce rfl rfl
  rcases List.mem_append.mp hother with hpre | hpost
  · exact absurd hpre hout.left
  · rcases List.mem_cons.mp hpost with heq | hpost
    · exact RICcontrolRequestIEs.ricRequestID.inj heq
    · exact absurd hpost hout.right

/-!
## Requests whose order does not matter
-/

section SameTreatment

variable {asn : AsnDecode} {leftover : ObjectLeftover}
variable {frames : Nat -> ItemLeftover} {id : RICrequestIDT}
variable {ies : List RICcontrolRequestIEs}

theorem frames_at_message (honce : OncePerKind ies) {c : DecodeContext}
    {payload : OctetStringT}
    (hmem : (c, .ricControlMessage payload) ∈
      inContext asn (startContext leftover frames) ies) :
    c.frames = frames := by
  rcases mem_annotate_iff.mp hmem with ⟨pre, post, hsplit, hc⟩
  rw [hc, foldl_nextContext_frames]
  apply framesAfter_of_no_message
  intro other
  unfold OncePerKind at honce
  rw [hsplit] at honce
  exact (not_mem_of_kind_nodup kindOf pre (y := .ricControlMessage other)
    honce rfl rfl).left

theorem isTS_in_force (honce : OncePerKind ies)
    (hid : .ricRequestID id ∈ ies)
    (hagree : leftover.requestType = ControlMessageRequestIdType.TS <->
      id.ricRequestorID = 1001)
    {pre post : List RICcontrolRequestIEs} (hsplit : ies = pre ++ post) :
    lastWrite namedRequestType leftover.requestType pre =
        ControlMessageRequestIdType.TS <->
      leftover.requestType = ControlMessageRequestIdType.TS := by
  rcases requestType_in_force leftover.requestType pre with
    hsame | ⟨other, hother, hnamed⟩
  · rw [hsame]
  · have hmem : .ricRequestID other ∈ ies := by
      rw [hsplit]
      exact List.mem_append.mpr (Or.inl hother)
    rw [ricRequestID_unique honce hid hmem] at hnamed
    rw [hagree]
    rcases requestTypeOf_eq_some hnamed with ⟨hid, htype⟩ | ⟨hid, htype⟩
    · simp [hid, htype]
    · simp [hid, htype]

theorem messageString_of_noOctetString {payload : OctetStringT}
    (h : forall item,
      item ∈ RANParameterItem.ofLeaves frames
        (messageLeaves (decodedMessage asn payload)) ->
      item.valueType ≠ ValueType.octectString) :
    messageString asn payload = none := by
  unfold messageString
  rw [← filterMap_itemString_ofLeaves frames]
  have hnil : (RANParameterItem.ofLeaves frames
      (messageLeaves (decodedMessage asn payload))).filterMap itemString
      = [] := by
    apply List.filterMap_eq_nil_iff.mpr
    intro item hitem
    exact if_neg (h item hitem)
  rw [hnil]
  rfl

theorem fault_in_context (honce : OncePerKind ies)
    (hid : .ricRequestID id ∈ ies)
    (horder : OrderIrrelevant asn leftover frames id ies)
    {p : DecodeContext × RICcontrolRequestIEs}
    (hp : p ∈ inContext asn (startContext leftover frames) ies) :
    Fault asn p.1 p.2 <->
      Fault asn (startContext leftover frames) p.2 := by
  rcases p with ⟨c, ie⟩
  cases ie with
  | ricControlMessage payload =>
      have hframes := frames_at_message honce hp
      have hvalues : extractedValues asn c payload =
          extractedValues asn (startContext leftover frames) payload := by
        unfold extractedValues
        rw [hframes]
        rfl
      rcases mem_annotate_iff.mp hp with ⟨pre, post, hsplit, hc⟩
      have htype : c.requestType =
          lastWrite namedRequestType leftover.requestType pre := by
        rw [hc, foldl_nextContext_requestType, foldl_nextRequestType]
        rfl
      rcases horder with hagree | hnone
      · have hTS := isTS_in_force honce hid hagree hsplit
        rw [← htype] at hTS
        show (_ ∨ (c.requestType = _ ∧ _)) <->
          (_ ∨ (leftover.requestType = _ ∧ _))
        rw [hTS, hvalues]
      · by_cases hwalk : MessageWalkable (decodedMessage asn payload)
        · have hreadable (c : DecodeContext) (hframes : c.frames = frames) :
              ¬ Fault asn c (.ricControlMessage payload) := by
            intro hfault
            rcases hfault with hnot | ⟨_, item, hitem, hread⟩
            · exact hnot hwalk
            · apply hread
              intro hoctet
              unfold extractedValues at hitem
              rw [hframes] at hitem
              refine absurd hoctet (hnone payload ?_ hwalk item hitem)
              rw [hsplit]
              simp
          exact iff_of_false (hreadable c hframes) (hreadable _ rfl)
        · exact iff_of_true (Or.inl hwalk) (Or.inl hwalk)
  | _ => exact Iff.rfl

theorem valuesWrite_in_context (honce : OncePerKind ies)
    {p : DecodeContext × RICcontrolRequestIEs}
    (hp : p ∈ inContext asn (startContext leftover frames) ies) :
    valuesWrite asn p.1 p.2 =
      valuesWrite asn (startContext leftover frames) p.2 := by
  rcases p with ⟨c, ie⟩
  cases ie with
  | ricControlMessage payload =>
      have hframes := frames_at_message honce hp
      unfold valuesWrite extractedValues
      rw [hframes]
      rfl
  | _ => rfl

theorem cellIdWrite_in_context (honce : OncePerKind ies)
    (hid : .ricRequestID id ∈ ies)
    (hwalk : forall payload, .ricControlMessage payload ∈ ies ->
      MessageWalkable (decodedMessage asn payload))
    (horder : OrderIrrelevant asn leftover frames id ies)
    {p : ControlMessageRequestIdType × RICcontrolRequestIEs}
    (hp : p ∈ underRequestType leftover.requestType ies) :
    cellIdWrite asn p.1 p.2 = cellIdWrite asn leftover.requestType p.2 := by
  rcases p with ⟨requestType, ie⟩
  cases ie with
  | ricControlMessage payload =>
      rcases mem_annotate_iff.mp hp with ⟨pre, post, hsplit, htype⟩
      rw [foldl_nextRequestType] at htype
      have hmem : .ricControlMessage payload ∈ ies := by
        rw [hsplit]
        simp
      rcases horder with hagree | hnone
      · have hTS := isTS_in_force honce hid hagree hsplit
        rw [← htype] at hTS
        simp [hTS]
      · have hstring := messageString_of_noOctetString
          (hnone payload hmem (hwalk payload hmem))
        simp [hstring]
  | _ => rfl

theorem new_eq_none_iff_of_order (honce : OncePerKind ies)
    (hid : .ricRequestID id ∈ ies)
    (horder : OrderIrrelevant asn leftover frames id ies) :
    RicControlMessage.new asn leftover frames { protocolIEs := ies } = none <->
      exists ie, ie ∈ ies ∧ Fault asn (startContext leftover frames) ie := by
  rw [new_eq_none_iff]
  constructor
  · intro h
    rcases h with ⟨p, hp, hfault⟩
    rcases mem_annotate_iff.mp hp with ⟨pre, post, hsplit, _⟩
    refine ⟨p.2, ?_, (fault_in_context honce hid horder hp).mp hfault⟩
    change ies = _ at hsplit
    rw [hsplit]
    simp
  · intro h
    rcases h with ⟨ie, hie, hfault⟩
    rcases List.append_of_mem hie with ⟨pre, post, hsplit⟩
    have hp : (pre.foldl (nextContext asn) (startContext leftover frames), ie) ∈
        inContext asn (startContext leftover frames) ies :=
      mem_annotate_iff.mpr ⟨pre, post, hsplit, rfl⟩
    exact ⟨_, hp, (fault_in_context honce hid horder hp).mpr hfault⟩

theorem new_eq_storedMembers (honce : OncePerKind ies)
    (hid : .ricRequestID id ∈ ies)
    (horder : OrderIrrelevant asn leftover frames id ies)
    {message : RicControlMessage}
    (hnew : RicControlMessage.new asn leftover frames { protocolIEs := ies }
      = some message) :
    message = storedMembers asn leftover frames ies := by
  rcases new_eq_some_iff.mp hnew with ⟨s', hrun, rfl⟩
  have heffect := decode_effect hrun
  have hwalk : forall payload, .ricControlMessage payload ∈ ies ->
      MessageWalkable (decodedMessage asn payload) := by
    intro payload hmem
    by_contra hnot
    have hnone := (new_eq_none_iff_of_order honce hid horder).mpr
      ⟨_, hmem, Or.inl hnot⟩
    rw [hnone] at hnew
    cases hnew
  ext1
  · exact heffect.requestType
  · rw [heffect.values]
    exact lastWrite_annotate
      (fun p hp => valuesWrite_in_context honce hp) []
  · exact heffect.ranFunctionId
  · exact heffect.requestId
  · exact heffect.callProcessId
  · exact heffect.header
  · rw [heffect.cellId]
    exact lastWrite_annotate
      (fun p hp => cellIdWrite_in_context honce hid hwalk horder hp) []

end SameTreatment

theorem silent_off_kind (asn : AsnDecode) (c : DecodeContext)
    (ie : RICcontrolRequestIEs) :
    (kindOf ie ≠ some .ricRequestID ->
      namedRequestType ie = none ∧ requestIdWrite ie = none) ∧
    (kindOf ie ≠ some .ranFunctionID -> ranFunctionIdWrite ie = none) ∧
    (kindOf ie ≠ some .ricCallProcessID -> callProcessIdWrite ie = none) ∧
    (kindOf ie ≠ some .ricControlHeader -> headerWrite asn ie = none) ∧
    (kindOf ie ≠ some .ricControlMessage ->
      valuesWrite asn c ie = none ∧
        cellIdWrite asn c.requestType ie = none) := by
  cases ie <;> simp [kindOf]

theorem lastWrite_order {write : RICcontrolRequestIEs -> Option value}
    {ies ies' : List RICcontrolRequestIEs} {kind : IEKind}
    (honce : OncePerKind ies) (hperm : ies.Perm ies')
    (hwrite : forall ie, kindOf ie ≠ some kind -> write ie = none)
    (init : value) :
    lastWrite write init ies' = lastWrite write init ies := by
  have hkind : forall ie v, write ie = some v -> kindOf ie = some kind := by
    intro ie v hie
    by_contra hother
    rw [hwrite ie hother] at hie
    cases hie
  exact (lastWrite_perm hperm (length_writes_le_one hkind honce) init).symm

theorem storedMembers_perm {asn : AsnDecode} {leftover : ObjectLeftover}
    {frames : Nat -> ItemLeftover} {ies ies' : List RICcontrolRequestIEs}
    (honce : OncePerKind ies) (hperm : ies.Perm ies') :
    storedMembers asn leftover frames ies' =
      storedMembers asn leftover frames ies := by
  have hsilent := silent_off_kind asn (startContext leftover frames)
  ext1
  · exact lastWrite_order honce hperm
      (fun ie h => ((hsilent ie).left h).left) _
  · exact lastWrite_order honce hperm
      (fun ie h => ((hsilent ie).right.right.right.right h).left) _
  · exact lastWrite_order honce hperm
      (fun ie h => (hsilent ie).right.left h) _
  · exact lastWrite_order honce hperm
      (fun ie h => ((hsilent ie).left h).right) _
  · exact lastWrite_order honce hperm
      (fun ie h => (hsilent ie).right.right.left h) _
  · exact lastWrite_order honce hperm
      (fun ie h => (hsilent ie).right.right.right.left h) _
  · exact lastWrite_order honce hperm
      (fun ie h => ((hsilent ie).right.right.right.right h).right) _

theorem oncePerKind_perm {ies ies' : List RICcontrolRequestIEs}
    (hperm : ies.Perm ies') (honce : OncePerKind ies) : OncePerKind ies' :=
  (hperm.filterMap kindOf).nodup_iff.mp honce

theorem orderIrrelevant_perm {asn : AsnDecode} {leftover : ObjectLeftover}
    {frames : Nat -> ItemLeftover} {id : RICrequestIDT}
    {ies ies' : List RICcontrolRequestIEs} (hperm : ies.Perm ies')
    (h : OrderIrrelevant asn leftover frames id ies) :
    OrderIrrelevant asn leftover frames id ies' :=
  h.imp_right fun hnone payload hmem =>
    hnone payload (hperm.mem_iff.mpr hmem)

theorem new_perm {asn : AsnDecode} {leftover : ObjectLeftover}
    {frames : Nat -> ItemLeftover} {id : RICrequestIDT}
    {ies ies' : List RICcontrolRequestIEs} (honce : OncePerKind ies)
    (hid : .ricRequestID id ∈ ies)
    (horder : OrderIrrelevant asn leftover frames id ies)
    (hperm : ies.Perm ies') :
    RicControlMessage.new asn leftover frames { protocolIEs := ies' } =
      RicControlMessage.new asn leftover frames { protocolIEs := ies } := by
  have honce' := oncePerKind_perm hperm honce
  have hid' := hperm.mem_iff.mp hid
  have horder' := orderIrrelevant_perm hperm horder
  have hnone := new_eq_none_iff_of_order honce hid horder
  have hnone' := new_eq_none_iff_of_order honce' hid' horder'
  cases hnew : RicControlMessage.new asn leftover frames
      { protocolIEs := ies } with
  | none =>
      rcases hnone.mp hnew with ⟨ie, hie, hfault⟩
      exact hnone'.mpr ⟨ie, hperm.mem_iff.mp hie, hfault⟩
  | some message =>
      cases hnew' : RicControlMessage.new asn leftover frames
          { protocolIEs := ies' } with
      | none =>
          rcases hnone'.mp hnew' with ⟨ie, hie, hfault⟩
          rw [hnone.mpr ⟨ie, hperm.mem_iff.mpr hie, hfault⟩] at hnew
          cases hnew
      | some message' =>
          rw [new_eq_storedMembers honce hid horder hnew,
            new_eq_storedMembers honce' hid' horder' hnew',
            storedMembers_perm honce hperm]

/-!
## Requests whose order matters
-/

theorem new_of_not_TS {asn : AsnDecode} {leftover : ObjectLeftover}
    {frames : Nat -> ItemLeftover} {payload : OctetStringT}
    (pre : List RICcontrolRequestIEs) {post : List RICcontrolRequestIEs}
    (hpre : forall payload, .ricControlMessage payload ∉ pre)
    (hpost : forall payload, .ricControlMessage payload ∉ post)
    (htype : lastWrite namedRequestType leftover.requestType pre ≠
      ControlMessageRequestIdType.TS)
    (hwalk : MessageWalkable (decodedMessage asn payload)) :
    exists message,
      RicControlMessage.new asn leftover frames
          { protocolIEs := pre ++ .ricControlMessage payload :: post }
        = some message ∧ message.secondaryCellId = [] := by
  rw [← foldl_nextRequestType] at htype
  cases hnew : RicControlMessage.new asn leftover frames
      { protocolIEs := pre ++ .ricControlMessage payload :: post } with
  | none =>
      rcases new_eq_none_iff.mp hnew with ⟨⟨c, ie⟩, hp, hfault⟩
      cases ie with
      | ricControlMessage other =>
          rcases mem_annotate_middle hp (hpre other) (hpost other) with
            ⟨hsame, hc⟩
          cases hsame
          rcases hfault with hnot | ⟨hTS, _⟩
          · exact absurd hwalk hnot
          · change c.requestType = _ at hTS
            rw [hc, foldl_nextContext_requestType] at hTS
            exact absurd hTS htype
      | _ => cases hfault
  | some message =>
      refine ⟨message, rfl, ?_⟩
      rw [secondaryCellId_new hnew]
      apply targetFrom_of_silent
      intro other hmem
      rcases mem_annotate_middle hmem (hpre other) (hpost other) with
        ⟨_, hTS⟩
      exact absurd hTS.symm htype

theorem new_of_TS {asn : AsnDecode} {leftover : ObjectLeftover}
    {frames : Nat -> ItemLeftover} {payload : OctetStringT}
    (pre : List RICcontrolRequestIEs) {post : List RICcontrolRequestIEs}
    {item : RANParameterItem} {message : RicControlMessage}
    (hpre : forall payload, .ricControlMessage payload ∉ pre)
    (htype : lastWrite namedRequestType leftover.requestType pre =
      ControlMessageRequestIdType.TS)
    (hitem : item ∈ RANParameterItem.ofLeaves frames
      (messageLeaves (decodedMessage asn payload)))
    (hoctet : item.valueType = ValueType.octectString)
    (hnew : RicControlMessage.new asn leftover frames
      { protocolIEs := pre ++ .ricControlMessage payload :: post }
        = some message) :
    message.secondaryCellId ≠ [] := by
  have hreadable : Readable item := by
    by_contra hnot
    have hnone : RicControlMessage.new asn leftover frames
        { protocolIEs := pre ++ .ricControlMessage payload :: post }
          = none := by
      apply new_eq_none_iff_at.mpr
      refine ⟨pre, payload, post, rfl, Or.inr ⟨htype, item, ?_, hnot⟩⟩
      unfold itemsAt
      rw [framesAfter_of_no_message hpre]
      exact hitem
    rw [hnone] at hnew
    cases hnew
  rcases hreadable hoctet with ⟨readable, hvalue, _⟩
  have hstring : messageString asn payload ≠ none := by
    intro hnone
    unfold messageString at hnone
    rw [← filterMap_itemString_ofLeaves frames,
      List.getLast?_eq_none_iff, List.filterMap_eq_nil_iff] at hnone
    have hitemString := hnone item hitem
    unfold itemString at hitemString
    rw [if_pos hoctet, hvalue] at hitemString
    cases hitemString
  have hmem : (ControlMessageRequestIdType.TS,
      RICcontrolRequestIEs.ricControlMessage payload) ∈
        underRequestType leftover.requestType
          (pre ++ .ricControlMessage payload :: post) :=
    mem_underRequestType_iff.mpr ⟨pre, post, rfl, htype.symm⟩
  rcases new_eq_some_iff.mp hnew with ⟨s', hrun, _⟩
  rw [secondaryCellId_new hnew]
  exact targetFrom_ne_nil hrun hmem hstring

theorem perm_request_message {ies : List RICcontrolRequestIEs}
    {id : RICrequestIDT} {payload : OctetStringT} (honce : OncePerKind ies)
    (hid : .ricRequestID id ∈ ies) (hmem : .ricControlMessage payload ∈ ies) :
    exists rest,
      ies.Perm (.ricRequestID id :: .ricControlMessage payload :: rest) ∧
        forall other, .ricControlMessage other ∉ rest := by
  have hfirst := List.perm_cons_erase hid
  have hmem' : .ricControlMessage payload ∈ ies.erase (.ricRequestID id) :=
    (List.mem_erase_of_ne (by simp)).mpr hmem
  have hperm := hfirst.trans
    ((List.perm_cons_erase hmem').cons (.ricRequestID id))
  refine ⟨_, hperm, ?_⟩
  intro other
  have honce' := oncePerKind_perm hperm honce
  exact (not_mem_of_kind_nodup kindOf [.ricRequestID id]
    (y := .ricControlMessage other) honce' rfl rfl).right

theorem decoding_order_irrelevant_iff {asn : AsnDecode}
    {leftover : ObjectLeftover} {frames : Nat -> ItemLeftover}
    {id : RICrequestIDT} {ies : List RICcontrolRequestIEs}
    (honce : OncePerKind ies) (hid : .ricRequestID id ∈ ies)
    (hknown : id.ricRequestorID = 1001 ∨ id.ricRequestorID = 1002) :
    (forall ies', ies.Perm ies' ->
      RicControlMessage.new asn leftover frames { protocolIEs := ies' } =
        RicControlMessage.new asn leftover frames { protocolIEs := ies }) <->
      OrderIrrelevant asn leftover frames id ies := by
  constructor
  · intro h
    by_contra hnot
    unfold OrderIrrelevant NoOctetString at hnot
    push Not at hnot
    rcases hnot with ⟨hdiffer, payload, hmem, hwalk, item, hitem, hoctet⟩
    rcases perm_request_message honce hid hmem with ⟨rest, hperm, hrest⟩
    have hswapped := hperm.trans (List.Perm.swap
      (.ricControlMessage payload) (.ricRequestID id) rest)
    have hboth := (h _ hperm).trans (h _ hswapped).symm
    have hidRest : forall other, .ricControlMessage other ∉
        RICcontrolRequestIEs.ricRequestID id :: rest := by
      intro other hother
      rcases List.mem_cons.mp hother with hne | hother
      · cases hne
      · exact hrest other hother
    rcases hdiffer with ⟨hTS, hid⟩ | ⟨hnotTS, hid⟩
    · have hQoS := hknown.resolve_left hid
      have htype : lastWrite namedRequestType leftover.requestType
          [.ricRequestID id] ≠ ControlMessageRequestIdType.TS := by
        simp [lastWrite, requestTypeOf, hQoS]
      rcases new_of_not_TS [.ricRequestID id] (by simp) hrest htype hwalk with
        ⟨message, hnew, hcell⟩
      rw [List.singleton_append, hboth] at hnew
      exact absurd hcell
        (new_of_TS [] (by simp) hTS hitem hoctet hnew)
    · rcases new_of_not_TS [] (by simp) hidRest hnotTS hwalk with
        ⟨message, hnew, hcell⟩
      rw [List.nil_append, ← hboth] at hnew
      exact absurd hcell
        (new_of_TS [.ricRequestID id] (by simp)
          (by simp [lastWrite, requestTypeOf, hid]) hitem hoctet hnew)
  · intro horder ies' hperm
    exact new_perm honce hid horder hperm

def reversedHandoverRequest : RICcontrolRequestT where
  protocolIEs := handoverRequest.protocolIEs.reverse

theorem reversedHandoverRequest_same_in_TS_memory :
    RicControlMessage.new
        (AsnDecode.constant (octetStringMessage [49, 49, 49, 51]))
        (zeroedExcept .TS) (fun _ => { valueType := .nothing, valueInt := 0 })
        { protocolIEs := reversedHandoverRequest.protocolIEs } =
      RicControlMessage.new
        (AsnDecode.constant (octetStringMessage [49, 49, 49, 51]))
        (zeroedExcept .TS) (fun _ => { valueType := .nothing, valueInt := 0 })
        { protocolIEs := handoverRequest.protocolIEs } :=
  (decoding_order_irrelevant_iff (show List.Nodup _ by decide)
    List.mem_cons_self (Or.inl rfl)).mpr (Or.inl (iff_of_true rfl rfl)) _
    (List.reverse_perm _).symm

/-- From zeroed memory the reversed request loses the handover target. -/
theorem reversedHandoverRequest_loses_target :
    OncePerKind handoverRequest.protocolIEs ∧
      (RicControlMessage.new
          (AsnDecode.constant (octetStringMessage [49, 49, 49, 51]))
          (zeroedExcept (.unnamed 0))
          (fun _ => { valueType := .nothing, valueInt := 0 })
          handoverRequest).map (·.getSecondaryCellIdHO) = some [51] ∧
      (RicControlMessage.new
          (AsnDecode.constant (octetStringMessage [49, 49, 49, 51]))
          (zeroedExcept (.unnamed 0))
          (fun _ => { valueType := .nothing, valueInt := 0 })
          reversedHandoverRequest).map (·.getSecondaryCellIdHO) = some [] ∧
      ¬ forall ies', handoverRequest.protocolIEs.Perm ies' ->
        RicControlMessage.new
            (AsnDecode.constant (octetStringMessage [49, 49, 49, 51]))
            (zeroedExcept (.unnamed 0))
            (fun _ => { valueType := .nothing, valueInt := 0 })
            { protocolIEs := ies' } =
          RicControlMessage.new
            (AsnDecode.constant (octetStringMessage [49, 49, 49, 51]))
            (zeroedExcept (.unnamed 0))
            (fun _ => { valueType := .nothing, valueInt := 0 })
            handoverRequest := by
  refine ⟨show List.Nodup _ by decide, rfl, rfl, ?_⟩
  intro h
  have hsame := congrArg (Option.map (·.getSecondaryCellIdHO))
    (h _ (List.reverse_perm _).symm)
  change some [] = some [51] at hsame
  cases hsame

end Control
end OranE2
