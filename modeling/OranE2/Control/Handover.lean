import OranE2.Asn1c.Extraction
import OranE2.Control.Order
import OranE2.Library.Decimal

/-!
# From parameter trees to the handover target

The values of a control message are extracted tree by tree.  Of the only octet
string among them the last character becomes the secondary cell id, which is
the whole cell number as long as this has one digit.
-/

namespace OranE2
namespace Control

open Library
open E2ap
open Asn1c

/-!
## Extracting the values of a message
-/

def format1Of (trees : List RANParameterTree) : E2SMRCControlMessageFormat1T where
  ranParametersList := some (roots trees)

theorem extract_format1Of (frames : Nat -> ItemLeftover)
    (trees : List RANParameterTree) :
    extractRANParametersFromControlMessage frames (format1Of trees) =
      some (RANParameterItem.ofLeaves frames (leavesList (roots trees))) :=
  RANParameterItem.extract_roots frames trees

theorem extraction_in_depth_first_order (frames : Nat -> ItemLeftover)
    (xs ys : List RANParameterTree) :
    (exists items,
      extractRANParametersFromControlMessage frames (format1Of xs) =
          some items ∧
        RoseTree.InDepthFirstOrder (roseForest (roots xs)) ItemOf items) ∧
      exists first second,
        extractRANParametersFromControlMessage frames (format1Of xs) =
            some first ∧
          extractRANParametersFromControlMessage
              (fun k => frames (first.length + k)) (format1Of ys) =
            some second ∧
          extractRANParametersFromControlMessage frames
              (format1Of (xs ++ ys)) =
            some (first ++ second) := by
  constructor
  · exact ⟨_, extract_format1Of frames xs,
      RANParameterItem.ofLeaves_inDepthFirstOrder frames (roots xs)⟩
  · refine ⟨_, _, extract_format1Of frames xs, extract_format1Of _ ys, ?_⟩
    rw [extract_format1Of, roots_append, leavesList_append,
      RANParameterItem.ofLeaves_append, RANParameterItem.length_ofLeaves]

/-!
## Requests that name one target
-/

/-- Exactly one of the items is an octet string, and it has this content. -/
def OnlyOctetString (items : List RANParameterItem) (content : List UInt8) :
    Prop :=
  exists front item back valueStr,
    items = front ++ item :: back ∧
      (forall other, other ∈ front ++ back ->
        other.valueType ≠ ValueType.octectString) ∧
      item.valueType = ValueType.octectString ∧
      item.valueStr = some valueStr ∧
      valueStr.getValue.octets = content

/-- A request of the TS xApp, requestor 1001, whose only control message
follows the request id and flattens to one octet string among other items. -/
structure HandoverRequest (asn : AsnDecode) (frames : Nat -> ItemLeftover)
    (content : List UInt8) where
  pre : List RICcontrolRequestIEs
  payload : OctetStringT
  post : List RICcontrolRequestIEs
  trees : List RANParameterTree
  noneBefore : forall other, .ricControlMessage other ∉ pre
  noneAfter : forall other, .ricControlMessage other ∉ post
  identified : exists id, .ricRequestID id ∈ pre
  requestor : forall id, .ricRequestID id ∈ pre -> id.ricRequestorID = 1001
  decoded : decodedMessage asn payload =
    .controlMessageFormat1 (some (format1Of trees))
  flattened : exists items,
    extractRANParametersFromControlMessage frames (format1Of trees) =
        some items ∧ OnlyOctetString items content

def HandoverRequest.request {asn : AsnDecode} {frames : Nat -> ItemLeftover}
    {content : List UInt8} (r : HandoverRequest asn frames content) :
    RICcontrolRequestT where
  protocolIEs := r.pre ++ .ricControlMessage r.payload :: r.post

theorem filterMap_itemString_of_only {items : List RANParameterItem}
    {content : List UInt8} (h : OnlyOctetString items content) :
    exists valueStr, items.filterMap itemString = [valueStr] ∧
      valueStr.getValue.octets = content := by
  rcases h with ⟨front, item, back, valueStr, hsplit, hothers, htag, hstr,
    hcontent⟩
  have hsilent : forall other, other ∈ front ++ back ->
      itemString other = none :=
    fun other hmem => if_neg (hothers other hmem)
  have hitem : itemString item = some valueStr := (if_pos htag).trans hstr
  have hfront : front.filterMap itemString = [] :=
    List.filterMap_eq_nil_iff.mpr fun other hmem =>
      hsilent other (List.mem_append_left back hmem)
  have hback : back.filterMap itemString = [] :=
    List.filterMap_eq_nil_iff.mpr fun other hmem =>
      hsilent other (List.mem_append_right front hmem)
  refine ⟨valueStr, ?_, hcontent⟩
  rw [hsplit, List.filterMap_append, List.filterMap_cons_some hitem, hfront,
    hback]
  rfl

theorem readable_of_only {items : List RANParameterItem}
    {content : List UInt8} (h : OnlyOctetString items content)
    (hne : content ≠ []) (hzero : 0 ∉ content) :
    forall item, item ∈ items -> Readable item := by
  rcases h with ⟨front, item, back, valueStr, hsplit, hothers, _, hstr,
    hcontent⟩
  intro other hmem htag
  rw [hsplit] at hmem
  rcases List.mem_append.mp hmem with hfront | hrest
  · exact absurd htag (hothers other (List.mem_append_left back hfront))
  · rcases List.mem_cons.mp hrest with hitem | hback
    · rw [hitem]
      refine ⟨valueStr, hstr, ?_⟩
      rw [(OctetString.decodeContent_eq_octets_iff valueStr).mpr
        (by rw [hcontent]; exact hzero), hcontent]
      exact hne
    · exact absurd htag (hothers other (List.mem_append_right front hback))

section

variable {asn : AsnDecode} {frames : Nat -> ItemLeftover}
  {content : List UInt8} (r : HandoverRequest asn frames content)

theorem requestType_pre (requestType : ControlMessageRequestIdType) :
    lastWrite namedRequestType requestType r.pre =
      ControlMessageRequestIdType.TS := by
  have hnamed : forall id, .ricRequestID id ∈ r.pre ->
      namedRequestType (.ricRequestID id) =
        some ControlMessageRequestIdType.TS :=
    fun id hid => if_pos (r.requestor id hid)
  rcases exists_last_write namedRequestType r.pre with
    hsilent | ⟨pre, ie, post, v, hsplit, hie, hpost⟩
  · rcases r.identified with ⟨id, hid⟩
    have hnone := hsilent _ hid
    rw [hnamed id hid] at hnone
    cases hnone
  · have hmem : ie ∈ r.pre := by
      rw [hsplit]
      exact List.mem_append_right pre List.mem_cons_self
    have hTS : v = ControlMessageRequestIdType.TS := by
      cases ie with
      | ricRequestID id =>
          rw [hnamed id hmem] at hie
          exact (Option.some.inj hie).symm
      | _ => cases hie
    rw [hsplit, lastWrite_split namedRequestType pre hie hpost, hTS]

theorem items_only :
    OnlyOctetString
      (RANParameterItem.ofLeaves frames (leavesList (roots r.trees)))
      content := by
  rcases r.flattened with ⟨items, hitems, honly⟩
  rw [extract_format1Of] at hitems
  cases hitems
  exact honly

theorem messageString_only :
    exists valueStr, messageString asn r.payload = some valueStr ∧
      valueStr.getValue.octets = content := by
  rcases filterMap_itemString_of_only (items_only r) with
    ⟨valueStr, hstrings, hcontent⟩
  rw [filterMap_itemString_ofLeaves] at hstrings
  refine ⟨valueStr, ?_, hcontent⟩
  unfold messageString
  rw [r.decoded]
  show ((leavesList (roots r.trees)).filterMap leafString).getLast? = _
  rw [hstrings]
  rfl

theorem request_completes (leftover : ObjectLeftover) (hne : content ≠ [])
    (hzero : 0 ∉ content) :
    exists message,
      RicControlMessage.new asn leftover frames r.request = some message := by
  cases hnew : RicControlMessage.new asn leftover frames r.request with
  | some message => exact ⟨message, rfl⟩
  | none =>
      rcases new_eq_none_iff.mp hnew with ⟨⟨c, ie⟩, hp, hfault⟩
      cases ie with
      | ricControlMessage other =>
          rcases mem_annotate_middle hp (r.noneBefore other)
            (r.noneAfter other) with ⟨hsame, hc⟩
          cases hsame
          rcases hfault with hnot | ⟨_, item, hitem, hunreadable⟩
          · rw [r.decoded] at hnot
            exact absurd (walkableList_roots r.trees) hnot
          · unfold extractedValues at hitem
            rw [hc, foldl_nextContext_frames, r.decoded] at hitem
            change item ∈ RANParameterItem.ofLeaves
              (framesAfter asn frames r.pre)
              (leavesList (roots r.trees)) at hitem
            rw [framesAfter_of_no_message r.noneBefore] at hitem
            exact absurd
              (readable_of_only (items_only r) hne hzero item hitem)
              hunreadable
      | _ => cases hfault

theorem target_of_request {leftover : ObjectLeftover}
    {message : RicControlMessage} (hzero : 0 ∉ content)
    (hnew : RicControlMessage.new asn leftover frames r.request =
      some message) :
    message.getSecondaryCellIdHO = content.getLast?.toList := by
  rcases messageString_only r with ⟨valueStr, hstr, hcontent⟩
  have hdecode : valueStr.decodeContent = content := by
    rw [(OctetString.decodeContent_eq_octets_iff valueStr).mpr
      (by rw [hcontent]; exact hzero), hcontent]
  have hsplit : underRequestType leftover.requestType r.request.protocolIEs =
      annotate nextRequestType leftover.requestType r.pre ++
        (ControlMessageRequestIdType.TS, .ricControlMessage r.payload) ::
          annotate nextRequestType ControlMessageRequestIdType.TS r.post := by
    unfold underRequestType HandoverRequest.request
    dsimp only
    rw [annotate_append, foldl_nextRequestType, requestType_pre r]
    rfl
  have hafter : forall later,
      (ControlMessageRequestIdType.TS,
        RICcontrolRequestIEs.ricControlMessage later) ∈
          annotate nextRequestType ControlMessageRequestIdType.TS r.post ->
      messageString asn later = none := by
    intro later hmem
    rcases mem_annotate_iff.mp hmem with ⟨front, back, hpost, _⟩
    exact absurd (by rw [hpost]; simp) (r.noneAfter later)
  show message.secondaryCellId = _
  rw [secondaryCellId_new hnew, targetFrom_of_last hsplit hstr hafter]
  unfold lastCharacter
  rw [hdecode]

end

/-!
## The last digit of the cell
-/

theorem zero_notMem_identity {plmn : List UInt8} (hplmn : 0 ∉ plmn)
    (n : Nat) : 0 ∉ plmn ++ decimal n := by
  intro hmem
  rcases List.mem_append.mp hmem with h | h
  · exact hplmn h
  · exact zero_notMem_decimal n h

theorem identity_ne_nil (plmn : List UInt8) (n : Nat) :
    plmn ++ decimal n ≠ [] := by
  intro hnil
  exact decimal_ne_nil n (List.append_eq_nil_iff.mp hnil).right

theorem target_of_identity {asn : AsnDecode} {frames : Nat -> ItemLeftover}
    {leftover : ObjectLeftover} {plmn : List UInt8} (hplmn : 0 ∉ plmn)
    {n : UInt16} (r : HandoverRequest asn frames (plmn ++ decimal n.toNat))
    {message : RicControlMessage}
    (hnew : RicControlMessage.new asn leftover frames r.request =
      some message) :
    message.getSecondaryCellIdHO = [decimalDigit (n.toNat % 10)] := by
  rw [target_of_request r (zero_notMem_identity hplmn n.toNat) hnew,
    List.getLast?_append, getLast?_decimal]
  rfl

theorem secondary_cell_is_last_digit {asn : AsnDecode}
    {plmn : List UInt8} (hplmn : 0 ∉ plmn) (n : UInt16)
    {frames : Nat -> ItemLeftover} (leftover : ObjectLeftover)
    (r : HandoverRequest asn frames (plmn ++ decimal n.toNat)) :
    exists message,
      RicControlMessage.new asn leftover frames r.request = some message ∧
        message.getSecondaryCellIdHO = [decimalDigit (n.toNat % 10)] ∧
        (message.getSecondaryCellIdHO = decimal n.toNat <-> n.toNat < 10) ∧
        forall (plmn' : List UInt8) (m : UInt16)
          (frames' : Nat -> ItemLeftover) (leftover' : ObjectLeftover)
          (r' : HandoverRequest asn frames' (plmn' ++ decimal m.toNat))
          (message' : RicControlMessage), 0 ∉ plmn' ->
          RicControlMessage.new asn leftover' frames' r'.request =
              some message' ->
            (message'.getSecondaryCellIdHO = message.getSecondaryCellIdHO <->
              m.toNat % 10 = n.toNat % 10) := by
  rcases request_completes r leftover (identity_ne_nil plmn n.toNat)
      (zero_notMem_identity hplmn n.toNat) with ⟨message, hnew⟩
  have htarget := target_of_identity hplmn r hnew
  refine ⟨message, hnew, htarget, ?_, ?_⟩
  · rw [htarget]
    exact decimal_eq_last_digit_iff n.toNat
  · intro plmn' m frames' leftover' r' message' hplmn' hnew'
    rw [htarget, target_of_identity hplmn' r' hnew']
    constructor
    · intro h
      exact decimalDigit_injective (Nat.mod_lt _ (by decide))
        (Nat.mod_lt _ (by decide)) (List.head_eq_of_cons_eq h)
    · intro h
      rw [h]

/-- The request that hands over to a cell of PLMN 111, with the identity in an
element of its own. -/
def cellRequest (n : UInt16) :
    HandoverRequest
      (AsnDecode.constant
        (octetStringMessage ([49, 49, 49] ++ decimal n.toNat)))
      (fun _ => { valueType := .nothing, valueInt := 0 })
      ([49, 49, 49] ++ decimal n.toNat) where
  pre := [.ricRequestID { ricRequestorID := 1001, ricInstanceID := 0 }]
  payload := OctetStringT.ofBytes []
  post := []
  trees :=
    [{ root :=
         .mk 1 (some (.ranParameterElement (some
           { keyFlag := false
             ranParameterValue := .valueOctS (OctetStringT.ofBytes
               ([49, 49, 49] ++ decimal n.toNat)) })))
       walkable := trivial }]
  noneBefore := by simp
  noneAfter := by simp
  identified := ⟨_, List.mem_cons_self⟩
  requestor := by
    intro id hid
    cases List.mem_singleton.mp hid
    rfl
  decoded := rfl
  flattened := by
    refine ⟨_, rfl, [], _, [], _, rfl, by simp, rfl, rfl, ?_⟩
    rw [OctetString.octets_ofPointer]
    exact List.take_length

theorem cellRequest_three :
    exists message,
      RicControlMessage.new
          (AsnDecode.constant
            (octetStringMessage ([49, 49, 49] ++ decimal (3 : UInt16).toNat)))
          (zeroedExcept (.unnamed 0))
          (fun _ => { valueType := .nothing, valueInt := 0 })
          (cellRequest 3).request = some message ∧
        message.getSecondaryCellIdHO = decimal (3 : UInt16).toNat := by
  have hplmn : (0 : UInt8) ∉ [49, 49, 49] := by decide
  rcases secondary_cell_is_last_digit hplmn 3 (zeroedExcept (.unnamed 0))
      (cellRequest 3) with ⟨message, hnew, _, hdigits, _⟩
  exact ⟨message, hnew, hdigits.mpr (by decide)⟩

theorem cellRequest_ten_leads_to_zero :
    exists message message',
      RicControlMessage.new
          (AsnDecode.constant
            (octetStringMessage ([49, 49, 49] ++ decimal (10 : UInt16).toNat)))
          (zeroedExcept (.unnamed 0))
          (fun _ => { valueType := .nothing, valueInt := 0 })
          (cellRequest 10).request = some message ∧
        RicControlMessage.new
            (AsnDecode.constant
              (octetStringMessage
                ([49, 49, 49] ++ decimal (20 : UInt16).toNat)))
            (zeroedExcept (.unnamed 0))
            (fun _ => { valueType := .nothing, valueInt := 0 })
            (cellRequest 20).request = some message' ∧
          message.getSecondaryCellIdHO = [48] ∧
          message'.getSecondaryCellIdHO = [48] ∧
          message.getSecondaryCellIdHO ≠ decimal (10 : UInt16).toNat := by
  refine ⟨_, _, rfl, rfl, rfl, rfl, ?_⟩
  decide

end Control
end OranE2
