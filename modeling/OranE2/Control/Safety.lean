import OranE2.Control.Agreement

/-!
# Safety of decoding

A malformed control message should contribute nothing and leave the rest of
the request alone.  The decoder's return code is not looked at, the optional
parameter list is not tested and the last character is taken from strings that
may be empty, so this holds only for requests whose control messages are free
of all that.
-/

namespace OranE2
namespace Control

open Library
open E2ap
open Asn1c

def BeginsWithCharacter (value : OctetStringT) : Prop :=
  exists b rest, value.octets = b :: rest ∧ b ≠ 0

/-- Under TS the scan survives the item of this leaf, whatever the memory under
it held before. -/
def LeafSafe (leaf : Leaf) : Prop :=
  match leaf.element.ranParameterValue with
  | .valueOctS value => BeginsWithCharacter value
  | .other _ => False
  | _ => True

/-- A message that fails to decode, a Format1 message without its optional
list, or an octet string without a character under TS. -/
def Malformed (asn : AsnDecode) (requestType : ControlMessageRequestIdType)
    (payload : OctetStringT) : Prop :=
  (asn.controlMessage payload.octets).code ≠ AsnDecRvalCode.ok ∨
    decodedMessage asn payload =
      .controlMessageFormat1 (some { ranParametersList := none }) ∨
    (requestType = ControlMessageRequestIdType.TS ∧
      exists leaf value,
        leaf ∈ messageLeaves (decodedMessage asn payload) ∧
          leaf.element.ranParameterValue = .valueOctS value ∧
          ¬ BeginsWithCharacter value)

def contributedValues (asn : AsnDecode) (frames : Nat -> ItemLeftover)
    (payload : OctetStringT) : Option (List RANParameterItem) :=
  match decodedMessage asn payload with
  | .controlMessageFormat1 none => none
  | .controlMessageFormat1 (some message) =>
      extractRANParametersFromControlMessage frames message
  | .other _ => some []

/-- From any memory the constructor completes, and a malformed message
contributes no values and leaves everything as it was. -/
def Tolerates (asn : AsnDecode) (request : RICcontrolRequestT) : Prop :=
  forall leftover frames,
    (exists message,
      RicControlMessage.new asn leftover frames request = some message) ∧
    forall pre payload post s,
      request.protocolIEs = pre ++ .ricControlMessage payload :: post ->
      PartialRun.run (decodeIE asn)
        { message := leftover.object, frames := frames } pre = some s ->
      Malformed asn s.message.requestType payload ->
      contributedValues asn s.frames payload = some [] ∧
        decodeIE asn s (.ricControlMessage payload) = some s

/-- How many values a Format1 message puts in the place of the earlier ones. -/
def valueCountWrite (asn : AsnDecode) : RICcontrolRequestIEs -> Option Nat
  | .ricControlMessage payload =>
      if isFormat1 (decodedMessage asn payload) then
        some (messageLeaves (decodedMessage asn payload)).length
      else
        none
  | _ => none

def valueCount (asn : AsnDecode) (pre : List RICcontrolRequestIEs) : Nat :=
  lastWrite (valueCountWrite asn) 0 pre

/-- Every control message is walkable, has no leaves if it failed to decode,
and has safe leaves unless the last known requestor before it is the QoS one.
A Format1 structure left by a failed decoding comes where there are no values
that its empty list could replace. -/
def Tolerable (asn : AsnDecode) (ies : List RICcontrolRequestIEs) : Prop :=
  forall pre payload post,
    ies = pre ++ .ricControlMessage payload :: post ->
    MessageWalkable (decodedMessage asn payload) ∧
    ((asn.controlMessage payload.octets).code ≠ AsnDecRvalCode.ok ->
      messageLeaves (decodedMessage asn payload) = [] ∧
        (isFormat1 (decodedMessage asn payload) = true ->
          valueCount asn pre = 0)) ∧
    (lastNamed pre ≠ some ControlMessageRequestIdType.QoS ->
      forall leaf, leaf ∈ messageLeaves (decodedMessage asn payload) ->
        LeafSafe leaf)

/-!
## Items and leaves
-/

theorem beginsWithCharacter_iff (value : OctetStringT) :
    BeginsWithCharacter value <->
      (OctetString.ofPointer value.buf value.size
        value.size_le).decodeContent ≠ [] := by
  rw [ne_eq, OctetString.decodeContent_eq_nil_iff,
    OctetString.octets_ofPointer]
  unfold BeginsWithCharacter
  change (exists b rest, value.octets = b :: rest ∧ b ≠ 0) <->
    ¬ (value.octets = [] ∨ value.octets.head? = some 0)
  cases value.octets with
  | nil => simp
  | cons b rest => simp

theorem readable_of_leafSafe {leaf : Leaf} (h : LeafSafe leaf)
    (leftover : ItemLeftover) :
    Readable (RANParameterItem.ofElement leftover leaf.ranParameterItem
      leaf.element) := by
  unfold LeafSafe at h
  unfold RANParameterItem.ofElement
  intro hoctet
  cases hvalue : leaf.element.ranParameterValue with
  | nothing =>
      rw [hvalue] at hoctet
      cases hoctet
  | valueInt value =>
      rw [hvalue] at hoctet
      cases hoctet
  | valueOctS value =>
      rw [hvalue] at h
      exact ⟨_, rfl, (beginsWithCharacter_iff value).mp h⟩
  | other present =>
      rw [hvalue] at h
      cases h

theorem leafSafe_of_readable {leaf : Leaf} {valueInt : Int}
    (h : Readable (RANParameterItem.ofElement
      { valueType := .octectString, valueInt := valueInt }
      leaf.ranParameterItem leaf.element)) : LeafSafe leaf := by
  unfold LeafSafe
  unfold RANParameterItem.ofElement at h
  cases hvalue : leaf.element.ranParameterValue with
  | nothing => trivial
  | valueInt value => trivial
  | valueOctS value =>
      rw [hvalue] at h
      rcases h rfl with ⟨valueStr, hstr, hcontent⟩
      cases hstr
      exact (beginsWithCharacter_iff value).mpr hcontent
  | other present =>
      rw [hvalue] at h
      rcases h rfl with ⟨valueStr, hstr, _⟩
      cases hstr

theorem mem_ofLeaves {frames : Nat -> ItemLeftover} {ls : List Leaf}
    {item : RANParameterItem}
    (h : item ∈ RANParameterItem.ofLeaves frames ls) :
    exists k leaf, leaf ∈ ls ∧
      item = RANParameterItem.ofElement (frames k) leaf.ranParameterItem
        leaf.element := by
  unfold RANParameterItem.ofLeaves at h
  rcases List.mem_mapIdx.mp h with ⟨k, hk, hitem⟩
  exact ⟨k, ls[k], List.getElem_mem hk, hitem.symm⟩

theorem ofElement_mem_ofLeaves {ls : List Leaf} {leaf : Leaf}
    (h : leaf ∈ ls) (frames : Nat -> ItemLeftover) :
    exists k, RANParameterItem.ofElement (frames k) leaf.ranParameterItem
      leaf.element ∈ RANParameterItem.ofLeaves frames ls := by
  rcases List.getElem_of_mem h with ⟨k, hk, hleaf⟩
  refine ⟨k, ?_⟩
  unfold RANParameterItem.ofLeaves
  exact List.mem_mapIdx.mpr ⟨k, hk, by rw [hleaf]⟩

theorem framesAfter_constant (asn : AsnDecode) (leftover : ItemLeftover)
    (pre : List RICcontrolRequestIEs) :
    framesAfter asn (fun _ => leftover) pre = fun _ => leftover := by
  induction pre with
  | nil => rfl
  | cons ie pre ih => exact ih

theorem contributedValues_of_walkable {asn : AsnDecode}
    {payload : OctetStringT}
    (h : MessageWalkable (decodedMessage asn payload))
    (frames : Nat -> ItemLeftover) :
    contributedValues asn frames payload =
      some (RANParameterItem.ofLeaves frames
        (messageLeaves (decodedMessage asn payload))) := by
  unfold contributedValues
  cases hmessage : decodedMessage asn payload with
  | other present => rfl
  | controlMessageFormat1 message =>
      rw [hmessage] at h
      cases message with
      | none => cases h
      | some message => exact extract_of_walkable h frames

theorem lastNamed_getD_TS {pre : List RICcontrolRequestIEs}
    (h : lastNamed pre ≠ some ControlMessageRequestIdType.QoS) :
    (lastNamed pre).getD ControlMessageRequestIdType.TS =
      ControlMessageRequestIdType.TS := by
  cases hlast : lastNamed pre with
  | none => rfl
  | some named =>
      rcases List.mem_filterMap.mp (List.mem_of_getLast? hlast) with
        ⟨ie, _, hie⟩
      rcases namedRequestType_known hie with hTS | hQoS
      · rw [hTS]
        rfl
      · rw [hlast, hQoS] at h
        exact absurd rfl h

theorem lastNamed_ne_QoS {requestType : ControlMessageRequestIdType}
    {pre : List RICcontrolRequestIEs}
    (h : (lastNamed pre).getD requestType =
      ControlMessageRequestIdType.TS) :
    lastNamed pre ≠ some ControlMessageRequestIdType.QoS := by
  intro hlast
  rw [hlast] at h
  cases h

/-!
## Tolerable requests
-/

theorem length_valuesExtracted {asn : AsnDecode} {s s' : DecodeState}
    {ies : List RICcontrolRequestIEs}
    (h : PartialRun.run (decodeIE asn) s ies = some s') :
    s'.message.valuesExtracted.length =
      lastWrite (valueCountWrite asn) s.message.valuesExtracted.length ies := by
  refine PartialRun.run_plain_register
    (fun s => s.message.valuesExtracted.length) (valueCountWrite asn) ?_ h
  intro s ie s' hstep
  rw [decodeIE_eq_written hstep]
  cases ie with
  | ricControlMessage payload =>
      unfold written valueCountWrite valuesWrite extractedValues
      dsimp only
      split
      · exact RANParameterItem.length_ofLeaves _ _
      · rfl
  | _ => rfl

theorem decodeIE_of_no_leaves {asn : AsnDecode} {s : DecodeState}
    {payload : OctetStringT}
    (hwalk : MessageWalkable (decodedMessage asn payload))
    (hleaves : messageLeaves (decodedMessage asn payload) = []) :
    decodeIE asn s (.ricControlMessage payload) =
      some { s with
        message := { s.message with
          valuesExtracted :=
            if isFormat1 (decodedMessage asn payload) then []
            else s.message.valuesExtracted } } := by
  have hnotFault : ¬ Fault asn (contextOf s) (.ricControlMessage payload) := by
    intro hfault
    rcases hfault with hnot | ⟨_, item, hitem, _⟩
    · exact hnot hwalk
    · unfold extractedValues at hitem
      rw [hleaves] at hitem
      cases hitem
  rw [decodeIE_of_not_fault hnotFault]
  have hnone : extractedValues asn (contextOf s) payload = [] := by
    unfold extractedValues
    rw [hleaves]
    rfl
  split
  · rename_i hformat
    simp [written, messageString, hleaves, hnone, hformat]
  · rename_i hformat
    simp [written, messageString, hleaves, hformat]

theorem tolerates_of_tolerable {asn : AsnDecode}
    {request : RICcontrolRequestT}
    (h : Tolerable asn request.protocolIEs) : Tolerates asn request := by
  intro leftover frames
  constructor
  · cases hnew : RicControlMessage.new asn leftover frames request with
    | some message => exact ⟨message, rfl⟩
    | none =>
        rcases new_eq_none_iff_at.mp hnew with
          ⟨pre, payload, post, hsplit, hbad⟩
        rcases h pre payload post hsplit with ⟨hwalk, _, hsafe⟩
        rcases hbad with hnot | ⟨hTS, item, hitem, hread⟩
        · exact absurd hwalk hnot
        · rcases mem_ofLeaves hitem with ⟨k, leaf, hleaf, rfl⟩
          exact absurd (readable_of_leafSafe
            (hsafe (lastNamed_ne_QoS hTS) leaf hleaf) _) hread
  · intro pre payload post s hsplit hpre hmalformed
    rcases h pre payload post hsplit with ⟨hwalk, hfailed, hsafe⟩
    have htype := (decode_effect hpre).requestType
    rcases hmalformed with hcode | habsent | ⟨hTS, leaf, value, hleaf, hvalue,
      hbad⟩
    · rcases hfailed hcode with ⟨hleaves, hcount⟩
      constructor
      · rw [contributedValues_of_walkable hwalk, hleaves]
        rfl
      · rw [decodeIE_of_no_leaves hwalk hleaves]
        split
        · rename_i hformat
          have hlength := (length_valuesExtracted hpre).trans (hcount hformat)
          rw [← List.eq_nil_of_length_eq_zero hlength]
        · rfl
    · rw [habsent] at hwalk
      cases hwalk
    · rw [htype] at hTS
      have hgood := hsafe (lastNamed_ne_QoS hTS) leaf hleaf
      unfold LeafSafe at hgood
      rw [hvalue] at hgood
      exact absurd hgood hbad

theorem tolerable_of_tolerates {asn : AsnDecode}
    {request : RICcontrolRequestT} (h : Tolerates asn request) :
    Tolerable asn request.protocolIEs := by
  intro pre payload post hsplit
  rcases h (zeroedExcept .TS)
    (fun _ => { valueType := .octectString, valueInt := 0 }) with
    ⟨⟨message, hnew⟩, hmalformed⟩
  have hnotFault : ¬ (¬ MessageWalkable (decodedMessage asn payload) ∨
      ((lastNamed pre).getD ControlMessageRequestIdType.TS =
          ControlMessageRequestIdType.TS ∧
        exists item, item ∈ itemsAt asn (fun _ =>
            { valueType := .octectString, valueInt := 0 }) pre payload ∧
          ¬ Readable item)) := by
    intro hfault
    rw [new_eq_none_iff_at.mpr ⟨pre, payload, post, hsplit, hfault⟩] at hnew
    cases hnew
  have hwalk : MessageWalkable (decodedMessage asn payload) := by
    by_contra hnot
    exact hnotFault (Or.inl hnot)
  refine ⟨hwalk, ?_, ?_⟩
  · intro hcode
    rcases new_eq_some_iff.mp hnew with ⟨s', hrun, _⟩
    rw [hsplit] at hrun
    rcases PartialRun.run_append_some hrun with ⟨s, hpre, _⟩
    rcases hmalformed pre payload post s hsplit hpre (Or.inl hcode) with
      ⟨hnone, hunchanged⟩
    have hleaves : messageLeaves (decodedMessage asn payload) = [] := by
      rw [contributedValues_of_walkable hwalk] at hnone
      have hlength := congrArg List.length (Option.some.inj hnone)
      rw [RANParameterItem.length_ofLeaves] at hlength
      exact List.length_eq_zero_iff.mp hlength
    refine ⟨hleaves, ?_⟩
    intro hformat
    rw [decodeIE_of_no_leaves hwalk hleaves, if_pos hformat] at hunchanged
    have hvalues : [] = s.message.valuesExtracted :=
      congrArg (fun s : DecodeState => s.message.valuesExtracted)
        (Option.some.inj hunchanged)
    have hlength := length_valuesExtracted hpre
    rw [← hvalues] at hlength
    exact hlength.symm
  · intro hnamed leaf hleaf
    rcases ofElement_mem_ofLeaves hleaf (fun _ =>
        { valueType := .octectString, valueInt := 0 }) with ⟨k, hitem⟩
    apply leafSafe_of_readable
    by_contra hnot
    refine hnotFault (Or.inr ⟨lastNamed_getD_TS hnamed, _, ?_, hnot⟩)
    unfold itemsAt
    rw [framesAfter_constant]
    exact hitem

theorem tolerates_iff (asn : AsnDecode) (request : RICcontrolRequestT) :
    Tolerates asn request <-> Tolerable asn request.protocolIEs := by
  constructor
  · exact tolerable_of_tolerates
  · exact tolerates_of_tolerable

def absentListMessage : E2SMRCControlMessageT :=
  .controlMessageFormat1 (some { ranParametersList := none })

theorem absentListMessage_not_tolerated :
    RicControlMessage.new (AsnDecode.constant absentListMessage)
        (zeroedExcept (.unnamed 0))
        (fun _ => { valueType := .nothing, valueInt := 0 })
        handoverRequest = none ∧
      ¬ Tolerates (AsnDecode.constant absentListMessage) handoverRequest := by
  have hnone : forall leftover frames,
      RicControlMessage.new (AsnDecode.constant absentListMessage)
        leftover frames handoverRequest = none := fun _ _ => rfl
  refine ⟨hnone _ _, ?_⟩
  intro h
  rcases (h (zeroedExcept (.unnamed 0))
    (fun _ => { valueType := .nothing, valueInt := 0 })).left with
    ⟨message, hnew⟩
  rw [hnone] at hnew
  cases hnew

end Control
end OranE2
