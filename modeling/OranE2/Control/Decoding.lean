import OranE2.Control.Message
import OranE2.Library.LastWrite

/-!
# What the decoding loop computes

The loop reads back two things it maintains itself: the request type, which
decides how a control message is treated, and the leftover memory under the
extracted items.  They form a context that evolves along the element list by
itself.  In that context each element either faults or writes its members, so
a whole run is described by its faults and by the last write to each member.
-/

namespace OranE2
namespace Control

open Library
open E2ap
open Asn1c

/-!
## Reading a control message

What a decoded control message contributes, read off its parameter tree.
-/

def leafString (leaf : Leaf) : Option OctetString :=
  match leaf.element.ranParameterValue with
  | .valueOctS value =>
      some (OctetString.ofPointer value.buf value.size value.size_le)
  | _ => none

def itemString (item : RANParameterItem) : Option OctetString :=
  if item.valueType = ValueType.octectString then item.valueStr else none

def lastString (values : List RANParameterItem) : Option OctetString :=
  (values.filterMap itemString).getLast?

def lastCharacter (valueStr : OctetString) : List UInt8 :=
  valueStr.decodeContent.getLast?.toList

def Format1Walkable (message : E2SMRCControlMessageFormat1T) : Prop :=
  match message.ranParametersList with
  | none => False
  | some items => WalkableList items

def format1Leaves (message : E2SMRCControlMessageFormat1T) : List Leaf :=
  match message.ranParametersList with
  | none => []
  | some items => leavesList items

def MessageWalkable : E2SMRCControlMessageT -> Prop
  | .controlMessageFormat1 none => False
  | .controlMessageFormat1 (some message) => Format1Walkable message
  | .other _ => True

def messageLeaves : E2SMRCControlMessageT -> List Leaf
  | .controlMessageFormat1 none => []
  | .controlMessageFormat1 (some message) => format1Leaves message
  | .other _ => []

def isFormat1 : E2SMRCControlMessageT -> Bool
  | .controlMessageFormat1 _ => true
  | .other _ => false

/-- The structure that the decoder leaves behind for a control message. -/
def decodedMessage (asn : AsnDecode) (payload : OctetStringT) :
    E2SMRCControlMessageT :=
  (asn.controlMessage payload.octets).decodedStruct

def messageString (asn : AsnDecode) (payload : OctetStringT) :
    Option OctetString :=
  ((messageLeaves (decodedMessage asn payload)).filterMap
    leafString).getLast?

theorem itemString_ofElement (leftover : ItemLeftover) (leaf : Leaf) :
    itemString (RANParameterItem.ofElement leftover leaf.ranParameterItem
      leaf.element) = leafString leaf := by
  unfold itemString leafString RANParameterItem.ofElement
  cases leaf.element.ranParameterValue with
  | other present => exact ite_self none
  | nothing => simp
  | valueInt value => simp
  | valueOctS value => simp

theorem filterMap_itemString_ofLeaves (frames : Nat -> ItemLeftover)
    (ls : List Leaf) :
    (RANParameterItem.ofLeaves frames ls).filterMap itemString =
      ls.filterMap leafString := by
  induction ls generalizing frames with
  | nil => rfl
  | cons leaf ls ih =>
      have hsplit := RANParameterItem.ofLeaves_append frames [leaf] ls
      rw [List.singleton_append] at hsplit
      rw [hsplit, List.filterMap_append, ih]
      show [RANParameterItem.ofElement (frames 0) leaf.ranParameterItem
        leaf.element].filterMap itemString ++ _ = _
      rw [List.filterMap_cons, itemString_ofElement, List.filterMap_cons]
      cases leafString leaf <;> rfl

/-!
## Scanning the extracted values
-/

/-- An item that the scan for the secondary cell id survives. -/
def Readable (item : RANParameterItem) : Prop :=
  item.valueType = ValueType.octectString ->
    exists valueStr, item.valueStr = some valueStr ∧
      valueStr.decodeContent ≠ []

theorem scanItem_eq_none_iff {secondaryCellId : List UInt8}
    {item : RANParameterItem} :
    scanItem secondaryCellId item = none <-> ¬ Readable item := by
  unfold scanItem Readable
  by_cases htype : item.valueType = ValueType.octectString
  · cases hstr : item.valueStr with
    | none => simp [htype]
    | some valueStr =>
        cases hlast : valueStr.decodeContent.getLast? with
        | none => simp [htype, List.getLast?_eq_none_iff.mp hlast]
        | some c =>
            have hne : valueStr.decodeContent ≠ [] := by
              intro hnil
              rw [hnil] at hlast
              cases hlast
            simp [htype, hlast, hne]
  · simp [htype]

theorem scanItem_eq_some {secondaryCellId next : List UInt8}
    {item : RANParameterItem}
    (h : scanItem secondaryCellId item = some next) :
    next = ((itemString item).map lastCharacter).getD secondaryCellId := by
  unfold scanItem at h
  unfold itemString
  by_cases htype : item.valueType = ValueType.octectString
  · rw [if_pos htype] at h ⊢
    cases hstr : item.valueStr with
    | none =>
        rw [hstr] at h
        cases h
    | some valueStr =>
        cases hlast : valueStr.decodeContent.getLast? with
        | none => simp [hstr, hlast] at h
        | some c =>
            simp only [hstr, hlast, Option.some.injEq] at h
            simp [lastCharacter, hlast, h]
  · rw [if_neg htype] at h ⊢
    cases h
    rfl

theorem scan_eq_none_iff (secondaryCellId : List UInt8)
    {values : List RANParameterItem} :
    PartialRun.run scanItem secondaryCellId values = none <->
      exists item, item ∈ values ∧ ¬ Readable item := by
  rw [PartialRun.run_eq_none_iff_fault (fun _ => ()) (fun _ _ => ())
    (fun _ item => ¬ Readable item) (fun _ _ _ _ => rfl)
    (fun _ _ => scanItem_eq_none_iff)]
  constructor
  · intro h
    rcases h with ⟨p, hp, hfault⟩
    rcases mem_annotate_iff.mp hp with ⟨pre, post, hsplit, _⟩
    exact ⟨p.2, by rw [hsplit]; simp, hfault⟩
  · intro h
    rcases h with ⟨item, hitem, hfault⟩
    rcases List.append_of_mem hitem with ⟨pre, post, hsplit⟩
    exact ⟨((), item), mem_annotate_iff.mpr ⟨pre, post, hsplit, rfl⟩, hfault⟩

theorem getLast?_map_getD_eq_lastWrite {alpha beta gamma : Type}
    (f : alpha -> Option beta) (g : beta -> gamma) (init : gamma)
    (xs : List alpha) :
    lastWrite (fun x => (f x).map g) init xs =
      (((xs.filterMap f).getLast?).map g).getD init := by
  unfold lastWrite
  rw [← List.getLast?_map]
  congr 2
  rw [List.map_filterMap]

theorem scan_eq_some {secondaryCellId next : List UInt8}
    {values : List RANParameterItem}
    (h : PartialRun.run scanItem secondaryCellId values = some next) :
    next = ((lastString values).map lastCharacter).getD secondaryCellId := by
  have hwrite := PartialRun.run_plain_register id
    (fun item => (itemString item).map lastCharacter)
    (fun s x s' hstep => scanItem_eq_some hstep) h
  rw [getLast?_map_getD_eq_lastWrite] at hwrite
  exact hwrite

/-!
## The context of the loop
-/

/-- What one iteration hands to the next besides the members it writes. -/
structure DecodeContext where
  requestType : ControlMessageRequestIdType
  frames : Nat -> ItemLeftover

def contextOf (s : DecodeState) : DecodeContext where
  requestType := s.message.requestType
  frames := s.frames

@[simp] def namedRequestType : RICcontrolRequestIEs ->
    Option ControlMessageRequestIdType
  | .ricRequestID id => requestTypeOf id.ricRequestorID
  | _ => none

@[simp] def constructedItems (asn : AsnDecode) : RICcontrolRequestIEs -> Nat
  | .ricControlMessage payload =>
      (messageLeaves (decodedMessage asn payload)).length
  | _ => 0

def nextRequestType (requestType : ControlMessageRequestIdType)
    (ie : RICcontrolRequestIEs) : ControlMessageRequestIdType :=
  (namedRequestType ie).getD requestType

def nextContext (asn : AsnDecode) (c : DecodeContext)
    (ie : RICcontrolRequestIEs) : DecodeContext where
  requestType := nextRequestType c.requestType ie
  frames := fun k => c.frames (constructedItems asn ie + k)

def extractedValues (asn : AsnDecode) (c : DecodeContext)
    (payload : OctetStringT) : List RANParameterItem :=
  RANParameterItem.ofLeaves c.frames
    (messageLeaves (decodedMessage asn payload))

/-- The element takes the loop outside the domain of its operations. -/
def Fault (asn : AsnDecode) (c : DecodeContext) :
    RICcontrolRequestIEs -> Prop
  | .ricControlMessage payload =>
      ¬ MessageWalkable (decodedMessage asn payload) ∨
        (c.requestType = ControlMessageRequestIdType.TS ∧
          exists item, item ∈ extractedValues asn c payload ∧ ¬ Readable item)
  | _ => False

@[simp] def valuesWrite (asn : AsnDecode) (c : DecodeContext) :
    RICcontrolRequestIEs -> Option (List RANParameterItem)
  | .ricControlMessage payload =>
      if isFormat1 (decodedMessage asn payload) then
        some (extractedValues asn c payload)
      else
        none
  | _ => none

@[simp] def cellIdWrite (asn : AsnDecode)
    (requestType : ControlMessageRequestIdType) :
    RICcontrolRequestIEs -> Option (List UInt8)
  | .ricControlMessage payload =>
      if requestType = ControlMessageRequestIdType.TS then
        (messageString asn payload).map lastCharacter
      else
        none
  | _ => none

@[simp] def headerWrite (asn : AsnDecode) :
    RICcontrolRequestIEs -> Option HeaderPointer
  | .ricControlHeader payload =>
      match (asn.controlHeader payload.octets).decodedStruct with
      | .controlHeaderFormat1 header => some (headerPointer header)
      | .other _ => none
  | _ => none

@[simp] def requestIdWrite : RICcontrolRequestIEs -> Option RICrequestIDT
  | .ricRequestID id => some id
  | _ => none

@[simp] def ranFunctionIdWrite : RICcontrolRequestIEs -> Option Int
  | .ranFunctionID id => some id
  | _ => none

@[simp] def callProcessIdWrite : RICcontrolRequestIEs -> Option OctetStringT
  | .ricCallProcessID id => some id
  | _ => none

def written (asn : AsnDecode) (s : DecodeState) (ie : RICcontrolRequestIEs) :
    DecodeState where
  message :=
    { requestType := (namedRequestType ie).getD s.message.requestType
      valuesExtracted :=
        (valuesWrite asn (contextOf s) ie).getD s.message.valuesExtracted
      ranFunctionId :=
        (ranFunctionIdWrite ie).getD s.message.ranFunctionId
      ricRequestId := (requestIdWrite ie).getD s.message.ricRequestId
      ricCallProcessId :=
        (callProcessIdWrite ie).getD s.message.ricCallProcessId
      e2SmRcControlHeaderFormat1 :=
        (headerWrite asn ie).getD s.message.e2SmRcControlHeaderFormat1
      secondaryCellId :=
        (cellIdWrite asn s.message.requestType ie).getD
          s.message.secondaryCellId }
  frames := fun k => s.frames (constructedItems asn ie + k)

theorem foldl_nextRequestType
    (requestType : ControlMessageRequestIdType)
    (ies : List RICcontrolRequestIEs) :
    ies.foldl nextRequestType requestType =
      lastWrite namedRequestType requestType ies := by
  apply foldl_register (fun named : ControlMessageRequestIdType => named)
  intro requestType ie
  rfl

theorem foldl_nextContext_requestType (asn : AsnDecode) (c : DecodeContext)
    (ies : List RICcontrolRequestIEs) :
    (ies.foldl (nextContext asn) c).requestType =
      ies.foldl nextRequestType c.requestType :=
  (List.foldl_hom (fun c : DecodeContext => c.requestType)
    fun _ _ => rfl).symm

/-- Whatever elements came before, the request type in force is the leftover
one or the one that a request id of the request names. -/
theorem requestType_in_force (requestType : ControlMessageRequestIdType)
    (pre : List RICcontrolRequestIEs) :
    lastWrite namedRequestType requestType pre = requestType ∨
      exists id, .ricRequestID id ∈ pre ∧
        requestTypeOf id.ricRequestorID =
          some (lastWrite namedRequestType requestType pre) := by
  rcases exists_last_write namedRequestType pre with
    hsilent | ⟨front, ie, back, named, hsplit, hie, hback⟩
  · exact Or.inl (lastWrite_of_silent hsilent requestType)
  · apply Or.inr
    cases ie with
    | ricRequestID id =>
        refine ⟨id, by rw [hsplit]; simp, ?_⟩
        rw [hsplit, lastWrite_split namedRequestType front hie hback]
        exact hie
    | _ => cases hie

def startContext (leftover : ObjectLeftover)
    (frames : Nat -> ItemLeftover) : DecodeContext where
  requestType := leftover.requestType
  frames := frames

/-!
## One iteration
-/

theorem extract_of_walkable {message : E2SMRCControlMessageFormat1T}
    (h : Format1Walkable message) (frames : Nat -> ItemLeftover) :
    extractRANParametersFromControlMessage frames message =
      some (RANParameterItem.ofLeaves frames (format1Leaves message)) := by
  unfold Format1Walkable at h
  unfold extractRANParametersFromControlMessage format1Leaves
  cases hlist : message.ranParametersList with
  | none =>
      rw [hlist] at h
      cases h
  | some items =>
      rw [hlist] at h
      exact RANParameterItem.extractRANParametersFromList_of_walkable
        frames items h

theorem extract_of_not_walkable {message : E2SMRCControlMessageFormat1T}
    (h : ¬ Format1Walkable message) (frames : Nat -> ItemLeftover) :
    extractRANParametersFromControlMessage frames message = none := by
  unfold Format1Walkable at h
  unfold extractRANParametersFromControlMessage
  cases hlist : message.ranParametersList with
  | none => rfl
  | some items =>
      rw [hlist] at h
      exact RANParameterItem.extractRANParametersFromList_eq_none_iff.mpr h

theorem lastString_extractedValues (asn : AsnDecode) (c : DecodeContext)
    (payload : OctetStringT) :
    lastString (extractedValues asn c payload) =
      messageString asn payload := by
  unfold lastString extractedValues messageString
  rw [filterMap_itemString_ofLeaves]

theorem decodeFormat1_other {s : DecodeState}
    {message : E2SMRCControlMessageFormat1T}
    (hwalk : Format1Walkable message)
    (htype : s.message.requestType ≠ ControlMessageRequestIdType.TS) :
    decodeFormat1 s message =
      some
        { message :=
            { s.message with
              valuesExtracted :=
                RANParameterItem.ofLeaves s.frames (format1Leaves message) }
          frames := fun k =>
            s.frames ((format1Leaves message).length + k) } := by
  unfold decodeFormat1
  rw [extract_of_walkable hwalk]
  simp [htype]

theorem decodeFormat1_TS {s : DecodeState}
    {message : E2SMRCControlMessageFormat1T}
    (hwalk : Format1Walkable message)
    (htype : s.message.requestType = ControlMessageRequestIdType.TS) :
    decodeFormat1 s message =
      (PartialRun.run scanItem s.message.secondaryCellId
        (RANParameterItem.ofLeaves s.frames (format1Leaves message))).map
        fun secondaryCellId =>
          { message :=
              { s.message with
                valuesExtracted :=
                  RANParameterItem.ofLeaves s.frames (format1Leaves message)
                secondaryCellId := secondaryCellId }
            frames := fun k =>
              s.frames ((format1Leaves message).length + k) } := by
  unfold decodeFormat1
  rw [extract_of_walkable hwalk]
  simp only [htype, if_true, RANParameterItem.length_ofLeaves]
  cases PartialRun.run scanItem s.message.secondaryCellId
    (RANParameterItem.ofLeaves s.frames (format1Leaves message)) <;> rfl

theorem decodeIE_message_eq (asn : AsnDecode) (s : DecodeState)
    (payload : OctetStringT) :
    decodeIE asn s (.ricControlMessage payload) =
      match decodedMessage asn payload with
      | .controlMessageFormat1 none => none
      | .controlMessageFormat1 (some message) => decodeFormat1 s message
      | .other _ => some s := rfl

theorem decodeIE_of_fault {asn : AsnDecode} {s : DecodeState}
    {ie : RICcontrolRequestIEs} (h : Fault asn (contextOf s) ie) :
    decodeIE asn s ie = none := by
  cases ie with
  | ricControlMessage payload =>
      rw [decodeIE_message_eq]
      rcases h with hwalk | ⟨htype, hitem⟩
      · cases hmessage : decodedMessage asn payload with
        | other present =>
            rw [hmessage] at hwalk
            exact absurd trivial hwalk
        | controlMessageFormat1 message =>
            rw [hmessage] at hwalk
            cases message with
            | none => rfl
            | some message =>
                show decodeFormat1 s message = none
                unfold decodeFormat1
                rw [extract_of_not_walkable hwalk]
      · have hscan := (scan_eq_none_iff s.message.secondaryCellId).mpr hitem
        unfold extractedValues at hscan
        cases hmessage : decodedMessage asn payload with
        | other present =>
            rw [hmessage] at hscan
            cases hscan
        | controlMessageFormat1 message =>
            cases message with
            | none => rfl
            | some message =>
                rw [hmessage] at hscan
                show decodeFormat1 s message = none
                by_cases hwalk : Format1Walkable message
                · rw [decodeFormat1_TS hwalk htype]
                  show (PartialRun.run scanItem _
                    (RANParameterItem.ofLeaves (contextOf s).frames
                      (messageLeaves (.controlMessageFormat1
                        (some message))))).map _ = none
                  rw [hscan]
                  rfl
                · unfold decodeFormat1
                  rw [extract_of_not_walkable hwalk]
  | _ => cases h

theorem decodeIE_message_of_not_fault {asn : AsnDecode} {s : DecodeState}
    {payload : OctetStringT}
    (h : ¬ Fault asn (contextOf s) (.ricControlMessage payload)) :
    decodeIE asn s (.ricControlMessage payload) =
      some (written asn s (.ricControlMessage payload)) := by
  rw [decodeIE_message_eq]
  have hwalk : MessageWalkable (decodedMessage asn payload) := by
    by_contra hnot
    exact h (Or.inl hnot)
  have hstring := lastString_extractedValues asn (contextOf s) payload
  cases hmessage : decodedMessage asn payload with
  | other present =>
      simp [written, messageString, hmessage, messageLeaves, isFormat1]
  | controlMessageFormat1 message =>
      rw [hmessage] at hwalk
      cases message with
      | none => cases hwalk
      | some message =>
          have hvalues : extractedValues asn (contextOf s) payload =
              RANParameterItem.ofLeaves s.frames (format1Leaves message) := by
            unfold extractedValues
            rw [hmessage]
            rfl
          rw [hvalues] at hstring
          by_cases htype :
              s.message.requestType = ControlMessageRequestIdType.TS
          · cases hscan : PartialRun.run scanItem s.message.secondaryCellId
                (RANParameterItem.ofLeaves s.frames
                  (format1Leaves message)) with
            | none =>
                rw [← hvalues] at hscan
                exact absurd
                  (Or.inr ⟨htype, (scan_eq_none_iff _).mp hscan⟩) h
            | some cellId =>
                have hcell := scan_eq_some hscan
                rw [hstring] at hcell
                show decodeFormat1 s message = _
                rw [decodeFormat1_TS hwalk htype, hscan]
                simp [written, hmessage, messageLeaves, isFormat1, hvalues,
                  htype, hcell]
          · show decodeFormat1 s message = _
            rw [decodeFormat1_other hwalk htype]
            simp [written, hmessage, messageLeaves, isFormat1, hvalues, htype]

/-- The step lemma: an element that does not fault has exactly the listed
writes. -/
theorem decodeIE_of_not_fault {asn : AsnDecode} {s : DecodeState}
    {ie : RICcontrolRequestIEs} (h : ¬ Fault asn (contextOf s) ie) :
    decodeIE asn s ie = some (written asn s ie) := by
  cases ie with
  | ricControlMessage payload => exact decodeIE_message_of_not_fault h
  | ricControlHeader payload =>
      unfold decodeIE
      cases hheader : (asn.controlHeader payload.octets).decodedStruct with
      | controlHeaderFormat1 header => simp [written, hheader]
      | other present => simp [written, hheader]
  | ricRequestID id => simp [decodeIE, written]
  | ranFunctionID id => simp [decodeIE, written]
  | ricCallProcessID id => simp [decodeIE, written]
  | ricControlAckRequest ack => simp [decodeIE, written]
  | nothing => simp [decodeIE, written]
  | other present => simp [decodeIE, written]

theorem decodeIE_eq_none_iff (asn : AsnDecode) (s : DecodeState)
    (ie : RICcontrolRequestIEs) :
    decodeIE asn s ie = none <-> Fault asn (contextOf s) ie := by
  constructor
  · intro h
    by_contra hfault
    rw [decodeIE_of_not_fault hfault] at h
    cases h
  · exact decodeIE_of_fault

theorem decodeIE_eq_written {asn : AsnDecode} {s s' : DecodeState}
    {ie : RICcontrolRequestIEs} (h : decodeIE asn s ie = some s') :
    s' = written asn s ie := by
  by_cases hfault : Fault asn (contextOf s) ie
  · rw [decodeIE_of_fault hfault] at h
    cases h
  · rw [decodeIE_of_not_fault hfault] at h
    exact (Option.some.inj h).symm

/-!
## Whole runs
-/

theorem decodeIE_context (asn : AsnDecode) (s : DecodeState)
    (ie : RICcontrolRequestIEs) (s' : DecodeState)
    (h : decodeIE asn s ie = some s') :
    contextOf s' = nextContext asn (contextOf s) ie := by
  rw [decodeIE_eq_written h]
  rfl

theorem decodeIE_requestType (asn : AsnDecode) (s : DecodeState)
    (ie : RICcontrolRequestIEs) (s' : DecodeState)
    (h : decodeIE asn s ie = some s') :
    s'.message.requestType = nextRequestType s.message.requestType ie := by
  rw [decodeIE_eq_written h]
  rfl

def inContext (asn : AsnDecode) (c : DecodeContext)
    (ies : List RICcontrolRequestIEs) :
    List (DecodeContext × RICcontrolRequestIEs) :=
  annotate (nextContext asn) c ies

def underRequestType (requestType : ControlMessageRequestIdType)
    (ies : List RICcontrolRequestIEs) :
    List (ControlMessageRequestIdType × RICcontrolRequestIEs) :=
  annotate nextRequestType requestType ies

theorem decode_eq_none_iff {asn : AsnDecode} {s : DecodeState}
    {ies : List RICcontrolRequestIEs} :
    PartialRun.run (decodeIE asn) s ies = none <->
      exists p, p ∈ inContext asn (contextOf s) ies ∧ Fault asn p.1 p.2 :=
  PartialRun.run_eq_none_iff_fault contextOf (nextContext asn) (Fault asn)
    (decodeIE_context asn) (decodeIE_eq_none_iff asn)

/-- The run lemma: every member holds the last write to it. -/
structure RunEffect (asn : AsnDecode) (s s' : DecodeState)
    (ies : List RICcontrolRequestIEs) : Prop where
  requestType : s'.message.requestType =
    lastWrite namedRequestType s.message.requestType ies
  requestId : s'.message.ricRequestId =
    lastWrite requestIdWrite s.message.ricRequestId ies
  ranFunctionId : s'.message.ranFunctionId =
    lastWrite ranFunctionIdWrite s.message.ranFunctionId ies
  callProcessId : s'.message.ricCallProcessId =
    lastWrite callProcessIdWrite s.message.ricCallProcessId ies
  header : s'.message.e2SmRcControlHeaderFormat1 =
    lastWrite (headerWrite asn) s.message.e2SmRcControlHeaderFormat1 ies
  values : s'.message.valuesExtracted =
    lastWrite (fun p => valuesWrite asn p.1 p.2) s.message.valuesExtracted
      (inContext asn (contextOf s) ies)
  cellId : s'.message.secondaryCellId =
    lastWrite (fun p => cellIdWrite asn p.1 p.2) s.message.secondaryCellId
      (underRequestType s.message.requestType ies)

theorem decode_effect {asn : AsnDecode} {s s' : DecodeState}
    {ies : List RICcontrolRequestIEs}
    (h : PartialRun.run (decodeIE asn) s ies = some s') :
    RunEffect asn s s' ies where
  requestType := PartialRun.run_plain_register
    (fun s => s.message.requestType) namedRequestType
    (fun _ _ _ hstep => by rw [decodeIE_eq_written hstep]; rfl) h
  requestId := PartialRun.run_plain_register
    (fun s => s.message.ricRequestId) requestIdWrite
    (fun _ _ _ hstep => by rw [decodeIE_eq_written hstep]; rfl) h
  ranFunctionId := PartialRun.run_plain_register
    (fun s => s.message.ranFunctionId) ranFunctionIdWrite
    (fun _ _ _ hstep => by rw [decodeIE_eq_written hstep]; rfl) h
  callProcessId := PartialRun.run_plain_register
    (fun s => s.message.ricCallProcessId) callProcessIdWrite
    (fun _ _ _ hstep => by rw [decodeIE_eq_written hstep]; rfl) h
  header := PartialRun.run_plain_register
    (fun s => s.message.e2SmRcControlHeaderFormat1) (headerWrite asn)
    (fun _ _ _ hstep => by rw [decodeIE_eq_written hstep]; rfl) h
  values := PartialRun.run_register contextOf (nextContext asn)
    (fun s => s.message.valuesExtracted) (valuesWrite asn)
    (decodeIE_context asn)
    (fun _ _ _ hstep => by rw [decodeIE_eq_written hstep]; rfl) h
  cellId := PartialRun.run_register (fun s => s.message.requestType)
    nextRequestType (fun s => s.message.secondaryCellId) (cellIdWrite asn)
    (decodeIE_requestType asn)
    (fun _ _ _ hstep => by rw [decodeIE_eq_written hstep]; rfl) h

/-!
## The constructor
-/

theorem new_eq_some_iff {asn : AsnDecode} {leftover : ObjectLeftover}
    {frames : Nat -> ItemLeftover} {request : RICcontrolRequestT}
    {message : RicControlMessage} :
    RicControlMessage.new asn leftover frames request = some message <->
      exists s', PartialRun.run (decodeIE asn)
          { message := leftover.object, frames := frames }
          request.protocolIEs = some s' ∧ s'.message = message := by
  unfold RicControlMessage.new
  rw [decodeRicControlMessage_eq_run]
  exact Option.map_eq_some_iff

theorem new_eq_none_iff {asn : AsnDecode} {leftover : ObjectLeftover}
    {frames : Nat -> ItemLeftover} {request : RICcontrolRequestT} :
    RicControlMessage.new asn leftover frames request = none <->
      exists p, p ∈ inContext asn (startContext leftover frames)
        request.protocolIEs ∧ Fault asn p.1 p.2 := by
  unfold RicControlMessage.new
  rw [decodeRicControlMessage_eq_run, Option.map_eq_none_iff]
  exact decode_eq_none_iff

def lastNamed (pre : List RICcontrolRequestIEs) :
    Option ControlMessageRequestIdType :=
  (pre.filterMap namedRequestType).getLast?

def framesAfter (asn : AsnDecode) (frames : Nat -> ItemLeftover) :
    List RICcontrolRequestIEs -> Nat -> ItemLeftover
  | [] => frames
  | ie :: ies =>
      framesAfter asn (fun k => frames (constructedItems asn ie + k)) ies

def itemsAt (asn : AsnDecode) (frames : Nat -> ItemLeftover)
    (pre : List RICcontrolRequestIEs) (payload : OctetStringT) :
    List RANParameterItem :=
  RANParameterItem.ofLeaves (framesAfter asn frames pre)
    (messageLeaves (decodedMessage asn payload))

theorem foldl_nextContext_frames (asn : AsnDecode) (c : DecodeContext)
    (ies : List RICcontrolRequestIEs) :
    (ies.foldl (nextContext asn) c).frames =
      framesAfter asn c.frames ies := by
  induction ies generalizing c with
  | nil => rfl
  | cons ie ies ih =>
      rw [List.foldl_cons, ih]
      rfl

/-- The constructor fails exactly at a control message with a null pointer on
the way, or at one that meets TS and yields an unreadable item. -/
theorem new_eq_none_iff_at {asn : AsnDecode} {leftover : ObjectLeftover}
    {frames : Nat -> ItemLeftover} {request : RICcontrolRequestT} :
    RicControlMessage.new asn leftover frames request = none <->
      exists pre payload post,
        request.protocolIEs = pre ++ .ricControlMessage payload :: post ∧
          (¬ MessageWalkable (decodedMessage asn payload) ∨
            ((lastNamed pre).getD leftover.requestType =
                ControlMessageRequestIdType.TS ∧
              exists item, item ∈ itemsAt asn frames pre payload ∧
                ¬ Readable item)) := by
  have hfault : forall pre payload,
      Fault asn (pre.foldl (nextContext asn) (startContext leftover frames))
          (.ricControlMessage payload) <->
        ¬ MessageWalkable (decodedMessage asn payload) ∨
          ((lastNamed pre).getD leftover.requestType =
              ControlMessageRequestIdType.TS ∧
            exists item, item ∈ itemsAt asn frames pre payload ∧
              ¬ Readable item) := by
    intro pre payload
    unfold Fault extractedValues
    rw [foldl_nextContext_requestType, foldl_nextRequestType,
      foldl_nextContext_frames]
    exact Iff.rfl
  rw [new_eq_none_iff]
  constructor
  · intro h
    rcases h with ⟨⟨c, ie⟩, hp, hbad⟩
    rcases mem_annotate_iff.mp hp with ⟨pre, post, hsplit, hc⟩
    cases ie with
    | ricControlMessage payload =>
        change Fault asn c _ at hbad
        rw [hc] at hbad
        exact ⟨pre, payload, post, hsplit, (hfault pre payload).mp hbad⟩
    | _ => cases hbad
  · intro h
    rcases h with ⟨pre, payload, post, hsplit, hbad⟩
    exact ⟨_, mem_annotate_iff.mpr ⟨pre, post, hsplit, rfl⟩,
      (hfault pre payload).mpr hbad⟩

end Control
end OranE2
