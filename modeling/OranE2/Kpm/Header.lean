import OranE2.Asn1c.BitString

/-!
# Indication headers

This module embeds `KpmIndicationHeader::FillAndEncodeKpmRicIndicationHeader`
up to the descriptor handed to the encoder.  The header values also carry an NR
cell number, which no header is built from.
-/

namespace OranE2
namespace Kpm

open Library
open Asn1c

inductive GlobalE2nodeType where
  | gNB
  | eNB
  | ngENB
  | enGNB
  deriving DecidableEq, Repr

structure KpmRicIndicationHeaderValues where
  gnbId : StdString
  plmId : StdString
  timestamp : UInt64

structure GlobalE2nodeGNBIDT where
  plmnId : OctetStringT
  gnbID : BitStringT
  deriving DecidableEq

structure GlobalE2nodeENBIDT where
  pLMNIdentity : OctetStringT
  macroENBID : BitStringT
  deriving DecidableEq

structure GlobalE2nodeNgENBIDT where
  plmnId : OctetStringT
  enbIDMacro : BitStringT
  deriving DecidableEq

structure GlobalE2nodeEnGNBIDT where
  pLMNIdentity : OctetStringT
  gNBID : BitStringT
  deriving DecidableEq

inductive GlobalE2nodeID where
  | gNB (gNB : GlobalE2nodeGNBIDT)
  | eNB (eNB : GlobalE2nodeENBIDT)
  | ngENB (ngENB : GlobalE2nodeNgENBIDT)
  | enGNB (enGNB : GlobalE2nodeEnGNBIDT)
  deriving DecidableEq

structure E2smKpmIndicationHeaderFormat1T where
  idGlobalE2nodeID : GlobalE2nodeID
  collectionStartTime : OctetStringT
  deriving DecidableEq

/-- `htobe64` on a little-endian host. -/
def htobe64 (x : UInt64) : UInt64 :=
  UInt64.ofNat (ofLittleEndian (littleEndian 8 x.toNat).reverse)

/-- The eight bytes at which a `long` lies in the memory of such a host. -/
def longMemory (x : Int64) : List UInt8 :=
  littleEndian 8 x.toUInt64.toNat

def timestampLimitSize : Nat := 8

def collectionStartTime (timestamp : UInt64) : OctetString :=
  let bigEndianTimestamp : Int64 := (htobe64 timestamp).toInt64
  OctetString.ofPointer (longMemory bigEndianTimestamp) timestampLimitSize
    (Nat.le_of_eq (length_littleEndian 8 _).symm)

/-- The header that is handed to `Encode`. -/
def fillAndEncodeKpmRicIndicationHeader (nodeType : GlobalE2nodeType)
    (values : KpmRicIndicationHeaderValues) :
    E2smKpmIndicationHeaderFormat1T :=
  let plmnid := OctetString.ofString values.plmId 3
  let nodeID :=
    match nodeType with
    | .gNB =>
        let sizeGnb := 4
        let cellIdBstring := BitString.ofString values.gnbId sizeGnb
        GlobalE2nodeID.gNB
          { plmnId := plmnid.getValue, gnbID := cellIdBstring.getValue }
    | .eNB =>
        let sizeEnb := 3
        let unsedSizeEnb := 4
        let cellIdBstring :=
          BitString.ofStringUnused values.gnbId sizeEnb unsedSizeEnb
        GlobalE2nodeID.eNB
          { pLMNIdentity := plmnid.getValue
            macroENBID := cellIdBstring.getValue }
    | .ngENB =>
        let sizeEnb := 3
        let unsedSizeEnb := 4
        let cellIdBstring :=
          BitString.ofStringUnused values.gnbId sizeEnb unsedSizeEnb
        GlobalE2nodeID.ngENB
          { plmnId := plmnid.getValue
            enbIDMacro := cellIdBstring.getValue }
    | .enGNB =>
        let sizeGnb := 4
        let cellIdBstring := BitString.ofString values.gnbId sizeGnb
        GlobalE2nodeID.enGNB
          { pLMNIdentity := plmnid.getValue
            gNBID := cellIdBstring.getValue }
  { idGlobalE2nodeID := nodeID
    collectionStartTime := (collectionStartTime values.timestamp).getValue }

/-!
## What a header carries
-/

def GlobalE2nodeID.plmn : GlobalE2nodeID -> OctetStringT
  | .gNB id => id.plmnId
  | .eNB id => id.pLMNIdentity
  | .ngENB id => id.plmnId
  | .enGNB id => id.pLMNIdentity

def GlobalE2nodeID.node : GlobalE2nodeID -> BitStringT
  | .gNB id => id.gnbID
  | .eNB id => id.macroENBID
  | .ngENB id => id.enbIDMacro
  | .enGNB id => id.gNBID

/-- The PLMN octets, the significant bits of the node id and the octets of the
time, as the encoder reads them. -/
@[ext] structure HeaderContent where
  plmn : List UInt8
  node : List Bool
  time : List UInt8
  deriving DecidableEq, Repr

def E2smKpmIndicationHeaderFormat1T.content
    (header : E2smKpmIndicationHeaderFormat1T) : HeaderContent where
  plmn := header.idGlobalE2nodeID.plmn.octets
  node := header.idGlobalE2nodeID.node.significant
  time := header.collectionStartTime.octets

def GlobalE2nodeType.nodeIdSize : GlobalE2nodeType -> Nat
  | .gNB => 4
  | .eNB => 3
  | .ngENB => 3
  | .enGNB => 4

def GlobalE2nodeType.nodeIdUnused : GlobalE2nodeType -> Nat
  | .gNB => 0
  | .eNB => 4
  | .ngENB => 4
  | .enGNB => 0

def GlobalE2nodeType.usedBits (nodeType : GlobalE2nodeType)
    (gnbId : List UInt8) : List Bool :=
  (bits gnbId).take (8 * nodeType.nodeIdSize - nodeType.nodeIdUnused)

/-- Node ids that no header of a node type tells apart: a gNB id uses all its
bits, a macro eNB id the first twenty. -/
def GlobalE2nodeType.SameNodeId (nodeType : GlobalE2nodeType)
    (gnbId gnbId' : List UInt8) : Prop :=
  match nodeType with
  | .gNB => gnbId = gnbId'
  | .eNB => (bits gnbId).take 20 = (bits gnbId').take 20
  | .ngENB => (bits gnbId).take 20 = (bits gnbId').take 20
  | .enGNB => gnbId = gnbId'

theorem usedBits_eq_iff {nodeType : GlobalE2nodeType}
    {gnbId gnbId' : List UInt8} (h : gnbId.length = nodeType.nodeIdSize)
    (h' : gnbId'.length = nodeType.nodeIdSize) :
    nodeType.usedBits gnbId = nodeType.usedBits gnbId' <->
      nodeType.SameNodeId gnbId gnbId' := by
  have hall : forall {octets : List UInt8}, octets.length = 4 ->
      (bits octets).take 32 = bits octets := by
    intro octets hoctets
    have hlength : (bits octets).length = 8 * 4 := by
      rw [length_bits, hoctets]
    exact List.take_of_length_le (Nat.le_of_eq hlength)
  cases nodeType with
  | gNB =>
      show (bits gnbId).take 32 = (bits gnbId').take 32 <-> gnbId = gnbId'
      rw [hall h, hall h']
      exact ⟨bits_injective, congrArg bits⟩
  | eNB => exact Iff.rfl
  | ngENB => exact Iff.rfl
  | enGNB =>
      show (bits gnbId).take 32 = (bits gnbId').take 32 <-> gnbId = gnbId'
      rw [hall h, hall h']
      exact ⟨bits_injective, congrArg bits⟩

theorem fill_plmn (nodeType : GlobalE2nodeType)
    (values : KpmRicIndicationHeaderValues) :
    (fillAndEncodeKpmRicIndicationHeader nodeType values).content.plmn =
      values.plmId.read 3 := by
  cases nodeType <;> exact OctetString.octets_ofString values.plmId 3

theorem fill_node (nodeType : GlobalE2nodeType)
    (values : KpmRicIndicationHeaderValues) :
    (fillAndEncodeKpmRicIndicationHeader nodeType values).content.node =
      nodeType.usedBits (values.gnbId.read nodeType.nodeIdSize) := by
  cases nodeType with
  | gNB =>
      exact BitString.significant_ofStringUnused values.gnbId 4 0
  | eNB =>
      exact BitString.significant_ofStringUnused values.gnbId 3 4
  | ngENB =>
      exact BitString.significant_ofStringUnused values.gnbId 3 4
  | enGNB =>
      exact BitString.significant_ofStringUnused values.gnbId 4 0

theorem toNat_htobe64 (x : UInt64) :
    (htobe64 x).toNat = ofLittleEndian (littleEndian 8 x.toNat).reverse := by
  have hlt := ofLittleEndian_lt (littleEndian 8 x.toNat).reverse
  rw [List.length_reverse, length_littleEndian] at hlt
  exact UInt64.toNat_ofNat_of_lt' hlt

/-- Swapped and stored low byte first, the time lies high byte first. -/
theorem longMemory_htobe64 (x : UInt64) :
    longMemory (htobe64 x).toInt64 = (littleEndian 8 x.toNat).reverse := by
  have hswapped :=
    littleEndian_ofLittleEndian (littleEndian 8 x.toNat).reverse
  rw [List.length_reverse, length_littleEndian] at hswapped
  unfold longMemory
  rw [UInt64.toUInt64_toInt64, toNat_htobe64, hswapped]

theorem fill_time (nodeType : GlobalE2nodeType)
    (values : KpmRicIndicationHeaderValues) :
    (fillAndEncodeKpmRicIndicationHeader nodeType values).content.time =
      (littleEndian 8 values.timestamp.toNat).reverse := by
  have hoctets := OctetString.octets_ofPointer
    (longMemory (htobe64 values.timestamp).toInt64) timestampLimitSize
    (Nat.le_of_eq (length_littleEndian 8 _).symm)
  apply hoctets.trans
  rw [longMemory_htobe64]
  exact List.take_of_length_le (by
    rw [List.length_reverse, length_littleEndian]
    exact Nat.le_refl 8)

theorem ofBigEndian_fill_time (nodeType : GlobalE2nodeType)
    (values : KpmRicIndicationHeaderValues) :
    ofBigEndian
        (fillAndEncodeKpmRicIndicationHeader nodeType values).content.time =
      values.timestamp.toNat := by
  rw [fill_time]
  unfold ofBigEndian
  rw [List.reverse_reverse]
  exact ofLittleEndian_littleEndian values.timestamp.toNat_lt

/-!
## Headers in the order of their times

The octets of a time are swapped so that the first is the highest.  Whoever
collects headers can compare the octets as they are.
-/

theorem length_fill_time (nodeType : GlobalE2nodeType)
    (values : KpmRicIndicationHeaderValues) :
    (fillAndEncodeKpmRicIndicationHeader nodeType values).content.time.length =
      timestampLimitSize := by
  rw [fill_time, List.length_reverse, length_littleEndian]
  rfl

theorem fill_time_lt_iff (nodeType nodeType' : GlobalE2nodeType)
    (values values' : KpmRicIndicationHeaderValues) :
    (fillAndEncodeKpmRicIndicationHeader nodeType values).content.time <
        (fillAndEncodeKpmRicIndicationHeader nodeType' values').content.time <->
      values.timestamp < values'.timestamp := by
  have hlength := (length_fill_time nodeType values).trans
    (length_fill_time nodeType' values').symm
  rw [← ofBigEndian_lt_iff hlength, ofBigEndian_fill_time,
    ofBigEndian_fill_time, UInt64.lt_iff_toNat_lt]

/-- A collection of headers of any node types is sorted by the octets of its
times when it is sorted by the times. -/
theorem headers_sorted_iff
    (headers : List (GlobalE2nodeType × KpmRicIndicationHeaderValues)) :
    (headers.map fun h =>
        (fillAndEncodeKpmRicIndicationHeader h.1 h.2).content.time).Pairwise
          (fun time time' => time < time') <->
      (headers.map fun h => h.2.timestamp).Pairwise
        (fun timestamp timestamp' => timestamp < timestamp') := by
  rw [List.pairwise_map, List.pairwise_map]
  apply List.Pairwise.iff
  intro h h'
  exact fill_time_lt_iff h.1 h'.1 h.2 h'.2

/-!
## Distinct values give distinct headers

The id of an eNB fills three octets but the field has twenty bits, so the lower
half of the third octet is not carried.
-/

theorem header_content_eq_iff (nodeType : GlobalE2nodeType)
    (values values' : KpmRicIndicationHeaderValues)
    (hplmId : values.plmId.bytes.length = 3)
    (hplmId' : values'.plmId.bytes.length = 3)
    (hgnbId : values.gnbId.bytes.length = nodeType.nodeIdSize)
    (hgnbId' : values'.gnbId.bytes.length = nodeType.nodeIdSize) :
    ((fillAndEncodeKpmRicIndicationHeader nodeType values).content =
        (fillAndEncodeKpmRicIndicationHeader nodeType values').content <->
      values.plmId.bytes = values'.plmId.bytes ∧
        nodeType.SameNodeId values.gnbId.bytes values'.gnbId.bytes ∧
        values.timestamp = values'.timestamp) ∧
      ofBigEndian
          (fillAndEncodeKpmRicIndicationHeader nodeType values).content.time =
        values.timestamp.toNat := by
  have hplmn : forall v : KpmRicIndicationHeaderValues,
      v.plmId.bytes.length = 3 ->
        (fillAndEncodeKpmRicIndicationHeader nodeType v).content.plmn =
          v.plmId.bytes := by
    intro v hv
    rw [fill_plmn, ← hv, StdString.read_length]
  have hnode : forall v : KpmRicIndicationHeaderValues,
      v.gnbId.bytes.length = nodeType.nodeIdSize ->
        (fillAndEncodeKpmRicIndicationHeader nodeType v).content.node =
          nodeType.usedBits v.gnbId.bytes := by
    intro v hv
    rw [fill_node, ← hv, StdString.read_length]
  refine ⟨?_, ofBigEndian_fill_time nodeType values⟩
  rw [HeaderContent.ext_iff, hplmn values hplmId, hplmn values' hplmId',
    hnode values hgnbId, hnode values' hgnbId', usedBits_eq_iff hgnbId hgnbId']
  constructor
  · intro h
    rcases h with ⟨hsamePlmn, hsameNode, hsameTime⟩
    refine ⟨hsamePlmn, hsameNode, ?_⟩
    apply UInt64.toNat_inj.mp
    rw [← ofBigEndian_fill_time nodeType values,
      ← ofBigEndian_fill_time nodeType values', hsameTime]
  · intro h
    rcases h with ⟨hsamePlmn, hsameNode, hsameTime⟩
    refine ⟨hsamePlmn, hsameNode, ?_⟩
    rw [fill_time, fill_time, hsameTime]

def exampleHeaderValues (gnbId : List UInt8) (timestamp : UInt64) :
    KpmRicIndicationHeaderValues where
  gnbId := StdString.ofBytes gnbId
  plmId := StdString.ofBytes [49, 49, 49]
  timestamp := timestamp

theorem exampleHeader_distinguishes_gNBs :
    ((fillAndEncodeKpmRicIndicationHeader .gNB
          (exampleHeaderValues [49, 49, 49, 49] 1630068655325)).content =
        (fillAndEncodeKpmRicIndicationHeader .gNB
          (exampleHeaderValues [49, 49, 49, 50] 1630068679511)).content <->
      ([49, 49, 49] : List UInt8) = [49, 49, 49] ∧
        GlobalE2nodeType.gNB.SameNodeId [49, 49, 49, 49] [49, 49, 49, 50] ∧
        (1630068655325 : UInt64) = 1630068679511) ∧
      ofBigEndian
          (fillAndEncodeKpmRicIndicationHeader .gNB
            (exampleHeaderValues [49, 49, 49, 49] 1630068655325)).content.time =
        (1630068655325 : UInt64).toNat :=
  header_content_eq_iff .gNB (exampleHeaderValues [49, 49, 49, 49] 1630068655325)
    (exampleHeaderValues [49, 49, 49, 50] 1630068679511) rfl rfl rfl rfl

theorem exampleHeader_confuses_eNBs :
    (exampleHeaderValues [49, 49, 49] 1630068655325).plmId.bytes.length = 3 ∧
      (exampleHeaderValues [49, 49, 49] 1630068655325).gnbId.bytes.length =
        GlobalE2nodeType.eNB.nodeIdSize ∧
      (exampleHeaderValues [49, 49, 50] 1630068655325).gnbId.bytes.length =
        GlobalE2nodeType.eNB.nodeIdSize ∧
      (exampleHeaderValues [49, 49, 49] 1630068655325).gnbId.bytes ≠
        (exampleHeaderValues [49, 49, 50] 1630068655325).gnbId.bytes ∧
      (fillAndEncodeKpmRicIndicationHeader .eNB
          (exampleHeaderValues [49, 49, 49] 1630068655325)).content =
        (fillAndEncodeKpmRicIndicationHeader .eNB
          (exampleHeaderValues [49, 49, 50] 1630068655325)).content := by
  decide

end Kpm
end OranE2
