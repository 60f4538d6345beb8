import OranE2.Kpm.Message

/-!
# What the decoder leaves of a message

The ASN.1 runtime is not part of the repository.  Its decoder builds a structure
of the same shape out of buffers of its own: the octets of an octet string are
followed by a zero byte there, and only the significant bits of a bit string are
the same.
-/

namespace OranE2
namespace Kpm

open Library
open Asn1c

structure ReceivedOctets (sent received : OctetStringT) : Prop where
  octets : received.octets = sent.octets
  buf : exists rest, received.buf = sent.octets ++ 0 :: rest

structure ReceivedServed (sent received : ServedPlmnPerCellListItemT) :
    Prop where
  plmn : ReceivedOctets sent.pLMNIdentity received.pLMNIdentity
  reports : received.duPMEPC = sent.duPMEPC

structure ReceivedReport (sent received : CellResourceReportListItemT) :
    Prop where
  plmn : ReceivedOctets sent.nRCGI.pLMNIdentity received.nRCGI.pLMNIdentity
  cell : received.nRCGI.nRCellIdentity.significant =
    sent.nRCGI.nRCellIdentity.significant
  dlPRBs : received.dlTotalofAvailablePRBs = sent.dlTotalofAvailablePRBs
  ulPRBs : received.ulTotalofAvailablePRBs = sent.ulTotalofAvailablePRBs
  served : List.Forall₂ ReceivedServed sent.servedPlmnPerCellList
    received.servedPlmnPerCellList

def ReceivedDu (sent received : ODUPFContainerT) : Prop :=
  List.Forall₂ ReceivedReport sent.cellResourceReportList
    received.cellResourceReportList

structure ReceivedPlmn (sent received : PlmnIDItemT) : Prop where
  plmn : ReceivedOctets sent.pLMNIdentity received.pLMNIdentity
  reports : received.cuUPPMEPC = sent.cuUPPMEPC

structure ReceivedListItem (sent received : PFContainerListItemT) : Prop where
  interfaceType : received.interfaceType = sent.interfaceType
  plmns : List.Forall₂ ReceivedPlmn sent.oCUUPPMContainer.plmnList
    received.oCUUPPMContainer.plmnList

inductive ReceivedContainer : PFContainerT -> PFContainerT -> Prop where
  | oCUUP (h : List.Forall₂ ReceivedListItem sent.pfContainerList
        received.pfContainerList) :
      ReceivedContainer (.oCUUP sent) (.oCUUP received)
  | oCUCP (oCUCP : OCUCPPFContainerT) :
      ReceivedContainer (.oCUCP oCUCP) (.oCUCP oCUCP)
  | oDU (h : ReceivedDu sent received) :
      ReceivedContainer (.oDU sent) (.oDU received)

structure ReceivedItem (sent received : PMInfoItemT) : Prop where
  measName : ReceivedOctets sent.measName received.measName
  pmVal : received.pmVal = sent.pmVal

structure ReceivedUE (sent received : PerUEPMItemT) : Prop where
  ueId : ReceivedOctets sent.ueId received.ueId
  items : Option.Rel (List.Forall₂ ReceivedItem) sent.listOfPMInformation
    received.listOfPMInformation

structure ReceivedFormat (sent received : E2smKpmIndicationMessageFormat1T) :
    Prop where
  containers : List.Forall₂ ReceivedContainer sent.pmContainers
    received.pmContainers
  cellObjectID : ReceivedOctets sent.cellObjectID received.cellObjectID
  items : Option.Rel (List.Forall₂ ReceivedItem) sent.listOfPMInformation
    received.listOfPMInformation
  ues : Option.Rel (List.Forall₂ ReceivedUE) sent.listOfMatchedUEs
    received.listOfMatchedUEs

/-!
## A received copy
-/

def terminatedCopy (o : OctetStringT) : OctetStringT where
  buf := o.octets ++ [0]
  size := o.octets.length
  size_le := by simp

def ServedPlmnPerCellListItemT.received (s : ServedPlmnPerCellListItemT) :
    ServedPlmnPerCellListItemT :=
  { s with pLMNIdentity := terminatedCopy s.pLMNIdentity }

def CellResourceReportListItemT.received (r : CellResourceReportListItemT) :
    CellResourceReportListItemT :=
  { r with
    nRCGI :=
      { r.nRCGI with pLMNIdentity := terminatedCopy r.nRCGI.pLMNIdentity }
    servedPlmnPerCellList :=
      r.servedPlmnPerCellList.map ServedPlmnPerCellListItemT.received }

def ODUPFContainerT.received (odu : ODUPFContainerT) : ODUPFContainerT where
  cellResourceReportList :=
    odu.cellResourceReportList.map CellResourceReportListItemT.received

def PlmnIDItemT.received (item : PlmnIDItemT) : PlmnIDItemT :=
  { item with pLMNIdentity := terminatedCopy item.pLMNIdentity }

def PFContainerListItemT.received (item : PFContainerListItemT) :
    PFContainerListItemT :=
  { item with
    oCUUPPMContainer :=
      { plmnList := item.oCUUPPMContainer.plmnList.map PlmnIDItemT.received } }

def PFContainerT.received : PFContainerT -> PFContainerT
  | .oCUUP container =>
      .oCUUP
        { pfContainerList :=
            container.pfContainerList.map PFContainerListItemT.received }
  | .oCUCP container => .oCUCP container
  | .oDU container => .oDU container.received

def PMInfoItemT.received (item : PMInfoItemT) : PMInfoItemT :=
  { item with measName := terminatedCopy item.measName }

def PerUEPMItemT.received (item : PerUEPMItemT) : PerUEPMItemT where
  ueId := terminatedCopy item.ueId
  listOfPMInformation :=
    item.listOfPMInformation.map (List.map PMInfoItemT.received)

def E2smKpmIndicationMessageFormat1T.received
    (format : E2smKpmIndicationMessageFormat1T) :
    E2smKpmIndicationMessageFormat1T where
  pmContainers := format.pmContainers.map PFContainerT.received
  cellObjectID := terminatedCopy format.cellObjectID
  listOfPMInformation :=
    format.listOfPMInformation.map (List.map PMInfoItemT.received)
  listOfMatchedUEs :=
    format.listOfMatchedUEs.map (List.map PerUEPMItemT.received)

theorem forall₂_map_self {R : item -> item -> Prop} {f : item -> item}
    (h : forall x, R x (f x)) (xs : List item) :
    List.Forall₂ R xs (xs.map f) := by
  rw [List.forall₂_map_right_iff, List.forall₂_same]
  intro x _
  exact h x

theorem rel_map_self {R : item -> item -> Prop} {f : item -> item}
    (h : forall x, R x (f x)) (o : Option (List item)) :
    Option.Rel (List.Forall₂ R) o (o.map (List.map f)) := by
  cases o with
  | none => exact Option.Rel.none
  | some xs => exact Option.Rel.some (forall₂_map_self h xs)

theorem receivedOctets_terminatedCopy (o : OctetStringT) :
    ReceivedOctets o (terminatedCopy o) where
  octets := List.take_left
  buf := ⟨[], rfl⟩

theorem receivedReport_received (r : CellResourceReportListItemT) :
    ReceivedReport r r.received where
  plmn := receivedOctets_terminatedCopy r.nRCGI.pLMNIdentity
  cell := rfl
  dlPRBs := rfl
  ulPRBs := rfl
  served := forall₂_map_self
    (fun s => ⟨receivedOctets_terminatedCopy s.pLMNIdentity, rfl⟩)
    r.servedPlmnPerCellList

theorem receivedDu_received (odu : ODUPFContainerT) :
    ReceivedDu odu odu.received :=
  forall₂_map_self receivedReport_received odu.cellResourceReportList

theorem receivedContainer_received (pf : PFContainerT) :
    ReceivedContainer pf pf.received := by
  cases pf with
  | oCUUP oCUUP =>
      refine .oCUUP (forall₂_map_self ?_ oCUUP.pfContainerList)
      intro item
      exact ⟨rfl, forall₂_map_self
        (fun plmn => ⟨receivedOctets_terminatedCopy plmn.pLMNIdentity, rfl⟩)
        item.oCUUPPMContainer.plmnList⟩
  | oCUCP oCUCP => exact .oCUCP oCUCP
  | oDU oDU => exact .oDU (receivedDu_received oDU)

theorem receivedItem_received (item : PMInfoItemT) :
    ReceivedItem item item.received where
  measName := receivedOctets_terminatedCopy item.measName
  pmVal := rfl

theorem receivedFormat_received (format : E2smKpmIndicationMessageFormat1T) :
    ReceivedFormat format format.received where
  containers := forall₂_map_self receivedContainer_received format.pmContainers
  cellObjectID := receivedOctets_terminatedCopy format.cellObjectID
  items := rel_map_self receivedItem_received format.listOfPMInformation
  ues := rel_map_self
    (fun ue => ⟨receivedOctets_terminatedCopy ue.ueId,
      rel_map_self receivedItem_received ue.listOfPMInformation⟩)
    format.listOfMatchedUEs

end Kpm
end OranE2
