import OranE2.Kpm.Image

/-!
# Messages up to the order of set members

Whatever the addresses are, a message of the same values has the same parts: the
entries that members of a set lead to change places only.
-/

namespace OranE2
namespace Kpm

open Library
open Asn1c

structure SameServed (item item' : ServedPlmnPerCellListItemT) : Prop where
  plmn : item.pLMNIdentity = item'.pLMNIdentity
  reports : exists format format', item.duPMEPC = some format ∧
    item'.duPMEPC = some format' ∧
      format.perQCIReportListDu.Perm format'.perQCIReportListDu

structure SameCell (item item' : CellResourceReportListItemT) : Prop where
  nRCGI : item.nRCGI = item'.nRCGI
  dlPRBs : item.dlTotalofAvailablePRBs = item'.dlTotalofAvailablePRBs
  ulPRBs : item.ulTotalofAvailablePRBs = item'.ulTotalofAvailablePRBs
  served : Reorders SameServed item.servedPlmnPerCellList
    item'.servedPlmnPerCellList

inductive SameContainer : PFContainerT -> PFContainerT -> Prop where
  | equal (pf : PFContainerT) : SameContainer pf pf
  | du (h : Reorders SameCell odu.cellResourceReportList
        odu'.cellResourceReportList) :
      SameContainer (.oDU odu) (.oDU odu')

/-- The messages differ in the order of set members only. -/
structure SameUpToOrder (format format' : E2smKpmIndicationMessageFormat1T) :
    Prop where
  containers : List.Forall₂ SameContainer format.pmContainers
    format'.pmContainers
  cellObjectID : format.cellObjectID = format'.cellObjectID
  cellItems : format.listOfPMInformation = format'.listOfPMInformation
  matchedUEs : Option.Rel List.Perm format.listOfMatchedUEs
    format'.listOfMatchedUEs

theorem fillServedPlmnCell_same {p p' : Placement} {s : ServedPlmnPerCell}
    {item item' : ServedPlmnPerCellListItemT}
    (h : fillServedPlmnCell p s = .ok item)
    (h' : fillServedPlmnCell p' s = .ok item') : SameServed item item' := by
  rw [fillServedPlmnCell_eq] at h h'
  rcases map_eq_ok_iff.mp h with ⟨pqrls, hpqrls, rfl⟩
  rcases map_eq_ok_iff.mp h' with ⟨pqrls', hpqrls', rfl⟩
  exact ⟨rfl, _, _, rfl, rfl,
    collect_perm (RefSet.iterate_perm_iterate p.qci p'.qci _) hpqrls hpqrls'⟩

theorem fillCellReport_same {p p' : Placement} {r : CellResourceReport}
    {item item' : CellResourceReportListItemT}
    (h : fillCellReport p r = .ok item)
    (h' : fillCellReport p' r = .ok item') : SameCell item item' := by
  rw [fillCellReport_eq] at h h'
  rcases map_eq_ok_iff.mp h with ⟨sppcls, hsppcls, rfl⟩
  rcases map_eq_ok_iff.mp h' with ⟨sppcls', hsppcls', rfl⟩
  exact ⟨rfl, rfl, rfl,
    reorders_of_collect (RefSet.iterate_perm_iterate p.served p'.served _)
      (fun _ _ _ => fillServedPlmnCell_same) hsppcls hsppcls'⟩

theorem fillODuContainer_same {p p' : Placement} {values : ODuContainerValues}
    {odu odu' : ODUPFContainerT} (h : fillODuContainer p values = .ok odu)
    (h' : fillODuContainer p' values = .ok odu') :
    Reorders SameCell odu.cellResourceReportList
      odu'.cellResourceReportList := by
  rw [fillODuContainer_eq] at h h'
  rcases map_eq_ok_iff.mp h with ⟨crrlis, hcrrlis, rfl⟩
  rcases map_eq_ok_iff.mp h' with ⟨crrlis', hcrrlis', rfl⟩
  exact reorders_of_collect (RefSet.iterate_perm_iterate p.report p'.report _)
    (fun _ _ _ => fillCellReport_same) hcrrlis hcrrlis'

theorem fillPmContainer_same {p p' : Placement}
    {container : Option PmContainerValues} {pf pf' : PFContainerT}
    (h : fillPmContainer p container = .ok pf)
    (h' : fillPmContainer p' container = .ok pf') : SameContainer pf pf' := by
  cases container with
  | none => cases h
  | some values =>
      cases values with
      | cuUp values =>
          cases h
          cases h'
          exact .equal _
      | cuCp values =>
          cases h
          cases h'
          exact .equal _
      | other => cases h
      | du values =>
          rw [fillPmContainer_du] at h h'
          rcases map_eq_ok_iff.mp h with ⟨odu, hodu, rfl⟩
          rcases map_eq_ok_iff.mp h' with ⟨odu', hodu', rfl⟩
          exact .du (fillODuContainer_same hodu hodu')

theorem message_same_up_to_order {p p' : Placement}
    {values : KpmIndicationMessageValues PmContainerValues}
    {format format' : E2smKpmIndicationMessageFormat1T}
    (h : fillAndEncodeKpmIndicationMessage p values = .ok format)
    (h' : fillAndEncodeKpmIndicationMessage p' values = .ok format') :
    SameUpToOrder format format' := by
  rcases fillAndEncode_cases h with ⟨pf, entries, hpm, hues, rfl⟩
  rcases fillAndEncode_cases h' with ⟨pf', entries', hpm', hues', rfl⟩
  refine ⟨List.Forall₂.cons (fillPmContainer_same hpm hpm')
    List.Forall₂.nil, rfl, rfl, ?_⟩
  show Option.Rel List.Perm
    (if values.ueIndications.objects = [] then none else some entries)
    (if values.ueIndications.objects = [] then none else some entries')
  by_cases hempty : values.ueIndications.objects = []
  · rw [if_pos hempty, if_pos hempty]
    exact Option.Rel.none
  · rw [if_neg hempty, if_neg hempty]
    exact Option.Rel.some
      (collect_perm (RefSet.iterate_perm_iterate p.ue p'.ue _) hues hues')

end Kpm
end OranE2
