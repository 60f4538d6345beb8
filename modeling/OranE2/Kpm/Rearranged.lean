import OranE2.Kpm.Reordering

/-!
# Values with rearranged sets

Two message values may hold the same members in sets that were filled in
different orders.  Their messages are built together, and differ in the order
of set members only.
-/

namespace OranE2
namespace Kpm

open Library
open Asn1c

theorem iterate_perm_of_objects {s t : RefSet item}
    (h : s.objects.Perm t.objects) (address address' : Nat -> Nat) :
    (s.iterate address).Perm (t.iterate address') :=
  ((RefSet.iterate_perm address s).trans h).trans
    (RefSet.iterate_perm address' t).symm

inductive SameContainerValues :
    PmContainerValues -> PmContainerValues -> Prop where
  | equal (values : PmContainerValues) : SameContainerValues values values
  | du (h : values.cellResourceReportItems.objects.Perm
        values'.cellResourceReportItems.objects) :
      SameContainerValues (.du values) (.du values')

/-- The same values, the members of the sets of reports and of UEs in any
order. -/
structure Rearranged
    (values values' : KpmIndicationMessageValues PmContainerValues) :
    Prop where
  cellObjectId : values.cellObjectId = values'.cellObjectId
  container : Option.Rel SameContainerValues values.pmContainerValues
    values'.pmContainerValues
  cellItems : values.cellMeasurementItems = values'.cellMeasurementItems
  ues : values.ueIndications.objects.Perm values'.ueIndications.objects

theorem inRange_of_perm {values values' : ODuContainerValues}
    (h : values.cellResourceReportItems.objects.Perm
      values'.cellResourceReportItems.objects)
    (hrange : values.InRange) : values'.InRange :=
  fun r hr => hrange r (h.mem_iff.mpr hr)

theorem buildable_of_rearranged
    {values values' : KpmIndicationMessageValues PmContainerValues}
    (h : Rearranged values values') (hbuildable : Buildable values) :
    Buildable values' where
  container := by
    have hcontainer := h.container
    have hold := hbuildable.container
    revert hcontainer hold
    cases values.pmContainerValues <;> cases values'.pmContainerValues
    · intro _ hold
      exact hold
    · intro hcontainer _
      cases hcontainer
    · intro hcontainer _
      cases hcontainer
    · intro hcontainer hold
      cases hcontainer with
      | some hsame =>
          cases hsame with
          | equal values => exact hold
          | du hperm => exact inRange_of_perm hperm hold
  named := fun ue hue => hbuildable.named ue (h.ues.mem_iff.mpr hue)

theorem fillPmContainer_rearranged {p p' : Placement}
    {container container' : Option PmContainerValues} {pf pf' : PFContainerT}
    (hsame : Option.Rel SameContainerValues container container')
    (h : fillPmContainer p container = .ok pf)
    (h' : fillPmContainer p' container' = .ok pf') : SameContainer pf pf' := by
  cases hsame with
  | none => cases h
  | some hvalues =>
      cases hvalues with
      | equal values => exact fillPmContainer_same h h'
      | du hperm =>
          rw [fillPmContainer_du] at h h'
          rcases map_eq_ok_iff.mp h with ⟨odu, hodu, rfl⟩
          rcases map_eq_ok_iff.mp h' with ⟨odu', hodu', rfl⟩
          rw [fillODuContainer_eq] at hodu hodu'
          rcases map_eq_ok_iff.mp hodu with ⟨crrlis, hcrrlis, rfl⟩
          rcases map_eq_ok_iff.mp hodu' with ⟨crrlis', hcrrlis', rfl⟩
          exact .du (reorders_of_collect
            (iterate_perm_of_objects hperm p.report p'.report)
            (fun _ _ _ => fillCellReport_same) hcrrlis hcrrlis')

theorem message_of_rearranged {p : Placement}
    {values values' : KpmIndicationMessageValues PmContainerValues}
    {format : E2smKpmIndicationMessageFormat1T}
    (hsame : Rearranged values values')
    (h : fillAndEncodeKpmIndicationMessage p values = .ok format)
    (p' : Placement) :
    exists format',
      fillAndEncodeKpmIndicationMessage p' values' = .ok format' ∧
        SameUpToOrder format format' := by
  rcases fillAndEncode_ok (buildable_of_rearranged hsame (buildable_of_ok h))
    p' with ⟨format', h'⟩
  refine ⟨format', h', ?_⟩
  rcases fillAndEncode_cases h with ⟨pf, entries, hpm, hues, rfl⟩
  rcases fillAndEncode_cases h' with ⟨pf', entries', hpm', hues', rfl⟩
  refine ⟨List.Forall₂.cons
    (fillPmContainer_rearranged hsame.container hpm hpm') List.Forall₂.nil,
    ?_, ?_, ?_⟩
  · show OctetStringT.ofBytes values.cellObjectId = _
    rw [hsame.cellObjectId]
  · show values.cellMeasurementItems.map _ = _
    rw [hsame.cellItems]
  · have hempty : values.ueIndications.objects = [] <->
        values'.ueIndications.objects = [] := by
      constructor
      · intro hnil
        exact List.perm_nil.mp (hnil ▸ hsame.ues.symm)
      · intro hnil
        exact List.perm_nil.mp (hnil ▸ hsame.ues)
    show Option.Rel List.Perm
      (if values.ueIndications.objects = [] then none else some entries)
      (if values'.ueIndications.objects = [] then none else some entries')
    by_cases hnil : values.ueIndications.objects = []
    · rw [if_pos hnil, if_pos (hempty.mp hnil)]
      exact Option.Rel.none
    · rw [if_neg hnil, if_neg fun hnil' => hnil (hempty.mpr hnil')]
      exact Option.Rel.some (collect_perm
        (iterate_perm_of_objects hsame.ues p.ue p'.ue) hues hues')

end Kpm
end OranE2
