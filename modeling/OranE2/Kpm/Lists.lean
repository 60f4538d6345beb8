import OranE2.Kpm.Image

/-!
# Optional lists of the descriptor

The schema bounds each optional list to one entry or more, so that a list that
is present and empty is refused by the encoder.  Which values lead to one is
read off the values themselves.
-/

namespace OranE2
namespace Kpm

open Library
open Asn1c

structure NoEmptyList (format : E2smKpmIndicationMessageFormat1T) : Prop where
  matchedUEs : format.listOfMatchedUEs ≠ some []
  cellItems : format.listOfPMInformation ≠ some []
  ueItems : forall entries, format.listOfMatchedUEs = some entries ->
    forall entry, entry ∈ entries -> entry.listOfPMInformation ≠ some []

structure FilledLists (values : KpmIndicationMessageValues container) :
    Prop where
  cell : forall l, values.cellMeasurementItems = some l -> l.items ≠ []
  ues : forall ue, ue ∈ values.ueIndications.objects -> ue.items ≠ []

theorem fillPerUE_cases {ue : MeasurementItemList} {entry : PerUEPMItemT}
    (h : fillPerUE ue = .ok entry) :
    entry.listOfPMInformation =
      some (ue.items.map MeasurementItem.getPointer) := by
  unfold fillPerUE at h
  cases hid : ue.getId with
  | error a =>
      rw [hid] at h
      cases h
  | ok ueId =>
      rw [hid] at h
      cases h
      rfl

section

variable {address : Nat -> Nat} {s : RefSet MeasurementItemList}
variable {entries : List PerUEPMItemT}

theorem ueItems_filled_iff
    (h : collect fillPerUE (s.iterate address) = .ok entries) :
    (forall entry, entry ∈ entries -> entry.listOfPMInformation ≠ some []) <->
      forall ue, ue ∈ s.objects -> ue.items ≠ [] := by
  have hentries := map_of_collect (fun _ _ => fillPerUE_cases) h
  have hmapped : (forall infos, infos ∈ entries.map (fun entry =>
        entry.listOfPMInformation) -> infos ≠ some []) <->
      forall entry, entry ∈ entries ->
        entry.listOfPMInformation ≠ some [] := List.forall_mem_map
  rw [← hmapped, hentries, List.forall_mem_map]
  simp only [RefSet.mem_iterate, ne_eq, Option.some.injEq, List.map_eq_nil_iff]

theorem entries_eq_nil_iff
    (h : collect fillPerUE (s.iterate address) = .ok entries) :
    entries = [] <-> s.objects = [] := by
  have hentries := map_of_collect (fun _ _ => fillPerUE_cases) h
  rw [← RefSet.iterate_eq_nil_iff (s := s), ← List.map_eq_nil_iff, hentries,
    List.map_eq_nil_iff]

end

theorem cellItems_filled_iff (cell : Option MeasurementItemList) :
    (cell.map fun l => l.items.map MeasurementItem.getPointer) ≠ some [] <->
      forall l, cell = some l -> l.items ≠ [] := by
  constructor
  · intro h l hl hempty
    apply h
    rw [hl, Option.map_some, hempty]
    rfl
  · intro h hsome
    rcases Option.map_eq_some_iff.mp hsome with ⟨l, hl, hempty⟩
    exact h l hl (List.map_eq_nil_iff.mp hempty)

theorem noEmptyList_of_ok {p : Placement}
    {values : KpmIndicationMessageValues PmContainerValues}
    {format : E2smKpmIndicationMessageFormat1T}
    (h : fillAndEncodeKpmIndicationMessage p values = .ok format) :
    NoEmptyList format <-> FilledLists values := by
  rcases fillAndEncode_cases h with ⟨pf, entries, _, hues, rfl⟩
  by_cases hnone : values.ueIndications.objects = []
  · rw [if_pos hnone]
    constructor
    · intro hall
      rcases hall with ⟨_, hcell, _⟩
      refine ⟨(cellItems_filled_iff _).mp hcell, ?_⟩
      intro ue hue
      rw [hnone] at hue
      cases hue
    · intro hall
      rcases hall with ⟨hcell, _⟩
      refine ⟨(Option.some_ne_none []).symm,
        (cellItems_filled_iff _).mpr hcell, ?_⟩
      intro entries' hentries'
      cases hentries'
  · rw [if_neg hnone]
    constructor
    · intro hall
      rcases hall with ⟨_, hcell, hitems⟩
      exact ⟨(cellItems_filled_iff _).mp hcell,
        (ueItems_filled_iff hues).mp (hitems entries rfl)⟩
    · intro hall
      rcases hall with ⟨hcell, hfilled⟩
      refine ⟨?_, (cellItems_filled_iff _).mpr hcell, ?_⟩
      · intro hnil
        exact hnone ((entries_eq_nil_iff hues).mp (Option.some.inj hnil))
      · intro entries' hentries'
        rw [← Option.some.inj hentries']
        exact (ueItems_filled_iff hues).mpr hfilled

/-- A message without empty lists is built exactly from values without empty
lists, or from none that can be built at all. -/
theorem noEmptyList_iff (p : Placement)
    (values : KpmIndicationMessageValues PmContainerValues) :
    (forall format, fillAndEncodeKpmIndicationMessage p values = .ok format ->
        NoEmptyList format) <->
      (Buildable values -> FilledLists values) := by
  constructor
  · intro h hbuildable
    cases hfill : fillAndEncodeKpmIndicationMessage p values with
    | error a =>
        exact absurd hbuildable
          ((fillAndEncode_error_iff p values).mp ⟨a, hfill⟩)
    | ok format => exact (noEmptyList_of_ok hfill).mp (h format hfill)
  · intro h format hfill
    exact (noEmptyList_of_ok hfill).mpr (h (buildable_of_ok hfill))

end Kpm
end OranE2
