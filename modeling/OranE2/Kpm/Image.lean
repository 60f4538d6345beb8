import OranE2.Kpm.Message

/-!
# The descriptor as an image of the values

What a faithful descriptor of given values looks like, level by level, without
reference to the loops that build it, and the theorem that the builder either
stops at a fatal check or builds such a descriptor.
-/

namespace OranE2
namespace Kpm

open Library
open Asn1c

/-!
## Values that can be built
-/

def EpcDuPmContainer.InRange (q : EpcDuPmContainer) : Prop :=
  (0 ≤ q.dlPrbUsage ∧ q.dlPrbUsage ≤ 100) ∧
    (0 ≤ q.ulPrbUsage ∧ q.ulPrbUsage ≤ 100)

def ServedPlmnPerCell.InRange (s : ServedPlmnPerCell) : Prop :=
  forall q, q ∈ s.perQciReportItems.objects -> q.InRange

def CellResourceReport.InRange (r : CellResourceReport) : Prop :=
  forall s, s ∈ r.servedPlmnPerCellItems.objects -> s.InRange

def ODuContainerValues.InRange (values : ODuContainerValues) : Prop :=
  forall r, r ∈ values.cellResourceReportItems.objects -> r.InRange

/-- The pointer leads to a container of a known kind, and the usage values of
an O-DU are in range. -/
def ContainerBuildable : Option PmContainerValues -> Prop
  | some (.cuUp _) => True
  | some (.cuCp _) => True
  | some (.du values) => values.InRange
  | some .other => False
  | none => False

def AllNamed (ueIndications : RefSet MeasurementItemList) : Prop :=
  forall ue, ue ∈ ueIndications.objects -> ue.id ≠ none

structure Buildable (values : KpmIndicationMessageValues PmContainerValues) :
    Prop where
  container : ContainerBuildable values.pmContainerValues
  named : AllNamed values.ueIndications

theorem fillPerQciReportItem_of_inRange {q : EpcDuPmContainer}
    (h : q.InRange) :
    fillPerQciReportItem q =
      .ok
        { qci := q.qci
          dlPRBUsage := some q.dlPrbUsage
          ulPRBUsage := some q.ulPrbUsage } := by
  rcases h with ⟨⟨hdl, hdl'⟩, hul, hul'⟩
  unfold fillPerQciReportItem
  rw [if_neg (not_or.mpr ⟨Int.not_lt.mpr hdl, Int.not_lt.mpr hdl'⟩),
    if_neg (not_or.mpr ⟨Int.not_lt.mpr hul, Int.not_lt.mpr hul'⟩)]

theorem fillPerQciReportItem_error_iff {q : EpcDuPmContainer} :
    (exists a, fillPerQciReportItem q = .error a) <-> ¬ q.InRange := by
  constructor
  · intro hall hrange
    rcases hall with ⟨a, ha⟩
    rw [fillPerQciReportItem_of_inRange hrange] at ha
    cases ha
  · intro hrange
    unfold fillPerQciReportItem
    split
    · exact ⟨_, rfl⟩
    · rename_i hdl
      split
      · exact ⟨_, rfl⟩
      · rename_i hul
        refine absurd ⟨?_, ?_⟩ hrange
        · exact ⟨Int.not_lt.mp fun h => hdl (Or.inl h),
            Int.not_lt.mp fun h => hdl (Or.inr h)⟩
        · exact ⟨Int.not_lt.mp fun h => hul (Or.inl h),
            Int.not_lt.mp fun h => hul (Or.inr h)⟩

theorem fillServedPlmnCell_eq (p : Placement) (s : ServedPlmnPerCell) :
    fillServedPlmnCell p s =
      (collect fillPerQciReportItem (s.perQciReportItems.iterate p.qci)).map
        fun pqrls =>
          { pLMNIdentity := (OctetString.ofString s.plmId 3).getValue
            duPMEPC := some { perQCIReportListDu := pqrls } } := by
  unfold fillServedPlmnCell
  cases collect fillPerQciReportItem (s.perQciReportItems.iterate p.qci) <;> rfl

theorem fillCellReport_eq (p : Placement) (r : CellResourceReport) :
    fillCellReport p r =
      (collect (fillServedPlmnCell p)
        (r.servedPlmnPerCellItems.iterate p.served)).map
        fun sppcls =>
          { nRCGI := nrcgi r
            dlTotalofAvailablePRBs := some r.dlAvailablePrbs
            ulTotalofAvailablePRBs := some r.ulAvailablePrbs
            servedPlmnPerCellList := sppcls } := by
  unfold fillCellReport
  cases collect (fillServedPlmnCell p)
    (r.servedPlmnPerCellItems.iterate p.served) <;> rfl

theorem fillODuContainer_eq (p : Placement) (values : ODuContainerValues) :
    fillODuContainer p values =
      (collect (fillCellReport p)
        (values.cellResourceReportItems.iterate p.report)).map
        fun crrlis => { cellResourceReportList := crrlis } := by
  unfold fillODuContainer
  cases collect (fillCellReport p)
    (values.cellResourceReportItems.iterate p.report) <;> rfl

theorem exists_collect_iterate_error_iff {build : item -> Except Abort result}
    {ok : item -> Prop}
    (hbuild : forall x, (exists a, build x = .error a) <-> ¬ ok x)
    (address : Nat -> Nat) (s : RefSet item) :
    (exists a, collect build (s.iterate address) = .error a) <->
      ¬ forall x, x ∈ s.objects -> ok x := by
  rw [exists_collect_error_iff]
  push Not
  constructor
  · intro h
    rcases h with ⟨x, hx, herror⟩
    exact ⟨x, RefSet.mem_iterate.mp hx, (hbuild x).mp herror⟩
  · intro h
    rcases h with ⟨x, hx, hbad⟩
    exact ⟨x, RefSet.mem_iterate.mpr hx, (hbuild x).mpr hbad⟩

theorem fillServedPlmnCell_error_iff (p : Placement) (s : ServedPlmnPerCell) :
    (exists a, fillServedPlmnCell p s = .error a) <-> ¬ s.InRange := by
  rw [fillServedPlmnCell_eq, exists_map_error_iff]
  exact exists_collect_iterate_error_iff
    (fun _ => fillPerQciReportItem_error_iff) p.qci s.perQciReportItems

theorem fillCellReport_error_iff (p : Placement) (r : CellResourceReport) :
    (exists a, fillCellReport p r = .error a) <-> ¬ r.InRange := by
  rw [fillCellReport_eq, exists_map_error_iff]
  exact exists_collect_iterate_error_iff
    (fillServedPlmnCell_error_iff p) p.served r.servedPlmnPerCellItems

theorem fillODuContainer_error_iff (p : Placement)
    (values : ODuContainerValues) :
    (exists a, fillODuContainer p values = .error a) <-> ¬ values.InRange := by
  rw [fillODuContainer_eq, exists_map_error_iff]
  exact exists_collect_iterate_error_iff
    (fillCellReport_error_iff p) p.report values.cellResourceReportItems

theorem fillPmContainer_du (p : Placement) (values : ODuContainerValues) :
    fillPmContainer p (some (.du values)) =
      (fillODuContainer p values).map .oDU := by
  unfold fillPmContainer
  dsimp only
  cases fillODuContainer p values <;> rfl

theorem fillPmContainer_error_iff (p : Placement)
    (container : Option PmContainerValues) :
    (exists a, fillPmContainer p container = .error a) <->
      ¬ ContainerBuildable container := by
  cases container with
  | none => exact ⟨fun _ h => h, fun _ => ⟨_, rfl⟩⟩
  | some values =>
      cases values with
      | cuUp values =>
          constructor
          · intro hall
            rcases hall with ⟨a, h⟩
            cases h
          · intro h
            exact absurd trivial h
      | cuCp values =>
          constructor
          · intro hall
            rcases hall with ⟨a, h⟩
            cases h
          · intro h
            exact absurd trivial h
      | du values =>
          show _ <-> ¬ values.InRange
          rw [← fillODuContainer_error_iff p, fillPmContainer_du]
          exact exists_map_error_iff
      | other => exact ⟨fun _ h => h, fun _ => ⟨_, rfl⟩⟩

theorem fillPerUE_error_iff (ue : MeasurementItemList) :
    (exists a, fillPerUE ue = .error a) <-> ¬ ue.id ≠ none := by
  unfold fillPerUE MeasurementItemList.getId
  cases ue.id with
  | none => exact ⟨fun _ h => h rfl, fun _ => ⟨_, rfl⟩⟩
  | some id =>
      constructor
      · intro hall
        rcases hall with ⟨a, h⟩
        cases h
      · intro h
        exact absurd (fun heq => by cases heq) h

theorem fillMatchedUEs_eq (p : Placement)
    (ueIndications : RefSet MeasurementItemList) :
    fillMatchedUEs p ueIndications =
      (collect fillPerUE (ueIndications.iterate p.ue)).map fun perUEItems =>
        if ueIndications.objects = [] then none else some perUEItems := by
  unfold fillMatchedUEs
  cases hrefs : ueIndications.refs with
  | nil =>
      have hnil : ueIndications.objects = [] := by
        unfold RefSet.objects
        rw [hrefs]
        rfl
      rw [if_neg (show ¬ ([] : List (Ref MeasurementItemList)).length > 0
        from Nat.lt_irrefl 0), RefSet.iterate_eq_nil_iff.mpr hnil,
        collect_nil]
      simp only [if_pos hnil]
      rfl
  | cons r rest =>
      have hne : ueIndications.objects ≠ [] := by
        unfold RefSet.objects
        rw [hrefs]
        exact List.cons_ne_nil _ _
      rw [if_pos (show (r :: rest).length > 0 from Nat.succ_pos _)]
      simp only [if_neg hne]
      cases collect fillPerUE (ueIndications.iterate p.ue) <;> rfl

theorem fillMatchedUEs_error_iff (p : Placement)
    (ueIndications : RefSet MeasurementItemList) :
    (exists a, fillMatchedUEs p ueIndications = .error a) <->
      ¬ AllNamed ueIndications := by
  rw [fillMatchedUEs_eq, exists_map_error_iff]
  exact exists_collect_iterate_error_iff fillPerUE_error_iff p.ue ueIndications

theorem fillAndEncode_error_iff (p : Placement)
    (values : KpmIndicationMessageValues PmContainerValues) :
    (exists a, fillAndEncodeKpmIndicationMessage p values = .error a) <->
      ¬ Buildable values := by
  have hcontainer := fillPmContainer_error_iff p values.pmContainerValues
  have hues := fillMatchedUEs_error_iff p values.ueIndications
  unfold fillAndEncodeKpmIndicationMessage
  cases hpm : fillPmContainer p values.pmContainerValues with
  | error a =>
      have hbad := hcontainer.mp ⟨a, hpm⟩
      exact ⟨fun _ h => hbad h.container, fun _ => ⟨a, rfl⟩⟩
  | ok ranContainer =>
      have hgood : ContainerBuildable values.pmContainerValues := by
        by_contra hbad
        rcases hcontainer.mpr hbad with ⟨a, ha⟩
        rw [hpm] at ha
        cases ha
      cases hmatched : fillMatchedUEs p values.ueIndications with
      | error a =>
          have hunnamed := hues.mp ⟨a, hmatched⟩
          exact ⟨fun _ h => hunnamed h.named, fun _ => ⟨a, rfl⟩⟩
      | ok matchedUEs =>
          constructor
          · intro hall
            rcases hall with ⟨a, h⟩
            cases h
          · intro hbad
            have hunnamed : ¬ AllNamed values.ueIndications :=
              fun h => hbad ⟨hgood, h⟩
            rcases hues.mpr hunnamed with ⟨a, ha⟩
            rw [hmatched] at ha
            cases ha

theorem buildable_of_ok {p : Placement}
    {values : KpmIndicationMessageValues PmContainerValues}
    {format : E2smKpmIndicationMessageFormat1T}
    (h : fillAndEncodeKpmIndicationMessage p values = .ok format) :
    Buildable values := by
  by_contra hbad
  rcases (fillAndEncode_error_iff p values).mpr hbad with ⟨a, ha⟩
  rw [h] at ha
  cases ha

theorem fillAndEncode_ok {values : KpmIndicationMessageValues PmContainerValues}
    (h : Buildable values) (p : Placement) :
    exists format, fillAndEncodeKpmIndicationMessage p values = .ok format :=
  exists_ok_of_not_error fun herror =>
    (fillAndEncode_error_iff p values).mp herror h

/-!
## Faithful images
-/

structure MirrorsQci (q : EpcDuPmContainer) (item : PerQCIReportListItemT) :
    Prop where
  qci : item.qci = q.qci
  dlPRBUsage : item.dlPRBUsage = some q.dlPrbUsage
  ulPRBUsage : item.ulPRBUsage = some q.ulPrbUsage

/-- One entry for each member of a set, in some order, and no other entry. -/
def MirrorsSet (mirrors : item -> entry -> Prop) (s : RefSet item)
    (entries : List entry) : Prop :=
  exists members, members.Perm s.objects ∧
    List.Forall₂ mirrors members entries

structure MirrorsServed (s : ServedPlmnPerCell)
    (item : ServedPlmnPerCellListItemT) : Prop where
  plmn : item.pLMNIdentity.octets = s.plmId.read 3
  reports : exists format, item.duPMEPC = some format ∧
    MirrorsSet MirrorsQci s.perQciReportItems format.perQCIReportListDu

structure MirrorsReport (r : CellResourceReport)
    (item : CellResourceReportListItemT) : Prop where
  plmn : item.nRCGI.pLMNIdentity.octets = r.plmId.read 3
  cell : item.nRCGI.nRCellIdentity =
    (NrCellId.new r.nrCellId r.beyondNrCellId).getValue
  dlPRBs : item.dlTotalofAvailablePRBs = some r.dlAvailablePrbs
  ulPRBs : item.ulTotalofAvailablePRBs = some r.ulAvailablePrbs
  served : MirrorsSet MirrorsServed r.servedPlmnPerCellItems
    item.servedPlmnPerCellList

structure MirrorsCuUp (values : OCuUpContainerValues)
    (ocuup : OCUUPPFContainerT) : Prop where
  plmn : exists item plmnItem format report,
    ocuup.pfContainerList = [item] ∧
      item.oCUUPPMContainer.plmnList = [plmnItem] ∧
      plmnItem.pLMNIdentity.octets = values.plmId.read 3 ∧
      plmnItem.cuUPPMEPC = some format ∧
      format.perQCIReportListCuup = [report] ∧
      report.pDCPBytesDL = some values.pDCPBytesDL ∧
      report.pDCPBytesUL = some values.pDCPBytesUL

inductive MirrorsContainer : PmContainerValues -> PFContainerT -> Prop where
  | cuUp (h : MirrorsCuUp values ocuup) :
      MirrorsContainer (.cuUp values) (.oCUUP ocuup)
  | cuCp (h : ocucp.numberOfActiveUEs = some (values.numActiveUes.toNat : Int)) :
      MirrorsContainer (.cuCp values) (.oCUCP ocucp)
  | du (h : MirrorsSet MirrorsReport values.cellResourceReportItems
        odu.cellResourceReportList) :
      MirrorsContainer (.du values) (.oDU odu)

structure MirrorsItem (item : MeasurementItem) (info : PMInfoItemT) : Prop where
  name : info.measName = item.measName
  value : info.pmVal = item.pmVal.content

structure MirrorsUE (ue : MeasurementItemList) (entry : PerUEPMItemT) :
    Prop where
  id : ue.id.map OctetString.getValue = some entry.ueId
  items : exists infos, entry.listOfPMInformation = some infos ∧
    List.Forall₂ MirrorsItem ue.items infos

structure Mirrors (values : KpmIndicationMessageValues PmContainerValues)
    (format : E2smKpmIndicationMessageFormat1T) : Prop where
  container : exists container, values.pmContainerValues = some container ∧
    exists pf, format.pmContainers = [pf] ∧ MirrorsContainer container pf
  cellObjectID : format.cellObjectID.octets = values.cellObjectId
  cellItems : Option.Rel (List.Forall₂ MirrorsItem)
    (values.cellMeasurementItems.map MeasurementItemList.items)
    format.listOfPMInformation
  absentUEs : format.listOfMatchedUEs = none <->
    values.ueIndications.objects = []
  matchedUEs : forall entries, format.listOfMatchedUEs = some entries ->
    MirrorsSet MirrorsUE values.ueIndications entries

theorem mirrorsSet_of_collect {build : item -> Except Abort entry}
    {mirrors : item -> entry -> Prop} {address : Nat -> Nat}
    {s : RefSet item} {entries : List entry}
    (hbuild : forall x y, build x = .ok y -> mirrors x y)
    (h : collect build (s.iterate address) = .ok entries) :
    MirrorsSet mirrors s entries :=
  ⟨s.iterate address, RefSet.iterate_perm address s,
    (collect_eq_ok_iff.mp h).imp hbuild⟩

theorem fillPerQciReportItem_mirrors {q : EpcDuPmContainer}
    {item : PerQCIReportListItemT} (h : fillPerQciReportItem q = .ok item) :
    MirrorsQci q item := by
  have hrange : q.InRange := by
    by_contra hbad
    rcases fillPerQciReportItem_error_iff.mpr hbad with ⟨a, ha⟩
    rw [h] at ha
    cases ha
  rw [fillPerQciReportItem_of_inRange hrange] at h
  cases h
  exact ⟨rfl, rfl, rfl⟩

theorem fillServedPlmnCell_mirrors {p : Placement} {s : ServedPlmnPerCell}
    {item : ServedPlmnPerCellListItemT}
    (h : fillServedPlmnCell p s = .ok item) : MirrorsServed s item := by
  rw [fillServedPlmnCell_eq] at h
  rcases map_eq_ok_iff.mp h with ⟨pqrls, hcollect, rfl⟩
  exact ⟨OctetString.octets_ofString s.plmId 3, _, rfl,
    mirrorsSet_of_collect (fun _ _ => fillPerQciReportItem_mirrors) hcollect⟩

theorem fillCellReport_mirrors {p : Placement} {r : CellResourceReport}
    {item : CellResourceReportListItemT} (h : fillCellReport p r = .ok item) :
    MirrorsReport r item := by
  rw [fillCellReport_eq] at h
  rcases map_eq_ok_iff.mp h with ⟨sppcls, hcollect, rfl⟩
  exact ⟨OctetString.octets_ofString r.plmId 3, rfl, rfl, rfl,
    mirrorsSet_of_collect (fun _ _ => fillServedPlmnCell_mirrors) hcollect⟩

theorem fillODuContainer_mirrors {p : Placement} {values : ODuContainerValues}
    {odu : ODUPFContainerT} (h : fillODuContainer p values = .ok odu) :
    MirrorsSet MirrorsReport values.cellResourceReportItems
      odu.cellResourceReportList := by
  rw [fillODuContainer_eq] at h
  rcases map_eq_ok_iff.mp h with ⟨crrlis, hcollect, rfl⟩
  exact mirrorsSet_of_collect (fun _ _ => fillCellReport_mirrors) hcollect

theorem fillOCuUpContainer_mirrors (values : OCuUpContainerValues) :
    MirrorsCuUp values (fillOCuUpContainer values) :=
  ⟨_, _, _, _, rfl, rfl, OctetString.octets_ofString values.plmId 3, rfl, rfl,
    rfl, rfl⟩

theorem fillPmContainer_mirrors {p : Placement}
    {container : Option PmContainerValues} {pf : PFContainerT}
    (h : fillPmContainer p container = .ok pf) :
    exists values, container = some values ∧ MirrorsContainer values pf := by
  cases container with
  | none => cases h
  | some values =>
      refine ⟨values, rfl, ?_⟩
      cases values with
      | cuUp values =>
          cases h
          exact .cuUp (fillOCuUpContainer_mirrors values)
      | cuCp values =>
          cases h
          exact .cuCp rfl
      | du values =>
          rw [fillPmContainer_du] at h
          rcases map_eq_ok_iff.mp h with ⟨odu, hodu, rfl⟩
          exact .du (fillODuContainer_mirrors hodu)
      | other => cases h

theorem getPointer_mirrors (items : List MeasurementItem) :
    List.Forall₂ MirrorsItem items (items.map MeasurementItem.getPointer) := by
  rw [List.forall₂_map_right_iff, List.forall₂_same]
  intro item _
  exact ⟨rfl, rfl⟩

theorem fillPerUE_mirrors {ue : MeasurementItemList} {entry : PerUEPMItemT}
    (h : fillPerUE ue = .ok entry) : MirrorsUE ue entry := by
  unfold fillPerUE MeasurementItemList.getId at h
  cases hid : ue.id with
  | none =>
      rw [hid] at h
      cases h
  | some id =>
      rw [hid] at h
      cases h
      exact ⟨by rw [hid]; rfl, _, rfl, getPointer_mirrors ue.items⟩

theorem fillAndEncode_cases {p : Placement}
    {values : KpmIndicationMessageValues PmContainerValues}
    {format : E2smKpmIndicationMessageFormat1T}
    (h : fillAndEncodeKpmIndicationMessage p values = .ok format) :
    exists pf entries,
      fillPmContainer p values.pmContainerValues = .ok pf ∧
        collect fillPerUE (values.ueIndications.iterate p.ue) = .ok entries ∧
        format =
          { pmContainers := [pf]
            cellObjectID := OctetStringT.ofBytes values.cellObjectId
            listOfPMInformation :=
              values.cellMeasurementItems.map fun l =>
                l.items.map MeasurementItem.getPointer
            listOfMatchedUEs :=
              if values.ueIndications.objects = [] then none
              else some entries } := by
  unfold fillAndEncodeKpmIndicationMessage at h
  cases hpm : fillPmContainer p values.pmContainerValues with
  | error a =>
      rw [hpm] at h
      cases h
  | ok pf =>
      rw [hpm, fillMatchedUEs_eq] at h
      cases hues : collect fillPerUE (values.ueIndications.iterate p.ue) with
      | error a =>
          rw [hues] at h
          cases h
      | ok entries =>
          rw [hues] at h
          cases h
          exact ⟨pf, entries, rfl, rfl, rfl⟩

theorem fillAndEncode_mirrors {p : Placement}
    {values : KpmIndicationMessageValues PmContainerValues}
    {format : E2smKpmIndicationMessageFormat1T}
    (h : fillAndEncodeKpmIndicationMessage p values = .ok format) :
    Mirrors values format := by
  rcases fillAndEncode_cases h with ⟨pf, entries, hpm, hues, rfl⟩
  rcases fillPmContainer_mirrors hpm with ⟨container, hcontainer, hmirrors⟩
  refine ⟨⟨container, hcontainer, pf, rfl, hmirrors⟩, List.take_length, ?_,
    ?_, ?_⟩
  · cases values.cellMeasurementItems with
    | none => exact Option.Rel.none
    | some l => exact Option.Rel.some (getPointer_mirrors l.items)
  · show (if values.ueIndications.objects = [] then none else some entries) =
      none <-> _
    split <;> simp_all
  · intro entries' hentries
    have hsome : (if values.ueIndications.objects = [] then none
        else some entries) = some entries' := hentries
    split at hsome
    · cases hsome
    · cases hsome
      exact mirrorsSet_of_collect (fun _ _ => fillPerUE_mirrors) hues

/-- The builder stops before the encoder exactly on values that cannot be
built, and hands a faithful image of all others to it. -/
theorem message_is_faithful_image (p : Placement)
    (values : KpmIndicationMessageValues PmContainerValues) :
    ((exists a, fillAndEncodeKpmIndicationMessage p values = .error a) <->
        ¬ ContainerBuildable values.pmContainerValues ∨
          ¬ AllNamed values.ueIndications) ∧
      forall format,
        fillAndEncodeKpmIndicationMessage p values = .ok format ->
          Mirrors values format := by
  constructor
  · rw [fillAndEncode_error_iff]
    constructor
    · intro h
      by_contra hneither
      push Not at hneither
      exact h ⟨hneither.left, hneither.right⟩
    · intro hall h
      rcases hall with hcontainer | hnamed
      · exact hcontainer h.container
      · exact hnamed h.named
  · intro format h
    exact fillAndEncode_mirrors h

end Kpm
end OranE2
