import OranE2.Kpm.Image

/-!
# Messages and heap addresses

Four kinds of objects are held in sets that are walked through in the order of
their addresses.  A message is the same for all addresses exactly when no set on
its way holds members that look different.
-/

namespace OranE2
namespace Kpm

open Library
open Asn1c

def Alike (look : item -> content) (s : RefSet item) : Prop :=
  forall x, x ∈ s.objects -> forall y, y ∈ s.objects -> look x = look y

/-- What a message shows of a served PLMN, its reports in the order of their
insertion. -/
@[ext] structure ServedContent where
  pLMNIdentity : OctetStringT
  reports : List EpcDuPmContainer
  deriving DecidableEq

def ServedPlmnPerCell.content (s : ServedPlmnPerCell) : ServedContent where
  pLMNIdentity := (OctetString.ofString s.plmId 3).getValue
  reports := s.perQciReportItems.objects

@[ext] structure CellContent where
  nRCGI : NRCGIT
  dlAvailablePrbs : Int
  ulAvailablePrbs : Int
  served : List ServedContent
  deriving DecidableEq

def CellResourceReport.content (r : CellResourceReport) : CellContent where
  nRCGI := nrcgi r
  dlAvailablePrbs := r.dlAvailablePrbs
  ulAvailablePrbs := r.ulAvailablePrbs
  served := r.servedPlmnPerCellItems.objects.map ServedPlmnPerCell.content

def MeasurementItemList.content (ue : MeasurementItemList) :
    Option OctetString × List PMInfoItemT :=
  (ue.id, ue.items.map MeasurementItem.getPointer)

structure CellResourceReport.Uniform (r : CellResourceReport) : Prop where
  served : Alike ServedPlmnPerCell.content r.servedPlmnPerCellItems
  reports : forall s, s ∈ r.servedPlmnPerCellItems.objects ->
    Alike id s.perQciReportItems

structure ODuContainerValues.Uniform (values : ODuContainerValues) : Prop where
  cells : Alike CellResourceReport.content values.cellResourceReportItems
  members : forall r, r ∈ values.cellResourceReportItems.objects -> r.Uniform

def ContainerUniform : Option PmContainerValues -> Prop
  | some (.du values) => values.Uniform
  | _ => True

/-!
## Uniform sets
-/

def EpcDuPmContainer.entry (q : EpcDuPmContainer) : PerQCIReportListItemT where
  qci := q.qci
  dlPRBUsage := some q.dlPrbUsage
  ulPRBUsage := some q.ulPrbUsage

def ServedContent.entry (s : ServedContent) : ServedPlmnPerCellListItemT where
  pLMNIdentity := s.pLMNIdentity
  duPMEPC := some
    { perQCIReportListDu := s.reports.map EpcDuPmContainer.entry }

def CellContent.entry (r : CellContent) : CellResourceReportListItemT where
  nRCGI := r.nRCGI
  dlTotalofAvailablePRBs := some r.dlAvailablePrbs
  ulTotalofAvailablePRBs := some r.ulAvailablePrbs
  servedPlmnPerCellList := r.served.map ServedContent.entry

theorem qciEntry_injective : Function.Injective EpcDuPmContainer.entry := by
  intro q q' h
  cases q
  cases q'
  cases h
  rfl

theorem servedEntry_injective : Function.Injective ServedContent.entry := by
  intro s s' h
  have hplmn := congrArg ServedPlmnPerCellListItemT.pLMNIdentity h
  have hreports := Option.some.inj
    (congrArg ServedPlmnPerCellListItemT.duPMEPC h)
  exact ServedContent.ext hplmn
    (List.map_injective_iff.mpr qciEntry_injective
      (congrArg EPCDUPMContainerT.perQCIReportListDu hreports))

theorem cellEntry_injective : Function.Injective CellContent.entry := by
  intro r r' h
  have hserved := congrArg CellResourceReportListItemT.servedPlmnPerCellList h
  exact CellContent.ext
    (congrArg CellResourceReportListItemT.nRCGI h)
    (Option.some.inj
      (congrArg CellResourceReportListItemT.dlTotalofAvailablePRBs h))
    (Option.some.inj
      (congrArg CellResourceReportListItemT.ulTotalofAvailablePRBs h))
    (List.map_injective_iff.mpr servedEntry_injective hserved)

theorem collect_of_alike (build : item -> Except Abort entry)
    (look : item -> content) (toEntry : content -> entry) {s : RefSet item}
    (hbuild : forall x, x ∈ s.objects -> build x = .ok (toEntry (look x)))
    (halike : Alike look s) (address : Nat -> Nat) :
    collect build (s.iterate address) =
      .ok ((s.objects.map look).map toEntry) := by
  rw [collect_eq_ok_map (f := fun x => toEntry (look x))
    fun x hx => hbuild x (RefSet.mem_iterate.mp hx),
    ← RefSet.map_iterate_of_alike halike address, List.map_map]
  rfl

theorem fillServedPlmnCell_of_alike {s : ServedPlmnPerCell}
    (hrange : s.InRange) (halike : Alike id s.perQciReportItems)
    (p : Placement) : fillServedPlmnCell p s = .ok s.content.entry := by
  have hcollect := collect_of_alike fillPerQciReportItem id
    EpcDuPmContainer.entry
    (fun q hq => fillPerQciReportItem_of_inRange (hrange q hq)) halike p.qci
  rw [fillServedPlmnCell_eq, hcollect, List.map_id]
  rfl

theorem fillCellReport_of_uniform {r : CellResourceReport}
    (hrange : r.InRange) (huniform : r.Uniform) (p : Placement) :
    fillCellReport p r = .ok r.content.entry := by
  have hcollect := collect_of_alike (fillServedPlmnCell p)
    ServedPlmnPerCell.content ServedContent.entry
    (fun s hs => fillServedPlmnCell_of_alike (hrange s hs)
      (huniform.reports s hs) p) huniform.served p.served
  rw [fillCellReport_eq, hcollect]
  rfl

theorem fillODuContainer_of_uniform {values : ODuContainerValues}
    (hrange : values.InRange) (huniform : values.Uniform) (p : Placement) :
    fillODuContainer p values =
      .ok
        { cellResourceReportList :=
            (values.cellResourceReportItems.objects.map
              CellResourceReport.content).map CellContent.entry } := by
  have hcollect := collect_of_alike (fillCellReport p)
    CellResourceReport.content CellContent.entry
    (fun r hr => fillCellReport_of_uniform (hrange r hr)
      (huniform.members r hr) p) huniform.cells p.report
  rw [fillODuContainer_eq, hcollect]
  rfl

/-!
## Messages that do not depend on addresses
-/

/-- Members that a loop builds into the same entries at any addresses are built
alike. -/
theorem build_eq_of_collect_eq
    (build : Placement -> item -> Except Abort entry)
    (address : Placement -> Nat -> Nat) {s : RefSet item}
    (hfree : forall p i, exists p', address p' = RefSet.lowest i ∧
      build p' = build p)
    (hok : forall p x, x ∈ s.objects -> exists y, build p x = .ok y)
    (h : forall p p', collect (build p) (s.iterate (address p)) =
      collect (build p') (s.iterate (address p')))
    {x y : item} (hx : x ∈ s.objects) (hy : y ∈ s.objects)
    (p p' : Placement) : build p x = build p' y := by
  have hmap : forall q q',
      (s.iterate (address q)).map (fun z => (build q z).toOption) =
        (s.iterate (address q')).map fun z => (build q' z).toOption := by
    intro q q'
    rcases exists_collect_ok fun z hz =>
      hok q z (RefSet.mem_iterate.mp hz) with ⟨zs, hzs⟩
    rw [← map_some_of_collect hzs, ← map_some_of_collect ((h q q') ▸ hzs)]
  have hsame := (RefSet.map_iterate_eq_iff
    (f := fun q z => (build q z).toOption)
    (fun q i => by
      rcases hfree q i with ⟨q', hq', hbuild⟩
      exact ⟨q', hq', by rw [hbuild]⟩) s).mp hmap x hx y hy p p'
  rcases hok p x hx with ⟨a, ha⟩
  rcases hok p' y hy with ⟨b, hb⟩
  rw [ha, hb] at hsame
  rw [ha, hb, Option.some.inj hsame]

theorem fillServedPlmnCell_ok {s : ServedPlmnPerCell} (hrange : s.InRange)
    (p : Placement) : exists item, fillServedPlmnCell p s = .ok item :=
  exists_ok_of_not_error fun h =>
    (fillServedPlmnCell_error_iff p s).mp h hrange

theorem fillCellReport_ok {r : CellResourceReport} (hrange : r.InRange)
    (p : Placement) : exists item, fillCellReport p r = .ok item :=
  exists_ok_of_not_error fun h => (fillCellReport_error_iff p r).mp h hrange

theorem alike_of_fillServedPlmnCell_eq {s : ServedPlmnPerCell}
    (hrange : s.InRange)
    (h : forall p p', fillServedPlmnCell p s = fillServedPlmnCell p' s) :
    Alike id s.perQciReportItems := by
  have hcollect : forall p p' : Placement,
      collect fillPerQciReportItem (s.perQciReportItems.iterate p.qci) =
        collect fillPerQciReportItem
          (s.perQciReportItems.iterate p'.qci) := by
    intro p p'
    have hsame := h p p'
    rw [fillServedPlmnCell_eq, fillServedPlmnCell_eq] at hsame
    refine map_injective ?_ hsame
    intro pqrls pqrls' hitem
    exact congrArg EPCDUPMContainerT.perQCIReportListDu (Option.some.inj
      (congrArg ServedPlmnPerCellListItemT.duPMEPC hitem))
  intro q hq q' hq'
  have hbuild := build_eq_of_collect_eq (fun _ => fillPerQciReportItem)
    Placement.qci
    (fun p i => ⟨{ p with
      qci := RefSet.lowest i
      qci_injective := RefSet.lowest_injective i }, rfl, rfl⟩)
    (fun _ x hx => ⟨_, fillPerQciReportItem_of_inRange (hrange x hx)⟩)
    hcollect hq hq' Placement.increasing Placement.increasing
  rw [fillPerQciReportItem_of_inRange (hrange q hq),
    fillPerQciReportItem_of_inRange (hrange q' hq')] at hbuild
  exact qciEntry_injective (Except.ok.inj hbuild)

theorem uniform_of_fillCellReport_eq {r : CellResourceReport}
    (hrange : r.InRange)
    (h : forall p p', fillCellReport p r = fillCellReport p' r) :
    r.Uniform := by
  have hcollect : forall p p' : Placement,
      collect (fillServedPlmnCell p)
          (r.servedPlmnPerCellItems.iterate p.served) =
        collect (fillServedPlmnCell p')
          (r.servedPlmnPerCellItems.iterate p'.served) := by
    intro p p'
    have hsame := h p p'
    rw [fillCellReport_eq, fillCellReport_eq] at hsame
    refine map_injective ?_ hsame
    intro sppcls sppcls' hitem
    exact congrArg CellResourceReportListItemT.servedPlmnPerCellList hitem
  have hbuild : forall {s s'}, s ∈ r.servedPlmnPerCellItems.objects ->
      s' ∈ r.servedPlmnPerCellItems.objects -> forall p p',
        fillServedPlmnCell p s = fillServedPlmnCell p' s' := by
    intro s s' hs hs'
    exact build_eq_of_collect_eq fillServedPlmnCell Placement.served
      (fun p i => ⟨{ p with
        served := RefSet.lowest i
        served_injective := RefSet.lowest_injective i }, rfl, rfl⟩)
      (fun p x hx => fillServedPlmnCell_ok (hrange x hx) p) hcollect hs hs'
  have hreports : forall s, s ∈ r.servedPlmnPerCellItems.objects ->
      Alike id s.perQciReportItems := fun s hs =>
    alike_of_fillServedPlmnCell_eq (hrange s hs) (hbuild hs hs)
  refine ⟨?_, hreports⟩
  intro s hs s' hs'
  have hsame := hbuild hs hs' Placement.increasing Placement.increasing
  rw [fillServedPlmnCell_of_alike (hrange s hs) (hreports s hs),
    fillServedPlmnCell_of_alike (hrange s' hs') (hreports s' hs')] at hsame
  exact servedEntry_injective (Except.ok.inj hsame)

theorem uniform_of_fillODuContainer_eq {values : ODuContainerValues}
    (hrange : values.InRange)
    (h : forall p p', fillODuContainer p values = fillODuContainer p' values) :
    values.Uniform := by
  have hcollect : forall p p' : Placement,
      collect (fillCellReport p)
          (values.cellResourceReportItems.iterate p.report) =
        collect (fillCellReport p')
          (values.cellResourceReportItems.iterate p'.report) := by
    intro p p'
    have hsame := h p p'
    rw [fillODuContainer_eq, fillODuContainer_eq] at hsame
    refine map_injective ?_ hsame
    intro crrlis crrlis' hodu
    exact congrArg ODUPFContainerT.cellResourceReportList hodu
  have hbuild : forall {r r'}, r ∈ values.cellResourceReportItems.objects ->
      r' ∈ values.cellResourceReportItems.objects -> forall p p',
        fillCellReport p r = fillCellReport p' r' := by
    intro r r' hr hr'
    exact build_eq_of_collect_eq fillCellReport Placement.report
      (fun p i => ⟨{ p with
        report := RefSet.lowest i
        report_injective := RefSet.lowest_injective i }, rfl, rfl⟩)
      (fun p x hx => fillCellReport_ok (hrange x hx) p) hcollect hr hr'
  have hmembers : forall r, r ∈ values.cellResourceReportItems.objects ->
      r.Uniform := fun r hr =>
    uniform_of_fillCellReport_eq (hrange r hr) (hbuild hr hr)
  refine ⟨?_, hmembers⟩
  intro r hr r' hr'
  have hsame := hbuild hr hr' Placement.increasing Placement.increasing
  rw [fillCellReport_of_uniform (hrange r hr) (hmembers r hr),
    fillCellReport_of_uniform (hrange r' hr') (hmembers r' hr')] at hsame
  exact cellEntry_injective (Except.ok.inj hsame)

theorem fillPmContainer_independent_iff {container : Option PmContainerValues}
    (hbuildable : ContainerBuildable container) :
    (forall p p', fillPmContainer p container = fillPmContainer p' container) <->
      ContainerUniform container := by
  cases container with
  | none => exact absurd hbuildable id
  | some values =>
      cases values with
      | cuUp values => exact ⟨fun _ => trivial, fun _ _ _ => rfl⟩
      | cuCp values => exact ⟨fun _ => trivial, fun _ _ _ => rfl⟩
      | other => exact absurd hbuildable id
      | du values =>
          constructor
          · intro h
            apply uniform_of_fillODuContainer_eq hbuildable
            intro p p'
            have hsame := h p p'
            rw [fillPmContainer_du, fillPmContainer_du] at hsame
            exact map_injective (fun _ _ hodu => PFContainerT.oDU.inj hodu)
              hsame
          · intro huniform p p'
            rw [fillPmContainer_du, fillPmContainer_du,
              fillODuContainer_of_uniform hbuildable huniform,
              fillODuContainer_of_uniform hbuildable huniform]

theorem fillPerUE_eq_iff {ue ue' : MeasurementItemList} (hid : ue.id ≠ none)
    (hid' : ue'.id ≠ none) :
    fillPerUE ue = fillPerUE ue' <-> ue.content = ue'.content := by
  rcases Option.ne_none_iff_exists'.mp hid with ⟨o, ho⟩
  rcases Option.ne_none_iff_exists'.mp hid' with ⟨o', ho'⟩
  have hfill : forall {l : MeasurementItemList} {a : OctetString},
      l.id = some a -> fillPerUE l =
        .ok
          { ueId := a.getValue
            listOfPMInformation :=
              some (l.items.map MeasurementItem.getPointer) } := by
    intro l a ha
    unfold fillPerUE MeasurementItemList.getId
    rw [ha]
    rfl
  unfold MeasurementItemList.content
  rw [hfill ho, hfill ho', ho, ho']
  constructor
  · intro h
    have hentry := Except.ok.inj h
    have hvalue : o = o' := by
      cases o
      cases o'
      exact congrArg OctetString.mk (congrArg PerUEPMItemT.ueId hentry)
    rw [hvalue, Option.some.inj
      (congrArg PerUEPMItemT.listOfPMInformation hentry)]
  · intro h
    rcases Prod.mk.inj h with ⟨hids, hitems⟩
    rw [Option.some.inj hids, hitems]

theorem collect_perUE_independent_iff {ueIndications : RefSet MeasurementItemList}
    (hnamed : AllNamed ueIndications) :
    (forall p p' : Placement,
        collect fillPerUE (ueIndications.iterate p.ue) =
          collect fillPerUE (ueIndications.iterate p'.ue)) <->
      Alike MeasurementItemList.content ueIndications := by
  have hok : forall ue, ue ∈ ueIndications.objects ->
      exists entry, fillPerUE ue = .ok entry := fun ue hue =>
    exists_ok_of_not_error fun h =>
      (fillPerUE_error_iff ue).mp h (hnamed ue hue)
  constructor
  · intro h ue hue ue' hue'
    apply (fillPerUE_eq_iff (hnamed ue hue) (hnamed ue' hue')).mp
    exact build_eq_of_collect_eq (fun _ => fillPerUE) Placement.ue
      (fun p i => ⟨{ p with
        ue := RefSet.lowest i
        ue_injective := RefSet.lowest_injective i }, rfl, rfl⟩)
      (fun _ => hok) h hue hue' Placement.increasing Placement.increasing
  · intro halike p p'
    have hlook : Alike (fun ue => (fillPerUE ue).toOption) ueIndications := by
      intro ue hue ue' hue'
      exact congrArg Except.toOption
        ((fillPerUE_eq_iff (hnamed ue hue) (hnamed ue' hue')).mpr
          (halike ue hue ue' hue'))
    have hentries : forall q : Placement, exists entries,
        collect fillPerUE (ueIndications.iterate q.ue) = .ok entries ∧
          entries.map some =
            ueIndications.objects.map fun ue => (fillPerUE ue).toOption := by
      intro q
      rcases exists_collect_ok fun ue hue =>
        hok ue ((RefSet.iterate_perm q.ue ueIndications).mem_iff.mp hue)
        with ⟨entries, hentries⟩
      refine ⟨entries, hentries, ?_⟩
      rw [map_some_of_collect hentries, RefSet.map_iterate_of_alike hlook]
    rcases hentries p with ⟨entries, hp, hmap⟩
    rcases hentries p' with ⟨entries', hp', hmap'⟩
    rw [hp, hp', map_some_injective (hmap.trans hmap'.symm)]

theorem message_eq_iff {p p' : Placement}
    {values : KpmIndicationMessageValues PmContainerValues}
    (hbuildable : Buildable values) :
    (fillAndEncodeKpmIndicationMessage p values).toOption =
        (fillAndEncodeKpmIndicationMessage p' values).toOption <->
      fillPmContainer p values.pmContainerValues =
          fillPmContainer p' values.pmContainerValues ∧
        collect fillPerUE (values.ueIndications.iterate p.ue) =
          collect fillPerUE (values.ueIndications.iterate p'.ue) := by
  constructor
  · intro h
    rcases fillAndEncode_ok hbuildable p with ⟨format, hformat⟩
    rcases fillAndEncode_ok hbuildable p' with ⟨format', hformat'⟩
    rw [hformat, hformat'] at h
    have hsame : format = format' := Option.some.inj h
    rcases fillAndEncode_cases hformat with ⟨pf, entries, hpm, hues, hmsg⟩
    rcases fillAndEncode_cases hformat' with ⟨pf', entries', hpm', hues', hmsg'⟩
    rw [hmsg, hmsg'] at hsame
    have hcontainers :=
      congrArg E2smKpmIndicationMessageFormat1T.pmContainers hsame
    have hmatched :=
      congrArg E2smKpmIndicationMessageFormat1T.listOfMatchedUEs hsame
    constructor
    · rw [hpm, hpm', List.head_eq_of_cons_eq hcontainers]
    · by_cases hempty : values.ueIndications.objects = []
      · rw [RefSet.iterate_eq_nil_iff.mpr hempty,
          RefSet.iterate_eq_nil_iff.mpr hempty]
      · dsimp only at hmatched
        rw [if_neg hempty, if_neg hempty] at hmatched
        rw [hues, hues', Option.some.inj hmatched]
  · intro hall
    rcases hall with ⟨hpm, hues⟩
    have hmatched : fillMatchedUEs p values.ueIndications =
        fillMatchedUEs p' values.ueIndications := by
      rw [fillMatchedUEs_eq, fillMatchedUEs_eq, hues]
    unfold fillAndEncodeKpmIndicationMessage
    rw [hpm, hmatched]

/-- A message does not depend on the addresses exactly when it cannot be built
or no set on its way holds members that look different. -/
theorem message_independent_iff
    (values : KpmIndicationMessageValues PmContainerValues) :
    (forall p p', (fillAndEncodeKpmIndicationMessage p values).toOption =
        (fillAndEncodeKpmIndicationMessage p' values).toOption) <->
      (Buildable values ->
        Alike MeasurementItemList.content values.ueIndications ∧
          ContainerUniform values.pmContainerValues) := by
  constructor
  · intro h hbuildable
    rw [← collect_perUE_independent_iff hbuildable.named,
      ← fillPmContainer_independent_iff hbuildable.container]
    have hboth := fun p p' => (message_eq_iff hbuildable).mp (h p p')
    exact ⟨fun p p' => (hboth p p').right, fun p p' => (hboth p p').left⟩
  · intro h p p'
    by_cases hbuildable : Buildable values
    · rcases h hbuildable with ⟨hues, hcontainer⟩
      exact (message_eq_iff hbuildable).mpr
        ⟨(fillPmContainer_independent_iff hbuildable.container).mpr
            hcontainer p p',
          (collect_perUE_independent_iff hbuildable.named).mpr hues p p'⟩
    · rcases (fillAndEncode_error_iff p values).mpr hbuildable with ⟨a, ha⟩
      rcases (fillAndEncode_error_iff p' values).mpr hbuildable with ⟨b, hb⟩
      rw [ha, hb]
      rfl

end Kpm
end OranE2
