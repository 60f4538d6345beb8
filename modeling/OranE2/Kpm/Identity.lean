import OranE2.Kpm.Header
import OranE2.Kpm.Image

/-!
# Identities in headers and cell reports

Two questions about the octets that identify a node or a cell: whether they
depend on the memory behind the strings they are copied from, and whether they
tell the reported cells apart.
-/

namespace OranE2
namespace Kpm

open Library
open Asn1c

def NRCGIT.content (id : NRCGIT) : List UInt8 × List Bool :=
  (id.pLMNIdentity.octets, id.nRCellIdentity.significant)

theorem content_nrcgi (r : CellResourceReport) :
    (nrcgi r).content =
      (r.plmId.read 3,
        (NrCellId.new r.nrCellId r.beyondNrCellId).getValue.significant) := by
  unfold NRCGIT.content nrcgi
  rw [OctetString.octets_ofString]

/-!
## The memory behind the strings
-/

structure ReportIdentity where
  nrcgi : List UInt8 × List Bool
  servedPlmns : List (List UInt8)
  deriving DecidableEq, Repr

def CellResourceReportListItemT.identity
    (item : CellResourceReportListItemT) : ReportIdentity where
  nrcgi := item.nRCGI.content
  servedPlmns := item.servedPlmnPerCellList.map fun served =>
    served.pLMNIdentity.octets

/-- The identities that a report brings to the encoder, if it gets there. -/
def reportIdentity (p : Placement) (r : CellResourceReport) :
    Option ReportIdentity :=
  (fillCellReport p r).toOption.map CellResourceReportListItemT.identity

def ServedPlmnPerCell.withMemory (beyond : Nat -> UInt8)
    (s : ServedPlmnPerCell) : ServedPlmnPerCell :=
  { s with plmId := ⟨s.plmId.bytes, beyond⟩ }

def CellResourceReport.withMemory (beyond : Nat -> UInt8)
    (r : CellResourceReport) : CellResourceReport :=
  { r with
    plmId := ⟨r.plmId.bytes, beyond⟩
    beyondNrCellId := beyond
    servedPlmnPerCellItems :=
      r.servedPlmnPerCellItems.map (ServedPlmnPerCell.withMemory beyond) }

def CellResourceReport.SameValues (r r' : CellResourceReport) : Prop :=
  r.withMemory (fun _ => 0) = r'.withMemory fun _ => 0

/-- No copy of an identity goes past the terminator of its string. -/
structure CellResourceReport.Fits (r : CellResourceReport) : Prop where
  plmn : 2 ≤ r.plmId.bytes.length
  cell : 63 ≤ r.nrCellId.toNat % 4096
  served : forall s, s ∈ r.servedPlmnPerCellItems.objects ->
    2 ≤ s.plmId.bytes.length

section

variable (r : CellResourceReport) (beyond : Nat -> UInt8)

theorem withMemory_withMemory (beyond' : Nat -> UInt8) :
    (r.withMemory beyond).withMemory beyond' = r.withMemory beyond' := by
  unfold CellResourceReport.withMemory
  simp only [RefSet.map_map]
  rfl

theorem sameValues_withMemory : r.SameValues (r.withMemory beyond) := by
  unfold CellResourceReport.SameValues
  rw [withMemory_withMemory]

theorem inRange_withMemory : (r.withMemory beyond).InRange <-> r.InRange := by
  unfold CellResourceReport.InRange CellResourceReport.withMemory
  rw [RefSet.objects_map]
  exact List.forall_mem_map

theorem fits_withMemory : (r.withMemory beyond).Fits <-> r.Fits := by
  have hserved : (forall s, s ∈ (r.withMemory beyond).servedPlmnPerCellItems.objects ->
        2 ≤ s.plmId.bytes.length) <->
      forall s, s ∈ r.servedPlmnPerCellItems.objects ->
        2 ≤ s.plmId.bytes.length := by
    unfold CellResourceReport.withMemory
    rw [RefSet.objects_map]
    exact List.forall_mem_map
  constructor
  · intro h
    rcases h with ⟨hplmn, hcell, hall⟩
    exact ⟨hplmn, hcell, hserved.mp hall⟩
  · intro h
    rcases h with ⟨hplmn, hcell, hall⟩
    exact ⟨hplmn, hcell, hserved.mpr hall⟩

end

theorem reportIdentity_of_not_inRange {p : Placement} {r : CellResourceReport}
    (h : ¬ r.InRange) : reportIdentity p r = none := by
  rcases (fillCellReport_error_iff p r).mpr h with ⟨a, ha⟩
  unfold reportIdentity
  rw [ha]
  rfl

theorem reportIdentity_of_inRange {p : Placement} {r : CellResourceReport}
    (h : r.InRange) :
    reportIdentity p r =
      some
        { nrcgi := (nrcgi r).content
          servedPlmns :=
            (r.servedPlmnPerCellItems.iterate p.served).map fun s =>
              s.plmId.read 3 } := by
  unfold reportIdentity
  cases hfill : fillCellReport p r with
  | error a => exact absurd h ((fillCellReport_error_iff p r).mp ⟨a, hfill⟩)
  | ok item =>
      rw [fillCellReport_eq] at hfill
      rcases map_eq_ok_iff.mp hfill with ⟨sppcls, hcollect, rfl⟩
      have hserved := map_of_collect
        (fun _ _ hs => (fillServedPlmnCell_mirrors hs).plmn) hcollect
      show some (ReportIdentity.mk (nrcgi r).content
        (sppcls.map fun served => served.pLMNIdentity.octets)) = _
      rw [hserved]

theorem reportIdentity_withMemory {p : Placement} {r : CellResourceReport}
    (h : r.Fits) (beyond : Nat -> UInt8) :
    reportIdentity p (r.withMemory beyond) = reportIdentity p r := by
  by_cases hrange : r.InRange
  · have hread : forall {bytes : List UInt8} (m m' : Nat -> UInt8),
        2 ≤ bytes.length ->
          (StdString.mk bytes m).read 3 = (StdString.mk bytes m').read 3 := by
      intro bytes m m' hbytes
      exact (StdString.read_independent_iff bytes 3).mpr
        (Nat.succ_le_succ hbytes) m m'
    have hcell :
        (NrCellId.new (r.withMemory beyond).nrCellId
            (r.withMemory beyond).beyondNrCellId).getValue.significant =
          (NrCellId.new r.nrCellId r.beyondNrCellId).getValue.significant :=
      (NrCellId.significant_independent_iff r.nrCellId).mpr h.cell beyond
        r.beyondNrCellId
    rw [reportIdentity_of_inRange hrange,
      reportIdentity_of_inRange ((inRange_withMemory r beyond).mpr hrange),
      content_nrcgi, content_nrcgi]
    have hplmn : (r.withMemory beyond).plmId.read 3 = r.plmId.read 3 :=
      hread beyond r.plmId.beyond h.plmn
    have hserved :
        ((r.withMemory beyond).servedPlmnPerCellItems.iterate p.served).map
            (fun s => s.plmId.read 3) =
          (r.servedPlmnPerCellItems.iterate p.served).map fun s =>
            s.plmId.read 3 := by
      show ((r.servedPlmnPerCellItems.map
        (ServedPlmnPerCell.withMemory beyond)).iterate p.served).map _ = _
      rw [RefSet.iterate_map, List.map_map]
      apply List.map_inj_left.mpr
      intro s hs
      exact hread beyond s.plmId.beyond (h.served s (RefSet.mem_iterate.mp hs))
    rw [hplmn, hserved, hcell]
  · rw [reportIdentity_of_not_inRange hrange, reportIdentity_of_not_inRange
      fun hwith => hrange ((inRange_withMemory r beyond).mp hwith)]

/-- Zeros and ones behind the strings show every copy that goes too far. -/
theorem fits_of_reportIdentity_eq {p : Placement} {r : CellResourceReport}
    (hrange : r.InRange)
    (h : reportIdentity p (r.withMemory fun _ => 0) =
      reportIdentity p (r.withMemory fun _ => 255)) : r.Fits := by
  rw [reportIdentity_of_inRange ((inRange_withMemory r _).mpr hrange),
    reportIdentity_of_inRange ((inRange_withMemory r _).mpr hrange),
    content_nrcgi, content_nrcgi] at h
  have hidentity := Option.some.inj h
  have hnrcgi := congrArg ReportIdentity.nrcgi hidentity
  have hserved := congrArg ReportIdentity.servedPlmns hidentity
  have hiterate : forall beyond : Nat -> UInt8,
      (r.withMemory beyond).servedPlmnPerCellItems.iterate p.served =
        (r.servedPlmnPerCellItems.iterate p.served).map
          (ServedPlmnPerCell.withMemory beyond) := fun beyond =>
    RefSet.iterate_map _ _ _
  simp only [hiterate, List.map_map] at hserved
  refine ⟨?_, ?_, ?_⟩
  · exact Nat.le_of_succ_le_succ
      (StdString.le_of_read_eq (congrArg Prod.fst hnrcgi))
  · exact NrCellId.le_of_significant_eq (congrArg Prod.snd hnrcgi)
  · intro s hs
    have hread := List.map_inj_left.mp hserved s (RefSet.mem_iterate.mpr hs)
    exact Nat.le_of_succ_le_succ (StdString.le_of_read_eq hread)

theorem reportIdentity_independent_iff (p : Placement)
    (r : CellResourceReport) :
    (forall r', r.SameValues r' -> reportIdentity p r = reportIdentity p r') <->
      (r.InRange -> r.Fits) := by
  constructor
  · intro h hrange
    apply fits_of_reportIdentity_eq (p := p) hrange
    rw [← h _ (sameValues_withMemory r _), ← h _ (sameValues_withMemory r _)]
  · intro h r' hsame
    by_cases hrange : r.InRange
    · have hfits' : r'.Fits := by
        rw [← fits_withMemory r' fun _ => 0, ← hsame, fits_withMemory]
        exact h hrange
      rw [← reportIdentity_withMemory (h hrange) fun _ => 0, hsame,
        reportIdentity_withMemory hfits']
    · have hrange' : ¬ r'.InRange := by
        rw [← inRange_withMemory r' fun _ => 0, ← hsame, inRange_withMemory]
        exact hrange
      rw [reportIdentity_of_not_inRange hrange,
        reportIdentity_of_not_inRange hrange']

def headerIdentity (nodeType : GlobalE2nodeType)
    (values : KpmRicIndicationHeaderValues) : List UInt8 × List Bool :=
  let content := (fillAndEncodeKpmRicIndicationHeader nodeType values).content
  (content.plmn, content.node)

theorem usedBits_independent_iff (nodeType : GlobalE2nodeType)
    (gnbId : List UInt8) :
    (forall beyond beyond' : Nat -> UInt8,
        nodeType.usedBits
            ((StdString.mk gnbId beyond).read nodeType.nodeIdSize) =
          nodeType.usedBits
            ((StdString.mk gnbId beyond').read nodeType.nodeIdSize)) <->
      nodeType.nodeIdSize ≤ gnbId.length + 1 := by
  have htake : forall value : StdString,
      (bits (value.read 4)).take 32 = bits (value.read 4) := by
    intro value
    apply List.take_of_length_le
    rw [length_bits, StdString.length_read]
  have hfull :
      (forall beyond beyond' : Nat -> UInt8,
          (bits ((StdString.mk gnbId beyond).read 4)).take 32 =
            (bits ((StdString.mk gnbId beyond').read 4)).take 32) <->
        4 ≤ gnbId.length + 1 := by
    rw [← BitString.significant_independent_iff gnbId 4]
    simp only [BitString.significant_ofString, htake]
  have hunused := BitString.significantUnused_independent_iff gnbId 2
  simp only [BitString.significant_ofStringUnused] at hunused
  cases nodeType with
  | gNB => exact hfull
  | eNB => exact hunused
  | ngENB => exact hunused
  | enGNB => exact hfull

theorem headerIdentity_independent_iff (nodeType : GlobalE2nodeType)
    (plmId gnbId : List UInt8) (timestamp : UInt64) :
    (forall beyondPlmId beyondGnbId beyondPlmId' beyondGnbId' : Nat -> UInt8,
        headerIdentity nodeType
            ⟨⟨gnbId, beyondGnbId⟩, ⟨plmId, beyondPlmId⟩, timestamp⟩ =
          headerIdentity nodeType
            ⟨⟨gnbId, beyondGnbId'⟩, ⟨plmId, beyondPlmId'⟩, timestamp⟩) <->
      2 ≤ plmId.length ∧ nodeType.nodeIdSize ≤ gnbId.length + 1 := by
  have hidentity : forall values : KpmRicIndicationHeaderValues,
      headerIdentity nodeType values =
        (values.plmId.read 3,
          nodeType.usedBits (values.gnbId.read nodeType.nodeIdSize)) := by
    intro values
    show ((fillAndEncodeKpmRicIndicationHeader nodeType values).content.plmn,
      (fillAndEncodeKpmRicIndicationHeader nodeType values).content.node) = _
    rw [fill_plmn, fill_node]
  simp only [hidentity, Prod.mk.injEq]
  rw [← usedBits_independent_iff]
  constructor
  · intro h
    refine ⟨?_, fun m m' => (h m m m' m').right⟩
    exact Nat.le_of_succ_le_succ
      ((StdString.read_independent_iff plmId 3).mp
        fun m m' => (h m m m' m').left)
  · intro hall m n m' n'
    rcases hall with ⟨hplmn, hnode⟩
    exact ⟨(StdString.read_independent_iff plmId 3).mpr
      (Nat.succ_le_succ hplmn) m m', hnode n n'⟩

/-- Headers and reports carry identities that are functions of their values
exactly when no string is shorter than its copy by more than the terminator. -/
theorem identities_independent_iff (nodeType : GlobalE2nodeType)
    (plmId gnbId : List UInt8) (timestamp : UInt64) (p : Placement)
    (r : CellResourceReport) :
    ((forall beyondPlmId beyondGnbId beyondPlmId' beyondGnbId' : Nat -> UInt8,
          headerIdentity nodeType
              ⟨⟨gnbId, beyondGnbId⟩, ⟨plmId, beyondPlmId⟩, timestamp⟩ =
            headerIdentity nodeType
              ⟨⟨gnbId, beyondGnbId'⟩, ⟨plmId, beyondPlmId'⟩, timestamp⟩) <->
        2 ≤ plmId.length ∧ nodeType.nodeIdSize ≤ gnbId.length + 1) ∧
      ((forall r', r.SameValues r' ->
            reportIdentity p r = reportIdentity p r') <->
          (r.InRange -> r.Fits)) :=
  ⟨headerIdentity_independent_iff nodeType plmId gnbId timestamp,
    reportIdentity_independent_iff p r⟩

def exampleCellReport (nrCellId : UInt16) : CellResourceReport where
  plmId := StdString.ofBytes [49, 49, 49]
  nrCellId := nrCellId
  beyondNrCellId := fun _ => 0
  dlAvailablePrbs := 106
  ulAvailablePrbs := 106
  servedPlmnPerCellItems := RefSet.empty

theorem shortIdentities_show_memory :
    headerIdentity .gNB
          ⟨⟨[49], fun _ => 0⟩, StdString.ofBytes [49, 49, 49], 1630068655325⟩ ≠
        headerIdentity .gNB
          ⟨⟨[49], fun _ => 255⟩, StdString.ofBytes [49, 49, 49],
            1630068655325⟩ ∧
      reportIdentity Placement.increasing
          ((exampleCellReport 5).withMemory fun _ => 0) ≠
        reportIdentity Placement.increasing
          ((exampleCellReport 5).withMemory fun _ => 255) := by
  decide

/-!
## Cells that the receiver tells apart
-/

theorem nrcgis_of_fill {p : Placement} {values : ODuContainerValues}
    {odu : ODUPFContainerT} (h : fillODuContainer p values = .ok odu) :
    odu.cellResourceReportList.map (fun item => item.nRCGI.content) =
      (values.cellResourceReportItems.iterate p.report).map fun r =>
        (nrcgi r).content := by
  rw [fillODuContainer_eq] at h
  rcases map_eq_ok_iff.mp h with ⟨crrlis, hcollect, rfl⟩
  apply map_of_collect _ hcollect
  intro r item hfill
  rw [fillCellReport_eq] at hfill
  rcases map_eq_ok_iff.mp hfill with ⟨sppcls, _, rfl⟩
  rfl

/-- What the identity of a cell retains of its number. -/
def CellResourceReport.retained (r : CellResourceReport) :
    List UInt8 × Nat :=
  (r.plmId.bytes, r.nrCellId.toNat % 4096)

theorem content_nrcgi_eq_iff {r r' : CellResourceReport}
    (hplmId : r.plmId.bytes.length = 3) (hplmId' : r'.plmId.bytes.length = 3)
    (hzero : r.beyondNrCellId = fun _ => 0)
    (hzero' : r'.beyondNrCellId = fun _ => 0) :
    (nrcgi r).content = (nrcgi r').content <-> r.retained = r'.retained := by
  have hread : r.plmId.read 3 = r.plmId.bytes := by
    rw [← hplmId, StdString.read_length]
  have hread' : r'.plmId.read 3 = r'.plmId.bytes := by
    rw [← hplmId', StdString.read_length]
  rw [content_nrcgi, content_nrcgi, hread, hread', hzero, hzero',
    Prod.mk.injEq, NrCellId.significant_eq_iff]
  exact Prod.mk.injEq _ _ _ _ |>.symm |> Iff.of_eq

/-- Two observations that tell the same members apart are repeated together. -/
theorem nodup_map_iff {f : item -> result} {g : item -> value}
    {xs : List item}
    (h : forall x, x ∈ xs -> forall y, y ∈ xs -> (f x = f y <-> g x = g y)) :
    (xs.map f).Nodup <-> (xs.map g).Nodup := by
  unfold List.Nodup
  rw [List.pairwise_map, List.pairwise_map]
  apply List.Pairwise.iff_of_mem
  intro x y hx hy
  exact not_congr (h x hx y hy)

/-- Cell reports get distinct identities exactly when those of one PLMN differ
in the lower twelve bits of the cell number. -/
theorem nrcgis_distinct_iff (p : Placement) (values : ODuContainerValues)
    (hplmId : forall r, r ∈ values.cellResourceReportItems.objects ->
      r.plmId.bytes.length = 3)
    (hzero : forall r, r ∈ values.cellResourceReportItems.objects ->
      r.beyondNrCellId = fun _ => 0) :
    (forall odu, fillODuContainer p values = .ok odu ->
        (odu.cellResourceReportList.map fun item => item.nRCGI.content).Nodup) <->
      (values.InRange ->
        (values.cellResourceReportItems.objects.map
          CellResourceReport.retained).Nodup) := by
  have hsame : ((values.cellResourceReportItems.iterate p.report).map
        fun r => (nrcgi r).content).Nodup <->
      (values.cellResourceReportItems.objects.map
        CellResourceReport.retained).Nodup := by
    rw [← ((RefSet.iterate_perm p.report
      values.cellResourceReportItems).map _).nodup_iff]
    apply nodup_map_iff
    intro r hr r' hr'
    have hmem := RefSet.mem_iterate.mp hr
    have hmem' := RefSet.mem_iterate.mp hr'
    exact content_nrcgi_eq_iff (hplmId r hmem) (hplmId r' hmem')
      (hzero r hmem) (hzero r' hmem')
  constructor
  · intro h hrange
    cases hfill : fillODuContainer p values with
    | error a =>
        exact absurd hrange ((fillODuContainer_error_iff p values).mp ⟨a, hfill⟩)
    | ok odu =>
        have hnodup := h odu hfill
        rw [nrcgis_of_fill hfill] at hnodup
        exact hsame.mp hnodup
  · intro h odu hfill
    have hrange : values.InRange := by
      by_contra hbad
      rcases (fillODuContainer_error_iff p values).mpr hbad with ⟨a, ha⟩
      rw [hfill] at ha
      cases ha
    rw [nrcgis_of_fill hfill]
    exact hsame.mpr (h hrange)

def exampleCells (first second : UInt16) : ODuContainerValues where
  cellResourceReportItems :=
    (RefSet.empty.insertNew (exampleCellReport first)).insertNew
      (exampleCellReport second)

theorem exampleCells_distinct :
    (forall odu,
        fillODuContainer Placement.increasing (exampleCells 1 2) = .ok odu ->
        (odu.cellResourceReportList.map fun item => item.nRCGI.content).Nodup) <->
      ((exampleCells 1 2).InRange ->
        ((exampleCells 1 2).cellResourceReportItems.objects.map
          CellResourceReport.retained).Nodup) :=
  nrcgis_distinct_iff Placement.increasing (exampleCells 1 2)
    (by decide) (by
      intro r hr
      rcases List.mem_cons.mp hr with rfl | hr
      · rfl
      · rw [List.mem_singleton.mp hr]
        rfl)

theorem exampleCells_confused :
    (forall r, r ∈ (exampleCells 0 4096).cellResourceReportItems.objects ->
        r.plmId.bytes.length = 3) ∧
      ((exampleCells 0 4096).cellResourceReportItems.objects.map fun r =>
        (r.plmId.bytes, r.nrCellId)).Nodup ∧
      exists odu,
        fillODuContainer Placement.increasing (exampleCells 0 4096) = .ok odu ∧
          ¬ (odu.cellResourceReportList.map fun item =>
            item.nRCGI.content).Nodup :=
  ⟨by decide, by decide, _, rfl, by decide⟩

end Kpm
end OranE2
