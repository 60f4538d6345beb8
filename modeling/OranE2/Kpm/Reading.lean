import OranE2.Kpm.Image
import OranE2.Kpm.Received

/-!
# Reading the O-DU container

This module embeds `readPfDuContainer` of the decoding example, which walks an
O-DU container level by level and prints what it finds.  The NR cell identity
is not read, and no 5GC container is ever filled.  The PLMN of a report is also
printed straight from its buffer, which only the decoder terminates: what is
read of a received container is compared with the values that the container was
filled from.
-/

namespace OranE2
namespace Kpm

open Library
open Asn1c

/-!
## The traversal
-/

inductive ReadFault where
  | nullPointer
  | beyondBuffer
  deriving DecidableEq, Repr

structure QciReading where
  qci : Int
  dlPrbUsage : Int
  ulPrbUsage : Int
  deriving DecidableEq, Repr

structure ServedPlmnReading where
  plmId : List UInt8
  perQciReports : Option (List QciReading)
  deriving DecidableEq, Repr

/-- What is printed for a cell resource report, with the PLMN from its buffer
and as a string. -/
structure ReportReading where
  bufPlmId : List UInt8
  plmId : List UInt8
  ulTotalOfAvailablePRBs : Int
  dlTotalOfAvailablePRBs : Int
  servedPlmns : List ServedPlmnReading
  deriving DecidableEq, Repr

/-- A pointer to bytes is printed as a C string. -/
def printBuffer (buf : List UInt8) : Except ReadFault (List UInt8) :=
  if 0 ∈ buf then .ok (cString buf) else .error .beyondBuffer

/-- `DecodeOctectString`.  The size is read into an `int`: octet strings are
below two gigabytes here. -/
def decodeOctectString (octetString : OctetStringT) : List UInt8 :=
  let out := octetString.buf.take octetString.size ++ [0]
  cString out

def readPerQciReportItem (perQCIReportItem : PerQCIReportListItemT) :
    Except ReadFault QciReading :=
  match perQCIReportItem.dlPRBUsage, perQCIReportItem.ulPRBUsage with
  | some dlPrbUsage, some ulPrbUsage =>
      .ok
        { qci := perQCIReportItem.qci
          dlPrbUsage := dlPrbUsage
          ulPrbUsage := ulPrbUsage }
  | none, _ => .error .nullPointer
  | some _, none => .error .nullPointer

def readServedPlmnPerCell (servedPlmnPerCell : ServedPlmnPerCellListItemT) :
    Except ReadFault ServedPlmnReading :=
  let plmId := decodeOctectString servedPlmnPerCell.pLMNIdentity
  match servedPlmnPerCell.duPMEPC with
  | none => .ok { plmId := plmId, perQciReports := none }
  | some epcDuPmContainer =>
      match collect readPerQciReportItem epcDuPmContainer.perQCIReportListDu with
      | .error e => .error e
      | .ok readings => .ok { plmId := plmId, perQciReports := some readings }

def readCellReport (report : CellResourceReportListItemT) :
    Except ReadFault ReportReading :=
  match printBuffer report.nRCGI.pLMNIdentity.buf with
  | .error e => .error e
  | .ok bufPlmId =>
      match report.ulTotalofAvailablePRBs, report.dlTotalofAvailablePRBs with
      | some ulTotalOfAvailablePRBs, some dlTotalOfAvailablePRBs =>
          match collect readServedPlmnPerCell report.servedPlmnPerCellList with
          | .error e => .error e
          | .ok servedPlmns =>
              .ok
                { bufPlmId := bufPlmId
                  plmId := decodeOctectString report.nRCGI.pLMNIdentity
                  ulTotalOfAvailablePRBs := ulTotalOfAvailablePRBs
                  dlTotalOfAvailablePRBs := dlTotalOfAvailablePRBs
                  servedPlmns := servedPlmns }
      | none, _ => .error .nullPointer
      | some _, none => .error .nullPointer

def readPfDuContainer (oDU : ODUPFContainerT) :
    Except ReadFault (List ReportReading) :=
  if oDU.cellResourceReportList.length ≤ 0 then
    -- An empty list is reported as an error and nothing is read.
    .ok []
  else
    collect readCellReport oDU.cellResourceReportList

theorem readPfDuContainer_eq_collect (oDU : ODUPFContainerT) :
    readPfDuContainer oDU =
      collect readCellReport oDU.cellResourceReportList := by
  unfold readPfDuContainer
  split
  · rename_i hempty
    rw [List.length_eq_zero_iff.mp (Nat.le_zero.mp hempty), collect_nil]
  · rfl

/-!
## Values that are given back
-/

structure ReadsQci (q : EpcDuPmContainer) (reading : QciReading) : Prop where
  qci : reading.qci = q.qci
  dlPrbUsage : reading.dlPrbUsage = q.dlPrbUsage
  ulPrbUsage : reading.ulPrbUsage = q.ulPrbUsage

structure ReadsServed (s : ServedPlmnPerCell) (reading : ServedPlmnReading) :
    Prop where
  plmn : reading.plmId = s.plmId.read 3
  reports : exists readings, reading.perQciReports = some readings ∧
    MirrorsSet ReadsQci s.perQciReportItems readings

structure ReadsReport (r : CellResourceReport) (reading : ReportReading) :
    Prop where
  bufPlmn : reading.bufPlmId = r.plmId.read 3
  plmn : reading.plmId = r.plmId.read 3
  dlPRBs : reading.dlTotalOfAvailablePRBs = r.dlAvailablePrbs
  ulPRBs : reading.ulTotalOfAvailablePRBs = r.ulAvailablePrbs
  served : MirrorsSet ReadsServed r.servedPlmnPerCellItems reading.servedPlmns

def ReadsBack (values : ODuContainerValues) (odu : ODUPFContainerT) : Prop :=
  exists readings, readPfDuContainer odu = .ok readings ∧
    MirrorsSet ReadsReport values.cellResourceReportItems readings

/-- The container is filled exactly from values in range, mirrors them, and
gives them back when it is read where it is received. -/
structure ContainerFaithful (p : Placement) (values : ODuContainerValues) :
    Prop where
  completes : (exists odu, fillODuContainer p values = .ok odu) <->
    values.InRange
  mirrors : forall odu, fillODuContainer p values = .ok odu ->
    MirrorsSet MirrorsReport values.cellResourceReportItems
      odu.cellResourceReportList
  readsBack : forall odu received, fillODuContainer p values = .ok odu ->
    ReceivedDu odu received -> ReadsBack values received

/-- No byte of the three that are copied for a PLMN is zero. -/
def PlainPlmn (plmId : StdString) : Prop :=
  0 ∉ plmId.read 3

structure CellResourceReport.PlainPlmns (r : CellResourceReport) : Prop where
  own : PlainPlmn r.plmId
  served : forall s, s ∈ r.servedPlmnPerCellItems.objects -> PlainPlmn s.plmId

def ODuContainerValues.PlainPlmns (values : ODuContainerValues) : Prop :=
  forall r, r ∈ values.cellResourceReportItems.objects -> r.PlainPlmns

/-!
## Received strings
-/

theorem decodeOctectString_eq (o : OctetStringT) :
    decodeOctectString o = o.octets.takeWhile fun b => b != 0 :=
  OctetString.decodeContent_eq { octetString := o }

theorem decodeOctectString_eq_octets_iff (o : OctetStringT) :
    decodeOctectString o = o.octets <-> 0 ∉ o.octets :=
  OctetString.decodeContent_eq_octets_iff { octetString := o }

section

variable {plmId : StdString} {sent received : OctetStringT}

theorem decodeOctectString_of_plain (hsent : sent.octets = plmId.read 3)
    (h : ReceivedOctets sent received) (hplain : PlainPlmn plmId) :
    decodeOctectString received = plmId.read 3 := by
  have hoctets := h.octets.trans hsent
  rw [← hoctets]
  apply (decodeOctectString_eq_octets_iff received).mpr
  rw [hoctets]
  exact hplain

theorem plain_of_decodeOctectString (hsent : sent.octets = plmId.read 3)
    (h : ReceivedOctets sent received)
    (hlength : (decodeOctectString received).length = 3) : PlainPlmn plmId := by
  have hoctets := h.octets.trans hsent
  have hall : decodeOctectString received = received.octets := by
    rw [decodeOctectString_eq] at hlength ⊢
    apply (List.takeWhile_prefix _).eq_of_length
    rw [hlength, hoctets, StdString.length_read]
  have hzero := (decodeOctectString_eq_octets_iff received).mp hall
  rw [hoctets] at hzero
  exact hzero

/-- The terminated buffer prints like the string. -/
theorem printBuffer_of_received (h : ReceivedOctets sent received) :
    printBuffer received.buf = .ok (decodeOctectString received) := by
  rcases h.buf with ⟨rest, hbuf⟩
  have hzero : 0 ∈ received.buf := by
    rw [hbuf]
    exact List.mem_append_right _ List.mem_cons_self
  unfold printBuffer
  rw [if_pos hzero, hbuf, cString_append_zero, decodeOctectString_eq, h.octets]

end

theorem mirrorsSet_received {mirrors : item -> entry -> Prop}
    {received : entry -> entry -> Prop} {s : RefSet item}
    {entries entries' : List entry} (h : MirrorsSet mirrors s entries)
    (hreceived : List.Forall₂ received entries entries') :
    MirrorsSet (fun x y' => exists y, mirrors x y ∧ received y y') s
      entries' := by
  rcases h with ⟨members, hperm, hall⟩
  exact ⟨members, hperm, forall₂_comp hall hreceived⟩

/-!
## The traversal of a received container
-/

theorem collect_of_mirrors {mirrors : item -> entry -> Prop}
    {reads : item -> reading -> Prop}
    {read : entry -> Except ReadFault reading} {s : RefSet item}
    {entries : List entry}
    (hread : forall x, x ∈ s.objects -> forall y, mirrors x y ->
      exists z, read y = .ok z ∧ reads x z)
    (h : MirrorsSet mirrors s entries) :
    exists readings, collect read entries = .ok readings ∧
      MirrorsSet reads s readings := by
  rcases h with ⟨members, hperm, hall⟩
  have hmembers : forall x, x ∈ members -> forall y, mirrors x y ->
      exists z, read y = .ok z ∧ reads x z :=
    fun x hx => hread x (hperm.mem_iff.mp hx)
  suffices hlist : exists readings, collect read entries = .ok readings ∧
      List.Forall₂ reads members readings by
    rcases hlist with ⟨readings, hcollect, hreads⟩
    exact ⟨readings, hcollect, members, hperm, hreads⟩
  clear hperm
  induction hall with
  | nil => exact ⟨[], collect_nil, List.Forall₂.nil⟩
  | cons hxy _ ih =>
      rcases hmembers _ List.mem_cons_self _ hxy with ⟨z, hz, hreads⟩
      rcases ih fun x hx => hmembers x (List.mem_cons_of_mem _ hx) with
        ⟨zs, hzs, hrest⟩
      refine ⟨z :: zs, ?_, List.Forall₂.cons hreads hrest⟩
      rw [collect_cons_ok hz, hzs]
      rfl

theorem readPerQciReportItem_of_mirrors {q : EpcDuPmContainer}
    {item : PerQCIReportListItemT} (h : MirrorsQci q item) :
    exists reading, readPerQciReportItem item = .ok reading ∧
      ReadsQci q reading := by
  unfold readPerQciReportItem
  rw [h.dlPRBUsage, h.ulPRBUsage]
  exact ⟨_, rfl, h.qci, rfl, rfl⟩

theorem readServedPlmnPerCell_of_received {s : ServedPlmnPerCell}
    {item item' : ServedPlmnPerCellListItemT} (h : MirrorsServed s item)
    (hreceived : ReceivedServed item item') (hplain : PlainPlmn s.plmId) :
    exists reading, readServedPlmnPerCell item' = .ok reading ∧
      ReadsServed s reading := by
  rcases h.reports with ⟨format, hformat, hreports⟩
  rcases collect_of_mirrors
      (fun _ _ _ hxy => readPerQciReportItem_of_mirrors hxy) hreports with
    ⟨readings, hcollect, hreads⟩
  have hplmn := decodeOctectString_of_plain h.plmn hreceived.plmn hplain
  unfold readServedPlmnPerCell
  rw [hreceived.reports, hformat]
  dsimp only
  rw [hcollect]
  exact ⟨_, rfl, hplmn, readings, rfl, hreads⟩

theorem readCellReport_of_received {r : CellResourceReport}
    {item item' : CellResourceReportListItemT} (h : MirrorsReport r item)
    (hreceived : ReceivedReport item item') (hplain : r.PlainPlmns) :
    exists reading, readCellReport item' = .ok reading ∧
      ReadsReport r reading := by
  have hread : forall s, s ∈ r.servedPlmnPerCellItems.objects ->
      forall y', (exists y, MirrorsServed s y ∧ ReceivedServed y y') ->
        exists reading, readServedPlmnPerCell y' = .ok reading ∧
          ReadsServed s reading := by
    intro s hs y' hy'
    rcases hy' with ⟨y, hy, hyy'⟩
    exact readServedPlmnPerCell_of_received hy hyy' (hplain.served s hs)
  rcases collect_of_mirrors hread
      (mirrorsSet_received h.served hreceived.served) with
    ⟨readings, hcollect, hreads⟩
  have hplmn := decodeOctectString_of_plain h.plmn hreceived.plmn hplain.own
  unfold readCellReport
  rw [printBuffer_of_received hreceived.plmn, hreceived.ulPRBs,
    hreceived.dlPRBs, h.ulPRBs, h.dlPRBs]
  dsimp only
  rw [hcollect]
  exact ⟨_, rfl, hplmn, hplmn, rfl, rfl, hreads⟩

theorem readsBack_of_plain {p : Placement} {values : ODuContainerValues}
    {odu received : ODUPFContainerT}
    (hfill : fillODuContainer p values = .ok odu)
    (hreceived : ReceivedDu odu received) (hplain : values.PlainPlmns) :
    ReadsBack values received := by
  unfold ReadsBack
  rw [readPfDuContainer_eq_collect]
  refine collect_of_mirrors ?_
    (mirrorsSet_received (fillODuContainer_mirrors hfill) hreceived)
  intro r hr y' hy'
  rcases hy' with ⟨y, hy, hyy'⟩
  exact readCellReport_of_received hy hyy' (hplain r hr)

/-!
## What a reading tells about the values
-/

theorem exists_entry {mirrors : item -> entry -> Prop} {s : RefSet item}
    {entries : List entry} (h : MirrorsSet mirrors s entries) {x : item}
    (hx : x ∈ s.objects) : exists y, y ∈ entries ∧ mirrors x y := by
  rcases h with ⟨members, hperm, hall⟩
  exact exists_right_of_forall₂ hall (hperm.mem_iff.mpr hx)

theorem exists_member {mirrors : item -> entry -> Prop} {s : RefSet item}
    {entries : List entry} (h : MirrorsSet mirrors s entries) {y : entry}
    (hy : y ∈ entries) : exists x, x ∈ s.objects ∧ mirrors x y := by
  rcases h with ⟨members, hperm, hall⟩
  rcases exists_left_of_forall₂ hall hy with ⟨x, hx, hxy⟩
  exact ⟨x, hperm.mem_iff.mp hx, hxy⟩

theorem exists_reading {read : entry -> Except ReadFault reading}
    {entries : List entry} {readings : List reading}
    (h : collect read entries = .ok readings) {y : entry} (hy : y ∈ entries) :
    exists z, z ∈ readings ∧ read y = .ok z :=
  exists_right_of_forall₂ (collect_eq_ok_iff.mp h) hy

theorem readCellReport_eq_ok {item : CellResourceReportListItemT}
    {reading : ReportReading} (h : readCellReport item = .ok reading) :
    reading.plmId = decodeOctectString item.nRCGI.pLMNIdentity ∧
      collect readServedPlmnPerCell item.servedPlmnPerCellList =
        .ok reading.servedPlmns := by
  unfold readCellReport at h
  split at h
  · cases h
  · split at h
    · split at h
      · cases h
      · rename_i hcollect
        cases h
        exact ⟨rfl, hcollect⟩
    · cases h
    · cases h

theorem readServedPlmnPerCell_plmId {item : ServedPlmnPerCellListItemT}
    {reading : ServedPlmnReading}
    (h : readServedPlmnPerCell item = .ok reading) :
    reading.plmId = decodeOctectString item.pLMNIdentity := by
  unfold readServedPlmnPerCell at h
  dsimp only at h
  split at h
  · cases h
    rfl
  · split at h
    · cases h
    · cases h
      rfl

theorem plain_of_readsBack {p : Placement} {values : ODuContainerValues}
    {odu received : ODUPFContainerT}
    (hfill : fillODuContainer p values = .ok odu)
    (hreceived : ReceivedDu odu received) (h : ReadsBack values received) :
    values.PlainPlmns := by
  rcases h with ⟨readings, hread, hreads⟩
  rw [readPfDuContainer_eq_collect] at hread
  intro r hr
  rcases exists_entry (mirrorsSet_received (fillODuContainer_mirrors hfill)
    hreceived) hr with ⟨entry', hentry', entry, hreport, hreceivedReport⟩
  rcases exists_reading hread hentry' with ⟨cell, hcell, hcellRead⟩
  rcases readCellReport_eq_ok hcellRead with ⟨hplmId, hcollect⟩
  -- The reading stands for some report, whose copies have three bytes.
  rcases exists_member hreads hcell with ⟨r', _, hr'⟩
  constructor
  · apply plain_of_decodeOctectString hreport.plmn hreceivedReport.plmn
    rw [← hplmId, hr'.plmn, StdString.length_read]
  · intro s hs
    rcases exists_entry (mirrorsSet_received hreport.served
      hreceivedReport.served) hs with
      ⟨item', hitem', item, hserved, hreceivedServed⟩
    rcases exists_reading hcollect hitem' with
      ⟨served, hservedMem, hservedRead⟩
    rcases exists_member hr'.served hservedMem with ⟨s', _, hs'⟩
    apply plain_of_decodeOctectString hserved.plmn hreceivedServed.plmn
    rw [← readServedPlmnPerCell_plmId hservedRead, hs'.plmn,
      StdString.length_read]

theorem fillODuContainer_ok_iff (p : Placement) (values : ODuContainerValues) :
    (exists odu, fillODuContainer p values = .ok odu) <-> values.InRange := by
  constructor
  · intro h
    rcases h with ⟨odu, hfill⟩
    by_contra hbad
    rcases (fillODuContainer_error_iff p values).mpr hbad with ⟨a, ha⟩
    rw [hfill] at ha
    cases ha
  · intro hrange
    exact exists_ok_of_not_error fun herror =>
      (fillODuContainer_error_iff p values).mp herror hrange

theorem container_faithful_iff (p : Placement) (values : ODuContainerValues) :
    ContainerFaithful p values <-> (values.InRange -> values.PlainPlmns) := by
  constructor
  · intro h hrange
    rcases h.completes.mpr hrange with ⟨odu, hfill⟩
    have hreceived := receivedDu_received odu
    exact plain_of_readsBack hfill hreceived
      (h.readsBack odu odu.received hfill hreceived)
  · intro hplain
    have hcompletes := fillODuContainer_ok_iff p values
    refine ⟨hcompletes, fun odu hfill => fillODuContainer_mirrors hfill, ?_⟩
    intro odu received hfill hreceived
    exact readsBack_of_plain hfill hreceived
      (hplain (hcompletes.mp ⟨odu, hfill⟩))

def oneServedPlmn (plmn : List UInt8) : ODuContainerValues where
  cellResourceReportItems := RefSet.empty.insertNew
    { plmId := StdString.ofBytes [49, 49, 49]
      nrCellId := 2
      beyondNrCellId := fun _ => 0
      dlAvailablePrbs := 6
      ulAvailablePrbs := 6
      servedPlmnPerCellItems := RefSet.empty.insertNew
        { plmId := StdString.ofBytes plmn
          perQciReportItems := RefSet.empty } }

/-- The PLMN 001 01, whose first byte is zero, is not given back. -/
theorem testPlmn_not_given_back :
    (oneServedPlmn [0, 241, 16]).InRange ∧
      ¬ ContainerFaithful Placement.increasing
        (oneServedPlmn [0, 241, 16]) := by
  have hrange : (oneServedPlmn [0, 241, 16]).InRange := by
    intro r hr s hs q hq
    cases List.mem_singleton.mp hr
    cases List.mem_singleton.mp hs
    cases hq
  refine ⟨hrange, ?_⟩
  intro h
  rcases h.completes.mpr hrange with ⟨odu, hfill⟩
  have hreceived := receivedDu_received odu
  have hplain := (plain_of_readsBack hfill hreceived
    (h.readsBack odu odu.received hfill hreceived) _
      List.mem_cons_self).served _ List.mem_cons_self
  exact hplain (show (0 : UInt8) ∈ [0, 241, 16] from List.mem_cons_self)

-- In place, the buffer of the PLMN ends after its three bytes.
example : (fillODuContainer Placement.increasing
      (oneServedPlmn [49, 49, 49])).toOption.map readPfDuContainer =
    some (.error .beyondBuffer) := by
  rfl

end Kpm
end OranE2
