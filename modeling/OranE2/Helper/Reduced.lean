import OranE2.Helper.Contents
import OranE2.Helper.Guards
import OranE2.Kpm.Image

/-!
# The reduced mode as a filter

A helper in the reduced mode holds what the same helper in the full mode would
hold after its measurement items have been filtered by name.  The filter is a
function on helpers that every operation commutes with.
-/

namespace OranE2
namespace Helper

open Library
open Library.PartialRun
open Asn1c
open Kpm

def retainedNames : List (List UInt8) :=
  [literal "DRB.UEThpDl.UEID",
    literal "HO.SrcCellQual.RS-SINR.UEID",
    literal "HO.TrgtCellQual.RS-SINR.UEID",
    literal "TB.TotNbrDlInitial.Qpsk",
    literal "TB.TotNbrDlInitial.16Qam",
    literal "TB.TotNbrDlInitial.64Qam",
    literal "RRU.PrbUsedDl",
    literal "DRB.MeanActiveUeDl"]

def retain (l : MeasurementItemList) : MeasurementItemList :=
  { l with
    items := l.items.filter fun item =>
      item.measName.octets ∈ retainedNames }

/-!
## The lists of one operation
-/

def AllRetained (calls : List (List UInt8 × MeasurementValue)) : Prop :=
  forall name, name ∈ calls.map Prod.fst -> name ∈ retainedNames

def NoneRetained (calls : List (List UInt8 × MeasurementValue)) : Prop :=
  forall name, name ∈ calls.map Prod.fst -> name ∉ retainedNames

theorem octets_new (name : List UInt8) (value : MeasurementValue) :
    (MeasurementItem.new name value).measName.octets = name :=
  List.take_length

theorem filter_allRetained {calls : List (List UInt8 × MeasurementValue)}
    (h : AllRetained calls) :
    (calls.map fun call => MeasurementItem.new call.1 call.2).filter
        (fun item => item.measName.octets ∈ retainedNames) =
      calls.map fun call => MeasurementItem.new call.1 call.2 := by
  apply List.filter_eq_self.mpr
  intro item hitem
  rcases List.mem_map.mp hitem with ⟨call, hcall, rfl⟩
  apply decide_eq_true
  rw [octets_new]
  exact h call.1 (List.mem_map_of_mem hcall)

theorem filter_noneRetained {calls : List (List UInt8 × MeasurementValue)}
    (h : NoneRetained calls) :
    (calls.map fun call => MeasurementItem.new call.1 call.2).filter
        (fun item => item.measName.octets ∈ retainedNames) = [] := by
  apply List.filter_eq_nil_iff.mpr
  intro item hitem
  rcases List.mem_map.mp hitem with ⟨call, hcall, rfl⟩
  rw [octets_new]
  exact fun hmem =>
    h call.1 (List.mem_map_of_mem hcall) (of_decide_eq_true hmem)

theorem retain_ueList {ueImsiComplete : List UInt8}
    {full both : List (List UInt8 × MeasurementValue)}
    (hfull : NoneRetained full) (hboth : AllRetained both) :
    retain (ueList false ueImsiComplete full both) =
      ueList true ueImsiComplete full both := by
  apply MeasurementItemList.ext
  · exact (id_ueList false _ _ _).trans (id_ueList true _ _ _).symm
  · show (ueList false ueImsiComplete full both).items.filter _ = _
    rw [items_ueList, items_ueList, List.map_append, List.map_append,
      List.filter_append, if_neg Bool.false_ne_true, if_pos rfl,
      filter_noneRetained hfull, filter_allRetained hboth]
    rfl

theorem retain_cellList {front middle further last
      : List (List UInt8 × MeasurementValue)}
    (hfront : NoneRetained front) (hmiddle : AllRetained middle)
    (hfurther : NoneRetained further) (hlast : AllRetained last) :
    retain (cellList false front middle further last) =
      cellList true front middle further last := by
  apply MeasurementItemList.ext
  · exact (id_cellList false _ _ _ _).trans (id_cellList true _ _ _ _).symm
  · show (cellList false front middle further last).items.filter _ = _
    rw [items_cellList, items_cellList]
    simp only [if_neg Bool.false_ne_true, if_pos, List.map_append,
      List.filter_append, filter_noneRetained hfront,
      filter_allRetained hmiddle, filter_noneRetained hfurther,
      filter_allRetained hlast, List.map_nil]

/-!
## Effects
-/

/-- The effect in the reduced mode of what has an effect in the full mode.  No
list that an LTE helper sets for the cell has a retained item, and none is set
in the reduced mode. -/
def Effect.reduce (c : HelperClass) : Effect -> Effect
  | .insertUe ueVal => .insertUe (retain ueVal)
  | .setCell cellVal =>
      match c with
      | .lte => .nothing
      | .mmWave => .setCell (retain cellVal)
  | e => e

theorem lteEffect_reduce (op : LteOperation) :
    (op.effect false).reduce .lte = op.effect true := by
  have hnil : AllRetained [] := by
    intro name hname
    cases hname
  cases op with
  | addCuUpUePmItem ueImsiComplete txBytes txDlPackets pdcpThroughput
      pdcpLatency =>
      refine congrArg Effect.insertUe (retain_ueList ?_ hnil)
      simp only [NoneRetained, List.map_cons, List.map_nil]
      decide +kernel
  | addCuUpCellPmItem cellAverageLatency => rfl
  | fillCuUpValues plmId pdcpBytesUl pdcpBytesDl => rfl
  | fillCuCpValues numActiveUes => rfl
  | addCuCpUePmItem ueImsiComplete numDrb drbRelAct =>
      refine congrArg Effect.insertUe (retain_ueList ?_ hnil)
      simp only [NoneRetained, cuCpFullItems, List.map_cons, List.map_nil]
      decide +kernel

theorem mmWaveEffect_reduce (ceil : Ceiling) (op : MmWaveOperation) :
    (op.effect ceil false).reduce .mmWave = op.effect ceil true := by
  have hnil : AllRetained [] := by
    intro name hname
    cases hname
  cases op with
  | addCuUpUePmItem ueImsiComplete txPdcpPduBytesNrRlc txPdcpPduNrRlc =>
      refine congrArg Effect.insertUe (retain_ueList ?_ hnil)
      simp only [NoneRetained, List.map_cons, List.map_nil]
      decide +kernel
  | fillCuUpValues plmId => rfl
  | fillCuCpValues numActiveUes => rfl
  | fillDuValues cellObjectId => rfl
  | addDuUePmItem ueImsiComplete m =>
      refine congrArg Effect.insertUe (retain_ueList ?_ ?_)
      · simp only [NoneRetained,
          MmWaveIndicationMessageHelper.duUeFullItems, List.map_cons,
          List.map_nil]
        decide +kernel
      · simp only [AllRetained, List.map_cons, List.map_nil]
        decide +kernel
  | addDuCellPmItem m =>
      refine congrArg Effect.setCell (retain_cellList ?_ ?_ ?_ ?_)
      · simp only [NoneRetained,
          MmWaveIndicationMessageHelper.duCellFullTotals, List.map_cons,
          List.map_nil]
        decide +kernel
      · simp only [AllRetained, duCellItems, List.map_cons, List.map_nil]
        decide +kernel
      · simp only [NoneRetained,
          MmWaveIndicationMessageHelper.duCellFullItems, List.map_cons,
          List.map_nil]
        decide +kernel
      · simp only [AllRetained, List.map_cons, List.map_nil]
        decide +kernel
  | addDuCellResRepPmItem cellResRep => rfl
  | addCuCpUePmItem ueImsiComplete numDrb drbRelAct l3RrcMeasurementServing
      l3RrcMeasurementNeigh =>
      refine congrArg Effect.insertUe (retain_ueList ?_ ?_)
      · simp only [NoneRetained, cuCpFullItems, List.map_cons, List.map_nil]
        decide +kernel
      · simp only [AllRetained, List.map_cons, List.map_nil]
        decide +kernel

theorem effect_reduce (ceil : Ceiling) (op : Operation c) :
    (effect ceil false op).reduce c = effect ceil true op := by
  cases c with
  | lte => exact lteEffect_reduce op
  | mmWave => exact mmWaveEffect_reduce ceil op

/-!
## Helpers
-/

def IndicationMessageHelper.reduce (c : HelperClass)
    (h : IndicationMessageHelper) : IndicationMessageHelper :=
  { h with
    reducedPmValues := true
    msgValues :=
      { h.msgValues with
        cellMeasurementItems :=
          match c with
          | .lte => none
          | .mmWave => h.msgValues.cellMeasurementItems.map retain
        ueIndications := h.msgValues.ueIndications.map retain } }

def Outcome.map (f : IndicationMessageHelper -> IndicationMessageHelper) :
    Outcome -> Outcome
  | .completed h => .completed (f h)
  | .aborted message h => .aborted message (f h)
  | .fault => .fault

theorem helper?_map (f : IndicationMessageHelper -> IndicationMessageHelper)
    (outcome : Outcome) : (outcome.map f).helper? = outcome.helper?.map f := by
  cases outcome <;> rfl

theorem fillBaseCuUpValues_reduce (c : HelperClass)
    (h : IndicationMessageHelper) (plmId : StdString) :
    (h.reduce c).fillBaseCuUpValues plmId =
      (h.fillBaseCuUpValues plmId).map
        (IndicationMessageHelper.reduce c) := by
  by_cases htype : h.type = .cuUp
  · cases hvalues : h.cuUpValues with
    | none =>
        rw [fillBaseCuUpValues_null htype hvalues]
        exact fillBaseCuUpValues_null (h := h.reduce c) htype hvalues plmId
    | some v =>
        rw [fillBaseCuUpValues_own htype hvalues]
        exact fillBaseCuUpValues_own (h := h.reduce c) htype hvalues plmId
  · rw [fillBaseCuUpValues_foreign htype]
    exact fillBaseCuUpValues_foreign (h := h.reduce c) htype plmId

theorem lteFillCuUpValues_reduce (c : HelperClass)
    (h : IndicationMessageHelper) (plmId : StdString)
    (pdcpBytesUl pdcpBytesDl : Int) :
    LteIndicationMessageHelper.fillCuUpValues (h.reduce c) plmId pdcpBytesUl
        pdcpBytesDl =
      (LteIndicationMessageHelper.fillCuUpValues h plmId pdcpBytesUl
        pdcpBytesDl).map (IndicationMessageHelper.reduce c) := by
  cases hvalues : h.cuUpValues with
  | none =>
      rw [lteFillCuUpValues_null hvalues]
      exact lteFillCuUpValues_null (h := h.reduce c) hvalues plmId
        pdcpBytesUl pdcpBytesDl
  | some v =>
      unfold LteIndicationMessageHelper.fillCuUpValues
      rw [hvalues, show (h.reduce c).cuUpValues = some v from hvalues]
      exact fillBaseCuUpValues_reduce c
        { h with
          cuUpValues := some
            { v with
              pDCPBytesUL := pdcpBytesUl
              pDCPBytesDL := pdcpBytesDl } } plmId

theorem fillBaseCuCpValues_reduce (c : HelperClass)
    (h : IndicationMessageHelper) (numActiveUes : UInt16) :
    (h.reduce c).fillBaseCuCpValues numActiveUes =
      (h.fillBaseCuCpValues numActiveUes).map
        (IndicationMessageHelper.reduce c) := by
  by_cases htype : h.type = .cuCp
  · cases hvalues : h.cuCpValues with
    | none =>
        rw [fillBaseCuCpValues_null htype hvalues]
        exact fillBaseCuCpValues_null (h := h.reduce c) htype hvalues
          numActiveUes
    | some v =>
        rw [fillBaseCuCpValues_own htype hvalues]
        exact fillBaseCuCpValues_own (h := h.reduce c) htype hvalues
          numActiveUes
  · rw [fillBaseCuCpValues_foreign htype]
    exact fillBaseCuCpValues_foreign (h := h.reduce c) htype numActiveUes

theorem insertUe_reduce (c : HelperClass) (h : IndicationMessageHelper)
    (ueVal : MeasurementItemList) :
    (h.reduce c).insertUe (retain ueVal) = (h.insertUe ueVal).reduce c := by
  have hinsert := RefSet.map_insertNew retain h.msgValues.ueIndications ueVal
  unfold IndicationMessageHelper.insertUe IndicationMessageHelper.reduce
  rw [hinsert]

theorem apply_reduce (c : HelperClass) (h : IndicationMessageHelper)
    (e : Effect) :
    (e.reduce c).apply (h.reduce c) =
      (e.apply h).map (IndicationMessageHelper.reduce c) := by
  cases e with
  | fillCuUp plmId => exact fillBaseCuUpValues_reduce c h plmId
  | fillCuUpBytes plmId pdcpBytesUl pdcpBytesDl =>
      exact lteFillCuUpValues_reduce c h plmId pdcpBytesUl pdcpBytesDl
  | fillCuCp numActiveUes => exact fillBaseCuCpValues_reduce c h numActiveUes
  | fillDu cellObjectId => rfl
  | insertUe ueVal =>
      exact congrArg Outcome.completed (insertUe_reduce c h ueVal)
  | setCell cellVal => cases c <;> rfl
  | insertReport cellResRep =>
      show MmWaveIndicationMessageHelper.addDuCellResRepPmItem (h.reduce c)
        cellResRep = _
      cases hvalues : h.duValues with
      | none =>
          rw [Effect.apply, addDuCellResRepPmItem_null hvalues]
          exact addDuCellResRepPmItem_null (h := h.reduce c) hvalues cellResRep
      | some v =>
          rw [Effect.apply, addDuCellResRepPmItem_own hvalues]
          exact addDuCellResRepPmItem_own (h := h.reduce c) hvalues cellResRep
  | nothing => rfl

theorem step_reduce (ceil : Ceiling) {h : IndicationMessageHelper}
    (hfull : h.reducedPmValues = false) (op : Operation c) :
    step ceil (h.reduce c) op =
      (step ceil h op).map (IndicationMessageHelper.reduce c) := by
  rw [step_eq_apply, step_eq_apply, hfull]
  show (effect ceil true op).apply (h.reduce c) = _
  rw [← effect_reduce, apply_reduce]

theorem run_reduce (ceil : Ceiling) {h : IndicationMessageHelper}
    (hfull : h.reducedPmValues = false) (ops : List (Operation c)) :
    Option.Rel
      (fun full reduced =>
        full.reducedPmValues = false ∧ reduced = full.reduce c)
      (runOperations ceil h ops) (runOperations ceil (h.reduce c) ops) := by
  refine run_related ?_ ⟨hfull, rfl⟩ ops
  intro s t op hall
  rcases hall with ⟨hmode, rfl⟩
  rw [step_reduce ceil hmode op, helper?_map]
  cases hstep : (step ceil s op).helper? with
  | none => exact Option.Rel.none
  | some s' =>
      have hkind := sameKind_of_yields (step_yields hstep)
      exact Option.Rel.some ⟨hkind.reducedPmValues.trans hmode, rfl⟩

theorem baseNew_reduce (c : HelperClass) (type : IndicationMessageType)
    (offline : Bool) :
    (IndicationMessageHelper.new type offline false).reduce c =
      IndicationMessageHelper.new type offline true := by
  cases c <;> cases offline <;> cases type <;> rfl

theorem retain_lteCell {ceil : Ceiling} {type : IndicationMessageType}
    {offline : Bool} {h : IndicationMessageHelper}
    {ops : List (Operation .lte)} {l : MeasurementItemList}
    (hrun : runOperations ceil
      (IndicationMessageHelper.new type offline false) ops = some h)
    (hl : h.msgValues.cellMeasurementItems = some l) :
    (retain l).items = [] := by
  rcases exists_cellVal_of_run hrun hl with ⟨op, _, hcellVal⟩
  cases op with
  | addCuUpCellPmItem cellAverageLatency =>
      have hnil : AllRetained [] := by
        intro name hname
        cases hname
      have hnone : NoneRetained [] := by
        intro name hname
        cases hname
      have hfront : NoneRetained [(literal "DRB.PdcpSduDelayDl",
          MeasurementValue.valueReal cellAverageLatency)] := by
        simp only [NoneRetained, List.map_cons, List.map_nil]
        decide +kernel
      rw [← Option.some.inj hcellVal, retain_cellList hfront hnil hnone hnil]
      rfl
  | _ => cases hcellVal

/-!
## Messages
-/

def retainInfos (infos : List PMInfoItemT) : List PMInfoItemT :=
  infos.filter fun info => info.measName.octets ∈ retainedNames

def retainEntry (entry : PerUEPMItemT) : PerUEPMItemT :=
  { entry with
    listOfPMInformation := entry.listOfPMInformation.map retainInfos }

theorem getPointer_retain (l : MeasurementItemList) :
    (retain l).items.map MeasurementItem.getPointer =
      retainInfos (l.items.map MeasurementItem.getPointer) := by
  unfold retainInfos
  rw [List.filter_map]
  rfl

theorem fillPerUE_retain (ue : MeasurementItemList) :
    fillPerUE (retain ue) = (fillPerUE ue).map retainEntry := by
  unfold fillPerUE MeasurementItemList.getId
  rw [show (retain ue).id = ue.id from rfl]
  cases ue.id with
  | none => rfl
  | some id =>
      show Except.ok (PerUEPMItemT.mk id.getValue
        (some ((retain ue).items.map MeasurementItem.getPointer))) = _
      rw [getPointer_retain]
      rfl

/-- The objects that reports are made of lie at the same addresses. -/
structure SameReports (p p' : Placement) : Prop where
  report : p.report = p'.report
  served : p.served = p'.served
  qci : p.qci = p'.qci

theorem fillPmContainer_sameReports {p p' : Placement}
    (h : SameReports p p') (container : Option PmContainerValues) :
    fillPmContainer p container = fillPmContainer p' container := by
  rcases h with ⟨hreport, hserved, hqci⟩
  have hplmn : fillServedPlmnCell p = fillServedPlmnCell p' := by
    funext s
    unfold fillServedPlmnCell
    rw [hqci]
  have hcell : fillCellReport p = fillCellReport p' := by
    funext r
    unfold fillCellReport
    rw [hserved, hplmn]
  have hdu : fillODuContainer p = fillODuContainer p' := by
    funext values
    unfold fillODuContainer
    rw [hreport, hcell]
  unfold fillPmContainer
  rw [hdu]

/-- The second message is the first one with the items filtered by name, an
absent list of the cell counting as empty. -/
structure FilteredMessage (full reduced : E2smKpmIndicationMessageFormat1T) :
    Prop where
  pmContainers : reduced.pmContainers = full.pmContainers
  cellObjectID : reduced.cellObjectID = full.cellObjectID
  cellItems : reduced.listOfPMInformation.getD [] =
    retainInfos (full.listOfPMInformation.getD [])
  matchedUEs : Option.Rel
    (fun entries entries' => entries'.Perm (entries.map retainEntry))
    full.listOfMatchedUEs reduced.listOfMatchedUEs

theorem perUE_retain {address address' : Nat -> Nat}
    {s : RefSet MeasurementItemList} {entries entries' : List PerUEPMItemT}
    (h : collect fillPerUE (s.iterate address) = .ok entries)
    (h' : collect fillPerUE ((s.map retain).iterate address') = .ok entries') :
    entries'.Perm (entries.map retainEntry) ∧
      (address = address' -> entries' = entries.map retainEntry) := by
  rw [RefSet.iterate_map, collect_map fillPerUE_retain] at h'
  rcases map_eq_ok_iff.mp h' with ⟨mid, hmid, rfl⟩
  constructor
  · apply List.Perm.map
    exact collect_perm (RefSet.iterate_perm_iterate address' address s) hmid h
  · intro hsame
    rw [hsame, hmid] at h
    rw [Except.ok.inj h]

theorem cellItems_reduce {c : HelperClass} {h : IndicationMessageHelper}
    (hcell : c = .lte -> forall l,
      h.msgValues.cellMeasurementItems = some l -> (retain l).items = []) :
    ((h.reduce c).msgValues.cellMeasurementItems.map fun l =>
        l.items.map MeasurementItem.getPointer).getD [] =
      retainInfos ((h.msgValues.cellMeasurementItems.map fun l =>
        l.items.map MeasurementItem.getPointer).getD []) := by
  cases c with
  | lte =>
      show [] = _
      cases hlist : h.msgValues.cellMeasurementItems with
      | none => rfl
      | some l =>
          show [] = retainInfos (l.items.map MeasurementItem.getPointer)
          rw [← getPointer_retain, hcell rfl l hlist]
          rfl
  | mmWave =>
      show ((h.msgValues.cellMeasurementItems.map retain).map _).getD [] = _
      cases h.msgValues.cellMeasurementItems with
      | none => rfl
      | some l => exact getPointer_retain l

theorem message_reduce {p p' : Placement} (hreports : SameReports p p')
    {c : HelperClass} {h : IndicationMessageHelper}
    (hcell : c = .lte -> forall l,
      h.msgValues.cellMeasurementItems = some l -> (retain l).items = [])
    {full reduced : E2smKpmIndicationMessageFormat1T}
    (hfull : h.createIndicationMessage p = .ok full)
    (hreduced : (h.reduce c).createIndicationMessage p' = .ok reduced) :
    FilteredMessage full reduced ∧
      (p.ue = p'.ue -> reduced.listOfMatchedUEs =
        full.listOfMatchedUEs.map (List.map retainEntry)) := by
  rcases fillAndEncode_cases hfull with ⟨pf, entries, hpm, hues, rfl⟩
  rcases fillAndEncode_cases hreduced with ⟨pf', entries', hpm', hues', rfl⟩
  rcases perUE_retain hues hues' with ⟨hperm, hsame⟩
  have hpf : pf' = pf := by
    rw [fillPmContainer_sameReports hreports] at hpm
    exact Except.ok.inj (hpm'.symm.trans hpm)
  have hnil : (h.reduce c).values.ueIndications.objects = [] <->
      h.values.ueIndications.objects = [] := by
    show (h.msgValues.ueIndications.map retain).objects = [] <-> _
    rw [RefSet.objects_map, List.map_eq_nil_iff]
    rfl
  by_cases hempty : h.values.ueIndications.objects = []
  · have hempty' := hnil.mpr hempty
    refine ⟨⟨congrArg (fun x => [x]) hpf, rfl, cellItems_reduce hcell, ?_⟩, ?_⟩
    · dsimp only
      rw [if_pos hempty, if_pos hempty']
      exact Option.Rel.none
    · intro _
      dsimp only
      rw [if_pos hempty, if_pos hempty']
      rfl
  · have hempty' := fun h' => hempty (hnil.mp h')
    refine ⟨⟨congrArg (fun x => [x]) hpf, rfl, cellItems_reduce hcell, ?_⟩, ?_⟩
    · dsimp only
      rw [if_neg hempty, if_neg hempty']
      exact Option.Rel.some hperm
    · intro haddress
      dsimp only
      rw [if_neg hempty, if_neg hempty', hsame haddress]
      rfl

theorem buildable_reduce {c : HelperClass} {h : IndicationMessageHelper} :
    Buildable (h.reduce c).values <-> Buildable h.values := by
  have hnamed : AllNamed (h.reduce c).values.ueIndications <->
      AllNamed h.values.ueIndications := by
    unfold AllNamed
    show (forall ue, ue ∈ (h.msgValues.ueIndications.map retain).objects ->
      ue.id ≠ none) <-> _
    rw [RefSet.objects_map]
    exact List.forall_mem_map
  constructor
  · intro hall
    rcases hall with ⟨hcontainer, hues⟩
    exact ⟨hcontainer, hnamed.mp hues⟩
  · intro hall
    rcases hall with ⟨hcontainer, hues⟩
    exact ⟨hcontainer, hnamed.mpr hues⟩

/-- The messages of two helpers, each over its own addresses, differ by the
filter only; over the same addresses the UEs also come in the same order. -/
structure FilteredMessages (p p' : Placement)
    (h h' : IndicationMessageHelper) : Prop where
  stops : (exists a, h.createIndicationMessage p = .error a) <->
    exists a, h'.createIndicationMessage p' = .error a
  built : forall m m', h.createIndicationMessage p = .ok m ->
    h'.createIndicationMessage p' = .ok m' ->
      FilteredMessage m m' ∧
        (p.ue = p'.ue -> m'.listOfMatchedUEs =
          m.listOfMatchedUEs.map (List.map retainEntry))

/-- Two helpers of one class and type that differ in the mode only go through
the same operations together, and their messages differ by the filter only. -/
theorem reduced_message_is_filtered (ceil : Ceiling) (c : HelperClass)
    (type : IndicationMessageType) (offline : Bool)
    {full reduced : IndicationMessageHelper}
    (hfull : c.new type offline false = .completed full)
    (hreduced : c.new type offline true = .completed reduced)
    (ops : List (Operation c)) {p p' : Placement}
    (hreports : SameReports p p') :
    Option.Rel (FilteredMessages p p') (runOperations ceil full ops)
      (runOperations ceil reduced ops) := by
  rw [new_cases hfull, new_cases hreduced, ← baseNew_reduce c]
  have hmode : (IndicationMessageHelper.new type offline
      false).reducedPmValues = false := by
    cases offline <;> cases type <;> rfl
  apply rel_imp (run_reduce ceil hmode ops)
  intro h h' hrun _ hall
  rcases hall with ⟨_, rfl⟩
  constructor
  · unfold IndicationMessageHelper.createIndicationMessage
    rw [fillAndEncode_error_iff, fillAndEncode_error_iff, buildable_reduce]
  · intro m m' hm hm'
    refine message_reduce hreports ?_ hm hm'
    rintro rfl l hl
    exact retain_lteCell hrun hl

def fillCuCpAndAddUe : List (Operation .mmWave) :=
  let tree : L3RrcTree :=
    { rrcEvent := 0
      servingCellMeasurements := none
      measResultNeighCells := none }
  [MmWaveOperation.fillCuCpValues 3,
    MmWaveOperation.addCuCpUePmItem [49] 5 6 ⟨0, tree⟩ ⟨1, tree⟩]

theorem fillCuCpAndAddUe_filtered :
    Option.Rel (FilteredMessages Placement.increasing Placement.increasing)
      (runOperations exampleCeiling
        (IndicationMessageHelper.new .cuCp false false) fillCuCpAndAddUe)
      (runOperations exampleCeiling
        (IndicationMessageHelper.new .cuCp false true) fillCuCpAndAddUe) :=
  reduced_message_is_filtered exampleCeiling .mmWave .cuCp false rfl rfl
    fillCuCpAndAddUe ⟨rfl, rfl, rfl⟩

end Helper
end OranE2
