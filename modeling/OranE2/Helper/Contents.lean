import OranE2.Helper.Run
import OranE2.Library.LastWrite

/-!
# What a run leaves in a helper

The measurement lists of a helper after a run, read off the operations: the set
of UE lists holds one list for each operation that adds a UE, in the order of
the calls, and the cell list is the last one that was set.
-/

namespace OranE2
namespace Helper

open Library
open Library.PartialRun
open Kpm

/-!
## The lists of one operation
-/

theorem items_ueList (reduced : Bool) (ueImsiComplete : List UInt8)
    (full both : List (List UInt8 × MeasurementValue)) :
    (ueList reduced ueImsiComplete full both).items =
      ((if reduced then [] else full) ++ both).map fun call =>
        MeasurementItem.new call.1 call.2 := by
  unfold ueList
  rw [MeasurementItemList.items_addItems, MeasurementItemList.items_addItems,
    List.map_append]
  rfl

theorem items_cellList (reduced : Bool)
    (front middle further last : List (List UInt8 × MeasurementValue)) :
    (cellList reduced front middle further last).items =
      ((if reduced then [] else front) ++ middle ++
        (if reduced then [] else further) ++ last).map fun call =>
          MeasurementItem.new call.1 call.2 := by
  unfold cellList
  rw [MeasurementItemList.items_addItems, MeasurementItemList.items_addItems,
    MeasurementItemList.items_addItems, MeasurementItemList.items_addItems,
    List.map_append, List.map_append, List.map_append]
  rfl

theorem id_ueList (reduced : Bool) (ueImsiComplete : List UInt8)
    (full both : List (List UInt8 × MeasurementValue)) :
    (ueList reduced ueImsiComplete full both).id =
      (MeasurementItemList.ofId ueImsiComplete).id := by
  unfold ueList
  rw [MeasurementItemList.id_addItems, MeasurementItemList.id_addItems]

theorem id_cellList (reduced : Bool)
    (front middle further last : List (List UInt8 × MeasurementValue)) :
    (cellList reduced front middle further last).id = none := by
  unfold cellList
  rw [MeasurementItemList.id_addItems, MeasurementItemList.id_addItems,
    MeasurementItemList.id_addItems, MeasurementItemList.id_addItems]
  rfl

/-!
## The lists of a run
-/

def Effect.ueVal : Effect -> Option MeasurementItemList
  | .insertUe ueVal => some ueVal
  | _ => none

def Effect.cellVal : Effect -> Option MeasurementItemList
  | .setCell cellVal => some cellVal
  | _ => none

def ueLists (ceil : Ceiling) (reduced : Bool) (ops : List (Operation c)) :
    List MeasurementItemList :=
  ops.filterMap fun op => (effect ceil reduced op).ueVal

def cellWrite (ceil : Ceiling) (reduced : Bool) (op : Operation c) :
    Option (Option MeasurementItemList) :=
  (effect ceil reduced op).cellVal.map some

theorem mem_ueLists {ceil : Ceiling} {reduced : Bool}
    {ops : List (Operation c)} {ue : MeasurementItemList} :
    ue ∈ ueLists ceil reduced ops <->
      exists op, op ∈ ops ∧ effect ceil reduced op = .insertUe ue := by
  unfold ueLists
  rw [List.mem_filterMap]
  constructor
  · intro h
    rcases h with ⟨op, hop, hue⟩
    refine ⟨op, hop, ?_⟩
    cases heffect : effect ceil reduced op with
    | insertUe ueVal =>
        rw [heffect] at hue
        cases hue
        rfl
    | _ =>
        rw [heffect] at hue
        cases hue
  · intro h
    rcases h with ⟨op, hop, heffect⟩
    exact ⟨op, hop, by rw [heffect]; rfl⟩

theorem lists_of_yields {h h' : IndicationMessageHelper} {e : Effect}
    (hyields : e.Yields h h') :
    h'.msgValues.ueIndications.objects =
        h.msgValues.ueIndications.objects ++ e.ueVal.toList ∧
      h'.msgValues.cellMeasurementItems =
        (e.cellVal.map some).getD h.msgValues.cellMeasurementItems := by
  cases hyields with
  | insertUe => exact ⟨RefSet.objects_insertNew _ _, rfl⟩
  | setCell => exact ⟨(List.append_nil _).symm, rfl⟩
  | fillCuUp _ _ => exact ⟨(List.append_nil _).symm, rfl⟩
  | fillCuUpBytes _ _ => exact ⟨(List.append_nil _).symm, rfl⟩
  | fillCuCp _ _ => exact ⟨(List.append_nil _).symm, rfl⟩
  | fillDu => exact ⟨(List.append_nil _).symm, rfl⟩
  | insertReport _ => exact ⟨(List.append_nil _).symm, rfl⟩
  | nothing => exact ⟨(List.append_nil _).symm, rfl⟩

/-- The lists of a helper that was reached from another one by operations. -/
structure Contents (ceil : Ceiling) (start h : IndicationMessageHelper)
    (ops : List (Operation c)) : Prop where
  kind : SameKind start h
  ues : h.msgValues.ueIndications.objects =
    start.msgValues.ueIndications.objects ++
      ueLists ceil start.reducedPmValues ops
  cell : h.msgValues.cellMeasurementItems =
    lastWrite (cellWrite ceil start.reducedPmValues)
      start.msgValues.cellMeasurementItems ops

theorem contents_of_run {ceil : Ceiling} {start h : IndicationMessageHelper}
    {ops : List (Operation c)} (hrun : runOperations ceil start ops = some h) :
    Contents ceil start h ops := by
  refine run_traces ?_ ⟨sameKind_refl start, (List.append_nil _).symm, rfl⟩ hrun
  intro s history op s' hs hstep
  have hyields := step_yields hstep
  rw [hs.kind.reducedPmValues] at hyields
  rcases lists_of_yields hyields with ⟨hues, hcell⟩
  refine ⟨sameKind_trans hs.kind (sameKind_of_yields hyields), ?_, ?_⟩
  · have hlast : ueLists ceil start.reducedPmValues [op] =
        (effect ceil start.reducedPmValues op).ueVal.toList := by
      unfold ueLists
      rw [List.filterMap_cons]
      cases (effect ceil start.reducedPmValues op).ueVal <;> rfl
    rw [hues, hs.ues, List.append_assoc, ← hlast]
    unfold ueLists
    rw [List.filterMap_append]
  · rw [hcell, hs.cell, lastWrite_append, lastWrite_cons, lastWrite_nil]
    rfl

theorem contents_of_new {ceil : Ceiling} {type : IndicationMessageType}
    {offline reduced : Bool} {h : IndicationMessageHelper}
    {ops : List (Operation c)}
    (hrun : runOperations ceil
      (IndicationMessageHelper.new type offline reduced) ops = some h) :
    h.msgValues.ueIndications.objects = ueLists ceil reduced ops ∧
      h.msgValues.cellMeasurementItems =
        lastWrite (cellWrite ceil reduced) none ops := by
  have hstart : (IndicationMessageHelper.new type offline
        reduced).reducedPmValues = reduced ∧
      (IndicationMessageHelper.new type offline
        reduced).msgValues.ueIndications.objects = [] ∧
      (IndicationMessageHelper.new type offline
        reduced).msgValues.cellMeasurementItems = none := by
    cases offline <;> cases type <;> exact ⟨rfl, rfl, rfl⟩
  rcases hstart with ⟨hreduced, hues, hcell⟩
  have hcontents := contents_of_run hrun
  constructor
  · rw [hcontents.ues, hues, hreduced, List.nil_append]
  · rw [hcontents.cell, hcell, hreduced]

theorem cell_ne_none_of_run {ceil : Ceiling} {type : IndicationMessageType}
    {offline reduced : Bool} {h : IndicationMessageHelper}
    {ops : List (Operation c)} {op : Operation c}
    (hrun : runOperations ceil
      (IndicationMessageHelper.new type offline reduced) ops = some h)
    (hop : op ∈ ops) (hset : (effect ceil reduced op).cellVal ≠ none) :
    h.msgValues.cellMeasurementItems ≠ none := by
  rw [(contents_of_new hrun).right]
  rcases exists_last_write (cellWrite ceil reduced) ops with
    hsilent | ⟨pre, last, post, v, hsplit, hwrite, hpost⟩
  · exact absurd (Option.map_eq_none_iff.mp (hsilent op hop)) hset
  · rcases Option.map_eq_some_iff.mp hwrite with ⟨cellVal, _, hv⟩
    rw [hsplit, lastWrite_split _ pre hwrite hpost, ← hv]
    exact Option.some_ne_none cellVal

theorem exists_cellVal_of_run {ceil : Ceiling} {type : IndicationMessageType}
    {offline reduced : Bool} {h : IndicationMessageHelper}
    {ops : List (Operation c)} {l : MeasurementItemList}
    (hrun : runOperations ceil
      (IndicationMessageHelper.new type offline reduced) ops = some h)
    (hl : h.msgValues.cellMeasurementItems = some l) :
    exists op, op ∈ ops ∧ (effect ceil reduced op).cellVal = some l := by
  rw [(contents_of_new hrun).right] at hl
  rcases exists_last_write (cellWrite ceil reduced) ops with
    hsilent | ⟨pre, op, post, v, hsplit, hwrite, hpost⟩
  · rw [lastWrite_of_silent hsilent] at hl
    cases hl
  · rw [hsplit, lastWrite_split _ pre hwrite hpost] at hl
    rcases Option.map_eq_some_iff.mp hwrite with ⟨cellVal, hcellVal, hv⟩
    refine ⟨op, by rw [hsplit]; simp, ?_⟩
    rw [hcellVal, Option.some.inj (hv.trans hl)]

end Helper
end OranE2
