import OranE2.Helper.Contents
import OranE2.Helper.Lists
import OranE2.Kpm.Addresses
import OranE2.Kpm.Ownership
import OranE2.Kpm.Reordering

/-!
# Creating the message of a helper

A helper creates its message from the values that its operations have left.
This module determines when that message does not depend on heap addresses, and
when it can be created more than once.
-/

namespace OranE2
namespace Helper

open Library
open Library.PartialRun
open Asn1c
open Kpm

/-!
## Heap addresses
-/

/-- The message of a helper is the same up to the order of set members, and it
is the same at all addresses exactly when it cannot be built or no set on its
way holds members that look different. -/
theorem created_message_reproducible_iff (ceil : Ceiling) (c : HelperClass)
    (type : IndicationMessageType) (offline reduced : Bool)
    (ops : List (Operation c)) {start h : IndicationMessageHelper}
    (hnew : c.new type offline reduced = .completed start)
    (hrun : runOperations ceil start ops = some h) :
    (forall (p p' : Placement) format,
        h.createIndicationMessage p = .ok format ->
          exists format', h.createIndicationMessage p' = .ok format' ∧
            SameUpToOrder format format') ∧
      ((forall p p' : Placement, (h.createIndicationMessage p).toOption =
          (h.createIndicationMessage p').toOption) <->
        (Buildable h.values ->
          (forall ue, ue ∈ ueLists ceil reduced ops ->
            forall ue', ue' ∈ ueLists ceil reduced ops ->
              ue.content = ue'.content) ∧
            ContainerUniform h.values.pmContainerValues)) := by
  rw [new_cases hnew] at hrun
  constructor
  · intro p p' format hformat
    rcases fillAndEncode_ok (buildable_of_ok hformat) p'
      with ⟨format', hformat'⟩
    exact ⟨format', hformat', message_same_up_to_order hformat hformat'⟩
  · rw [← (contents_of_new hrun).left]
    exact message_independent_iff h.values

def fillCuUpAndAddTwo : List (Operation .lte) :=
  [LteOperation.fillCuUpValues (StdString.ofBytes [49, 49, 49]) 0 0,
    LteOperation.addCuUpUePmItem [49] 1 1 ⟨0⟩ ⟨0⟩,
    LteOperation.addCuUpUePmItem [50] 1 1 ⟨0⟩ ⟨0⟩]

def secondBelow : Placement :=
  { Placement.increasing with
    ue := RefSet.lowest 1
    ue_injective := RefSet.lowest_injective 1 }

theorem fillCuUpAndAddTwo_reproducible_iff :
    exists start h,
      HelperClass.lte.new .cuUp false false = .completed start ∧
      runOperations exampleCeiling start fillCuUpAndAddTwo = some h ∧
      ((forall p p' : Placement, (h.createIndicationMessage p).toOption =
          (h.createIndicationMessage p').toOption) <->
        (Buildable h.values ->
          (forall ue, ue ∈ ueLists exampleCeiling false fillCuUpAndAddTwo ->
            forall ue',
              ue' ∈ ueLists exampleCeiling false fillCuUpAndAddTwo ->
              ue.content = ue'.content) ∧
            ContainerUniform h.values.pmContainerValues)) :=
  ⟨_, _, rfl, rfl, (created_message_reproducible_iff exampleCeiling .lte .cuUp
    false false fillCuUpAndAddTwo rfl rfl).right⟩

theorem fillCuUpAndAddTwo_shows_addresses :
    exists h,
      runOperations exampleCeiling
          (IndicationMessageHelper.new .cuUp false false) fillCuUpAndAddTwo =
        some h ∧
      (h.createIndicationMessage Placement.increasing).toOption ≠
        (h.createIndicationMessage secondBelow).toOption :=
  ⟨_, rfl, by decide⟩

/-!
## Repeated creation
-/

def LteOperation.AddsMeasurements (reduced : Bool) : LteOperation -> Prop
  | .addCuUpUePmItem .. => True
  | .addCuUpCellPmItem _ => reduced = false
  | .addCuCpUePmItem .. => True
  | _ => False

def MmWaveOperation.AddsMeasurements : MmWaveOperation -> Prop
  | .addCuUpUePmItem .. => True
  | .addDuUePmItem .. => True
  | .addDuCellPmItem _ => True
  | .addCuCpUePmItem .. => True
  | _ => False

def AddsMeasurements (reduced : Bool) :
    {c : HelperClass} -> Operation c -> Prop
  | .lte, op => LteOperation.AddsMeasurements reduced op
  | .mmWave, op => MmWaveOperation.AddsMeasurements op

theorem addsMeasurements_iff (ceil : Ceiling) (reduced : Bool)
    (op : Operation c) :
    AddsMeasurements reduced op <->
      (effect ceil reduced op).ueVal ≠ none ∨
        (effect ceil reduced op).cellVal ≠ none := by
  have hue : forall (ueVal : MeasurementItemList),
      True <-> some ueVal ≠ none ∨ (none : Option MeasurementItemList) ≠ none :=
    fun _ => ⟨fun _ => Or.inl (Option.some_ne_none _), fun _ => trivial⟩
  have hnothing : False <->
      (none : Option MeasurementItemList) ≠ none ∨
        (none : Option MeasurementItemList) ≠ none :=
    ⟨False.elim, fun h => h.elim (fun h => h rfl) fun h => h rfl⟩
  cases c with
  | lte =>
      cases op with
      | addCuUpUePmItem => exact hue _
      | addCuUpCellPmItem =>
          cases reduced with
          | true =>
              exact ⟨fun h => absurd h Bool.noConfusion,
                fun h => (hnothing.mpr h).elim⟩
          | false =>
              exact ⟨fun _ => Or.inr (Option.some_ne_none _), fun _ => rfl⟩
      | fillCuUpValues => exact hnothing
      | fillCuCpValues => exact hnothing
      | addCuCpUePmItem => exact hue _
  | mmWave =>
      cases op with
      | addCuUpUePmItem => exact hue _
      | fillCuUpValues => exact hnothing
      | fillCuCpValues => exact hnothing
      | fillDuValues => exact hnothing
      | addDuUePmItem => exact hue _
      | addDuCellPmItem =>
          exact ⟨fun _ => Or.inr (Option.some_ne_none _), fun _ => trivial⟩
      | addDuCellResRepPmItem => exact hnothing
      | addCuCpUePmItem => exact hue _

theorem ueLists_eq_nil_iff {ceil : Ceiling} {reduced : Bool}
    {ops : List (Operation c)} :
    ueLists ceil reduced ops = [] <->
      forall op, op ∈ ops -> (effect ceil reduced op).ueVal = none := by
  unfold ueLists
  exact List.filterMap_eq_nil_iff

/-- A run shares nothing with its message exactly when no operation has added
measurements. -/
theorem sharedObjects_of_run {ceil : Ceiling} {type : IndicationMessageType}
    {offline reduced : Bool} {h : IndicationMessageHelper}
    {ops : List (Operation c)}
    (hrun : runOperations ceil
      (IndicationMessageHelper.new type offline reduced) ops = some h) :
    sharedObjects h.values = [] <->
      forall op, op ∈ ops -> ¬ AddsMeasurements reduced op := by
  have hvalues : sharedObjects h.values = [] <->
      ueLists ceil reduced ops = [] ∧
        forall l, h.msgValues.cellMeasurementItems = some l -> l.items = [] := by
    rw [← (contents_of_new hrun).left]
    exact sharedObjects_eq_nil_iff h.values
  rw [hvalues, ueLists_eq_nil_iff]
  constructor
  · intro hall op hop hadds
    rcases hall with ⟨hnoUe, hempty⟩
    rcases (addsMeasurements_iff ceil reduced op).mp hadds with hue | hset
    · exact hue (hnoUe op hop)
    · rcases Option.ne_none_iff_exists'.mp (cell_ne_none_of_run hrun hop hset)
        with ⟨l, hl⟩
      rcases exists_cellVal_of_run hrun hl with ⟨last, _, hcellVal⟩
      exact cellVal_items_ne_nil hcellVal (hempty l hl)
  · intro hnone
    constructor
    · intro op hop
      by_contra hue
      exact hnone op hop ((addsMeasurements_iff ceil reduced op).mpr (.inl hue))
    · intro l hl
      rcases exists_cellVal_of_run hrun hl with ⟨op, hop, hcellVal⟩
      refine absurd ((addsMeasurements_iff ceil reduced op).mpr (.inr ?_))
        (hnone op hop)
      rw [hcellVal]
      exact Option.some_ne_none l

/-- The message of a helper can be created again and again exactly when it is
not encoded or no operation has added measurements.  An encoded message releases
all that it shares with the values of the helper. -/
theorem created_message_repeatable_iff (ceil : Ceiling) (c : HelperClass)
    (type : IndicationMessageType) (offline reduced : Bool)
    (ops : List (Operation c)) {start h : IndicationMessageHelper}
    (hnew : c.new type offline reduced = .completed start)
    (hrun : runOperations ceil start ops = some h)
    (accepts : E2smKpmIndicationMessageFormat1T -> Bool) (p : Placement) :
    (Repeatable accepts p h.values <->
        (Encoded accepts p h.values ->
          forall op, op ∈ ops -> ¬ AddsMeasurements reduced op)) ∧
      forall s, Encoded accepts p h.values ->
        createMessages accepts p h.values 1 = some s ->
          s.released = messageObjects h.values 0 := by
  rw [new_cases hnew] at hrun
  rw [← sharedObjects_of_run hrun]
  exact ⟨repeatable_iff accepts p h.values,
    fun _ hencoded => released_of_createMessage hencoded⟩

def fillCuUpAndAddOne : List (Operation .lte) :=
  fillCuUpAndAddTwo.take 2

theorem fillCuUpAndAddOne_repeatable_iff :
    exists start h,
      HelperClass.lte.new .cuUp false false = .completed start ∧
      runOperations exampleCeiling start fillCuUpAndAddOne = some h ∧
      (Repeatable (fun _ => true) Placement.increasing h.values <->
        (Encoded (fun _ => true) Placement.increasing h.values ->
          forall op, op ∈ fillCuUpAndAddOne ->
            ¬ AddsMeasurements false op)) :=
  ⟨_, _, rfl, rfl, (created_message_repeatable_iff exampleCeiling .lte .cuUp
    false false fillCuUpAndAddOne rfl rfl (fun _ => true)
    Placement.increasing).left⟩

/-- The second message reads what the first one has released. -/
theorem fillCuUpAndAddOne_not_repeatable :
    exists h,
      runOperations exampleCeiling
          (IndicationMessageHelper.new .cuUp false false) fillCuUpAndAddOne =
        some h ∧
      ¬ Repeatable (fun _ => true) Placement.increasing h.values := by
  refine ⟨_, rfl, ?_⟩
  intro hrep
  rcases hrep 2 with ⟨s, hs, _⟩
  cases hs

end Helper
end OranE2
