import OranE2.Helper.Contents
import OranE2.Helper.Guards
import OranE2.Kpm.Lists

/-!
# Empty lists in the reduced mode

Three operations add items in the full mode only.  In the reduced mode each of
them leaves a UE whose list of measurements is empty, while the cell list always
has an item.
-/

namespace OranE2
namespace Helper

open Library
open Library.PartialRun
open Asn1c
open Kpm

def LteOperation.FullModeOnly : LteOperation -> Prop
  | .addCuUpUePmItem .. => True
  | .addCuCpUePmItem .. => True
  | _ => False

def MmWaveOperation.FullModeOnly : MmWaveOperation -> Prop
  | .addCuUpUePmItem .. => True
  | _ => False

def FullModeOnly : {c : HelperClass} -> Operation c -> Prop
  | .lte, op => LteOperation.FullModeOnly op
  | .mmWave, op => MmWaveOperation.FullModeOnly op

/-- An effect inserts no empty list. -/
def Effect.Fills : Effect -> Prop
  | .insertUe ueVal => ueVal.items ≠ []
  | .setCell cellVal => cellVal.items ≠ []
  | _ => True

theorem ueList_items_ne_nil_iff {reduced : Bool} {ueImsiComplete : List UInt8}
    {full both : List (List UInt8 × MeasurementValue)} {P : Prop}
    (hfull : full ≠ []) (hboth : both = [] <-> P) :
    (ueList reduced ueImsiComplete full both).items ≠ [] <->
      ¬ (reduced = true ∧ P) := by
  rw [items_ueList, ne_eq, List.map_eq_nil_iff, List.append_eq_nil_iff, hboth]
  cases reduced <;> simp [hfull]

theorem effect_fills_iff (ceil : Ceiling) (reduced : Bool)
    (op : Operation c) :
    (effect ceil reduced op).Fills <->
      ¬ (reduced = true ∧ FullModeOnly op) := by
  have htrue : forall {P : Prop}, True <-> ¬ (P ∧ False) := fun {P} =>
    ⟨fun _ h => h.right, fun _ => trivial⟩
  cases c with
  | lte =>
      cases op with
      | addCuUpUePmItem =>
          exact ueList_items_ne_nil_iff (List.cons_ne_nil _ _)
            ⟨fun _ => trivial, fun _ => rfl⟩
      | addCuUpCellPmItem =>
          cases reduced with
          | true => exact htrue
          | false =>
              exact ⟨fun _ h => h.right, fun _ => List.cons_ne_nil _ _⟩
      | fillCuUpValues => exact htrue
      | fillCuCpValues => exact htrue
      | addCuCpUePmItem =>
          exact ueList_items_ne_nil_iff (List.cons_ne_nil _ _)
            ⟨fun _ => trivial, fun _ => rfl⟩
  | mmWave =>
      have hne : forall {x : List UInt8 × MeasurementValue}
          {xs : List (List UInt8 × MeasurementValue)},
          x :: xs = [] <-> False := ⟨List.cons_ne_nil _ _, False.elim⟩
      cases op with
      | addCuUpUePmItem =>
          exact ueList_items_ne_nil_iff (List.cons_ne_nil _ _)
            ⟨fun _ => trivial, fun _ => rfl⟩
      | fillCuUpValues => exact htrue
      | fillCuCpValues => exact htrue
      | fillDuValues => exact htrue
      | addDuUePmItem =>
          exact ueList_items_ne_nil_iff (List.cons_ne_nil _ _) hne
      | addDuCellPmItem =>
          constructor
          · intro _ h
            exact h.right
          · intro _
            show (cellList reduced _ _ _ _).items ≠ []
            rw [items_cellList]
            simp
      | addDuCellResRepPmItem => exact htrue
      | addCuCpUePmItem =>
          exact ueList_items_ne_nil_iff (List.cons_ne_nil _ _) hne

theorem cellVal_items_ne_nil {ceil : Ceiling} {reduced : Bool}
    {op : Operation c} {l : MeasurementItemList}
    (h : (effect ceil reduced op).cellVal = some l) : l.items ≠ [] := by
  have hcell : forall {front middle further last
        : List (List UInt8 × MeasurementValue)},
      some (cellList reduced front middle further last) = some l ->
        (if reduced then [] else front) ++ middle ++
          (if reduced then [] else further) ++ last ≠ [] -> l.items ≠ [] := by
    intro front middle further last hl hne
    rw [← Option.some.inj hl, items_cellList]
    exact fun hnil => hne (List.map_eq_nil_iff.mp hnil)
  cases c with
  | lte =>
      cases op with
      | addCuUpCellPmItem =>
          cases reduced with
          | true => cases h
          | false => exact hcell h (List.cons_ne_nil _ _)
      | _ => cases h
  | mmWave =>
      cases op with
      | addDuCellPmItem =>
          exact hcell h fun hnil =>
            List.cons_ne_nil _ _ (List.append_eq_nil_iff.mp hnil).right
      | _ => cases h

theorem filledLists_of_run {ceil : Ceiling} {type : IndicationMessageType}
    {offline reduced : Bool} {h : IndicationMessageHelper}
    {ops : List (Operation c)}
    (hrun : runOperations ceil
      (IndicationMessageHelper.new type offline reduced) ops = some h) :
    FilledLists h.values <->
      ¬ (reduced = true ∧ exists op, op ∈ ops ∧ FullModeOnly op) := by
  have hues := (contents_of_new hrun).left
  constructor
  · intro hfilled hall
    rcases hall with ⟨hreduced, op, hop, hfull⟩
    have hempty : ¬ (effect ceil reduced op).Fills := fun hfills =>
      (effect_fills_iff ceil reduced op).mp hfills ⟨hreduced, hfull⟩
    cases heffect : effect ceil reduced op with
    | insertUe ueVal =>
        rw [heffect] at hempty
        apply hempty
        apply hfilled.ues ueVal
        show ueVal ∈ h.msgValues.ueIndications.objects
        rw [hues]
        exact mem_ueLists.mpr ⟨op, hop, heffect⟩
    | setCell cellVal =>
        rw [heffect] at hempty
        exact hempty (cellVal_items_ne_nil (by rw [heffect]; rfl))
    | _ =>
        rw [heffect] at hempty
        exact hempty trivial
  · intro hnone
    refine ⟨?_, ?_⟩
    · intro l hl
      rcases exists_cellVal_of_run hrun hl with ⟨op, _, hcellVal⟩
      exact cellVal_items_ne_nil hcellVal
    · intro ue hue
      change ue ∈ h.msgValues.ueIndications.objects at hue
      rw [hues] at hue
      rcases mem_ueLists.mp hue with ⟨op, hop, heffect⟩
      have hfills := (effect_fills_iff ceil reduced op).mpr
        fun hfull => hnone ⟨hfull.left, op, hop, hfull.right⟩
      rw [heffect] at hfills
      exact hfills

/-- Values without an empty list lead to no empty list, and a helper has such
values unless it works in the reduced mode and an operation that adds its items
in the full mode only was called. -/
theorem no_empty_list_iff (p : Placement)
    (values : KpmIndicationMessageValues PmContainerValues) :
    ((forall format,
          fillAndEncodeKpmIndicationMessage p values = .ok format ->
            NoEmptyList format) <->
        (Buildable values -> FilledLists values)) ∧
      forall (ceil : Ceiling) (c : HelperClass)
          (type : IndicationMessageType) (reduced : Bool)
          (start h : IndicationMessageHelper) (ops : List (Operation c)),
        c.new type false reduced = .completed start ->
        runOperations ceil start ops = some h ->
        ((forall format, h.createIndicationMessage p = .ok format ->
            NoEmptyList format) <->
          (Buildable h.values ->
            ¬ (reduced = true ∧ exists op, op ∈ ops ∧ FullModeOnly op))) := by
  refine ⟨noEmptyList_iff p values, ?_⟩
  intro ceil c type reduced start h ops hnew hrun
  rw [new_cases hnew] at hrun
  rw [← filledLists_of_run hrun]
  exact noEmptyList_iff p h.values

def fillCuUpAndAddUe : List (Operation .lte) :=
  [LteOperation.fillCuUpValues (StdString.ofBytes [49, 49, 49]) 0 0,
    LteOperation.addCuUpUePmItem [49] 1 1 ⟨0⟩ ⟨0⟩]

theorem fillCuUpAndAddUe_no_empty_list_iff :
    exists start h,
      HelperClass.lte.new .cuUp false true = .completed start ∧
      runOperations exampleCeiling start fillCuUpAndAddUe = some h ∧
      ((forall format,
          h.createIndicationMessage Placement.increasing = .ok format ->
            NoEmptyList format) <->
        (Buildable h.values ->
          ¬ (true = true ∧
            exists op, op ∈ fillCuUpAndAddUe ∧ FullModeOnly op))) :=
  ⟨_, _, rfl, rfl, (no_empty_list_iff Placement.increasing
    (IndicationMessageHelper.new .cuUp false true).values).right
      exampleCeiling .lte .cuUp true _ _ fillCuUpAndAddUe rfl rfl⟩

theorem fillCuUpAndAddUe_leaves_empty_list :
    exists h format,
      runOperations exampleCeiling
          (IndicationMessageHelper.new .cuUp false true) fillCuUpAndAddUe =
        some h ∧
      h.createIndicationMessage Placement.increasing = .ok format ∧
      ¬ NoEmptyList format := by
  refine ⟨_, _, rfl, rfl, ?_⟩
  intro hno
  exact hno.ueItems _ rfl _ List.mem_cons_self rfl

end Helper
end OranE2
