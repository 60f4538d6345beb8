import OranE2.Helper.Containers
import OranE2.Kpm.Processing

/-!
# When a helper can create its message

The message values point to the container that was filled last.  A helper can
hand a message to the encoder exactly when that container is its own, and a
helper that works offline never can.  The rest is up to the encoder.
-/

namespace OranE2
namespace Helper

open Library
open Library.PartialRun
open Asn1c
open Kpm

/-!
## Fills
-/

def LteOperation.isFill : LteOperation -> Bool
  | .fillCuUpValues .. => true
  | .fillCuCpValues _ => true
  | _ => false

def MmWaveOperation.isFill : MmWaveOperation -> Bool
  | .fillCuUpValues _ => true
  | .fillCuCpValues _ => true
  | .fillDuValues _ => true
  | _ => false

def isFill : {c : HelperClass} -> Operation c -> Bool
  | .lte, op => LteOperation.isFill op
  | .mmWave, op => MmWaveOperation.isFill op

def lastFill (ops : List (Operation c)) : Option (Operation c) :=
  (ops.filter isFill).getLast?

/-- An effect that writes no field of a container but its reports. -/
structure Effect.LeavesFill (e : Effect) : Prop where
  pointer : forall duAllocated, e.pointerWrite duAllocated = none
  cellObjectId : e.cellObjectIdWrite = none
  plmId : e.plmIdWrite = none
  pDCPBytesUL : e.pDCPBytesULWrite = none
  pDCPBytesDL : e.pDCPBytesDLWrite = none
  numActiveUes : e.numActiveUesWrite = none

theorem leavesFill_of_not_isFill {ceil : Ceiling} {reduced : Bool}
    {op : Operation c} (h : isFill op = false) :
    (effect ceil reduced op).LeavesFill := by
  cases c with
  | lte =>
      cases op with
      | fillCuUpValues => cases h
      | fillCuCpValues => cases h
      | addCuUpCellPmItem =>
          cases reduced <;> exact ⟨fun _ => rfl, rfl, rfl, rfl, rfl, rfl⟩
      | _ => exact ⟨fun _ => rfl, rfl, rfl, rfl, rfl, rfl⟩
  | mmWave =>
      cases op with
      | fillCuUpValues => cases h
      | fillCuCpValues => cases h
      | fillDuValues => cases h
      | _ => exact ⟨fun _ => rfl, rfl, rfl, rfl, rfl, rfl⟩

def reports (ceil : Ceiling) (reduced : Bool) (ops : List (Operation c)) :
    List (Ref CellResourceReport) :=
  (effects ceil reduced ops).filterMap Effect.report

def collectedReports (rs : List (Ref CellResourceReport)) :
    ODuContainerValues where
  cellResourceReportItems := RefSet.empty.insertAll rs

theorem pointerWrite_effect (ceil : Ceiling) (reduced duAllocated : Bool)
    (op : Operation c) :
    (effect ceil reduced op).pointerWrite duAllocated =
      if isFill op then
        some (if owner op = .du ∧ duAllocated = false then none
          else some (owner op))
      else
        none := by
  cases c with
  | lte =>
      cases op with
      | addCuUpCellPmItem => cases reduced <;> rfl
      | _ => rfl
  | mmWave =>
      cases op with
      | fillDuValues => cases duAllocated <;> rfl
      | _ => rfl

theorem lastWrite_pointer (ceil : Ceiling) (reduced duAllocated : Bool)
    (init : Option IndicationMessageType) (ops : List (Operation c)) :
    lastWrite (Effect.pointerWrite duAllocated) init
        (effects ceil reduced ops) =
      match lastFill ops with
      | none => init
      | some op =>
          if owner op = .du ∧ duAllocated = false then none
          else some (owner op) := by
  induction ops generalizing init with
  | nil => rfl
  | cons op ops ih =>
      show lastWrite _ _ (effect ceil reduced op :: effects ceil reduced ops) =
        _
      rw [lastWrite_cons, ih, pointerWrite_effect]
      unfold lastFill
      cases hfill : isFill op with
      | false =>
          rw [List.filter_cons_of_neg (by rw [hfill]; exact Bool.false_ne_true)]
          rfl
      | true =>
          rw [List.filter_cons_of_pos hfill, List.getLast?_cons]
          cases (ops.filter isFill).getLast? <;> rfl

/-!
## Online helpers
-/

theorem baseNew_reduced (type : IndicationMessageType)
    (offline reduced : Bool) :
    (IndicationMessageHelper.new type offline reduced).reducedPmValues =
      reduced := by
  cases offline <;> cases type <;> rfl

/-- Of the operations that return in a helper, those that fill the container of
another type are fills of an O-DU. -/
theorem owner_of_accepted {ceil : Ceiling} {reduced : Bool}
    {h : IndicationMessageHelper} {op : Operation c}
    (haccepted : (effect ceil reduced op).Accepted h)
    (hfill : isFill op = true) : owner op = h.type ∨ owner op = .du := by
  cases c with
  | lte =>
      cases op with
      | fillCuUpValues => exact Or.inl haccepted.left.symm
      | fillCuCpValues => exact Or.inl haccepted.left.symm
      | _ => cases hfill
  | mmWave =>
      cases op with
      | fillCuUpValues => exact Or.inl haccepted.left.symm
      | fillCuCpValues => exact Or.inl haccepted.left.symm
      | fillDuValues => exact Or.inr rfl
      | _ => cases hfill

theorem mem_of_lastFill {ops : List (Operation c)} {op : Operation c}
    (h : lastFill ops = some op) : op ∈ ops ∧ isFill op = true :=
  List.mem_filter.mp (List.mem_of_getLast? h)

section

variable {ceil : Ceiling} {type : IndicationMessageType}
variable {offline reduced : Bool} {h : IndicationMessageHelper}
variable {ops : List (Operation c)}

theorem accepted_of_run
    (hrun : runOperations ceil
      (IndicationMessageHelper.new type offline reduced) ops = some h)
    {op : Operation c} (hop : op ∈ ops) :
    (effect ceil (IndicationMessageHelper.new type offline
      reduced).reducedPmValues op).Accepted
        (IndicationMessageHelper.new type offline reduced) :=
  (run_completes_iff ceil _ ops).mp ⟨h, hrun⟩ op hop

theorem container_of_online
    (hrun : runOperations ceil
      (IndicationMessageHelper.new type false reduced) ops = some h) :
    h.values.pmContainerValues =
      match lastFill ops with
      | none => none
      | some op => if owner op = type then h.container type else none := by
  have halloc := baseNew_allocated type reduced
  have htype := baseNew_type type false reduced
  show h.msgValues.pmContainerValues.bind h.container = _
  rw [(containers_of_run hrun).pointer, lastWrite_pointer,
    baseNew_unset type false reduced]
  cases hlast : lastFill ops with
  | none => rfl
  | some op =>
      rcases mem_of_lastFill hlast with ⟨hop, hfill⟩
      have hdu := halloc.duValues
      rw [htype] at hdu
      dsimp only
      by_cases howner : owner op = type
      · rw [if_pos howner, if_neg, howner]
        · rfl
        · intro hnot
          rw [hdu.mpr (howner.symm.trans hnot.left)] at hnot
          exact Bool.noConfusion hnot.right
      · have hforeign :=
          owner_of_accepted (accepted_of_run hrun hop) hfill
        rw [htype] at hforeign
        have hduOwner := hforeign.resolve_left howner
        have hnone := Bool.eq_false_iff.mpr fun hsome =>
          howner (hduOwner.trans (hdu.mp hsome).symm)
        rw [if_neg howner, if_pos ⟨hduOwner, hnone⟩]
        rfl

theorem container_of_offline
    (hrun : runOperations ceil
      (IndicationMessageHelper.new type true reduced) ops = some h) :
    h.values.pmContainerValues = none := by
  have hcontainers := containers_of_run hrun
  have hnone : h.container = fun _ => none := by
    funext t
    cases t with
    | cuUp =>
        show h.cuUpValues.map _ = none
        rw [hcontainers.cuUp]
        rfl
    | cuCp =>
        show h.cuCpValues.map _ = none
        rw [hcontainers.cuCp]
        rfl
    | du =>
        show h.duValues.map _ = none
        rw [hcontainers.du]
        rfl
  show h.msgValues.pmContainerValues.bind h.container = none
  rw [hnone]
  cases h.msgValues.pmContainerValues <;> rfl

/-!
## Creation
-/

/-- The helper works online and was filled last by an operation of its own
type. -/
def FilledLast (type : IndicationMessageType) (offline : Bool)
    (ops : List (Operation c)) : Prop :=
  offline = false ∧ exists op, lastFill ops = some op ∧ owner op = type

theorem container_of_filledLast
    (hrun : runOperations ceil
      (IndicationMessageHelper.new type offline reduced) ops = some h)
    (hfilled : FilledLast type offline ops) :
    h.values.pmContainerValues = h.container type := by
  rcases hfilled with ⟨rfl, op, hlast, howner⟩
  rw [container_of_online hrun, hlast]
  exact if_pos howner

theorem container_of_not_filledLast
    (hrun : runOperations ceil
      (IndicationMessageHelper.new type offline reduced) ops = some h)
    (hfilled : ¬ FilledLast type offline ops) :
    h.values.pmContainerValues = none := by
  cases offline with
  | true => exact container_of_offline hrun
  | false =>
      rw [container_of_online hrun]
      cases hlast : lastFill ops with
      | none => rfl
      | some op =>
          dsimp only
          exact if_neg fun howner => hfilled ⟨rfl, op, hlast, howner⟩

end

section

variable {ceil : Ceiling} {type : IndicationMessageType}
variable {offline reduced : Bool} {ops : List (Operation c)}
variable {h : IndicationMessageHelper}

end

end Helper
end OranE2
