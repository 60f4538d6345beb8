import OranE2.Helper.Contents
import OranE2.Helper.Guards

/-!
# What a run leaves in the containers

The containers of a helper after a run, read off the operations.  Each field is
a register that keeps the last write, except for the reports of an O-DU, which
are collected.  Which operations return does not depend on those before them.
-/

namespace OranE2
namespace Helper

open Library
open Library.PartialRun
open Asn1c
open Kpm

/-!
## The fields that effects write
-/

/-- The container that the message values point to; an O-DU container may not
have been allocated. -/
def Effect.pointerWrite (duAllocated : Bool) :
    Effect -> Option (Option IndicationMessageType)
  | .fillCuUp _ => some (some .cuUp)
  | .fillCuUpBytes _ _ _ => some (some .cuUp)
  | .fillCuCp _ => some (some .cuCp)
  | .fillDu _ => some (if duAllocated then some .du else none)
  | _ => none

def Effect.cellObjectIdWrite : Effect -> Option (List UInt8)
  | .fillDu cellObjectId => some cellObjectId
  | _ => none

def Effect.plmIdWrite : Effect -> Option StdString
  | .fillCuUp plmId => some plmId
  | .fillCuUpBytes plmId _ _ => some plmId
  | _ => none

def Effect.pDCPBytesULWrite : Effect -> Option Int
  | .fillCuUpBytes _ pdcpBytesUl _ => some pdcpBytesUl
  | _ => none

def Effect.pDCPBytesDLWrite : Effect -> Option Int
  | .fillCuUpBytes _ _ pdcpBytesDl => some pdcpBytesDl
  | _ => none

def Effect.numActiveUesWrite : Effect -> Option UInt16
  | .fillCuCp numActiveUes => some numActiveUes
  | _ => none

def Effect.report : Effect -> Option (Ref CellResourceReport)
  | .insertReport cellResRep => some cellResRep
  | _ => none

def effects (ceil : Ceiling) (reduced : Bool) (ops : List (Operation c)) :
    List Effect :=
  ops.map (effect ceil reduced)

/-!
## The containers of a run
-/

structure Containers (start h : IndicationMessageHelper)
    (es : List Effect) : Prop where
  kind : SameKind start h
  pointer : h.msgValues.pmContainerValues =
    lastWrite (Effect.pointerWrite start.duValues.isSome)
      start.msgValues.pmContainerValues es
  cellObjectId : h.msgValues.cellObjectId =
    lastWrite Effect.cellObjectIdWrite start.msgValues.cellObjectId es
  cuUp : h.cuUpValues = start.cuUpValues.map fun v =>
    { plmId := lastWrite Effect.plmIdWrite v.plmId es
      pDCPBytesUL := lastWrite Effect.pDCPBytesULWrite v.pDCPBytesUL es
      pDCPBytesDL := lastWrite Effect.pDCPBytesDLWrite v.pDCPBytesDL es }
  cuCp : h.cuCpValues = start.cuCpValues.map fun v =>
    { numActiveUes := lastWrite Effect.numActiveUesWrite v.numActiveUes es }
  du : h.duValues = start.duValues.map fun v =>
    { cellResourceReportItems :=
        v.cellResourceReportItems.insertAll (es.filterMap Effect.report) }

theorem containers_refl (h : IndicationMessageHelper) : Containers h h [] where
  kind := sameKind_refl h
  pointer := rfl
  cellObjectId := rfl
  cuUp := by cases h.cuUpValues <;> rfl
  cuCp := by cases h.cuCpValues <;> rfl
  du := by cases h.duValues <;> rfl

theorem lastWrite_snoc (write : Effect -> Option value) (init : value)
    (es : List Effect) (e : Effect) :
    lastWrite write init (es ++ [e]) =
      (write e).getD (lastWrite write init es) := by
  rw [lastWrite_append, lastWrite_cons, lastWrite_nil]

theorem insertAll_snoc (s : RefSet CellResourceReport)
    (es : List Effect) (e : Effect) :
    s.insertAll ((es ++ [e]).filterMap Effect.report) =
      (s.insertAll (es.filterMap Effect.report)).insertAll
        e.report.toList := by
  rw [List.filterMap_append]
  unfold RefSet.insertAll
  rw [List.foldl_append]
  cases hreport : e.report <;> simp [hreport]

theorem containers_of_yields {start h h' : IndicationMessageHelper}
    {es : List Effect} {e : Effect} (hs : Containers start h es)
    (hyields : e.Yields h h') : Containers start h' (es ++ [e]) := by
  have hkind := sameKind_trans hs.kind (sameKind_of_yields hyields)
  have hpointer := hs.pointer
  have hobject := hs.cellObjectId
  have hcuUp := hs.cuUp
  have hcuCp := hs.cuCp
  have hdu := hs.du
  constructor
  · exact hkind
  all_goals
    simp only [lastWrite_snoc, insertAll_snoc]
  · cases hyields with
    | fillDu =>
        show h.duValues.map (fun _ => IndicationMessageType.du) = _
        rw [hdu]
        cases start.duValues <;> rfl
    | fillCuUp _ _ => rfl
    | fillCuUpBytes _ _ => rfl
    | fillCuCp _ _ => rfl
    | _ => exact hpointer
  · cases hyields with
    | fillDu => rfl
    | _ => exact hobject
  · cases hyields with
    | fillCuUp _ hvalues =>
        rw [hvalues] at hcuUp
        rcases Option.map_eq_some_iff.mp hcuUp.symm with ⟨v, hv, rfl⟩
        rw [hv]
        rfl
    | fillCuUpBytes _ hvalues =>
        rw [hvalues] at hcuUp
        rcases Option.map_eq_some_iff.mp hcuUp.symm with ⟨v, hv, _⟩
        rw [hv]
        rfl
    | _ => exact hcuUp
  · cases hyields with
    | fillCuCp _ hvalues =>
        rw [hvalues] at hcuCp
        rcases Option.map_eq_some_iff.mp hcuCp.symm with ⟨v, hv, _⟩
        rw [hv]
        rfl
    | _ => exact hcuCp
  · cases hyields with
    | insertReport hvalues =>
        rw [hvalues] at hdu
        rcases Option.map_eq_some_iff.mp hdu.symm with ⟨v, hv, rfl⟩
        rw [hv]
        rfl
    | _ => exact hdu

theorem containers_of_run {ceil : Ceiling} {start h : IndicationMessageHelper}
    {ops : List (Operation c)} (hrun : runOperations ceil start ops = some h) :
    Containers start h (effects ceil start.reducedPmValues ops) := by
  refine run_traces (R := fun s history =>
    Containers start s (effects ceil start.reducedPmValues history))
    ?_ (containers_refl start) hrun
  intro s history op s' hs hstep
  have hyields := step_yields hstep
  rw [hs.kind.reducedPmValues] at hyields
  have hnext := containers_of_yields hs hyields
  show Containers start s' ((history ++ [op]).map _)
  rw [List.map_append]
  exact hnext

/-!
## Operations that return
-/

def Effect.Accepted (h : IndicationMessageHelper) : Effect -> Prop
  | .fillCuUp _ => h.type = .cuUp ∧ h.cuUpValues.isSome = true
  | .fillCuUpBytes _ _ _ => h.type = .cuUp ∧ h.cuUpValues.isSome = true
  | .fillCuCp _ => h.type = .cuCp ∧ h.cuCpValues.isSome = true
  | .insertReport _ => h.duValues.isSome = true
  | _ => True

theorem accepted_of_yields {h h' : IndicationMessageHelper} {e : Effect}
    (hyields : e.Yields h h') : e.Accepted h := by
  cases hyields with
  | fillCuUp htype hvalues => exact ⟨htype, by rw [hvalues]; rfl⟩
  | fillCuUpBytes htype hvalues => exact ⟨htype, by rw [hvalues]; rfl⟩
  | fillCuCp htype hvalues => exact ⟨htype, by rw [hvalues]; rfl⟩
  | insertReport hvalues =>
      show h.duValues.isSome = true
      rw [hvalues]
      rfl
  | _ => exact trivial

theorem apply_of_accepted {h : IndicationMessageHelper} {e : Effect}
    (haccepted : e.Accepted h) : exists h', e.apply h = .completed h' := by
  cases e with
  | fillCuUp plmId =>
      rcases Option.isSome_iff_exists.mp haccepted.right with ⟨v, hv⟩
      exact ⟨_, fillBaseCuUpValues_own haccepted.left hv plmId⟩
  | fillCuUpBytes plmId pdcpBytesUl pdcpBytesDl =>
      rcases Option.isSome_iff_exists.mp haccepted.right with ⟨v, hv⟩
      exact ⟨_, lteFillCuUpValues_own haccepted.left hv plmId pdcpBytesUl
        pdcpBytesDl⟩
  | fillCuCp numActiveUes =>
      rcases Option.isSome_iff_exists.mp haccepted.right with ⟨v, hv⟩
      exact ⟨_, fillBaseCuCpValues_own haccepted.left hv numActiveUes⟩
  | insertReport cellResRep =>
      rcases Option.isSome_iff_exists.mp haccepted with ⟨v, hv⟩
      exact ⟨_, addDuCellResRepPmItem_own hv cellResRep⟩
  | _ => exact ⟨_, rfl⟩

theorem accepted_iff_of_sameKind {h h' : IndicationMessageHelper}
    (hkind : SameKind h h') (e : Effect) :
    e.Accepted h' <-> e.Accepted h := by
  unfold Effect.Accepted
  rw [hkind.type, hkind.cuUpValues, hkind.cuCpValues, hkind.duValues]

/-- Whether an operation returns is decided by what no operation changes. -/
theorem step_completes_iff {ceil : Ceiling}
    {start h : IndicationMessageHelper} (hkind : SameKind start h)
    (op : Operation c) :
    (exists h', (step ceil h op).helper? = some h') <->
      (effect ceil start.reducedPmValues op).Accepted start := by
  rw [← accepted_iff_of_sameKind hkind, ← hkind.reducedPmValues]
  constructor
  · intro hall
    rcases hall with ⟨h', hstep⟩
    exact accepted_of_yields (step_yields hstep)
  · intro haccepted
    rcases apply_of_accepted haccepted with ⟨h', happly⟩
    refine ⟨h', ?_⟩
    rw [step_eq_apply, happly]
    rfl

theorem run_completes_iff (ceil : Ceiling) (start : IndicationMessageHelper)
    (ops : List (Operation c)) :
    (exists h, runOperations ceil start ops = some h) <->
      forall op, op ∈ ops ->
        (effect ceil start.reducedPmValues op).Accepted start := by
  unfold runOperations
  apply run_succeeds_iff (I := SameKind start)
  · intro s op hs
    exact step_completes_iff hs op
  · intro s op s' hs hstep
    exact sameKind_trans hs (sameKind_of_yields (step_yields hstep))
  · exact sameKind_refl start

end Helper
end OranE2
