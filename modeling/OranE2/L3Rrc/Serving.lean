import OranE2.L3Rrc.Types
import OranE2.Library.ListStore
import OranE2.Library.PartialRun

/-!
# Serving cell measurements

`ServingCellMeasurementsWrap` fills a tagged union.  Its two adders announce
that a measurement of the wrong kind will not be added, and then add it.  This
module determines on which call sequences the union stays consistent.
-/

namespace OranE2
namespace L3Rrc

open Library

inductive ServingCellMeasurementsPR where
  | nothing
  | nrMeasResultServingMOList
  | eutraMeasResultPCell
  deriving DecidableEq, Repr

/-- The slot of the union: null, or the pointer stored there last. -/
inductive ServingCellChoice where
  | null
  | nrMeasResultServingMOList (list : Pointer)
  | eutraMeasResultPCell (measResultPCell : MeasResultPCellT)
  deriving DecidableEq, Repr

structure ServingCellMeasurementsT where
  present : ServingCellMeasurementsPR
  choice : ServingCellChoice
  deriving DecidableEq, Repr

structure ServingCellMeasurementsWrap where
  servingCellMeasurements : ServingCellMeasurementsT
  nrMeasResultServingMOList : Pointer
  lists : ListStore MeasResultServMOT
  deriving DecidableEq, Repr

/-- The constructor.  The side pointer keeps its leftover content unless the
list alternative is present. -/
def ServingCellMeasurementsWrap.new (leftover : Pointer)
    (lists : ListStore MeasResultServMOT)
    (present : ServingCellMeasurementsPR) : ServingCellMeasurementsWrap :=
  if present = ServingCellMeasurementsPR.nrMeasResultServingMOList then
    { servingCellMeasurements :=
        { present := present
          choice := .nrMeasResultServingMOList lists.alloc.2 }
      nrMeasResultServingMOList := lists.alloc.2
      lists := lists.alloc.1 }
  else
    { servingCellMeasurements := { present := present, choice := .null }
      nrMeasResultServingMOList := leftover
      lists := lists }

namespace ServingCellMeasurementsWrap

/-- The tag is compared for a log message only. -/
def addMeasResultPCell (w : ServingCellMeasurementsWrap)
    (measResultPCell : MeasResultPCellT) : ServingCellMeasurementsWrap :=
  { w with
    servingCellMeasurements :=
      { w.servingCellMeasurements with
        choice := .eutraMeasResultPCell measResultPCell } }

def addMeasResultServMo (w : ServingCellMeasurementsWrap)
    (measResultServMO : MeasResultServMOT) :
    Option ServingCellMeasurementsWrap :=
  match w.lists.add w.nrMeasResultServingMOList measResultServMO with
  | none => none
  | some lists => some { w with lists := lists }

end ServingCellMeasurementsWrap

inductive ServingCall where
  | addMeasResultPCell (measResultPCell : MeasResultPCellT)
  | addMeasResultServMo (measResultServMO : MeasResultServMOT)
  deriving DecidableEq, Repr

def ServingCall.step (w : ServingCellMeasurementsWrap) :
    ServingCall -> Option ServingCellMeasurementsWrap
  | .addMeasResultPCell measResultPCell =>
      some (w.addMeasResultPCell measResultPCell)
  | .addMeasResultServMo measResultServMO =>
      w.addMeasResultServMo measResultServMO

def ServingCall.kind : ServingCall -> ServingCellMeasurementsPR
  | .addMeasResultPCell _ => .eutraMeasResultPCell
  | .addMeasResultServMo _ => .nrMeasResultServingMOList

def ServingCall.servMo : ServingCall -> Option MeasResultServMOT
  | .addMeasResultPCell _ => none
  | .addMeasResultServMo measResultServMO => some measResultServMO

def ServingCall.pCell : ServingCall -> Option MeasResultPCellT
  | .addMeasResultPCell measResultPCell => some measResultPCell
  | .addMeasResultServMo _ => none

/-!
## The tagged union
-/

def HoldsServMos (history : List ServingCall)
    (w : ServingCellMeasurementsWrap) : Prop :=
  exists list,
    w.servingCellMeasurements.choice = .nrMeasResultServingMOList list ∧
      w.lists.read list = some (history.filterMap ServingCall.servMo)

def HoldsPCell (history : List ServingCall)
    (w : ServingCellMeasurementsWrap) : Prop :=
  w.servingCellMeasurements.choice =
    match (history.filterMap ServingCall.pCell).getLast? with
    | none => .null
    | some measResultPCell => .eutraMeasResultPCell measResultPCell

structure Consistent (present : ServingCellMeasurementsPR)
    (history : List ServingCall) (w : ServingCellMeasurementsWrap) :
    Prop where
  tag : w.servingCellMeasurements.present = present
  slot :
    match present with
    | .nothing => w.servingCellMeasurements.choice = .null
    | .nrMeasResultServingMOList => HoldsServMos history w
    | .eutraMeasResultPCell => HoldsPCell history w

/-- At every point of the calls the union is consistent and a next call of the
wrong kind changes nothing. -/
def StaysConsistent (leftover : Pointer)
    (lists : ListStore MeasResultServMOT)
    (present : ServingCellMeasurementsPR) (calls : List ServingCall) : Prop :=
  forall history upcoming, calls = history ++ upcoming ->
    exists w,
      PartialRun.run ServingCall.step
          (ServingCellMeasurementsWrap.new leftover lists present) history
        = some w ∧
      Consistent present history w ∧
      forall call, upcoming.head? = some call -> call.kind ≠ present ->
        call.step w = some w

/-!
## Calls of the right kind
-/

def SidePointerCurrent (w : ServingCellMeasurementsWrap) : Prop :=
  w.servingCellMeasurements.present =
      ServingCellMeasurementsPR.nrMeasResultServingMOList ->
    w.servingCellMeasurements.choice =
      .nrMeasResultServingMOList w.nrMeasResultServingMOList

theorem new_consistent (leftover : Pointer)
    (lists : ListStore MeasResultServMOT)
    (present : ServingCellMeasurementsPR) :
    Consistent present []
        (ServingCellMeasurementsWrap.new leftover lists present) ∧
      SidePointerCurrent
        (ServingCellMeasurementsWrap.new leftover lists present) := by
  cases present with
  | nothing =>
      constructor
      · exact { tag := rfl, slot := rfl }
      · intro hpresent
        cases hpresent
  | nrMeasResultServingMOList =>
      constructor
      · exact
          { tag := rfl
            slot := ⟨lists.alloc.2, rfl, lists.read_alloc⟩ }
      · intro _
        rfl
  | eutraMeasResultPCell =>
      constructor
      · exact { tag := rfl, slot := rfl }
      · intro hpresent
        cases hpresent

theorem step_consistent {present : ServingCellMeasurementsPR}
    {history : List ServingCall} {w : ServingCellMeasurementsWrap}
    {call : ServingCall}
    (hw : Consistent present history w ∧ SidePointerCurrent w)
    (hkind : call.kind = present) :
    exists w', call.step w = some w' ∧
      Consistent present (history ++ [call]) w' ∧ SidePointerCurrent w' := by
  rcases hw with ⟨hconsistent, hside⟩
  have htag := hconsistent.tag
  have hslot := hconsistent.slot
  cases call with
  | addMeasResultPCell measResultPCell =>
      cases hkind
      refine ⟨_, rfl, ?_, ?_⟩
      · refine { tag := htag, slot := ?_ }
        show HoldsPCell _ _
        unfold HoldsPCell
        rw [List.filterMap_append]
        simp [ServingCall.pCell,
          ServingCellMeasurementsWrap.addMeasResultPCell]
      · intro hpresent
        change w.servingCellMeasurements.present = _ at hpresent
        rw [htag] at hpresent
        cases hpresent
  | addMeasResultServMo measResultServMO =>
      cases hkind
      rcases hslot with ⟨list, hchoice, hread⟩
      have hpointer : w.nrMeasResultServingMOList = list := by
        have hcurrent := hside htag
        rw [hchoice] at hcurrent
        cases hcurrent
        rfl
      rcases ListStore.exists_add hread measResultServMO with
        ⟨lists, hadd, hgrown⟩
      refine ⟨{ w with lists := lists }, ?_, ?_, hside⟩
      · show w.addMeasResultServMo measResultServMO = _
        unfold ServingCellMeasurementsWrap.addMeasResultServMo
        rw [hpointer, hadd]
      · refine { tag := htag, slot := ⟨list, hchoice, ?_⟩ }
        rw [List.filterMap_append]
        exact hgrown

theorem run_consistent {leftover : Pointer}
    {lists : ListStore MeasResultServMOT}
    {present : ServingCellMeasurementsPR} {calls : List ServingCall}
    (h : forall call, call ∈ calls -> call.kind = present) :
    exists w,
      PartialRun.run ServingCall.step
          (ServingCellMeasurementsWrap.new leftover lists present) calls
        = some w ∧
      Consistent present calls w := by
  rcases PartialRun.run_history
      (R := fun w history => Consistent present history w ∧
        SidePointerCurrent w)
      (fun w history call hmem hw => step_consistent hw (h call hmem))
      (new_consistent leftover lists present) with ⟨w, hrun, hw⟩
  exact ⟨w, hrun, hw.left⟩

/-!
## Calls of the wrong kind
-/

/-- On a consistent union a call of the wrong kind never changes nothing. -/
theorem step_ne_self {present : ServingCellMeasurementsPR}
    {history : List ServingCall} {w : ServingCellMeasurementsWrap}
    {call : ServingCall} (hw : Consistent present history w)
    (hkind : call.kind ≠ present) : call.step w ≠ some w := by
  intro hsame
  cases call with
  | addMeasResultPCell measResultPCell =>
      have hchoice : w.servingCellMeasurements.choice =
          .eutraMeasResultPCell measResultPCell :=
        congrArg (fun w => w.servingCellMeasurements.choice)
          (Option.some.inj hsame).symm
      have hslot := hw.slot
      cases present with
      | nothing =>
          rw [hchoice] at hslot
          cases hslot
      | nrMeasResultServingMOList =>
          rcases hslot with ⟨list, hlist, _⟩
          rw [hchoice] at hlist
          cases hlist
      | eutraMeasResultPCell => exact hkind rfl
  | addMeasResultServMo measResultServMO =>
      change w.addMeasResultServMo measResultServMO = some w at hsame
      unfold ServingCellMeasurementsWrap.addMeasResultServMo at hsame
      cases hadd : w.lists.add w.nrMeasResultServingMOList
          measResultServMO with
      | none =>
          rw [hadd] at hsame
          cases hsame
      | some lists =>
          rw [hadd] at hsame
          have hlists : lists = w.lists :=
            congrArg (fun w => w.lists) (Option.some.inj hsame)
          rw [hlists] at hadd
          exact w.lists.add_ne_self w.nrMeasResultServingMOList
            measResultServMO hadd

theorem staysConsistent_iff (leftover : Pointer)
    (lists : ListStore MeasResultServMOT)
    (present : ServingCellMeasurementsPR) (calls : List ServingCall) :
    StaysConsistent leftover lists present calls <->
      forall call, call ∈ calls -> call.kind = present := by
  constructor
  · intro h call hmem
    by_contra hkind
    rcases List.append_of_mem hmem with ⟨history, upcoming, hsplit⟩
    rcases h history (call :: upcoming) hsplit with
      ⟨w, _, hw, hnext⟩
    exact step_ne_self hw hkind (hnext call rfl hkind)
  · intro h history upcoming hsplit
    have hhistory : forall call, call ∈ history -> call.kind = present := by
      intro call hmem
      apply h
      rw [hsplit]
      exact List.mem_append.mpr (Or.inl hmem)
    rcases run_consistent hhistory with ⟨w, hrun, hw⟩
    refine ⟨w, hrun, hw, ?_⟩
    intro call hnext hkind
    refine absurd (h call ?_) hkind
    rw [hsplit]
    exact List.mem_append.mpr (Or.inr (List.mem_of_head? hnext))

theorem pCell_overwrites_list :
    (PartialRun.run ServingCall.step
        (ServingCellMeasurementsWrap.new .null .empty
          .nrMeasResultServingMOList)
        [.addMeasResultPCell
          { eutraPhysCellId := 1, rsrpResult := 2, rsrqResult := 3 }]).map
      (·.servingCellMeasurements) =
      some
        { present := .nrMeasResultServingMOList
          choice := .eutraMeasResultPCell
            { eutraPhysCellId := 1, rsrpResult := 2, rsrqResult := 3 } } ∧
    ¬ StaysConsistent .null .empty .nrMeasResultServingMOList
        [.addMeasResultPCell
          { eutraPhysCellId := 1, rsrpResult := 2, rsrqResult := 3 }] := by
  refine ⟨rfl, ?_⟩
  intro h
  rcases h _ [] (List.append_nil _).symm with ⟨w, hrun, hw, _⟩
  cases hrun
  rcases hw.slot with ⟨list, hlist, _⟩
  cases hlist

end L3Rrc
end OranE2
