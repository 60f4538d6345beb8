import OranE2.L3Rrc.Types
import OranE2.Library.HomogeneousList
import OranE2.Library.LastWrite
import OranE2.Library.ListStore

/-!
# L3 RRC measurements

`L3RrcMeasurements` wraps a measurement report.  The two adders of neighbour
cells share a counter and a lazily created tagged union, and append through
list pointers that the wrapper keeps beside the union.
-/

namespace OranE2
namespace L3Rrc

open Library

inductive MeasResultNeighCellsPR where
  | nothing
  | measResultListEUTRA
  | measResultListNR
  deriving DecidableEq, Repr

/-- `MeasResultNeighCells_t`; both alternatives of the union are pointers to a
list. -/
structure MeasResultNeighCellsT where
  present : MeasResultNeighCellsPR
  choice : Pointer
  deriving DecidableEq, Repr

structure L3RRCMeasurementsT where
  rrcEvent : Int
  servingCellMeasurements : Pointer
  measResultNeighCells : Option MeasResultNeighCellsT
  deriving DecidableEq, Repr

inductive Neighbour where
  | eutra (measResult : MeasResultEUTRAT)
  | nr (measResult : MeasResultNRT)
  deriving DecidableEq, Repr

inductive NeighbourKind where
  | eutra
  | nr
  deriving DecidableEq, Repr

def Neighbour.kind : Neighbour -> NeighbourKind
  | .eutra _ => .eutra
  | .nr _ => .nr

def NeighbourKind.present : NeighbourKind -> MeasResultNeighCellsPR
  | .eutra => .measResultListEUTRA
  | .nr => .measResultListNR

theorem NeighbourKind.present_inj {kind kind' : NeighbourKind} :
    kind.present = kind'.present <-> kind = kind' := by
  cases kind <;> cases kind' <;> decide

/-- The wrapper with the lists that its pointers lead to. -/
structure L3RrcMeasurements where
  maxMeasResultsItems : Int
  l3RrcMeasurements : L3RRCMeasurementsT
  measResultListEUTRA : Pointer
  measResultListNR : Pointer
  measItemsCounter : Int
  lists : ListStore Neighbour
  deriving DecidableEq, Repr

/-- The members that the second constructor does not initialise; the first
sets the counter only. -/
structure WrapperLeftover where
  measResultListEUTRA : Pointer
  measResultListNR : Pointer
  measItemsCounter : Int
  deriving DecidableEq, Repr

namespace L3RrcMeasurements

def new (leftover : WrapperLeftover) (lists : ListStore Neighbour)
    (rrcEvent : Int) : L3RrcMeasurements where
  maxMeasResultsItems := 8
  l3RrcMeasurements :=
    { rrcEvent := rrcEvent
      servingCellMeasurements := Pointer.null
      measResultNeighCells := none }
  measResultListEUTRA := leftover.measResultListEUTRA
  measResultListNR := leftover.measResultListNR
  measItemsCounter := 0
  lists := lists

def wrap (leftover : WrapperLeftover) (lists : ListStore Neighbour)
    (l3RrcMeasurements : L3RRCMeasurementsT) : L3RrcMeasurements where
  maxMeasResultsItems := 8
  l3RrcMeasurements := l3RrcMeasurements
  measResultListEUTRA := leftover.measResultListEUTRA
  measResultListNR := leftover.measResultListNR
  measItemsCounter := leftover.measItemsCounter
  lists := lists

def addMeasResultNeighCells (w : L3RrcMeasurements) :
    MeasResultNeighCellsPR -> L3RrcMeasurements
  | .measResultListEUTRA =>
      { w with
        l3RrcMeasurements :=
          { w.l3RrcMeasurements with
            measResultNeighCells := some
              { present := .measResultListEUTRA
                choice := w.lists.alloc.2 } }
        measResultListEUTRA := w.lists.alloc.2
        lists := w.lists.alloc.1 }
  | .measResultListNR =>
      { w with
        l3RrcMeasurements :=
          { w.l3RrcMeasurements with
            measResultNeighCells := some
              { present := .measResultListNR
                choice := w.lists.alloc.2 } }
        measResultListNR := w.lists.alloc.2
        lists := w.lists.alloc.1 }
  | .nothing =>
      { w with
        l3RrcMeasurements :=
          { w.l3RrcMeasurements with
            measResultNeighCells := some
              { present := .nothing, choice := Pointer.null } } }

def listPointer (w : L3RrcMeasurements) : NeighbourKind -> Pointer
  | .eutra => w.measResultListEUTRA
  | .nr => w.measResultListNR

def appendNeighCell (w : L3RrcMeasurements) (kind : NeighbourKind)
    (measResultItem : Neighbour) : Option L3RrcMeasurements :=
  match w.l3RrcMeasurements.measResultNeighCells with
  | none => none
  | some cells =>
      if cells.present ≠ kind.present then
        some w
      else
        match w.lists.add (w.listPointer kind) measResultItem with
        | none => none
        | some lists =>
            some
              { w with
                measItemsCounter := w.measItemsCounter + 1
                lists := lists }

def addMeasResultOfKind (w : L3RrcMeasurements) (kind : NeighbourKind)
    (measResultItem : Neighbour) : Option L3RrcMeasurements :=
  if w.measItemsCounter = w.maxMeasResultsItems then
    some w
  else
    match w.l3RrcMeasurements.measResultNeighCells with
    | none =>
        (w.addMeasResultNeighCells kind.present).appendNeighCell kind
          measResultItem
    | some _ => w.appendNeighCell kind measResultItem

def addMeasResultEUTRANeighCells (w : L3RrcMeasurements)
    (measResultItemEUTRA : MeasResultEUTRAT) : Option L3RrcMeasurements :=
  w.addMeasResultOfKind .eutra (.eutra measResultItemEUTRA)

def addMeasResultNRNeighCells (w : L3RrcMeasurements)
    (measResultItemNR : MeasResultNRT) : Option L3RrcMeasurements :=
  w.addMeasResultOfKind .nr (.nr measResultItemNR)

def sinrMeasResult (neighCellId sinr : Int) : MeasResultNRT :=
  (MeasResultNRT.new neighCellId).addCellResults ResultCell.SSB
    (MeasQuantityResultsT.new.addSinr sinr)

def addNeighbourCellMeasurement (w : L3RrcMeasurements)
    (neighCellId sinr : Int) : Option L3RrcMeasurements :=
  w.addMeasResultNRNeighCells (sinrMeasResult neighCellId sinr)

def addServingCellMeasurement (w : L3RrcMeasurements)
    (servingCellMeasurements : Pointer) : L3RrcMeasurements :=
  { w with
    l3RrcMeasurements :=
      { w.l3RrcMeasurements with
        servingCellMeasurements := servingCellMeasurements } }

end L3RrcMeasurements

inductive MeasCall where
  | addMeasResultEUTRANeighCells (measResultItemEUTRA : MeasResultEUTRAT)
  | addMeasResultNRNeighCells (measResultItemNR : MeasResultNRT)
  | addNeighbourCellMeasurement (neighCellId sinr : Int)
  | addServingCellMeasurement (servingCellMeasurements : Pointer)
  deriving DecidableEq, Repr

def MeasCall.step (w : L3RrcMeasurements) :
    MeasCall -> Option L3RrcMeasurements
  | .addMeasResultEUTRANeighCells measResultItemEUTRA =>
      w.addMeasResultEUTRANeighCells measResultItemEUTRA
  | .addMeasResultNRNeighCells measResultItemNR =>
      w.addMeasResultNRNeighCells measResultItemNR
  | .addNeighbourCellMeasurement neighCellId sinr =>
      w.addNeighbourCellMeasurement neighCellId sinr
  | .addServingCellMeasurement servingCellMeasurements =>
      some (w.addServingCellMeasurement servingCellMeasurements)

def MeasCall.neighbour : MeasCall -> Option Neighbour
  | .addMeasResultEUTRANeighCells measResultItemEUTRA =>
      some (.eutra measResultItemEUTRA)
  | .addMeasResultNRNeighCells measResultItemNR =>
      some (.nr measResultItemNR)
  | .addNeighbourCellMeasurement neighCellId sinr =>
      some (.nr (L3RrcMeasurements.sinrMeasResult neighCellId sinr))
  | .addServingCellMeasurement _ => none

def MeasCall.serving : MeasCall -> Option Pointer
  | .addServingCellMeasurement servingCellMeasurements =>
      some servingCellMeasurements
  | _ => none

theorem MeasCall.step_cases (w : L3RrcMeasurements) (call : MeasCall) :
    (exists x, call.neighbour = some x ∧ call.serving = none ∧
      call.step w = w.addMeasResultOfKind x.kind x) ∨
    (exists p, call.neighbour = none ∧ call.serving = some p ∧
      call.step w = some (w.addServingCellMeasurement p)) := by
  cases call with
  | addServingCellMeasurement p => exact Or.inr ⟨p, rfl, rfl, rfl⟩
  | _ => exact Or.inl ⟨_, rfl, rfl, rfl⟩

/-!
## The list that a structure holds

What an encoder finds when it follows the union of the structure itself.
-/

abbrev NeighbourList := HomogeneousList Neighbour.kind 8

def ReadsAs (lists : ListStore Neighbour)
    (l3RrcMeasurements : L3RRCMeasurementsT) (held : Option NeighbourList) :
    Prop :=
  match held with
  | none => l3RrcMeasurements.measResultNeighCells = none
  | some l =>
      exists cells, l3RrcMeasurements.measResultNeighCells = some cells ∧
        cells.present = l.tag.present ∧
        lists.read cells.choice = some l.items

namespace L3RrcMeasurements

/-- The wrapper keeps count of the list that its structure holds and appends
through the pointer that the structure holds. -/
structure Tracks (w : L3RrcMeasurements) (held : Option NeighbourList) :
    Prop where
  maximum : w.maxMeasResultsItems = 8
  reads : ReadsAs w.lists w.l3RrcMeasurements held
  counter : w.measItemsCounter = (held.map fun l => l.items.length).getD 0
  pointer : forall l cells, held = some l ->
    w.l3RrcMeasurements.measResultNeighCells = some cells ->
    w.listPointer l.tag = cells.choice

theorem tracks_new (leftover : WrapperLeftover)
    (lists : ListStore Neighbour) (rrcEvent : Int) :
    (new leftover lists rrcEvent).Tracks none where
  maximum := rfl
  reads := rfl
  counter := rfl
  pointer := by
    intro l cells hheld
    cases hheld

theorem tracks_addServingCellMeasurement {w : L3RrcMeasurements}
    {held : Option NeighbourList} (h : w.Tracks held) (p : Pointer) :
    (w.addServingCellMeasurement p).Tracks held where
  maximum := h.maximum
  reads := by
    have hreads := h.reads
    cases held with
    | none => exact hreads
    | some l => exact hreads
  counter := h.counter
  pointer := h.pointer

theorem tracks_addMeasResultNeighCells {w : L3RrcMeasurements}
    (h : w.Tracks none) (kind : NeighbourKind) :
    (w.addMeasResultNeighCells kind.present).Tracks
      (some (HomogeneousList.nil kind)) := by
  cases kind <;>
    exact
      { maximum := h.maximum
        reads := ⟨_, rfl, rfl, w.lists.read_alloc⟩
        counter := h.counter
        pointer := by
          intro l cells hheld hcells
          cases hheld
          cases hcells
          rfl }

theorem addMeasResultOfKind_first {w : L3RrcMeasurements}
    (h : w.Tracks none) (kind : NeighbourKind) (x : Neighbour) :
    w.addMeasResultOfKind kind x =
      (w.addMeasResultNeighCells kind.present).addMeasResultOfKind kind x := by
  have hcreated := tracks_addMeasResultNeighCells h kind
  rcases hcreated.reads with ⟨cells, hcells, _⟩
  unfold addMeasResultOfKind
  rw [h.counter, h.maximum, hcreated.counter, hcreated.maximum, hcells,
    show w.l3RrcMeasurements.measResultNeighCells = none from h.reads]
  rfl

theorem appendNeighCell_of_read {w : L3RrcMeasurements}
    {cells : MeasResultNeighCellsT} {kind : NeighbourKind}
    {xs : List Neighbour} (x : Neighbour)
    (hcells : w.l3RrcMeasurements.measResultNeighCells = some cells)
    (hpresent : cells.present = kind.present)
    (hread : w.lists.read (w.listPointer kind) = some xs) :
    exists lists,
      w.appendNeighCell kind x =
          some
            { w with
              measItemsCounter := w.measItemsCounter + 1
              lists := lists } ∧
        lists.read (w.listPointer kind) = some (xs ++ [x]) := by
  rcases ListStore.exists_add hread x with ⟨lists, hadd, hgrown⟩
  refine ⟨lists, ?_, hgrown⟩
  unfold appendNeighCell
  rw [hcells]
  show (if cells.present ≠ kind.present then _ else _) = _
  rw [if_neg (by
    intro hne
    exact hne hpresent), hadd]

theorem counter_eq_maximum_iff {w : L3RrcMeasurements} {l : NeighbourList}
    (h : w.Tracks (some l)) :
    w.measItemsCounter = w.maxMeasResultsItems <-> l.items.length = 8 := by
  rw [h.counter, h.maximum]
  exact Int.ofNat_inj

theorem addMeasResultOfKind_accepted {w : L3RrcMeasurements}
    {l : NeighbourList} (h : w.Tracks (some l)) {x : Neighbour}
    (haccepts : l.Accepts x) :
    exists w',
      w.addMeasResultOfKind x.kind x = some w' ∧
        w'.Tracks (some (l.push x)) ∧
        w'.l3RrcMeasurements = w.l3RrcMeasurements := by
  rcases h.reads with ⟨cells, hcells, hpresent, hread⟩
  rcases haccepts with ⟨hroom, hkind⟩
  have hpointer := h.pointer l cells rfl hcells
  rw [← hpointer, ← hkind] at hread
  rw [← hkind] at hpresent
  rcases appendNeighCell_of_read x hcells hpresent hread with
    ⟨lists, happend, hgrown⟩
  rcases HomogeneousList.push_of_accepts ⟨hroom, hkind⟩ with
    ⟨htag, hitems⟩
  refine ⟨_, (Eq.trans ?_ happend), ?_, rfl⟩
  · unfold addMeasResultOfKind
    rw [if_neg (fun hfull =>
      Nat.ne_of_lt hroom ((counter_eq_maximum_iff h).mp hfull)), hcells]
  · exact
      { maximum := h.maximum
        reads := by
          refine ⟨cells, hcells, ?_, ?_⟩
          · rw [htag, ← hkind]
            exact hpresent
          · rw [hitems, ← hpointer, ← hkind]
            exact hgrown
        counter := by
          show w.measItemsCounter + 1 = ((l.push x).items.length : Int)
          rw [h.counter, hitems, List.length_append]
          rfl
        pointer := by
          intro l' cells' hheld hcells'
          cases hheld
          change w.l3RrcMeasurements.measResultNeighCells = _ at hcells'
          rw [hcells] at hcells'
          cases hcells'
          rw [htag]
          exact hpointer }

theorem addMeasResultOfKind_refused {w : L3RrcMeasurements}
    {l : NeighbourList} (h : w.Tracks (some l)) {x : Neighbour}
    (hrefused : ¬ l.Accepts x) :
    w.addMeasResultOfKind x.kind x = some w := by
  rcases h.reads with ⟨cells, hcells, hpresent, _⟩
  unfold addMeasResultOfKind
  by_cases hfull : l.items.length = 8
  · exact if_pos ((counter_eq_maximum_iff h).mpr hfull)
  · have hkind : cells.present ≠ x.kind.present := by
      rw [hpresent]
      intro hsame
      apply hrefused
      constructor
      · exact Nat.lt_of_le_of_ne l.length_le hfull
      · exact (NeighbourKind.present_inj.mp hsame).symm
    rw [if_neg (fun hcounter => hfull ((counter_eq_maximum_iff h).mp hcounter)),
      hcells]
    show w.appendNeighCell x.kind x = some w
    unfold appendNeighCell
    rw [hcells]
    exact if_pos hkind

theorem addMeasResultOfKind_tracks {w : L3RrcMeasurements}
    {held : Option NeighbourList} (h : w.Tracks held) (x : Neighbour) :
    exists w',
      w.addMeasResultOfKind x.kind x = some w' ∧
        w'.Tracks (HomogeneousList.add held x) ∧
        w'.l3RrcMeasurements.rrcEvent = w.l3RrcMeasurements.rrcEvent ∧
        w'.l3RrcMeasurements.servingCellMeasurements =
          w.l3RrcMeasurements.servingCellMeasurements := by
  cases held with
  | none =>
      have hcreated := tracks_addMeasResultNeighCells h x.kind
      have hroom : (HomogeneousList.nil x.kind : NeighbourList).Accepts x :=
        ⟨Nat.zero_lt_succ 7, rfl⟩
      rcases addMeasResultOfKind_accepted hcreated hroom with
        ⟨w', hadd, htracks, hl3⟩
      refine ⟨w', ?_, htracks, ?_, ?_⟩
      · rw [addMeasResultOfKind_first h]
        exact hadd
      · rw [hl3]
        cases x.kind <;> rfl
      · rw [hl3]
        cases x.kind <;> rfl
  | some l =>
      by_cases haccepts : l.Accepts x
      · rcases addMeasResultOfKind_accepted h haccepts with
          ⟨w', hadd, htracks, hl3⟩
        exact ⟨w', hadd, htracks, by rw [hl3], by rw [hl3]⟩
      · refine ⟨w, addMeasResultOfKind_refused h haccepts, ?_, rfl, rfl⟩
        show w.Tracks (some (l.push x))
        rw [HomogeneousList.push_of_not_accepts haccepts]
        exact h

end L3RrcMeasurements

end L3Rrc
end OranE2
