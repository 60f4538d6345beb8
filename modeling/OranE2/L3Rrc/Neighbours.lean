import OranE2.L3Rrc.Measurements

/-!
# Neighbour cells of a fresh report

A report built from an event behaves as an event, a serving measurement that
keeps the last write, and a bounded homogeneous list of neighbours.
-/

namespace OranE2
namespace L3Rrc

open Library

/-- What a report says: the abstract state that the wrapper refines. -/
structure Report where
  rrcEvent : Int
  serving : Pointer
  neighbours : Option NeighbourList

def Report.next (report : Report) (call : MeasCall) : Report where
  rrcEvent := report.rrcEvent
  serving := call.serving.getD report.serving
  neighbours :=
    match call.neighbour with
    | none => report.neighbours
    | some x => HomogeneousList.add report.neighbours x

def offered (calls : List MeasCall) : List Neighbour :=
  calls.filterMap MeasCall.neighbour

def offeredOfKind (first : Neighbour) (calls : List MeasCall) :
    List Neighbour :=
  (offered calls).filter fun x => x.kind = first.kind

/-- The structure after the calls, in the terms of the calls alone. -/
structure RefinesBoundedList (rrcEvent : Int) (calls : List MeasCall)
    (w : L3RrcMeasurements) : Prop where
  absent : w.l3RrcMeasurements.measResultNeighCells = none <->
    offered calls = []
  list : forall first rest, offered calls = first :: rest ->
    exists cells,
      w.l3RrcMeasurements.measResultNeighCells = some cells ∧
        cells.present = first.kind.present ∧
        w.lists.read cells.choice =
          some ((offeredOfKind first calls).take 8) ∧
        w.measItemsCounter = ((offeredOfKind first calls).take 8).length
  event : w.l3RrcMeasurements.rrcEvent = rrcEvent
  serving : w.l3RrcMeasurements.servingCellMeasurements =
    lastWrite MeasCall.serving Pointer.null calls

/-- The next call offers a neighbour of another kind, or one more of the kind
of a list that is full. -/
def Refused (calls : List MeasCall) (call : MeasCall) : Prop :=
  exists x first rest,
    call.neighbour = some x ∧ offered calls = first :: rest ∧
      (x.kind ≠ first.kind ∨ 8 ≤ (offeredOfKind first calls).length)

/-!
## Refinement
-/

structure Represents (w : L3RrcMeasurements) (report : Report) : Prop where
  tracks : w.Tracks report.neighbours
  event : w.l3RrcMeasurements.rrcEvent = report.rrcEvent
  serving : w.l3RrcMeasurements.servingCellMeasurements = report.serving

theorem step_represents {w : L3RrcMeasurements} {report : Report}
    (h : Represents w report) (call : MeasCall) :
    exists w', call.step w = some w' ∧ Represents w' (report.next call) := by
  rcases call.step_cases w with
    ⟨x, hneighbour, hserving, hstep⟩ | ⟨p, hneighbour, hserving, hstep⟩
  · rcases L3RrcMeasurements.addMeasResultOfKind_tracks h.tracks x with
      ⟨w', hadd, htracks, hevent, hsame⟩
    refine ⟨w', hstep.trans hadd, ?_⟩
    unfold Report.next
    rw [hneighbour, hserving]
    exact
      { tracks := htracks
        event := hevent.trans h.event
        serving := hsame.trans h.serving }
  · refine ⟨w.addServingCellMeasurement p, hstep, ?_⟩
    unfold Report.next
    rw [hneighbour, hserving]
    exact
      { tracks := L3RrcMeasurements.tracks_addServingCellMeasurement
          h.tracks p
        event := h.event
        serving := rfl }

theorem run_represents (leftover : WrapperLeftover)
    (lists : ListStore Neighbour) (rrcEvent : Int) (calls : List MeasCall) :
    exists w,
      PartialRun.run MeasCall.step
          (L3RrcMeasurements.new leftover lists rrcEvent) calls = some w ∧
        Represents w
          (calls.foldl Report.next
            { rrcEvent := rrcEvent
              serving := Pointer.null
              neighbours := none }) := by
  apply PartialRun.run_simulates
  · intro w report call _ h
    exact step_represents h call
  · exact
      { tracks := L3RrcMeasurements.tracks_new leftover lists rrcEvent
        event := rfl
        serving := rfl }

/-!
## The report in closed form
-/

theorem foldl_next (report : Report) (calls : List MeasCall) :
    calls.foldl Report.next report =
      { rrcEvent := report.rrcEvent
        serving := lastWrite MeasCall.serving report.serving calls
        neighbours :=
          (offered calls).foldl HomogeneousList.add report.neighbours } := by
  induction calls generalizing report with
  | nil => rfl
  | cons call calls ih =>
      rw [List.foldl_cons, ih, lastWrite_cons]
      unfold Report.next offered
      cases hneighbour : call.neighbour with
      | none => rw [List.filterMap_cons_none hneighbour]
      | some x => rw [List.filterMap_cons_some hneighbour, List.foldl_cons]

theorem exists_held {calls : List MeasCall} {first : Neighbour}
    {rest : List Neighbour} (h : offered calls = first :: rest) :
    exists l : NeighbourList,
      (offered calls).foldl HomogeneousList.add none = some l ∧
        l.tag = first.kind ∧
        l.items = (offeredOfKind first calls).take 8 := by
  unfold offeredOfKind
  rw [h]
  exact HomogeneousList.foldl_add_cons first rest

theorem refines_of_represents {rrcEvent : Int} {calls : List MeasCall}
    {w : L3RrcMeasurements}
    (h : Represents w
      (calls.foldl Report.next
        { rrcEvent := rrcEvent
          serving := Pointer.null
          neighbours := none })) :
    RefinesBoundedList rrcEvent calls w := by
  rw [foldl_next] at h
  have hreads := h.tracks.reads
  have hcounter := h.tracks.counter
  cases hoffered : offered calls with
  | nil =>
      rw [hoffered] at hreads
      exact
        { absent := iff_of_true hreads hoffered
          list := by
            intro first rest hsome
            rw [hoffered] at hsome
            cases hsome
          event := h.event
          serving := h.serving }
  | cons first rest =>
      rcases exists_held hoffered with ⟨l, hfold, htag, hitems⟩
      rw [hfold] at hreads hcounter
      rcases hreads with ⟨cells, hcells, hpresent, hread⟩
      exact
        { absent := by
            rw [hcells, hoffered]
            exact iff_of_false (Option.some_ne_none cells)
              (List.cons_ne_nil first rest)
          list := by
            intro first' rest' hsome
            rw [hoffered] at hsome
            cases hsome
            refine ⟨cells, hcells, ?_, ?_, ?_⟩
            · rw [hpresent, htag]
            · rw [hread, hitems]
            · rw [hcounter, ← hitems]
              rfl
          event := h.event
          serving := h.serving }

theorem step_of_refused {rrcEvent : Int} {calls : List MeasCall}
    {w : L3RrcMeasurements} {call : MeasCall}
    (h : Represents w
      (calls.foldl Report.next
        { rrcEvent := rrcEvent
          serving := Pointer.null
          neighbours := none }))
    (hrefused : Refused calls call) : call.step w = some w := by
  rw [foldl_next] at h
  have htracks := h.tracks
  rcases hrefused with ⟨x, first, rest, hneighbour, hoffered, hwhy⟩
  rcases exists_held hoffered with ⟨l, hfold, htag, hitems⟩
  change w.Tracks ((offered calls).foldl HomogeneousList.add none) at htracks
  rw [hfold] at htracks
  have hnot : ¬ l.Accepts x := by
    intro haccepts
    rcases haccepts with ⟨hroom, hkind⟩
    rcases hwhy with hother | hfull
    · exact hother (hkind.trans htag)
    · rw [hitems, List.length_take, Nat.min_eq_left hfull] at hroom
      exact Nat.lt_irrefl 8 hroom
  rcases call.step_cases w with
    ⟨y, hy, _, hstep⟩ | ⟨p, hnone, _, _⟩
  · rw [hneighbour] at hy
    cases hy
    rw [hstep]
    exact L3RrcMeasurements.addMeasResultOfKind_refused htracks hnot
  · rw [hneighbour] at hnone
    cases hnone

theorem measurements_refine_bounded_list (leftover : WrapperLeftover)
    (lists : ListStore Neighbour) (rrcEvent : Int) (calls : List MeasCall) :
    exists w,
      PartialRun.run MeasCall.step
          (L3RrcMeasurements.new leftover lists rrcEvent) calls = some w ∧
        RefinesBoundedList rrcEvent calls w ∧
        forall call, Refused calls call -> call.step w = some w := by
  rcases run_represents leftover lists rrcEvent calls with ⟨w, hrun, hw⟩
  refine ⟨w, hrun, refines_of_represents hw, ?_⟩
  intro call hrefused
  exact step_of_refused hw hrefused

end L3Rrc
end OranE2
