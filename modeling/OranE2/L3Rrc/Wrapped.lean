import OranE2.L3Rrc.Neighbours

/-!
# Neighbour cells of a wrapped report

The second constructor wraps an existing structure and leaves the counter and
both list pointers as the memory had them.  This module determines for which
calls a wrapped structure obeys the law of a fresh one all the same.
-/

namespace OranE2
namespace L3Rrc

open Library

/-- Whatever the wrapper's memory held, at every point of the calls the
structure holds the list that a fresh report would have grown from its own. -/
def ObeysLaw (lists : ListStore Neighbour)
    (l3RrcMeasurements : L3RRCMeasurementsT) (held : Option NeighbourList)
    (calls : List MeasCall) : Prop :=
  forall leftover history upcoming, calls = history ++ upcoming ->
    exists w,
      PartialRun.run MeasCall.step
          (L3RrcMeasurements.wrap leftover lists l3RrcMeasurements) history
        = some w ∧
      ReadsAs w.lists w.l3RrcMeasurements
        ((offered history).foldl HomogeneousList.add held)

/-!
## Calls without effect on the list
-/

def HasOtherList (w : L3RrcMeasurements) (x : Neighbour) : Prop :=
  exists cells, w.l3RrcMeasurements.measResultNeighCells = some cells ∧
    cells.present ≠ x.kind.present

theorem addMeasResultOfKind_inert {w : L3RrcMeasurements} {x : Neighbour}
    (h : HasOtherList w x) : w.addMeasResultOfKind x.kind x = some w := by
  rcases h with ⟨cells, hcells, hpresent⟩
  unfold L3RrcMeasurements.addMeasResultOfKind
  by_cases hfull : w.measItemsCounter = w.maxMeasResultsItems
  · exact if_pos hfull
  · rw [if_neg hfull, hcells]
    show w.appendNeighCell x.kind x = some w
    unfold L3RrcMeasurements.appendNeighCell
    rw [hcells]
    exact if_pos hpresent

theorem step_inert {w : L3RrcMeasurements} {call : MeasCall}
    (h : forall x, call.neighbour = some x -> HasOtherList w x) :
    exists p, call.step w = some (w.addServingCellMeasurement p) := by
  rcases call.step_cases w with
    ⟨x, hneighbour, _, hstep⟩ | ⟨p, _, _, hstep⟩
  · refine ⟨w.l3RrcMeasurements.servingCellMeasurements, ?_⟩
    rw [hstep]
    exact addMeasResultOfKind_inert (h x hneighbour)
  · exact ⟨p, hstep⟩

theorem run_inert {w : L3RrcMeasurements} {calls : List MeasCall}
    (h : forall x, x ∈ offered calls -> HasOtherList w x) :
    exists p, PartialRun.run MeasCall.step w calls =
      some (w.addServingCellMeasurement p) := by
  induction calls generalizing w with
  | nil => exact ⟨w.l3RrcMeasurements.servingCellMeasurements, rfl⟩
  | cons call calls ih =>
      have hcall : forall x, call.neighbour = some x -> HasOtherList w x := by
        intro x hx
        exact h x (List.mem_filterMap.mpr ⟨call, List.mem_cons_self, hx⟩)
      rcases step_inert hcall with ⟨p, hstep⟩
      have hrest : forall x, x ∈ offered calls ->
          HasOtherList (w.addServingCellMeasurement p) x := by
        intro x hx
        rcases List.mem_filterMap.mp hx with ⟨later, hlater, hneighbour⟩
        exact h x (List.mem_filterMap.mpr
          ⟨later, List.mem_cons_of_mem call hlater, hneighbour⟩)
      rcases ih hrest with ⟨q, hrun⟩
      refine ⟨q, ?_⟩
      rw [PartialRun.run_cons_some hstep]
      exact hrun

/-!
## Lawful calls
-/

section Wrapped

variable {lists : ListStore Neighbour}
variable {l3RrcMeasurements : L3RRCMeasurementsT}
variable {held : Option NeighbourList}

theorem hasOtherList_wrap (hreads : ReadsAs lists l3RrcMeasurements held)
    {x : Neighbour} (h : exists l, held = some l ∧ x.kind ≠ l.tag)
    (leftover : WrapperLeftover) :
    HasOtherList
      (L3RrcMeasurements.wrap leftover lists l3RrcMeasurements) x := by
  rcases h with ⟨l, rfl, hkind⟩
  rcases hreads with ⟨cells, hcells, hpresent, _⟩
  refine ⟨cells, hcells, ?_⟩
  rw [hpresent]
  intro hsame
  exact hkind (NeighbourKind.present_inj.mp hsame).symm

theorem obeysLaw_of_other_kind
    (hreads : ReadsAs lists l3RrcMeasurements held) {calls : List MeasCall}
    (h : forall x, x ∈ offered calls ->
      exists l, held = some l ∧ x.kind ≠ l.tag) :
    ObeysLaw lists l3RrcMeasurements held calls := by
  intro leftover history upcoming hsplit
  have hhistory : forall x, x ∈ offered history ->
      exists l, held = some l ∧ x.kind ≠ l.tag := by
    intro x hx
    apply h
    unfold offered
    rw [hsplit, List.filterMap_append]
    exact List.mem_append.mpr (Or.inl hx)
  rcases run_inert (fun x hx =>
      hasOtherList_wrap hreads (hhistory x hx) leftover) with ⟨p, hrun⟩
  refine ⟨_, hrun, ?_⟩
  rw [HomogeneousList.foldl_add_of_refused hhistory]
  cases held with
  | none => exact hreads
  | some l => exact hreads

/-!
## Unlawful calls
-/

def disturbs (held : Option NeighbourList) (call : MeasCall) :
    Option Neighbour :=
  call.neighbour.filter fun x =>
    match held with
    | none => true
    | some l => x.kind = l.tag

theorem other_kind_of_not_disturbs {call : MeasCall} {x : Neighbour}
    (h : disturbs held call = none) (hx : call.neighbour = some x) :
    exists l, held = some l ∧ x.kind ≠ l.tag := by
  unfold disturbs at h
  rw [hx] at h
  cases held with
  | none => cases h
  | some l =>
      refine ⟨l, rfl, ?_⟩
      intro hkind
      rw [Option.filter_some_pos (by exact decide_eq_true hkind)] at h
      cases h

theorem step_of_obeysLaw (hreads : ReadsAs lists l3RrcMeasurements held)
    {pre post : List MeasCall} {call : MeasCall}
    (h : ObeysLaw lists l3RrcMeasurements held (pre ++ call :: post))
    (hpre : forall earlier, earlier ∈ pre -> disturbs held earlier = none)
    (leftover : WrapperLeftover) :
    exists p w,
      call.step
          ((L3RrcMeasurements.wrap leftover lists
            l3RrcMeasurements).addServingCellMeasurement p) = some w ∧
        ReadsAs w.lists w.l3RrcMeasurements
          ((offered (pre ++ [call])).foldl HomogeneousList.add held) := by
  have hinert : forall x, x ∈ offered pre ->
      HasOtherList
        (L3RrcMeasurements.wrap leftover lists l3RrcMeasurements) x := by
    intro x hx
    rcases List.mem_filterMap.mp hx with ⟨earlier, hearlier, hneighbour⟩
    exact hasOtherList_wrap hreads
      (other_kind_of_not_disturbs (hpre earlier hearlier) hneighbour) leftover
  rcases run_inert hinert with ⟨p, hrun⟩
  rcases h leftover (pre ++ [call]) post (by simp) with ⟨w, hfinal, hw⟩
  rw [PartialRun.run_snoc, hrun] at hfinal
  exact ⟨p, w, hfinal, hw⟩

/-- Without a list, a leftover counter that looks full refuses the call. -/
theorem held_of_obeysLaw {pre post : List MeasCall} {call : MeasCall}
    {x : Neighbour} (hreads : ReadsAs lists l3RrcMeasurements held)
    (h : ObeysLaw lists l3RrcMeasurements held (pre ++ call :: post))
    (hpre : forall earlier, earlier ∈ pre -> disturbs held earlier = none)
    (hx : call.neighbour = some x) : held ≠ none := by
  intro hnone
  subst hnone
  rcases step_of_obeysLaw hreads h hpre
      { measResultListEUTRA := Pointer.null
        measResultListNR := Pointer.null
        measItemsCounter := 8 } with ⟨p, w, hstep, hw⟩
  rcases call.step_cases ((L3RrcMeasurements.wrap _ lists
      l3RrcMeasurements).addServingCellMeasurement p) with
    ⟨y, _, _, hadd⟩ | ⟨_, hsilent, _, _⟩
  · rw [hadd] at hstep
    cases hstep
    cases hfold : (offered (pre ++ [call])).foldl HomogeneousList.add
        (none : Option NeighbourList) with
    | none =>
        have hoffered := HomogeneousList.foldl_add_eq_none_iff.mp hfold
        unfold offered at hoffered
        rw [List.filterMap_append, List.filterMap_cons_some hx] at hoffered
        simp at hoffered
    | some l =>
        rw [hfold] at hw
        rcases hw with ⟨cells, hcells, _⟩
        change l3RrcMeasurements.measResultNeighCells = some cells at hcells
        rw [show l3RrcMeasurements.measResultNeighCells = none from hreads]
          at hcells
        cases hcells
  · rw [hx] at hsilent
    cases hsilent

/-- With a list of the kind offered, a leftover null pointer is followed. -/
theorem kind_of_obeysLaw {l : NeighbourList} {pre post : List MeasCall}
    {call : MeasCall} {x : Neighbour}
    (hreads : ReadsAs lists l3RrcMeasurements (some l))
    (h : ObeysLaw lists l3RrcMeasurements (some l) (pre ++ call :: post))
    (hpre : forall earlier, earlier ∈ pre ->
      disturbs (some l) earlier = none)
    (hx : call.neighbour = some x) : x.kind ≠ l.tag := by
  intro hkind
  have hown := hreads
  rcases hown with ⟨cells, hcells, hpresent, _⟩
  rcases step_of_obeysLaw hreads h hpre
      { measResultListEUTRA := Pointer.null
        measResultListNR := Pointer.null
        measItemsCounter := 0 } with ⟨p, w, hstep, _⟩
  rcases call.step_cases ((L3RrcMeasurements.wrap _ lists
      l3RrcMeasurements).addServingCellMeasurement p) with
    ⟨y, hy, _, hadd⟩ | ⟨_, hsilent, _, _⟩
  · rw [hx] at hy
    cases hy
    have hnone : ((L3RrcMeasurements.wrap
        { measResultListEUTRA := Pointer.null
          measResultListNR := Pointer.null
          measItemsCounter := 0 } lists
        l3RrcMeasurements).addServingCellMeasurement
          p).addMeasResultOfKind x.kind x = none := by
      unfold L3RrcMeasurements.addMeasResultOfKind
        L3RrcMeasurements.appendNeighCell
      simp only [L3RrcMeasurements.wrap,
        L3RrcMeasurements.addServingCellMeasurement, hcells, hpresent, hkind]
      cases l.tag <;> rfl
    rw [hadd, hnone] at hstep
    cases hstep
  · rw [hx] at hsilent
    cases hsilent

theorem other_kind_of_obeysLaw
    (hreads : ReadsAs lists l3RrcMeasurements held) {calls : List MeasCall}
    (h : ObeysLaw lists l3RrcMeasurements held calls) :
    forall x, x ∈ offered calls ->
      exists l, held = some l ∧ x.kind ≠ l.tag := by
  rcases exists_first_write (disturbs held) calls with
    hsilent | ⟨pre, call, post, x, hsplit, hx, hpre⟩
  · intro x hx
    rcases List.mem_filterMap.mp hx with ⟨call, hmem, hneighbour⟩
    exact other_kind_of_not_disturbs (hsilent call hmem) hneighbour
  · rw [hsplit] at h
    rcases Option.filter_eq_some_iff.mp hx with ⟨hneighbour, hkind⟩
    cases held with
    | none =>
        exact absurd rfl (held_of_obeysLaw hreads h hpre hneighbour)
    | some l =>
        exact absurd (of_decide_eq_true hkind)
          (kind_of_obeysLaw hreads h hpre hneighbour)

theorem wrapped_obeysLaw_iff
    (hreads : ReadsAs lists l3RrcMeasurements held)
    (calls : List MeasCall) :
    ObeysLaw lists l3RrcMeasurements held calls <->
      forall x, x ∈ offered calls ->
        exists l, held = some l ∧ x.kind ≠ l.tag := by
  constructor
  · exact other_kind_of_obeysLaw hreads
  · exact obeysLaw_of_other_kind hreads

end Wrapped

def oneNeighbourReport : L3RRCMeasurementsT where
  rrcEvent := 0
  servingCellMeasurements := Pointer.null
  measResultNeighCells := some
    { present := .measResultListNR, choice := Pointer.addr 0 }

def oneNeighbourList : NeighbourList where
  tag := .nr
  items := [.nr (L3RrcMeasurements.sinrMeasResult 1 10)]
  items_kind := by
    intro x hx
    rw [List.mem_singleton.mp hx]
    rfl
  length_le := Nat.succ_le_succ (Nat.zero_le 7)

theorem oneNeighbourReport_refuses_eutra :
    ReadsAs { lists := [oneNeighbourList.items] } oneNeighbourReport
        (some oneNeighbourList) ∧
      ObeysLaw { lists := [oneNeighbourList.items] } oneNeighbourReport
        (some oneNeighbourList)
        [.addMeasResultEUTRANeighCells
          { eutraPhysCellId := 4, rsrp := none, rsrq := none,
            sinr := some 40 }] := by
  have hreads : ReadsAs { lists := [oneNeighbourList.items] }
      oneNeighbourReport (some oneNeighbourList) := ⟨_, rfl, rfl, rfl⟩
  refine ⟨hreads, (wrapped_obeysLaw_iff hreads _).mpr ?_⟩
  intro x hx
  rw [List.mem_singleton.mp hx]
  exact ⟨oneNeighbourList, rfl, by intro hkind; cases hkind⟩

/-- In memory with a null list pointer the adder leaves its domain; in memory
where the counter looks full it refuses a second neighbour. -/
theorem oneNeighbourReport_append_lost :
    PartialRun.run MeasCall.step
        (L3RrcMeasurements.wrap
          { measResultListEUTRA := Pointer.null
            measResultListNR := Pointer.null
            measItemsCounter := 0 }
          { lists := [oneNeighbourList.items] } oneNeighbourReport)
        [.addNeighbourCellMeasurement 2 20] = none ∧
    (PartialRun.run MeasCall.step
        (L3RrcMeasurements.wrap
          { measResultListEUTRA := Pointer.null
            measResultListNR := Pointer.addr 0
            measItemsCounter := 8 }
          { lists := [oneNeighbourList.items] } oneNeighbourReport)
        [.addNeighbourCellMeasurement 2 20]).map (·.lists) =
      some { lists := [oneNeighbourList.items] } ∧
    ¬ ObeysLaw { lists := [oneNeighbourList.items] } oneNeighbourReport
        (some oneNeighbourList) [.addNeighbourCellMeasurement 2 20] := by
  refine ⟨rfl, rfl, ?_⟩
  intro h
  rcases h
      { measResultListEUTRA := Pointer.null
        measResultListNR := Pointer.null
        measItemsCounter := 0 } _ [] (List.append_nil _).symm with
    ⟨w, hrun, _⟩
  cases hrun

end L3Rrc
end OranE2
