import Mathlib.Data.List.Induction
import OranE2.Helper.Run

/-!
# Operations of the wrong type

A helper allocates the container of its own type only, and the operations of
the other types are meant to stop at the guard of the base class.  This module
determines on which call sequences they do.
-/

namespace OranE2
namespace Helper

open Library
open Library.PartialRun
open Asn1c
open Kpm

def LteOperation.owner : LteOperation -> IndicationMessageType
  | .addCuUpUePmItem .. => .cuUp
  | .addCuUpCellPmItem _ => .cuUp
  | .fillCuUpValues .. => .cuUp
  | .fillCuCpValues _ => .cuCp
  | .addCuCpUePmItem .. => .cuCp

def MmWaveOperation.owner : MmWaveOperation -> IndicationMessageType
  | .addCuUpUePmItem .. => .cuUp
  | .fillCuUpValues _ => .cuUp
  | .fillCuCpValues _ => .cuCp
  | .fillDuValues _ => .du
  | .addDuUePmItem .. => .du
  | .addDuCellPmItem _ => .du
  | .addDuCellResRepPmItem _ => .du
  | .addCuCpUePmItem .. => .cuCp

def owner : {c : HelperClass} -> Operation c -> IndicationMessageType
  | .lte, op => LteOperation.owner op
  | .mmWave, op => MmWaveOperation.owner op

def LteOperation.GuardedFirst : LteOperation -> Prop
  | .fillCuCpValues _ => True
  | _ => False

def MmWaveOperation.GuardedFirst : MmWaveOperation -> Prop
  | .fillCuUpValues _ => True
  | .fillCuCpValues _ => True
  | _ => False

def GuardedFirst : {c : HelperClass} -> Operation c -> Prop
  | .lte, op => LteOperation.GuardedFirst op
  | .mmWave, op => MmWaveOperation.GuardedFirst op

/-- The container pointer stays with the type of the helper, and operations of
another type stop at the guard. -/
structure KeepsContainer (ceil : Ceiling) (h : IndicationMessageHelper)
    (ops : List (Operation c)) : Prop where
  own : forall pre post s, ops = pre ++ post ->
    runOperations ceil h pre = some s ->
    s.msgValues.pmContainerValues = none ∨
      s.msgValues.pmContainerValues = some h.type
  kept : forall pre op post s s', ops = pre ++ op :: post ->
    runOperations ceil h pre = some s ->
    s.msgValues.pmContainerValues ≠ none ->
    (step ceil s op).helper? = some s' ->
    s'.msgValues.pmContainerValues ≠ none
  guarded : forall pre op post s, ops = pre ++ op :: post ->
    runOperations ceil h pre = some s -> owner op ≠ h.type ->
    exists s', step ceil s op = .aborted "Wrong function for this object" s' ∧
      s'.msgValues = s.msgValues
  allocated : forall pre op post s, ops = pre ++ op :: post ->
    runOperations ceil h pre = some s -> step ceil s op ≠ .fault

/-- Until the run stops, each operation belongs to the type or begins with the
guard. -/
def WellUsed (type : IndicationMessageType) (ops : List (Operation c)) :
    Prop :=
  forall pre op post, ops = pre ++ op :: post ->
    (forall q, q ∈ pre -> owner q = type) -> owner op = type ∨ GuardedFirst op

/-!
## One operation
-/

structure Allocated (h : IndicationMessageHelper) : Prop where
  cuUpValues : h.cuUpValues.isSome = true <-> h.type = .cuUp
  cuCpValues : h.cuCpValues.isSome = true <-> h.type = .cuCp
  duValues : h.duValues.isSome = true <-> h.type = .du

theorem baseNew_allocated (type : IndicationMessageType) (reduced : Bool) :
    Allocated (IndicationMessageHelper.new type false reduced) := by
  cases type <;> cases reduced <;> exact ⟨by decide, by decide, by decide⟩

theorem new_cases {c : HelperClass} {type : IndicationMessageType}
    {offline reduced : Bool} {h : IndicationMessageHelper}
    (hnew : c.new type offline reduced = .completed h) :
    h = IndicationMessageHelper.new type offline reduced := by
  cases c with
  | lte =>
      unfold HelperClass.new LteIndicationMessageHelper.new at hnew
      dsimp only at hnew
      split at hnew
      · cases hnew
      · exact (Outcome.completed.inj hnew).symm
  | mmWave => exact (Outcome.completed.inj hnew).symm

theorem baseNew_type (type : IndicationMessageType) (offline reduced : Bool) :
    (IndicationMessageHelper.new type offline reduced).type = type := by
  cases offline <;> cases type <;> rfl

theorem baseNew_unset (type : IndicationMessageType)
    (offline reduced : Bool) :
    (IndicationMessageHelper.new type offline
      reduced).msgValues.pmContainerValues = none := by
  cases offline <;> cases type <;> rfl

theorem allocated_of_sameKind {h h' : IndicationMessageHelper}
    (hkind : SameKind h h') (halloc : Allocated h) : Allocated h' where
  cuUpValues := by
    rw [hkind.cuUpValues, hkind.type]
    exact halloc.cuUpValues
  cuCpValues := by
    rw [hkind.cuCpValues, hkind.type]
    exact halloc.cuCpValues
  duValues := by
    rw [hkind.duValues, hkind.type]
    exact halloc.duValues

/-- The effects that need a container of a certain type. -/
def Effect.Suits (type : IndicationMessageType) : Effect -> Prop
  | .fillCuUp _ => type = .cuUp
  | .fillCuUpBytes _ _ _ => type = .cuUp
  | .fillCuCp _ => type = .cuCp
  | .fillDu _ => type = .du
  | .insertReport _ => type = .du
  | .insertUe _ => True
  | .setCell _ => True
  | .nothing => True

theorem effect_suits {ceil : Ceiling} {reduced : Bool} {op : Operation c}
    {type : IndicationMessageType} (howner : owner op = type) :
    (effect ceil reduced op).Suits type := by
  subst howner
  cases c with
  | lte =>
      cases op with
      | addCuUpUePmItem => exact trivial
      | addCuUpCellPmItem => cases reduced <;> exact trivial
      | fillCuUpValues => rfl
      | fillCuCpValues => rfl
      | addCuCpUePmItem => exact trivial
  | mmWave =>
      cases op with
      | addCuUpUePmItem => exact trivial
      | fillCuUpValues => rfl
      | fillCuCpValues => rfl
      | fillDuValues => rfl
      | addDuUePmItem => exact trivial
      | addDuCellPmItem => exact trivial
      | addDuCellResRepPmItem => rfl
      | addCuCpUePmItem => exact trivial

theorem completed_of_suits {h : IndicationMessageHelper} {e : Effect}
    (halloc : Allocated h) (hsuits : e.Suits h.type) :
    exists h', e.apply h = .completed h' := by
  cases e with
  | fillCuUp plmId =>
      rcases Option.isSome_iff_exists.mp (halloc.cuUpValues.mpr hsuits)
        with ⟨v, hv⟩
      exact ⟨_, fillBaseCuUpValues_own hsuits hv plmId⟩
  | fillCuUpBytes plmId pdcpBytesUl pdcpBytesDl =>
      rcases Option.isSome_iff_exists.mp (halloc.cuUpValues.mpr hsuits)
        with ⟨v, hv⟩
      exact ⟨_, lteFillCuUpValues_own hsuits hv plmId pdcpBytesUl pdcpBytesDl⟩
  | fillCuCp numActiveUes =>
      rcases Option.isSome_iff_exists.mp (halloc.cuCpValues.mpr hsuits)
        with ⟨v, hv⟩
      exact ⟨_, fillBaseCuCpValues_own hsuits hv numActiveUes⟩
  | fillDu cellObjectId => exact ⟨_, rfl⟩
  | insertUe ueVal => exact ⟨_, rfl⟩
  | setCell cellVal => exact ⟨_, rfl⟩
  | insertReport cellResRep =>
      rcases Option.isSome_iff_exists.mp (halloc.duValues.mpr hsuits)
        with ⟨v, hv⟩
      exact ⟨_, addDuCellResRepPmItem_own hv cellResRep⟩
  | nothing => exact ⟨_, rfl⟩

theorem container_of_yields {h h' : IndicationMessageHelper} {e : Effect}
    (halloc : Allocated h) (hsuits : e.Suits h.type)
    (hyields : e.Yields h h') :
    h'.msgValues.pmContainerValues = h.msgValues.pmContainerValues ∨
      h'.msgValues.pmContainerValues = some h.type := by
  cases hyields with
  | fillCuUp htype hvalues => exact Or.inr (congrArg some htype.symm)
  | fillCuUpBytes htype hvalues => exact Or.inr (congrArg some htype.symm)
  | fillCuCp htype hvalues => exact Or.inr (congrArg some htype.symm)
  | fillDu =>
      rcases Option.isSome_iff_exists.mp (halloc.duValues.mpr hsuits)
        with ⟨v, hv⟩
      apply Or.inr
      rw [hsuits, hv]
      rfl
  | insertUe => exact Or.inl rfl
  | setCell => exact Or.inl rfl
  | insertReport hvalues => exact Or.inl rfl
  | nothing => exact Or.inl rfl

theorem aborted_of_guardedFirst {ceil : Ceiling} {h : IndicationMessageHelper}
    {op : Operation c} (hforeign : owner op ≠ h.type)
    (hguarded : GuardedFirst op) :
    step ceil h op = .aborted "Wrong function for this object" h := by
  cases c with
  | lte =>
      cases op with
      | fillCuCpValues numActiveUes =>
          exact fillBaseCuCpValues_foreign (Ne.symm hforeign) numActiveUes
      | _ => exact absurd hguarded id
  | mmWave =>
      cases op with
      | fillCuUpValues plmId =>
          exact fillBaseCuUpValues_foreign (Ne.symm hforeign) plmId
      | fillCuCpValues numActiveUes =>
          exact fillBaseCuCpValues_foreign (Ne.symm hforeign) numActiveUes
      | _ => exact absurd hguarded id

theorem not_aborted_of_not_guardedFirst {ceil : Ceiling}
    {h h' : IndicationMessageHelper} {op : Operation c} {message : String}
    (halloc : Allocated h) (hforeign : owner op ≠ h.type)
    (hguarded : ¬ GuardedFirst op) :
    step ceil h op ≠ .aborted message h' := by
  intro hstep
  rw [step_eq_apply] at hstep
  have hcuUp : h.type ≠ .cuUp -> h.cuUpValues = none := fun htype =>
    Option.not_isSome_iff_eq_none.mp fun h => htype (halloc.cuUpValues.mp h)
  have hdu : h.type ≠ .du -> h.duValues = none := fun htype =>
    Option.not_isSome_iff_eq_none.mp fun h => htype (halloc.duValues.mp h)
  cases c with
  | lte =>
      cases op with
      | addCuUpCellPmItem cellAverageLatency =>
          cases hreduced : h.reducedPmValues <;> rw [hreduced] at hstep <;>
            cases hstep
      | fillCuUpValues plmId pdcpBytesUl pdcpBytesDl =>
          have hnull := hcuUp (Ne.symm hforeign)
          change LteIndicationMessageHelper.fillCuUpValues h plmId pdcpBytesUl
            pdcpBytesDl = _ at hstep
          rw [lteFillCuUpValues_null hnull] at hstep
          cases hstep
      | fillCuCpValues numActiveUes => exact hguarded trivial
      | _ => cases hstep
  | mmWave =>
      cases op with
      | fillCuUpValues plmId => exact hguarded trivial
      | fillCuCpValues numActiveUes => exact hguarded trivial
      | addDuCellResRepPmItem cellResRep =>
          have hnull := hdu (Ne.symm hforeign)
          change MmWaveIndicationMessageHelper.addDuCellResRepPmItem h
            cellResRep = _ at hstep
          rw [addDuCellResRepPmItem_null hnull] at hstep
          cases hstep
      | _ => cases hstep

/-!
## Whole runs
-/

/-- What operations of the own type preserve. -/
structure Settled (ownType : IndicationMessageType)
    (h : IndicationMessageHelper) : Prop where
  type : h.type = ownType
  allocated : Allocated h
  own : h.msgValues.pmContainerValues = none ∨
    h.msgValues.pmContainerValues = some ownType

theorem settled_step (ceil : Ceiling) {type : IndicationMessageType}
    {h : IndicationMessageHelper} {op : Operation c}
    (hsettled : Settled type h) (howner : owner op = type) :
    exists h', step ceil h op = .completed h' ∧ Settled type h' ∧
      (h.msgValues.pmContainerValues ≠ none ->
        h'.msgValues.pmContainerValues ≠ none) := by
  have hsuits : (effect ceil h.reducedPmValues op).Suits h.type := by
    rw [hsettled.type]
    exact effect_suits howner
  rcases completed_of_suits hsettled.allocated hsuits with ⟨h', happly⟩
  have hstep : step ceil h op = .completed h' := by
    rw [step_eq_apply, happly]
  have hyields : (effect ceil h.reducedPmValues op).Yields h h' :=
    step_yields (by rw [hstep]; rfl)
  have hkind := sameKind_of_yields hyields
  have hcontainer := container_of_yields hsettled.allocated hsuits hyields
  rw [hsettled.type] at hcontainer
  refine ⟨h', hstep, ⟨hkind.type.trans hsettled.type,
    allocated_of_sameKind hkind hsettled.allocated, ?_⟩, ?_⟩
  · rcases hcontainer with hsame | hown
    · rw [hsame]
      exact hsettled.own
    · exact Or.inr hown
  · intro hset
    rcases hcontainer with hsame | hown
    · rw [hsame]
      exact hset
    · rw [hown]
      exact Option.some_ne_none type

theorem settled_run (ceil : Ceiling) {type : IndicationMessageType}
    {h : IndicationMessageHelper} {ops : List (Operation c)}
    (hsettled : Settled type h) (hown : forall q, q ∈ ops -> owner q = type) :
    exists h', runOperations ceil h ops = some h' ∧ Settled type h' := by
  unfold runOperations
  refine run_history (R := fun s _ => Settled type s) ?_ hsettled
  intro s history op hop hs
  rcases settled_step ceil hs (hown op hop) with ⟨s', hstep, hs', _⟩
  exact ⟨s', by rw [hstep]; rfl, hs'⟩

theorem own_of_run {ceil : Ceiling} {type : IndicationMessageType}
    {h : IndicationMessageHelper} {ops : List (Operation c)}
    (hsettled : Settled type h) (hused : WellUsed type ops)
    {pre : List (Operation c)} :
    forall post s, ops = pre ++ post -> runOperations ceil h pre = some s ->
      forall q, q ∈ pre -> owner q = type := by
  induction pre using List.reverseRecOn with
  | nil =>
      intro post s _ _ q hq
      cases hq
  | append_singleton front op ih =>
      intro post s hops hrun q hq
      have hops' : ops = front ++ op :: post := by
        rw [hops, List.append_assoc]
        rfl
      unfold runOperations at hrun
      rw [run_snoc] at hrun
      rcases Option.bind_eq_some_iff.mp hrun with ⟨mid, hmid, hstep⟩
      have hfront := ih (op :: post) mid hops' hmid
      rcases List.mem_append.mp hq with hq | hq
      · exact hfront q hq
      · rw [List.mem_singleton.mp hq]
        rcases settled_run ceil hsettled hfront with ⟨mid', hmid', hs⟩
        have hsame : mid' = mid :=
          Option.some.inj (hmid'.symm.trans hmid)
        subst hsame
        by_contra hforeign
        have hguarded :=
          (hused front op post hops' hfront).resolve_left hforeign
        rw [aborted_of_guardedFirst (by rw [hs.type]; exact hforeign)
          hguarded] at hstep
        cases hstep

section

variable {ceil : Ceiling} {type : IndicationMessageType}
variable {h s : IndicationMessageHelper} {ops pre post : List (Operation c)}
variable {op : Operation c}

theorem settled_of_run (hsettled : Settled type h) (hused : WellUsed type ops)
    (hops : ops = pre ++ post) (hrun : runOperations ceil h pre = some s) :
    Settled type s := by
  have hown := own_of_run hsettled hused post s hops hrun
  rcases settled_run ceil hsettled hown with ⟨s', hrun', hs⟩
  rw [hrun] at hrun'
  cases hrun'
  exact hs

theorem aborted_of_wellUsed (hsettled : Settled type h)
    (hused : WellUsed type ops) (hops : ops = pre ++ op :: post)
    (hrun : runOperations ceil h pre = some s) (hforeign : owner op ≠ type) :
    step ceil s op = .aborted "Wrong function for this object" s := by
  have hs := settled_of_run hsettled hused hops hrun
  have hown := own_of_run hsettled hused (op :: post) s hops hrun
  exact aborted_of_guardedFirst (by rw [hs.type]; exact hforeign)
    ((hused pre op post hops hown).resolve_left hforeign)

theorem step_of_wellUsed (hsettled : Settled type h)
    (hused : WellUsed type ops) (hops : ops = pre ++ op :: post)
    (hrun : runOperations ceil h pre = some s) :
    step ceil s op ≠ .fault ∧ forall s', (step ceil s op).helper? = some s' ->
      s.msgValues.pmContainerValues ≠ none ->
        s'.msgValues.pmContainerValues ≠ none := by
  have hs := settled_of_run hsettled hused hops hrun
  by_cases howner : owner op = type
  · rcases settled_step ceil hs howner with ⟨mid, hstep, _, hkept⟩
    rw [hstep]
    constructor
    · intro hfault
      cases hfault
    · intro s' hmid
      cases hmid
      exact hkept
  · rw [aborted_of_wellUsed hsettled hused hops hrun howner]
    constructor
    · intro hfault
      cases hfault
    · intro s' hnone
      cases hnone

theorem keepsContainer_of_wellUsed (hsettled : Settled type h)
    (hused : WellUsed type ops) : KeepsContainer ceil h ops where
  own := by
    intro pre post s hops hrun
    rw [hsettled.type]
    exact (settled_of_run hsettled hused hops hrun).own
  kept := by
    intro pre op post s s' hops hrun hset hstep
    exact (step_of_wellUsed hsettled hused hops hrun).right s' hstep hset
  guarded := by
    intro pre op post s hops hrun hforeign
    rw [hsettled.type] at hforeign
    exact ⟨s, aborted_of_wellUsed hsettled hused hops hrun hforeign, rfl⟩
  allocated := by
    intro pre op post s hops hrun
    exact (step_of_wellUsed hsettled hused hops hrun).left

theorem wellUsed_of_keepsContainer (hsettled : Settled type h)
    (hkeeps : KeepsContainer ceil h ops) : WellUsed type ops := by
  intro pre op post hops hpre
  by_contra hneither
  push Not at hneither
  rcases hneither with ⟨hforeign, hunguarded⟩
  rcases settled_run ceil hsettled hpre with ⟨s, hrun, hs⟩
  rcases hkeeps.guarded pre op post s hops hrun
    (by rw [hsettled.type]; exact hforeign) with ⟨s', hstep, _⟩
  exact not_aborted_of_not_guardedFirst hs.allocated
    (by rw [hs.type]; exact hforeign) hunguarded hstep

end

/-- The container pointer and the guards are kept exactly in those call
sequences in which every executed operation belongs to the type of the helper or
begins with the guard. -/
theorem keepsContainer_iff (ceil : Ceiling) (c : HelperClass)
    (type : IndicationMessageType) (reduced : Bool)
    (h : IndicationMessageHelper)
    (hnew : c.new type false reduced = .completed h)
    (ops : List (Operation c)) :
    KeepsContainer ceil h ops <-> WellUsed type ops := by
  have hsettled : Settled type h := by
    rw [new_cases hnew]
    exact ⟨baseNew_type type false reduced, baseNew_allocated type reduced,
      Or.inl (baseNew_unset type false reduced)⟩
  exact ⟨wellUsed_of_keepsContainer hsettled,
    keepsContainer_of_wellUsed hsettled⟩

/-- Rounding up, as it is on integers of moderate size and on zero. -/
def exampleCeiling : Ceiling where
  ofLong := fun value => value
  ofDouble := fun _ => 0

def fillCuCpThenDu : List (Operation .mmWave) :=
  [MmWaveOperation.fillCuCpValues 3,
    MmWaveOperation.fillDuValues (literal "NRCellCU")]

theorem fillCuCpThenDu_keepsContainer_iff :
    KeepsContainer exampleCeiling
        (IndicationMessageHelper.new .cuCp false false) fillCuCpThenDu <->
      WellUsed .cuCp fillCuCpThenDu :=
  keepsContainer_iff exampleCeiling .mmWave .cuCp false
    (IndicationMessageHelper.new .cuCp false false) rfl fillCuCpThenDu

theorem fillCuCpThenDu_unsets_container :
    (runOperations exampleCeiling
        (IndicationMessageHelper.new .cuCp false false)
        (fillCuCpThenDu.take 1)).map
          (fun h => h.msgValues.pmContainerValues) = some (some .cuCp) ∧
      (runOperations exampleCeiling
        (IndicationMessageHelper.new .cuCp false false)
        fillCuCpThenDu).map
          (fun h => h.msgValues.pmContainerValues) = some none ∧
      MmWaveOperation.owner (.fillDuValues (literal "NRCellCU")) ≠ .cuCp := by
  decide

end Helper
end OranE2
