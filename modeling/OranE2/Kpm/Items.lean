import OranE2.Asn1c.Capacity
import OranE2.Kpm.Message

/-!
# Building measurement items

This module embeds the `MeasurementItem` constructors statement by statement:
the copies of whole structures into the item, the tags of its two unions, and
the copy of the name into a buffer whose capacity is the size of an
`OCTET_STRING`, a constant of the generated headers that is a parameter here.
-/

namespace OranE2
namespace Kpm

open Library
open Asn1c
open L3Rrc

/-!
## The structures while they are filled
-/

inductive MeasurementTypePR where
  | nothing
  | measName
  deriving DecidableEq, Repr

inductive MeasurementValuePR where
  | nothing
  | valueInt
  | valueReal
  | valueRRC
  deriving DecidableEq, Repr

structure RawMeasurementType where
  present : MeasurementTypePR
  measName : RawOctetString
  deriving DecidableEq, Repr

/-- The union of `MeasurementValue_t`: zero bytes or the member written last. -/
inductive MeasurementValueChoice where
  | zeroed
  | valueInt (valueInt : Int)
  | valueReal (valueReal : Double)
  | valueRRC (valueRRC : L3RrcTree)
  deriving DecidableEq, Repr

structure RawMeasurementValue where
  present : MeasurementValuePR
  choice : MeasurementValueChoice
  deriving DecidableEq, Repr

structure RawPMInfoItem where
  pmType : RawMeasurementType
  pmVal : RawMeasurementValue
  deriving DecidableEq, Repr

def RawMeasurementType.zeroed : RawMeasurementType where
  present := .nothing
  measName := { buf := [], size := 0 }

def RawMeasurementValue.zeroed : RawMeasurementValue where
  present := .nothing
  choice := .zeroed

namespace RawPMInfoItem

def zeroed : RawPMInfoItem where
  pmType := RawMeasurementType.zeroed
  pmVal := RawMeasurementValue.zeroed

def ofName (capacity : Nat) (name : List UInt8) : Option RawPMInfoItem :=
  let m_measurementItem := zeroed
  let m_pmType := RawMeasurementType.zeroed
  let m_measurementItem := { m_measurementItem with pmType := m_pmType }
  let m_measName : RawOctetString :=
    { buf := calloc 0 capacity, size := name.length }
  match m_measName.memcpy name with
  | none => none
  | some m_measName =>
      let pmType := { m_measurementItem.pmType with measName := m_measName }
      some
        { m_measurementItem with
          pmType := { pmType with present := .measName } }

/-- The zeroed value is copied into the item before its tag is set. -/
def createMeasurementValue (m_measurementItem : RawPMInfoItem)
    (measurementValuePR : MeasurementValuePR) : RawPMInfoItem :=
  let m_pmVal := RawMeasurementValue.zeroed
  let m_measurementItem := { m_measurementItem with pmVal := m_pmVal }
  { m_measurementItem with
    pmVal := { m_measurementItem.pmVal with present := measurementValuePR } }

/-- What the three public constructors have in common: the member of the union
is written after its tag. -/
def withValue (capacity : Nat) (name : List UInt8)
    (measurementValuePR : MeasurementValuePR)
    (choice : MeasurementValueChoice) : Option RawPMInfoItem :=
  (ofName capacity name).map fun m_measurementItem =>
    let m_measurementItem :=
      m_measurementItem.createMeasurementValue measurementValuePR
    { m_measurementItem with
      pmVal := { m_measurementItem.pmVal with choice := choice } }

def ofInt (capacity : Nat) (name : List UInt8) (value : Int) :
    Option RawPMInfoItem :=
  withValue capacity name .valueInt (.valueInt value)

def ofReal (capacity : Nat) (name : List UInt8) (value : Double) :
    Option RawPMInfoItem :=
  withValue capacity name .valueReal (.valueReal value)

def ofRRC (capacity : Nat) (name : List UInt8) (value : Ref L3RrcTree) :
    Option RawPMInfoItem :=
  withValue capacity name .valueRRC (.valueRRC value.object)

def create (capacity : Nat) (name : List UInt8) :
    MeasurementValue -> Option RawPMInfoItem
  | .valueInt value => ofInt capacity name value
  | .valueReal value => ofReal capacity name value
  | .valueRRC value => ofRRC capacity name value

end RawPMInfoItem

def addRawItem (capacity : Nat) (m_items : List RawPMInfoItem)
    (call : List UInt8 × MeasurementValue) : Option (List RawPMInfoItem) :=
  (RawPMInfoItem.create capacity call.1 call.2).map fun item =>
    m_items ++ [item]

def addRawItems (capacity : Nat)
    (calls : List (List UInt8 × MeasurementValue)) :
    Option (List RawPMInfoItem) :=
  PartialRun.run (addRawItem capacity) [] calls

/-!
## Items and calls
-/

def MeasurementValue.tag : MeasurementValue -> MeasurementValuePR
  | .valueInt _ => .valueInt
  | .valueReal _ => .valueReal
  | .valueRRC _ => .valueRRC

def MeasurementValue.choice : MeasurementValue -> MeasurementValueChoice
  | .valueInt value => .valueInt value
  | .valueReal value => .valueReal value
  | .valueRRC value => .valueRRC value.object

/-- The item carries the name and the value of the call under their tags. -/
structure CorrespondsTo (call : List UInt8 × MeasurementValue)
    (item : RawPMInfoItem) : Prop where
  typeTag : item.pmType.present = .measName
  name : item.pmType.measName.Carries call.1
  valueTag : item.pmVal.present = call.2.tag
  value : item.pmVal.choice = call.2.choice

/-- Every call succeeds, and the items correspond to the calls in order. -/
def ItemsCorrespond (capacity : Nat)
    (calls : List (List UInt8 × MeasurementValue)) : Prop :=
  exists items, addRawItems capacity calls = some items ∧
    List.Forall₂ CorrespondsTo calls items

/-- The item as the message shows it, if its tags fit its unions. -/
def RawPMInfoItem.view (item : RawPMInfoItem) : Option PMInfoItemT :=
  let measName := OctetStringT.ofBytes
    (item.pmType.measName.buf.take item.pmType.measName.size)
  match item.pmType.present, item.pmVal.present, item.pmVal.choice with
  | .measName, .valueInt, .valueInt value =>
      some { measName := measName, pmVal := .valueInt value }
  | .measName, .valueReal, .valueReal value =>
      some { measName := measName, pmVal := .valueReal value }
  | .measName, .valueRRC, .valueRRC value =>
      some { measName := measName, pmVal := .valueRRC value }
  | _, _, _ => none

theorem view_of_corresponds {call : List UInt8 × MeasurementValue}
    {item : RawPMInfoItem} (h : CorrespondsTo call item) :
    item.view =
      some (MeasurementItem.new call.1 call.2).getPointer := by
  rcases call with ⟨name, value⟩
  have hname := h.name.content_eq
  have htype := h.typeTag
  have htag := h.valueTag
  have hchoice := h.value
  unfold RawPMInfoItem.view
  cases value with
  | valueInt value =>
      rw [htype, htag, hchoice, hname]
      rfl
  | valueReal value =>
      rw [htype, htag, hchoice, hname]
      rfl
  | valueRRC value =>
      rw [htype, htag, hchoice, hname]
      rfl

theorem create_eq (capacity : Nat) (name : List UInt8)
    (value : MeasurementValue) :
    RawPMInfoItem.create capacity name value =
      RawPMInfoItem.withValue capacity name value.tag value.choice := by
  cases value <;> rfl

def itemOf (value : MeasurementValue) (measName : RawOctetString) :
    RawPMInfoItem where
  pmType := { present := .measName, measName := measName }
  pmVal := { present := value.tag, choice := value.choice }

theorem create_eq_map (capacity : Nat) (name : List UInt8)
    (value : MeasurementValue) :
    RawPMInfoItem.create capacity name value =
      (SizedBuffer.memcpy
        { buf := calloc (0 : UInt8) capacity, size := name.length }
        name).map (itemOf value) := by
  rw [create_eq]
  unfold RawPMInfoItem.withValue RawPMInfoItem.ofName
  dsimp only
  cases SizedBuffer.memcpy _ name <;> rfl

theorem create_eq_some_iff {capacity : Nat} {name : List UInt8}
    {value : MeasurementValue} {item : RawPMInfoItem} :
    RawPMInfoItem.create capacity name value = some item <->
      name.length ≤ capacity ∧
        item = itemOf value
          { buf := name ++ (calloc 0 capacity).drop name.length
            size := name.length } := by
  rw [create_eq_map]
  exact SizedBuffer.map_memcpy_calloc_eq_some_iff

theorem corresponds_of_create {capacity : Nat} {name : List UInt8}
    {value : MeasurementValue} {item : RawPMInfoItem}
    (h : RawPMInfoItem.create capacity name value = some item) :
    CorrespondsTo (name, value) item := by
  rcases create_eq_some_iff.mp h with ⟨_, rfl⟩
  exact ⟨rfl, SizedBuffer.carries_front name _, rfl, rfl⟩

/-!
## Sequences of calls
-/

theorem addRawItem_eq_some {capacity : Nat} {m_items m_items' : List RawPMInfoItem}
    {call : List UInt8 × MeasurementValue}
    (h : addRawItem capacity m_items call = some m_items') :
    call.1.length ≤ capacity ∧
      exists item, m_items' = m_items ++ [item] ∧ CorrespondsTo call item := by
  rcases Option.map_eq_some_iff.mp h with ⟨item, hcreate, hitems⟩
  exact ⟨(create_eq_some_iff.mp hcreate).left, item, hitems.symm,
    corresponds_of_create hcreate⟩

theorem addRawItem_of_fits {capacity : Nat} (m_items : List RawPMInfoItem)
    {call : List UInt8 × MeasurementValue} (h : call.1.length ≤ capacity) :
    exists m_items', addRawItem capacity m_items call = some m_items' :=
  ⟨_, Option.map_eq_some_iff.mpr
    ⟨_, create_eq_some_iff.mpr ⟨h, rfl⟩, rfl⟩⟩

theorem run_fits {capacity : Nat}
    {calls : List (List UInt8 × MeasurementValue)}
    {m_items : List RawPMInfoItem}
    (h : addRawItems capacity calls = some m_items) :
    forall call, call ∈ calls -> call.1.length ≤ capacity := by
  have hinputs := PartialRun.run_inputs (I := fun _ => True)
    (P := fun call => call.1.length ≤ capacity)
    (fun _ _ _ _ hstep => ⟨trivial, (addRawItem_eq_some hstep).left⟩)
    trivial h
  exact hinputs.right

theorem run_corresponds {capacity : Nat}
    {calls : List (List UInt8 × MeasurementValue)}
    {m_items : List RawPMInfoItem}
    (h : addRawItems capacity calls = some m_items) :
    List.Forall₂ CorrespondsTo calls m_items := by
  refine PartialRun.run_traces
    (R := fun items history => List.Forall₂ CorrespondsTo history items)
    ?_ List.Forall₂.nil h
  intro items history call items' hhistory hstep
  rcases (addRawItem_eq_some hstep).right with ⟨item, rfl, hitem⟩
  exact List.rel_append hhistory (List.Forall₂.cons hitem List.Forall₂.nil)

theorem view_of_run {capacity : Nat}
    {calls : List (List UInt8 × MeasurementValue)}
    {m_items : List RawPMInfoItem}
    (h : addRawItems capacity calls = some m_items) :
    m_items.map RawPMInfoItem.view =
      (MeasurementItemList.new.addItems calls).getItems.map
        fun item => some item.getPointer := by
  have hitems : (MeasurementItemList.new.addItems calls).getItems =
      calls.map fun call => MeasurementItem.new call.1 call.2 :=
    MeasurementItemList.items_addItems MeasurementItemList.new calls
  rw [hitems, List.map_map, ← List.forall₂_eq_eq_eq,
    List.forall₂_map_left_iff, List.forall₂_map_right_iff]
  exact (run_corresponds h).flip.imp
    fun item call hcall => view_of_corresponds hcall

theorem items_correspond_iff (capacity : Nat)
    (calls : List (List UInt8 × MeasurementValue)) :
    ItemsCorrespond capacity calls <->
      forall call, call ∈ calls -> call.1.length ≤ capacity := by
  constructor
  · intro h
    rcases h with ⟨items, hrun, _⟩
    exact run_fits hrun
  · intro hfits
    rcases PartialRun.run_completes
        (fun items call hmem => addRawItem_of_fits items (hfits call hmem))
        [] with ⟨items, hrun⟩
    exact ⟨items, hrun, run_corresponds hrun⟩

/-- Whatever the size of the buffer, a name of one character more does not get
into an item. -/
theorem long_name_not_carried :
    ¬ exists capacity, ItemsCorrespond capacity
      [(List.replicate (capacity + 1) 97, .valueInt 7)] := by
  intro h
  rcases h with ⟨capacity, items, hrun, _⟩
  have hfits := run_fits hrun _ List.mem_cons_self
  rw [List.length_replicate] at hfits
  exact Nat.not_succ_le_self capacity hfits

end Kpm
end OranE2
