import OranE2.Asn1c.OctetString

/-!
# RAN parameters

This module embeds `RANParameterItem` and its recursive extraction from the
parameter trees of a control message.  A pointer of the generated structures is
an `Option`; following a null pointer leaves the domain of the extraction.
-/

namespace OranE2
namespace Asn1c

/-- `RANParameter_Value_t`.  The generated choice has alternatives that the
module does not name; `other` stands for them. -/
inductive RANParameterValueT where
  | nothing
  | valueInt (value : Int)
  | valueOctS (value : OctetStringT)
  | other (present : Nat)
  deriving DecidableEq

structure RANParameterELEMENTT where
  keyFlag : Bool
  ranParameterValue : RANParameterValueT
  deriving DecidableEq

mutual

inductive RANParameterItemT where
  | mk (ranParameterItemID : Int)
      (ranParameterItemValueType : Option RANParameterValueTypeT)

/-- `RANParameter_ValueType_t`.  The content of a list is never read. -/
inductive RANParameterValueTypeT where
  | nothing
  | ranParameterElement (element : Option RANParameterELEMENTT)
  | ranParameterStructure
      (sequenceOfRanParameters : Option (List RANParameterItemT))
  | ranParameterList

end

/-- `RANParameterItem::ValueType`; `unnamed` is a bit pattern that is none of
the three enumerators, as uninitialised memory may hold. -/
inductive ValueType where
  | nothing
  | int
  | octectString
  | unnamed (raw : Int)
  deriving DecidableEq, Repr

/-- What the memory under a new `RANParameterItem` held before. -/
structure ItemLeftover where
  valueType : ValueType
  valueInt : Int
  keyFlag : Option Bool := none
  deriving DecidableEq, Repr

structure RANParameterItem where
  ranParameterItem : RANParameterItemT
  keyFlag : Option Bool
  valueType : ValueType
  valueInt : Int
  valueStr : Option OctetString

namespace RANParameterItem

def new (leftover : ItemLeftover) (ranParameterItem : RANParameterItemT) :
    RANParameterItem where
  ranParameterItem := ranParameterItem
  keyFlag := leftover.keyFlag
  valueType := leftover.valueType
  valueInt := leftover.valueInt
  valueStr := none

/-- The element case of the extraction: the members that the switch over the
value's alternative writes. -/
def ofElement (leftover : ItemLeftover) (ranParameterItem : RANParameterItemT)
    (element : RANParameterELEMENTT) : RANParameterItem :=
  let newItem := { new leftover ranParameterItem with
    keyFlag := some element.keyFlag }
  match element.ranParameterValue with
  | .nothing => { newItem with valueType := ValueType.nothing }
  | .valueInt value =>
      { newItem with valueInt := value, valueType := ValueType.int }
  | .valueOctS value =>
      { newItem with
        valueStr := some (OctetString.ofPointer value.buf value.size
          value.size_le)
        valueType := ValueType.octectString }
  | .other _ => newItem

mutual

/-- The extraction from one parameter.  `frames k` is the leftover memory under
the `k`-th item constructed. -/
def extractRANParametersFromRANParameter (frames : Nat -> ItemLeftover) :
    RANParameterItemT -> Option (List RANParameterItem)
  | .mk _ none => none
  | .mk _ (some .nothing) => some []
  | .mk _ (some (.ranParameterElement none)) => none
  | .mk id (some (.ranParameterElement (some element))) =>
      some [ofElement (frames 0)
        (.mk id (some (.ranParameterElement (some element)))) element]
  | .mk _ (some (.ranParameterStructure none)) => none
  | .mk _ (some (.ranParameterStructure (some items))) =>
      extractRANParametersFromList frames items
  | .mk _ (some .ranParameterList) => some []

def extractRANParametersFromList (frames : Nat -> ItemLeftover) :
    List RANParameterItemT -> Option (List RANParameterItem)
  | [] => some []
  | item :: items =>
      match extractRANParametersFromRANParameter frames item with
      | none => none
      | some extracted =>
          match extractRANParametersFromList
              (fun k => frames (extracted.length + k)) items with
          | none => none
          | some rest => some (extracted ++ rest)

end

end RANParameterItem

/-!
## The leaves of a parameter tree

The extraction visits the element leaves that lie under no list, in
left-to-right depth-first order.  Which leaves it visits and whether it meets a
null pointer depends on the tree alone.
-/

structure Leaf where
  ranParameterItem : RANParameterItemT
  element : RANParameterELEMENTT

mutual

/-- No pointer that the extraction follows in this tree is null. -/
def Walkable : RANParameterItemT -> Prop
  | .mk _ none => False
  | .mk _ (some .nothing) => True
  | .mk _ (some (.ranParameterElement none)) => False
  | .mk _ (some (.ranParameterElement (some _))) => True
  | .mk _ (some (.ranParameterStructure none)) => False
  | .mk _ (some (.ranParameterStructure (some items))) => WalkableList items
  | .mk _ (some .ranParameterList) => True

def WalkableList : List RANParameterItemT -> Prop
  | [] => True
  | item :: items => Walkable item ∧ WalkableList items

end

mutual

def leaves : RANParameterItemT -> List Leaf
  | .mk _ none => []
  | .mk _ (some .nothing) => []
  | .mk _ (some (.ranParameterElement none)) => []
  | .mk id (some (.ranParameterElement (some element))) =>
      [{ ranParameterItem :=
           .mk id (some (.ranParameterElement (some element)))
         element := element }]
  | .mk _ (some (.ranParameterStructure none)) => []
  | .mk _ (some (.ranParameterStructure (some items))) => leavesList items
  | .mk _ (some .ranParameterList) => []

def leavesList : List RANParameterItemT -> List Leaf
  | [] => []
  | item :: items => leaves item ++ leavesList items

end

namespace RANParameterItem

def ofLeaves (frames : Nat -> ItemLeftover) (ls : List Leaf) :
    List RANParameterItem :=
  ls.mapIdx fun k leaf => ofElement (frames k) leaf.ranParameterItem leaf.element

@[simp] theorem length_ofLeaves (frames : Nat -> ItemLeftover)
    (ls : List Leaf) : (ofLeaves frames ls).length = ls.length :=
  List.length_mapIdx

theorem ofLeaves_append (frames : Nat -> ItemLeftover) (ls ms : List Leaf) :
    ofLeaves frames (ls ++ ms) =
      ofLeaves frames ls ++
        ofLeaves (fun k => frames (ls.length + k)) ms := by
  unfold ofLeaves
  rw [List.mapIdx_append]
  congr 2
  funext k leaf
  rw [Nat.add_comm]

mutual

theorem extractRANParametersFromRANParameter_of_walkable
    (frames : Nat -> ItemLeftover) :
    forall item : RANParameterItemT, Walkable item ->
      extractRANParametersFromRANParameter frames item =
        some (ofLeaves frames (leaves item))
  | .mk _ none, h => by cases h
  | .mk _ (some .nothing), _ => rfl
  | .mk _ (some (.ranParameterElement none)), h => by cases h
  | .mk _ (some (.ranParameterElement (some _))), _ => rfl
  | .mk _ (some (.ranParameterStructure none)), h => by cases h
  | .mk _ (some (.ranParameterStructure (some items))), h =>
      extractRANParametersFromList_of_walkable frames items h
  | .mk _ (some .ranParameterList), _ => rfl

theorem extractRANParametersFromList_of_walkable
    (frames : Nat -> ItemLeftover) :
    forall items : List RANParameterItemT, WalkableList items ->
      extractRANParametersFromList frames items =
        some (ofLeaves frames (leavesList items))
  | [], _ => rfl
  | item :: items, h => by
      have hitem :=
        extractRANParametersFromRANParameter_of_walkable frames item h.left
      have hitems :=
        extractRANParametersFromList_of_walkable
          (fun k => frames ((leaves item).length + k)) items h.right
      unfold extractRANParametersFromList
      rw [hitem]
      simp only [length_ofLeaves]
      rw [hitems]
      simp only [leavesList, ofLeaves_append]

end

mutual

theorem extractRANParametersFromRANParameter_of_not_walkable
    (frames : Nat -> ItemLeftover) :
    forall item : RANParameterItemT, ¬ Walkable item ->
      extractRANParametersFromRANParameter frames item = none
  | .mk _ none, _ => rfl
  | .mk _ (some .nothing), h => absurd trivial h
  | .mk _ (some (.ranParameterElement none)), _ => rfl
  | .mk _ (some (.ranParameterElement (some _))), h => absurd trivial h
  | .mk _ (some (.ranParameterStructure none)), _ => rfl
  | .mk _ (some (.ranParameterStructure (some items))), h =>
      extractRANParametersFromList_of_not_walkable frames items h
  | .mk _ (some .ranParameterList), h => absurd trivial h

theorem extractRANParametersFromList_of_not_walkable
    (frames : Nat -> ItemLeftover) :
    forall items : List RANParameterItemT, ¬ WalkableList items ->
      extractRANParametersFromList frames items = none
  | [], h => absurd trivial h
  | item :: items, h => by
      unfold extractRANParametersFromList
      by_cases hitem : Walkable item
      · have hitems : ¬ WalkableList items := fun hrest => h ⟨hitem, hrest⟩
        rw [extractRANParametersFromRANParameter_of_walkable frames item hitem]
        simp only
        rw [extractRANParametersFromList_of_not_walkable _ items hitems]
      · rw [extractRANParametersFromRANParameter_of_not_walkable frames item
          hitem]

end

theorem extractRANParametersFromList_eq_none_iff
    {frames : Nat -> ItemLeftover} {items : List RANParameterItemT} :
    extractRANParametersFromList frames items = none <->
      ¬ WalkableList items := by
  constructor
  · intro h hwalk
    rw [extractRANParametersFromList_of_walkable frames items hwalk] at h
    cases h
  · exact extractRANParametersFromList_of_not_walkable frames items

end RANParameterItem

end Asn1c
end OranE2
