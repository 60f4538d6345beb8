import OranE2.Asn1c.RanParameter
import OranE2.Library.RoseTree

/-!
# What the extraction returns

The items extracted from a parameter tree stand for its element leaves in
depth-first order.  An item carries the tag and the value of its leaf when the
leaf holds one of the alternatives that the source names; of any other leaf the
item keeps the tag that the memory held before.
-/

namespace OranE2
namespace Asn1c

open Library

/-- A parameter tree without null pointers. -/
structure RANParameterTree where
  root : RANParameterItemT
  walkable : Walkable root

def roots (trees : List RANParameterTree) : List RANParameterItemT :=
  trees.map fun tree => tree.root

theorem roots_append (xs ys : List RANParameterTree) :
    roots (xs ++ ys) = roots xs ++ roots ys :=
  List.map_append

theorem walkableList_roots (trees : List RANParameterTree) :
    WalkableList (roots trees) := by
  induction trees with
  | nil => exact trivial
  | cons tree trees ih => exact ⟨tree.walkable, ih⟩

/-!
## Element leaves outside lists
-/

mutual

/-- The tree that the extraction walks: structures are its nodes, elements its
leaves, and nothing below a list belongs to it. -/
def roseTree : RANParameterItemT -> RoseTree Leaf
  | .mk _ none => .node []
  | .mk _ (some .nothing) => .node []
  | .mk _ (some (.ranParameterElement none)) => .node []
  | .mk id (some (.ranParameterElement (some element))) =>
      .leaf
        { ranParameterItem :=
            .mk id (some (.ranParameterElement (some element)))
          element := element }
  | .mk _ (some (.ranParameterStructure none)) => .node []
  | .mk _ (some (.ranParameterStructure (some items))) =>
      .node (roseForest items)
  | .mk _ (some .ranParameterList) => .node []

def roseForest : List RANParameterItemT -> List (RoseTree Leaf)
  | [] => []
  | item :: items => roseTree item :: roseForest items

end

mutual

theorem leaves_eq_fringe : forall item : RANParameterItemT,
    leaves item = RoseTree.fringe (roseTree item)
  | .mk _ none => rfl
  | .mk _ (some .nothing) => rfl
  | .mk _ (some (.ranParameterElement none)) => rfl
  | .mk _ (some (.ranParameterElement (some _))) => rfl
  | .mk _ (some (.ranParameterStructure none)) => rfl
  | .mk _ (some (.ranParameterStructure (some items))) =>
      leavesList_eq_fringeForest items
  | .mk _ (some .ranParameterList) => rfl

theorem leavesList_eq_fringeForest : forall items : List RANParameterItemT,
    leavesList items = RoseTree.fringeForest (roseForest items)
  | [] => rfl
  | item :: items => by
      unfold leavesList roseForest RoseTree.fringeForest
      rw [leaves_eq_fringe item, leavesList_eq_fringeForest items]

end

theorem leavesList_append (xs ys : List RANParameterItemT) :
    leavesList (xs ++ ys) = leavesList xs ++ leavesList ys := by
  induction xs with
  | nil => rfl
  | cons x xs ih =>
      show leaves x ++ leavesList (xs ++ ys) =
        (leaves x ++ leavesList xs) ++ leavesList ys
      rw [ih, List.append_assoc]

/-!
## The item of a leaf
-/

/-- The item carries the value of the leaf under the tag of its alternative.
Nothing is said about the alternatives that the source does not name. -/
def ItemOf (leaf : Leaf) (item : RANParameterItem) : Prop :=
  item.ranParameterItem = leaf.ranParameterItem ∧
    match leaf.element.ranParameterValue with
    | .nothing => item.valueType = ValueType.nothing
    | .valueInt value =>
        item.valueType = ValueType.int ∧ item.valueInt = value
    | .valueOctS value =>
        item.valueType = ValueType.octectString ∧
          exists valueStr, item.valueStr = some valueStr ∧
            valueStr.getValue.octets = value.octets ∧
            valueStr.getValue.size = value.size
    | .other _ => True

namespace RANParameterItem

theorem itemOf_ofElement (leftover : ItemLeftover) (leaf : Leaf) :
    ItemOf leaf (ofElement leftover leaf.ranParameterItem leaf.element) := by
  unfold ItemOf ofElement
  cases leaf.element.ranParameterValue with
  | nothing => exact ⟨rfl, rfl⟩
  | valueInt value => exact ⟨rfl, rfl, rfl⟩
  | valueOctS value =>
      exact ⟨rfl, rfl, _, rfl,
        OctetString.octets_ofPointer value.buf value.size value.size_le, rfl⟩
  | other present => exact ⟨rfl, trivial⟩

theorem forall₂_ofLeaves {R : Leaf -> RANParameterItem -> Prop}
    {ls : List Leaf}
    (h : forall leaf, leaf ∈ ls -> forall leftover,
      R leaf (ofElement leftover leaf.ranParameterItem leaf.element))
    (frames : Nat -> ItemLeftover) :
    List.Forall₂ R ls (ofLeaves frames ls) := by
  induction ls generalizing frames with
  | nil => exact List.Forall₂.nil
  | cons leaf ls ih =>
      unfold ofLeaves
      rw [List.mapIdx_cons]
      exact List.Forall₂.cons (h leaf List.mem_cons_self (frames 0))
        (ih (fun other hmem => h other (List.mem_cons_of_mem leaf hmem))
          fun k => frames (k + 1))

theorem extract_tree (frames : Nat -> ItemLeftover) (tree : RANParameterTree) :
    extractRANParametersFromRANParameter frames tree.root =
      some (ofLeaves frames (leaves tree.root)) :=
  extractRANParametersFromRANParameter_of_walkable frames tree.root
    tree.walkable

theorem extract_roots (frames : Nat -> ItemLeftover)
    (trees : List RANParameterTree) :
    extractRANParametersFromList frames (roots trees) =
      some (ofLeaves frames (leavesList (roots trees))) :=
  extractRANParametersFromList_of_walkable frames (roots trees)
    (walkableList_roots trees)

theorem ofLeaves_inDepthFirstOrder (frames : Nat -> ItemLeftover)
    (items : List RANParameterItemT) :
    RoseTree.InDepthFirstOrder (roseForest items) ItemOf
      (ofLeaves frames (leavesList items)) := by
  apply RoseTree.inDepthFirstOrder_of_fringe
  rw [← leavesList_eq_fringeForest]
  exact forall₂_ofLeaves (fun leaf _ leftover => itemOf_ofElement leftover leaf)
    frames

end RANParameterItem

/-!
## Tags and leftover memory
-/

structure HonestTag (leaf : Leaf) (item : RANParameterItem) : Prop where
  int : item.valueType = ValueType.int ->
    exists value, leaf.element.ranParameterValue = .valueInt value
  octectString : item.valueType = ValueType.octectString ->
    (exists value, leaf.element.ranParameterValue = .valueOctS value) ∧
      item.valueStr ≠ none

/-- The tags of the items are a function of the tree, and honest. -/
structure TagsDetermined (tree : RANParameterTree) : Prop where
  independent : forall frames frames' items items',
    RANParameterItem.extractRANParametersFromRANParameter frames tree.root =
      some items ->
    RANParameterItem.extractRANParametersFromRANParameter frames' tree.root =
      some items' ->
    items.map (fun item => item.valueType) =
      items'.map (fun item => item.valueType)
  honest : forall frames items,
    RANParameterItem.extractRANParametersFromRANParameter frames tree.root =
      some items ->
    List.Forall₂ HonestTag (leaves tree.root) items

def Leaf.Named (leaf : Leaf) : Prop :=
  forall present, leaf.element.ranParameterValue ≠ .other present

def Leaf.tag (leftover : ValueType) (leaf : Leaf) : ValueType :=
  match leaf.element.ranParameterValue with
  | .nothing => ValueType.nothing
  | .valueInt _ => ValueType.int
  | .valueOctS _ => ValueType.octectString
  | .other _ => leftover

theorem Leaf.tag_named {leaf : Leaf} (h : leaf.Named)
    (leftover leftover' : ValueType) :
    leaf.tag leftover = leaf.tag leftover' := by
  unfold Leaf.tag
  unfold Leaf.Named at h
  cases hvalue : leaf.element.ranParameterValue with
  | other present => exact absurd hvalue (h present)
  | _ => rfl

namespace RANParameterItem

theorem valueType_ofElement (leftover : ItemLeftover) (leaf : Leaf) :
    (ofElement leftover leaf.ranParameterItem leaf.element).valueType =
      leaf.tag leftover.valueType := by
  unfold ofElement Leaf.tag
  cases leaf.element.ranParameterValue <;> rfl

theorem honestTag_ofElement {leaf : Leaf} (h : leaf.Named)
    (leftover : ItemLeftover) :
    HonestTag leaf (ofElement leftover leaf.ranParameterItem leaf.element) := by
  unfold ofElement
  unfold Leaf.Named at h
  cases hvalue : leaf.element.ranParameterValue with
  | nothing =>
      constructor <;>
        · intro htag
          cases htag
  | valueInt value =>
      constructor
      · intro _
        exact ⟨value, hvalue⟩
      · intro htag
        cases htag
  | valueOctS value =>
      constructor
      · intro htag
        cases htag
      · intro _
        exact ⟨⟨value, hvalue⟩, Option.some_ne_none _⟩
  | other present => exact absurd hvalue (h present)

theorem map_valueType_ofLeaves (leftover : ValueType) {ls : List Leaf}
    {frames : Nat -> ItemLeftover}
    (h : forall leaf, leaf ∈ ls -> forall k,
      leaf.tag (frames k).valueType = leaf.tag leftover) :
    (ofLeaves frames ls).map (fun item => item.valueType) =
      ls.map (Leaf.tag leftover) := by
  induction ls generalizing frames with
  | nil => rfl
  | cons leaf ls ih =>
      have hrest : (ofLeaves (fun k => frames (k + 1)) ls).map
          (fun item => item.valueType) = ls.map (Leaf.tag leftover) :=
        ih fun other hmem k => h other (List.mem_cons_of_mem leaf hmem) (k + 1)
      unfold ofLeaves at hrest ⊢
      rw [List.mapIdx_cons, List.map_cons, List.map_cons, valueType_ofElement,
        h leaf List.mem_cons_self 0]
      exact congrArg (List.cons _) hrest

theorem named_of_tagsDetermined {tree : RANParameterTree}
    (h : TagsDetermined tree) :
    forall leaf, leaf ∈ leaves tree.root -> leaf.Named := by
  intro leaf hmem present hother
  have htags : forall leftover : ItemLeftover,
      (ofLeaves (fun _ => leftover) (leaves tree.root)).map
          (fun item => item.valueType) =
        (leaves tree.root).map (Leaf.tag leftover.valueType) :=
    fun leftover => map_valueType_ofLeaves leftover.valueType fun _ _ _ => rfl
  have hsame := h.independent _ _ _ _
    (extract_tree (fun _ => { valueType := .nothing, valueInt := 0 }) tree)
    (extract_tree (fun _ => { valueType := .int, valueInt := 0 }) tree)
  rw [htags, htags] at hsame
  have hleaf := List.map_inj_left.mp hsame leaf hmem
  unfold Leaf.tag at hleaf
  rw [hother] at hleaf
  cases hleaf

theorem tagsDetermined_of_named {tree : RANParameterTree}
    (hnamed : forall leaf, leaf ∈ leaves tree.root -> leaf.Named) :
    TagsDetermined tree := by
  have htags : forall frames : Nat -> ItemLeftover,
      (ofLeaves frames (leaves tree.root)).map (fun item => item.valueType) =
        (leaves tree.root).map (Leaf.tag .nothing) :=
    fun _ => map_valueType_ofLeaves .nothing
      fun leaf hmem _ => Leaf.tag_named (hnamed leaf hmem) _ _
  constructor
  · intro frames frames' items items' hitems hitems'
    rw [extract_tree] at hitems hitems'
    cases hitems
    cases hitems'
    rw [htags, htags]
  · intro frames items hitems
    rw [extract_tree] at hitems
    cases hitems
    exact forall₂_ofLeaves
      (fun leaf hmem leftover =>
        honestTag_ofElement (hnamed leaf hmem) leftover) frames

theorem tagsDetermined_iff (tree : RANParameterTree) :
    TagsDetermined tree <->
      forall leaf, leaf ∈ leaves tree.root -> leaf.Named :=
  ⟨named_of_tagsDetermined, tagsDetermined_of_named⟩

def unnamedElement : RANParameterTree where
  root := .mk 1 (some (.ranParameterElement (some
    { keyFlag := false, ranParameterValue := .other 3 })))
  walkable := trivial

/-- Its item passes for an octet string where the memory held that tag. -/
theorem unnamedElement_keeps_tag :
    (extractRANParametersFromRANParameter
          (fun _ => { valueType := .octectString, valueInt := 0 })
          unnamedElement.root).map
        (fun items => items.map fun item => (item.valueType, item.valueStr)) =
        some [(ValueType.octectString, none)] ∧
      ¬ TagsDetermined unnamedElement := by
  refine ⟨rfl, ?_⟩
  intro h
  have hsame := h.independent
    (fun _ => { valueType := .octectString, valueInt := 0 })
    (fun _ => { valueType := .int, valueInt := 0 }) _ _ rfl rfl
  cases hsame

/-!
## Octet strings
-/

def GivesBack (item : RANParameterItem) (content : List UInt8) : Prop :=
  exists valueStr, item.valueStr = some valueStr ∧
    valueStr.decodeContent = content

theorem givesBack_ofElement_iff {leaf : Leaf} {value : OctetStringT}
    (hvalue : leaf.element.ranParameterValue = .valueOctS value)
    (leftover : ItemLeftover) :
    GivesBack (ofElement leftover leaf.ranParameterItem leaf.element)
        value.octets <->
      0 ∉ value.octets := by
  have hoctets := OctetString.octets_ofPointer value.buf value.size
    value.size_le
  have hcontent := OctetString.decodeContent_eq_octets_iff
    (OctetString.ofPointer value.buf value.size value.size_le)
  rw [hoctets] at hcontent
  unfold GivesBack ofElement
  rw [hvalue]
  constructor
  · intro h
    rcases h with ⟨valueStr, hstr, hdecode⟩
    cases hstr
    exact hcontent.mp hdecode
  · intro hzero
    exact ⟨_, rfl, hcontent.mpr hzero⟩

theorem octet_strings_given_back_iff (frames : Nat -> ItemLeftover)
    (tree : RANParameterTree) :
    exists items,
      extractRANParametersFromRANParameter frames tree.root = some items ∧
        List.Forall₂
          (fun leaf item => forall value,
            leaf.element.ranParameterValue = .valueOctS value ->
              (GivesBack item value.octets <-> 0 ∉ value.octets))
          (leaves tree.root) items :=
  ⟨_, extract_tree frames tree,
    forall₂_ofLeaves
      (fun _ _ leftover _ hvalue => givesBack_ofElement_iff hvalue leftover)
      frames⟩

def binaryIdentity : RANParameterTree where
  root := .mk 1 (some (.ranParameterStructure (some
    [.mk 2 (some (.ranParameterElement (some
      { keyFlag := false
        ranParameterValue :=
          .valueOctS (OctetStringT.ofBytes [17, 0, 34]) })))])))
  walkable := ⟨trivial, trivial⟩

theorem binaryIdentity_cut :
    exists item,
      extractRANParametersFromRANParameter
          (fun _ => { valueType := .nothing, valueInt := 0 })
          binaryIdentity.root = some [item] ∧
        GivesBack item [17] ∧ ¬ GivesBack item [17, 0, 34] := by
  refine ⟨_, rfl, ⟨_, rfl, rfl⟩, ?_⟩
  intro h
  rcases h with ⟨valueStr, hstr, hdecode⟩
  cases hstr
  cases hdecode

end RANParameterItem

end Asn1c
end OranE2
