import OranE2.Kpm.Image
import OranE2.Library.Release

/-!
# Ownership of what a message is made of

The builder allocates the containers of a message anew and copies the strings
of the container values, while measurement items and UE identities enter the
message by pointer.  After encoding, `ASN_STRUCT_FREE` releases everything that
the message leads to.
-/

namespace OranE2
namespace Kpm

open Library
open Library.PartialRun
open Asn1c

/-!
## The structures of a message
-/

inductive Owner where
  | cell
  | ue (id : Nat)
  deriving DecidableEq, Repr

/-- What the builder allocates for one message.  A container stands for itself
and all that its filler allocates. -/
inductive MessagePart where
  | format
  | containersList
  | ranContainer
  | cellObjectID
  | listOfPMInformation (owner : Owner)
  | listOfMatchedUEs
  | perUEItem (ue : Nat)
  deriving DecidableEq, Repr

/-- The structures on the heap: parts of the message of a call, the buffer of a
UE identity, and the item, the name and the measurement tree that `AddItem` puts
into a list. -/
inductive HeapObject where
  | part (call : Nat) (part : MessagePart)
  | ueId (ue : Nat)
  | infoItem (owner : Owner) (index : Nat)
  | measName (owner : Owner) (index : Nat)
  | rrcTree (id : Nat)
  deriving DecidableEq, Repr

def messageParts (values : KpmIndicationMessageValues container) :
    List MessagePart :=
  [.format, .containersList, .ranContainer, .cellObjectID] ++
    (match values.cellMeasurementItems with
      | none => []
      | some _ => [.listOfPMInformation .cell]) ++
    (if values.ueIndications.refs.length > 0 then
      .listOfMatchedUEs :: values.ueIndications.refs.flatMap fun ue =>
        [.perUEItem ue.id, .listOfPMInformation (.ue ue.id)]
    else
      [])

def MeasurementValue.objects : MeasurementValue -> List HeapObject
  | .valueRRC value => [.rrcTree value.id]
  | _ => []

def itemObjects (owner : Owner) (items : List MeasurementItem) :
    List HeapObject :=
  items.zipIdx.flatMap fun item =>
    .infoItem owner item.2 :: .measName owner item.2 :: item.1.pmVal.objects

def sharedObjects (values : KpmIndicationMessageValues container) :
    List HeapObject :=
  (match values.cellMeasurementItems with
    | none => []
    | some l => itemObjects .cell l.getItems) ++
  values.ueIndications.refs.flatMap fun ue =>
    .ueId ue.id :: itemObjects (.ue ue.id) ue.object.getItems

def messageObjects (values : KpmIndicationMessageValues container)
    (call : Nat) : List HeapObject :=
  (messageParts values).map (HeapObject.part call) ++ sharedObjects values

/-!
## Creating messages
-/

/-- What calls have left: the structures they have released, the messages they
have handed to the encoder, and whether a fatal error has ended the program. -/
structure Created where
  released : List HeapObject
  handed : List E2smKpmIndicationMessageFormat1T
  ended : Bool

/-- One more message of the same values, for a given encoder; `none` is the use
of a released structure.  The encoder reads all of the message. -/
def createMessage (accepts : E2smKpmIndicationMessageFormat1T -> Bool)
    (p : Placement) (values : KpmIndicationMessageValues PmContainerValues)
    (s : Created) (call : Nat) : Option Created :=
  if s.ended then
    some s
  else
    match fillAndEncodeKpmIndicationMessage p values with
    | .error _ => some { s with ended := true }
    | .ok format =>
        if Live s.released (messageObjects values call) then
          if accepts format then
            (releaseAll s.released (messageObjects values call)).map
              fun released =>
                { released := released
                  handed := s.handed ++ [format]
                  ended := false }
          else
            some { s with handed := s.handed ++ [format], ended := true }
        else
          none

def createMessages (accepts : E2smKpmIndicationMessageFormat1T -> Bool)
    (p : Placement) (values : KpmIndicationMessageValues PmContainerValues)
    (n : Nat) : Option Created :=
  run (createMessage accepts p values)
    { released := [], handed := [], ended := false } (List.range n)

/-- Any number of calls use live structures only and hand equal messages to the
encoder, one in each call unless a fatal error ends the program. -/
def Repeatable (accepts : E2smKpmIndicationMessageFormat1T -> Bool)
    (p : Placement) (values : KpmIndicationMessageValues PmContainerValues) :
    Prop :=
  forall n, exists s, createMessages accepts p values n = some s ∧
    (forall m, m ∈ s.handed -> forall m', m' ∈ s.handed -> m = m') ∧
      (s.ended = false -> s.handed.length = n)

def Encoded (accepts : E2smKpmIndicationMessageFormat1T -> Bool)
    (p : Placement) (values : KpmIndicationMessageValues PmContainerValues) :
    Prop :=
  exists format, fillAndEncodeKpmIndicationMessage p values = .ok format ∧
    accepts format = true

section

variable {accepts : E2smKpmIndicationMessageFormat1T -> Bool} {p : Placement}
variable {values : KpmIndicationMessageValues PmContainerValues}

/-- What holds around calls that do not encode their message: the first of them
ends the program. -/
structure Unreleased (p : Placement)
    (values : KpmIndicationMessageValues PmContainerValues) (s : Created)
    (history : List Nat) : Prop where
  released : s.released = []
  handed : forall m, m ∈ s.handed ->
    fillAndEncodeKpmIndicationMessage p values = .ok m
  first : s.ended = false -> history = [] ∧ s.handed = []

theorem createMessage_unreleased (h : ¬ Encoded accepts p values)
    {s : Created} {history : List Nat} (hs : Unreleased p values s history)
    (call : Nat) :
    exists s', createMessage accepts p values s call = some s' ∧
      Unreleased p values s' (history ++ [call]) := by
  unfold createMessage
  cases hended : s.ended with
  | true =>
      refine ⟨s, rfl, hs.released, hs.handed, ?_⟩
      intro hgoes
      rw [hended] at hgoes
      cases hgoes
  | false =>
      have hnone := (hs.first hended).right
      rw [if_neg Bool.false_ne_true]
      cases hfill : fillAndEncodeKpmIndicationMessage p values with
      | error a =>
          refine ⟨_, rfl, hs.released, ?_, fun hgoes => by cases hgoes⟩
          intro m hm
          change m ∈ s.handed at hm
          rw [hnone] at hm
          cases hm
      | ok format =>
          have hrefused : accepts format = false :=
            Bool.eq_false_iff.mpr fun haccepts =>
              h ⟨format, hfill, haccepts⟩
          have hlive : Live s.released (messageObjects values call) := by
            rw [hs.released]
            exact fun _ _ => List.not_mem_nil
          dsimp only
          rw [if_pos hlive, hrefused, if_neg Bool.false_ne_true]
          refine ⟨_, rfl, hs.released, ?_, fun hgoes => by cases hgoes⟩
          intro m hm
          change m ∈ s.handed ++ [format] at hm
          rw [hnone] at hm
          rw [List.mem_singleton.mp hm]
          exact hfill

theorem repeatable_of_not_encoded (h : ¬ Encoded accepts p values) :
    Repeatable accepts p values := by
  intro n
  have hinit : Unreleased p values
      { released := [], handed := [], ended := false } [] :=
    ⟨rfl, fun m hm => absurd hm List.not_mem_nil, fun _ => ⟨rfl, rfl⟩⟩
  have hall : exists s, createMessages accepts p values n = some s ∧
      Unreleased p values s (List.range n) :=
    run_history (R := Unreleased p values)
      (fun _ _ call _ hs => createMessage_unreleased h hs call) hinit
  rcases hall with ⟨s, hrun, hs⟩
  refine ⟨s, hrun, ?_, ?_⟩
  · intro m hm m' hm'
    exact Except.ok.inj ((hs.handed m hm).symm.trans (hs.handed m' hm'))
  · intro hgoes
    rcases hs.first hgoes with ⟨hhistory, hnone⟩
    rw [hnone, ← List.length_range (n := n), hhistory]
    rfl

theorem createMessages_eq_rounds {format : E2smKpmIndicationMessageFormat1T}
    (hfill : fillAndEncodeKpmIndicationMessage p values = .ok format)
    (haccepts : accepts format = true) (n : Nat) :
    createMessages accepts p values n =
      (rounds (messageObjects values) n).map fun released =>
        { released := released
          handed := List.replicate n format
          ended := false } := by
  induction n with
  | zero => rfl
  | succ n ih =>
      have hsnoc : createMessages accepts p values (n + 1) =
          (createMessages accepts p values n).bind fun s =>
            createMessage accepts p values s n := by
        unfold createMessages
        rw [List.range_succ, run_snoc]
      rw [hsnoc, ih, rounds_succ]
      cases hrounds : rounds (messageObjects values) n with
      | none => rfl
      | some released =>
          show createMessage accepts p values _ n =
            (releaseAll released (messageObjects values n)).map _
          unfold createMessage
          rw [hfill]
          dsimp only
          rw [if_neg Bool.false_ne_true, haccepts, if_pos rfl,
            List.replicate_succ']
          by_cases hlive : Live released (messageObjects values n)
          · rw [if_pos hlive]
          · have hnone : releaseAll released (messageObjects values n) =
                none := by
              apply Option.eq_none_iff_forall_ne_some.mpr
              intro released' hsome
              exact hlive (releaseAll_eq_some_iff.mp hsome).left
            rw [if_neg hlive, hnone]
            rfl

theorem repeatable_iff_rounds (h : Encoded accepts p values) :
    Repeatable accepts p values <->
      forall n, rounds (messageObjects values) n ≠ none := by
  rcases h with ⟨format, hfill, haccepts⟩
  constructor
  · intro hrep n hnone
    rcases hrep n with ⟨s, hs, _⟩
    rw [createMessages_eq_rounds hfill haccepts, hnone] at hs
    cases hs
  · intro hrounds n
    rcases Option.ne_none_iff_exists'.mp (hrounds n) with ⟨released, hn⟩
    refine ⟨_, by rw [createMessages_eq_rounds hfill haccepts, hn]; rfl,
      ?_, ?_⟩
    · intro m hm m' hm'
      rw [List.eq_of_mem_replicate hm, List.eq_of_mem_replicate hm']
    · intro _
      exact List.length_replicate

end

/-!
## What is shared
-/

theorem itemObjects_eq_nil_iff {owner : Owner} {items : List MeasurementItem} :
    itemObjects owner items = [] <-> items = [] := by
  cases items with
  | nil => exact ⟨fun _ => rfl, fun _ => rfl⟩
  | cons item rest =>
      constructor
      · intro h
        cases h
      · intro h
        cases h

theorem sharedObjects_eq_nil_iff
    (values : KpmIndicationMessageValues container) :
    sharedObjects values = [] <->
      values.ueIndications.objects = [] ∧
        forall l, values.cellMeasurementItems = some l -> l.items = [] := by
  unfold sharedObjects RefSet.objects
  rw [List.append_eq_nil_iff, List.map_eq_nil_iff]
  constructor
  · intro h
    rcases h with ⟨hcell, hues⟩
    constructor
    · cases hrefs : values.ueIndications.refs with
      | nil => rfl
      | cons r rest =>
          rw [hrefs] at hues
          cases hues
    · intro l hl
      rw [hl] at hcell
      exact itemObjects_eq_nil_iff.mp hcell
  · intro h
    rcases h with ⟨hues, hcell⟩
    rw [hues]
    refine ⟨?_, rfl⟩
    cases hl : values.cellMeasurementItems with
    | none => rfl
    | some l => exact itemObjects_eq_nil_iff.mpr (hcell l hl)

theorem messageParts_nodup {values : KpmIndicationMessageValues container}
    (h : values.ueIndications.objects = []) : (messageParts values).Nodup := by
  unfold messageParts
  rw [List.map_eq_nil_iff.mp h]
  cases values.cellMeasurementItems with
  | none =>
      show [MessagePart.format, .containersList, .ranContainer,
        .cellObjectID].Nodup
      decide
  | some l =>
      show [MessagePart.format, .containersList, .ranContainer, .cellObjectID,
        .listOfPMInformation .cell].Nodup
      decide

theorem rounds_succeed_of_not_shared
    {values : KpmIndicationMessageValues container}
    (h : sharedObjects values = []) (n : Nat) :
    rounds (messageObjects values) n ≠ none := by
  have hobjects : forall call, messageObjects values call =
      (messageParts values).map (HeapObject.part call) := by
    intro call
    unfold messageObjects
    rw [h, List.append_nil]
  have hues := ((sharedObjects_eq_nil_iff values).mp h).left
  revert n
  apply (rounds_succeed_iff (messageObjects values)).mpr
  constructor
  · intro call
    rw [hobjects]
    apply (messageParts_nodup hues).map
    intro part part' hpart
    exact (HeapObject.part.inj hpart).right
  · intro j k hjk x hx hmem
    rw [hobjects] at hx hmem
    rcases List.mem_map.mp hx with ⟨part, _, rfl⟩
    rcases List.mem_map.mp hmem with ⟨part', _, hpart⟩
    exact absurd (HeapObject.part.inj hpart).left (Nat.ne_of_lt hjk)

/-- Messages of the same values can be created again and again exactly when they
are not encoded or share nothing with the values. -/
theorem repeatable_iff (accepts : E2smKpmIndicationMessageFormat1T -> Bool)
    (p : Placement) (values : KpmIndicationMessageValues PmContainerValues) :
    Repeatable accepts p values <->
      (Encoded accepts p values -> sharedObjects values = []) := by
  by_cases hencoded : Encoded accepts p values
  · rw [repeatable_iff_rounds hencoded]
    constructor
    · intro hrounds _
      have hlive := ((rounds_succeed_iff _).mp hrounds).right 0 1 Nat.one_pos
      apply List.eq_nil_iff_forall_not_mem.mpr
      intro x hx
      exact hlive x (List.mem_append_right _ hx) (List.mem_append_right _ hx)
    · intro h n
      exact rounds_succeed_of_not_shared (h hencoded) n
  · exact ⟨fun _ h => absurd h hencoded,
      fun _ => repeatable_of_not_encoded hencoded⟩

theorem released_of_createMessage
    {accepts : E2smKpmIndicationMessageFormat1T -> Bool} {p : Placement}
    {values : KpmIndicationMessageValues PmContainerValues}
    (hencoded : Encoded accepts p values) {s : Created}
    (h : createMessages accepts p values 1 = some s) :
    s.released = messageObjects values 0 := by
  rcases hencoded with ⟨format, hfill, haccepts⟩
  rw [createMessages_eq_rounds hfill haccepts] at h
  rcases Option.map_eq_some_iff.mp h with ⟨released, hrounds, rfl⟩
  show released = _
  rw [released_of_rounds hrounds]
  exact List.flatMap_singleton _ _

end Kpm
end OranE2
