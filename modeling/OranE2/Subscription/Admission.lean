import OranE2.Subscription.Request

/-!
# Admission of the requested actions

A subscription request should be answered action by action: the first eligible
action of the request is accepted, every other one is refused, and the caller
gets the id of the accepted one.  This module determines for which requests
the response and the returned parameters do so.
-/

namespace OranE2
namespace Subscription

open Library
open E2ap

/-!
## The returned action id

Both branches of the action loop store the current id, so the caller receives
the id of the last requested action.
-/

/-- The last action of the request has the id of the first eligible action of
one of its subscription details elements. -/
def LastActionIsAdmitted (request : RICsubscriptionRequestT) : Prop :=
  exists last admitted,
    (requestedActions request).getLast? = some last ∧
      admitted ∈ firstEligible (actionLists request) ∧
      last.ricActionID = admitted.ricActionID

theorem mem_requestedActions_of_firstEligible
    {request : RICsubscriptionRequestT} {item : RICactionToBeSetupItemT}
    (h : item ∈ firstEligible (actionLists request)) :
    item ∈ requestedActions request := by
  rcases List.mem_filterMap.mp h with ⟨items, hitems, hfind⟩
  exact List.mem_flatten.mpr ⟨items, hitems, List.mem_of_find?_eq_some hfind⟩

theorem actionId_of_getLast {request : RICsubscriptionRequestT}
    {last : RICactionToBeSetupItemT}
    (hlast : (requestedActions request).getLast? = some last) :
    (((processRicSubscriptionRequest request).reqParams.actionId.toNat : Nat)
      : Int) = storedActionId last := by
  rcases List.getLast?_eq_some_iff.mp hlast with ⟨front, hfront⟩
  rw [processRicSubscriptionRequest_actionId, hfront,
    lastWrite_split (fun item : RICactionToBeSetupItemT =>
      some (UInt8.ofInt item.ricActionID)) front rfl (by simp)]
  rfl

theorem actionId_mem_acceptArray_iff {request : RICsubscriptionRequestT}
    (hrange : forall item, item ∈ requestedActions request ->
      0 ≤ item.ricActionID ∧ item.ricActionID ≤ 255)
    (haccepted :
      (processRicSubscriptionRequest request).response.acceptArray ≠ []) :
    (((processRicSubscriptionRequest request).reqParams.actionId.toNat : Nat)
        : Int) ∈
      (processRicSubscriptionRequest request).response.acceptArray <->
      LastActionIsAdmitted request := by
  rw [processRicSubscriptionRequest_acceptArray] at haccepted ⊢
  rcases List.exists_mem_of_ne_nil _ haccepted with ⟨_, hsome⟩
  rcases List.mem_map.mp hsome with ⟨some, hsome, _⟩
  have hsomeRequested := mem_requestedActions_of_firstEligible hsome
  rcases List.getLast?_isSome.mpr (List.ne_nil_of_mem hsomeRequested) |>
    Option.isSome_iff_exists.mp with ⟨last, hlast⟩
  have hlastRequested : last ∈ requestedActions request :=
    List.mem_of_getLast? hlast
  rw [actionId_of_getLast hlast, storedActionId_of_bounds
    (hrange last hlastRequested).left (hrange last hlastRequested).right]
  constructor
  · intro h
    rcases List.mem_map.mp h with ⟨admitted, hadmitted, hid⟩
    have hbounds := hrange admitted
      (mem_requestedActions_of_firstEligible hadmitted)
    rw [storedActionId_of_bounds hbounds.left hbounds.right] at hid
    exact ⟨last, admitted, hlast, hadmitted, hid.symm⟩
  · intro h
    rcases h with ⟨last', admitted, hlast', hadmitted, hid⟩
    rw [hlast] at hlast'
    cases hlast'
    have hbounds := hrange admitted
      (mem_requestedActions_of_firstEligible hadmitted)
    refine List.mem_map.mpr ⟨admitted, hadmitted, ?_⟩
    rw [storedActionId_of_bounds hbounds.left hbounds.right, hid]

def reportThenPolicy : RICsubscriptionRequestT where
  protocolIEs :=
    [.ricSubscriptionDetails
      { ricActionToBeSetupList :=
          [{ ricActionID := 1, ricActionType := .report },
           { ricActionID := 2, ricActionType := .policy }] }]

theorem reportThenPolicy_returns_refused_action :
    (processRicSubscriptionRequest reportThenPolicy).response.acceptArray
        = [1] ∧
      (processRicSubscriptionRequest reportThenPolicy).reqParams.actionId = 2 ∧
      ¬ ((((processRicSubscriptionRequest
            reportThenPolicy).reqParams.actionId.toNat : Nat) : Int) ∈
        (processRicSubscriptionRequest
          reportThenPolicy).response.acceptArray) := by
  decide

def policyThenReport : RICsubscriptionRequestT where
  protocolIEs :=
    [.ricSubscriptionDetails
      { ricActionToBeSetupList :=
          [{ ricActionID := 2, ricActionType := .policy },
           { ricActionID := 1, ricActionType := .report }] }]

theorem policyThenReport_returns_admitted_action :
    (((processRicSubscriptionRequest
        policyThenReport).reqParams.actionId.toNat : Nat) : Int) ∈
      (processRicSubscriptionRequest
        policyThenReport).response.acceptArray :=
  (actionId_mem_acceptArray_iff (by decide) (by decide)).mpr
    ⟨{ ricActionID := 1, ricActionType := .report },
      { ricActionID := 1, ricActionType := .report },
      by decide, by decide, rfl⟩

/-!
## Answering every action

Refused actions are never reported: the push onto the rejected list is
commented out.
-/

/-- Each subscription details element requests nothing, or one eligible action
whose id fits the `uint8_t` variable. -/
def NothingToRefuse (request : RICsubscriptionRequestT) : Prop :=
  forall items, items ∈ actionLists request ->
    items = [] ∨ exists item, items = [item] ∧ Eligible item ∧
      0 ≤ item.ricActionID ∧ item.ricActionID ≤ 255

theorem length_find?_toList_le (items : List RICactionToBeSetupItemT) :
    (items.find? fun item => Eligible item).toList.length ≤ items.length := by
  cases items with
  | nil => simp
  | cons item items =>
      have hone : (List.find? (fun item => decide (Eligible item))
          (item :: items)).toList.length ≤ 1 := Option.length_toList_le
      have hlen : (item :: items).length = items.length + 1 := rfl
      omega

theorem length_firstEligible_le
    (lists : List (List RICactionToBeSetupItemT)) :
    (firstEligible lists).length ≤ lists.flatten.length := by
  induction lists with
  | nil => simp [firstEligible]
  | cons items lists ih =>
      have hhead := length_find?_toList_le items
      rw [firstEligible_cons, List.flatten_cons, List.length_append,
        List.length_append]
      omega

theorem firstEligible_eq_flatten_of_length
    {lists : List (List RICactionToBeSetupItemT)}
    (h : (firstEligible lists).length = lists.flatten.length) :
    firstEligible lists = lists.flatten ∧
      forall items, items ∈ lists ->
        items = [] ∨ exists item, items = [item] ∧ Eligible item := by
  induction lists with
  | nil => exact ⟨rfl, by simp⟩
  | cons items lists ih =>
      have hhead := length_find?_toList_le items
      have htail := length_firstEligible_le lists
      rw [firstEligible_cons, List.flatten_cons, List.length_append,
        List.length_append] at h
      rcases ih (by omega) with ⟨heq, hshape⟩
      have hone : (items.find? fun item => Eligible item).toList.length =
          items.length := by omega
      have hitems : items = [] ∨ exists item, items = [item] ∧
          Eligible item := by
        rcases items with _ | ⟨item, _ | ⟨second, rest⟩⟩
        · exact Or.inl rfl
        · apply Or.inr
          refine ⟨item, rfl, ?_⟩
          by_cases hitem : Eligible item
          · exact hitem
          · simp [hitem] at hone
        · have hle : (List.find? (fun item => decide (Eligible item))
              (item :: second :: rest)).toList.length ≤ 1 :=
            Option.length_toList_le
          rw [hone] at hle
          simp at hle
      constructor
      · rw [firstEligible_cons, List.flatten_cons, heq]
        congr 1
        rcases hitems with rfl | ⟨item, rfl, hitem⟩
        · rfl
        · simp [hitem]
      · intro other hother
        rcases List.mem_cons.mp hother with rfl | hother
        · exact hitems
        · exact hshape other hother

theorem firstEligible_of_singletons
    {lists : List (List RICactionToBeSetupItemT)}
    (h : forall items, items ∈ lists ->
      items = [] ∨ exists item, items = [item] ∧ Eligible item) :
    firstEligible lists = lists.flatten := by
  induction lists with
  | nil => rfl
  | cons items lists ih =>
      rw [firstEligible_cons, List.flatten_cons,
        ih fun items hitems => h items (List.mem_cons_of_mem _ hitems)]
      congr 1
      rcases h items List.mem_cons_self with rfl | ⟨item, rfl, hitem⟩
      · rfl
      · simp [hitem]

theorem map_storedActionId_eq_iff (items : List RICactionToBeSetupItemT) :
    items.map storedActionId = items.map (·.ricActionID) <->
      forall item, item ∈ items ->
        0 ≤ item.ricActionID ∧ item.ricActionID ≤ 255 := by
  rw [List.map_inj_left]
  constructor
  · intro h item hitem
    exact (storedActionId_eq_iff item).mp (h item hitem)
  · intro h item hitem
    exact (storedActionId_eq_iff item).mpr (h item hitem)

theorem answers_perm_requested_iff (request : RICsubscriptionRequestT) :
    ((processRicSubscriptionRequest request).response.acceptArray ++
        (processRicSubscriptionRequest request).response.rejectArray).Perm
      ((requestedActions request).map (·.ricActionID)) <->
      NothingToRefuse request := by
  rw [processRicSubscriptionRequest_acceptArray,
    processRicSubscriptionRequest_rejectArray, List.append_nil]
  constructor
  · intro hperm
    have hlength := hperm.length_eq
    rw [List.length_map, List.length_map] at hlength
    rcases firstEligible_eq_flatten_of_length hlength with ⟨_, hshape⟩
    intro items hitems
    rcases hshape items hitems with hnil | ⟨item, hsingle, heligible⟩
    · exact Or.inl hnil
    · have hmem : item.ricActionID ∈
          (requestedActions request).map (·.ricActionID) := by
        apply List.mem_map_of_mem
        exact List.mem_flatten.mpr ⟨items, hitems, by simp [hsingle]⟩
      rcases List.mem_map.mp (hperm.mem_iff.mpr hmem) with
        ⟨stored, _, hstored⟩
      have hbounds := storedActionId_bounds stored
      exact Or.inr ⟨item, hsingle, heligible, by omega, by omega⟩
  · intro h
    have hall : firstEligible (actionLists request) =
        requestedActions request :=
      firstEligible_of_singletons fun items hitems =>
        (h items hitems).imp id fun ⟨item, hsingle, heligible, _⟩ =>
          ⟨item, hsingle, heligible⟩
    rw [hall, (map_storedActionId_eq_iff _).mpr]
    intro item hitem
    rcases List.mem_flatten.mp hitem with ⟨items, hitems, hmem⟩
    rcases h items hitems with hnil | ⟨only, hsingle, _, hbounds⟩
    · rw [hnil] at hmem
      cases hmem
    · rw [hsingle] at hmem
      rw [List.mem_singleton.mp hmem]
      exact hbounds

theorem reportThenPolicy_leaves_action_unanswered :
    ¬ ((processRicSubscriptionRequest reportThenPolicy).response.acceptArray ++
        (processRicSubscriptionRequest
          reportThenPolicy).response.rejectArray).Perm
      ((requestedActions reportThenPolicy).map (·.ricActionID)) := by
  decide

/-!
## One admission per request

The flag that remembers an accepted action lives inside one subscription
details element.
-/

/-- At most one subscription details element holds an eligible action, and the
id of the first eligible action fits the `uint8_t` variable. -/
def OneEligibleList (request : RICsubscriptionRequestT) : Prop :=
  ((actionLists request).filter fun items =>
      items.any fun item => Eligible item).length ≤ 1 ∧
    forall item,
      (requestedActions request).find? (fun item => Eligible item)
        = some item ->
      0 ≤ item.ricActionID ∧ item.ricActionID ≤ 255

theorem length_firstEligible (lists : List (List RICactionToBeSetupItemT)) :
    (firstEligible lists).length =
      (lists.filter fun items =>
        items.any fun item => Eligible item).length := by
  induction lists with
  | nil => rfl
  | cons items lists ih =>
      rw [firstEligible_cons, List.length_append, ih, List.filter_cons]
      cases hany : items.any fun item => decide (Eligible item) with
      | true =>
          have hsome : (items.find? fun item => decide (Eligible item)).isSome
              = true := by
            rw [List.find?_isSome]
            simpa using hany
          rcases Option.isSome_iff_exists.mp hsome with ⟨item, hitem⟩
          simp [hitem]
          omega
      | false =>
          have hnone : items.find? (fun item => decide (Eligible item))
              = none := by
            rw [List.find?_eq_none]
            simpa using hany
          simp [hnone]

theorem find?_requestedActions (request : RICsubscriptionRequestT) :
    (requestedActions request).find? (fun item => Eligible item) =
      (firstEligible (actionLists request)).head? := by
  unfold requestedActions firstEligible
  rw [List.find?_flatten, List.head?_filterMap]

theorem accepts_only_first_iff (request : RICsubscriptionRequestT) :
    ((processRicSubscriptionRequest request).response.acceptArray.length ≤ 1 ∧
      forall item,
        (requestedActions request).find? (fun item => Eligible item)
          = some item ->
        (processRicSubscriptionRequest request).response.acceptArray
          = [item.ricActionID]) <->
      OneEligibleList request := by
  rw [processRicSubscriptionRequest_acceptArray, List.length_map,
    length_firstEligible]
  unfold OneEligibleList
  constructor
  · intro h
    refine ⟨h.left, ?_⟩
    intro item hfirst
    have haccept := h.right item hfirst
    rw [find?_requestedActions] at hfirst
    rcases List.head?_eq_some_iff.mp hfirst with ⟨rest, hlist⟩
    rw [hlist] at haccept
    have hid : storedActionId item = item.ricActionID := by
      injection haccept
    exact (storedActionId_eq_iff item).mp hid
  · intro h
    refine ⟨h.left, ?_⟩
    intro item hfirst
    have hid := (storedActionId_eq_iff item).mpr (h.right item hfirst)
    have hone := h.left
    rw [← length_firstEligible] at hone
    rw [find?_requestedActions] at hfirst
    rcases List.head?_eq_some_iff.mp hfirst with ⟨rest, hlist⟩
    rw [hlist] at hone ⊢
    have hrest : rest = [] := by
      cases rest with
      | nil => rfl
      | cons second rest => simp at hone
    rw [hrest, List.map_singleton, hid]

def twoReportElements : RICsubscriptionRequestT where
  protocolIEs :=
    [.ricSubscriptionDetails
      { ricActionToBeSetupList :=
          [{ ricActionID := 1, ricActionType := .report }] },
     .ricSubscriptionDetails
      { ricActionToBeSetupList :=
          [{ ricActionID := 2, ricActionType := .report }] }]

theorem twoReportElements_accepts_both :
    (processRicSubscriptionRequest twoReportElements).response.acceptArray
        = [1, 2] ∧
      ¬ ((processRicSubscriptionRequest
          twoReportElements).response.acceptArray.length ≤ 1 ∧
        forall item,
          (requestedActions twoReportElements).find?
            (fun item => Eligible item) = some item ->
          (processRicSubscriptionRequest
            twoReportElements).response.acceptArray = [item.ricActionID]) := by
  refine ⟨by decide, ?_⟩
  intro h
  exact absurd h.left (by decide)

/-!
## Success without an admitted action

The success response is generated after the loops, whatever they have found.
-/

theorem success_admits_action_iff (request : RICsubscriptionRequestT) :
    (processRicSubscriptionRequest request).response.acceptArray ≠ [] <->
      exists item, item ∈ requestedActions request ∧ Eligible item := by
  rw [processRicSubscriptionRequest_acceptArray, ne_eq, List.map_eq_nil_iff]
  constructor
  · intro h
    rcases List.exists_mem_of_ne_nil _ h with ⟨item, hitem⟩
    rcases List.mem_filterMap.mp hitem with ⟨items, _, hfind⟩
    have heligible : decide (Eligible item) = true :=
      List.find?_some (p := fun item => decide (Eligible item)) hfind
    exact ⟨item, mem_requestedActions_of_firstEligible hitem,
      of_decide_eq_true heligible⟩
  · intro hall hnone
    rcases hall with ⟨item, hmem, heligible⟩
    rcases List.mem_flatten.mp hmem with ⟨items, hitems, hitem⟩
    have hfind := List.filterMap_eq_nil_iff.mp hnone items hitems
    exact List.find?_eq_none.mp hfind item hitem
      (decide_eq_true heligible)

def policyOnly : RICsubscriptionRequestT where
  protocolIEs :=
    [.ricSubscriptionDetails
      { ricActionToBeSetupList :=
          [{ ricActionID := 1, ricActionType := .policy }] }]

theorem policyOnly_answered_with_success :
    (processRicSubscriptionRequest policyOnly).response.acceptArray = [] ∧
      (processRicSubscriptionRequest
        { protocolIEs := [] }).response.acceptArray = [] := by
  decide

end Subscription
end OranE2
