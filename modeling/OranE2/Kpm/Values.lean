import OranE2.Asn1c.NrCellId
import OranE2.L3Rrc.Measurements
import OranE2.L3Rrc.Serving
import OranE2.Library.RefSet

/-!
# Values of an indication message

The measurement items, the containers and the message values that callers fill
in.  Objects behind a `Ptr` in a `std::set` are named by references, and the
sets are walked through in the order of the addresses of their objects.
-/

namespace OranE2
namespace Kpm

open Library
open Asn1c
open L3Rrc

/-!
## Measurement items
-/

/-- A `double`, by its bit pattern. -/
structure Double where
  bits : UInt64
  deriving DecidableEq, Repr

structure ServingCellTree where
  present : ServingCellMeasurementsPR
  nrMeasResultServingMOList : List MeasResultServMOT
  eutraMeasResultPCell : Option MeasResultPCellT
  deriving DecidableEq, Repr

structure L3RrcTree where
  rrcEvent : Int
  servingCellMeasurements : Option ServingCellTree
  measResultNeighCells : Option (MeasResultNeighCellsPR × List Neighbour)
  deriving DecidableEq, Repr

inductive MeasurementValue where
  | valueInt (value : Int)
  | valueReal (value : Double)
  | valueRRC (value : Ref L3RrcTree)
  deriving DecidableEq, Repr

structure MeasurementItem where
  measName : OctetStringT
  pmVal : MeasurementValue
  deriving DecidableEq

def MeasurementItem.new (name : List UInt8) (value : MeasurementValue) :
    MeasurementItem where
  measName := OctetStringT.ofBytes name
  pmVal := value

@[ext] structure MeasurementItemList where
  id : Option OctetString
  items : List MeasurementItem
  deriving DecidableEq

namespace MeasurementItemList

def new : MeasurementItemList where
  id := none
  items := []

def ofId (id : List UInt8) : MeasurementItemList where
  id := some (OctetString.ofString (StdString.ofBytes id) id.length)
  items := []

def addItem (l : MeasurementItemList) (name : List UInt8)
    (value : MeasurementValue) : MeasurementItemList :=
  { l with items := l.items ++ [MeasurementItem.new name value] }

def addItems (l : MeasurementItemList)
    (calls : List (List UInt8 × MeasurementValue)) : MeasurementItemList :=
  calls.foldl (fun acc call => acc.addItem call.1 call.2) l

def getItems (l : MeasurementItemList) : List MeasurementItem :=
  l.items

theorem id_addItems (l : MeasurementItemList)
    (calls : List (List UInt8 × MeasurementValue)) :
    (l.addItems calls).id = l.id := by
  induction calls generalizing l with
  | nil => rfl
  | cons call rest ih => exact ih (l.addItem call.1 call.2)

theorem items_addItems (l : MeasurementItemList)
    (calls : List (List UInt8 × MeasurementValue)) :
    (l.addItems calls).items =
      l.items ++ calls.map fun call => MeasurementItem.new call.1 call.2 := by
  induction calls generalizing l with
  | nil => exact (List.append_nil _).symm
  | cons call rest ih =>
      show ((l.addItem call.1 call.2).addItems rest).items = _
      rw [ih]
      exact List.append_assoc _ _ _

end MeasurementItemList

/-!
## Containers
-/

structure OCuCpContainerValues where
  numActiveUes : UInt16
  deriving DecidableEq, Repr

structure OCuUpContainerValues where
  plmId : StdString
  pDCPBytesUL : Int
  pDCPBytesDL : Int

structure EpcDuPmContainer where
  qci : Int
  dlPrbUsage : Int
  ulPrbUsage : Int
  deriving DecidableEq, Repr

structure ServedPlmnPerCell where
  plmId : StdString
  perQciReportItems : RefSet EpcDuPmContainer

/-- A report of one cell.  `beyondNrCellId` is the memory behind the decimal
rendering that the cell identity is copied from. -/
structure CellResourceReport where
  plmId : StdString
  nrCellId : UInt16
  beyondNrCellId : Nat -> UInt8
  dlAvailablePrbs : Int
  ulAvailablePrbs : Int
  servedPlmnPerCellItems : RefSet ServedPlmnPerCell

structure ODuContainerValues where
  cellResourceReportItems : RefSet CellResourceReport

/-- `PmContainerValues`, by what the dynamic casts make of it. -/
inductive PmContainerValues where
  | cuUp (values : OCuUpContainerValues)
  | cuCp (values : OCuCpContainerValues)
  | du (values : ODuContainerValues)
  | other

structure KpmIndicationMessageValues (container : Type) where
  cellObjectId : List UInt8
  pmContainerValues : Option container
  cellMeasurementItems : Option MeasurementItemList
  ueIndications : RefSet MeasurementItemList

/-- Where the allocator has put the objects that sets are ordered by. -/
structure Placement where
  ue : Nat -> Nat
  report : Nat -> Nat
  served : Nat -> Nat
  qci : Nat -> Nat
  ue_injective : Function.Injective ue
  report_injective : Function.Injective report
  served_injective : Function.Injective served
  qci_injective : Function.Injective qci

def Placement.increasing : Placement where
  ue := id
  report := id
  served := id
  qci := id
  ue_injective := Function.injective_id
  report_injective := Function.injective_id
  served_injective := Function.injective_id
  qci_injective := Function.injective_id

end Kpm
end OranE2
