import Mathlib.Data.List.Basic

/-!
# Measurement structures

The generated structures of L3 RRC measurement reports, as far as the wrapper
classes fill them, and the constructors of the small wrappers.
-/

namespace OranE2
namespace L3Rrc

structure MeasQuantityResultsT where
  rsrp : Option Int
  rsrq : Option Int
  sinr : Option Int
  deriving DecidableEq, Repr

structure MeasResultNRT where
  physCellId : Option Int
  resultsSSBCell : Option MeasQuantityResultsT
  resultsCSIRSCell : Option MeasQuantityResultsT
  deriving DecidableEq, Repr

structure MeasResultEUTRAT where
  eutraPhysCellId : Int
  rsrp : Option Int
  rsrq : Option Int
  sinr : Option Int
  deriving DecidableEq, Repr

structure MeasResultPCellT where
  eutraPhysCellId : Int
  rsrpResult : Int
  rsrqResult : Int
  deriving DecidableEq, Repr

structure MeasResultServMOT where
  servCellId : Int
  measResultServingCell : MeasResultNRT
  measResultBestNeighCell : Option MeasResultNRT
  deriving DecidableEq, Repr

def MeasQuantityResultsT.new : MeasQuantityResultsT where
  rsrp := none
  rsrq := none
  sinr := none

def MeasQuantityResultsT.addRsrp (results : MeasQuantityResultsT)
    (rsrp : Int) : MeasQuantityResultsT :=
  { results with rsrp := some rsrp }

def MeasQuantityResultsT.addRsrq (results : MeasQuantityResultsT)
    (rsrq : Int) : MeasQuantityResultsT :=
  { results with rsrq := some rsrq }

def MeasQuantityResultsT.addSinr (results : MeasQuantityResultsT)
    (sinr : Int) : MeasQuantityResultsT :=
  { results with sinr := some sinr }

inductive ResultCell where
  | SSB
  | CSIRS
  deriving DecidableEq, Repr

def MeasResultNRT.new (physCellId : Int) : MeasResultNRT where
  physCellId := some physCellId
  resultsSSBCell := none
  resultsCSIRSCell := none

def MeasResultNRT.addCellResults (measResultNr : MeasResultNRT)
    (cell : ResultCell) (results : MeasQuantityResultsT) : MeasResultNRT :=
  match cell with
  | ResultCell.SSB => { measResultNr with resultsSSBCell := some results }
  | ResultCell.CSIRS => { measResultNr with resultsCSIRSCell := some results }

end L3Rrc
end OranE2
