import OranE2.Asn1c.Capacity

/-!
# The description of the RIC control function

This module embeds `FillAndEncodeRCFunctionDescription` up to the definition
handed to the encoder, with every name filled by a bounded copy.  Together with
the constructors of the string wrappers these are the places at which the
module allocates the buffer of a string, copies into it and sets its size.
-/

namespace OranE2
namespace Control

open Library
open Asn1c

structure RANfunctionNameT where
  ranFunctionShortName : RawOctetString
  ranFunctionDescription : RawOctetString
  ranFunctionInstance : Int
  ranFunctionE2SMOID : RawOctetString
  deriving DecidableEq, Repr

structure RANControlParameterItemT where
  ranParameterID : Int
  ranParameterName : RawOctetString
  deriving DecidableEq, Repr

structure RICControlActionItemT where
  ricControlActionID : Int
  ricControlActionName : RawOctetString
  ranControlParametersList : List RANControlParameterItemT
  deriving DecidableEq, Repr

structure RICControlStyleItemT where
  ricControlStyleType : Int
  ricControlStyleName : RawOctetString
  ricControlMessageFormatType : Int
  ricControlHeaderFormatType : Int
  ricControlActionList : List RICControlActionItemT
  deriving DecidableEq, Repr

structure E2smRcRANFunctionDefinitionT where
  ranFunctionName : RANfunctionNameT
  ricControlStyleList : List RICControlStyleItemT
  deriving DecidableEq, Repr

/-- A name filled from a string literal: allocation, copy and size all use the
length of the literal. -/
def fillName (text : String) : Option RawOctetString :=
  let nameBuffer := characters text
  let name : RawOctetString :=
    { buf := calloc 0 nameBuffer.length, size := nameBuffer.length }
  name.memcpy nameBuffer

/-- The name of `ranParameter1`, whose size stays zero. -/
def fillRanParameter1Name (text : String) : Option RawOctetString :=
  let ranParameter1NameBuffer := characters text
  let name : RawOctetString :=
    { buf := calloc 0 ranParameter1NameBuffer.length, size := 0 }
  name.memcpy ranParameter1NameBuffer

inductive RCName where
  | ranFunctionShortName
  | ranFunctionDescription
  | ranFunctionE2SMOID
  | controlStyle0
  | controlAction0
  | ranParameter0
  | ranParameter1
  | controlStyle1
  | controlAction1
  | ranParameter2
  | ranParameter3
  deriving DecidableEq, Repr

def RCName.text : RCName -> String
  | .ranFunctionShortName => "ORAN-WG3-RC"
  | .ranFunctionDescription => "RIC Control Definitions"
  | .ranFunctionE2SMOID => "OID123"
  | .controlStyle0 => "Radio Bearer Control"
  | .controlAction0 => "DRB split ratio control"
  | .ranParameter0 => "Downlink PDCP Data Split"
  | .ranParameter1 => "Uplink PDCP Data Split Threshold"
  | .controlStyle1 => "Radio Bearer Control"
  | .controlAction1 => "Handover control"
  | .ranParameter2 => "NR CGI"
  | .ranParameter3 => "E-UTRA CGI"

def RCName.fill : RCName -> Option RawOctetString
  | .ranFunctionShortName =>
      let shortNameBuffer := characters RCName.ranFunctionShortName.text
      RawOctetString.ofString (StdString.ofBytes shortNameBuffer)
        shortNameBuffer.length
  | .ranParameter1 => fillRanParameter1Name RCName.ranParameter1.text
  | name => fillName name.text

def fillAndEncodeRCFunctionDescription :
    Option E2smRcRANFunctionDefinitionT := do
  let shortName <- RCName.ranFunctionShortName.fill
  let description <- RCName.ranFunctionDescription.fill
  let oid <- RCName.ranFunctionE2SMOID.fill
  let controlStyleName0 <- RCName.controlStyle0.fill
  let controlActionName0 <- RCName.controlAction0.fill
  let ranParameter0Name <- RCName.ranParameter0.fill
  let ranParameter1Name <- RCName.ranParameter1.fill
  let controlStyleName1 <- RCName.controlStyle1.fill
  let controlActionName1 <- RCName.controlAction1.fill
  let ranParameter2Name <- RCName.ranParameter2.fill
  let ranParameter3Name <- RCName.ranParameter3.fill
  let controlAction0 : RICControlActionItemT :=
    { ricControlActionID := 6
      ricControlActionName := controlActionName0
      ranControlParametersList :=
        [{ ranParameterID := 3, ranParameterName := ranParameter0Name },
         { ranParameterID := 2, ranParameterName := ranParameter1Name }] }
  let controlStyle0 : RICControlStyleItemT :=
    { ricControlStyleType := 1
      ricControlStyleName := controlStyleName0
      ricControlMessageFormatType := 1
      ricControlHeaderFormatType := 1
      ricControlActionList := [controlAction0] }
  let controlAction1 : RICControlActionItemT :=
    { ricControlActionID := 1
      ricControlActionName := controlActionName1
      ranControlParametersList :=
        [{ ranParameterID := 4, ranParameterName := ranParameter2Name },
         { ranParameterID := 6, ranParameterName := ranParameter3Name }] }
  let controlStyle1 : RICControlStyleItemT :=
    { ricControlStyleType := 3
      ricControlStyleName := controlStyleName1
      ricControlMessageFormatType := 1
      ricControlHeaderFormatType := 1
      ricControlActionList := [controlAction1] }
  some
    { ranFunctionName :=
        { ranFunctionShortName := shortName
          ranFunctionDescription := description
          ranFunctionInstance := 0
          ranFunctionE2SMOID := oid }
      ricControlStyleList := [controlStyle0, controlStyle1] }

/-!
## The names in the definition
-/

namespace E2smRcRANFunctionDefinitionT

def actionAt (d : E2smRcRANFunctionDefinitionT) (i : Nat) :
    Option RICControlActionItemT :=
  (d.ricControlStyleList[i]?).bind fun style => style.ricControlActionList[0]?

def parameterNameAt (d : E2smRcRANFunctionDefinitionT) (i j : Nat) :
    Option RawOctetString :=
  (d.actionAt i).bind fun action =>
    (action.ranControlParametersList[j]?).map fun item => item.ranParameterName

def nameAt (d : E2smRcRANFunctionDefinitionT) :
    RCName -> Option RawOctetString
  | .ranFunctionShortName => some d.ranFunctionName.ranFunctionShortName
  | .ranFunctionDescription => some d.ranFunctionName.ranFunctionDescription
  | .ranFunctionE2SMOID => some d.ranFunctionName.ranFunctionE2SMOID
  | .controlStyle0 =>
      (d.ricControlStyleList[0]?).map fun style => style.ricControlStyleName
  | .controlAction0 =>
      (d.actionAt 0).map fun action => action.ricControlActionName
  | .ranParameter0 => d.parameterNameAt 0 0
  | .ranParameter1 => d.parameterNameAt 0 1
  | .controlStyle1 =>
      (d.ricControlStyleList[1]?).map fun style => style.ricControlStyleName
  | .controlAction1 =>
      (d.actionAt 1).map fun action => action.ricControlActionName
  | .ranParameter2 => d.parameterNameAt 1 0
  | .ranParameter3 => d.parameterNameAt 1 1

end E2smRcRANFunctionDefinitionT

def RCName.filled (name : RCName) : RawOctetString where
  buf := characters name.text
  size :=
    if name = RCName.ranParameter1 then 0 else (characters name.text).length

theorem fillName_eq (text : String) :
    fillName text =
      some { buf := characters text, size := (characters text).length } :=
  memcpy_full rfl

theorem fillRanParameter1Name_eq (text : String) :
    fillRanParameter1Name text = some { buf := characters text, size := 0 } := by
  apply SizedBuffer.memcpy_eq_some_iff.mpr
  simp [calloc]

theorem RCName.fill_eq (name : RCName) : name.fill = some name.filled := by
  cases name with
  | ranFunctionShortName =>
      have hread : StdString.read
          (StdString.ofBytes (characters RCName.ranFunctionShortName.text))
          (characters RCName.ranFunctionShortName.text).length =
          characters RCName.ranFunctionShortName.text :=
        StdString.read_length _
      unfold RCName.fill RawOctetString.ofString
      dsimp only
      rw [hread]
      exact memcpy_full rfl
  | ranParameter1 => exact fillRanParameter1Name_eq _
  | _ => exact fillName_eq _

theorem nameAt_description (name : RCName) :
    fillAndEncodeRCFunctionDescription.bind
        (fun definition => definition.nameAt name) =
      some name.filled := by
  unfold fillAndEncodeRCFunctionDescription
  simp only [RCName.fill_eq]
  cases name <;> rfl

/-!
## Representation invariant
-/

inductive StringSite where
  | octetString (value : StdString) (size : Nat)
  | octetStringOfPointer (value : List UInt8) (size : Nat)
      (readable : size ≤ value.length)
  | bitString (value : StdString) (size : Nat)
  | bitStringUnused (value : StdString) (size bitsUnused : Nat)
  | sST (sst : List UInt8)
  | sSTWithSd (sst sd : List UInt8)
  | sD (sst sd : List UInt8)
  | rcName (name : RCName)

def StringSite.copied : StringSite -> List UInt8
  | .octetString value size => value.read size
  | .octetStringOfPointer value size _ => value.take size
  | .bitString value size => value.read size
  | .bitStringUnused value size _ => value.read size
  | .sST sst => sst
  | .sSTWithSd sst _ => sst
  | .sD _ sd => sd
  | .rcName name => characters name.text

def StringSite.built : StringSite -> Option (SizedBuffer UInt8)
  | .octetString value size => RawOctetString.ofString value size
  | .octetStringOfPointer value size _ => RawOctetString.ofPointer value size
  | .bitString value size =>
      (RawBitString.ofString value size).map fun b => b.toSizedBuffer
  | .bitStringUnused value size bitsUnused =>
      (RawBitString.ofStringUnused value size bitsUnused).map fun b =>
        b.toSizedBuffer
  | .sST sst => (Snssai.new sst).map fun snssai => snssai.sST
  | .sSTWithSd sst sd =>
      (Snssai.newWithSd sst sd).map fun snssai => snssai.sST
  | .sD sst sd => (Snssai.newWithSd sst sd).bind fun snssai => snssai.sD
  | .rcName name =>
      fillAndEncodeRCFunctionDescription.bind fun definition =>
        definition.nameAt name

/-- The copy stays within the buffer, and the size delimits what was copied. -/
def StringSite.Represents (site : StringSite) : Prop :=
  exists b, site.built = some b ∧ b.Carries site.copied

/-- The two operands of `Snssai` fit one capacity, and the size of the name is
set. -/
def StringSite.Consistent : StringSite -> Prop
  | .sSTWithSd sst sd => sd.length ≤ sst.length
  | .sD sst sd => sd.length ≤ sst.length
  | .rcName name => name ≠ RCName.ranParameter1
  | _ => True

theorem represents_of_built {site : StringSite} {content : List UInt8}
    {size : Nat} (hbuilt : site.built = some { buf := content, size := size })
    (hcopied : site.copied = content) (hsize : content.length = size) :
    site.Represents := by
  refine ⟨_, hbuilt, ?_⟩
  rw [hcopied, ← hsize]
  exact SizedBuffer.carries_exact content

theorem represents_rcName_iff (name : RCName) :
    (StringSite.rcName name).Represents <-> name ≠ RCName.ranParameter1 := by
  constructor
  · intro h hname
    rcases h with ⟨b, hbuilt, hcarries⟩
    rw [hname] at hbuilt hcarries
    cases (nameAt_description RCName.ranParameter1).symm.trans hbuilt
    have hsize := hcarries.size_eq
    cases hsize
  · intro hname
    have hbuilt : (StringSite.rcName name).built = some name.filled :=
      nameAt_description name
    exact represents_of_built hbuilt rfl (if_neg hname).symm

theorem represents_sD_iff (sst sd : List UInt8) :
    (StringSite.sD sst sd).Represents <-> sd.length ≤ sst.length := by
  constructor
  · intro h
    rcases h with ⟨b, hbuilt, _⟩
    rcases Option.bind_eq_some_iff.mp hbuilt with ⟨snssai, hnew, _⟩
    exact (Snssai.newWithSd_eq_some_iff.mp hnew).left
  · intro hfits
    have hnew := Snssai.newWithSd_eq_some_iff.mpr ⟨hfits, rfl⟩
    exact ⟨_, Option.bind_eq_some_iff.mpr ⟨_, hnew, rfl⟩,
      SizedBuffer.carries_front sd _⟩

theorem represents_sSTWithSd_iff (sst sd : List UInt8) :
    (StringSite.sSTWithSd sst sd).Represents <-> sd.length ≤ sst.length := by
  constructor
  · intro h
    rcases h with ⟨b, hbuilt, _⟩
    rcases Option.map_eq_some_iff.mp hbuilt with ⟨snssai, hnew, _⟩
    exact (Snssai.newWithSd_eq_some_iff.mp hnew).left
  · intro hfits
    have hnew := Snssai.newWithSd_eq_some_iff.mpr ⟨hfits, rfl⟩
    exact represents_of_built (Option.map_eq_some_iff.mpr ⟨_, hnew, rfl⟩) rfl
      rfl

theorem string_representation_iff (site : StringSite) :
    site.Represents <-> site.Consistent := by
  cases site with
  | octetString value size =>
      have hlength := StdString.length_read value size
      exact iff_of_true
        (represents_of_built (memcpy_full hlength) rfl hlength) trivial
  | octetStringOfPointer value size readable =>
      have hlength := List.length_take_of_le readable
      exact iff_of_true
        (represents_of_built (memcpy_full hlength) rfl hlength) trivial
  | bitString value size =>
      have hbuilt := congrArg
        (Option.map fun b : RawBitString => b.toSizedBuffer)
        (rawBitString_ofString value size)
      exact iff_of_true
        (represents_of_built hbuilt rfl (StdString.length_read value size))
        trivial
  | bitStringUnused value size bitsUnused =>
      have hbuilt := congrArg
        (Option.map fun b : RawBitString => b.toSizedBuffer)
        (congrArg (Option.map fun b : RawBitString =>
          { b with bitsUnused := bitsUnused })
          (rawBitString_ofString value size))
      exact iff_of_true
        (represents_of_built hbuilt rfl (StdString.length_read value size))
        trivial
  | sST sst =>
      have hbuilt := congrArg (Option.map fun snssai : Snssai => snssai.sST)
        (Snssai.new_eq sst)
      exact iff_of_true (represents_of_built hbuilt rfl rfl) trivial
  | sSTWithSd sst sd => exact represents_sSTWithSd_iff sst sd
  | sD sst sd => exact represents_sD_iff sst sd
  | rcName name => exact represents_rcName_iff name

theorem slice_and_parameter_not_represented :
    ¬ (StringSite.sD [1] [0, 0, 1]).Represents ∧
      Snssai.newWithSd [1] [0, 0, 1] = none ∧
      ¬ (StringSite.rcName RCName.ranParameter1).Represents := by
  refine ⟨?_, rfl, ?_⟩
  · intro h
    exact absurd ((represents_sD_iff _ _).mp h) (by decide)
  · intro h
    exact (represents_rcName_iff _).mp h rfl

end Control
end OranE2
