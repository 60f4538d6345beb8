import OranE2.Helper.LastFill
import OranE2.Kpm.Processing

/-!
# From the operations to the receiver

What the message of a helper says, read off the operations that were called,
and what the decoding example prints when it receives the message.
-/

namespace OranE2
namespace Helper

open Library
open Library.PartialRun
open Asn1c
open Kpm

/-!
## The container of the last fill
-/

/-- The values that a fill gives to the container, with the reports that were
added to the container of an O-DU. -/
def filledValues (rs : List (Ref CellResourceReport)) :
    {c : HelperClass} -> Operation c -> PmContainerValues
  | .lte, op =>
      match (op : LteOperation) with
      | .fillCuUpValues plmId pdcpBytesUl pdcpBytesDl =>
          .cuUp
            { plmId := plmId
              pDCPBytesUL := pdcpBytesUl
              pDCPBytesDL := pdcpBytesDl }
      | .fillCuCpValues numActiveUes =>
          .cuCp { numActiveUes := numActiveUes }
      | _ => .other
  | .mmWave, op =>
      match (op : MmWaveOperation) with
      | .fillCuUpValues plmId =>
          .cuUp { plmId := plmId, pDCPBytesUL := 0, pDCPBytesDL := 0 }
      | .fillCuCpValues numActiveUes =>
          .cuCp { numActiveUes := numActiveUes }
      | .fillDuValues _ => .du (collectedReports rs)
      | _ => .other

theorem split_of_lastFill {ops : List (Operation c)} {op : Operation c}
    (h : lastFill ops = some op) :
    isFill op = true ∧ exists pre post, ops = pre ++ op :: post ∧
      forall later, later ∈ post -> isFill later = false := by
  rcases List.getLast?_eq_some_iff.mp h with ⟨front, hfront⟩
  rcases List.filter_eq_append_iff.mp hfront with ⟨l, l', hops, _, hl'⟩
  rcases List.filter_eq_cons_iff.mp hl' with
    ⟨mid, post, hsplit, _, hfill, hpost⟩
  refine ⟨hfill, l ++ mid, post, ?_, ?_⟩
  · rw [hops, hsplit, List.append_assoc]
  · intro later hlater
    exact Bool.eq_false_iff.mpr (List.filter_eq_nil_iff.mp hpost later hlater)

section

variable {ceil : Ceiling} {reduced : Bool} {ops : List (Operation c)}
variable {op : Operation c}

theorem lastWrite_of_lastFill (hlast : lastFill ops = some op)
    {write : Effect -> Option value} {v : value}
    (hwrite : forall e : Effect, e.LeavesFill -> write e = none)
    (hop : write (effect ceil reduced op) = some v) (init : value) :
    lastWrite write init (effects ceil reduced ops) = v := by
  rcases split_of_lastFill hlast with ⟨_, pre, post, hsplit, hpost⟩
  unfold effects
  rw [hsplit, List.map_append, List.map_cons]
  apply lastWrite_split write _ hop
  intro e he
  rcases List.mem_map.mp he with ⟨later, hlater, rfl⟩
  exact hwrite _ (leavesFill_of_not_isFill (hpost later hlater))

theorem mmWave_leaves_bytes (op : Operation .mmWave) :
    (effect ceil reduced op).pDCPBytesULWrite = none ∧
      (effect ceil reduced op).pDCPBytesDLWrite = none := by
  cases op <;> exact ⟨rfl, rfl⟩

theorem lastWrite_of_mmWave {ops : List (Operation .mmWave)}
    {write : Effect -> Option value}
    (hwrite : forall op : Operation .mmWave,
      write (effect ceil reduced op) = none) (init : value) :
    lastWrite write init (effects ceil reduced ops) = init := by
  apply lastWrite_of_silent
  intro e he
  rcases List.mem_map.mp he with ⟨op, _, rfl⟩
  exact hwrite op

variable {type : IndicationMessageType} {h : IndicationMessageHelper}

theorem container_of_lastFill
    (hrun : runOperations ceil
      (IndicationMessageHelper.new type false reduced) ops = some h)
    (hlast : lastFill ops = some op) (howner : owner op = type) :
    h.values.pmContainerValues =
      some (filledValues (reports ceil reduced ops) op) := by
  rw [container_of_filledLast hrun ⟨rfl, op, hlast, howner⟩]
  have hcontainers := containers_of_run hrun
  rw [baseNew_reduced] at hcontainers
  have hfill := (mem_of_lastFill hlast).right
  subst howner
  cases c with
  | lte =>
      cases op with
      | fillCuUpValues plmId pdcpBytesUl pdcpBytesDl =>
          show h.cuUpValues.map _ = _
          rw [hcontainers.cuUp]
          simp only [lastWrite_of_lastFill hlast (fun _ he => he.plmId) rfl,
            lastWrite_of_lastFill hlast (fun _ he => he.pDCPBytesUL) rfl,
            lastWrite_of_lastFill hlast (fun _ he => he.pDCPBytesDL) rfl]
          rfl
      | fillCuCpValues numActiveUes =>
          show h.cuCpValues.map _ = _
          rw [hcontainers.cuCp]
          simp only [lastWrite_of_lastFill hlast (fun _ he => he.numActiveUes)
            rfl]
          rfl
      | _ => cases hfill
  | mmWave =>
      cases op with
      | fillCuUpValues plmId =>
          show h.cuUpValues.map _ = _
          rw [hcontainers.cuUp]
          simp only [lastWrite_of_lastFill hlast (fun _ he => he.plmId) rfl,
            lastWrite_of_mmWave fun op => (mmWave_leaves_bytes op).left,
            lastWrite_of_mmWave fun op => (mmWave_leaves_bytes op).right]
          rfl
      | fillCuCpValues numActiveUes =>
          show h.cuCpValues.map _ = _
          rw [hcontainers.cuCp]
          simp only [lastWrite_of_lastFill hlast (fun _ he => he.numActiveUes)
            rfl]
          rfl
      | fillDuValues cellObjectId =>
          show h.duValues.map _ = _
          rw [hcontainers.du]
          rfl
      | _ => cases hfill

end

/-!
## The message of a run
-/

/-- What a message says, read off the operations that its helper has been
through. -/
structure CarriesOperations (ceil : Ceiling) (type : IndicationMessageType)
    (reduced : Bool) (ops : List (Operation c))
    (format : E2smKpmIndicationMessageFormat1T) : Prop where
  container : exists op pf, lastFill ops = some op ∧ owner op = type ∧
    format.pmContainers = [pf] ∧
      MirrorsContainer (filledValues (reports ceil reduced ops) op) pf
  cellObjectID : format.cellObjectID.octets =
    lastWrite Effect.cellObjectIdWrite
      (if type = .cuCp then literal "NRCellCU" else [])
      (effects ceil reduced ops)
  cellItems : Option.Rel (List.Forall₂ MirrorsItem)
    ((lastWrite (cellWrite ceil reduced) none ops).map
      MeasurementItemList.items)
    format.listOfPMInformation
  absentUEs : format.listOfMatchedUEs = none <-> ueLists ceil reduced ops = []
  matchedUEs : forall entries, format.listOfMatchedUEs = some entries ->
    exists ues, ues.Perm (ueLists ceil reduced ops) ∧
      List.Forall₂ MirrorsUE ues entries

theorem baseNew_cellObjectId (type : IndicationMessageType)
    (reduced : Bool) :
    (IndicationMessageHelper.new type false
      reduced).msgValues.cellObjectId =
        if type = .cuCp then literal "NRCellCU" else [] := by
  cases type <;> rfl

theorem lastFill_of_created {ceil : Ceiling} {type : IndicationMessageType}
    {offline reduced : Bool} {h : IndicationMessageHelper}
    {ops : List (Operation c)}
    (hrun : runOperations ceil
      (IndicationMessageHelper.new type offline reduced) ops = some h)
    {p : Placement} {format : E2smKpmIndicationMessageFormat1T}
    (hcreated : h.createIndicationMessage p = .ok format) :
    offline = false ∧ exists op, lastFill ops = some op ∧ owner op = type ∧
      h.values.pmContainerValues =
        some (filledValues (reports ceil reduced ops) op) := by
  have hfilled : FilledLast type offline ops := by
    by_contra hnot
    have hcontainer := (buildable_of_ok hcreated).container
    rw [container_of_not_filledLast hrun hnot] at hcontainer
    exact hcontainer
  rcases hfilled with ⟨rfl, op, hlast, howner⟩
  exact ⟨rfl, op, hlast, howner, container_of_lastFill hrun hlast howner⟩

theorem carries_of_created {ceil : Ceiling} {type : IndicationMessageType}
    {offline reduced : Bool} {h : IndicationMessageHelper}
    {ops : List (Operation c)}
    (hrun : runOperations ceil
      (IndicationMessageHelper.new type offline reduced) ops = some h)
    {p : Placement} {format : E2smKpmIndicationMessageFormat1T}
    (hcreated : h.createIndicationMessage p = .ok format) :
    CarriesOperations ceil type reduced ops format := by
  have hmirrors := fillAndEncode_mirrors hcreated
  rcases lastFill_of_created hrun hcreated with
    ⟨rfl, op, hlast, howner, hvalues⟩
  have hcontents := contents_of_new hrun
  have hcontainers := containers_of_run hrun
  rw [baseNew_reduced] at hcontainers
  constructor
  · rcases hmirrors.container with ⟨container, hcontainer, pf, hpf, hmirror⟩
    rw [hvalues] at hcontainer
    cases hcontainer
    exact ⟨op, pf, hlast, howner, hpf, hmirror⟩
  · rw [hmirrors.cellObjectID, ← baseNew_cellObjectId type reduced]
    exact hcontainers.cellObjectId
  · rw [← hcontents.right]
    exact hmirrors.cellItems
  · rw [← hcontents.left]
    exact hmirrors.absentUEs
  · intro entries hentries
    rw [← hcontents.left]
    exact hmirrors.matchedUEs entries hentries

/-- A message that a helper creates carries its operations: one entry for each
added UE, the last list of the cell, and the container of the last fill with the
reports that were added. -/
theorem created_message_carries_operations (ceil : Ceiling) (c : HelperClass)
    (type : IndicationMessageType) (offline reduced : Bool)
    (ops : List (Operation c)) {start h : IndicationMessageHelper}
    (hnew : c.new type offline reduced = .completed start)
    (hrun : runOperations ceil start ops = some h) {p : Placement}
    {format : E2smKpmIndicationMessageFormat1T}
    (hcreated : h.createIndicationMessage p = .ok format) :
    CarriesOperations ceil type reduced ops format := by
  rw [new_cases hnew] at hrun
  exact carries_of_created hrun hcreated

def plainReport : Ref CellResourceReport where
  id := 0
  object :=
    { plmId := StdString.ofBytes [49, 49, 49]
      nrCellId := 2
      beyondNrCellId := fun _ => 0
      dlAvailablePrbs := 6
      ulAvailablePrbs := 6
      servedPlmnPerCellItems := RefSet.empty.insertNew
        { plmId := StdString.ofBytes [49, 49, 49]
          perQciReportItems := RefSet.empty } }

def duCell (numActiveUes : Int) : DuCellMeasurements where
  macPduCellSpecific := 1
  macPduInitialCellSpecific := 1
  macQpskCellSpecific := 1
  mac16QamCellSpecific := 0
  mac64QamCellSpecific := 0
  prbUtilizationDl := ⟨0⟩
  macRetxCellSpecific := 0
  macVolumeCellSpecific := 100
  macMac04CellSpecific := 0
  macMac59CellSpecific := 0
  macMac1014CellSpecific := 0
  macMac1519CellSpecific := 0
  macMac2024CellSpecific := 0
  macMac2529CellSpecific := 1
  macSinrBin1CellSpecific := 0
  macSinrBin2CellSpecific := 0
  macSinrBin3CellSpecific := 0
  macSinrBin4CellSpecific := 0
  macSinrBin5CellSpecific := 0
  macSinrBin6CellSpecific := 0
  macSinrBin7CellSpecific := 1
  rlcBufferOccupCellSpecific := 0
  activeUeDl := numActiveUes

def fillDuAndAddTwo : List (Operation .mmWave) :=
  [MmWaveOperation.addCuUpUePmItem [49] 1 1,
    MmWaveOperation.addDuCellPmItem (duCell 1),
    MmWaveOperation.addDuCellResRepPmItem plainReport,
    MmWaveOperation.fillDuValues (literal "5"),
    MmWaveOperation.addDuCellPmItem (duCell 2),
    MmWaveOperation.addCuUpUePmItem [50] 2 2]

theorem fillDuAndAddTwo_carried :
    exists start h format,
      HelperClass.mmWave.new .du false false = .completed start ∧
      runOperations exampleCeiling start fillDuAndAddTwo = some h ∧
      h.createIndicationMessage Placement.increasing = .ok format ∧
      CarriesOperations exampleCeiling .du false fillDuAndAddTwo format :=
  ⟨_, _, _, rfl, rfl, rfl, created_message_carries_operations
    (p := Placement.increasing) exampleCeiling .mmWave .du false false
    fillDuAndAddTwo rfl rfl rfl⟩

/-!
## The receiver
-/

/-- The receiver of a message reads the container of the last fill, if the
decoding inverts the encoding and no PLMN has a zero byte. -/
theorem receiver_reads_last_fill (ceil : Ceiling) (c : HelperClass)
    (type : IndicationMessageType) (offline reduced : Bool)
    (ops : List (Operation c)) {start h : IndicationMessageHelper}
    (hnew : c.new type offline reduced = .completed start)
    (hrun : runOperations ceil start ops = some h) {p : Placement}
    {codec : MessageCodec} {msg : KpmIndicationMessage}
    (hmsg : KpmIndicationMessage.new codec p h.values = .ok msg)
    (hcodec : forall format, h.createIndicationMessage p = .ok format ->
      codec.Inverts format)
    (hplain : (collectedReports (reports ceil reduced ops)).PlainPlmns) :
    exists op reading, lastFill ops = some op ∧ owner op = type ∧
      ReadsContainer (filledValues (reports ceil reduced ops) op) reading ∧
        decodeIndicationMessage codec msg =
          .ok (.decodeOkay (some [reading])) := by
  rcases new_eq_ok hmsg with ⟨format, hcreated, _⟩
  rw [new_cases hnew] at hrun
  rcases lastFill_of_created hrun hcreated with
    ⟨_, op, hlast, howner, hcontainer⟩
  have hvalues : (filledValues (reports ceil reduced ops) op).PlainPlmns := by
    cases c with
    | lte => cases op <;> exact trivial
    | mmWave =>
        cases op with
        | fillDuValues => exact hplain
        | _ => exact trivial
  rcases decode_of_new hcontainer hvalues hmsg hcodec with
    ⟨reading, hreads, hdecode⟩
  exact ⟨op, reading, hlast, howner, hreads, hdecode⟩

def addReportThenFillDu : List (Operation .mmWave) :=
  [MmWaveOperation.addDuCellResRepPmItem plainReport,
    MmWaveOperation.fillDuValues (literal "5")]

theorem addReportThenFillDu_received :
    exists start h format msg,
      HelperClass.mmWave.new .du false false = .completed start ∧
      runOperations exampleCeiling start addReportThenFillDu = some h ∧
      KpmIndicationMessage.new (singleMessageCodec format [1, 2])
        Placement.increasing h.values = .ok msg ∧
      exists op reading,
        lastFill addReportThenFillDu = some op ∧ owner op = .du ∧
        ReadsContainer (filledValues (reports exampleCeiling false
          addReportThenFillDu) op) reading ∧
        decodeIndicationMessage (singleMessageCodec format [1, 2]) msg =
          .ok (.decodeOkay (some [reading])) := by
  have hplmn : PlainPlmn (StdString.ofBytes [49, 49, 49]) :=
    show (0 : UInt8) ∉ _ by decide
  have hplain : (collectedReports (reports exampleCeiling false
      addReportThenFillDu)).PlainPlmns := by
    intro r hr
    cases List.mem_singleton.mp hr
    refine ⟨hplmn, ?_⟩
    intro s hs
    cases List.mem_singleton.mp hs
    exact hplmn
  have hcreated : exists h format,
      runOperations exampleCeiling
          (IndicationMessageHelper.new .du false false) addReportThenFillDu =
        some h ∧
      h.createIndicationMessage Placement.increasing = .ok format :=
    ⟨_, _, rfl, rfl⟩
  rcases hcreated with ⟨h, format, hrun, hformat⟩
  have hmsg := new_singleMessageCodec hformat [1, 2]
  exact ⟨_, h, format, _, rfl, hrun, hmsg, receiver_reads_last_fill
    exampleCeiling .mmWave .du false false addReportThenFillDu rfl hrun hmsg
    (fun _ _ => singleMessageCodec_inverts _ _ _) hplain⟩

end Helper
end OranE2
