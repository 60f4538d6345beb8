import OranE2.Kpm.Reading

/-!
# Sending and reading an indication message

This module embeds the constructor of `KpmIndicationMessage` with its encoding,
and `DecodeIndicationMessage` and `ProcessIndicationMessage` of the decoding
example.  The ASN.1 runtime is not part of the repository: encoding and
decoding are parameters, and what is relied on is that decoding leaves a
received copy of what was encoded.
-/

namespace OranE2
namespace Kpm

open Library
open Asn1c

inductive E2smKpmIndicationMessageT where
  | nothing
  | indicationMessageFormat1 (format : E2smKpmIndicationMessageFormat1T)
  deriving DecidableEq

/-- `asn_encode_to_new_buffer` and `aper_decode_complete`, for the type of the
indication message. -/
structure MessageCodec where
  encode : E2smKpmIndicationMessageT -> Option (List UInt8)
  decode : List UInt8 -> Option E2smKpmIndicationMessageT

structure KpmIndicationMessage where
  buffer : List UInt8
  deriving DecidableEq, Repr

inductive CreationError where
  | fill (a : Abort)
  | encoding
  deriving DecidableEq, Repr

def encodeMessage (codec : MessageCodec)
    (descriptor : E2smKpmIndicationMessageT) :
    Except CreationError KpmIndicationMessage :=
  match codec.encode descriptor with
  | none => .error .encoding
  | some buffer => .ok { buffer := buffer }

def KpmIndicationMessage.new (codec : MessageCodec) (p : Placement)
    (values : KpmIndicationMessageValues PmContainerValues) :
    Except CreationError KpmIndicationMessage :=
  match fillAndEncodeKpmIndicationMessage p values with
  | .error a => .error (.fill a)
  | .ok format => encodeMessage codec (.indicationMessageFormat1 format)

/-!
## Reading
-/

inductive ContainerReading where
  | oDU (reports : List ReportReading)
  | oCUCP (numActiveUes : Int)
  | oCUUP
  deriving DecidableEq, Repr

def readPfCuCpContainer (oCUCP : OCUCPPFContainerT) : Except ReadFault Int :=
  match oCUCP.numberOfActiveUEs with
  | none => .error .nullPointer
  | some numActiveUes => .ok numActiveUes

/-- One iteration of the loop over the PM containers.  Nothing is read from the
container of an O-CU-UP. -/
def readPmContainer : PFContainerT -> Except ReadFault ContainerReading
  | .oDU oDU =>
      match readPfDuContainer oDU with
      | .error e => .error e
      | .ok reports => .ok (.oDU reports)
  | .oCUCP oCUCP =>
      match readPfCuCpContainer oCUCP with
      | .error e => .error e
      | .ok numActiveUes => .ok (.oCUCP numActiveUes)
  | .oCUUP _ => .ok .oCUUP

/-- `none` stands for a message without a payload. -/
def processIndicationMessage :
    E2smKpmIndicationMessageT ->
      Except ReadFault (Option (List ContainerReading))
  | .nothing => .ok none
  | .indicationMessageFormat1 format =>
      match collect readPmContainer format.pmContainers with
      | .error e => .error e
      | .ok readings => .ok (some readings)

inductive DecodeOutcome where
  | decodeOkay (readings : Option (List ContainerReading))
  | decodeNotOkay
  deriving DecidableEq, Repr

def decodeIndicationMessage (codec : MessageCodec)
    (msg : KpmIndicationMessage) : Except ReadFault DecodeOutcome :=
  match codec.decode msg.buffer with
  | none => .ok .decodeNotOkay
  | some indMsg =>
      match processIndicationMessage indMsg with
      | .error e => .error e
      | .ok readings => .ok (.decodeOkay readings)

/-!
## What arrives
-/

/-- The reading of a container gives its values back. -/
inductive ReadsContainer : PmContainerValues -> ContainerReading -> Prop where
  | cuUp (values : OCuUpContainerValues) : ReadsContainer (.cuUp values) .oCUUP
  | cuCp (values : OCuCpContainerValues) :
      ReadsContainer (.cuCp values) (.oCUCP values.numActiveUes.toNat)
  | du (h : MirrorsSet ReadsReport values.cellResourceReportItems readings) :
      ReadsContainer (.du values) (.oDU readings)

def PmContainerValues.PlainPlmns : PmContainerValues -> Prop
  | .du values => values.PlainPlmns
  | _ => True

theorem readPmContainer_of_received {p : Placement}
    {values : PmContainerValues} {pf received : PFContainerT}
    (hfill : fillPmContainer p (some values) = .ok pf)
    (hreceived : ReceivedContainer pf received) (hplain : values.PlainPlmns) :
    exists reading, readPmContainer received = .ok reading ∧
      ReadsContainer values reading := by
  cases values with
  | cuUp values =>
      cases hfill
      cases hreceived
      exact ⟨.oCUUP, rfl, .cuUp values⟩
  | cuCp values =>
      cases hfill
      cases hreceived
      exact ⟨_, rfl, .cuCp values⟩
  | du values =>
      rw [fillPmContainer_du] at hfill
      rcases map_eq_ok_iff.mp hfill with ⟨odu, hodu, rfl⟩
      cases hreceived with
      | oDU hdu =>
          rcases readsBack_of_plain hodu hdu hplain with
            ⟨readings, hread, hreads⟩
          refine ⟨.oDU readings, ?_, .du hreads⟩
          unfold readPmContainer
          dsimp only
          rw [hread]
  | other => cases hfill

theorem new_eq_ok {codec : MessageCodec} {p : Placement}
    {values : KpmIndicationMessageValues PmContainerValues}
    {msg : KpmIndicationMessage}
    (h : KpmIndicationMessage.new codec p values = .ok msg) :
    exists format, fillAndEncodeKpmIndicationMessage p values = .ok format ∧
      codec.encode (.indicationMessageFormat1 format) = some msg.buffer := by
  unfold KpmIndicationMessage.new at h
  cases hfill : fillAndEncodeKpmIndicationMessage p values with
  | error a =>
      rw [hfill] at h
      cases h
  | ok format =>
      rw [hfill] at h
      refine ⟨format, rfl, ?_⟩
      dsimp only at h
      unfold encodeMessage at h
      cases hencode : codec.encode (.indicationMessageFormat1 format) with
      | none =>
          rw [hencode] at h
          cases h
      | some buffer =>
          rw [hencode] at h
          cases h
          rfl

/-- Decoding leaves a received copy of a message that was encoded. -/
def MessageCodec.Inverts (codec : MessageCodec)
    (format : E2smKpmIndicationMessageFormat1T) : Prop :=
  forall buffer, codec.encode (.indicationMessageFormat1 format) = some buffer ->
    exists received,
      codec.decode buffer = some (.indicationMessageFormat1 received) ∧
        ReceivedFormat format received

theorem decode_of_new {codec : MessageCodec} {p : Placement}
    {values : KpmIndicationMessageValues PmContainerValues}
    {container : PmContainerValues} {msg : KpmIndicationMessage}
    (hcontainer : values.pmContainerValues = some container)
    (hplain : container.PlainPlmns)
    (hnew : KpmIndicationMessage.new codec p values = .ok msg)
    (hcodec : forall format,
      fillAndEncodeKpmIndicationMessage p values = .ok format ->
        codec.Inverts format) :
    exists reading, ReadsContainer container reading ∧
      decodeIndicationMessage codec msg =
        .ok (.decodeOkay (some [reading])) := by
  rcases new_eq_ok hnew with ⟨format, hfill, hencode⟩
  rcases hcodec format hfill msg.buffer hencode with
    ⟨received, hdecode, hreceived⟩
  rcases fillAndEncode_cases hfill with ⟨pf, entries, hpm, _, rfl⟩
  rw [hcontainer] at hpm
  rcases List.forall₂_cons_left_iff.mp hreceived.containers with
    ⟨pf', rest, hpf, hrest, hcontainers⟩
  rw [List.forall₂_nil_left_iff.mp hrest] at hcontainers
  rcases readPmContainer_of_received hpm hpf hplain with
    ⟨reading, hread, hreads⟩
  refine ⟨reading, hreads, ?_⟩
  have hcollect : collect readPmContainer received.pmContainers =
      .ok [reading] := by
    rw [hcontainers, collect_cons_ok hread, collect_nil]
    rfl
  unfold decodeIndicationMessage
  rw [hdecode]
  unfold processIndicationMessage
  dsimp only
  rw [hcollect]

def singleMessageCodec (format : E2smKpmIndicationMessageFormat1T)
    (content : List UInt8) : MessageCodec where
  encode m := if m = .indicationMessageFormat1 format then some content else none
  decode buffer :=
    if buffer = content then some (.indicationMessageFormat1 format.received)
    else none

theorem singleMessageCodec_inverts
    (format format' : E2smKpmIndicationMessageFormat1T)
    (content : List UInt8) :
    (singleMessageCodec format content).Inverts format' := by
  intro buffer hencode
  change (if E2smKpmIndicationMessageT.indicationMessageFormat1 format' =
    .indicationMessageFormat1 format then some content else none) =
      some buffer at hencode
  split at hencode
  · rename_i hformat
    cases hencode
    cases hformat
    exact ⟨format.received, if_pos rfl, receivedFormat_received format⟩
  · cases hencode

theorem new_singleMessageCodec {p : Placement}
    {values : KpmIndicationMessageValues PmContainerValues}
    {format : E2smKpmIndicationMessageFormat1T}
    (h : fillAndEncodeKpmIndicationMessage p values = .ok format)
    (content : List UInt8) :
    KpmIndicationMessage.new (singleMessageCodec format content) p values =
      .ok { buffer := content } := by
  unfold KpmIndicationMessage.new
  rw [h]
  unfold singleMessageCodec encodeMessage
  dsimp only
  rw [if_pos rfl]

end Kpm
end OranE2
