import OranE2.Library.PartialRun
import OranE2.Library.LastWrite
import OranE2.Library.ListStore
import OranE2.Library.HomogeneousList
import OranE2.Library.Decimal
import OranE2.Library.Octets
import OranE2.Library.AppendLoop
import OranE2.Library.RefSet
import OranE2.Library.Release
import OranE2.Library.RoseTree
import OranE2.Library.Buffer
import OranE2.Library.Rounding
import OranE2.Library.Quantiser
import OranE2.Library.Interleaving
import OranE2.Library.Heap
import OranE2.E2ap.Types
import OranE2.Asn1c.OctetString
import OranE2.Asn1c.BitString
import OranE2.Asn1c.NrCellId
import OranE2.Asn1c.RanParameter
import OranE2.Asn1c.Extraction
import OranE2.Asn1c.Capacity
import OranE2.Subscription.Request
import OranE2.Subscription.Admission
import OranE2.Subscription.Order
import OranE2.Control.Message
import OranE2.Control.Decoding
import OranE2.Control.Agreement
import OranE2.Control.Order
import OranE2.Control.Leftover
import OranE2.Control.Safety
import OranE2.Control.Handover
import OranE2.Control.FunctionDescription
import OranE2.L3Rrc.Types
import OranE2.L3Rrc.Serving
import OranE2.L3Rrc.Measurements
import OranE2.L3Rrc.Neighbours
import OranE2.L3Rrc.Wrapped
import OranE2.L3Rrc.NrResults
import OranE2.L3Rrc.Sinr
import OranE2.L3Rrc.SinrCodes
import OranE2.L3Rrc.Sharing
import OranE2.L3Rrc.Lifetime
import OranE2.L3Rrc.Aliasing
import OranE2.L3Rrc.SinrMeasurements
import OranE2.Kpm.Header
import OranE2.Kpm.Values
import OranE2.Kpm.Message
import OranE2.Kpm.Image
import OranE2.Kpm.Identity
import OranE2.Kpm.Lists
import OranE2.Kpm.Addresses
import OranE2.Kpm.Received
import OranE2.Kpm.Reordering
import OranE2.Kpm.Rearranged
import OranE2.Kpm.Ownership
import OranE2.Kpm.Reading
import OranE2.Kpm.Processing
import OranE2.Kpm.Items
import OranE2.Helper.Base
import OranE2.Helper.Lte
import OranE2.Helper.MmWave
import OranE2.Helper.Run
import OranE2.Helper.Contents
import OranE2.Helper.Guards
import OranE2.Helper.Lists
import OranE2.Helper.Reduced
import OranE2.Helper.Creation
import OranE2.Helper.Containers
import OranE2.Helper.LastFill
import OranE2.Helper.Rearranged
import OranE2.Helper.Delivery
import OranE2.Termination.Calls
import OranE2.Termination.Session
import OranE2.Termination.Registration
import OranE2.Termination.Solicited
import OranE2.Termination.Honoured
import OranE2.Termination.Reports
import OranE2.Termination.Carried
import OranE2.Termination.Descriptions
