import BridgeTag.Apdu.Command
import BridgeTag.Apdu.Response
import BridgeTag.Apdu.Status
import BridgeTag.Applet.Instruction
import BridgeTag.Applet.Request
import BridgeTag.Card
import BridgeTag.CommandLine.Fault
import BridgeTag.CommandLine.Number
import BridgeTag.CommandLine.Run
import BridgeTag.CommandLine.Task
import BridgeTag.CommandLine.Word
import BridgeTag.Dgi
import BridgeTag.Failure
import BridgeTag.Hex
import BridgeTag.Json.Apdu
import BridgeTag.Json.Fields
import BridgeTag.Json.Ndef
import BridgeTag.Json.Parser
import BridgeTag.Json.Printer
import BridgeTag.Json.Token
import BridgeTag.Json.Value
import BridgeTag.Main
import BridgeTag.Ndef.AlternativeCarrier
import BridgeTag.Ndef.BrandProtection
import BridgeTag.Ndef.Decoding
import BridgeTag.Ndef.Encoding
import BridgeTag.Ndef.External
import BridgeTag.Ndef.Frame
import BridgeTag.Ndef.HandoverError
import BridgeTag.Ndef.Record
import BridgeTag.Ndef.Record.Access
import BridgeTag.Ndef.Registry
import BridgeTag.Ndef.Tnf
import BridgeTag.Ndef.Uri
import BridgeTag.Octets
import BridgeTag.Proofs.Apdu.Layout
import BridgeTag.Proofs.Apdu.Response
import BridgeTag.Proofs.Apdu.RoundTrip
import BridgeTag.Proofs.Apdu.Shortening
import BridgeTag.Proofs.Applet.Building
import BridgeTag.Proofs.Applet.Framing
import BridgeTag.Proofs.Applet.Reading
import BridgeTag.Proofs.Applet.Session
import BridgeTag.Proofs.Checked.Apdu
import BridgeTag.Proofs.Checked.Body
import BridgeTag.Proofs.Checked.Cursor
import BridgeTag.Proofs.Checked.Decoding
import BridgeTag.Proofs.Checked.Dgi
import BridgeTag.Proofs.Checked.Message
import BridgeTag.Proofs.CommandLine.Addressing
import BridgeTag.Proofs.CommandLine.Fetching
import BridgeTag.Proofs.CommandLine.Guarding
import BridgeTag.Proofs.CommandLine.Job
import BridgeTag.Proofs.CommandLine.NdefFile
import BridgeTag.Proofs.CommandLine.Printing
import BridgeTag.Proofs.CommandLine.Writing
import BridgeTag.Proofs.Dgi.Capacity
import BridgeTag.Proofs.Dgi.Concatenation
import BridgeTag.Proofs.Dgi.Dividing
import BridgeTag.Proofs.Dgi.Framing
import BridgeTag.Proofs.Dgi.Respelling
import BridgeTag.Proofs.Dgi.RoundTrip
import BridgeTag.Proofs.Dialogue
import BridgeTag.Proofs.Hex
import BridgeTag.Proofs.Json.Apdu
import BridgeTag.Proofs.Json.Fields
import BridgeTag.Proofs.Json.Lexing
import BridgeTag.Proofs.Json.Ndef
import BridgeTag.Proofs.Json.Reading
import BridgeTag.Proofs.Json.RoundTrip
import BridgeTag.Proofs.Ndef.Abbreviating
import BridgeTag.Proofs.Ndef.Canonical
import BridgeTag.Proofs.Ndef.Carrier
import BridgeTag.Proofs.Ndef.Chaining
import BridgeTag.Proofs.Ndef.Dispatch
import BridgeTag.Proofs.Ndef.Editing
import BridgeTag.Proofs.Ndef.Encoding
import BridgeTag.Proofs.Ndef.Extending
import BridgeTag.Proofs.Ndef.Framing
import BridgeTag.Proofs.Ndef.Handover
import BridgeTag.Proofs.Ndef.Locality
import BridgeTag.Proofs.Ndef.Nesting
import BridgeTag.Proofs.Ndef.Outline
import BridgeTag.Proofs.Ndef.Payload
import BridgeTag.Proofs.Ndef.PrefixFree
import BridgeTag.Proofs.Ndef.Refusing
import BridgeTag.Proofs.Ndef.Registering
import BridgeTag.Proofs.Ndef.RoundTrip
import BridgeTag.Proofs.Ndef.Splitting
import BridgeTag.Reader
import BridgeTag.Text.Hidden
import BridgeTag.Text.Quoted
import BridgeTag.Timer
import BridgeTag.Proofs.Ndef.Uri
import BridgeTag.Proofs.Consuming
