import DeviceRegistry.Json.Parse
import DeviceRegistry.Main
import DeviceRegistry.Proofs.Registrar.InStep
import DeviceRegistry.Proofs.Store.Numbering
import DeviceRegistry.Proofs.Store.Locating
import DeviceRegistry.Proofs.Store.Reopening
import DeviceRegistry.Proofs.Store.Durability
import DeviceRegistry.Proofs.Registrar.Life
import DeviceRegistry.Proofs.Registrar.UserKeys
import DeviceRegistry.Proofs.Agreement
import DeviceRegistry.Proofs.Store.Likeness
import DeviceRegistry.Proofs.Encoder.Likeness
import DeviceRegistry.Proofs.Http.Noninterference
import DeviceRegistry.Proofs.Registrar.Soundness
import DeviceRegistry.Proofs.Registrar.Integrity
import DeviceRegistry.Proofs.Registrar.ClaimThenRevoke
import DeviceRegistry.Proofs.Registrar.Refusals
import DeviceRegistry.Proofs.Message.RoundTrip
import DeviceRegistry.Proofs.Http.Answers
import DeviceRegistry.Proofs.Http.Strangers
import DeviceRegistry.Proofs.Store.Without
import DeviceRegistry.Proofs.Registrar.Commutation
import DeviceRegistry.Proofs.Registrar.Accounting
import DeviceRegistry.Proofs.Store.Bearers
import DeviceRegistry.Proofs.Registrar.KeyBearers
import DeviceRegistry.Proofs.Http.Tallies
import DeviceRegistry.Proofs.Http.Metering
import DeviceRegistry.Proofs.Json.Finite
import DeviceRegistry.Proofs.Message.Normal
import DeviceRegistry.Proofs.Crypto.Sealing
import DeviceRegistry.Proofs.Registrar.Arguments
import DeviceRegistry.Proofs.Store.Placing
import DeviceRegistry.Proofs.Store.Filing
import DeviceRegistry.Proofs.Message.Lenient
import DeviceRegistry.Proofs.Message.Disposition
import DeviceRegistry.Proofs.Http.Delivery
import DeviceRegistry.Proofs.Encoder.Carriage
import DeviceRegistry.Proofs.Http.Rendering
import DeviceRegistry.Proofs.Encoder.Endpoint
import DeviceRegistry.Proofs.Settings
import DeviceRegistry.Proofs.Crypto.KeyPair
