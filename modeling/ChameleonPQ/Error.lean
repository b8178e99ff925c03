/-
**The error hierarchy (`error.rs`).**

The variants the modelled functions return, with the data their messages carry.
-/

namespace ChameleonPQ

/-- `ChameleonError`. -/
inductive ChameleonError where
  | packetTooShort (got need : Nat)
  | unknownFrameType (value : UInt8)
  | payloadTooLarge (length : Nat)
  | handshake (state msg : String)
  | decryptionFailed
  | kdf (what : String)
  | channelClosed
  | io
  | rekeyRequired
  deriving DecidableEq, Repr

/-- `crate::error::Result`. -/
abbrev Result (Value : Type) := Except ChameleonError Value

end ChameleonPQ
