import Mathlib.Data.List.Basic

/-!
# The core error type

`maverick_core::error::Error`, restricted to the variants that the modelled
parsers, the replay cache and the configuration checks return.  Messages are
the ones the source carries.  One constructor, `panic`, stands for a panic of the
program and not for an error it returns.
-/

namespace Maverick

/-- Core error type used by protocol and parser code. -/
inductive Error where
  /-- `configuration error: {0}` -/
  | config (message : String)
  /-- `invalid high-entropy secret` -/
  | invalidSecret
  /-- `frame length {length} exceeds maximum {max}` -/
  | frameTooLarge (length max : Nat)
  /-- `unknown frame type: {0:#04x}` -/
  | unknownFrameType (value : UInt8)
  /-- `malformed frame: {0}` -/
  | malformedFrame (message : String)
  /-- `authentication failed` -/
  | auth
  /-- `replay rejected: {0}` -/
  | replay (message : String)
  /-- `random generator failed: {0}` -/
  | random (message : String)
  /-- Not an error value of the source: a panic, such as that of `Buf::get_u16`
  on a buffer that is too short. -/
  | panic
  deriving DecidableEq, Repr

end Maverick
