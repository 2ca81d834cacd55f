/-! The errors of `src/error.rs` and `multistream_select` that the modelled functions return, with
the variants they use. A process that panics (a failed `assert!`, `expect` or `unreachable!`)
is modelled as the error `Error.panicked`, which the Rust `Error` has no variant for. -/

namespace Litep2p

namespace MultistreamSelect

/-- `multistream_select::ProtocolError`; `IoError` keeps no kind. -/
inductive ProtocolError where
  | ioError
  | invalidMessage
  | invalidProtocol
  | tooManyProtocols
  | protocolNotSupported
  deriving DecidableEq, Repr

inductive NegotiationError where
  | protocolError (e : ProtocolError)
  | failed
  deriving DecidableEq, Repr

end MultistreamSelect

/-- `error::ParseError`, with the variants the modelled functions return; a protobuf decoding
error keeps no detail. -/
inductive ParseError where
  | prostDecodeError
  | unknownKeyType (keyType : UInt32)
  | invalidPublicKey
  | invalidData
  deriving DecidableEq, Repr

/-- `std::io::ErrorKind`, with the kinds the modelled functions return. -/
inductive ErrorKind where
  | permissionDenied
  | unexpectedEof
  | invalidData
  deriving DecidableEq, Repr

/-- `error::NegotiationError`, with the variants the modelled functions return; a `snow` error
keeps no detail. -/
inductive NegotiationError where
  | multistreamSelectError (e : MultistreamSelect.NegotiationError)
  | snowError
  | peerIdMissing
  | parseError (e : ParseError)
  | ioError (kind : ErrorKind)
  | stateMismatch
  deriving DecidableEq, Repr

/-- `error::SubstreamError`, with the variants the modelled functions return; a substream id is
its number. -/
inductive SubstreamError where
  | ioError (kind : ErrorKind)
  | readFailure (substreamId : Option Nat)
  deriving DecidableEq, Repr

/-- `error::Error`, with the variants the modelled functions return, and `panicked`. -/
inductive Error where
  | invalidData
  | ioError
  | negotiationError (e : NegotiationError)
  | substreamError (e : SubstreamError)
  | panicked
  deriving DecidableEq, Repr

end Litep2p
