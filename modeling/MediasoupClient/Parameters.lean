import Mathlib

namespace MediasoupClient

/-!
# Parameters exchanged with the signaling layer and the engine

The handler and the remote SDP receive every parameter as an
`nlohmann::json` value.  Each record below holds the members that the
modelled C++ code reads, with the JSON type the code converts them to.
A member that the code tests for presence (`find`, `contains`) is an
`Option`; a member that it reads unconditionally is a plain field.

Numbers that the code narrows with `get<uint8_t>()` or `get<uint32_t>()`
stay `Nat` here, and the narrowing is written at the reading site.
-/

/-- The remote transport's `iceParameters`. -/
structure IceParameters where
  usernameFragment : String
  password : String
  /-- Whether the object has an `iceLite` member; its value is never read. -/
  iceLite : Bool
  deriving Repr, DecidableEq

/-- One entry of the remote transport's `iceCandidates`. -/
structure IceCandidate where
  foundation : String
  ip : String
  port : Nat
  priority : Nat
  protocol : String
  type : String
  tcpType : Option String
  deriving Repr, DecidableEq

/-- One entry of `dtlsParameters.fingerprints`. -/
structure DtlsFingerprint where
  algorithm : String
  value : String
  deriving Repr, DecidableEq

/-- The remote transport's `dtlsParameters`. -/
structure DtlsParameters where
  role : String
  fingerprints : List DtlsFingerprint
  deriving Repr, DecidableEq

/-- The remote transport's `sctpParameters` when they are not `null`. -/
structure SctpParameters where
  port : Nat
  maxMessageSize : Nat
  deriving Repr, DecidableEq

/--
A C++ `double`, as its IEEE 754 bit pattern: what a JSON number with a
fraction or an exponent holds.
-/
structure Double where
  bits : UInt64
  deriving Repr, DecidableEq

/--
A value in a codec's `parameters` object: a string, an integral number, a
floating-point number, or any other JSON value (a boolean, `null`, an array
or an object), which the `fmtp` loops render as nothing.
-/
inductive ParameterValue where
  | text (value : String)
  | integer (value : Int)
  | float (value : Double)
  | other
  deriving Repr, DecidableEq

/-- One entry of a codec's `rtcpFeedback`. -/
structure RtcpFeedback where
  type : String
  parameter : String
  deriving Repr, DecidableEq

/--
One entry of `rtpParameters.codecs`.  `parameters` lists the members of the
JSON object in key order, the iteration order of nlohmann's `std::map`.
-/
structure RtpCodecParameters where
  mimeType : String
  payloadType : Nat
  clockRate : Nat
  channels : Option Nat
  parameters : List (String × ParameterValue)
  rtcpFeedback : List RtcpFeedback
  deriving Repr, DecidableEq

/-- One entry of `rtpParameters.headerExtensions`. -/
structure RtpHeaderExtensionParameters where
  uri : String
  id : Nat
  deriving Repr, DecidableEq

/-- The `rtx` member of an encoding. -/
structure RtxParameters where
  ssrc : Option Nat
  deriving Repr, DecidableEq

/--
One entry of `rtpParameters.encodings`.  The members after `rtx` are the
ones `fillJsonRtpEncodingParameters` and `Send` write; they are absent
from the encodings the remote side gives.
-/
structure RtpEncodingParameters where
  ssrc : Option Nat
  rtx : Option RtxParameters
  active : Option Bool := none
  rid : Option String := none
  maxBitrate : Option Nat := none
  maxFramerate : Option Double := none
  scaleResolutionDownBy : Option Double := none
  networkPriority : Option Nat := none
  scalabilityMode : Option String := none
  deriving Repr, DecidableEq

/-- The `rtcp` member of RTP parameters. -/
structure RtcpParameters where
  cname : Option String
  deriving Repr, DecidableEq

/-- RTP parameters of one producer or consumer. -/
structure RtpParameters where
  mid : Option String
  codecs : List RtpCodecParameters
  headerExtensions : List RtpHeaderExtensionParameters
  encodings : List RtpEncodingParameters
  rtcp : Option RtcpParameters
  deriving Repr, DecidableEq

/--
The caller's `codecOptions` object.  `get<uint32_t>()` members are
narrowed where they are read; `opusStereo` is read with `get<int>()`.
-/
structure CodecOptions where
  opusStereo : Option Int
  opusFec : Option Bool
  opusDtx : Option Bool
  opusMaxPlaybackRate : Option Nat
  opusPtime : Option Nat
  videoGoogleStartBitrate : Option Nat
  videoGoogleMaxBitrate : Option Nat
  videoGoogleMinBitrate : Option Nat
  deriving Repr, DecidableEq

/-- `codecOptions->empty()`: the object has no member. -/
def CodecOptions.empty (options : CodecOptions) : Bool :=
  options.opusStereo.isNone && options.opusFec.isNone &&
    options.opusDtx.isNone && options.opusMaxPlaybackRate.isNone &&
    options.opusPtime.isNone && options.videoGoogleStartBitrate.isNone &&
    options.videoGoogleMaxBitrate.isNone &&
    options.videoGoogleMinBitrate.isNone

/-- An `a=extmap` entry `{uri, value}` of a parsed or emitted media section. -/
structure ExtObject where
  uri : String
  value : Nat
  deriving Repr, DecidableEq

/-- An `a=simulcast` attribute, as `sdptransform::parse` returns it. -/
structure SimulcastObject where
  dir1 : String
  list1 : String
  deriving Repr, DecidableEq

/-- An `a=rid` entry. -/
structure RidObject where
  id : String
  direction : String
  deriving Repr, DecidableEq

/--
A media section of an SDP that the engine generated, after
`sdptransform::parse`: the members `AnswerMediaSection` reads from its
`offerMediaObject`.
-/
structure LocalMediaObject where
  mid : String
  type : String
  protocol : String
  ext : Option (List ExtObject)
  extmapAllowMixed : Option String
  simulcast : Option SimulcastObject
  rids : Option (List RidObject)
  deriving Repr, DecidableEq

end MediasoupClient
