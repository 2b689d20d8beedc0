import MediasoupClient.Decimal

namespace MediasoupClient

/-!
# Media sections of the remote description

`Sdp::MediaSection` holds one `m=` section of the remote SDP as a JSON
object, `mediaObject`.  Two subclasses fill it: `AnswerMediaSection`
answers a media section of the engine's own offer, and `OfferMediaSection`
offers a section to the engine.  `MediaObject` is that JSON object as a
record; a member that `Disable` or `Close` erases, or that only some
sections have, is an `Option`.

The constructors return `Except Failure`.  Reading a member of a `const`
JSON value that is not there, or dereferencing an end iterator, is
undefined behaviour and becomes `Failure.undefined`; `operator[]` with a
string on a `null` value throws nlohmann's `type_error`, which becomes
`Failure.thrown`.
-/

/-- How a constructor or an operation of the model stops. -/
inductive Failure where
  /-- A C++ exception, with its `what()` text. -/
  | thrown (message : String)
  /--
  Undefined behaviour: a missing member of a `const` JSON value, a
  dereferenced end iterator, or a vector index out of range.
  -/
  | undefined
  deriving Repr, DecidableEq

/-- The text of nlohmann's `type_error` for `null["key"]` on a `const` value. -/
def nullSubscriptError : String :=
  "[json.exception.type_error.305] cannot use operator[] with a string argument with null"

namespace Sdp

/-- The `c=` member, the same in every section. -/
structure Connection where
  ip : String
  version : Nat
  deriving Repr, DecidableEq

/-- An `a=candidate` entry. -/
structure CandidateObject where
  component : Nat
  foundation : String
  ip : String
  port : Nat
  priority : Nat
  transport : String
  type : String
  tcptype : Option String
  deriving Repr, DecidableEq

/-- An `a=rtpmap` entry. -/
structure RtpObject where
  payload : Nat
  codec : String
  rate : Nat
  encoding : Option Nat
  deriving Repr, DecidableEq

/-- An `a=rtcp-fb` entry. -/
structure RtcpFbObject where
  payload : Nat
  type : String
  subtype : String
  deriving Repr, DecidableEq

/-- An `a=fmtp` entry. -/
structure FmtpObject where
  payload : Nat
  config : String
  deriving Repr, DecidableEq

/-- An `a=ssrc` entry; `attributeName` is its `attribute` member. -/
structure SsrcObject where
  id : Nat
  attributeName : String
  value : String
  deriving Repr, DecidableEq

/-- An `a=ssrc-group` entry. -/
structure SsrcGroupObject where
  semantics : String
  ssrcs : String
  deriving Repr, DecidableEq

/-- The JSON object of one media section. -/
structure MediaObject where
  mid : String
  type : String
  protocol : String
  connection : Connection
  port : Nat
  setup : Option String
  direction : Option String
  iceUfrag : String
  icePwd : String
  candidates : List CandidateObject
  endOfCandidates : String
  iceOptions : String
  rtp : Option (List RtpObject)
  rtcpFb : Option (List RtcpFbObject)
  fmtp : Option (List FmtpObject)
  payloads : Option String
  ext : Option (List ExtObject)
  extmapAllowMixed : Option String
  simulcast : Option SimulcastObject
  rids : Option (List RidObject)
  rtcpMux : Option String
  rtcpRsize : Option String
  ssrcs : Option (List SsrcObject)
  ssrcGroups : Option (List SsrcGroupObject)
  sctpPort : Option Nat
  maxMessageSize : Option Nat
  deriving Repr, DecidableEq

/-- The `a=candidate` object `MediaSection::MediaSection` writes. -/
def candidateObject (candidate : IceCandidate) : CandidateObject where
  component := 1
  foundation := candidate.foundation
  ip := candidate.ip
  port := candidate.port
  priority := candidate.priority
  transport := candidate.protocol
  type := candidate.type
  tcptype := candidate.tcpType

/--
The object after `MediaSection::MediaSection` (ICE credentials and
candidates) and the members both subclass constructors write first.
-/
def baseMediaObject
    (iceParameters : IceParameters) (iceCandidates : List IceCandidate)
    (mid type protocol : String) : MediaObject where
  mid := mid
  type := type
  protocol := protocol
  connection := { ip := "127.0.0.1", version := 4 }
  port := 7
  setup := none
  direction := none
  iceUfrag := iceParameters.usernameFragment
  icePwd := iceParameters.password
  candidates := iceCandidates.map candidateObject
  endOfCandidates := "end-of-candidates"
  iceOptions := "renomination"
  rtp := none
  rtcpFb := none
  fmtp := none
  payloads := none
  ext := none
  extmapAllowMixed := none
  simulcast := none
  rids := none
  rtcpMux := none
  rtcpRsize := none
  ssrcs := none
  ssrcGroups := none
  sctpPort := none
  maxMessageSize := none

/-! ## Codec tables -/

/-- ASCII lower case, as `std::transform` with `::tolower`. -/
def lowerCase (text : String) : String :=
  ⟨text.data.map Char.toLower⟩

/-- `getCodecName`: the MIME type without a leading `audio/` or `video/`. -/
def getCodecName (codec : RtpCodecParameters) : String :=
  let head := lowerCase ⟨codec.mimeType.data.take 6⟩
  if head = "audio/" ∨ head = "video/" then ⟨codec.mimeType.data.drop 6⟩
  else codec.mimeType

/-- The `a=rtpmap` entry of a codec; `channels` is read as `uint8_t`. -/
def rtpObject (codec : RtpCodecParameters) : RtpObject where
  payload := codec.payloadType
  codec := getCodecName codec
  rate := codec.clockRate
  encoding :=
    match codec.channels with
    | some channels => if 1 < channels % 256 then some (channels % 256) else none
    | none => none

/--
How the `fmtp` loops print one parameter value: a string as it is, an
integer through `get<int64_t>()` (modulo `2 ^ 64`, as two's complement), a
floating-point number through `get<float>()`, and nothing for any other
value.
-/
def renderParameterValue : ParameterValue → String
  | .text value => value
  | .integer value => toString (value.bmod (2 ^ 64))
  | .float value => formatFloat value
  | .other => ""

/-- The `fmtp` config: `key=value` for each parameter, `;` between them. -/
def fmtpConfig (parameters : List (String × ParameterValue)) : String :=
  parameters.foldl
    (fun config parameter =>
      (if config = "" then config else config ++ ";") ++
        parameter.1 ++ "=" ++ renderParameterValue parameter.2)
    ""

/-- The `a=fmtp` entry of a codec, written only when its config is not empty. -/
def fmtpObjects
    (payloadType : Nat) (parameters : List (String × ParameterValue)) :
    List FmtpObject :=
  let config := fmtpConfig parameters
  if config = "" then [] else [{ payload := payloadType, config := config }]

/-- The `a=rtcp-fb` entries of a codec. -/
def rtcpFbObjects (codec : RtpCodecParameters) : List RtcpFbObject :=
  codec.rtcpFeedback.map fun feedback =>
    { payload := codec.payloadType, type := feedback.type,
      subtype := feedback.parameter }

/-- The `payloads` member: each payload type as `uint8_t`, spaces between. -/
def payloadsString (codecs : List RtpCodecParameters) : String :=
  codecs.foldl
    (fun payloads codec =>
      (if payloads = "" then payloads else payloads ++ " ") ++
        toString (codec.payloadType % 256))
    ""

/-- `parameters[key] = value` on a JSON object kept in key order. -/
def setParameter (key : String) (value : ParameterValue) :
    List (String × ParameterValue) → List (String × ParameterValue)
  | [] => [(key, value)]
  | entry :: rest =>
      if key = entry.1 then (key, value) :: rest
      else if key < entry.1 then (key, value) :: entry :: rest
      else entry :: setParameter key value rest

/-- Write `key` when the option member is present. -/
def setOption (key : String) :
    Option ParameterValue → List (String × ParameterValue) →
      List (String × ParameterValue)
  | some value, parameters => setParameter key value parameters
  | none, parameters => parameters

/-- A flag written as `1` or `0`. -/
def flagValue (flag : Bool) : ParameterValue :=
  .integer (if flag then 1 else 0)

/-- A member read with `get<uint32_t>()`. -/
def uint32Value (value : Nat) : ParameterValue :=
  .integer (value % 2 ^ 32)

/-- A member read with `get<int>()`: modulo `2 ^ 32`, as two's complement. -/
def int32Value (value : Int) : Int :=
  value.bmod (2 ^ 32)

/-- The opus stereo flag: `opusStereo` read as `int`, compared with `0`. -/
def opusStereoFlag (options : CodecOptions) : Option ParameterValue :=
  options.opusStereo.map fun stereo => flagValue (decide (0 < int32Value stereo))

/-- The answer codec's parameters after the opus members of `codecOptions`. -/
def applyOpusOptions (options : CodecOptions)
    (parameters : List (String × ParameterValue)) :
    List (String × ParameterValue) :=
  parameters
  |> setOption "stereo" (opusStereoFlag options)
  |> setOption "useinbandfec" (options.opusFec.map flagValue)
  |> setOption "usedtx" (options.opusDtx.map flagValue)
  |> setOption "maxplaybackrate" (options.opusMaxPlaybackRate.map uint32Value)
  |> setOption "ptime" (options.opusPtime.map uint32Value)

/-- The offer codec's parameters after the mirrored opus flags. -/
def mirrorOpusOptions (options : CodecOptions)
    (parameters : List (String × ParameterValue)) :
    List (String × ParameterValue) :=
  parameters
  |> setOption "sprop-stereo" (opusStereoFlag options)
  |> setOption "useinbandfec" (options.opusFec.map flagValue)
  |> setOption "usedtx" (options.opusDtx.map flagValue)

/-- The answer codec's parameters after the video members of `codecOptions`. -/
def applyVideoOptions (options : CodecOptions)
    (parameters : List (String × ParameterValue)) :
    List (String × ParameterValue) :=
  parameters
  |> setOption "x-google-start-bitrate"
    (options.videoGoogleStartBitrate.map uint32Value)
  |> setOption "x-google-max-bitrate"
    (options.videoGoogleMaxBitrate.map uint32Value)
  |> setOption "x-google-min-bitrate"
    (options.videoGoogleMinBitrate.map uint32Value)

/-- Whether a lower-cased MIME type takes the video options. -/
def isVideoOptionCodec (mimeType : String) : Bool :=
  mimeType = "video/vp8" || mimeType = "video/vp9" ||
    mimeType = "video/h264" || mimeType = "video/h265"

/--
`find_if` over the offer codecs by payload type, then a write through the
iterator.  Without a match the code dereferences `end()`.
-/
def updateOfferCodec (payloadType : Nat)
    (update : RtpCodecParameters → RtpCodecParameters) :
    List RtpCodecParameters → Except Failure (List RtpCodecParameters)
  | [] => .error .undefined
  | offerCodec :: rest =>
      if offerCodec.payloadType = payloadType then
        .ok (update offerCodec :: rest)
      else
        (updateOfferCodec payloadType update rest).map (offerCodec :: ·)

/--
The `codecOptions` step for one answer codec: its `fmtp` parameters, and
the offer codecs with the opus flags mirrored onto the matching one.
-/
def answerCodecParameters (codecOptions : Option CodecOptions)
    (offerCodecs : List RtpCodecParameters) (codec : RtpCodecParameters) :
    Except Failure
      (List (String × ParameterValue) × List RtpCodecParameters) :=
  match codecOptions with
  | none => .ok (codec.parameters, offerCodecs)
  | some options =>
      if options.empty then .ok (codec.parameters, offerCodecs)
      else
        let mimeType := lowerCase codec.mimeType
        if mimeType = "audio/opus" then
          (updateOfferCodec codec.payloadType
              (fun offerCodec =>
                { offerCodec with
                  parameters := mirrorOpusOptions options offerCodec.parameters })
              offerCodecs).map
            fun offerCodecs =>
              (applyOpusOptions options codec.parameters, offerCodecs)
        else if isVideoOptionCodec mimeType then
          (updateOfferCodec codec.payloadType id offerCodecs).map
            fun offerCodecs =>
              (applyVideoOptions options codec.parameters, offerCodecs)
        else
          (updateOfferCodec codec.payloadType id offerCodecs).map
            fun offerCodecs => (codec.parameters, offerCodecs)

/-- The `rtp`, `fmtp` and `rtcpFb` entries of a codec table. -/
structure CodecEntries where
  rtp : List RtpObject
  fmtp : List FmtpObject
  rtcpFb : List RtcpFbObject
  deriving Repr, DecidableEq

/--
The codec loop of `AnswerMediaSection::AnswerMediaSection` over the answer
codecs, threading the offer codecs that `codecOptions` writes into.
-/
def answerCodecLoop (codecOptions : Option CodecOptions) :
    List RtpCodecParameters → List RtpCodecParameters →
      Except Failure (CodecEntries × List RtpCodecParameters)
  | offerCodecs, [] => .ok (⟨[], [], []⟩, offerCodecs)
  | offerCodecs, codec :: rest => do
      let (parameters, offerCodecs) ←
        answerCodecParameters codecOptions offerCodecs codec
      let (entries, offerCodecs) ← answerCodecLoop codecOptions offerCodecs rest
      pure
        ({ rtp := rtpObject codec :: entries.rtp
           fmtp := fmtpObjects codec.payloadType parameters ++ entries.fmtp
           rtcpFb := rtcpFbObjects codec ++ entries.rtcpFb },
         offerCodecs)

/-- The codec loop of `OfferMediaSection::OfferMediaSection`. -/
def offerCodecEntries (codecs : List RtpCodecParameters) : CodecEntries where
  rtp := codecs.map rtpObject
  fmtp := codecs.flatMap fun codec => fmtpObjects codec.payloadType codec.parameters
  rtcpFb := codecs.flatMap rtcpFbObjects

/-! ## Header extensions, simulcast and SSRCs -/

/--
The answer's `ext` entries: each answer header extension whose URI the
offer's `ext` lists, as `{uri, value: id}`.  The offer's `ext` is read
through a `const` reference once the loop has an extension to match.
-/
def answerExtensions (offerExt : Option (List ExtObject)) :
    List RtpHeaderExtensionParameters → Except Failure (List ExtObject)
  | [] => .ok []
  | ext :: rest =>
      match offerExt with
      | none => .error .undefined
      | some localExts =>
          (answerExtensions offerExt rest).map fun exts =>
            if localExts.any (fun localExt => localExt.uri = ext.uri) then
              { uri := ext.uri, value := ext.id } :: exts
            else exts

/--
The answer's `simulcast` and `rids`: written when the offer has a simulcast
object, keeping the offer's `send` rids as `recv`.  The `rids` iterator is
dereferenced without comparing it with `end()`.
-/
def answerSimulcast (offerMediaObject : LocalMediaObject) :
    Except Failure (Option SimulcastObject × Option (List RidObject)) :=
  match offerMediaObject.simulcast, offerMediaObject.rids with
  | none, _ => .ok (none, none)
  | some _, none => .error .undefined
  | some simulcast, some rids =>
      .ok (some { dir1 := "recv", list1 := simulcast.list1 },
        some ((rids.filter fun rid => rid.direction = "send").map
          fun rid => { id := rid.id, direction := "recv" }))

/--
The `a=ssrc` and `a=ssrc-group` entries of an offer: `cname` and `msid` for
the primary SSRC and, with a retransmission SSRC, for it too, linked by an
`FID` group.  Nothing is written without a string `cname`.
-/
def ssrcAttributes (ssrc rtxSsrc : Nat) (cname : Option String)
    (msid : String) : List SsrcObject × List SsrcGroupObject :=
  match cname with
  | none => ([], [])
  | some cname =>
      let primary : List SsrcObject :=
        [⟨ssrc, "cname", cname⟩, ⟨ssrc, "msid", msid⟩]
      if rtxSsrc = 0 then (primary, [])
      else
        (primary ++ [⟨rtxSsrc, "cname", cname⟩, ⟨rtxSsrc, "msid", msid⟩],
          [⟨"FID", toString ssrc ++ " " ++ toString rtxSsrc⟩])

/-- The `a=setup` value an answer writes for a DTLS role, if any. -/
def answerSetup (role : String) : Option String :=
  if role = "client" then some "active"
  else if role = "server" then some "passive"
  else if role = "auto" then some "actpass"
  else none

/-! ## Sections -/

/-- The subclass of a `MediaSection`. -/
inductive Variant where
  | answer
  | offer
  deriving Repr, DecidableEq

/-- A `MediaSection` object: its subclass and its `mediaObject`. -/
structure MediaSection where
  variant : Variant
  mediaObject : MediaObject
  deriving Repr, DecidableEq

/--
`AnswerMediaSection::AnswerMediaSection`: the section, and the offer RTP
parameters, which the constructor writes the mirrored opus flags into.
-/
def answerMediaSection
    (iceParameters : IceParameters) (iceCandidates : List IceCandidate)
    (dtlsParameters : DtlsParameters) (sctpParameters : Option SctpParameters)
    (offerMediaObject : LocalMediaObject)
    (offerRtpParameters answerRtpParameters : RtpParameters)
    (codecOptions : Option CodecOptions) :
    Except Failure (MediaSection × RtpParameters) :=
  let type := offerMediaObject.type
  let base :=
    { baseMediaObject iceParameters iceCandidates offerMediaObject.mid type
        offerMediaObject.protocol with
      setup := answerSetup dtlsParameters.role }
  if type = "audio" ∨ type = "video" then do
    let (entries, offerCodecs) ←
      answerCodecLoop codecOptions offerRtpParameters.codecs
        answerRtpParameters.codecs
    let ext ←
      answerExtensions offerMediaObject.ext answerRtpParameters.headerExtensions
    let (simulcast, rids) ← answerSimulcast offerMediaObject
    pure
      (⟨.answer,
        { base with
          direction := some "recvonly"
          rtp := some entries.rtp
          rtcpFb := some entries.rtcpFb
          fmtp := some entries.fmtp
          payloads := some (payloadsString answerRtpParameters.codecs)
          ext := some ext
          extmapAllowMixed :=
            offerMediaObject.extmapAllowMixed.map fun _ => "extmap-allow-mixed"
          simulcast := simulcast
          rids := rids
          rtcpMux := some "rtcp-mux"
          rtcpRsize := some "rtcp-rsize" }⟩,
        { offerRtpParameters with codecs := offerCodecs })
  else if type = "application" then
    match sctpParameters with
    | some sctp =>
        .ok (⟨.answer,
          { base with
            payloads := some "webrtc-datachannel"
            sctpPort := some sctp.port
            maxMessageSize := some sctp.maxMessageSize }⟩,
          offerRtpParameters)
    | none => .error (.thrown nullSubscriptError)
  else .ok (⟨.answer, base⟩, offerRtpParameters)

/-- `OfferMediaSection::OfferMediaSection`. -/
def offerMediaSection
    (iceParameters : IceParameters) (iceCandidates : List IceCandidate)
    (sctpParameters : Option SctpParameters) (mid kind : String)
    (offerRtpParameters : RtpParameters) (streamId trackId : String) :
    Except Failure MediaSection :=
  let protocol :=
    if sctpParameters.isNone then "UDP/TLS/RTP/SAVPF" else "UDP/DTLS/SCTP"
  let base :=
    { baseMediaObject iceParameters iceCandidates mid kind protocol with
      setup := some "actpass" }
  if kind = "audio" ∨ kind = "video" then
    match offerRtpParameters.encodings.head?, offerRtpParameters.rtcp with
    | some { ssrc := some ssrc, rtx := rtx, .. }, some rtcp =>
        let rtxSsrc :=
          match rtx with
          | some { ssrc := some rtxSsrc } => rtxSsrc % 2 ^ 32
          | _ => 0
        let entries := offerCodecEntries offerRtpParameters.codecs
        let (ssrcs, ssrcGroups) :=
          ssrcAttributes (ssrc % 2 ^ 32) rtxSsrc rtcp.cname
            (streamId ++ " " ++ trackId)
        .ok ⟨.offer,
          { base with
            direction := some "sendonly"
            rtp := some entries.rtp
            rtcpFb := some entries.rtcpFb
            fmtp := some entries.fmtp
            payloads := some (payloadsString offerRtpParameters.codecs)
            ext := some (offerRtpParameters.headerExtensions.map
              fun ext => { uri := ext.uri, value := ext.id })
            rtcpMux := some "rtcp-mux"
            rtcpRsize := some "rtcp-rsize"
            ssrcs := some ssrcs
            ssrcGroups := some ssrcGroups }⟩
    | _, _ => .error .undefined
  else if kind = "application" then
    match sctpParameters with
    | some sctp =>
        .ok ⟨.offer,
          { base with
            payloads := some "webrtc-datachannel"
            sctpPort := some sctp.port
            maxMessageSize := some sctp.maxMessageSize }⟩
    | none => .error (.thrown nullSubscriptError)
  else .ok ⟨.offer, base⟩

namespace MediaObject

/-- `SetIceParameters` on the object. -/
def setIceParameters (mediaObject : MediaObject)
    (iceParameters : IceParameters) : MediaObject :=
  { mediaObject with
    iceUfrag := iceParameters.usernameFragment
    icePwd := iceParameters.password }

/-- `Disable` on the object: inactive, extensions and SSRCs removed. -/
def disable (mediaObject : MediaObject) : MediaObject :=
  { mediaObject with
    direction := some "inactive"
    ext := none
    ssrcs := none
    ssrcGroups := none
    simulcast := none
    rids := none }

/-- `Close` on the object: as `Disable`, and port `0`. -/
def close (mediaObject : MediaObject) : MediaObject :=
  { mediaObject with
    direction := some "inactive"
    port := 0
    ext := none
    ssrcs := none
    ssrcGroups := none
    simulcast := none
    rids := none
    extmapAllowMixed := none }

@[simp] theorem disable_disable (mediaObject : MediaObject) :
    mediaObject.disable.disable = mediaObject.disable :=
  rfl

@[simp] theorem iceUfrag_disable (mediaObject : MediaObject) :
    mediaObject.disable.iceUfrag = mediaObject.iceUfrag :=
  rfl

@[simp] theorem icePwd_disable (mediaObject : MediaObject) :
    mediaObject.disable.icePwd = mediaObject.icePwd :=
  rfl

@[simp] theorem setup_disable (mediaObject : MediaObject) :
    mediaObject.disable.setup = mediaObject.setup :=
  rfl

@[simp] theorem port_disable (mediaObject : MediaObject) :
    mediaObject.disable.port = mediaObject.port :=
  rfl

@[simp] theorem iceUfrag_close (mediaObject : MediaObject) :
    mediaObject.close.iceUfrag = mediaObject.iceUfrag :=
  rfl

@[simp] theorem icePwd_close (mediaObject : MediaObject) :
    mediaObject.close.icePwd = mediaObject.icePwd :=
  rfl

@[simp] theorem setup_close (mediaObject : MediaObject) :
    mediaObject.close.setup = mediaObject.setup :=
  rfl

end MediaObject

namespace MediaSection

/-- `GetMid`. -/
def getMid (mediaSection : MediaSection) : String :=
  mediaSection.mediaObject.mid

/-- `IsClosed`: the port is `0`. -/
def isClosed (mediaSection : MediaSection) : Bool :=
  mediaSection.mediaObject.port = 0

/-- `GetObject`: a copy of the object. -/
def getObject (mediaSection : MediaSection) : MediaObject :=
  mediaSection.mediaObject

/-- `SetIceParameters`. -/
def setIceParameters (mediaSection : MediaSection)
    (iceParameters : IceParameters) : MediaSection :=
  { mediaSection with
    mediaObject := mediaSection.mediaObject.setIceParameters iceParameters }

/--
`SetDtlsRole`, dispatched on the subclass: an answer maps the role to
`a=setup` and ignores an unknown role; an offer always writes `actpass`.
-/
def setDtlsRole (mediaSection : MediaSection) (role : String) :
    MediaSection :=
  match mediaSection.variant with
  | .answer =>
      match answerSetup role with
      | some setup =>
          { mediaSection with
            mediaObject := { mediaSection.mediaObject with setup := some setup } }
      | none => mediaSection
  | .offer =>
      { mediaSection with
        mediaObject := { mediaSection.mediaObject with setup := some "actpass" } }

/-- `Disable`. -/
def disable (mediaSection : MediaSection) : MediaSection :=
  { mediaSection with mediaObject := mediaSection.mediaObject.disable }

/-- `Close`. -/
def close (mediaSection : MediaSection) : MediaSection :=
  { mediaSection with mediaObject := mediaSection.mediaObject.close }

@[simp] theorem getMid_setIceParameters (mediaSection : MediaSection)
    (iceParameters : IceParameters) :
    (mediaSection.setIceParameters iceParameters).getMid = mediaSection.getMid :=
  rfl

@[simp] theorem isClosed_setIceParameters (mediaSection : MediaSection)
    (iceParameters : IceParameters) :
    (mediaSection.setIceParameters iceParameters).isClosed =
      mediaSection.isClosed :=
  rfl

@[simp] theorem variant_setIceParameters (mediaSection : MediaSection)
    (iceParameters : IceParameters) :
    (mediaSection.setIceParameters iceParameters).variant = mediaSection.variant :=
  rfl

/-- `SetDtlsRole` writes `a=setup` and nothing else. -/
theorem setDtlsRole_eq (mediaSection : MediaSection) (role : String) :
    ∃ setup, mediaSection.setDtlsRole role =
      { mediaSection with
        mediaObject := { mediaSection.mediaObject with setup := setup } } := by
  unfold setDtlsRole
  split
  · split
    · exact ⟨_, rfl⟩
    · exact ⟨mediaSection.mediaObject.setup, rfl⟩
  · exact ⟨_, rfl⟩

@[simp] theorem getMid_setDtlsRole (mediaSection : MediaSection) (role : String) :
    (mediaSection.setDtlsRole role).getMid = mediaSection.getMid := by
  obtain ⟨setup, written⟩ := mediaSection.setDtlsRole_eq role
  rw [written]
  rfl

@[simp] theorem isClosed_setDtlsRole (mediaSection : MediaSection) (role : String) :
    (mediaSection.setDtlsRole role).isClosed = mediaSection.isClosed := by
  obtain ⟨setup, written⟩ := mediaSection.setDtlsRole_eq role
  rw [written]
  rfl

@[simp] theorem variant_setDtlsRole (mediaSection : MediaSection) (role : String) :
    (mediaSection.setDtlsRole role).variant = mediaSection.variant := by
  obtain ⟨setup, written⟩ := mediaSection.setDtlsRole_eq role
  rw [written]

@[simp] theorem getObject_disable (mediaSection : MediaSection) :
    mediaSection.disable.getObject = mediaSection.getObject.disable :=
  rfl

@[simp] theorem getObject_close (mediaSection : MediaSection) :
    mediaSection.close.getObject = mediaSection.getObject.close :=
  rfl

@[simp] theorem getMid_disable (mediaSection : MediaSection) :
    mediaSection.disable.getMid = mediaSection.getMid :=
  rfl

@[simp] theorem isClosed_disable (mediaSection : MediaSection) :
    mediaSection.disable.isClosed = mediaSection.isClosed :=
  rfl

@[simp] theorem variant_disable (mediaSection : MediaSection) :
    mediaSection.disable.variant = mediaSection.variant :=
  rfl

@[simp] theorem getMid_close (mediaSection : MediaSection) :
    mediaSection.close.getMid = mediaSection.getMid :=
  rfl

@[simp] theorem isClosed_close (mediaSection : MediaSection) :
    mediaSection.close.isClosed = true :=
  rfl

@[simp] theorem variant_close (mediaSection : MediaSection) :
    mediaSection.close.variant = mediaSection.variant :=
  rfl

end MediaSection

/-- The members a new section takes from the remote SDP's parameters. -/
structure Header (mediaObject : MediaObject) (iceParameters : IceParameters)
    (mid : String) (setup : Option String) : Prop where
  mid_eq : mediaObject.mid = mid
  port_eq : mediaObject.port = 7
  iceUfrag_eq : mediaObject.iceUfrag = iceParameters.usernameFragment
  icePwd_eq : mediaObject.icePwd = iceParameters.password
  setup_eq : mediaObject.setup = setup

/-- An answer section is an answer with the offer's mid and the role's setup. -/
theorem answerMediaSection_spec
    {iceParameters : IceParameters} {iceCandidates : List IceCandidate}
    {dtlsParameters : DtlsParameters} {sctpParameters : Option SctpParameters}
    {offerMediaObject : LocalMediaObject}
    {offerRtpParameters answerRtpParameters : RtpParameters}
    {codecOptions : Option CodecOptions}
    {built : MediaSection × RtpParameters}
    (constructed :
      answerMediaSection iceParameters iceCandidates dtlsParameters
        sctpParameters offerMediaObject offerRtpParameters answerRtpParameters
        codecOptions = .ok built) :
    built.1.variant = .answer ∧
      Header built.1.mediaObject iceParameters offerMediaObject.mid
        (answerSetup dtlsParameters.role) := by
  unfold answerMediaSection at constructed
  dsimp only at constructed
  split_ifs at constructed
  · simp only [bind, Except.bind] at constructed
    split at constructed
    · cases constructed
    · split at constructed
      · cases constructed
      · split at constructed
        · cases constructed
        · cases constructed
          exact ⟨rfl, ⟨rfl, rfl, rfl, rfl, rfl⟩⟩
  · split at constructed
    · cases constructed
      exact ⟨rfl, ⟨rfl, rfl, rfl, rfl, rfl⟩⟩
    · cases constructed
  · cases constructed
    exact ⟨rfl, ⟨rfl, rfl, rfl, rfl, rfl⟩⟩

/-- An offer section is an offer with the given mid and `actpass`. -/
theorem offerMediaSection_spec
    {iceParameters : IceParameters} {iceCandidates : List IceCandidate}
    {sctpParameters : Option SctpParameters} {mid kind : String}
    {offerRtpParameters : RtpParameters} {streamId trackId : String}
    {mediaSection : MediaSection}
    (constructed :
      offerMediaSection iceParameters iceCandidates sctpParameters mid kind
        offerRtpParameters streamId trackId = .ok mediaSection) :
    mediaSection.variant = .offer ∧
      Header mediaSection.mediaObject iceParameters mid (some "actpass") := by
  unfold offerMediaSection at constructed
  dsimp only at constructed
  split_ifs at constructed <;> (try split at constructed) <;>
    cases constructed <;> exact ⟨rfl, ⟨rfl, rfl, rfl, rfl, rfl⟩⟩

end Sdp

end MediasoupClient
