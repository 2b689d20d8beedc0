import MediasoupClient.SendHandler

namespace MediasoupClient

/-!
# The receive handler

`RecvHandler` consumes remote media and data.  `Receive` picks the localId
first (the parameters' mid, or the number of entries of
`mapMidTransceiver`), offers a section with that mid on the remote side,
and maps the localId to the transceiver the engine made for it.  A
`RecvHandler` has no members beyond a `Handler`'s.
-/

/-- What `Receive` returns: the localId (the receiver and track are engine objects). -/
structure RecvResult where
  localId : String
  deriving Repr, DecidableEq

/-- The message of `Receive` when the engine has no transceiver for the localId. -/
def newTransceiverNotFound : String := "new RTCRtpTransceiver not found"

namespace RecvHandler

/--
The localId `Receive` takes: the parameters' mid if it is a non-empty string,
or else the number of entries.
-/
def receiveLocalId (rtpParameters : RtpParameters) (mapMidTransceiver : StringMap Nat) :
    String :=
  match rtpParameters.mid with
  | some mid => if mid = "" then toString mapMidTransceiver.size else mid
  | none => toString mapMidTransceiver.size

/--
`RecvHandler::Receive`.  The RTCP `cname` is read through a `const`
reference, so a missing member is undefined behaviour.  When the engine
takes the remote offer it makes a receiving transceiver for the new section,
with its mid.  `applyCodecParameters` edits only the answer's text.
-/
def receive (id kind : String) (rtpParameters : RtpParameters) (engine : Engine) :
    Method Handler RecvResult := do
  let handler ← Method.read
  let localId := receiveLocalId rtpParameters handler.mapMidTransceiver
  let rtcp ← Method.getOr rtpParameters.rtcp Method.undefined
  let cname ← Method.getOr rtcp.cname Method.undefined
  Handler.updateRemoteSdp
    (handler.remoteSdp.createOffer localId kind rtpParameters cname id)
  Handler.getSdp
  Method.engine engine.setRemoteDescription
  Method.modify fun handler =>
    { handler with
      transceivers := handler.transceivers ++
        [{ mid := some localId, direction := .recvOnly, track := none
           encodingsActive := [] }] }
  let answer ← Method.engine engine.createAnswer
  let _ ← Method.getOr (answer.media.find? (·.mid = localId)) Method.undefined
  let handler ← Method.read
  if !handler.transportReady then
    Handler.setupTransport "client" engine.onConnect
  Method.engine engine.setLocalDescription
  let handler ← Method.read
  let transceiver ← Method.getOr (handler.transceivers.findIdx? (·.mid = some localId))
    (Method.throw newTransceiverNotFound)
  Method.modify fun handler =>
    { handler with
      mapMidTransceiver := handler.mapMidTransceiver.assign localId transceiver }
  pure { localId := localId }

/-- The SCTP stream parameters `ReceiveDataChannel` builds. -/
def recvSctpStreamParameters (streamId : Nat) (dataChannelInit : DataChannelInit) :
    SctpStreamParameters where
  streamId := streamId
  ordered := dataChannelInit.ordered
  protocol := none
  maxPacketLifeTime := none
  maxRetransmits := none

/-- The first `ReceiveDataChannel`'s negotiation: an offered data section. -/
def negotiateDataChannel (engine : Engine) : Method Handler Unit := do
  let handler ← Method.read
  Handler.updateRemoteSdp handler.remoteSdp.recvSctpAssociation
  Handler.getSdp
  Method.engine engine.setRemoteDescription
  let _ ← Method.engine engine.createAnswer
  let handler ← Method.read
  if !handler.transportReady then
    Handler.setupTransport "client" engine.onConnect
  Method.engine engine.setLocalDescription
  Method.modify fun handler => { handler with hasDataChannelMediaSection := true }

/-- `RecvHandler::ReceiveDataChannel`. -/
def receiveDataChannel (helpers : Helpers) (dataChannelInit : DataChannelInit)
    (engine : Engine) : Method Handler DataChannel := do
  let handler ← Method.read
  let streamId := handler.nextSendSctpStreamId
  let sctpStreamParameters ← Method.engine
    (helpers.validateSctpStreamParameters
      (recvSctpStreamParameters streamId dataChannelInit))
  Method.engine (engine.createDataChannel (negotiatedDataChannelInit streamId dataChannelInit))
  Method.modify fun handler =>
    { handler with
      nextSendSctpStreamId := (handler.nextSendSctpStreamId + 1) % sctpNumStreamsMis }
  if !handler.hasDataChannelMediaSection then
    negotiateDataChannel engine
  pure { localId := toString streamId, sctpStreamParameters := sctpStreamParameters }

/-- `RecvHandler::StopReceiving`. -/
def stopReceiving (localId : String) (engine : Engine) : Method Handler Unit := do
  let transceiver ← Handler.findTransceiver localId
  let mid ← Handler.transceiverMid transceiver
  let handler ← Method.read
  Handler.updateRemoteSdp (handler.remoteSdp.closeMediaSection mid)
  Handler.answerRemoteOffer engine

/-- `RecvHandler::GetReceiverStats`. -/
def getReceiverStats (localId : String) (engine : Engine) : Method Handler Unit := do
  let _ ← Handler.findTransceiver localId
  Method.engine engine.getStats

/-- `RecvHandler::RestartIce`. -/
def restartIce (iceParameters : IceParameters) (engine : Engine) :
    Method Handler Unit := do
  Method.modify fun handler =>
    { handler with remoteSdp := handler.remoteSdp.updateIceParameters iceParameters }
  let handler ← Method.read
  if handler.transportReady then
    Handler.answerRemoteOffer engine

/-- A call of a public method of `RecvHandler`, with its arguments. -/
inductive Operation where
  | receive (id kind : String) (rtpParameters : RtpParameters)
  | receiveDataChannel (dataChannelInit : DataChannelInit)
  | stopReceiving (localId : String)
  | getReceiverStats (localId : String)
  | restartIce (iceParameters : IceParameters)
  deriving Repr, DecidableEq

/-- The method an operation calls, its result dropped. -/
def call (helpers : Helpers) : Operation → Engine → Method Handler Unit
  | .receive id kind rtpParameters, engine =>
      do let _ ← receive id kind rtpParameters engine
  | .receiveDataChannel dataChannelInit, engine =>
      do let _ ← receiveDataChannel helpers dataChannelInit engine
  | .stopReceiving localId, engine => stopReceiving localId engine
  | .getReceiverStats localId, engine => getReceiverStats localId engine
  | .restartIce iceParameters, engine => restartIce iceParameters engine

/-- The state a call with the engine's replies leaves. -/
def step (helpers : Helpers) (handler : Handler) (call : Operation × Engine) :
    Option Handler :=
  (RecvHandler.call helpers call.1 call.2 handler).state?

end RecvHandler

/-! ## Parameters of the concrete runs of the handlers -/

/-- Opus, the codec of the example sending parameters. -/
def exampleOpus : RtpCodecParameters where
  mimeType := "audio/opus"
  payloadType := 100
  clockRate := 48000
  channels := some 2
  parameters := []
  rtcpFeedback := []

/-- Sending RTP parameters for audio, as matched before any `Send`. -/
def exampleSendingRtpParameters : RtpParameters where
  mid := none
  codecs := [exampleOpus]
  headerExtensions := []
  encodings := []
  rtcp := none

/-- `Sdp::Utils` and `ortc` for the example engine: one encoding and a fixed CNAME. -/
def exampleHelpers : Helpers where
  getCname _ := "cname"
  getRtpEncodings _ := [{ ssrc := some 1111, rtx := none }]
  validateSctpStreamParameters := .ok

/-- An audio section of the engine's local descriptions. -/
def exampleLocalMediaObject (mid : String) : LocalMediaObject where
  mid := mid
  type := "audio"
  protocol := "UDP/TLS/RTP/SAVPF"
  ext := none
  extmapAllowMixed := none
  simulcast := none
  rids := none

/--
An engine whose calls succeed, whose descriptions have audio sections with
`mids`, and which gives a new sending transceiver the mid `mid`.
-/
def exampleEngine (mid : String) (mids : List String) : Engine where
  addTransceiver := true
  createOffer := .ok ⟨mids.map exampleLocalMediaObject⟩
  createAnswer := .ok ⟨mids.map exampleLocalMediaObject⟩
  setLocalDescription := .ok ()
  setRemoteDescription := .ok ()
  getLocalDescription := .ok ⟨mids.map exampleLocalMediaObject⟩
  mid := some mid
  onConnect := .ok ()
  createDataChannel _ := .ok ()
  setParameters := .ok ()
  getStats := .ok ()

/-- A new handler with the example remote parameters. -/
def exampleHandler : Handler where
  remoteSdp := Sdp.RemoteSdp.exampleStart
  transportReady := false
  transceivers := []
  mapMidTransceiver := .empty
  hasDataChannelMediaSection := false
  nextSendSctpStreamId := 0

theorem create_exampleHandler :
    Handler.create Sdp.RemoteSdp.exampleIceParameters []
      Sdp.RemoteSdp.exampleDtlsParameters none = .ok exampleHandler :=
  rfl

/-- A new send handler whose audio parameters are `exampleSendingRtpParameters`. -/
def exampleSendHandler : SendHandler where
  toHandler := exampleHandler
  sendingRtpParametersByKind := StringMap.empty.assign "audio" exampleSendingRtpParameters
  sendingRemoteRtpParametersByKind :=
    StringMap.empty.assign "audio" exampleSendingRtpParameters

theorem create_exampleSendHandler :
    SendHandler.create Sdp.RemoteSdp.exampleIceParameters []
      Sdp.RemoteSdp.exampleDtlsParameters none
      (StringMap.empty.assign "audio" exampleSendingRtpParameters)
      (StringMap.empty.assign "audio" exampleSendingRtpParameters) =
      .ok exampleSendHandler :=
  rfl

/-- An audio track. -/
def exampleTrack (id : String) : Track where
  id := id
  kind := "audio"

end MediasoupClient
