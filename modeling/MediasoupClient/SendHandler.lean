import MediasoupClient.Handler

namespace MediasoupClient

/-!
# The send handler

`SendHandler` produces media and data towards the remote side.  `Send`
takes the slot `GetNextMediaSectionIdx` names before it adds a transceiver,
negotiates the transceiver's mid inside a `try` whose `catch` makes the
transceiver inactive, reads the engine's offer section at that slot and
makes the remote answer there.  `StopSending` closes the section of the
transceiver a localId names.

`sendingRtpParameters` is a reference into `sendingRtpParametersByKind`:
every write to it stays in the map, also when the method throws later.
-/

/-- The members of a `webrtc::RtpEncodingParameters` given to `Send` that it reads. -/
structure EncodingInput where
  rid : String
  active : Bool
  maxBitrateBps : Option Nat
  maxFramerate : Option Double
  scaleResolutionDownBy : Option Double
  networkPriority : Nat
  deriving Repr, DecidableEq

/-- SCTP stream parameters of a data channel. -/
structure SctpStreamParameters where
  streamId : Nat
  ordered : Bool
  protocol : Option String
  maxPacketLifeTime : Option Nat
  maxRetransmits : Option Nat
  deriving Repr, DecidableEq

/--
The functions of `Sdp::Utils` and `ortc` the handlers call.  Their code is
not in the source, so they are parameters.
-/
structure Helpers where
  getCname : LocalMediaObject → String
  getRtpEncodings : LocalMediaObject → List RtpEncodingParameters
  validateSctpStreamParameters :
    SctpStreamParameters → Except String SctpStreamParameters

/-- What `Send` returns. -/
structure SendResult where
  localId : String
  rtpParameters : RtpParameters
  deriving Repr, DecidableEq

/-- What `SendDataChannel` and `ReceiveDataChannel` return. -/
structure DataChannel where
  localId : String
  sctpStreamParameters : SctpStreamParameters
  deriving Repr, DecidableEq

/-- The members of a `SendHandler`. -/
structure SendHandler extends Handler where
  sendingRtpParametersByKind : StringMap RtpParameters
  /--
  The kinds whose entry of `sendingRtpParametersByKind` has, for `codecs`,
  the array `[{"mimeType": null}]` that `Send` leaves in an empty codec
  list: their entry there holds no codec.
  -/
  nullCodecKinds : List String := []
  sendingRemoteRtpParametersByKind : StringMap RtpParameters
  deriving DecidableEq

/-- The message of `Send` without a track. -/
def missingTrack : String := "missing track"

/-- The message of `Send` when the engine gives no transceiver. -/
def errorCreatingTransceiver : String := "error creating transceiver"

/-- The message of `SendDataChannel` when the offer has no data section. -/
def missingApplicationSection : String :=
  "Missing 'application' media section in SDP offer"

/-- The exception of `get<std::string>()` on a `null` member. -/
def nullStringTypeError : String :=
  "[json.exception.type_error.302] type must be string, but is null"

/-- `rid = "r" + std::to_string(idx++)` over more than one encoding, `idx` a `uint8_t`. -/
def assignRids (encodings : List EncodingInput) : List EncodingInput :=
  if encodings.length > 1 then
    encodings.enum.map fun (idx, encoding) =>
      { encoding with rid := "r" ++ toString (idx % 256) }
  else encodings

/-- `fillJsonRtpEncodingParameters`. -/
def fillJsonRtpEncodingParameters (jsonEncoding : RtpEncodingParameters)
    (encoding : EncodingInput) : RtpEncodingParameters :=
  { jsonEncoding with
    active := some encoding.active
    rid := if encoding.rid = "" then jsonEncoding.rid else some encoding.rid
    maxBitrate := encoding.maxBitrateBps.orElse fun _ => jsonEncoding.maxBitrate
    maxFramerate := encoding.maxFramerate.orElse fun _ => jsonEncoding.maxFramerate
    scaleResolutionDownBy :=
      encoding.scaleResolutionDownBy.orElse fun _ => jsonEncoding.scaleResolutionDownBy
    networkPriority := some encoding.networkPriority }

/--
The encodings `Send` writes: the offer's, the offer's completed by the one
given encoding, or the given ones.
-/
def sendingEncodings (helpers : Helpers) (offerMediaObject : LocalMediaObject) :
    List EncodingInput → Except Failure (List RtpEncodingParameters)
  | [] => .ok (helpers.getRtpEncodings offerMediaObject)
  | [encoding] =>
      match helpers.getRtpEncodings offerMediaObject with
      | [] => .error .undefined
      | first :: rest => .ok (fillJsonRtpEncodingParameters first encoding :: rest)
  | encodings =>
      .ok (encodings.map (fillJsonRtpEncodingParameters { ssrc := none, rtx := none }))

/-- `S1T3` on every encoding when VP8 or H264 has more than one. -/
def withScalabilityMode (mimeType : String)
    (encodings : List RtpEncodingParameters) : List RtpEncodingParameters :=
  if encodings.length > 1 ∧ (mimeType = "video/vp8" ∨ mimeType = "video/h264") then
    encodings.map fun encoding => { encoding with scalabilityMode := some "S1T3" }
  else encodings

/-- The `active` flags `SetMaxSpatialLayer` gives the first three encodings. -/
def spatialLayerActive (spatialLayer : UInt8) (encodingsActive : List Bool) :
    List Bool :=
  encodingsActive.enum.map fun (idx, active) =>
    if 2 < idx then active
    else if spatialLayer = 1 then idx = 0
    else if spatialLayer = 2 then idx < 2
    else if spatialLayer = 3 then true
    else active

/-- A kind's entry of a parameters map as `operator[]` reads it: `null` for a kind it lacks. -/
def storedParameters (parameters : StringMap RtpParameters) (kind : String) : RtpParameters :=
  (parameters.find? kind).getD Sdp.RtpParameters.null

@[simp] theorem storedParameters_assign (parameters : StringMap RtpParameters)
    (kind other : String) (value : RtpParameters) :
    storedParameters (parameters.assign kind value) other =
      if other = kind then value else storedParameters parameters other := by
  unfold storedParameters
  rw [StringMap.find?_assign]
  split <;> rfl

/-- `operator[]` inserts `null`, which reads as the absent entry did. -/
@[simp] theorem storedParameters_subscript (parameters : StringMap RtpParameters)
    (kind other : String) :
    storedParameters (parameters.subscript kind Sdp.RtpParameters.null).2 other =
      storedParameters parameters other := by
  unfold StringMap.subscript
  split
  · rfl
  · rename_i absent
    rw [storedParameters_assign]
    split
    · subst other
      simp [storedParameters, absent]
    · rfl

namespace SendHandler

/-- `SendHandler::SendHandler`. -/
def create (iceParameters : IceParameters) (iceCandidates : List IceCandidate)
    (dtlsParameters : DtlsParameters) (sctpParameters : Option SctpParameters)
    (sendingRtpParametersByKind sendingRemoteRtpParametersByKind :
      StringMap RtpParameters) :
    Except Failure SendHandler :=
  (Handler.create iceParameters iceCandidates dtlsParameters sctpParameters).map
    fun handler =>
      { toHandler := handler
        sendingRtpParametersByKind := sendingRtpParametersByKind
        nullCodecKinds := []
        sendingRemoteRtpParametersByKind := sendingRemoteRtpParametersByKind }

/-- A new send handler's base members are a new `Handler`. -/
theorem create_toHandler {iceParameters : IceParameters}
    {iceCandidates : List IceCandidate} {dtlsParameters : DtlsParameters}
    {sctpParameters : Option SctpParameters}
    {sendingRtpParametersByKind sendingRemoteRtpParametersByKind :
      StringMap RtpParameters} {handler : SendHandler}
    (created : create iceParameters iceCandidates dtlsParameters sctpParameters
      sendingRtpParametersByKind sendingRemoteRtpParametersByKind = .ok handler) :
    Handler.create iceParameters iceCandidates dtlsParameters sctpParameters =
      .ok handler.toHandler := by
  unfold create at created
  cases built : Handler.create iceParameters iceCandidates dtlsParameters
      sctpParameters <;>
    simp only [built, Except.map, reduceCtorEq, Except.ok.injEq] at created
  rw [← created]

/-- A `Handler` method on the base members. -/
def lift (method : Method Handler α) : Method SendHandler α :=
  Method.focus SendHandler.toHandler
    (fun handler base => { handler with toHandler := base }) method

/--
`auto& sendingRtpParameters = sendingRtpParametersByKind[kind]`: `operator[]`
inserts `null` for a new kind.
-/
def bindSendingRtpParameters (kind : String) (handler : SendHandler) : SendHandler :=
  { handler with
    sendingRtpParametersByKind :=
      (handler.sendingRtpParametersByKind.subscript kind Sdp.RtpParameters.null).2 }

/-- A write through the reference `sendingRtpParameters`. -/
def writeSendingRtpParameters (kind : String) (edit : RtpParameters → RtpParameters)
    (handler : SendHandler) : SendHandler :=
  { handler with
    sendingRtpParametersByKind :=
      handler.sendingRtpParametersByKind.assign kind
        (edit (storedParameters handler.sendingRtpParametersByKind kind)) }

/--
`sendingRtpParameters["codecs"][0]["mimeType"]` on an empty codec list:
`operator[]` fills the array with `{"mimeType": null}`.
-/
def markNullCodec (kind : String) (handler : SendHandler) : SendHandler :=
  { handler with nullCodecKinds := handler.nullCodecKinds.insert kind }

/-- `sendingRemoteRtpParametersByKind[kind]` inserts `null` for a new kind. -/
def bindSendingRemoteRtpParameters (kind : String) (handler : SendHandler) :
    SendHandler :=
  { handler with
    sendingRemoteRtpParametersByKind :=
      (handler.sendingRemoteRtpParametersByKind.subscript kind
        Sdp.RtpParameters.null).2 }

@[simp] theorem bindSendingRtpParameters_toHandler (kind : String)
    (handler : SendHandler) :
    (bindSendingRtpParameters kind handler).toHandler = handler.toHandler :=
  rfl

@[simp] theorem writeSendingRtpParameters_toHandler (kind : String)
    (edit : RtpParameters → RtpParameters) (handler : SendHandler) :
    (writeSendingRtpParameters kind edit handler).toHandler = handler.toHandler :=
  rfl

@[simp] theorem markNullCodec_toHandler (kind : String) (handler : SendHandler) :
    (markNullCodec kind handler).toHandler = handler.toHandler :=
  rfl

@[simp] theorem bindSendingRemoteRtpParameters_toHandler (kind : String)
    (handler : SendHandler) :
    (bindSendingRemoteRtpParameters kind handler).toHandler = handler.toHandler :=
  rfl

/-- `sendingRtpParametersByKind[kind]` as a statement. -/
def sendingRtpParametersFor (kind : String) : Method SendHandler Unit :=
  Method.modify (bindSendingRtpParameters kind)

/-- The current value of `sendingRtpParametersByKind[kind]`. -/
def readSendingRtpParameters (kind : String) : Method SendHandler RtpParameters := do
  let handler ← Method.read
  pure (storedParameters handler.sendingRtpParametersByKind kind)

/--
`sendingRtpParameters["codecs"][0]["mimeType"].get<std::string>()`: the
first codec's MIME type, or the type error of a `null` member, after an
empty codec list has taken the entry `{"mimeType": null}`.
-/
def firstCodecMimeType (kind : String) : Method SendHandler String := do
  let parameters ← readSendingRtpParameters kind
  let handler ← Method.read
  let codec ← Method.getOr
    (if kind ∈ handler.nullCodecKinds then none else parameters.codecs.head?)
    (do Method.modify (markNullCodec kind); Method.throw nullStringTypeError)
  pure codec.mimeType

/-- `sendingRtpParameters[member] = value`. -/
def editSendingRtpParameters (kind : String) (edit : RtpParameters → RtpParameters) :
    Method SendHandler Unit :=
  Method.modify (writeSendingRtpParameters kind edit)

/-- The value of `sendingRemoteRtpParametersByKind[kind]`, inserting `null` for a new kind. -/
def sendingRemoteRtpParametersFor (kind : String) :
    Method SendHandler RtpParameters := do
  let handler ← Method.read
  Method.modify (bindSendingRemoteRtpParameters kind)
  pure (handler.sendingRemoteRtpParametersByKind.subscript kind
    Sdp.RtpParameters.null).1

/-- `pc->AddTransceiver(track, init)`: a new sending transceiver, or `nullptr`. -/
def addTransceiver (created : Bool) (track : Track)
    (encodings : List EncodingInput) : Method SendHandler Nat := do
  if !created then
    Method.throw errorCreatingTransceiver
  let handler ← Method.read
  Method.modify fun handler =>
    { handler with
      transceivers := handler.transceivers ++
        [{ mid := none, direction := .sendRecv, track := some track.id
           encodingsActive :=
             if encodings = [] then [true] else encodings.map (·.active) }] }
  pure handler.transceivers.length

/--
The `try` block of `Send`: the offer, the transport if it is not ready,
`SetLocalDescription`, and the mid the engine gave the transceiver.
-/
def negotiateMid (engine : Engine) (transceiver : Nat) (kind : String) :
    Method SendHandler String := do
  let _ ← Method.engine engine.createOffer
  let handler ← Method.read
  if !handler.transportReady then
    lift (Handler.setupTransport "server" engine.onConnect)
  Method.engine engine.setLocalDescription
  lift (Handler.updateTransceiver transceiver fun current =>
    { current with mid := engine.mid })
  let localId ← lift (Handler.transceiverMid transceiver)
  editSendingRtpParameters kind fun parameters => { parameters with mid := some localId }
  pure localId

/-- The `catch` of `Send`: the transceiver becomes inactive without a track. -/
def undoTransceiver (transceiver : Nat) (handler : SendHandler) : SendHandler :=
  { handler with
    transceivers := handler.transceivers.modify
      (fun current => { current with direction := .inactive, track := none })
      transceiver }

/-- `remoteSdp->CreateAnswer(...)`, writing back the offer parameters. -/
def createAnswer (kind : String) (offerMediaObject : LocalMediaObject)
    (reuseMid : String) (codecOptions : Option CodecOptions) :
    Method SendHandler Unit := do
  let offerRtpParameters ← readSendingRtpParameters kind
  let answerRtpParameters ← sendingRemoteRtpParametersFor kind
  let handler ← Method.read
  let answered ← Method.remote
    (handler.remoteSdp.createAnswer offerMediaObject reuseMid offerRtpParameters
      answerRtpParameters codecOptions)
  Method.modify fun handler => { handler with remoteSdp := answered.1 }
  editSendingRtpParameters kind fun _ => answered.2

/-- `SendHandler::Send`. -/
def send (helpers : Helpers) (track : Option Track)
    (encodings : List EncodingInput) (codecOptions : Option CodecOptions)
    (engine : Engine) : Method SendHandler SendResult := do
  let track ← Method.getOr track (Method.throw missingTrack)
  let encodings := assignRids encodings
  let handler ← Method.read
  let mediaSectionIdx := handler.remoteSdp.getNextMediaSectionIdx
  let transceiver ← addTransceiver engine.addTransceiver track encodings
  lift (Handler.updateTransceiver transceiver fun current =>
    { current with direction := .sendOnly })
  sendingRtpParametersFor track.kind
  let localId ← Method.tryRethrow (negotiateMid engine transceiver track.kind)
    (undoTransceiver transceiver)
  let localSdp ← Method.engine engine.getLocalDescription
  let offerMediaObject ←
    Method.getOr localSdp.media[mediaSectionIdx.idx]? Method.undefined
  editSendingRtpParameters track.kind fun parameters =>
    { parameters with rtcp := some { cname := some (helpers.getCname offerMediaObject) } }
  let newEncodings ← Method.remote (sendingEncodings helpers offerMediaObject encodings)
  editSendingRtpParameters track.kind fun parameters =>
    { parameters with encodings := newEncodings }
  let mimeType ← firstCodecMimeType track.kind
  editSendingRtpParameters track.kind fun parameters =>
    { parameters with
      encodings := withScalabilityMode (Sdp.lowerCase mimeType) parameters.encodings }
  createAnswer track.kind offerMediaObject mediaSectionIdx.reuseMid codecOptions
  lift Handler.getSdp
  Method.engine engine.setRemoteDescription
  Method.modify fun handler =>
    { handler with
      mapMidTransceiver := handler.mapMidTransceiver.assign localId transceiver }
  let parameters ← readSendingRtpParameters track.kind
  pure { localId := localId, rtpParameters := parameters }

/-- The SCTP stream parameters `SendDataChannel` builds. -/
def sendSctpStreamParameters (streamId : Nat) (dataChannelInit : DataChannelInit) :
    SctpStreamParameters where
  streamId := streamId
  ordered := dataChannelInit.ordered
  protocol := some dataChannelInit.protocol
  maxPacketLifeTime := dataChannelInit.maxRetransmitTime
  maxRetransmits := dataChannelInit.maxRetransmits

/--
The first `SendDataChannel`'s negotiation: an answer for the engine's
`application` section.  `GetNextMediaSectionIdx` is called and its result
not used.
-/
def negotiateDataChannel (engine : Engine) : Method Handler Unit := do
  let offer ← Method.engine engine.createOffer
  let offerMediaObject ← Method.getOr (offer.media.find? (·.type = "application"))
    (Method.throw missingApplicationSection)
  let handler ← Method.read
  if !handler.transportReady then
    Handler.setupTransport "server" engine.onConnect
  Method.engine engine.setLocalDescription
  let handler ← Method.read
  Handler.updateRemoteSdp (handler.remoteSdp.sendSctpAssociation offerMediaObject)
  Handler.getSdp
  Method.engine engine.setRemoteDescription
  Method.modify fun handler => { handler with hasDataChannelMediaSection := true }

/-- `SendHandler::SendDataChannel`. -/
def sendDataChannel (helpers : Helpers) (dataChannelInit : DataChannelInit)
    (engine : Engine) : Method SendHandler DataChannel := lift do
  let handler ← Method.read
  let streamId := handler.nextSendSctpStreamId
  let sctpStreamParameters ← Method.engine
    (helpers.validateSctpStreamParameters
      (sendSctpStreamParameters streamId dataChannelInit))
  Method.engine (engine.createDataChannel (negotiatedDataChannelInit streamId dataChannelInit))
  Method.modify fun handler =>
    { handler with
      nextSendSctpStreamId := (handler.nextSendSctpStreamId + 1) % sctpNumStreamsMis }
  if !handler.hasDataChannelMediaSection then
    negotiateDataChannel engine
  pure { localId := toString streamId, sctpStreamParameters := sctpStreamParameters }

/-- The renegotiation after a change: offer, local and remote descriptions. -/
def renegotiate (engine : Engine) : Method Handler Unit := do
  let _ ← Method.engine engine.createOffer
  Method.engine engine.setLocalDescription
  let _ ← Method.engine engine.getLocalDescription
  Handler.getSdp
  Method.engine engine.setRemoteDescription

/-- `SendHandler::StopSending`. -/
def stopSending (localId : String) (engine : Engine) : Method SendHandler Unit :=
  lift do
    let transceiver ← Handler.findTransceiver localId
    Handler.updateTransceiver transceiver fun current => { current with track := none }
    let mid ← Handler.transceiverMid transceiver
    let handler ← Method.read
    Handler.updateRemoteSdp (handler.remoteSdp.closeMediaSection mid)
    renegotiate engine

/-- `SendHandler::ReplaceTrack`. -/
def replaceTrack (localId : String) (track : Option Track) :
    Method SendHandler Unit := lift do
  let transceiver ← Handler.findTransceiver localId
  Handler.updateTransceiver transceiver fun current =>
    { current with track := track.map (·.id) }

/-- `SendHandler::SetMaxSpatialLayer`. -/
def setMaxSpatialLayer (localId : String) (spatialLayer : UInt8) (engine : Engine) :
    Method SendHandler Unit := lift do
  let transceiver ← Handler.findTransceiver localId
  Method.engine engine.setParameters
  Handler.updateTransceiver transceiver fun current =>
    { current with
      encodingsActive := spatialLayerActive spatialLayer current.encodingsActive }

/-- `SendHandler::GetSenderStats`. -/
def getSenderStats (localId : String) (engine : Engine) : Method SendHandler Unit :=
  lift do
    let _ ← Handler.findTransceiver localId
    Method.engine engine.getStats

/-- `SendHandler::RestartIce`. -/
def restartIce (iceParameters : IceParameters) (engine : Engine) :
    Method SendHandler Unit := lift do
  Method.modify fun handler =>
    { handler with remoteSdp := handler.remoteSdp.updateIceParameters iceParameters }
  let handler ← Method.read
  if handler.transportReady then
    renegotiate engine

/-- A call of a public method of `SendHandler`, with its arguments. -/
inductive Operation where
  | send (track : Option Track) (encodings : List EncodingInput)
      (codecOptions : Option CodecOptions)
  | sendDataChannel (dataChannelInit : DataChannelInit)
  | stopSending (localId : String)
  | replaceTrack (localId : String) (track : Option Track)
  | setMaxSpatialLayer (localId : String) (spatialLayer : UInt8)
  | getSenderStats (localId : String)
  | restartIce (iceParameters : IceParameters)
  deriving Repr, DecidableEq

/-- The method an operation calls, its result dropped. -/
def call (helpers : Helpers) : Operation → Engine → Method SendHandler Unit
  | .send track encodings codecOptions, engine =>
      do let _ ← send helpers track encodings codecOptions engine
  | .sendDataChannel dataChannelInit, engine =>
      do let _ ← sendDataChannel helpers dataChannelInit engine
  | .stopSending localId, engine => stopSending localId engine
  | .replaceTrack localId track, _ => replaceTrack localId track
  | .setMaxSpatialLayer localId spatialLayer, engine =>
      setMaxSpatialLayer localId spatialLayer engine
  | .getSenderStats localId, engine => getSenderStats localId engine
  | .restartIce iceParameters, engine => restartIce iceParameters engine

/-- The state a call with the engine's replies leaves. -/
def step (helpers : Helpers) (handler : SendHandler) (call : Operation × Engine) :
    Option SendHandler :=
  (SendHandler.call helpers call.1 call.2 handler).state?

end SendHandler

end MediasoupClient
