import MediasoupClient.SendHandler

namespace MediasoupClient

open Sdp

/-!
# What each call of the send handler does

Each method of `SendHandler` is unfolded once here, through the `wp`
equations, and its ways out are named with the members each leaves.  The
facts the other modules prove about the send handler (where its sections
go, what the transport becomes, which entries it adds, what it keeps of the
stored parameters) are read off these descriptions without unfolding a
method again.

`Send` runs in three phases.  It adds a sending transceiver and binds the
track's parameters; its `try` block sets the transport up, describes the
offer locally and reads the transceiver's mid, and on a throw its `catch`
makes the transceiver inactive without a track; then it writes the CNAME,
the encodings and the scalability mode into the track's parameters, makes
the answer at the slot it read first, and maps the mid to the transceiver.
-/

/-! ## `Send`'s `try` block -/

namespace SendHandler

/-- The members once `Send` has added the track's sending transceiver and bound its parameters. -/
def addSender (track : Track) (encodings : List EncodingInput) (handler : SendHandler) :
    SendHandler :=
  bindSendingRtpParameters track.kind
    { handler with
      transceivers :=
        (handler.transceivers ++
          [({ mid := none, direction := .sendRecv, track := some track.id
              encodingsActive := if encodings = [] then [true] else encodings.map (·.active) } :
            Transceiver)]).modify
          (fun current => { current with direction := .sendOnly }) handler.transceivers.length }

/-- `SetLocalDescription` gives the transceiver at `transceiver` the engine's mid. -/
def nameTransceiver (transceiver : Nat) (mid : Option String) (handler : SendHandler) :
    SendHandler :=
  { handler with
    transceivers := handler.transceivers.modify (fun current => { current with mid := mid })
      transceiver }

/-- The transport step of the `try` block: `SetupTransport("server")` unless it is ready. -/
def SetsUpTransport (before after : SendHandler) : Prop :=
  ∃ base, Handler.SetsUpTransport "client" before.toHandler base ∧
    after = { before with toHandler := base }

/-- Where the `try` block threw: `CreateOffer`, `OnConnect`, `SetLocalDescription`, or the mid. -/
inductive NegotiationThrew (engine : Engine) (transceiver : Nat) (before : SendHandler) :
    SendHandler → Prop
  | offer : NegotiationThrew engine transceiver before before
  | connect : before.transportReady = false →
      NegotiationThrew engine transceiver before
        { before with remoteSdp := before.remoteSdp.updateDtlsRole "client" }
  | describe {ready : SendHandler} : SetsUpTransport before ready →
      NegotiationThrew engine transceiver before ready
  | mid {ready : SendHandler} : SetsUpTransport before ready → engine.mid = none →
      NegotiationThrew engine transceiver before (nameTransceiver transceiver engine.mid ready)

/--
The `try` block's return: the transport set up, the engine's mid `localId`
on the transceiver, and the mid in the track's parameters.
-/
def Negotiated (engine : Engine) (transceiver : Nat) (kind : String) (before : SendHandler)
    (localId : String) (after : SendHandler) : Prop :=
  ∃ ready, SetsUpTransport before ready ∧ engine.mid = some localId ∧
    transceiver < ready.transceivers.length ∧
    after = writeSendingRtpParameters kind (fun parameters => { parameters with mid := some localId })
      (nameTransceiver transceiver engine.mid ready)

/-- The transceiver a mid was written to has that mid. -/
theorem mid_of_getElem?_modify {transceivers : List Transceiver} {transceiver : Nat}
    {mid : Option String} {current : Transceiver}
    (found : (transceivers.modify (fun current => { current with mid := mid })
      transceiver)[transceiver]? = some current) :
    current.mid = mid ∧ transceiver < transceivers.length := by
  cases inside : transceivers[transceiver]? with
  | none => simp [List.getElem?_modify, inside] at found
  | some original =>
      simp only [List.getElem?_modify, inside, if_pos rfl, Option.map_eq_map, Option.map_some',
        Option.some.injEq] at found
      exact ⟨found ▸ rfl, (List.getElem?_eq_some_iff.mp inside).1⟩

/-- The mid `transceiver->mid()` reads is the one `SetLocalDescription` gave. -/
theorem engineMid_of_transceiverMid {transceivers : List Transceiver} {transceiver : Nat}
    {mid : Option String} {current : Transceiver}
    (found : (transceivers.modify (fun current => { current with mid := mid })
      transceiver)[transceiver]? = some current) {read : Option String}
    (readMid : current.mid = read) : mid = read ∧ transceiver < transceivers.length :=
  ⟨(mid_of_getElem?_modify found).1.symm.trans readMid, (mid_of_getElem?_modify found).2⟩

theorem negotiated_of_named {engine : Engine} {transceiver : Nat} {kind : String}
    {before ready : SendHandler} {current : Transceiver} {localId : String}
    (setsUp : SetsUpTransport before ready)
    (found : (ready.transceivers.modify (fun current => { current with mid := engine.mid })
      transceiver)[transceiver]? = some current)
    (readMid : current.mid = some localId) :
    Negotiated engine transceiver kind before localId
      (writeSendingRtpParameters kind (fun parameters => { parameters with mid := some localId })
        (nameTransceiver transceiver engine.mid ready)) :=
  have read := engineMid_of_transceiverMid found readMid
  ⟨ready, setsUp, read.1, read.2, rfl⟩

/-- Every way out of `Send`'s `try` block. -/
theorem negotiateMid_effect (engine : Engine) (transceiver : Nat) (kind : String)
    (handler : SendHandler) :
    Method.wp (negotiateMid engine transceiver kind)
      (fun localId after => Negotiated engine transceiver kind handler localId after)
      (fun _ after => NegotiationThrew engine transceiver handler after) handler := by
  simp only [Method.wp_bind, ↓Method.wp_pure, ↓Method.wp_read, ↓Method.wp_modify,
    ↓Method.wp_throw, ↓Method.wp_undefined, ↓Method.wp_engine, ↓Method.wp_getOr,
    ↓Method.wp_focus, ↓Method.wp_ite, negotiateMid, lift, Handler.setupTransport,
    Handler.updateTransceiver, Handler.transceiverMid, editSendingRtpParameters,
    remoteDtlsRole_server]
  repeat' split
  all_goals try exact True.intro
  all_goals first
    | exact .offer
    | exact .connect (by simpa using ‹(!_) = true›)
    | exact .describe ⟨_, .inr ⟨by simpa using ‹(!_) = true›, rfl⟩, rfl⟩
    | exact .mid ⟨_, .inr ⟨by simpa using ‹(!_) = true›, rfl⟩, rfl⟩
        (engineMid_of_transceiverMid ‹_› ‹_›).1
    | exact .mid ⟨_, .inl ⟨by simpa using ‹¬(!_) = true›, rfl⟩, rfl⟩
        (engineMid_of_transceiverMid ‹_› ‹_›).1
    | exact negotiated_of_named ⟨_, .inr ⟨by simpa using ‹(!_) = true›, rfl⟩, rfl⟩ ‹_› ‹_›
    | exact negotiated_of_named ⟨_, .inl ⟨by simpa using ‹¬(!_) = true›, rfl⟩, rfl⟩ ‹_› ‹_›

/-! ## After the `try` block -/

/-- `sendingRtpParameters["rtcp"]["cname"]`, from the engine's offer section. -/
def writeCname (helpers : Helpers) (kind : String) (offerMediaObject : LocalMediaObject) :
    SendHandler → SendHandler :=
  writeSendingRtpParameters kind fun parameters =>
    { parameters with rtcp := some { cname := some (helpers.getCname offerMediaObject) } }

/-- `sendingRtpParameters["encodings"]`. -/
def writeEncodings (kind : String) (newEncodings : List RtpEncodingParameters) :
    SendHandler → SendHandler :=
  writeSendingRtpParameters kind fun parameters => { parameters with encodings := newEncodings }

/-- `encoding["scalabilityMode"]` for the first codec's MIME type. -/
def writeScalability (kind : String) (mimeType : String) : SendHandler → SendHandler :=
  writeSendingRtpParameters kind fun parameters =>
    { parameters with
      encodings := withScalabilityMode (Sdp.lowerCase mimeType) parameters.encodings }

/-- The first codec `Send` reads: none once the kind's list is empty or `[{"mimeType": null}]`. -/
def firstCodec (kind : String) (handler : SendHandler) : Option RtpCodecParameters :=
  if kind ∈ handler.nullCodecKinds then none
  else (storedParameters handler.sendingRtpParametersByKind kind).codecs.head?

/-- `CreateAnswer`'s result written back: the new remote SDP and the offer parameters. -/
def answerSender (kind : String) (answered : RemoteSdp × RtpParameters)
    (handler : SendHandler) : SendHandler :=
  writeSendingRtpParameters kind (fun _ => answered.2)
    { bindSendingRemoteRtpParameters kind handler with remoteSdp := answered.1 }

/-- `remoteSdp->GetSdp()`. -/
def emitSdp (handler : SendHandler) : SendHandler :=
  { handler with remoteSdp := handler.remoteSdp.getSdp.2 }

/-- The answer `Send` asks for, from the members `described` it has written. -/
def sendAnswer (kind : String) (offerMediaObject : LocalMediaObject) (reuseMid : String)
    (codecOptions : Option CodecOptions) (described : SendHandler) :
    Except Failure (RemoteSdp × RtpParameters) :=
  described.remoteSdp.createAnswer offerMediaObject reuseMid
    (storedParameters described.sendingRtpParametersByKind kind)
    (described.sendingRemoteRtpParametersByKind.subscript kind RtpParameters.null).1 codecOptions

/--
The members `Send` has written before its `CreateAnswer`, from the ones
`named` its `try` block left: the engine's local description has the offer
section at the slot, the encodings are built, and the first codec has a
MIME type.
-/
def Described (helpers : Helpers) (kind : String) (idx : MediaSectionIdx)
    (encodings : List EncodingInput) (engine : Engine) (named : SendHandler)
    (offerMediaObject : LocalMediaObject) (codec : RtpCodecParameters)
    (described : SendHandler) : Prop :=
  ∃ localSdp newEncodings, engine.getLocalDescription = .ok localSdp ∧
    localSdp.media[idx.idx]? = some offerMediaObject ∧
    sendingEncodings helpers offerMediaObject encodings = .ok newEncodings ∧
    firstCodec kind (writeEncodings kind newEncodings (writeCname helpers kind offerMediaObject named)) =
      some codec ∧
    described = writeScalability kind codec.mimeType
      (writeEncodings kind newEncodings (writeCname helpers kind offerMediaObject named))

/--
Where `Send` threw after its `try` block, from the members `named` it left:
`GetLocalDescription`, the encodings, the first codec's MIME type,
`CreateAnswer`, or `SetRemoteDescription`.
-/
inductive AnswerThrew (helpers : Helpers) (kind : String) (idx : MediaSectionIdx)
    (encodings : List EncodingInput) (codecOptions : Option CodecOptions) (engine : Engine)
    (named : SendHandler) : SendHandler → Prop
  | localDescription {message : String} : engine.getLocalDescription = .error message →
      AnswerThrew helpers kind idx encodings codecOptions engine named named
  | encodings {localSdp : LocalSdp} {offerMediaObject : LocalMediaObject} {message : String} :
      engine.getLocalDescription = .ok localSdp →
      localSdp.media[idx.idx]? = some offerMediaObject →
      sendingEncodings helpers offerMediaObject encodings = .error (.thrown message) →
      AnswerThrew helpers kind idx encodings codecOptions engine named
        (writeCname helpers kind offerMediaObject named)
  | codec {localSdp : LocalSdp} {offerMediaObject : LocalMediaObject}
      {newEncodings : List RtpEncodingParameters} :
      engine.getLocalDescription = .ok localSdp →
      localSdp.media[idx.idx]? = some offerMediaObject →
      sendingEncodings helpers offerMediaObject encodings = .ok newEncodings →
      firstCodec kind
          (writeEncodings kind newEncodings (writeCname helpers kind offerMediaObject named)) =
        none →
      AnswerThrew helpers kind idx encodings codecOptions engine named
        (markNullCodec kind
          (writeEncodings kind newEncodings (writeCname helpers kind offerMediaObject named)))
  | answer {offerMediaObject : LocalMediaObject} {codec : RtpCodecParameters}
      {described : SendHandler} {message : String} :
      Described helpers kind idx encodings engine named offerMediaObject codec described →
      sendAnswer kind offerMediaObject idx.reuseMid codecOptions described =
        .error (.thrown message) →
      AnswerThrew helpers kind idx encodings codecOptions engine named
        (bindSendingRemoteRtpParameters kind described)
  | remoteDescription {offerMediaObject : LocalMediaObject} {codec : RtpCodecParameters}
      {described : SendHandler} {answered : RemoteSdp × RtpParameters} {message : String} :
      Described helpers kind idx encodings engine named offerMediaObject codec described →
      sendAnswer kind offerMediaObject idx.reuseMid codecOptions described = .ok answered →
      engine.setRemoteDescription = .error message →
      AnswerThrew helpers kind idx encodings codecOptions engine named
        (emitSdp (answerSender kind answered described))

/--
`Send`'s return, from the members `named` its `try` block left: the answer
made and taken by the engine, and the localId mapped to the transceiver.
-/
def Answered (helpers : Helpers) (kind : String) (idx : MediaSectionIdx)
    (encodings : List EncodingInput) (codecOptions : Option CodecOptions) (engine : Engine)
    (transceiver : Nat) (named : SendHandler) (result : SendResult) (after : SendHandler) :
    Prop :=
  ∃ offerMediaObject codec described answered,
    Described helpers kind idx encodings engine named offerMediaObject codec described ∧
    sendAnswer kind offerMediaObject idx.reuseMid codecOptions described = .ok answered ∧
    engine.setRemoteDescription = .ok () ∧
    after =
      { emitSdp (answerSender kind answered described) with
        mapMidTransceiver := described.mapMidTransceiver.assign result.localId transceiver } ∧
    result.rtpParameters = answered.2

/-! ## `Send` -/

/-- The ways `Send` throws, with the members each leaves. -/
inductive SendThrew (helpers : Helpers) (track : Option Track) (encodings : List EncodingInput)
    (codecOptions : Option CodecOptions) (engine : Engine) (handler : SendHandler) :
    SendHandler → Prop
  /-- No track, or no transceiver from the engine. -/
  | early : SendThrew helpers track encodings codecOptions engine handler handler
  /-- The `try` block threw, and the `catch` made the transceiver inactive without a track. -/
  | negotiation {added : Track} {stopped : SendHandler} : track = some added →
      engine.addTransceiver = true →
      NegotiationThrew engine handler.transceivers.length
        (addSender added (assignRids encodings) handler) stopped →
      SendThrew helpers track encodings codecOptions engine handler
        (undoTransceiver handler.transceivers.length stopped)
  /-- A step after the `try` block threw. -/
  | answer {added : Track} {localId : String} {named after : SendHandler} :
      track = some added → engine.addTransceiver = true →
      Negotiated engine handler.transceivers.length added.kind
        (addSender added (assignRids encodings) handler) localId named →
      AnswerThrew helpers added.kind handler.remoteSdp.getNextMediaSectionIdx
        (assignRids encodings) codecOptions engine named after →
      SendThrew helpers track encodings codecOptions engine handler after

/-- `Send`'s return, with the members it leaves. -/
def SendReturned (helpers : Helpers) (track : Option Track) (encodings : List EncodingInput)
    (codecOptions : Option CodecOptions) (engine : Engine) (handler : SendHandler)
    (result : SendResult) (after : SendHandler) : Prop :=
  ∃ added named, track = some added ∧ engine.addTransceiver = true ∧
    Negotiated engine handler.transceivers.length added.kind
      (addSender added (assignRids encodings) handler) result.localId named ∧
    Answered helpers added.kind handler.remoteSdp.getNextMediaSectionIdx (assignRids encodings)
      codecOptions engine handler.transceivers.length named result after

/-- Every way out of `Send`. -/
theorem send_effect (helpers : Helpers) (track : Option Track) (encodings : List EncodingInput)
    (codecOptions : Option CodecOptions) (engine : Engine) (handler : SendHandler) :
    Method.wp (send helpers track encodings codecOptions engine)
      (fun result after =>
        SendReturned helpers track encodings codecOptions engine handler result after)
      (fun _ after => SendThrew helpers track encodings codecOptions engine handler after)
      handler := by
  cases track with
  | none => exact .early
  | some added =>
  simp only [send, Method.wp_bind, ↓Method.wp_pure, ↓Method.wp_read, ↓Method.wp_modify,
    ↓Method.wp_throw, ↓Method.wp_undefined, ↓Method.wp_engine, ↓Method.wp_getOr,
    ↓Method.wp_remote, ↓Method.wp_tryRethrow, ↓Method.wp_focus, ↓Method.wp_ite,
    addTransceiver, lift, Handler.updateTransceiver, sendingRtpParametersFor,
    editSendingRtpParameters, readSendingRtpParameters, firstCodecMimeType, createAnswer,
    sendingRemoteRtpParametersFor, Handler.getSdp]
  split
  next => exact .early
  next notCreated =>
  have created : engine.addTransceiver = true := by simpa using notCreated
  refine Method.wp_mono ?_ (fun _ _ threw => .negotiation rfl created threw)
    (negotiateMid_effect engine handler.transceivers.length _ _)
  intro localId named negotiated
  repeat' split
  all_goals try exact True.intro
  · exact ⟨added, named, rfl, created, negotiated, _, _, _, _,
      ⟨_, _, ‹_›, ‹_›, ‹_›, ‹_›, rfl⟩, ‹_›, ‹_›, rfl, by simp [writeSendingRtpParameters]⟩
  · exact .answer rfl created negotiated
      (.remoteDescription ⟨_, _, ‹_›, ‹_›, ‹_›, ‹_›, rfl⟩ ‹_› ‹_›)
  · exact .answer rfl created negotiated (.answer ⟨_, _, ‹_›, ‹_›, ‹_›, ‹_›, rfl⟩ ‹_›)
  · exact .answer rfl created negotiated (.codec ‹_› ‹_› ‹_› ‹_›)
  · exact .answer rfl created negotiated (.encodings ‹_› ‹_› ‹_›)
  · exact .answer rfl created negotiated (.localDescription ‹_›)

/-! ## What `Send` leaves of the base members -/

/-- A write to the last of the transceivers. -/
theorem modify_concat_length {α : Type} (f : α → α) (items : List α) (item : α) :
    (items ++ [item]).modify f items.length = items ++ [f item] := by
  induction items with
  | nil => rfl
  | cons _ _ inductionHypothesis => simp [inductionHypothesis]

@[simp] theorem addSender_toHandler (track : Track) (encodings : List EncodingInput)
    (handler : SendHandler) :
    (addSender track encodings handler).toHandler =
      { handler.toHandler with
        transceivers := handler.transceivers ++
          [{ mid := none, direction := .sendOnly, track := some track.id
             encodingsActive :=
               if encodings = [] then [true] else encodings.map (·.active) }] } := by
  simp [addSender, modify_concat_length]

@[simp] theorem nameTransceiver_toHandler (transceiver : Nat) (mid : Option String)
    (handler : SendHandler) :
    (nameTransceiver transceiver mid handler).toHandler =
      { handler.toHandler with
        transceivers := handler.transceivers.modify (fun current => { current with mid := mid })
          transceiver } :=
  rfl

@[simp] theorem undoTransceiver_toHandler (transceiver : Nat) (handler : SendHandler) :
    (undoTransceiver transceiver handler).toHandler =
      { handler.toHandler with
        transceivers := handler.transceivers.modify
          (fun current => { current with direction := .inactive, track := none }) transceiver } :=
  rfl

@[simp] theorem answerSender_toHandler (kind : String) (answered : RemoteSdp × RtpParameters)
    (handler : SendHandler) :
    (answerSender kind answered handler).toHandler =
      { handler.toHandler with remoteSdp := answered.1 } :=
  rfl

@[simp] theorem emitSdp_toHandler (handler : SendHandler) :
    (emitSdp handler).toHandler = Handler.emitSdp handler.toHandler :=
  rfl

/-- The set-up does not read the transceivers. -/
theorem setsUpTransport_of_transceivers {role : String} {before after : Handler}
    {transceivers : List Transceiver}
    (setUp : Handler.SetsUpTransport role { before with transceivers := transceivers } after) :
    ∃ ready, Handler.SetsUpTransport role before ready ∧
      after = { ready with transceivers := transceivers } := by
  rcases setUp with ⟨isReady, rfl⟩ | ⟨notReady, rfl⟩
  · exact ⟨before, .inl ⟨isReady, rfl⟩, rfl⟩
  · exact ⟨_, .inr ⟨notReady, rfl⟩, rfl⟩

/--
`Send`'s answer: made on the remote SDP of `ready`, for the engine's offer
section at the slot `GetNextMediaSectionIdx` named on `before`.
-/
def AnswersSlot (engine : Engine) (before ready : Handler) (next : RemoteSdp) : Prop :=
  ∃ localSdp offerMediaObject offerRtpParameters answerRtpParameters codecOptions
    answeredParameters,
    engine.getLocalDescription = .ok localSdp ∧
      localSdp.media[before.remoteSdp.getNextMediaSectionIdx.idx]? = some offerMediaObject ∧
      ready.remoteSdp.createAnswer offerMediaObject
          before.remoteSdp.getNextMediaSectionIdx.reuseMid offerRtpParameters
          answerRtpParameters codecOptions = .ok (next, answeredParameters)

/--
What a `Send` that throws leaves of the base members, `sender` being the
transceiver it appended: nothing changed; the `try` block thrown, the
transport as far as it got and the transceiver without a mid, made
inactive and without a track by the `catch`; or a later step thrown, the
transport set up, the transceiver named and still sending its track, and
maybe the answer in the remote SDP.
-/
inductive SendBaseThrew (engine : Engine) (before : Handler) : Handler → Prop
  | keeps : SendBaseThrew engine before before
  | undone {ready : Handler} {sender : Transceiver} :
      (ready = before ∨ Handler.ConnectThrew "client" before ready ∨
        Handler.SetsUpTransport "client" before ready) →
      sender.mid = none → sender.direction = .inactive → sender.track = none →
      SendBaseThrew engine before { ready with transceivers := before.transceivers ++ [sender] }
  | named {ready : Handler} {sender : Transceiver} {localId : String} :
      Handler.SetsUpTransport "client" before ready → engine.mid = some localId →
      sender.mid = some localId → sender.direction = .sendOnly → sender.track ≠ none →
      SendBaseThrew engine before { ready with transceivers := before.transceivers ++ [sender] }
  | answered {ready : Handler} {sender : Transceiver} {localId : String} {next : RemoteSdp} :
      Handler.SetsUpTransport "client" before ready → engine.mid = some localId →
      sender.mid = some localId → AnswersSlot engine before ready next →
      sender.direction = .sendOnly → sender.track ≠ none →
      SendBaseThrew engine before
        { ready with transceivers := before.transceivers ++ [sender], remoteSdp := next.getSdp.2 }

/--
What a `Send` that returns `localId` leaves of the base members: the
transport set up, the transceiver named `localId` appended, the answer in
the remote SDP, and the localId mapped to the transceiver.
-/
def SendBaseReturned (engine : Engine) (before : Handler) (localId : String)
    (after : Handler) : Prop :=
  ∃ ready sender next, Handler.SetsUpTransport "client" before ready ∧
    after =
      { ready with
        transceivers := before.transceivers ++ [sender], remoteSdp := next.getSdp.2
        mapMidTransceiver := before.mapMidTransceiver.assign localId before.transceivers.length } ∧
    engine.mid = some localId ∧ sender.mid = some localId ∧ AnswersSlot engine before ready next

section Base

variable {helpers : Helpers} {track : Option Track} {encodings : List EncodingInput}
  {codecOptions : Option CodecOptions} {engine : Engine} {handler after : SendHandler}

/-- The `try` block's transport step, on the base members without the new transceiver. -/
theorem setsUpTransport_of_addSender {added : Track} {ready : SendHandler}
    (setUp : SetsUpTransport (addSender added (assignRids encodings) handler) ready) :
    ∃ base, Handler.SetsUpTransport "client" handler.toHandler base ∧
      ready.toHandler =
        { base with transceivers := (addSender added (assignRids encodings) handler).transceivers } := by
  obtain ⟨inner, setUp, rfl⟩ := setUp
  rw [addSender_toHandler] at setUp
  obtain ⟨base, baseSetUp, rfl⟩ := @setsUpTransport_of_transceivers _ handler.toHandler _ _ setUp
  exact ⟨base, baseSetUp, by simp⟩

/-- The base members a `Send` that throws leaves. -/
theorem SendThrew.base
    (threw : SendThrew helpers track encodings codecOptions engine handler after) :
    SendBaseThrew engine handler.toHandler after.toHandler := by
  cases threw with
  | early => exact .keeps
  | negotiation _ _ negotiation =>
      cases negotiation with
      | offer =>
          simp only [undoTransceiver_toHandler, addSender_toHandler, modify_concat_length]
          exact .undone (.inl rfl) (by rfl) rfl rfl
      | connect notReady =>
          simp only [undoTransceiver_toHandler, addSender_toHandler, modify_concat_length]
            at notReady ⊢
          exact .undone (.inr (.inl ⟨notReady, rfl⟩)) (by rfl) rfl rfl
      | describe setUp =>
          obtain ⟨base, setUp, ready⟩ := setsUpTransport_of_addSender setUp
          simp only [undoTransceiver_toHandler, ready, addSender_toHandler, modify_concat_length]
          exact .undone (.inr (.inr setUp)) (by rfl) rfl rfl
      | mid setUp noMid =>
          obtain ⟨base, setUp, ready⟩ := setsUpTransport_of_addSender setUp
          simp only [undoTransceiver_toHandler, nameTransceiver_toHandler, ready,
            addSender_toHandler, modify_concat_length]
          exact .undone (.inr (.inr setUp)) noMid rfl rfl
  | answer _ _ negotiated answerThrew =>
      obtain ⟨ready, setUp, engineMid, -, rfl⟩ := negotiated
      obtain ⟨base, setUp, readyBase⟩ := setsUpTransport_of_addSender setUp
      cases answerThrew with
      | answer described _ =>
          obtain ⟨_, _, -, -, -, -, rfl⟩ := described
          simp only [writeScalability, writeCname, writeEncodings,
            bindSendingRemoteRtpParameters_toHandler, writeSendingRtpParameters_toHandler,
            nameTransceiver_toHandler, readyBase, addSender_toHandler, modify_concat_length]
          exact .named setUp engineMid engineMid rfl nofun
      | remoteDescription described answered _ =>
          obtain ⟨localSdp, _, got, read, -, -, rfl⟩ := described
          simp only [emitSdp_toHandler, answerSender_toHandler, writeScalability, writeCname,
            writeEncodings, bindSendingRemoteRtpParameters_toHandler,
            writeSendingRtpParameters_toHandler, nameTransceiver_toHandler, readyBase,
            addSender_toHandler, modify_concat_length, Handler.emitSdp]
          have sameSdp : ready.remoteSdp = base.remoteSdp := (congrArg Handler.remoteSdp readyBase :)
          dsimp only [sendAnswer, writeScalability, writeEncodings, writeCname,
            writeSendingRtpParameters, nameTransceiver] at answered
          rw [sameSdp] at answered
          exact .answered setUp engineMid engineMid ⟨localSdp, _, _, _, _, _, got, read, answered⟩ rfl
            nofun
      | _ =>
          simp only [writeCname, writeEncodings, markNullCodec_toHandler,
            writeSendingRtpParameters_toHandler, nameTransceiver_toHandler, readyBase,
            addSender_toHandler, modify_concat_length]
          exact .named setUp engineMid engineMid rfl nofun

/-- The base members a `Send` that returns leaves. -/
theorem SendReturned.base {result : SendResult}
    (returned : SendReturned helpers track encodings codecOptions engine handler result after) :
    SendBaseReturned engine handler.toHandler result.localId after.toHandler := by
  obtain ⟨added, _, -, -, ⟨ready, setUp, engineMid, -, rfl⟩, _, _, _, answered,
    ⟨localSdp, _, got, read, -, -, rfl⟩, answer, -, rfl, -⟩ := returned
  obtain ⟨base, setUp, readyBase⟩ := setsUpTransport_of_addSender setUp
  have sameSdp : ready.remoteSdp = base.remoteSdp := (congrArg Handler.remoteSdp readyBase :)
  dsimp only [sendAnswer, writeScalability, writeEncodings, writeCname,
    writeSendingRtpParameters, nameTransceiver] at answer
  rw [sameSdp] at answer
  refine ⟨base,
    { mid := engine.mid, direction := .sendOnly, track := some added.id
      encodingsActive :=
        if assignRids encodings = [] then [true] else (assignRids encodings).map (·.active) },
    answered.1, setUp, ?_, engineMid, engineMid, ⟨localSdp, _, _, _, _, _, got, read, answer⟩⟩
  simp only [emitSdp_toHandler, answerSender_toHandler, writeScalability, writeCname,
    writeEncodings, bindSendingRemoteRtpParameters_toHandler,
    writeSendingRtpParameters_toHandler, nameTransceiver_toHandler, readyBase,
    addSender_toHandler, modify_concat_length, Handler.emitSdp, setUp.members.2.2.1]

/-- Every way out of `Send`, on the base members. -/
theorem send_base (helpers : Helpers) (track : Option Track) (encodings : List EncodingInput)
    (codecOptions : Option CodecOptions) (engine : Engine) (handler : SendHandler) :
    Method.wp (send helpers track encodings codecOptions engine)
      (fun result after => SendBaseReturned engine handler.toHandler result.localId after.toHandler)
      (fun _ after => SendBaseThrew engine handler.toHandler after.toHandler) handler :=
  Method.wp_mono (fun _ _ returned => returned.base) (fun _ _ threw => threw.base)
    (send_effect helpers track encodings codecOptions engine handler)

end Base

/-! ## The other methods -/

/-- `SendSctpAssociation` of the engine's `application` offer section, on `ready`'s remote SDP. -/
def AssociatesOffer (engine : Engine) (ready : Handler) (next : RemoteSdp) : Prop :=
  ∃ offer offerMediaObject, engine.createOffer = .ok offer ∧
    offer.media.find? (·.type = "application") = some offerMediaObject ∧
    ready.remoteSdp.sendSctpAssociation offerMediaObject = .ok next

/--
Where the first `SendDataChannel`'s negotiation threw: `CreateOffer` or the
missing `application` section, `OnConnect`, `SetLocalDescription` or
`SendSctpAssociation`, or `SetRemoteDescription`.
-/
inductive DataSectionThrew (engine : Engine) (before : Handler) : Handler → Prop
  | offer : DataSectionThrew engine before before
  | connect {after : Handler} : Handler.ConnectThrew "client" before after →
      DataSectionThrew engine before after
  | describe {ready : Handler} : Handler.SetsUpTransport "client" before ready →
      DataSectionThrew engine before ready
  | remoteDescription {ready : Handler} {next : RemoteSdp} :
      Handler.SetsUpTransport "client" before ready → AssociatesOffer engine ready next →
      DataSectionThrew engine before (Handler.emitSdp { ready with remoteSdp := next })

/-- The first `SendDataChannel`'s negotiation, returned: the data section answered. -/
def DataSectionAdded (engine : Engine) (before after : Handler) : Prop :=
  ∃ ready next, Handler.SetsUpTransport "client" before ready ∧
    AssociatesOffer engine ready next ∧
    after = { Handler.emitSdp { ready with remoteSdp := next } with
      hasDataChannelMediaSection := true }

/--
The ways `SendDataChannel` throws: the stream parameters do not validate,
`CreateDataChannel` throws, or, once the stream id is taken, the first
channel's negotiation throws.
-/
inductive DataChannelThrew (helpers : Helpers) (dataChannelInit : DataChannelInit)
    (engine : Engine) (before : Handler) : Handler → Prop
  | invalid {message : String} :
      helpers.validateSctpStreamParameters
          (sendSctpStreamParameters before.nextSendSctpStreamId dataChannelInit) =
        .error message →
      DataChannelThrew helpers dataChannelInit engine before before
  | notCreated {validated : SctpStreamParameters} {message : String} :
      helpers.validateSctpStreamParameters
          (sendSctpStreamParameters before.nextSendSctpStreamId dataChannelInit) =
        .ok validated →
      engine.createDataChannel
          (negotiatedDataChannelInit before.nextSendSctpStreamId dataChannelInit) =
        .error message →
      DataChannelThrew helpers dataChannelInit engine before before
  | negotiation {validated : SctpStreamParameters} {after : Handler} :
      helpers.validateSctpStreamParameters
          (sendSctpStreamParameters before.nextSendSctpStreamId dataChannelInit) =
        .ok validated →
      engine.createDataChannel
          (negotiatedDataChannelInit before.nextSendSctpStreamId dataChannelInit) = .ok () →
      before.hasDataChannelMediaSection = false →
      DataSectionThrew engine (Handler.advanceStreamId before) after →
      DataChannelThrew helpers dataChannelInit engine before after

/--
`SendDataChannel`'s return: the validated stream parameters and the stream
id as localId, the id taken, and the data section answered by the first
channel.
-/
def DataChannelReturned (helpers : Helpers) (dataChannelInit : DataChannelInit)
    (engine : Engine) (before : Handler) (channel : DataChannel) (after : Handler) : Prop :=
  helpers.validateSctpStreamParameters
      (sendSctpStreamParameters before.nextSendSctpStreamId dataChannelInit) =
    .ok channel.sctpStreamParameters ∧
  channel.localId = toString before.nextSendSctpStreamId ∧
  engine.createDataChannel
      (negotiatedDataChannelInit before.nextSendSctpStreamId dataChannelInit) = .ok () ∧
  ((before.hasDataChannelMediaSection = true ∧ after = Handler.advanceStreamId before) ∨
    (before.hasDataChannelMediaSection = false ∧
      DataSectionAdded engine (Handler.advanceStreamId before) after))

/-- Every way out of `SendDataChannel`, on the base members. -/
theorem sendDataChannel_effect (helpers : Helpers) (dataChannelInit : DataChannelInit)
    (engine : Engine) (handler : SendHandler) :
    Method.wp (sendDataChannel helpers dataChannelInit engine)
      (fun channel after => DataChannelReturned helpers dataChannelInit engine
        handler.toHandler channel after.toHandler)
      (fun _ after => DataChannelThrew helpers dataChannelInit engine handler.toHandler
        after.toHandler) handler := by
  simp only [Method.wp_bind, ↓Method.wp_pure, ↓Method.wp_read, ↓Method.wp_modify,
    ↓Method.wp_throw, ↓Method.wp_engine, ↓Method.wp_getOr, ↓Method.wp_remote,
    ↓Method.wp_focus, ↓Method.wp_ite, sendDataChannel, lift, negotiateDataChannel,
    Handler.setupTransport, Handler.updateRemoteSdp, Handler.getSdp, remoteDtlsRole_server]
  repeat' split
  all_goals try exact True.intro
  all_goals first
    | exact .invalid ‹_›
    | exact .notCreated ‹_› ‹_›
    | exact ⟨‹_›, rfl, ‹_›, .inl
        ⟨by simpa using ‹¬(!handler.hasDataChannelMediaSection) = true›, rfl⟩⟩
    | exact ⟨‹_›, rfl, ‹_›, .inr
        ⟨by simpa using ‹(!handler.hasDataChannelMediaSection) = true›, _, _,
          .inr ⟨by simpa using ‹(!handler.transportReady) = true›, rfl⟩, ⟨_, _, ‹_›, ‹_›, ‹_›⟩,
          rfl⟩⟩
    | exact ⟨‹_›, rfl, ‹_›, .inr
        ⟨by simpa using ‹(!handler.hasDataChannelMediaSection) = true›, _, _,
          .inl ⟨by simpa using ‹¬(!handler.transportReady) = true›, rfl⟩, ⟨_, _, ‹_›, ‹_›, ‹_›⟩,
          rfl⟩⟩
    | refine .negotiation ‹_› ‹_›
        (by simpa using ‹(!handler.hasDataChannelMediaSection) = true›) ?_
      first
        | exact .offer
        | exact .connect ⟨by simpa using ‹(!handler.transportReady) = true›, rfl⟩
        | exact .describe (.inr ⟨by simpa using ‹(!handler.transportReady) = true›, rfl⟩)
        | exact .remoteDescription (.inr ⟨by simpa using ‹(!handler.transportReady) = true›, rfl⟩)
            ⟨_, _, ‹_›, ‹_›, ‹_›⟩
        | exact .remoteDescription (.inl ⟨by simpa using ‹¬(!handler.transportReady) = true›, rfl⟩)
            ⟨_, _, ‹_›, ‹_›, ‹_›⟩

/-- A transceiver read through a write that keeps mids has the mid it had. -/
theorem bind_mid_of_modify {transceivers : List Transceiver} {transceiver : Nat}
    {update : Transceiver → Transceiver} {current : Transceiver} {mid : String}
    (found : (transceivers.modify update transceiver)[transceiver]? = some current)
    (named : current.mid = some mid) (keeps : ∀ current, (update current).mid = current.mid) :
    transceivers[transceiver]?.bind Transceiver.mid = some mid := by
  rw [List.getElem?_modify_eq] at found
  cases original : transceivers[transceiver]? with
  | none => simp [original] at found
  | some original' =>
      simp only [original, Option.map_eq_map, Option.map_some', Option.some.injEq] at found
      simpa [← found, keeps] using named

/-- `StopSending`'s write to the transceiver: no track. -/
def stopTrack (transceiver : Nat) : Handler → Handler :=
  Handler.modifyTransceiver transceiver fun current => { current with track := none }

/--
The ways `StopSending` throws: no entry; the transceiver's mid missing or
the close thrown, once its track is gone; or the renegotiation thrown
before or after `GetSdp`.
-/
inductive StopThrew (localId : String) (before : Handler) : Handler → Prop
  | notFound : before.mapMidTransceiver.find? localId = none → StopThrew localId before before
  | untracked {transceiver : Nat} : before.mapMidTransceiver.find? localId = some transceiver →
      StopThrew localId before (stopTrack transceiver before)
  | closed {transceiver : Nat} {closed : RemoteSdp} :
      Handler.ClosesSection localId before transceiver closed →
      StopThrew localId before { stopTrack transceiver before with remoteSdp := closed }
  | emitted {transceiver : Nat} {closed : RemoteSdp} :
      Handler.ClosesSection localId before transceiver closed →
      StopThrew localId before
        (Handler.emitSdp { stopTrack transceiver before with remoteSdp := closed })

/-- `StopSending`'s return: the track gone, the section closed, and the SDP emitted. -/
def StopReturned (localId : String) (before after : Handler) : Prop :=
  ∃ transceiver closed, Handler.ClosesSection localId before transceiver closed ∧
    after = Handler.emitSdp { stopTrack transceiver before with remoteSdp := closed }

/-- Every way out of `StopSending`, on the base members. -/
theorem stopSending_effect (localId : String) (engine : Engine) (handler : SendHandler) :
    Method.wp (stopSending localId engine)
      (fun _ after => StopReturned localId handler.toHandler after.toHandler)
      (fun _ after => StopThrew localId handler.toHandler after.toHandler) handler := by
  simp only [Method.wp_bind, ↓Method.wp_pure, ↓Method.wp_read, ↓Method.wp_modify,
    ↓Method.wp_throw, ↓Method.wp_undefined, ↓Method.wp_engine, ↓Method.wp_getOr,
    ↓Method.wp_remote, ↓Method.wp_focus, stopSending, lift, renegotiate,
    Handler.findTransceiver, Handler.updateTransceiver, Handler.transceiverMid,
    Handler.updateRemoteSdp, Handler.getSdp]
  repeat' split
  all_goals try exact True.intro
  all_goals first
    | exact .notFound ‹_›
    | exact .untracked ‹_›
    | exact .closed ⟨_, ‹_›, bind_mid_of_modify ‹_› ‹_› fun _ => by rfl, ‹_›⟩
    | exact .emitted ⟨_, ‹_›, bind_mid_of_modify ‹_› ‹_› fun _ => by rfl, ‹_›⟩
    | exact ⟨_, _, ⟨_, ‹_›, bind_mid_of_modify ‹_› ‹_› fun _ => by rfl, ‹_›⟩, rfl⟩

/-- Every way out of `ReplaceTrack`: no entry, or the entry's transceiver given the track. -/
theorem replaceTrack_effect (localId : String) (track : Option Track) (handler : SendHandler) :
    Method.wp (replaceTrack localId track)
      (fun _ after => ∃ transceiver,
        handler.mapMidTransceiver.find? localId = some transceiver ∧
          after.toHandler = Handler.modifyTransceiver transceiver
            (fun current => { current with track := track.map (·.id) }) handler.toHandler)
      (fun _ after => handler.mapMidTransceiver.find? localId = none ∧
        after.toHandler = handler.toHandler) handler := by
  simp only [Method.wp_bind, ↓Method.wp_pure, ↓Method.wp_read, ↓Method.wp_modify,
    ↓Method.wp_throw, ↓Method.wp_getOr, ↓Method.wp_focus, replaceTrack, lift,
    Handler.findTransceiver, Handler.updateTransceiver]
  split
  · exact ⟨_, ‹_›, rfl⟩
  · exact ⟨‹_›, True.intro⟩

/--
Every way out of `SetMaxSpatialLayer`: no entry or a thrown
`SetParameters`, or the entry's transceiver given the encodings' flags.
-/
theorem setMaxSpatialLayer_effect (localId : String) (spatialLayer : UInt8) (engine : Engine)
    (handler : SendHandler) :
    Method.wp (setMaxSpatialLayer localId spatialLayer engine)
      (fun _ after => ∃ transceiver,
        handler.mapMidTransceiver.find? localId = some transceiver ∧
          engine.setParameters = .ok () ∧
          after.toHandler = Handler.modifyTransceiver transceiver
            (fun current => { current with
              encodingsActive := spatialLayerActive spatialLayer current.encodingsActive })
            handler.toHandler)
      (fun _ after => after.toHandler = handler.toHandler) handler := by
  simp only [Method.wp_bind, ↓Method.wp_pure, ↓Method.wp_read, ↓Method.wp_modify,
    ↓Method.wp_throw, ↓Method.wp_engine, ↓Method.wp_getOr, ↓Method.wp_focus,
    setMaxSpatialLayer, lift, Handler.findTransceiver, Handler.updateTransceiver]
  repeat' split
  all_goals first
    | exact True.intro
    | exact ⟨_, ‹_›, ‹_›, rfl⟩

/-- `GetSenderStats` changes nothing. -/
theorem getSenderStats_effect (localId : String) (engine : Engine) (handler : SendHandler) :
    Method.wp (getSenderStats localId engine) (fun _ after => after.toHandler = handler.toHandler)
      (fun _ after => after.toHandler = handler.toHandler) handler := by
  simp only [Method.wp_bind, ↓Method.wp_pure, ↓Method.wp_read, ↓Method.wp_throw,
    ↓Method.wp_engine, ↓Method.wp_getOr, ↓Method.wp_focus, getSenderStats, lift,
    Handler.findTransceiver]
  repeat' split
  all_goals exact True.intro

/--
What `ReplaceTrack`, `SetMaxSpatialLayer` and `GetSenderStats` leave on
every way out: the members as they were, or one transceiver's sender
edited, its mid kept.
-/
def EditsSender (before after : Handler) : Prop :=
  after = before ∨ ∃ transceiver update,
    after = Handler.modifyTransceiver transceiver update before ∧
      ∀ current, (update current).mid = current.mid

/-- A sender edit keeps every member but the transceivers. -/
theorem EditsSender.members {before after : Handler} (edits : EditsSender before after) :
    after.remoteSdp = before.remoteSdp ∧ after.transportReady = before.transportReady ∧
      after.mapMidTransceiver = before.mapMidTransceiver ∧
      after.hasDataChannelMediaSection = before.hasDataChannelMediaSection ∧
      after.nextSendSctpStreamId = before.nextSendSctpStreamId := by
  rcases edits with rfl | ⟨_, _, rfl, -⟩ <;> exact ⟨rfl, rfl, rfl, rfl, rfl⟩

/-- The calls that edit one sender at most. -/
def Operation.editsSender : Operation → Bool
  | .replaceTrack _ _ | .setMaxSpatialLayer _ _ | .getSenderStats _ => true
  | _ => false

/-- Every way out of a call that edits one sender at most. -/
theorem call_editsSender (helpers : Helpers) {operation : Operation}
    (edits : operation.editsSender = true) (engine : Engine) (handler : SendHandler) :
    Method.wp (call helpers operation engine)
      (fun _ after => EditsSender handler.toHandler after.toHandler)
      (fun _ after => EditsSender handler.toHandler after.toHandler) handler := by
  cases operation with
  | replaceTrack localId track =>
      exact Method.wp_mono (fun _ _ ⟨_, _, same⟩ => .inr ⟨_, _, same, fun _ => rfl⟩)
        (fun _ _ threw => .inl threw.2) (replaceTrack_effect localId track handler)
  | setMaxSpatialLayer localId spatialLayer =>
      exact Method.wp_mono (fun _ _ ⟨_, _, _, same⟩ => .inr ⟨_, _, same, fun _ => rfl⟩)
        (fun _ _ same => .inl same) (setMaxSpatialLayer_effect localId spatialLayer engine handler)
  | getSenderStats localId =>
      exact Method.wp_mono (fun _ _ same => .inl same) (fun _ _ same => .inl same)
        (getSenderStats_effect localId engine handler)
  | send | sendDataChannel | stopSending | restartIce => cases edits

/-- The members once `RestartIce` has given the remote SDP the new ICE parameters. -/
def restarted (iceParameters : IceParameters) (handler : Handler) : Handler :=
  { handler with remoteSdp := handler.remoteSdp.updateIceParameters iceParameters }

/--
Every way out of `RestartIce`: the new ICE parameters, then, on a ready
transport, the renegotiation, which may throw before or after `GetSdp`.
-/
theorem restartIce_effect (iceParameters : IceParameters) (engine : Engine)
    (handler : SendHandler) :
    Method.wp (restartIce iceParameters engine)
      (fun _ after => after.toHandler =
        if handler.transportReady then Handler.emitSdp (restarted iceParameters handler.toHandler)
        else restarted iceParameters handler.toHandler)
      (fun _ after => handler.transportReady = true ∧
        (after.toHandler = restarted iceParameters handler.toHandler ∨
          after.toHandler = Handler.emitSdp (restarted iceParameters handler.toHandler)))
      handler := by
  simp only [Method.wp_bind, ↓Method.wp_pure, ↓Method.wp_read, ↓Method.wp_modify,
    ↓Method.wp_engine, ↓Method.wp_focus, ↓Method.wp_ite, restartIce, lift, renegotiate,
    Handler.getSdp]
  split
  next ready =>
    repeat' split
    all_goals first
      | exact True.intro
      | exact ⟨ready, .inl rfl⟩
      | exact ⟨ready, .inr rfl⟩
      | rfl
  next => rfl

end SendHandler

end MediasoupClient
