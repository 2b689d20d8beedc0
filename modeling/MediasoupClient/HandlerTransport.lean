import MediasoupClient.HandlerRemoteSdp

namespace MediasoupClient

open Sdp Sdp.RemoteSdp

/-!
# The transport set-up

`SetupTransport` is the only code that writes `transportReady` or the
remote DTLS role.  It gives the remote side the role opposite to the local
one (`UpdateDtlsRole`), calls the listener's `OnConnect`, which may throw,
and only then marks the transport ready; nothing sets `transportReady`
back.  The send handler sets itself up as DTLS `server` and the receive
handler as `client`.  So in every state either handler reaches, the remote
role is the constructor's or the one its set-up gives, and once the
transport is ready it is that one for good.  A throwing `OnConnect` leaves
the role changed and the transport not ready, so the next negotiation sets
the transport up again.  With the ICE parameters of the last `RestartIce`,
this fixes the transport every media entry of the remote SDP carries.
-/

namespace Sdp.RemoteSdp

@[simp] theorem dtlsParameters_getSdp (sdp : RemoteSdp) :
    sdp.getSdp.2.dtlsParameters = sdp.dtlsParameters :=
  rfl

@[simp] theorem dtlsParameters_updateIceParameters (sdp : RemoteSdp)
    (iceParameters : IceParameters) :
    (sdp.updateIceParameters iceParameters).dtlsParameters = sdp.dtlsParameters :=
  rfl

@[simp] theorem role_updateDtlsRole (sdp : RemoteSdp) (role : String) :
    (sdp.updateDtlsRole role).dtlsParameters.role = role :=
  rfl

/-! The methods that build or close a section keep the DTLS parameters. -/

theorem dtlsParameters_createAnswer {sdp : RemoteSdp} {offerMediaObject : LocalMediaObject}
    {reuseMid : String} {offerRtpParameters answerRtpParameters : RtpParameters}
    {codecOptions : Option CodecOptions} {result : RemoteSdp × RtpParameters}
    (answered : sdp.createAnswer offerMediaObject reuseMid offerRtpParameters
      answerRtpParameters codecOptions = .ok result) :
    result.1.dtlsParameters = sdp.dtlsParameters := by
  obtain ⟨_, _, _, ⟨_, added⟩ | ⟨reuse, replaced⟩⟩ := createAnswer_ok answered
  · rw [added]
    rfl
  · obtain ⟨_, _, replacedEq⟩ := replaceMediaSection_ok reuse replaced
    rw [replacedEq]
    rfl

theorem dtlsParameters_sendSctpAssociation {sdp next : RemoteSdp}
    {offerMediaObject : LocalMediaObject}
    (associated : sdp.sendSctpAssociation offerMediaObject = .ok next) :
    next.dtlsParameters = sdp.dtlsParameters := by
  obtain ⟨_, _, rfl⟩ := sendSctpAssociation_ok associated
  rfl

theorem dtlsParameters_recvSctpAssociation {sdp next : RemoteSdp}
    (associated : sdp.recvSctpAssociation = .ok next) :
    next.dtlsParameters = sdp.dtlsParameters := by
  obtain ⟨_, _, rfl⟩ := recvSctpAssociation_ok associated
  rfl

theorem dtlsParameters_createOffer {sdp next : RemoteSdp} {mid kind streamId trackId : String}
    {offerRtpParameters : RtpParameters}
    (offered : sdp.createOffer mid kind offerRtpParameters streamId trackId = .ok next) :
    next.dtlsParameters = sdp.dtlsParameters := by
  obtain ⟨_, _, rfl⟩ := createOffer_ok offered
  rfl

theorem dtlsParameters_closeMediaSection {sdp next : RemoteSdp} {mid : String}
    (closed : sdp.closeMediaSection mid = .ok next) :
    next.dtlsParameters = sdp.dtlsParameters := by
  obtain ⟨_, _, rfl⟩ := closeMediaSection_ok closed
  rfl

end Sdp.RemoteSdp

/-- The remote DTLS role the remote SDP holds. -/
def Handler.remoteRole (handler : Handler) : String :=
  handler.remoteSdp.dtlsParameters.role

/--
What a call does to the transport: nothing, or what `SetupTransport` for
`localDtlsRole` does before or after the listener's `OnConnect`.
-/
def TransportStep (localDtlsRole : String) (before after : Handler) : Prop :=
  (after.transportReady = before.transportReady ∧ after.remoteRole = before.remoteRole) ∨
    ((before.transportReady → after.transportReady) ∧
      after.remoteRole = remoteDtlsRole localDtlsRole)

namespace TransportStep

variable {localDtlsRole : String}

theorem refl (handler : Handler) : TransportStep localDtlsRole handler handler :=
  .inl ⟨rfl, rfl⟩

theorem trans {before middle after : Handler} (first : TransportStep localDtlsRole before middle)
    (second : TransportStep localDtlsRole middle after) :
    TransportStep localDtlsRole before after := by
  rcases first with ⟨sameReady, sameRole⟩ | ⟨staysReady, setUp⟩ <;>
    rcases second with ⟨sameReady', sameRole'⟩ | ⟨staysReady', setUp'⟩
  · exact .inl ⟨sameReady'.trans sameReady, sameRole'.trans sameRole⟩
  · exact .inr ⟨fun ready => staysReady' (sameReady ▸ ready), setUp'⟩
  · exact .inr ⟨fun ready => sameReady' ▸ staysReady ready, sameRole'.trans setUp⟩
  · exact .inr ⟨fun ready => staysReady' (staysReady ready), setUp'⟩

/-- A ready transport stays ready. -/
theorem ready {before after : Handler} (stepped : TransportStep localDtlsRole before after)
    (ready : before.transportReady) : after.transportReady := by
  rcases stepped with ⟨sameReady, -⟩ | ⟨staysReady, -⟩
  · exact sameReady ▸ ready
  · exact staysReady ready

/--
From a state whose role is the constructor's or the set-up's, and the
set-up's once ready, a call leads to such a state.
-/
theorem role {initialRole : String} {before after : Handler}
    (stepped : TransportStep localDtlsRole before after)
    (role : before.remoteRole = initialRole ∨
      before.remoteRole = remoteDtlsRole localDtlsRole)
    (ready : before.transportReady → before.remoteRole = remoteDtlsRole localDtlsRole) :
    (after.remoteRole = initialRole ∨ after.remoteRole = remoteDtlsRole localDtlsRole) ∧
      (after.transportReady → after.remoteRole = remoteDtlsRole localDtlsRole) := by
  rcases stepped with ⟨sameReady, sameRole⟩ | ⟨-, setUp⟩
  · rw [sameReady, sameRole]
    exact ⟨role, ready⟩
  · exact ⟨.inr setUp, fun _ => setUp⟩

/-- A step that keeps the transport flag and the role. -/
theorem keeps {before middle after : Handler} (stepped : TransportStep localDtlsRole before middle)
    (sameReady : after.transportReady = middle.transportReady)
    (sameRole : after.remoteRole = middle.remoteRole) :
    TransportStep localDtlsRole before after :=
  stepped.trans (.inl ⟨sameReady, sameRole⟩)

/-- `SetupTransport` that completes. -/
theorem of_setsUp {role : String} (remote : remoteDtlsRole localDtlsRole = role)
    {before after : Handler} (setUp : Handler.SetsUpTransport role before after) :
    TransportStep localDtlsRole before after := by
  rcases setUp with ⟨-, rfl⟩ | ⟨-, rfl⟩
  · exact .refl _
  · exact .inr ⟨fun _ => rfl, remote.symm⟩

/-- `SetupTransport` whose `OnConnect` throws. -/
theorem of_connectThrew {role : String} (remote : remoteDtlsRole localDtlsRole = role)
    {before after : Handler} (threw : Handler.ConnectThrew role before after) :
    TransportStep localDtlsRole before after := by
  obtain ⟨notReady, rfl⟩ := threw
  exact .inr ⟨fun ready => absurd ready (by rw [notReady]; decide), remote.symm⟩

end TransportStep

namespace SendHandler

section Steps

variable {engine : Engine} {before after : Handler}

theorem SendBaseThrew.transportStep (threw : SendBaseThrew engine before after) :
    TransportStep "server" before after := by
  cases threw with
  | keeps => exact .refl _
  | undone tried =>
      rcases tried with rfl | threw | setUp
      · exact .refl _
      · exact (TransportStep.of_connectThrew remoteDtlsRole_server threw).keeps rfl rfl
      · exact (TransportStep.of_setsUp remoteDtlsRole_server setUp).keeps rfl rfl
  | named setUp => exact (TransportStep.of_setsUp remoteDtlsRole_server setUp).keeps rfl rfl
  | answered setUp _ _ answers =>
      obtain ⟨_, _, _, _, _, _, -, -, answered⟩ := answers
      exact (TransportStep.of_setsUp remoteDtlsRole_server setUp).keeps rfl (congrArg DtlsParameters.role (dtlsParameters_createAnswer answered) :)

theorem SendBaseReturned.transportStep {localId : String}
    (returned : SendBaseReturned engine before localId after) :
    TransportStep "server" before after := by
  obtain ⟨_, _, _, setUp, rfl, -, -, _, _, _, _, _, _, -, -, answered⟩ := returned
  exact (TransportStep.of_setsUp remoteDtlsRole_server setUp).keeps rfl (congrArg DtlsParameters.role (dtlsParameters_createAnswer answered) :)

theorem DataSectionThrew.transportStep (threw : DataSectionThrew engine before after) :
    TransportStep "server" before after := by
  cases threw with
  | offer => exact .refl _
  | connect threw => exact .of_connectThrew remoteDtlsRole_server threw
  | describe setUp => exact .of_setsUp remoteDtlsRole_server setUp
  | remoteDescription setUp associates =>
      obtain ⟨_, _, -, -, associated⟩ := associates
      exact (TransportStep.of_setsUp remoteDtlsRole_server setUp).keeps rfl
        (congrArg DtlsParameters.role (dtlsParameters_sendSctpAssociation associated) :)

theorem DataChannelThrew.transportStep {helpers : Helpers} {dataChannelInit : DataChannelInit}
    (threw : DataChannelThrew helpers dataChannelInit engine before after) :
    TransportStep "server" before after := by
  cases threw with
  | invalid | notCreated => exact .refl _
  | negotiation _ _ _ threw => exact (TransportStep.refl before).trans threw.transportStep

theorem DataChannelReturned.transportStep {helpers : Helpers}
    {dataChannelInit : DataChannelInit} {channel : DataChannel}
    (returned : DataChannelReturned helpers dataChannelInit engine before channel after) :
    TransportStep "server" before after := by
  obtain ⟨-, -, -, ⟨-, rfl⟩ | ⟨-, _, _, setUp, ⟨_, _, -, -, associated⟩, rfl⟩⟩ := returned
  · exact .refl _
  · exact (TransportStep.of_setsUp remoteDtlsRole_server setUp).keeps rfl
      (congrArg DtlsParameters.role (dtlsParameters_sendSctpAssociation associated) :)

theorem StopThrew.transportStep {localId : String} (threw : StopThrew localId before after) :
    TransportStep "server" before after := by
  cases threw with
  | notFound | untracked => exact .refl _
  | closed closes | emitted closes =>
      obtain ⟨_, -, -, closed⟩ := closes
      exact (TransportStep.refl before).keeps rfl (congrArg DtlsParameters.role (dtlsParameters_closeMediaSection closed) :)

theorem StopReturned.transportStep {localId : String}
    (returned : StopReturned localId before after) : TransportStep "server" before after := by
  obtain ⟨_, _, ⟨_, -, -, closed⟩, rfl⟩ := returned
  exact (TransportStep.refl before).keeps rfl (congrArg DtlsParameters.role (dtlsParameters_closeMediaSection closed) :)

end Steps

/-- Every way out of every call of the send handler is a `TransportStep` for `server`. -/
theorem call_transportStep (helpers : Helpers) (operation : Operation) (engine : Engine)
    (handler : SendHandler) :
    Method.wp (call helpers operation engine)
      (fun _ after => TransportStep "server" handler.toHandler after.toHandler)
      (fun _ after => TransportStep "server" handler.toHandler after.toHandler) handler := by
  have start : TransportStep "server" handler.toHandler handler.toHandler := .refl _
  cases operation with
  | send track encodings codecOptions =>
      simp only [call, Method.wp_bind, Method.wp_pure]
      exact Method.wp_mono (fun _ _ returned => returned.transportStep)
        (fun _ _ threw => threw.transportStep)
        (send_base helpers track encodings codecOptions engine handler)
  | sendDataChannel dataChannelInit =>
      simp only [call, Method.wp_bind, Method.wp_pure]
      exact Method.wp_mono (fun _ _ returned => returned.transportStep)
        (fun _ _ threw => threw.transportStep)
        (sendDataChannel_effect helpers dataChannelInit engine handler)
  | stopSending localId =>
      exact Method.wp_mono (fun _ _ returned => returned.transportStep)
        (fun _ _ threw => threw.transportStep) (stopSending_effect localId engine handler)
  | replaceTrack | setMaxSpatialLayer | getSenderStats =>
      refine Method.wp_mono (fun _ _ edits => ?_) (fun _ _ edits => ?_)
        (call_editsSender helpers (by rfl) engine handler) <;>
      exact start.keeps edits.members.2.1 (congrArg (·.dtlsParameters.role) edits.members.1)
  | restartIce iceParameters =>
      have restarted : TransportStep "server" handler.toHandler
          (restarted iceParameters handler.toHandler) :=
        start.keeps rfl rfl
      refine Method.wp_mono (fun _ after returned => ?_) (fun _ after threw => ?_)
        (restartIce_effect iceParameters engine handler)
      · rw [returned]
        split
        · exact restarted.keeps rfl rfl
        · exact restarted
      · rcases threw.2 with same | same <;> rw [same]
        · exact restarted
        · exact restarted.keeps rfl rfl

/-- Over every run of the send handler, the transport moves by one `TransportStep`. -/
theorem transportStep_of_reachable {helpers : Helpers}
    {allowed : SendHandler → Operation × Engine → Prop} {start handler : SendHandler}
    (reached : Reachable (step helpers) allowed start handler) :
    TransportStep "server" start.toHandler handler.toHandler := by
  induction reached with
  | refl => exact .refl _
  | step call _ _ stepped inductionHypothesis =>
      exact inductionHypothesis.trans
        (Method.wp_state? (call_transportStep helpers call.1 call.2 _) stepped :)

end SendHandler

namespace RecvHandler

section Steps

variable {before after : Handler}

theorem ReceiveThrew.transportStep {id kind : String} {rtpParameters : RtpParameters}
    (threw : ReceiveThrew id kind rtpParameters before after) :
    TransportStep "client" before after := by
  cases threw with
  | offer => exact .refl _
  | remoteDescription offers =>
      obtain ⟨_, _, -, -, offer⟩ := offers
      exact (TransportStep.refl before).keeps rfl (congrArg DtlsParameters.role (dtlsParameters_createOffer offer) :)
  | answer offers transport =>
      obtain ⟨_, _, -, -, offer⟩ := offers
      have offered : TransportStep "client" before
          (offered (receiveLocalId rtpParameters before.mapMidTransceiver) before _) :=
        (TransportStep.refl before).keeps rfl (congrArg DtlsParameters.role (dtlsParameters_createOffer offer) :)
      rcases transport with rfl | threw | setUp
      · exact offered
      · exact offered.trans (.of_connectThrew remoteDtlsRole_client threw)
      · exact offered.trans (.of_setsUp remoteDtlsRole_client setUp)

theorem ReceiveReturned.transportStep {id kind : String} {rtpParameters : RtpParameters}
    {result : RecvResult} (returned : ReceiveReturned id kind rtpParameters before result after) :
    TransportStep "client" before after := by
  obtain ⟨-, next, _, _, ⟨_, _, -, -, offer⟩, setUp, -, rfl⟩ := returned
  have offered : TransportStep "client" before (offered result.localId before next) :=
    (TransportStep.refl before).keeps rfl (congrArg DtlsParameters.role
      (dtlsParameters_createOffer offer) :)
  exact offered.trans ((TransportStep.of_setsUp remoteDtlsRole_client setUp).keeps rfl rfl)

theorem DataSectionThrew.transportStep (threw : DataSectionThrew before after) :
    TransportStep "client" before after := by
  have offered {next : RemoteSdp} (associated : before.remoteSdp.recvSctpAssociation = .ok next) :
      TransportStep "client" before (Handler.emitSdp { before with remoteSdp := next }) :=
    (TransportStep.refl before).keeps rfl (congrArg DtlsParameters.role
      (dtlsParameters_recvSctpAssociation associated) :)
  cases threw with
  | offer => exact .refl _
  | answer associated => exact offered associated
  | connect associated threw =>
      exact (offered associated).trans (.of_connectThrew remoteDtlsRole_client threw)
  | describe associated setUp =>
      exact (offered associated).trans (.of_setsUp remoteDtlsRole_client setUp)

theorem DataChannelThrew.transportStep {helpers : Helpers} {dataChannelInit : DataChannelInit}
    {engine : Engine} (threw : DataChannelThrew helpers dataChannelInit engine before after) :
    TransportStep "client" before after := by
  cases threw with
  | invalid | notCreated => exact .refl _
  | negotiation _ _ _ threw => exact (TransportStep.refl before).trans threw.transportStep

theorem DataChannelReturned.transportStep {helpers : Helpers}
    {dataChannelInit : DataChannelInit} {engine : Engine} {channel : DataChannel}
    (returned : DataChannelReturned helpers dataChannelInit engine before channel after) :
    TransportStep "client" before after := by
  obtain ⟨-, -, -, ⟨-, rfl⟩ | ⟨-, next, _, associated, setUp, rfl⟩⟩ := returned
  · exact .refl _
  · have offered : TransportStep "client" before
        (Handler.emitSdp { Handler.advanceStreamId before with remoteSdp := next }) :=
      (TransportStep.refl before).keeps rfl (congrArg DtlsParameters.role
        (dtlsParameters_recvSctpAssociation associated) :)
    exact offered.trans ((TransportStep.of_setsUp remoteDtlsRole_client setUp).keeps rfl rfl)

theorem closed_transportStep {localId : String}
    (closes : ∃ transceiver closed, Handler.ClosesSection localId before transceiver closed ∧
      after = Handler.emitSdp { before with remoteSdp := closed }) :
    TransportStep "client" before after := by
  obtain ⟨_, _, ⟨_, -, -, closed⟩, rfl⟩ := closes
  exact (TransportStep.refl before).keeps rfl (congrArg DtlsParameters.role (dtlsParameters_closeMediaSection closed) :)

end Steps

/-- Every way out of every call of the receive handler is a `TransportStep` for `client`. -/
theorem call_transportStep (helpers : Helpers) (operation : Operation) (engine : Engine)
    (handler : Handler) :
    Method.wp (call helpers operation engine)
      (fun _ after => TransportStep "client" handler after)
      (fun _ after => TransportStep "client" handler after) handler := by
  have start : TransportStep "client" handler handler := .refl _
  cases operation with
  | receive id kind rtpParameters =>
      simp only [call, Method.wp_bind, Method.wp_pure]
      exact Method.wp_mono (fun _ _ returned => returned.transportStep)
        (fun _ _ threw => threw.transportStep)
        (receive_effect id kind rtpParameters engine handler)
  | receiveDataChannel dataChannelInit =>
      simp only [call, Method.wp_bind, Method.wp_pure]
      exact Method.wp_mono (fun _ _ returned => returned.transportStep)
        (fun _ _ threw => threw.transportStep)
        (receiveDataChannel_effect helpers dataChannelInit engine handler)
  | stopReceiving localId =>
      refine Method.wp_mono (fun _ _ returned => closed_transportStep returned)
        (fun _ _ threw => ?_) (stopReceiving_effect localId engine handler)
      rcases threw with rfl | closes
      · exact start
      · exact closed_transportStep closes
  | getReceiverStats localId =>
      refine Method.wp_mono (fun _ after same => ?_) (fun _ after same => ?_)
        (getReceiverStats_effect localId engine handler) <;>
      subst same <;> exact start
  | restartIce iceParameters =>
      have restarted : TransportStep "client" handler (restarted iceParameters handler) :=
        start.keeps rfl rfl
      refine Method.wp_mono (fun _ _ returned => ?_) (fun _ _ threw => ?_)
        (restartIce_effect iceParameters engine handler)
      · subst returned
        split
        · exact restarted.keeps rfl rfl
        · exact restarted
      · rw [threw.2]
        exact restarted.keeps rfl rfl

/-- Over every run of the receive handler, the transport moves by one `TransportStep`. -/
theorem transportStep_of_reachable {helpers : Helpers}
    {allowed : Handler → Operation × Engine → Prop} {start handler : Handler}
    (reached : Reachable (step helpers) allowed start handler) :
    TransportStep "client" start handler := by
  induction reached with
  | refl => exact .refl _
  | step call _ _ stepped inductionHypothesis =>
      exact inductionHypothesis.trans
        (Method.wp_state? (call_transportStep helpers call.1 call.2 _) stepped :)

end RecvHandler

/--
A new handler's transport is not ready, and its remote role and ICE
parameters are the constructor's.
-/
theorem Handler.create_transport {iceParameters : IceParameters}
    {iceCandidates : List IceCandidate} {dtlsParameters : DtlsParameters}
    {sctpParameters : Option SctpParameters} {handler : Handler}
    (created : Handler.create iceParameters iceCandidates dtlsParameters sctpParameters =
      .ok handler) :
    handler.transportReady = false ∧ handler.remoteRole = dtlsParameters.role ∧
      handler.remoteSdp.iceParameters = iceParameters := by
  obtain ⟨_, built, rfl⟩ := Handler.create_eq created
  obtain ⟨_, rfl⟩ := create_ok built
  exact ⟨rfl, rfl, rfl⟩

/--
From a new handler, a `TransportStep` leads to a remote role that is the
constructor's or the set-up's, and the set-up's once the transport is ready.
-/
theorem TransportStep.of_create {localDtlsRole : String} {iceParameters : IceParameters}
    {iceCandidates : List IceCandidate} {dtlsParameters : DtlsParameters}
    {sctpParameters : Option SctpParameters} {start handler : Handler}
    (created : Handler.create iceParameters iceCandidates dtlsParameters sctpParameters =
      .ok start)
    (stepped : TransportStep localDtlsRole start handler) :
    (handler.remoteRole = dtlsParameters.role ∨
        handler.remoteRole = remoteDtlsRole localDtlsRole) ∧
      (handler.transportReady → handler.remoteRole = remoteDtlsRole localDtlsRole) := by
  obtain ⟨notReady, initialRole, -⟩ := Handler.create_transport created
  exact stepped.role (.inl initialRole) fun ready => absurd ready (by rw [notReady]; decide)

/--
In every state either handler reaches from its constructor, by any calls
and those that throw included, the remote DTLS role is the constructor's
or the one its `SetupTransport` gives the remote side (`client` for the
send handler, which is DTLS `server`, and `server` for the receive
handler), and that one whenever the transport is ready; every later state
keeps the transport ready and that role.
-/
theorem handler_remote_role_fixed_once_ready (helpers : Helpers)
    {iceParameters : IceParameters} {iceCandidates : List IceCandidate}
    {dtlsParameters : DtlsParameters} {sctpParameters : Option SctpParameters} :
    (∀ {sendingRtpParametersByKind sendingRemoteRtpParametersByKind : StringMap RtpParameters}
        (allowed : SendHandler → SendHandler.Operation × Engine → Prop)
        {start handler : SendHandler},
        SendHandler.create iceParameters iceCandidates dtlsParameters sctpParameters
            sendingRtpParametersByKind sendingRemoteRtpParametersByKind = .ok start →
          Reachable (SendHandler.step helpers) allowed start handler →
          (handler.remoteSdp.dtlsParameters.role = dtlsParameters.role ∨
              handler.remoteSdp.dtlsParameters.role = "client") ∧
            (handler.transportReady → handler.remoteSdp.dtlsParameters.role = "client") ∧
            ∀ {later : SendHandler}, Reachable (SendHandler.step helpers) allowed handler later →
              handler.transportReady →
                later.transportReady ∧ later.remoteSdp.dtlsParameters.role = "client") ∧
      ∀ (allowed : Handler → RecvHandler.Operation × Engine → Prop) {start handler : Handler},
        Handler.create iceParameters iceCandidates dtlsParameters sctpParameters = .ok start →
          Reachable (RecvHandler.step helpers) allowed start handler →
          (handler.remoteSdp.dtlsParameters.role = dtlsParameters.role ∨
              handler.remoteSdp.dtlsParameters.role = "server") ∧
            (handler.transportReady → handler.remoteSdp.dtlsParameters.role = "server") ∧
            ∀ {later : Handler}, Reachable (RecvHandler.step helpers) allowed handler later →
              handler.transportReady →
                later.transportReady ∧ later.remoteSdp.dtlsParameters.role = "server" := by
  constructor
  · intro _ _ _ _ _ created reached
    obtain ⟨role, ready⟩ := TransportStep.of_create (SendHandler.create_toHandler created)
      (SendHandler.transportStep_of_reachable reached)
    refine ⟨role, ready, fun laterReached isReady => ?_⟩
    have next := SendHandler.transportStep_of_reachable laterReached
    exact ⟨next.ready isReady, (next.role role ready).2 (next.ready isReady)⟩
  · intro _ _ _ created reached
    obtain ⟨role, ready⟩ :=
      TransportStep.of_create created (RecvHandler.transportStep_of_reachable reached)
    refine ⟨role, ready, fun laterReached isReady => ?_⟩
    have next := RecvHandler.transportStep_of_reachable laterReached
    exact ⟨next.ready isReady, (next.role role ready).2 (next.ready isReady)⟩

theorem handler_remote_role_after_first_calls :
    (∃ after,
      SendHandler.step exampleHelpers exampleSendHandler
          (.send (some (exampleTrack "a")) [] none, exampleEngine "0" ["0"]) = some after ∧
        after.transportReady ∧ after.remoteSdp.dtlsParameters.role = "client") ∧
    ∃ after,
      RecvHandler.step exampleHelpers exampleHandler
          (.receive "track" "audio" exampleRtpParameters, exampleEngine "" ["0"]) =
          some after ∧
        after.transportReady ∧ after.remoteSdp.dtlsParameters.role = "server" :=
  ⟨⟨_, rfl, rfl, ((handler_remote_role_fixed_once_ready exampleHelpers).1 (fun _ _ => True)
      create_exampleSendHandler
      (.step (.send (some (exampleTrack "a")) [] none, exampleEngine "0" ["0"]) .refl
        trivial rfl)).2.1 rfl⟩,
    ⟨_, rfl, rfl, ((handler_remote_role_fixed_once_ready exampleHelpers).2 (fun _ _ => True)
      create_exampleHandler
      (.step (.receive "track" "audio" exampleRtpParameters, exampleEngine "" ["0"]) .refl
        trivial rfl)).2.1 rfl⟩⟩

/--
In every state either handler reaches from a constructor given a valid DTLS
role, by calls made one after another and those that throw included, the
remote SDP holds the ICE parameters of the last `RestartIce` (the
constructor's before any) and the remote DTLS role of the constructor or
of `SetupTransport`, that one once the transport is ready; every entry of
its `sdpObject["media"]` carries those ICE credentials and the setup its
section takes from that role.
-/
theorem handler_media_transport_current (helpers : Helpers)
    {iceParameters : IceParameters} {iceCandidates : List IceCandidate}
    {dtlsParameters : DtlsParameters} {sctpParameters : Option SctpParameters}
    (validRole : ValidDtlsRole dtlsParameters.role) :
    (∀ {sendingRtpParametersByKind sendingRemoteRtpParametersByKind : StringMap RtpParameters}
        {start handler : SendHandler} (calls : List (SendHandler.Operation × Engine)),
        SendHandler.create iceParameters iceCandidates dtlsParameters sctpParameters
            sendingRtpParametersByKind sendingRemoteRtpParametersByKind = .ok start →
          runCalls (SendHandler.step helpers) start calls = some handler →
          handler.remoteSdp.iceParameters = lastUpdate (·.1.iceRestart) iceParameters calls ∧
            (handler.remoteSdp.dtlsParameters.role = dtlsParameters.role ∨
              handler.remoteSdp.dtlsParameters.role = "client") ∧
            (handler.transportReady → handler.remoteSdp.dtlsParameters.role = "client") ∧
            EntriesCurrent handler.remoteSdp) ∧
      ∀ {start handler : Handler} (calls : List (RecvHandler.Operation × Engine)),
        Handler.create iceParameters iceCandidates dtlsParameters sctpParameters = .ok start →
          runCalls (RecvHandler.step helpers) start calls = some handler →
          handler.remoteSdp.iceParameters = lastUpdate (·.1.iceRestart) iceParameters calls ∧
            (handler.remoteSdp.dtlsParameters.role = dtlsParameters.role ∨
              handler.remoteSdp.dtlsParameters.role = "server") ∧
            (handler.transportReady → handler.remoteSdp.dtlsParameters.role = "server") ∧
            EntriesCurrent handler.remoteSdp := by
  constructor
  · intro _ _ _ _ calls created ran
    have created := SendHandler.create_toHandler created
    have reached := Reachable.runCalls calls .refl ran
    have ice := (SendHandler.movesRemoteSdp helpers).iceParameters_runCalls calls ran
    rw [(Handler.create_transport created).2.2] at ice
    obtain ⟨role, ready⟩ :=
      TransportStep.of_create created (SendHandler.transportStep_of_reachable reached)
    exact ⟨ice, role, ready, entries_current_of_reaches (Handler.create_remoteSdp created)
      validRole (SendHandler.reaches_of_reachable reached)⟩
  · intro _ _ calls created ran
    have reached := Reachable.runCalls calls .refl ran
    have ice := (RecvHandler.movesRemoteSdp helpers).iceParameters_runCalls calls ran
    rw [(Handler.create_transport created).2.2] at ice
    obtain ⟨role, ready⟩ :=
      TransportStep.of_create created (RecvHandler.transportStep_of_reachable reached)
    exact ⟨ice, role, ready, entries_current_of_reaches (Handler.create_remoteSdp created)
      validRole (RecvHandler.reaches_of_reachable reached)⟩

/-- New ICE parameters for the restart in the witness below. -/
def restartedIceParameters : IceParameters where
  usernameFragment := "ufrag2"
  password := "pwd2"
  iceLite := true

theorem handler_media_transport_current_after_first_calls :
    ValidDtlsRole exampleDtlsParameters.role ∧
      (∃ after,
        runCalls (SendHandler.step exampleHelpers) exampleSendHandler
            [(.send (some (exampleTrack "a")) [] none, exampleEngine "0" ["0"]),
              (.restartIce restartedIceParameters, exampleEngine "0" ["0"])] = some after ∧
          after.remoteSdp.iceParameters = restartedIceParameters ∧
          after.remoteSdp.dtlsParameters.role = "client" ∧ EntriesCurrent after.remoteSdp) ∧
      ∃ after,
        runCalls (RecvHandler.step exampleHelpers) exampleHandler
            [(.receive "track" "audio" exampleRtpParameters, exampleEngine "" ["0"]),
              (.restartIce restartedIceParameters, exampleEngine "" ["0"])] = some after ∧
          after.remoteSdp.iceParameters = restartedIceParameters ∧
          after.remoteSdp.dtlsParameters.role = "server" ∧ EntriesCurrent after.remoteSdp := by
  obtain ⟨ice, -, ready, entries⟩ := (handler_media_transport_current exampleHelpers
    (by decide)).1 [(.send (some (exampleTrack "a")) [] none, exampleEngine "0" ["0"]),
      (.restartIce restartedIceParameters, exampleEngine "0" ["0"])] create_exampleSendHandler rfl
  obtain ⟨ice', -, ready', entries'⟩ := (handler_media_transport_current exampleHelpers
    (by decide)).2 [(.receive "track" "audio" exampleRtpParameters, exampleEngine "" ["0"]),
      (.restartIce restartedIceParameters, exampleEngine "" ["0"])] create_exampleHandler rfl
  exact ⟨by decide, ⟨_, rfl, ice, ready rfl, entries⟩, ⟨_, rfl, ice', ready' rfl, entries'⟩⟩

end MediasoupClient
