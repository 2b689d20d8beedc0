import MediasoupClient.RecvHandler
import MediasoupClient.RemoteSdpSlots

namespace MediasoupClient

open Sdp Sdp.RemoteSdp

/-!
# What each call of the receive handler does

Each method of `RecvHandler` is unfolded once here, through the `wp`
equations, and its ways out are named with the members each leaves.  The
facts the other modules prove about the receive handler (where its
sections go, what the transport becomes, which localIds it takes, what a
throw leaves) are read off these descriptions without unfolding a method
again.

`Receive` offers the localId's section on the remote side and emits the
SDP, appends the receiving transceiver the engine makes for it once the
engine has taken the offer, sets the transport up as DTLS `client`, and
maps the localId to that transceiver.
-/

/-- The section mids stay, or one section is appended. -/
def KeepsOrAppends (before after : RemoteSdp) : Prop :=
  sectionMids after.mediaSections = sectionMids before.mediaSections ∨
    ∃ mid, sectionMids after.mediaSections = sectionMids before.mediaSections ++ [mid]

namespace RecvHandler

/-! ## `Receive` -/

/-- The receiving transceiver the engine makes for the localId's section. -/
def receiver (localId : String) : Transceiver :=
  { mid := some localId, direction := .recvOnly, track := none, encodingsActive := [] }

/-- `CreateOffer` of the section for `Receive`'s localId, with the parameters' CNAME. -/
def OffersSection (id kind : String) (rtpParameters : RtpParameters) (before : Handler)
    (next : RemoteSdp) : Prop :=
  ∃ rtcp cname, rtpParameters.rtcp = some rtcp ∧ rtcp.cname = some cname ∧
    before.remoteSdp.createOffer (receiveLocalId rtpParameters before.mapMidTransceiver) kind
      rtpParameters cname id = .ok next

/-- The members once the engine has taken the offer: the SDP emitted, the receiver appended. -/
def offered (localId : String) (before : Handler) (next : RemoteSdp) : Handler :=
  { Handler.emitSdp { before with remoteSdp := next } with
    transceivers := before.transceivers ++ [receiver localId] }

/--
The ways `Receive` throws: `CreateOffer`; `SetRemoteDescription` once the
offer is emitted; or, once the receiver is appended, `CreateAnswer`,
`OnConnect`, `SetLocalDescription` or the missing transceiver.
-/
inductive ReceiveThrew (id kind : String) (rtpParameters : RtpParameters) (before : Handler) :
    Handler → Prop
  | offer : ReceiveThrew id kind rtpParameters before before
  | remoteDescription {next : RemoteSdp} : OffersSection id kind rtpParameters before next →
      ReceiveThrew id kind rtpParameters before (Handler.emitSdp { before with remoteSdp := next })
  | answer {next : RemoteSdp} {after : Handler} : OffersSection id kind rtpParameters before next →
      (after = offered (receiveLocalId rtpParameters before.mapMidTransceiver) before next ∨
        Handler.ConnectThrew "server"
          (offered (receiveLocalId rtpParameters before.mapMidTransceiver) before next) after ∨
        Handler.SetsUpTransport "server"
          (offered (receiveLocalId rtpParameters before.mapMidTransceiver) before next) after) →
      ReceiveThrew id kind rtpParameters before after

/--
`Receive`'s return: the section offered, the receiver appended, the
transport set up, and the localId mapped to the first transceiver with its
mid.
-/
def ReceiveReturned (id kind : String) (rtpParameters : RtpParameters) (before : Handler)
    (result : RecvResult) (after : Handler) : Prop :=
  result.localId = receiveLocalId rtpParameters before.mapMidTransceiver ∧
    ∃ next ready transceiver, OffersSection id kind rtpParameters before next ∧
      Handler.SetsUpTransport "server" (offered result.localId before next) ready ∧
      ready.transceivers.findIdx? (·.mid = some result.localId) = some transceiver ∧
      after = { ready with
        mapMidTransceiver := before.mapMidTransceiver.assign result.localId transceiver }

/-- Every way out of `Receive`. -/
theorem receive_effect (id kind : String) (rtpParameters : RtpParameters) (engine : Engine)
    (handler : Handler) :
    Method.wp (receive id kind rtpParameters engine)
      (fun result after => ReceiveReturned id kind rtpParameters handler result after)
      (fun _ after => ReceiveThrew id kind rtpParameters handler after) handler := by
  simp only [Method.wp_bind, ↓Method.wp_pure, ↓Method.wp_read, ↓Method.wp_modify,
    ↓Method.wp_throw, ↓Method.wp_undefined, ↓Method.wp_engine, ↓Method.wp_getOr,
    ↓Method.wp_remote, ↓Method.wp_ite, receive, Handler.updateRemoteSdp, Handler.getSdp,
    Handler.setupTransport, remoteDtlsRole_client]
  repeat' split
  all_goals try exact True.intro
  all_goals first
    | exact .offer
    | exact .remoteDescription ⟨_, _, ‹_›, ‹_›, ‹_›⟩
    | exact .answer ⟨_, _, ‹_›, ‹_›, ‹_›⟩ (.inl rfl)
    | exact .answer ⟨_, _, ‹_›, ‹_›, ‹_›⟩
        (.inr (.inl ⟨by simpa using ‹(!_) = true›, rfl⟩))
    | exact .answer ⟨_, _, ‹_›, ‹_›, ‹_›⟩
        (.inr (.inr (.inr ⟨by simpa using ‹(!_) = true›, rfl⟩)))
    | exact ⟨rfl, _, _, _, ⟨_, _, ‹_›, ‹_›, ‹_›⟩, .inr ⟨by simpa using ‹(!_) = true›, rfl⟩,
        ‹_›, rfl⟩
    | exact ⟨rfl, _, _, _, ⟨_, _, ‹_›, ‹_›, ‹_›⟩, .inl ⟨by simpa using ‹¬(!_) = true›, rfl⟩,
        ‹_›, rfl⟩

/-! ## The other methods -/

/--
Where the first `ReceiveDataChannel`'s negotiation threw:
`RecvSctpAssociation`; `SetRemoteDescription` or `CreateAnswer` once the
offer is emitted; `OnConnect`; or `SetLocalDescription`.
-/
inductive DataSectionThrew (before : Handler) : Handler → Prop
  | offer : DataSectionThrew before before
  | answer {next : RemoteSdp} : before.remoteSdp.recvSctpAssociation = .ok next →
      DataSectionThrew before (Handler.emitSdp { before with remoteSdp := next })
  | connect {next : RemoteSdp} {after : Handler} :
      before.remoteSdp.recvSctpAssociation = .ok next →
      Handler.ConnectThrew "server" (Handler.emitSdp { before with remoteSdp := next }) after →
      DataSectionThrew before after
  | describe {next : RemoteSdp} {ready : Handler} :
      before.remoteSdp.recvSctpAssociation = .ok next →
      Handler.SetsUpTransport "server" (Handler.emitSdp { before with remoteSdp := next }) ready →
      DataSectionThrew before ready

/--
The ways `ReceiveDataChannel` throws: the stream parameters do not
validate, `CreateDataChannel` throws, or, once the stream id is taken, the
first channel's negotiation throws.
-/
inductive DataChannelThrew (helpers : Helpers) (dataChannelInit : DataChannelInit)
    (engine : Engine) (before : Handler) : Handler → Prop
  | invalid {message : String} :
      helpers.validateSctpStreamParameters
          (recvSctpStreamParameters before.nextSendSctpStreamId dataChannelInit) =
        .error message →
      DataChannelThrew helpers dataChannelInit engine before before
  | notCreated {validated : SctpStreamParameters} {message : String} :
      helpers.validateSctpStreamParameters
          (recvSctpStreamParameters before.nextSendSctpStreamId dataChannelInit) =
        .ok validated →
      engine.createDataChannel
          (negotiatedDataChannelInit before.nextSendSctpStreamId dataChannelInit) =
        .error message →
      DataChannelThrew helpers dataChannelInit engine before before
  | negotiation {validated : SctpStreamParameters} {after : Handler} :
      helpers.validateSctpStreamParameters
          (recvSctpStreamParameters before.nextSendSctpStreamId dataChannelInit) =
        .ok validated →
      engine.createDataChannel
          (negotiatedDataChannelInit before.nextSendSctpStreamId dataChannelInit) = .ok () →
      before.hasDataChannelMediaSection = false →
      DataSectionThrew (Handler.advanceStreamId before) after →
      DataChannelThrew helpers dataChannelInit engine before after

/--
`ReceiveDataChannel`'s return: the validated stream parameters and the
stream id as localId, the id taken, and the data section offered by the
first channel.
-/
def DataChannelReturned (helpers : Helpers) (dataChannelInit : DataChannelInit)
    (engine : Engine) (before : Handler) (channel : DataChannel) (after : Handler) : Prop :=
  helpers.validateSctpStreamParameters
      (recvSctpStreamParameters before.nextSendSctpStreamId dataChannelInit) =
    .ok channel.sctpStreamParameters ∧
  channel.localId = toString before.nextSendSctpStreamId ∧
  engine.createDataChannel
      (negotiatedDataChannelInit before.nextSendSctpStreamId dataChannelInit) = .ok () ∧
  ((before.hasDataChannelMediaSection = true ∧ after = Handler.advanceStreamId before) ∨
    (before.hasDataChannelMediaSection = false ∧
      ∃ next ready,
        (Handler.advanceStreamId before).remoteSdp.recvSctpAssociation = .ok next ∧
        Handler.SetsUpTransport "server"
          (Handler.emitSdp { Handler.advanceStreamId before with remoteSdp := next }) ready ∧
        after = { ready with hasDataChannelMediaSection := true }))

/-- Every way out of `ReceiveDataChannel`. -/
theorem receiveDataChannel_effect (helpers : Helpers) (dataChannelInit : DataChannelInit)
    (engine : Engine) (handler : Handler) :
    Method.wp (receiveDataChannel helpers dataChannelInit engine)
      (fun channel after =>
        DataChannelReturned helpers dataChannelInit engine handler channel after)
      (fun _ after => DataChannelThrew helpers dataChannelInit engine handler after)
      handler := by
  simp only [Method.wp_bind, ↓Method.wp_pure, ↓Method.wp_read, ↓Method.wp_modify,
    ↓Method.wp_throw, ↓Method.wp_engine, ↓Method.wp_remote, ↓Method.wp_ite,
    receiveDataChannel, negotiateDataChannel, Handler.setupTransport, Handler.updateRemoteSdp,
    Handler.getSdp, remoteDtlsRole_client]
  repeat' split
  all_goals try exact True.intro
  all_goals first
    | exact .invalid ‹_›
    | exact .notCreated ‹_› ‹_›
    | exact ⟨‹_›, rfl, ‹_›, .inl
        ⟨by simpa using ‹¬(!handler.hasDataChannelMediaSection) = true›, rfl⟩⟩
    | exact ⟨‹_›, rfl, ‹_›, .inr
        ⟨by simpa using ‹(!handler.hasDataChannelMediaSection) = true›, _, _, ‹_›,
          .inr ⟨by simpa using ‹(!handler.transportReady) = true›, rfl⟩, rfl⟩⟩
    | exact ⟨‹_›, rfl, ‹_›, .inr
        ⟨by simpa using ‹(!handler.hasDataChannelMediaSection) = true›, _, _, ‹_›,
          .inl ⟨by simpa using ‹¬(!handler.transportReady) = true›, rfl⟩, rfl⟩⟩
    | refine .negotiation ‹_› ‹_›
        (by simpa using ‹(!handler.hasDataChannelMediaSection) = true›) ?_
      first
        | exact .offer
        | exact .answer ‹_›
        | exact .connect ‹_› ⟨by simpa using ‹(!handler.transportReady) = true›, rfl⟩
        | exact .describe ‹_› (.inr ⟨by simpa using ‹(!handler.transportReady) = true›, rfl⟩)

/--
Every way out of `StopReceiving`: no entry, no mid or a thrown close keep
the members; otherwise the section is closed and the SDP emitted, and the
engine's answer may still throw.
-/
theorem stopReceiving_effect (localId : String) (engine : Engine) (handler : Handler) :
    Method.wp (stopReceiving localId engine)
      (fun _ after => ∃ transceiver closed,
        Handler.ClosesSection localId handler transceiver closed ∧
          after = Handler.emitSdp { handler with remoteSdp := closed })
      (fun _ after => after = handler ∨ ∃ transceiver closed,
        Handler.ClosesSection localId handler transceiver closed ∧
          after = Handler.emitSdp { handler with remoteSdp := closed }) handler := by
  simp only [Method.wp_bind, ↓Method.wp_pure, ↓Method.wp_read, ↓Method.wp_modify,
    ↓Method.wp_throw, ↓Method.wp_undefined, ↓Method.wp_engine, ↓Method.wp_getOr,
    ↓Method.wp_remote, stopReceiving, Handler.findTransceiver, Handler.transceiverMid,
    Handler.updateRemoteSdp, Handler.answerRemoteOffer, Handler.getSdp]
  repeat' split
  all_goals first
    | exact True.intro
    | exact .inl trivial
    | exact .inr ⟨_, _, ⟨_, ‹_›, bind_mid_of_getElem? ‹_› ‹_›, ‹_›⟩, rfl⟩
    | exact ⟨_, _, ⟨_, ‹_›, bind_mid_of_getElem? ‹_› ‹_›, ‹_›⟩, rfl⟩

/-- `GetReceiverStats` changes nothing. -/
theorem getReceiverStats_effect (localId : String) (engine : Engine) (handler : Handler) :
    Method.wp (getReceiverStats localId engine) (fun _ after => after = handler)
      (fun _ after => after = handler) handler := by
  simp only [Method.wp_bind, ↓Method.wp_pure, ↓Method.wp_read, ↓Method.wp_throw,
    ↓Method.wp_engine, ↓Method.wp_getOr, getReceiverStats, Handler.findTransceiver]
  repeat' split
  all_goals exact True.intro

/-- The members once `RestartIce` has given the remote SDP the new ICE parameters. -/
def restarted (iceParameters : IceParameters) (handler : Handler) : Handler :=
  { handler with remoteSdp := handler.remoteSdp.updateIceParameters iceParameters }

/--
Every way out of `RestartIce`: the new ICE parameters, then, on a ready
transport, the SDP emitted and the engine's answer, which may throw.
-/
theorem restartIce_effect (iceParameters : IceParameters) (engine : Engine)
    (handler : Handler) :
    Method.wp (restartIce iceParameters engine)
      (fun _ after => after =
        if handler.transportReady then Handler.emitSdp (restarted iceParameters handler)
        else restarted iceParameters handler)
      (fun _ after => handler.transportReady = true ∧
        after = Handler.emitSdp (restarted iceParameters handler)) handler := by
  simp only [Method.wp_bind, ↓Method.wp_pure, ↓Method.wp_read, ↓Method.wp_modify,
    ↓Method.wp_engine, ↓Method.wp_ite, restartIce, Handler.answerRemoteOffer, Handler.getSdp]
  split
  next ready =>
    repeat' split
    all_goals first
      | exact ⟨ready, rfl⟩
      | rfl
  next => rfl

/-! ## What every call does -/

/--
A `Receive` that returns: the transceivers are kept and one is appended
with the localId as mid, the localId's entry names it, and the localId's
section is appended.
-/
def ReceiveAdds (before after : Handler) (localId : String) : Prop :=
  before.transceivers <+: after.transceivers ∧
    ∃ transceiver,
      after.mapMidTransceiver = before.mapMidTransceiver.assign localId transceiver ∧
        after.transceivers[transceiver]?.bind Transceiver.mid = some localId ∧
        sectionMids after.remoteSdp.mediaSections =
          sectionMids before.remoteSdp.mediaSections ++ [localId] ∧
        after.hasDataChannelMediaSection = before.hasDataChannelMediaSection

/-- A call that throws keeps the entries and the flag, and only adds transceivers and sections. -/
def ThrowEffect (before after : Handler) : Prop :=
  after.mapMidTransceiver = before.mapMidTransceiver ∧
    after.hasDataChannelMediaSection = before.hasDataChannelMediaSection ∧
    before.transceivers <+: after.transceivers ∧
    KeepsOrAppends before.remoteSdp after.remoteSdp

/-- What a call that returns does. -/
def CallEffect (before after : Handler) : Operation → Prop
  | .receive _ _ rtpParameters =>
      ReceiveAdds before after (receiveLocalId rtpParameters before.mapMidTransceiver)
  | .receiveDataChannel _ =>
      after.mapMidTransceiver = before.mapMidTransceiver ∧
        before.transceivers <+: after.transceivers ∧
        after.hasDataChannelMediaSection = true ∧
        sectionMids after.remoteSdp.mediaSections =
          sectionMids before.remoteSdp.mediaSections ++
            if before.hasDataChannelMediaSection then [] else ["datachannel"]
  | _ =>
      after.mapMidTransceiver = before.mapMidTransceiver ∧
        before.transceivers <+: after.transceivers ∧
        after.hasDataChannelMediaSection = before.hasDataChannelMediaSection ∧
        sectionMids after.remoteSdp.mediaSections = sectionMids before.remoteSdp.mediaSections

/-- The transceiver `findIdx?` finds for a mid has that mid. -/
theorem findIdx?_mid {transceivers : List Transceiver} {localId : String}
    {transceiver : Nat}
    (found : transceivers.findIdx? (·.mid = some localId) = some transceiver) :
    transceivers[transceiver]?.bind Transceiver.mid = some localId := by
  obtain ⟨inside, hasMid, _⟩ := List.findIdx?_eq_some_iff_getElem.mp found
  simpa [List.getElem?_eq_getElem inside] using hasMid

/-- Two states with the same entries, flag, transceivers and section mids. -/
structure SameMembers (before after : Handler) : Prop where
  entries : after.mapMidTransceiver = before.mapMidTransceiver
  flag : after.hasDataChannelMediaSection = before.hasDataChannelMediaSection
  transceivers : after.transceivers = before.transceivers
  mids : sectionMids after.remoteSdp.mediaSections = sectionMids before.remoteSdp.mediaSections

/-- The set-up keeps the members `ThrowEffect` and `CallEffect` look at. -/
theorem SameMembers.of_setsUp {role : String} {before after : Handler}
    (setUp : Handler.SetsUpTransport role before after) : SameMembers before after := by
  rcases setUp with ⟨-, rfl⟩ | ⟨-, rfl⟩
  · exact ⟨rfl, rfl, rfl, rfl⟩
  · exact ⟨rfl, rfl, rfl, sectionMids_updateDtlsRole _ _⟩

/-- So does a throw of `OnConnect`. -/
theorem SameMembers.of_connectThrew {role : String} {before after : Handler}
    (threw : Handler.ConnectThrew role before after) : SameMembers before after := by
  obtain ⟨-, rfl⟩ := threw
  exact ⟨rfl, rfl, rfl, sectionMids_updateDtlsRole _ _⟩

/-- What a throw may do, followed by steps that keep the members. -/
theorem ThrowEffect.of_same {before middle after : Handler} (effect : ThrowEffect before middle)
    (same : SameMembers middle after) : ThrowEffect before after :=
  ⟨same.entries.trans effect.1, same.flag.trans effect.2.1, same.transceivers ▸ effect.2.2.1,
    by rw [KeepsOrAppends, same.mids]; exact effect.2.2.2⟩

/-- A `Receive` that returns adds its transceiver, entry and section. -/
theorem ReceiveReturned.adds {id kind : String} {rtpParameters : RtpParameters}
    {before after : Handler} {result : RecvResult}
    (returned : ReceiveReturned id kind rtpParameters before result after) :
    ReceiveAdds before after result.localId := by
  obtain ⟨chosen, next, ready, transceiver, ⟨_, _, -, -, offer⟩, setUp, found, rfl⟩ := returned
  have same := SameMembers.of_setsUp setUp
  rw [← chosen] at offer
  refine ⟨same.transceivers ▸ List.prefix_append _ _, transceiver, rfl, findIdx?_mid found, ?_,
    same.flag⟩
  rw [same.mids]
  simpa [offered] using sectionMids_createOffer offer

/-- A `Receive` that throws keeps the entries and the flag. -/
theorem ReceiveThrew.throwEffect {id kind : String} {rtpParameters : RtpParameters}
    {before after : Handler} (threw : ReceiveThrew id kind rtpParameters before after) :
    ThrowEffect before after := by
  cases threw with
  | offer => exact ⟨rfl, rfl, List.prefix_refl _, .inl rfl⟩
  | remoteDescription offer =>
      obtain ⟨_, _, -, -, offer⟩ := offer
      exact ⟨rfl, rfl, List.prefix_refl _, .inr ⟨_, by simpa using sectionMids_createOffer offer⟩⟩
  | answer offer transport =>
      obtain ⟨_, _, -, -, offer⟩ := offer
      have kept : ThrowEffect before
          (offered (receiveLocalId rtpParameters before.mapMidTransceiver) before _) :=
        ⟨rfl, rfl, List.prefix_append _ _,
          .inr ⟨_, by simpa [offered] using sectionMids_createOffer offer⟩⟩
      rcases transport with rfl | threw | setUp
      · exact kept
      · exact kept.of_same (.of_connectThrew threw)
      · exact kept.of_same (.of_setsUp setUp)

/-- Every way out of every call, by operation: what a return does, and what a throw may do. -/
theorem call_summary (helpers : Helpers) (operation : Operation) (engine : Engine)
    (handler : Handler) :
    Method.wp (call helpers operation engine) (fun _ after => CallEffect handler after operation)
      (fun _ after => ThrowEffect handler after) handler := by
  cases operation with
  | receive id kind rtpParameters =>
      simp only [call, Method.wp_bind, Method.wp_pure]
      refine Method.wp_mono (fun result after returned => ?_) (fun _ _ threw => threw.throwEffect)
        (receive_effect id kind rtpParameters engine handler)
      have adds := returned.adds
      rwa [returned.1] at adds
  | receiveDataChannel dataChannelInit =>
      simp only [call, Method.wp_bind, Method.wp_pure]
      refine Method.wp_mono (fun _ _ returned => ?_) (fun _ _ threw => ?_)
        (receiveDataChannel_effect helpers dataChannelInit engine handler)
      · obtain ⟨-, -, -, ⟨hasDataChannel, rfl⟩ | ⟨noDataChannel, next, ready, associated, setUp,
          rfl⟩⟩ := returned
        · simp [CallEffect, hasDataChannel]
        · have same := SameMembers.of_setsUp setUp
          refine ⟨same.entries, same.transceivers ▸ List.prefix_refl _, rfl, ?_⟩
          simpa [noDataChannel, same.mids] using sectionMids_recvSctpAssociation associated
      · cases threw with
        | invalid | notCreated => exact ⟨rfl, rfl, List.prefix_refl _, .inl rfl⟩
        | negotiation _ _ _ threw =>
            have offered {next : RemoteSdp}
                (associated : (Handler.advanceStreamId handler).remoteSdp.recvSctpAssociation =
                  .ok next) :
                ThrowEffect handler
                  (Handler.emitSdp { Handler.advanceStreamId handler with remoteSdp := next }) :=
              ⟨rfl, rfl, List.prefix_refl _,
                .inr ⟨_, by simpa using sectionMids_recvSctpAssociation associated⟩⟩
            cases threw with
            | offer => exact ⟨rfl, rfl, List.prefix_refl _, .inl rfl⟩
            | answer associated => exact offered associated
            | connect associated threw => exact (offered associated).of_same (.of_connectThrew threw)
            | describe associated setUp => exact (offered associated).of_same (.of_setsUp setUp)
  | stopReceiving localId =>
      refine Method.wp_mono (fun _ _ returned => ?_) (fun _ _ threw => ?_)
        (stopReceiving_effect localId engine handler)
      · obtain ⟨_, _, ⟨_, -, -, closed⟩, rfl⟩ := returned
        exact ⟨rfl, List.prefix_refl _, rfl, by simpa using sectionMids_closeMediaSection closed⟩
      · rcases threw with rfl | ⟨_, _, ⟨_, -, -, closed⟩, rfl⟩
        · exact ⟨rfl, rfl, List.prefix_refl _, .inl rfl⟩
        · exact ⟨rfl, rfl, List.prefix_refl _,
            .inl (by simpa using sectionMids_closeMediaSection closed)⟩
  | getReceiverStats localId =>
      refine Method.wp_mono (fun _ _ same => ?_) (fun _ _ same => ?_)
        (getReceiverStats_effect localId engine handler) <;>
      subst same
      · exact ⟨rfl, List.prefix_refl _, rfl, rfl⟩
      · exact ⟨rfl, rfl, List.prefix_refl _, .inl rfl⟩
  | restartIce iceParameters =>
      refine Method.wp_mono (fun _ _ returned => ?_) (fun _ _ threw => ?_)
        (restartIce_effect iceParameters engine handler)
      · subst returned
        split <;> exact ⟨rfl, List.prefix_refl _, rfl, by simp [restarted]⟩
      · obtain ⟨-, rfl⟩ := threw
        exact ⟨rfl, rfl, List.prefix_refl _, .inl (by simp [restarted])⟩

/-- A call that completes does what it does when it returns, or what a throw may do. -/
theorem step_effect {helpers : Helpers} {handler after : Handler}
    {call : Operation × Engine} (stepped : step helpers handler call = some after) :
    CallEffect handler after call.1 ∨ ThrowEffect handler after := by
  have either : Method.wp (RecvHandler.call helpers call.1 call.2)
      (fun _ after => CallEffect handler after call.1 ∨ ThrowEffect handler after)
      (fun _ after => CallEffect handler after call.1 ∨ ThrowEffect handler after) handler :=
    Method.wp_mono (fun _ _ => Or.inl) (fun _ _ => Or.inr)
      (call_summary helpers call.1 call.2 handler)
  exact (Method.wp_state? either stepped :)

/-- What a call that returns does keeps the section mids or appends one section. -/
theorem CallEffect.keepsOrAppends {before after : Handler} {operation : Operation}
    (effect : CallEffect before after operation) :
    KeepsOrAppends before.remoteSdp after.remoteSdp := by
  cases operation with
  | receive =>
      obtain ⟨_, _, _, _, appended, _⟩ := effect
      exact .inr ⟨_, appended⟩
  | receiveDataChannel =>
      obtain ⟨_, _, _, appended⟩ := effect
      split at appended
      · exact .inl (appended.trans (List.append_nil _))
      · exact .inr ⟨_, appended⟩
  | stopReceiving | getReceiverStats | restartIce => exact .inl effect.2.2.2

end RecvHandler

end MediasoupClient
