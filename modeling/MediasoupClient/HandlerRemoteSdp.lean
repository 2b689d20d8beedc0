import MediasoupClient.RecvHandlerEffects
import MediasoupClient.SendHandlerEffects
import MediasoupClient.RemoteSdpBundle
import MediasoupClient.RemoteSdpTransport

namespace MediasoupClient

open Sdp Sdp.RemoteSdp

/-!
# The handlers drive the remote SDP through its methods

A handler changes `remoteSdp` only by calling the methods of
`Sdp::RemoteSdp`: `UpdateDtlsRole`, `UpdateIceParameters`, `CreateAnswer`,
`SendSctpAssociation`, `CreateOffer`, `RecvSctpAssociation`,
`CloseMediaSection` and `GetSdp`.  Each call of a handler, whether it
returns or throws, therefore moves the remote SDP along a run of those
methods whose `UpdateDtlsRole` calls are given a valid role (the handlers
give `client` or `server`), and every state a handler reaches from its
constructor holds a remote SDP that the `Sdp::RemoteSdp` object reaches
from its own constructor by such calls.  Only `RestartIce` calls
`UpdateIceParameters`, first of all it does, so after calls made one after
another the remote SDP holds the ICE parameters of the last `RestartIce`.
Every invariant of the remote SDP over those runs holds of the handlers'
remote SDP too: the BUNDLE group and the transport parameters of the
media entries are lifted here.
-/

namespace Sdp.RemoteSdp

/-- Runs compose. -/
theorem Reaches.trans {allowed : RemoteSdp → Operation → Prop} {start middle sdp : RemoteSdp}
    (first : Reaches allowed start middle) (second : Reaches allowed middle sdp) :
    Reaches allowed start sdp := by
  induction second with
  | refl => exact first
  | step operation _ allowedHere stepped inductionHypothesis =>
      exact .step operation inductionHypothesis allowedHere stepped

/-- A run whose calls are allowed is a run under any weaker restriction. -/
theorem Reaches.mono {allowed weaker : RemoteSdp → Operation → Prop}
    (implies : ∀ sdp operation, allowed sdp operation → weaker sdp operation)
    {start sdp : RemoteSdp} (reached : Reaches allowed start sdp) : Reaches weaker start sdp := by
  induction reached with
  | refl => exact .refl
  | step operation _ allowedHere stepped inductionHypothesis =>
      exact .step operation inductionHypothesis (implies _ _ allowedHere) stepped

/--
The methods a handler call makes once `RestartIce` has handed over its ICE
parameters: every method but `UpdateIceParameters`, and `UpdateDtlsRole`
with a valid role.
-/
def CallAdmissible (sdp : RemoteSdp) (operation : Operation) : Prop :=
  DtlsRoleAdmissible sdp operation ∧ operation.iceUpdate = none

/-- Such a run keeps the ICE parameters. -/
theorem Reaches.iceParameters_eq {start sdp : RemoteSdp}
    (reached : Reaches CallAdmissible start sdp) : sdp.iceParameters = start.iceParameters := by
  induction reached with
  | refl => rfl
  | step _ _ admissible stepped inductionHypothesis =>
      rw [(step_transport stepped).1, admissible.2, Option.getD_none, inductionHypothesis]

/-- The remote SDP once a call's `RestartIce` argument, if any, went to `UpdateIceParameters`. -/
def afterIceRestart (iceRestart : Option IceParameters) (sdp : RemoteSdp) : RemoteSdp :=
  match iceRestart with
  | some iceParameters => sdp.updateIceParameters iceParameters
  | none => sdp

/--
What one call does to the remote SDP: the ICE restart, if any, then a run
that keeps the ICE parameters; a run with valid roles that leaves the
restart's ICE parameters.
-/
theorem Reaches.of_afterIceRestart {iceRestart : Option IceParameters} {start sdp : RemoteSdp}
    (reached : Reaches CallAdmissible (afterIceRestart iceRestart start) sdp) :
    Reaches DtlsRoleAdmissible start sdp ∧
      sdp.iceParameters = iceRestart.getD start.iceParameters := by
  have run : Reaches DtlsRoleAdmissible (afterIceRestart iceRestart start) sdp :=
    reached.mono fun _ _ admissible => admissible.1
  cases iceRestart with
  | none => exact ⟨run, reached.iceParameters_eq⟩
  | some iceParameters =>
      exact ⟨(Reaches.step (.updateIceParameters iceParameters) .refl trivial rfl).trans run,
        reached.iceParameters_eq⟩

section Calls

variable {start sdp : RemoteSdp} (reached : Reaches CallAdmissible start sdp)
include reached

/-! One lemma per method a handler calls: the run goes on through it. -/

theorem Reaches.getSdp : Reaches CallAdmissible start sdp.getSdp.2 :=
  .step .getSdp reached ⟨trivial, rfl⟩ rfl

theorem Reaches.updateDtlsRole {role : String} (valid : ValidDtlsRole role) :
    Reaches CallAdmissible start (sdp.updateDtlsRole role) :=
  .step (.updateDtlsRole role) reached ⟨valid, rfl⟩ rfl

theorem Reaches.createAnswer {offerMediaObject : LocalMediaObject} {reuseMid : String}
    {offerRtpParameters answerRtpParameters : RtpParameters}
    {codecOptions : Option CodecOptions} {result : RemoteSdp × RtpParameters}
    (answered : sdp.createAnswer offerMediaObject reuseMid offerRtpParameters
      answerRtpParameters codecOptions = .ok result) :
    Reaches CallAdmissible start result.1 :=
  .step (.createAnswer offerMediaObject reuseMid offerRtpParameters answerRtpParameters
    codecOptions) reached ⟨trivial, rfl⟩ (by simp [RemoteSdp.step, answered, Except.map])

theorem Reaches.sendSctpAssociation {offerMediaObject : LocalMediaObject} {next : RemoteSdp}
    (associated : sdp.sendSctpAssociation offerMediaObject = .ok next) :
    Reaches CallAdmissible start next :=
  .step (.sendSctpAssociation offerMediaObject) reached ⟨trivial, rfl⟩ associated

theorem Reaches.recvSctpAssociation {next : RemoteSdp}
    (associated : sdp.recvSctpAssociation = .ok next) :
    Reaches CallAdmissible start next :=
  .step .recvSctpAssociation reached ⟨trivial, rfl⟩ associated

theorem Reaches.createOffer {mid kind streamId trackId : String}
    {offerRtpParameters : RtpParameters} {next : RemoteSdp}
    (offered : sdp.createOffer mid kind offerRtpParameters streamId trackId = .ok next) :
    Reaches CallAdmissible start next :=
  .step (.createOffer mid kind offerRtpParameters streamId trackId) reached ⟨trivial, rfl⟩ offered

theorem Reaches.closeMediaSection {mid : String} {next : RemoteSdp}
    (closed : sdp.closeMediaSection mid = .ok next) :
    Reaches CallAdmissible start next :=
  .step (.closeMediaSection mid) reached ⟨trivial, rfl⟩ closed

end Calls

end Sdp.RemoteSdp

section Steps

variable {start : RemoteSdp}

/-- The transport set-up moves the remote SDP on by `UpdateDtlsRole`, if at all. -/
theorem Handler.SetsUpTransport.reaches {role : String} (valid : ValidDtlsRole role)
    {before ready : Handler} (setUp : Handler.SetsUpTransport role before ready)
    (reached : Reaches CallAdmissible start before.remoteSdp) :
    Reaches CallAdmissible start ready.remoteSdp := by
  rcases setUp with ⟨-, rfl⟩ | ⟨-, rfl⟩
  · exact reached
  · exact reached.updateDtlsRole valid

theorem Handler.ConnectThrew.reaches {role : String} (valid : ValidDtlsRole role)
    {before after : Handler} (threw : Handler.ConnectThrew role before after)
    (reached : Reaches CallAdmissible start before.remoteSdp) :
    Reaches CallAdmissible start after.remoteSdp := by
  obtain ⟨-, rfl⟩ := threw
  exact reached.updateDtlsRole valid

end Steps

/-! ## Runs of handler calls -/

section Runs

variable {σ κ : Type} {step : σ → κ → Option σ} {remoteSdp : σ → RemoteSdp}
  {iceRestart : κ → Option IceParameters}

/--
Calls each of which moves the remote SDP, from where its ICE restart
leaves it, along a run that keeps the ICE parameters.
-/
def MovesRemoteSdp (step : σ → κ → Option σ) (remoteSdp : σ → RemoteSdp)
    (iceRestart : κ → Option IceParameters) : Prop :=
  ∀ state call next, step state call = some next →
    Reaches CallAdmissible (afterIceRestart (iceRestart call) (remoteSdp state)) (remoteSdp next)

variable (moves : MovesRemoteSdp step remoteSdp iceRestart)
include moves

/-- Over every run of such calls the remote SDP moves along a run of its own. -/
theorem MovesRemoteSdp.reaches {allowed : σ → κ → Prop} {start state : σ}
    (reached : Reachable step allowed start state) :
    Reaches DtlsRoleAdmissible (remoteSdp start) (remoteSdp state) := by
  induction reached with
  | refl => exact .refl
  | step call _ _ stepped inductionHypothesis =>
      exact inductionHypothesis.trans (moves _ call _ stepped).of_afterIceRestart.1

/-- After calls made one after another the remote SDP holds the last restart's ICE parameters. -/
theorem MovesRemoteSdp.iceParameters_runCalls : ∀ {state final : σ} (calls : List κ),
    runCalls step state calls = some final →
      (remoteSdp final).iceParameters =
        lastUpdate iceRestart (remoteSdp state).iceParameters calls
  | _, _, [], ran => by
      cases ran
      rfl
  | _, _, call :: rest, ran => by
      obtain ⟨next, stepped, ranRest⟩ := Option.bind_eq_some.mp ran
      rw [MovesRemoteSdp.iceParameters_runCalls rest ranRest,
        (moves _ call next stepped).of_afterIceRestart.2]
      rfl

end Runs

namespace SendHandler

section Steps

variable {start : RemoteSdp} {engine : Engine} {before after : Handler}
  (reached : Reaches CallAdmissible start before.remoteSdp)
include reached

theorem SendBaseThrew.reaches (threw : SendBaseThrew engine before after) :
    Reaches CallAdmissible start after.remoteSdp := by
  have client : ValidDtlsRole "client" := by decide
  cases threw with
  | keeps => exact reached
  | undone tried =>
      rcases tried with rfl | threw | setUp
      · exact reached
      · exact threw.reaches client reached
      · exact setUp.reaches client reached
  | named setUp => exact setUp.reaches client reached
  | answered setUp _ _ answers =>
      obtain ⟨_, _, _, _, _, _, -, -, answered⟩ := answers
      exact ((setUp.reaches client reached).createAnswer answered).getSdp

theorem SendBaseReturned.reaches {localId : String}
    (returned : SendBaseReturned engine before localId after) :
    Reaches CallAdmissible start after.remoteSdp := by
  obtain ⟨_, _, _, setUp, rfl, -, -, _, _, _, _, _, _, -, -, answered⟩ := returned
  exact ((setUp.reaches (by decide) reached).createAnswer answered).getSdp

theorem DataSectionThrew.reaches (threw : DataSectionThrew engine before after) :
    Reaches CallAdmissible start after.remoteSdp := by
  have client : ValidDtlsRole "client" := by decide
  cases threw with
  | offer => exact reached
  | connect threw => exact threw.reaches client reached
  | describe setUp => exact setUp.reaches client reached
  | remoteDescription setUp associates =>
      obtain ⟨_, _, -, -, associated⟩ := associates
      exact ((setUp.reaches client reached).sendSctpAssociation associated).getSdp

theorem DataChannelThrew.reaches {helpers : Helpers} {dataChannelInit : DataChannelInit}
    (threw : DataChannelThrew helpers dataChannelInit engine before after) :
    Reaches CallAdmissible start after.remoteSdp := by
  cases threw with
  | invalid | notCreated => exact reached
  | negotiation _ _ _ threw =>
      exact threw.reaches
        (show Reaches CallAdmissible start (Handler.advanceStreamId before).remoteSdp from reached)

theorem DataChannelReturned.reaches {helpers : Helpers} {dataChannelInit : DataChannelInit}
    {channel : DataChannel}
    (returned : DataChannelReturned helpers dataChannelInit engine before channel after) :
    Reaches CallAdmissible start after.remoteSdp := by
  obtain ⟨-, -, -, ⟨-, rfl⟩ | ⟨-, _, _, setUp, ⟨_, _, -, -, associated⟩, rfl⟩⟩ := returned
  · exact reached
  · exact ((setUp.reaches (by decide) reached).sendSctpAssociation associated).getSdp

theorem StopThrew.reaches {localId : String} (threw : StopThrew localId before after) :
    Reaches CallAdmissible start after.remoteSdp := by
  cases threw with
  | notFound | untracked => exact reached
  | closed closes =>
      obtain ⟨_, -, -, closed⟩ := closes
      exact reached.closeMediaSection closed
  | emitted closes =>
      obtain ⟨_, -, -, closed⟩ := closes
      exact (reached.closeMediaSection closed).getSdp

theorem StopReturned.reaches {localId : String} (returned : StopReturned localId before after) :
    Reaches CallAdmissible start after.remoteSdp := by
  obtain ⟨_, _, ⟨_, -, -, closed⟩, rfl⟩ := returned
  exact (reached.closeMediaSection closed).getSdp

end Steps

/-- The ICE parameters a call hands to `UpdateIceParameters`: those of `RestartIce`. -/
def Operation.iceRestart : Operation → Option IceParameters
  | .restartIce iceParameters => some iceParameters
  | _ => none

/--
Every way out of every call of the send handler moves the remote SDP, from
where the call's ICE restart leaves it, along a run that keeps the ICE
parameters.
-/
theorem call_reaches (helpers : Helpers) (operation : Operation) (engine : Engine)
    (handler : SendHandler) :
    Method.wp (call helpers operation engine)
      (fun _ after => Reaches CallAdmissible
        (afterIceRestart operation.iceRestart handler.remoteSdp) after.remoteSdp)
      (fun _ after => Reaches CallAdmissible
        (afterIceRestart operation.iceRestart handler.remoteSdp) after.remoteSdp) handler := by
  have start : Reaches CallAdmissible handler.remoteSdp handler.remoteSdp := .refl
  cases operation with
  | send track encodings codecOptions =>
      simp only [call, Method.wp_bind, Method.wp_pure]
      exact Method.wp_mono (fun _ _ returned => returned.reaches start)
        (fun _ _ threw => threw.reaches start)
        (send_base helpers track encodings codecOptions engine handler)
  | sendDataChannel dataChannelInit =>
      simp only [call, Method.wp_bind, Method.wp_pure]
      exact Method.wp_mono (fun _ _ returned => returned.reaches start)
        (fun _ _ threw => threw.reaches start)
        (sendDataChannel_effect helpers dataChannelInit engine handler)
  | stopSending localId =>
      exact Method.wp_mono (fun _ _ returned => returned.reaches start)
        (fun _ _ threw => threw.reaches start) (stopSending_effect localId engine handler)
  | replaceTrack | setMaxSpatialLayer | getSenderStats =>
      refine Method.wp_mono (fun _ _ edits => ?_) (fun _ _ edits => ?_)
        (call_editsSender helpers (by rfl) engine handler) <;>
      exact edits.members.1 ▸ start
  | restartIce iceParameters =>
      have restarted : Reaches CallAdmissible (restarted iceParameters handler.toHandler).remoteSdp
          (restarted iceParameters handler.toHandler).remoteSdp := .refl
      refine Method.wp_mono (fun _ after returned => ?_) (fun _ after threw => ?_)
        (restartIce_effect iceParameters engine handler)
      · rw [returned]
        split
        · exact restarted.getSdp
        · exact restarted
      · rcases threw.2 with same | same <;> rw [same]
        · exact restarted
        · exact restarted.getSdp

theorem movesRemoteSdp (helpers : Helpers) :
    MovesRemoteSdp (step helpers) (·.remoteSdp) (·.1.iceRestart) :=
  fun handler call _ stepped =>
    (Method.wp_state? (call_reaches helpers call.1 call.2 handler) stepped :)

/-- Over every run of the send handler the remote SDP moves along a run of its own. -/
theorem reaches_of_reachable {helpers : Helpers}
    {allowed : SendHandler → Operation × Engine → Prop} {start handler : SendHandler}
    (reached : Reachable (step helpers) allowed start handler) :
    Reaches DtlsRoleAdmissible start.remoteSdp handler.remoteSdp :=
  (movesRemoteSdp helpers).reaches reached

end SendHandler

namespace RecvHandler

section Steps

variable {start : RemoteSdp} {before after : Handler}
  (reached : Reaches CallAdmissible start before.remoteSdp)
include reached

theorem ReceiveThrew.reaches {id kind : String} {rtpParameters : RtpParameters}
    (threw : ReceiveThrew id kind rtpParameters before after) :
    Reaches CallAdmissible start after.remoteSdp := by
  have server : ValidDtlsRole "server" := by decide
  cases threw with
  | offer => exact reached
  | remoteDescription offers =>
      obtain ⟨_, _, -, -, offer⟩ := offers
      exact (reached.createOffer offer).getSdp
  | answer offers transport =>
      obtain ⟨_, _, -, -, offer⟩ := offers
      have offered := (reached.createOffer offer).getSdp
      rcases transport with rfl | threw | setUp
      · exact offered
      · exact threw.reaches server offered
      · exact setUp.reaches server offered

theorem ReceiveReturned.reaches {id kind : String} {rtpParameters : RtpParameters}
    {result : RecvResult} (returned : ReceiveReturned id kind rtpParameters before result after) :
    Reaches CallAdmissible start after.remoteSdp := by
  obtain ⟨chosen, _, _, _, ⟨_, _, -, -, offer⟩, setUp, -, rfl⟩ := returned
  exact setUp.reaches (by decide) (reached.createOffer offer).getSdp

theorem DataSectionThrew.reaches (threw : DataSectionThrew before after) :
    Reaches CallAdmissible start after.remoteSdp := by
  have server : ValidDtlsRole "server" := by decide
  cases threw with
  | offer => exact reached
  | answer associated => exact (reached.recvSctpAssociation associated).getSdp
  | connect associated threw =>
      exact threw.reaches server (reached.recvSctpAssociation associated).getSdp
  | describe associated setUp =>
      exact setUp.reaches server (reached.recvSctpAssociation associated).getSdp

theorem DataChannelThrew.reaches {helpers : Helpers} {dataChannelInit : DataChannelInit}
    {engine : Engine} (threw : DataChannelThrew helpers dataChannelInit engine before after) :
    Reaches CallAdmissible start after.remoteSdp := by
  cases threw with
  | invalid | notCreated => exact reached
  | negotiation _ _ _ threw =>
      exact threw.reaches
        (show Reaches CallAdmissible start (Handler.advanceStreamId before).remoteSdp from reached)

theorem DataChannelReturned.reaches {helpers : Helpers} {dataChannelInit : DataChannelInit}
    {engine : Engine} {channel : DataChannel}
    (returned : DataChannelReturned helpers dataChannelInit engine before channel after) :
    Reaches CallAdmissible start after.remoteSdp := by
  obtain ⟨-, -, -, ⟨-, rfl⟩ | ⟨-, _, _, associated, setUp, rfl⟩⟩ := returned
  · exact reached
  · exact setUp.reaches (by decide) (reached.recvSctpAssociation associated).getSdp

theorem closed_reaches {localId : String}
    (closes : ∃ transceiver closed, Handler.ClosesSection localId before transceiver closed ∧
      after = Handler.emitSdp { before with remoteSdp := closed }) :
    Reaches CallAdmissible start after.remoteSdp := by
  obtain ⟨_, _, ⟨_, -, -, closed⟩, rfl⟩ := closes
  exact (reached.closeMediaSection closed).getSdp

end Steps

/-- The ICE parameters a call hands to `UpdateIceParameters`: those of `RestartIce`. -/
def Operation.iceRestart : Operation → Option IceParameters
  | .restartIce iceParameters => some iceParameters
  | _ => none

/--
Every way out of every call of the receive handler moves the remote SDP,
from where the call's ICE restart leaves it, along a run that keeps the ICE
parameters.
-/
theorem call_reaches (helpers : Helpers) (operation : Operation) (engine : Engine)
    (handler : Handler) :
    Method.wp (call helpers operation engine)
      (fun _ after => Reaches CallAdmissible
        (afterIceRestart operation.iceRestart handler.remoteSdp) after.remoteSdp)
      (fun _ after => Reaches CallAdmissible
        (afterIceRestart operation.iceRestart handler.remoteSdp) after.remoteSdp) handler := by
  have start : Reaches CallAdmissible handler.remoteSdp handler.remoteSdp := .refl
  cases operation with
  | receive id kind rtpParameters =>
      simp only [call, Method.wp_bind, Method.wp_pure]
      exact Method.wp_mono (fun _ _ returned => returned.reaches start)
        (fun _ _ threw => threw.reaches start) (receive_effect id kind rtpParameters engine handler)
  | receiveDataChannel dataChannelInit =>
      simp only [call, Method.wp_bind, Method.wp_pure]
      exact Method.wp_mono (fun _ _ returned => returned.reaches start)
        (fun _ _ threw => threw.reaches start)
        (receiveDataChannel_effect helpers dataChannelInit engine handler)
  | stopReceiving localId =>
      refine Method.wp_mono (fun _ _ returned => closed_reaches start returned)
        (fun _ _ threw => ?_) (stopReceiving_effect localId engine handler)
      rcases threw with rfl | closes
      · exact start
      · exact closed_reaches start closes
  | getReceiverStats localId =>
      refine Method.wp_mono (fun _ after same => ?_) (fun _ after same => ?_)
        (getReceiverStats_effect localId engine handler) <;>
      subst same <;> exact start
  | restartIce iceParameters =>
      have restarted : Reaches CallAdmissible (restarted iceParameters handler).remoteSdp
          (restarted iceParameters handler).remoteSdp := .refl
      refine Method.wp_mono (fun _ _ returned => ?_) (fun _ _ threw => ?_)
        (restartIce_effect iceParameters engine handler)
      · subst returned
        split
        · exact restarted.getSdp
        · exact restarted
      · rw [threw.2]
        exact restarted.getSdp

theorem movesRemoteSdp (helpers : Helpers) :
    MovesRemoteSdp (step helpers) (·.remoteSdp) (·.1.iceRestart) :=
  fun handler call _ stepped =>
    (Method.wp_state? (call_reaches helpers call.1 call.2 handler) stepped :)

/-- Over every run of the receive handler the remote SDP moves along a run of its own. -/
theorem reaches_of_reachable {helpers : Helpers}
    {allowed : Handler → Operation × Engine → Prop} {start handler : Handler}
    (reached : Reachable (step helpers) allowed start handler) :
    Reaches DtlsRoleAdmissible start.remoteSdp handler.remoteSdp :=
  (movesRemoteSdp helpers).reaches reached

end RecvHandler

/--
Every state either handler reaches from its constructor, by any calls and
those that throw included, holds a remote SDP that `Sdp::RemoteSdp` reaches
by its own methods from the one its constructor built; so its BUNDLE group
lists exactly the mids of the open sections.
-/
theorem handler_remoteSdp_follows_its_methods (helpers : Helpers)
    {iceParameters : IceParameters} {iceCandidates : List IceCandidate}
    {dtlsParameters : DtlsParameters} {sctpParameters : Option SctpParameters} :
    (∀ {sendingRtpParametersByKind sendingRemoteRtpParametersByKind : StringMap RtpParameters}
        (allowed : SendHandler → SendHandler.Operation × Engine → Prop)
        {start handler : SendHandler},
        SendHandler.create iceParameters iceCandidates dtlsParameters sctpParameters
            sendingRtpParametersByKind sendingRemoteRtpParametersByKind = .ok start →
          Reachable (SendHandler.step helpers) allowed start handler →
          RemoteSdp.create iceParameters iceCandidates dtlsParameters sctpParameters =
              .ok start.remoteSdp ∧
            Reaches DtlsRoleAdmissible start.remoteSdp handler.remoteSdp ∧
            BundleGroupListsOpenSections handler.remoteSdp) ∧
      ∀ (allowed : Handler → RecvHandler.Operation × Engine → Prop) {start handler : Handler},
        Handler.create iceParameters iceCandidates dtlsParameters sctpParameters = .ok start →
          Reachable (RecvHandler.step helpers) allowed start handler →
          RemoteSdp.create iceParameters iceCandidates dtlsParameters sctpParameters =
              .ok start.remoteSdp ∧
            Reaches DtlsRoleAdmissible start.remoteSdp handler.remoteSdp ∧
            BundleGroupListsOpenSections handler.remoteSdp := by
  constructor
  · intro _ _ _ _ _ created reached
    have built := Handler.create_remoteSdp (SendHandler.create_toHandler created)
    have run := SendHandler.reaches_of_reachable reached
    exact ⟨built, run, bundle_of_reaches (bundle_create built) run⟩
  · intro _ _ _ created reached
    have built := Handler.create_remoteSdp created
    have run := RecvHandler.reaches_of_reachable reached
    exact ⟨built, run, bundle_of_reaches (bundle_create built) run⟩

theorem handler_remoteSdp_after_first_calls :
    (∃ after,
      SendHandler.step exampleHelpers exampleSendHandler
          (.send (some (exampleTrack "a")) [] none, exampleEngine "0" ["0"]) = some after ∧
        RemoteSdp.create exampleIceParameters [] exampleDtlsParameters none =
            .ok exampleSendHandler.remoteSdp ∧
          Reaches DtlsRoleAdmissible exampleSendHandler.remoteSdp after.remoteSdp ∧
          BundleGroupListsOpenSections after.remoteSdp) ∧
    ∃ after,
      RecvHandler.step exampleHelpers exampleHandler
          (.receive "track" "audio" exampleRtpParameters, exampleEngine "" ["0"]) =
          some after ∧
        RemoteSdp.create exampleIceParameters [] exampleDtlsParameters none =
            .ok exampleHandler.remoteSdp ∧
          Reaches DtlsRoleAdmissible exampleHandler.remoteSdp after.remoteSdp ∧
          BundleGroupListsOpenSections after.remoteSdp :=
  ⟨⟨_, rfl, (handler_remoteSdp_follows_its_methods exampleHelpers).1 (fun _ _ => True)
      create_exampleSendHandler
      (.step (.send (some (exampleTrack "a")) [] none, exampleEngine "0" ["0"]) .refl
        trivial rfl)⟩,
    ⟨_, rfl, (handler_remoteSdp_follows_its_methods exampleHelpers).2 (fun _ _ => True)
      create_exampleHandler
      (.step (.receive "track" "audio" exampleRtpParameters, exampleEngine "" ["0"]) .refl
        trivial rfl)⟩⟩

end MediasoupClient
