import MediasoupClient.HandlerRemoteSdp
import MediasoupClient.HandlerTransport

namespace MediasoupClient

open Sdp Sdp.RemoteSdp

/-!
# The `a=setup` the handlers' remote SDPs carry

The send handler fabricates the remote side's answers (`CreateAnswer`,
`SendSctpAssociation`) and the receive handler its offers (`CreateOffer`,
`RecvSctpAssociation`); `CloseMediaSection` and the update methods keep each
section's subclass.  The send handler makes its first section only after
`SetupTransport` has returned, so whenever its remote SDP has a section the
transport is ready and the remote role is `client`.  With the entries of
`sdpObject["media"]` current, every entry of a send handler's remote SDP
carries `setup: active` and every entry of a receive handler's
`setup: actpass`.
-/

namespace Sdp.RemoteSdp

/-- Every section of the remote SDP is of one subclass. -/
def AllVariant (variant : Variant) (sdp : RemoteSdp) : Prop :=
  ∀ mediaSection ∈ sdp.mediaSections, mediaSection.variant = variant

section Variants

variable {variant : Variant} {sdp : RemoteSdp}

@[simp] theorem allVariant_getSdp : AllVariant variant sdp.getSdp.2 ↔ AllVariant variant sdp :=
  Iff.rfl

@[simp] theorem allVariant_updateIceParameters (iceParameters : IceParameters) :
    AllVariant variant (sdp.updateIceParameters iceParameters) ↔ AllVariant variant sdp := by
  simp [AllVariant, updateIceParameters]

@[simp] theorem allVariant_updateDtlsRole (role : String) :
    AllVariant variant (sdp.updateDtlsRole role) ↔ AllVariant variant sdp := by
  simp [AllVariant, updateDtlsRole]

@[simp] theorem mediaSections_updateDtlsRole_eq_nil (role : String) :
    (sdp.updateDtlsRole role).mediaSections = [] ↔ sdp.mediaSections = [] := by
  simp [updateDtlsRole]

@[simp] theorem mediaSections_getSdp : sdp.getSdp.2.mediaSections = sdp.mediaSections :=
  rfl

theorem AllVariant.addMediaSection (all : AllVariant variant sdp) {newMediaSection : MediaSection}
    (added : newMediaSection.variant = variant) :
    AllVariant variant (sdp.addMediaSection newMediaSection) := by
  intro mediaSection member
  simp only [RemoteSdp.addMediaSection, regenerateBundleMids, List.mem_append,
    List.mem_singleton] at member
  rcases member with old | rfl
  · exact all _ old
  · exact added

theorem AllVariant.set (all : AllVariant variant sdp) {idx : Nat} {newMediaSection : MediaSection}
    (added : newMediaSection.variant = variant) :
    ∀ mediaSection ∈ sdp.mediaSections.set idx newMediaSection,
      mediaSection.variant = variant := by
  intro mediaSection member
  rcases List.mem_or_eq_of_mem_set member with old | rfl
  · exact all _ old
  · exact added

theorem AllVariant.createAnswer (all : AllVariant .answer sdp)
    {offerMediaObject : LocalMediaObject} {reuseMid : String}
    {offerRtpParameters answerRtpParameters : RtpParameters}
    {codecOptions : Option CodecOptions} {result : RemoteSdp × RtpParameters}
    (answered : sdp.createAnswer offerMediaObject reuseMid offerRtpParameters
      answerRtpParameters codecOptions = .ok result) :
    AllVariant .answer result.1 := by
  obtain ⟨_, constructed, _, ⟨_, added⟩ | ⟨reuse, replaced⟩⟩ := createAnswer_ok answered
  · rw [added]
    exact all.addMediaSection (answerMediaSection_spec constructed).1
  · obtain ⟨_, _, replacedEq⟩ := replaceMediaSection_ok reuse replaced
    rw [replacedEq]
    exact all.set (answerMediaSection_spec constructed).1

theorem AllVariant.sendSctpAssociation (all : AllVariant .answer sdp)
    {offerMediaObject : LocalMediaObject} {next : RemoteSdp}
    (associated : sdp.sendSctpAssociation offerMediaObject = .ok next) :
    AllVariant .answer next := by
  obtain ⟨_, constructed, rfl⟩ := sendSctpAssociation_ok associated
  exact all.addMediaSection (answerMediaSection_spec constructed).1

theorem AllVariant.createOffer (all : AllVariant .offer sdp) {mid kind streamId trackId : String}
    {offerRtpParameters : RtpParameters} {next : RemoteSdp}
    (offered : sdp.createOffer mid kind offerRtpParameters streamId trackId = .ok next) :
    AllVariant .offer next := by
  obtain ⟨_, constructed, rfl⟩ := createOffer_ok offered
  exact all.addMediaSection (offerMediaSection_spec constructed).1

theorem AllVariant.recvSctpAssociation (all : AllVariant .offer sdp) {next : RemoteSdp}
    (associated : sdp.recvSctpAssociation = .ok next) : AllVariant .offer next := by
  obtain ⟨_, constructed, rfl⟩ := recvSctpAssociation_ok associated
  exact all.addMediaSection (offerMediaSection_spec constructed).1

theorem AllVariant.closeMediaSection (all : AllVariant variant sdp) {mid : String}
    {next : RemoteSdp} (closed : sdp.closeMediaSection mid = .ok next) :
    AllVariant variant next := by
  obtain ⟨mediaSection, found, rfl⟩ := closeMediaSection_ok closed
  have kept : (sdp.closedFor mid mediaSection).variant = variant := by
    unfold closedFor
    split <;> simpa using all _ (List.getElem?_mem found)
  exact all.set kept

/-- `CloseMediaSection` completes only on a remote SDP with a section. -/
theorem mediaSections_ne_nil_of_closeMediaSection {mid : String} {next : RemoteSdp}
    (closed : sdp.closeMediaSection mid = .ok next) : sdp.mediaSections ≠ [] := by
  intro empty
  simp [RemoteSdp.closeMediaSection, empty] at closed

@[simp] theorem mediaSections_updateIceParameters_eq_nil (iceParameters : IceParameters) :
    (sdp.updateIceParameters iceParameters).mediaSections = [] ↔ sdp.mediaSections = [] := by
  simp [updateIceParameters]

end Variants

end Sdp.RemoteSdp

/-- A send handler's remote SDP holds answers only, and no section before the transport is ready. -/
def SendSectionsReady (handler : Handler) : Prop :=
  AllVariant .answer handler.remoteSdp ∧
    (handler.transportReady = false → handler.remoteSdp.mediaSections = [])

namespace SendSectionsReady

/-- `GetSdp` keeps the sections. -/
theorem emitSdp_iff {handler : Handler} :
    SendSectionsReady (Handler.emitSdp handler) ↔ SendSectionsReady handler :=
  Iff.rfl

/-- A section made on a ready transport. -/
theorem of_added {after : Handler} {next : RemoteSdp} (answers : AllVariant .answer next)
    (isReady : after.transportReady = true) (sdp : after.remoteSdp = next.getSdp.2) :
    SendSectionsReady after := by
  rw [SendSectionsReady, sdp, isReady]
  exact ⟨answers, fun notReady => absurd notReady (by simp)⟩

variable {before after : Handler} (ready : SendSectionsReady before)
include ready

/-- A section closed. -/
theorem of_closed {mid : String} {closed : RemoteSdp}
    (closing : before.remoteSdp.closeMediaSection mid = .ok closed)
    (sameReady : after.transportReady = before.transportReady) (sdp : after.remoteSdp = closed) :
    SendSectionsReady after := by
  rw [SendSectionsReady, sdp, sameReady]
  exact ⟨ready.1.closeMediaSection closing, fun notReady =>
    absurd (ready.2 notReady) (mediaSections_ne_nil_of_closeMediaSection closing)⟩

/-- Steps that keep the remote SDP and the flag. -/
theorem of_same (sameSdp : after.remoteSdp = before.remoteSdp)
    (sameReady : after.transportReady = before.transportReady) : SendSectionsReady after := by
  rw [SendSectionsReady, sameSdp, sameReady]
  exact ready

theorem of_setsUp {role : String} (setUp : Handler.SetsUpTransport role before after) :
    SendSectionsReady after := by
  rcases setUp with ⟨-, rfl⟩ | ⟨-, rfl⟩
  · exact ready
  · exact ⟨(allVariant_updateDtlsRole _).2 ready.1, fun notReady => absurd notReady (by simp)⟩

theorem of_connectThrew {role : String} (threw : Handler.ConnectThrew role before after) :
    SendSectionsReady after := by
  obtain ⟨-, rfl⟩ := threw
  exact ⟨(allVariant_updateDtlsRole _).2 ready.1, fun notReady => by simpa using ready.2 notReady⟩

end SendSectionsReady

namespace SendHandler

section Steps

variable {engine : Engine} {before after : Handler} (ready : SendSectionsReady before)
include ready

theorem SendBaseThrew.sectionsReady (threw : SendBaseThrew engine before after) :
    SendSectionsReady after := by
  cases threw with
  | keeps => exact ready
  | undone tried =>
      rcases tried with rfl | threw | setUp
      · exact ready.of_same rfl rfl
      · exact (ready.of_connectThrew threw).of_same rfl rfl
      · exact (ready.of_setsUp setUp).of_same rfl rfl
  | named setUp => exact (ready.of_setsUp setUp).of_same rfl rfl
  | answered setUp _ _ answers =>
      obtain ⟨_, _, _, _, _, _, -, -, answered⟩ := answers
      exact .of_added ((ready.of_setsUp setUp).1.createAnswer answered) setUp.members.1 rfl

theorem SendBaseReturned.sectionsReady {localId : String}
    (returned : SendBaseReturned engine before localId after) : SendSectionsReady after := by
  obtain ⟨_, _, _, setUp, rfl, -, -, _, _, _, _, _, _, -, -, answered⟩ := returned
  exact .of_added ((ready.of_setsUp setUp).1.createAnswer answered) setUp.members.1 rfl

theorem DataSectionThrew.sectionsReady (threw : DataSectionThrew engine before after) :
    SendSectionsReady after := by
  cases threw with
  | offer => exact ready
  | connect threw => exact ready.of_connectThrew threw
  | describe setUp => exact ready.of_setsUp setUp
  | remoteDescription setUp associates =>
      obtain ⟨_, _, -, -, associated⟩ := associates
      exact .of_added ((ready.of_setsUp setUp).1.sendSctpAssociation associated)
        setUp.members.1 rfl

theorem DataChannelThrew.sectionsReady {helpers : Helpers} {dataChannelInit : DataChannelInit}
    (threw : DataChannelThrew helpers dataChannelInit engine before after) :
    SendSectionsReady after := by
  cases threw with
  | invalid | notCreated => exact ready
  | negotiation _ _ _ threw =>
      have advanced : SendSectionsReady (Handler.advanceStreamId before) := ready.of_same rfl rfl
      exact threw.sectionsReady advanced

theorem DataChannelReturned.sectionsReady {helpers : Helpers}
    {dataChannelInit : DataChannelInit} {channel : DataChannel}
    (returned : DataChannelReturned helpers dataChannelInit engine before channel after) :
    SendSectionsReady after := by
  obtain ⟨-, -, -, ⟨-, rfl⟩ | ⟨-, _, _, setUp, ⟨_, _, -, -, associated⟩, rfl⟩⟩ := returned
  · exact ready.of_same rfl rfl
  · have advanced : SendSectionsReady (Handler.advanceStreamId before) := ready.of_same rfl rfl
    exact .of_added ((advanced.of_setsUp setUp).1.sendSctpAssociation associated)
      setUp.members.1 rfl

theorem StopThrew.sectionsReady {localId : String} (threw : StopThrew localId before after) :
    SendSectionsReady after := by
  cases threw with
  | notFound => exact ready
  | untracked => exact ready.of_same rfl rfl
  | closed closes =>
      obtain ⟨_, -, -, closing⟩ := closes
      exact ready.of_closed closing rfl rfl
  | emitted closes =>
      obtain ⟨_, -, -, closing⟩ := closes
      exact SendSectionsReady.emitSdp_iff.2 (ready.of_closed closing rfl rfl)

theorem StopReturned.sectionsReady {localId : String}
    (returned : StopReturned localId before after) : SendSectionsReady after := by
  obtain ⟨_, _, ⟨_, -, -, closing⟩, rfl⟩ := returned
  exact SendSectionsReady.emitSdp_iff.2 (ready.of_closed closing rfl rfl)

end Steps

/--
Every call of the send handler keeps `SendSectionsReady`: `Send` and
`SendDataChannel` set the transport up before they make a section, and
`StopSending` closes a section that exists.
-/
theorem call_sectionsReady (helpers : Helpers) (operation : Operation) (engine : Engine)
    (handler : SendHandler) (ready : SendSectionsReady handler.toHandler) :
    Method.wp (call helpers operation engine)
      (fun _ after => SendSectionsReady after.toHandler)
      (fun _ after => SendSectionsReady after.toHandler) handler := by
  cases operation with
  | send track encodings codecOptions =>
      simp only [call, Method.wp_bind, Method.wp_pure]
      exact Method.wp_mono (fun _ _ returned => returned.sectionsReady ready)
        (fun _ _ threw => threw.sectionsReady ready)
        (send_base helpers track encodings codecOptions engine handler)
  | sendDataChannel dataChannelInit =>
      simp only [call, Method.wp_bind, Method.wp_pure]
      exact Method.wp_mono (fun _ _ returned => returned.sectionsReady ready)
        (fun _ _ threw => threw.sectionsReady ready)
        (sendDataChannel_effect helpers dataChannelInit engine handler)
  | stopSending localId =>
      exact Method.wp_mono (fun _ _ returned => returned.sectionsReady ready)
        (fun _ _ threw => threw.sectionsReady ready) (stopSending_effect localId engine handler)
  | replaceTrack | setMaxSpatialLayer | getSenderStats =>
      refine Method.wp_mono (fun _ _ edits => ?_) (fun _ _ edits => ?_)
        (call_editsSender helpers (by rfl) engine handler) <;>
      exact ready.of_same edits.members.1 edits.members.2.1
  | restartIce iceParameters =>
      have restarted : SendSectionsReady (restarted iceParameters handler.toHandler) :=
        ⟨(allVariant_updateIceParameters _).2 ready.1, fun notReady => by
          simpa [restarted] using ready.2 notReady⟩
      refine Method.wp_mono (fun _ after returned => ?_) (fun _ after threw => ?_)
        (restartIce_effect iceParameters engine handler)
      · rw [returned]
        split
        · exact SendSectionsReady.emitSdp_iff.2 restarted
        · exact restarted
      · rcases threw.2 with same | same <;> rw [same]
        · exact restarted
        · exact SendSectionsReady.emitSdp_iff.2 restarted

/-- Over every run from a state that satisfies it, the send handler keeps `SendSectionsReady`. -/
theorem sectionsReady_of_reachable {helpers : Helpers}
    {allowed : SendHandler → Operation × Engine → Prop} {start handler : SendHandler}
    (ready : SendSectionsReady start.toHandler)
    (reached : Reachable (step helpers) allowed start handler) :
    SendSectionsReady handler.toHandler := by
  induction reached with
  | refl => exact ready
  | step call _ _ stepped inductionHypothesis =>
      exact (Method.wp_state? (call_sectionsReady helpers call.1 call.2 _ inductionHypothesis)
        stepped :)

end SendHandler

/-- A new handler's remote SDP has no section. -/
theorem Handler.create_sendSectionsReady {iceParameters : IceParameters}
    {iceCandidates : List IceCandidate} {dtlsParameters : DtlsParameters}
    {sctpParameters : Option SctpParameters} {handler : Handler}
    (created : Handler.create iceParameters iceCandidates dtlsParameters sctpParameters =
      .ok handler) :
    SendSectionsReady handler ∧ AllVariant .offer handler.remoteSdp := by
  obtain ⟨_, built, rfl⟩ := Handler.create_eq created
  obtain ⟨_, rfl⟩ := create_ok built
  exact ⟨⟨fun _ member => absurd member (List.not_mem_nil _), fun _ => rfl⟩,
    fun _ member => absurd member (List.not_mem_nil _)⟩

namespace RecvHandler

section Steps

variable {before after : Handler} (offers : AllVariant .offer before.remoteSdp)
include offers

theorem setsUp_allOffers {role : String} (setUp : Handler.SetsUpTransport role before after) :
    AllVariant .offer after.remoteSdp := by
  rcases setUp with ⟨-, rfl⟩ | ⟨-, rfl⟩
  · exact offers
  · exact (allVariant_updateDtlsRole _).2 offers

theorem connectThrew_allOffers {role : String} (threw : Handler.ConnectThrew role before after) :
    AllVariant .offer after.remoteSdp := by
  obtain ⟨-, rfl⟩ := threw
  exact (allVariant_updateDtlsRole _).2 offers

theorem ReceiveThrew.allOffers {id kind : String} {rtpParameters : RtpParameters}
    (threw : ReceiveThrew id kind rtpParameters before after) :
    AllVariant .offer after.remoteSdp := by
  cases threw with
  | offer => exact offers
  | remoteDescription offers' =>
      obtain ⟨_, _, -, -, offer⟩ := offers'
      exact (offers.createOffer offer :)
  | answer offers' transport =>
      obtain ⟨_, _, -, -, offer⟩ := offers'
      have offered : AllVariant .offer
          (offered (receiveLocalId rtpParameters before.mapMidTransceiver) before _).remoteSdp :=
        (offers.createOffer offer :)
      rcases transport with rfl | threw | setUp
      · exact offered
      · exact connectThrew_allOffers offered threw
      · exact setsUp_allOffers offered setUp

theorem ReceiveReturned.allOffers {id kind : String} {rtpParameters : RtpParameters}
    {result : RecvResult} (returned : ReceiveReturned id kind rtpParameters before result after) :
    AllVariant .offer after.remoteSdp := by
  obtain ⟨-, next, _, _, ⟨_, _, -, -, offer⟩, setUp, -, rfl⟩ := returned
  have offered : AllVariant .offer (offered result.localId before next).remoteSdp :=
    (offers.createOffer offer :)
  exact (setsUp_allOffers offered setUp :)

end Steps

/-- The receive handler's remote SDP gains offers only. -/
theorem call_allOffers (helpers : Helpers) (operation : Operation) (engine : Engine)
    (handler : Handler) (offers : AllVariant .offer handler.remoteSdp) :
    Method.wp (call helpers operation engine)
      (fun _ after => AllVariant .offer after.remoteSdp)
      (fun _ after => AllVariant .offer after.remoteSdp) handler := by
  cases operation with
  | receive id kind rtpParameters =>
      simp only [call, Method.wp_bind, Method.wp_pure]
      exact Method.wp_mono (fun _ _ returned => returned.allOffers offers)
        (fun _ _ threw => threw.allOffers offers)
        (receive_effect id kind rtpParameters engine handler)
  | receiveDataChannel dataChannelInit =>
      simp only [call, Method.wp_bind, Method.wp_pure]
      have associated {next : RemoteSdp} (association : handler.remoteSdp.recvSctpAssociation =
          .ok next) : AllVariant .offer next := offers.recvSctpAssociation association
      refine Method.wp_mono (fun _ _ returned => ?_) (fun _ _ threw => ?_)
        (receiveDataChannel_effect helpers dataChannelInit engine handler)
      · obtain ⟨-, -, -, ⟨-, rfl⟩ | ⟨-, _, _, association, setUp, rfl⟩⟩ := returned
        · exact offers
        · exact (setsUp_allOffers (associated association :) setUp :)
      · cases threw with
        | invalid | notCreated => exact offers
        | negotiation _ _ _ threw =>
            cases threw with
            | offer => exact offers
            | answer association => exact (associated association :)
            | connect association threw => exact (connectThrew_allOffers (associated association :) threw :)
            | describe association setUp => exact (setsUp_allOffers (associated association :) setUp :)
  | stopReceiving localId =>
      have closed {after : Handler} (closes : ∃ transceiver closed,
          Handler.ClosesSection localId handler transceiver closed ∧
            after = Handler.emitSdp { handler with remoteSdp := closed }) :
          AllVariant .offer after.remoteSdp := by
        obtain ⟨_, _, ⟨_, -, -, closing⟩, rfl⟩ := closes
        exact (offers.closeMediaSection closing :)
      refine Method.wp_mono (fun _ _ returned => closed returned) (fun _ _ threw => ?_)
        (stopReceiving_effect localId engine handler)
      rcases threw with rfl | closes
      · exact offers
      · exact closed closes
  | getReceiverStats localId =>
      refine Method.wp_mono (fun _ after same => ?_) (fun _ after same => ?_)
        (getReceiverStats_effect localId engine handler) <;>
      subst same <;> exact offers
  | restartIce iceParameters =>
      have restarted : AllVariant .offer (restarted iceParameters handler).remoteSdp :=
        (allVariant_updateIceParameters _).2 offers
      refine Method.wp_mono (fun _ _ returned => ?_) (fun _ _ threw => ?_)
        (restartIce_effect iceParameters engine handler)
      · subst returned
        split
        · exact restarted
        · exact restarted
      · rw [threw.2]
        exact restarted

/-- Over every run from a remote SDP of offers, the receive handler's holds offers only. -/
theorem allOffers_of_reachable {helpers : Helpers}
    {allowed : Handler → Operation × Engine → Prop} {start handler : Handler}
    (offers : AllVariant .offer start.remoteSdp)
    (reached : Reachable (step helpers) allowed start handler) :
    AllVariant .offer handler.remoteSdp := by
  induction reached with
  | refl => exact offers
  | step call _ _ stepped inductionHypothesis =>
      exact (Method.wp_state? (call_allOffers helpers call.1 call.2 _ inductionHypothesis)
        stepped :)

end RecvHandler

/-- Every entry of `sdpObject["media"]` stands at a section whose subclass and the role decide its setup. -/
theorem entry_setup_of_reaches {iceParameters : IceParameters}
    {iceCandidates : List IceCandidate} {dtlsParameters : DtlsParameters}
    {sctpParameters : Option SctpParameters} {start sdp : RemoteSdp}
    (created :
      RemoteSdp.create iceParameters iceCandidates dtlsParameters sctpParameters = .ok start)
    (validRole : ValidDtlsRole dtlsParameters.role)
    (reached : Reaches DtlsRoleAdmissible start sdp) {entry : MediaObject}
    (member : entry ∈ sdp.sdpObject.media) :
    ∃ mediaSection ∈ sdp.mediaSections,
      (mediaSection.variant = .answer →
        (sdp.dtlsParameters.role = "client" ∧ entry.setup = some "active") ∨
        (sdp.dtlsParameters.role = "server" ∧ entry.setup = some "passive") ∨
        (sdp.dtlsParameters.role = "auto" ∧ entry.setup = some "actpass")) ∧
      (mediaSection.variant = .offer → entry.setup = some "actpass") := by
  obtain ⟨idx, atIdx⟩ := List.mem_iff_getElem?.mp member
  obtain ⟨mediaSection, found, -⟩ :=
    forall₂_getElem? (media_copies_of_reaches created reached) atIdx
  exact ⟨mediaSection, List.getElem?_mem found,
    (entries_current_of_reaches created validRole reached).2 idx entry mediaSection atIdx found⟩

/--
In every state either handler reaches from a constructor given a valid DTLS
role, by any calls and those that throw included, every entry of the remote
SDP's `sdpObject["media"]` carries `setup: active` for the send handler,
whose answers tell the browser that the remote side is DTLS client, and
`setup: actpass` for the receive handler, whose sections are offers.
-/
theorem handler_remote_setup_per_direction (helpers : Helpers)
    {iceParameters : IceParameters} {iceCandidates : List IceCandidate}
    {dtlsParameters : DtlsParameters} {sctpParameters : Option SctpParameters}
    (validRole : ValidDtlsRole dtlsParameters.role) :
    (∀ {sendingRtpParametersByKind sendingRemoteRtpParametersByKind : StringMap RtpParameters}
        (allowed : SendHandler → SendHandler.Operation × Engine → Prop)
        {start handler : SendHandler},
        SendHandler.create iceParameters iceCandidates dtlsParameters sctpParameters
            sendingRtpParametersByKind sendingRemoteRtpParametersByKind = .ok start →
          Reachable (SendHandler.step helpers) allowed start handler →
          ∀ entry ∈ handler.remoteSdp.sdpObject.media, entry.setup = some "active") ∧
      ∀ (allowed : Handler → RecvHandler.Operation × Engine → Prop) {start handler : Handler},
        Handler.create iceParameters iceCandidates dtlsParameters sctpParameters = .ok start →
          Reachable (RecvHandler.step helpers) allowed start handler →
          ∀ entry ∈ handler.remoteSdp.sdpObject.media, entry.setup = some "actpass" := by
  constructor
  · intro _ _ _ _ handler created reached entry member
    have handlerCreated := SendHandler.create_toHandler created
    obtain ⟨mediaSection, present, answerSetup, -⟩ := entry_setup_of_reaches
      (Handler.create_remoteSdp handlerCreated) validRole
      (SendHandler.reaches_of_reachable reached) member
    obtain ⟨answers, empty⟩ := SendHandler.sectionsReady_of_reachable
      (Handler.create_sendSectionsReady handlerCreated).1 reached
    have ready : handler.transportReady := by
      by_contra notReady
      rw [empty (Bool.eq_false_iff.mpr notReady)] at present
      exact List.not_mem_nil _ present
    have client : handler.remoteSdp.dtlsParameters.role = "client" :=
      (TransportStep.of_create handlerCreated
        (SendHandler.transportStep_of_reachable reached)).2 ready
    rcases answerSetup (answers _ present) with ⟨-, active⟩ | ⟨server, -⟩ | ⟨auto, -⟩
    · exact active
    · exact absurd (client.symm.trans server) (by decide)
    · exact absurd (client.symm.trans auto) (by decide)
  · intro _ _ handler created reached entry member
    obtain ⟨mediaSection, present, -, offerSetup⟩ := entry_setup_of_reaches
      (Handler.create_remoteSdp created) validRole (RecvHandler.reaches_of_reachable reached)
      member
    exact offerSetup (RecvHandler.allOffers_of_reachable
      (Handler.create_sendSectionsReady created).2 reached _ present)

theorem handler_remote_setup_after_first_calls :
    ValidDtlsRole exampleDtlsParameters.role ∧
      (∃ after,
        SendHandler.step exampleHelpers exampleSendHandler
            (.send (some (exampleTrack "a")) [] none, exampleEngine "0" ["0"]) = some after ∧
          after.remoteSdp.sdpObject.media ≠ [] ∧
          ∀ entry ∈ after.remoteSdp.sdpObject.media, entry.setup = some "active") ∧
      ∃ after,
        RecvHandler.step exampleHelpers exampleHandler
            (.receive "track" "audio" exampleRtpParameters, exampleEngine "" ["0"]) =
            some after ∧
          after.remoteSdp.sdpObject.media ≠ [] ∧
          ∀ entry ∈ after.remoteSdp.sdpObject.media, entry.setup = some "actpass" :=
  ⟨by decide,
    ⟨_, rfl, List.cons_ne_nil _ _,
      (handler_remote_setup_per_direction exampleHelpers (by decide)).1 (fun _ _ => True)
        create_exampleSendHandler
        (.step (.send (some (exampleTrack "a")) [] none, exampleEngine "0" ["0"]) .refl
          trivial rfl)⟩,
    ⟨_, rfl, List.cons_ne_nil _ _,
      (handler_remote_setup_per_direction exampleHelpers (by decide)).2 (fun _ _ => True)
        create_exampleHandler
        (.step (.receive "track" "audio" exampleRtpParameters, exampleEngine "" ["0"]) .refl
          trivial rfl)⟩⟩

end MediasoupClient
