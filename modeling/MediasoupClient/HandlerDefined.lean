import MediasoupClient.HandlerDtlsSetup
import MediasoupClient.HandlerTransceivers
import MediasoupClient.RemoteSdpIndexes

namespace MediasoupClient

open Sdp Sdp.RemoteSdp

/-!
# The calls that never reach undefined behaviour

`StopSending` and `StopReceiving` read `transceiver->mid().value()` for the
transceiver `mapMidTransceiver` names, and `CloseMediaSection` indexes
`mediaSections` with `midToIndex[mid]`; neither is checked.  In every
state a handler reaches from its constructor, each entry names a
transceiver with a mid, each index `midToIndex` holds names a section, and
once an entry exists the remote SDP has a section (the entry is written
after the section is built, and no call removes one).  So from every such
state every call that builds no section (all but `Send`,
`SendDataChannel`, `Receive` and `ReceiveDataChannel`) returns or throws.
-/

namespace Sdp.RemoteSdp

section Sections

variable {sdp : RemoteSdp}

theorem mediaSections_ne_nil_after_createAnswer {offerMediaObject : LocalMediaObject}
    {reuseMid : String} {offerRtpParameters answerRtpParameters : RtpParameters}
    {codecOptions : Option CodecOptions} {result : RemoteSdp × RtpParameters}
    (answered : sdp.createAnswer offerMediaObject reuseMid offerRtpParameters
      answerRtpParameters codecOptions = .ok result) :
    result.1.mediaSections ≠ [] := by
  obtain ⟨_, _, _, ⟨_, added⟩ | ⟨reuse, replaced⟩⟩ := createAnswer_ok answered
  · simp [added]
  · obtain ⟨_, found, replacedEq⟩ := replaceMediaSection_ok reuse replaced
    rw [replacedEq, regenerateBundleMids_mediaSections, ne_eq, List.set_eq_nil_iff]
    intro empty
    simp [empty] at found

theorem mediaSections_ne_nil_after_sendSctpAssociation {offerMediaObject : LocalMediaObject}
    {next : RemoteSdp} (associated : sdp.sendSctpAssociation offerMediaObject = .ok next) :
    next.mediaSections ≠ [] := by
  obtain ⟨_, _, rfl⟩ := sendSctpAssociation_ok associated
  simp

theorem mediaSections_ne_nil_after_recvSctpAssociation {next : RemoteSdp}
    (associated : sdp.recvSctpAssociation = .ok next) : next.mediaSections ≠ [] := by
  obtain ⟨_, _, rfl⟩ := recvSctpAssociation_ok associated
  simp

theorem mediaSections_ne_nil_after_createOffer {mid kind streamId trackId : String}
    {offerRtpParameters : RtpParameters} {next : RemoteSdp}
    (offered : sdp.createOffer mid kind offerRtpParameters streamId trackId = .ok next) :
    next.mediaSections ≠ [] := by
  obtain ⟨_, _, rfl⟩ := createOffer_ok offered
  simp

theorem mediaSections_ne_nil_after_closeMediaSection {mid : String} {next : RemoteSdp}
    (closed : sdp.closeMediaSection mid = .ok next) : next.mediaSections ≠ [] := by
  obtain ⟨_, _, rfl⟩ := closeMediaSection_ok closed
  simpa using mediaSections_ne_nil_of_closeMediaSection closed

end Sections

end Sdp.RemoteSdp

/-- Once `mapMidTransceiver` has an entry, the remote SDP has a section. -/
def MappedSections (handler : Handler) : Prop :=
  ∀ localId transceiver, handler.mapMidTransceiver.find? localId = some transceiver →
    handler.remoteSdp.mediaSections ≠ []

namespace MappedSections

variable {before after : Handler}

/-- Entries kept, and the remote SDP kept nonempty. -/
theorem of_sections (mapped : MappedSections before)
    (entries : after.mapMidTransceiver = before.mapMidTransceiver)
    (sections : before.remoteSdp.mediaSections ≠ [] → after.remoteSdp.mediaSections ≠ []) :
    MappedSections after := fun localId transceiver found =>
  sections (mapped localId transceiver (entries ▸ found))

/-- A nonempty remote SDP satisfies it whatever the entries. -/
theorem of_nonempty (sections : after.remoteSdp.mediaSections ≠ []) : MappedSections after :=
  fun _ _ _ => sections

/-- Entries and sections kept. -/
theorem of_members {middle : Handler} (mapped : MappedSections middle)
    (entries : after.mapMidTransceiver = middle.mapMidTransceiver)
    (sections : after.remoteSdp.mediaSections = middle.remoteSdp.mediaSections) :
    MappedSections after :=
  mapped.of_sections entries (sections ▸ id)

theorem of_setsUp {role : String} (mapped : MappedSections before)
    (setUp : Handler.SetsUpTransport role before after) : MappedSections after := by
  obtain ⟨-, -, entries, -, -, same | updated⟩ := setUp.members
  · exact mapped.of_members entries (by rw [same])
  · exact mapped.of_sections entries (by simp [updated])

theorem of_connectThrew {role : String} (mapped : MappedSections before)
    (threw : Handler.ConnectThrew role before after) : MappedSections after := by
  obtain ⟨-, rfl⟩ := threw
  exact mapped.of_sections rfl (by simp)

end MappedSections

/-- A closed section leaves the remote SDP nonempty. -/
theorem Handler.ClosesSection.mediaSections_ne_nil {localId : String} {before : Handler}
    {transceiver : Nat} {closed : RemoteSdp}
    (closes : Handler.ClosesSection localId before transceiver closed) :
    closed.mediaSections ≠ [] := by
  obtain ⟨_, -, -, closed⟩ := closes
  exact mediaSections_ne_nil_after_closeMediaSection closed

namespace SendHandler

section Steps

variable {engine : Engine} {before after : Handler} (mapped : MappedSections before)
include mapped

theorem SendBaseThrew.mappedSections (threw : SendBaseThrew engine before after) :
    MappedSections after := by
  cases threw with
  | keeps => exact mapped
  | undone tried =>
      rcases tried with rfl | connect | setUp
      · exact mapped.of_members rfl rfl
      · exact (mapped.of_connectThrew connect).of_members rfl rfl
      · exact (mapped.of_setsUp setUp).of_members rfl rfl
  | named setUp => exact (mapped.of_setsUp setUp).of_members rfl rfl
  | answered _ _ _ answers =>
      obtain ⟨_, _, _, _, _, _, -, -, answered⟩ := answers
      exact .of_nonempty (mediaSections_ne_nil_after_createAnswer answered)

omit mapped in
theorem SendBaseReturned.mappedSections {localId : String}
    (returned : SendBaseReturned engine before localId after) : MappedSections after := by
  obtain ⟨_, _, _, -, rfl, -, -, _, _, _, _, _, _, -, -, answered⟩ := returned
  exact .of_nonempty (mediaSections_ne_nil_after_createAnswer answered)

theorem DataSectionThrew.mappedSections (threw : DataSectionThrew engine before after) :
    MappedSections after := by
  cases threw with
  | offer => exact mapped
  | connect threw => exact mapped.of_connectThrew threw
  | describe setUp => exact mapped.of_setsUp setUp
  | remoteDescription _ associates =>
      obtain ⟨_, _, -, -, associated⟩ := associates
      exact .of_nonempty (mediaSections_ne_nil_after_sendSctpAssociation associated :)

theorem DataChannelThrew.mappedSections {helpers : Helpers} {dataChannelInit : DataChannelInit}
    (threw : DataChannelThrew helpers dataChannelInit engine before after) :
    MappedSections after := by
  cases threw with
  | invalid | notCreated => exact mapped
  | negotiation _ _ _ threw => exact threw.mappedSections (by exact mapped)

theorem DataChannelReturned.mappedSections {helpers : Helpers}
    {dataChannelInit : DataChannelInit} {channel : DataChannel}
    (returned : DataChannelReturned helpers dataChannelInit engine before channel after) :
    MappedSections after := by
  obtain ⟨-, -, -, ⟨-, rfl⟩ | ⟨-, _, _, -, ⟨_, _, -, -, associated⟩, rfl⟩⟩ := returned
  · exact mapped.of_members rfl rfl
  · exact .of_nonempty (mediaSections_ne_nil_after_sendSctpAssociation associated :)

theorem StopThrew.mappedSections {localId : String} (threw : StopThrew localId before after) :
    MappedSections after := by
  cases threw with
  | notFound => exact mapped
  | untracked => exact mapped.of_members rfl rfl
  | closed closes | emitted closes => exact .of_nonempty closes.mediaSections_ne_nil

omit mapped in
theorem StopReturned.mappedSections {localId : String}
    (returned : StopReturned localId before after) : MappedSections after := by
  obtain ⟨_, _, closes, rfl⟩ := returned
  exact .of_nonempty closes.mediaSections_ne_nil

theorem restarted_mappedSections (iceParameters : IceParameters) :
    MappedSections (restarted iceParameters before) :=
  mapped.of_sections rfl (by simp [restarted])

end Steps

/-- Every call of the send handler keeps `MappedSections`. -/
theorem call_mappedSections (helpers : Helpers) (operation : Operation) (engine : Engine)
    (handler : SendHandler) (mapped : MappedSections handler.toHandler) :
    Method.wp (call helpers operation engine)
      (fun _ after => MappedSections after.toHandler)
      (fun _ after => MappedSections after.toHandler) handler := by
  cases operation with
  | send track encodings codecOptions =>
      simp only [call, Method.wp_bind, Method.wp_pure]
      exact Method.wp_mono (fun _ _ returned => returned.mappedSections)
        (fun _ _ threw => threw.mappedSections mapped)
        (send_base helpers track encodings codecOptions engine handler)
  | sendDataChannel dataChannelInit =>
      simp only [call, Method.wp_bind, Method.wp_pure]
      exact Method.wp_mono (fun _ _ returned => returned.mappedSections mapped)
        (fun _ _ threw => threw.mappedSections mapped)
        (sendDataChannel_effect helpers dataChannelInit engine handler)
  | stopSending localId =>
      exact Method.wp_mono (fun _ _ returned => returned.mappedSections)
        (fun _ _ threw => threw.mappedSections mapped) (stopSending_effect localId engine handler)
  | replaceTrack | setMaxSpatialLayer | getSenderStats =>
      refine Method.wp_mono (fun _ _ edits => ?_) (fun _ _ edits => ?_)
        (call_editsSender helpers (by rfl) engine handler) <;>
      exact mapped.of_members edits.members.2.2.1 (congrArg (·.mediaSections) edits.members.1)
  | restartIce iceParameters =>
      refine Method.wp_mono (fun _ after returned => ?_) (fun _ after threw => ?_)
        (restartIce_effect iceParameters engine handler)
      · rw [returned]
        split
        · exact (restarted_mappedSections mapped iceParameters).of_members rfl rfl
        · exact restarted_mappedSections mapped iceParameters
      · rcases threw.2 with same | same <;> rw [same]
        · exact restarted_mappedSections mapped iceParameters
        · exact (restarted_mappedSections mapped iceParameters).of_members rfl rfl

/-- Over every run from a state that satisfies it, the send handler keeps `MappedSections`. -/
theorem mappedSections_of_reachable {helpers : Helpers}
    {allowed : SendHandler → Operation × Engine → Prop} {start handler : SendHandler}
    (initial : MappedSections start.toHandler)
    (reached : Reachable (step helpers) allowed start handler) :
    MappedSections handler.toHandler := by
  induction reached with
  | refl => exact initial
  | step call _ _ stepped inductionHypothesis =>
      exact (Method.wp_state? (call_mappedSections helpers call.1 call.2 _ inductionHypothesis)
        stepped :)

end SendHandler

namespace RecvHandler

/-- Sections kept or one appended keep the remote SDP nonempty. -/
theorem mediaSections_ne_nil_of_keepsOrAppends {before after : RemoteSdp}
    (kept : KeepsOrAppends before after) (sections : before.mediaSections ≠ []) :
    after.mediaSections ≠ [] := by
  rintro empty
  rcases kept with same | ⟨_, appended⟩
  · exact sections (List.map_eq_nil_iff.mp (by rw [← sectionMids, ← same, empty]; rfl))
  · simp [sectionMids, empty] at appended

/-- What a call that returns does keeps `MappedSections`. -/
theorem CallEffect.mappedSections {before after : Handler} {operation : Operation}
    (mapped : MappedSections before) (effect : CallEffect before after operation) :
    MappedSections after := by
  have sections := mediaSections_ne_nil_of_keepsOrAppends effect.keepsOrAppends
  cases operation with
  | receive =>
      obtain ⟨-, _, -, -, appended, -⟩ := effect
      exact .of_nonempty fun empty => by simp [sectionMids, empty] at appended
  | receiveDataChannel | stopReceiving | getReceiverStats | restartIce =>
      exact mapped.of_sections effect.1 sections

/-- Every call of the receive handler keeps `MappedSections`. -/
theorem call_mappedSections (helpers : Helpers) (operation : Operation) (engine : Engine)
    (handler : Handler) (mapped : MappedSections handler) :
    Method.wp (call helpers operation engine)
      (fun _ after => MappedSections after) (fun _ after => MappedSections after) handler :=
  Method.wp_mono (fun _ _ effect => effect.mappedSections mapped)
    (fun _ _ threw => mapped.of_sections threw.1
      (mediaSections_ne_nil_of_keepsOrAppends threw.2.2.2))
    (call_summary helpers operation engine handler)

/-- Over every run from a state that satisfies it, the receive handler keeps `MappedSections`. -/
theorem mappedSections_of_reachable {helpers : Helpers}
    {allowed : Handler → Operation × Engine → Prop} {start handler : Handler}
    (initial : MappedSections start)
    (reached : Reachable (step helpers) allowed start handler) : MappedSections handler := by
  induction reached with
  | refl => exact initial
  | step call _ _ stepped inductionHypothesis =>
      exact (Method.wp_state? (call_mappedSections helpers call.1 call.2 _ inductionHypothesis)
        stepped :)

end RecvHandler

/-- `CloseMediaSection` of any mid is defined once an entry exists. -/
theorem Handler.closeMediaSection_defined {handler : Handler}
    (inRange : IndexesInRange handler.remoteSdp) (mapped : MappedSections handler)
    {localId : String} {transceiver : Nat}
    (found : handler.mapMidTransceiver.find? localId = some transceiver) (mid : String) :
    handler.remoteSdp.closeMediaSection mid ≠ .error .undefined := by
  obtain ⟨_, closed⟩ := (inRange.defined (mapped localId transceiver found) mid).1
  rw [closed]
  exact nofun

/-- A new handler has no entry. -/
theorem MappedSections.of_create {iceParameters : IceParameters}
    {iceCandidates : List IceCandidate} {dtlsParameters : DtlsParameters}
    {sctpParameters : Option SctpParameters} {handler : Handler}
    (created : Handler.create iceParameters iceCandidates dtlsParameters sctpParameters =
      .ok handler) :
    MappedSections handler := by
  obtain ⟨_, -, rfl⟩ := Handler.create_eq created
  intro _ _ found
  cases found

/-- An entry names a transceiver. -/
theorem EntriesNameTransceivers.getElem?_ne_none {handler : Handler}
    (entries : EntriesNameTransceivers handler) {localId : String} {transceiver : Nat}
    (found : handler.mapMidTransceiver.find? localId = some transceiver) :
    handler.transceivers[transceiver]? ≠ none := by
  intro missing
  simpa [missing] using entries localId transceiver found

/-- `Send` and `SendDataChannel`, the calls that build sections from the engine's descriptions. -/
def SendHandler.Operation.buildsSection : SendHandler.Operation → Bool
  | .send .. | .sendDataChannel _ => true
  | _ => false

/-- `Receive` and `ReceiveDataChannel`, the calls that build offered sections. -/
def RecvHandler.Operation.buildsSection : RecvHandler.Operation → Bool
  | .receive .. | .receiveDataChannel _ => true
  | _ => false

namespace SendHandler

/-- From a state with the three invariants, every call that builds no section is defined. -/
theorem call_defined (helpers : Helpers) (operation : Operation) (engine : Engine)
    (handler : SendHandler) (entries : EntriesNameTransceivers handler.toHandler)
    (inRange : IndexesInRange handler.remoteSdp) (mapped : MappedSections handler.toHandler)
    (noSection : operation.buildsSection = false) :
    Method.wpTotal (call helpers operation engine) (fun _ _ => True) (fun _ _ => True)
      handler := by
  cases operation <;> simp only [Operation.buildsSection, Bool.true_eq_false] at noSection <;>
    simp only [call, Method.wpTotal_bind, ↓Method.wpTotal_pure, ↓Method.wpTotal_read,
      ↓Method.wpTotal_modify, ↓Method.wpTotal_throw, ↓Method.wpTotal_undefined,
      ↓Method.wpTotal_engine, ↓Method.wpTotal_getOr, ↓Method.wpTotal_remote,
      ↓Method.wpTotal_focus, ↓Method.wpTotal_ite, lift, Handler.updateTransceiver,
      Handler.transceiverMid, Handler.getSdp, Handler.updateRemoteSdp, stopSending,
      replaceTrack, setMaxSpatialLayer, getSenderStats, restartIce, renegotiate,
      Handler.findTransceiver, List.getElem?_modify] <;>
    repeat' split
  all_goals try exact True.intro
  · exact Handler.closeMediaSection_defined inRange mapped ‹_› _ ‹_›
  · exact entries.getElem?_ne_none ‹_› (Option.map_eq_none'.mp ‹_›)

end SendHandler

namespace RecvHandler

/-- From a state with the three invariants, every call that builds no section is defined. -/
theorem call_defined (helpers : Helpers) (operation : Operation) (engine : Engine)
    (handler : Handler) (entries : EntriesNameTransceivers handler)
    (inRange : IndexesInRange handler.remoteSdp) (mapped : MappedSections handler)
    (noSection : operation.buildsSection = false) :
    Method.wpTotal (call helpers operation engine) (fun _ _ => True) (fun _ _ => True)
      handler := by
  cases operation <;> simp only [Operation.buildsSection, Bool.true_eq_false] at noSection <;>
    simp only [call, Method.wpTotal_bind, ↓Method.wpTotal_pure, ↓Method.wpTotal_read,
      ↓Method.wpTotal_modify, ↓Method.wpTotal_throw, ↓Method.wpTotal_undefined,
      ↓Method.wpTotal_engine, ↓Method.wpTotal_getOr, ↓Method.wpTotal_remote,
      ↓Method.wpTotal_ite, stopReceiving, getReceiverStats, restartIce,
      Handler.findTransceiver, Handler.transceiverMid, Handler.updateRemoteSdp,
      Handler.getSdp, Handler.answerRemoteOffer] <;>
    repeat' split
  all_goals try exact True.intro
  · exact Handler.closeMediaSection_defined inRange mapped ‹_› _ ‹_›
  · exact entries.getElem?_ne_none ‹_› ‹_›

end RecvHandler

/--
From every state either handler reaches from its constructor, by any calls
and those that throw included, every call that builds no section is
defined: `StopSending`, `ReplaceTrack`, `SetMaxSpatialLayer`,
`GetSenderStats` and `RestartIce` of the send handler, and `StopReceiving`,
`GetReceiverStats` and `RestartIce` of the receive handler, return or throw
whatever their arguments and the engine's replies.
-/
theorem handler_calls_without_new_section_defined (helpers : Helpers)
    {iceParameters : IceParameters} {iceCandidates : List IceCandidate}
    {dtlsParameters : DtlsParameters} {sctpParameters : Option SctpParameters} :
    (∀ {sendingRtpParametersByKind sendingRemoteRtpParametersByKind : StringMap RtpParameters}
        (allowed : SendHandler → SendHandler.Operation × Engine → Prop)
        {start handler : SendHandler},
        SendHandler.create iceParameters iceCandidates dtlsParameters sctpParameters
            sendingRtpParametersByKind sendingRemoteRtpParametersByKind = .ok start →
          Reachable (SendHandler.step helpers) allowed start handler →
          ∀ (operation : SendHandler.Operation) (engine : Engine),
            operation.buildsSection = false →
              SendHandler.call helpers operation engine handler ≠ .undefined) ∧
      ∀ (allowed : Handler → RecvHandler.Operation × Engine → Prop) {start handler : Handler},
        Handler.create iceParameters iceCandidates dtlsParameters sctpParameters = .ok start →
          Reachable (RecvHandler.step helpers) allowed start handler →
          ∀ (operation : RecvHandler.Operation) (engine : Engine),
            operation.buildsSection = false →
              RecvHandler.call helpers operation engine handler ≠ .undefined := by
  constructor
  · intro _ _ _ _ _ created reached operation engine noSection
    have handlerCreated := SendHandler.create_toHandler created
    exact Method.ne_undefined_of_wpTotal (SendHandler.call_defined helpers operation engine _
      (SendHandler.entriesNameTransceivers_of_reachable reached (.of_create handlerCreated))
      (indexesInRange_of_reaches (Handler.create_remoteSdp handlerCreated)
        (SendHandler.reaches_of_reachable reached))
      (SendHandler.mappedSections_of_reachable (.of_create handlerCreated) reached) noSection)
  · intro _ _ _ created reached operation engine noSection
    exact Method.ne_undefined_of_wpTotal (RecvHandler.call_defined helpers operation engine _
      (RecvHandler.entriesNameTransceivers_of_reachable reached (.of_create created))
      (indexesInRange_of_reaches (Handler.create_remoteSdp created)
        (RecvHandler.reaches_of_reachable reached))
      (RecvHandler.mappedSections_of_reachable (.of_create created) reached) noSection)

theorem handler_stop_defined_after_first_calls :
    (∃ after,
      SendHandler.step exampleHelpers exampleSendHandler
          (.send (some (exampleTrack "a")) [] none, exampleEngine "0" ["0"]) = some after ∧
        SendHandler.call exampleHelpers (.stopSending "0") (exampleEngine "0" ["0"]) after ≠
          .undefined) ∧
    ∃ after,
      RecvHandler.step exampleHelpers exampleHandler
          (.receive "track" "audio" exampleRtpParameters, exampleEngine "" ["0"]) =
          some after ∧
        RecvHandler.call exampleHelpers (.stopReceiving "0") (exampleEngine "" ["0"]) after ≠
          .undefined :=
  ⟨⟨_, rfl, (handler_calls_without_new_section_defined exampleHelpers).1 (fun _ _ => True)
      create_exampleSendHandler
      (.step (.send (some (exampleTrack "a")) [] none, exampleEngine "0" ["0"]) .refl
        trivial rfl) _ _ rfl⟩,
    ⟨_, rfl, (handler_calls_without_new_section_defined exampleHelpers).2 (fun _ _ => True)
      create_exampleHandler
      (.step (.receive "track" "audio" exampleRtpParameters, exampleEngine "" ["0"]) .refl
        trivial rfl) _ _ rfl⟩⟩

end MediasoupClient
