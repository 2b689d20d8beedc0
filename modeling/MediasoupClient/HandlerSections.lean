import MediasoupClient.RecvHandlerEffects
import MediasoupClient.SendHandlerEffects

namespace MediasoupClient

open Sdp Sdp.RemoteSdp

/-!
# Where the handlers put remote sections

A handler method that changes the remote sections appends one, except
`Send`, which answers the engine's offer section in the slot
`GetNextMediaSectionIdx` named when the call began: the slot at which it
also read that offer section.  The two indexes are computed by different
code; they agree because every call keeps `SlotsIndexed` when the engine
gives new sections fresh mids.

Each way out of a method, as its effect lemma names it, is closed by one of
a few facts about the remote SDP.
-/

/--
`Send`'s answer to the engine's offer section at the slot
`GetNextMediaSectionIdx` names, the slot where `localSdpObject["media"][idx]`
was read, put in that very slot.
-/
def FilledNextSlot (engine : Engine) (before after : RemoteSdp) : Prop :=
  ∃ localSdp offerMediaObject, engine.getLocalDescription = .ok localSdp ∧
    localSdp.media[before.getNextMediaSectionIdx.idx]? = some offerMediaObject ∧
    sectionMids after.mediaSections = before.nextSlotMids offerMediaObject.mid

/-- `Send`'s change to the section mids: none, or its answer in the next slot. -/
def FillsNextSlot (engine : Engine) (before after : RemoteSdp) : Prop :=
  sectionMids after.mediaSections = sectionMids before.mediaSections ∨
    FilledNextSlot engine before after

/--
The engine gives what a call adds a fresh mid: `Send`'s new transceiver gets
the mid of the offer section at the slot `Send` reads, which no section has,
and `SendDataChannel`'s `application` section has a mid no section has.
-/
def FreshMids (handler : SendHandler) : SendHandler.Operation × Engine → Prop
  | (.send .., engine) =>
      match engine.getLocalDescription with
      | .ok localSdp =>
          match localSdp.media[handler.remoteSdp.getNextMediaSectionIdx.idx]? with
          | some offerMediaObject =>
              engine.mid = some offerMediaObject.mid ∧
                handler.remoteSdp.FreshSectionMid offerMediaObject.mid
          | none => True
      | .error _ => True
  | (.sendDataChannel _, engine) =>
      match engine.createOffer with
      | .ok offer =>
          match offer.media.find? (·.type = "application") with
          | some offerMediaObject => handler.remoteSdp.FreshSectionMid offerMediaObject.mid
          | none => True
      | .error _ => True
  | _ => True

/-- What a call of the send handler may do to the section mids. -/
def SendSectionChange (handler after : SendHandler) :
    SendHandler.Operation → Engine → Prop
  | .send .., engine =>
      FillsNextSlot engine handler.remoteSdp after.remoteSdp ∧
        (handler.remoteSdp.getNextMediaSectionIdx.reuseMid = "" ↔
          ∀ mediaSection ∈ handler.remoteSdp.mediaSections, mediaSection.isClosed = false)
  | _, _ => KeepsOrAppends handler.remoteSdp after.remoteSdp

section FreshMids

variable {handler : SendHandler} {engine : Engine}

/-- The engine gives `Send`'s offer section a mid no section has. -/
theorem FreshMids.send {track : Option Track} {encodings : List EncodingInput}
    {codecOptions : Option CodecOptions}
    (fresh : FreshMids handler (.send track encodings codecOptions, engine))
    {localSdp : LocalSdp} {offerMediaObject : LocalMediaObject}
    (described : engine.getLocalDescription = .ok localSdp)
    (read : localSdp.media[handler.remoteSdp.getNextMediaSectionIdx.idx]? =
      some offerMediaObject) :
    handler.remoteSdp.FreshSectionMid offerMediaObject.mid := by
  simp only [FreshMids, described, read] at fresh
  exact fresh.2

/-- The engine gives `SendDataChannel`'s offer section a mid no section has. -/
theorem FreshMids.sendDataChannel {dataChannelInit : DataChannelInit}
    (fresh : FreshMids handler (.sendDataChannel dataChannelInit, engine))
    {offer : LocalSdp} {offerMediaObject : LocalMediaObject}
    (offered : engine.createOffer = .ok offer)
    (found : offer.media.find? (·.type = "application") = some offerMediaObject) :
    handler.remoteSdp.FreshSectionMid offerMediaObject.mid := by
  simpa only [FreshMids, offered, found] using fresh

end FreshMids

section Answers

variable {sdp remote : RemoteSdp} (slots : SlotsIndexed sdp)
include slots

/--
`Send`'s answer, made on the remote SDP as it was or after `SetupTransport`
gave it the role `client`, fills the slot `GetNextMediaSectionIdx` named.
-/
theorem fillsNextSlot_answer {engine : Engine} {localSdp : LocalSdp}
    {offerMediaObject : LocalMediaObject}
    {offerRtpParameters answerRtpParameters : RtpParameters}
    {codecOptions : Option CodecOptions} {result : RemoteSdp × RtpParameters}
    (fresh : sdp.FreshSectionMid offerMediaObject.mid)
    (described : engine.getLocalDescription = .ok localSdp)
    (read : localSdp.media[sdp.getNextMediaSectionIdx.idx]? = some offerMediaObject)
    (answered :
      remote.createAnswer offerMediaObject sdp.getNextMediaSectionIdx.reuseMid
        offerRtpParameters answerRtpParameters codecOptions = .ok result)
    (transport : remote = sdp ∨ remote = sdp.updateDtlsRole "client") :
    SlotsIndexed result.1.getSdp.2 ∧ FilledNextSlot engine sdp result.1.getSdp.2 := by
  have placed : SlotsIndexed result.1 ∧
      sectionMids result.1.mediaSections = sdp.nextSlotMids offerMediaObject.mid := by
    rcases transport with rfl | rfl
    · exact slots_createAnswer slots fresh answered
    · simpa [nextSlotMids] using slots_createAnswer (slots_updateDtlsRole slots "client")
        (by simpa using fresh) (by simpa using answered)
  exact ⟨slots_getSdp placed.1, _, _, described, read, placed.2⟩

/-- Filling the next slot adds a section exactly when no section is closed. -/
theorem FilledNextSlot.grows_iff {engine : Engine} (filled : FilledNextSlot engine sdp remote) :
    remote.mediaSections.length = sdp.mediaSections.length + 1 ↔
      ∀ mediaSection ∈ sdp.mediaSections, mediaSection.isClosed = false := by
  obtain ⟨_, offerMediaObject, -, -, mids⟩ := filled
  have length :
      remote.mediaSections.length = (sdp.nextSlotMids offerMediaObject.mid).length := by
    rw [← mids, sectionMids, List.length_map]
  rw [length, length_nextSlotMids, ← reuseMid_eq_empty_iff slots.midNonEmpty]
  split <;> simp [*]

/-- `SendDataChannel`'s data section is appended. -/
theorem appends_sendSctpAssociation {next : RemoteSdp}
    {offerMediaObject : LocalMediaObject}
    (fresh : sdp.FreshSectionMid offerMediaObject.mid)
    (associated : remote.sendSctpAssociation offerMediaObject = .ok next)
    (transport : remote = sdp ∨ remote = sdp.updateDtlsRole "client") :
    SlotsIndexed next.getSdp.2 ∧ KeepsOrAppends sdp next.getSdp.2 := by
  have appended : SlotsIndexed next ∧
      sectionMids next.mediaSections =
        sectionMids sdp.mediaSections ++ [offerMediaObject.mid] := by
    rcases transport with rfl | rfl
    · exact slots_sendSctpAssociation slots fresh associated
    · simpa using slots_sendSctpAssociation (slots_updateDtlsRole slots "client")
        (by simpa using fresh) associated
  exact ⟨slots_getSdp appended.1, .inr ⟨_, appended.2⟩⟩

end Answers

namespace SendHandler

section Steps

variable {engine : Engine} {before after : Handler} (slots : SlotsIndexed before.remoteSdp)
include slots

/-- A set-up keeps the slots indexed and the section mids. -/
theorem slots_of_setsUp {role : String} (setUp : Handler.SetsUpTransport role before after) :
    SlotsIndexed after.remoteSdp ∧
      sectionMids after.remoteSdp.mediaSections = sectionMids before.remoteSdp.mediaSections := by
  obtain ⟨-, -, -, -, -, same | updated⟩ := setUp.members
  · rw [same]
    exact ⟨slots, rfl⟩
  · rw [updated]
    exact ⟨slots_updateDtlsRole slots role, sectionMids_updateDtlsRole _ _⟩

/-- A remote SDP kept keeps the slots indexed and the section mids. -/
theorem slots_of_same (same : after.remoteSdp = before.remoteSdp) :
    SlotsIndexed after.remoteSdp ∧ KeepsOrAppends before.remoteSdp after.remoteSdp := by
  rw [same]
  exact ⟨slots, .inl rfl⟩

section Send

variable (fresh : ∀ {localSdp : LocalSdp} {offerMediaObject : LocalMediaObject},
  engine.getLocalDescription = .ok localSdp →
  localSdp.media[before.remoteSdp.getNextMediaSectionIdx.idx]? = some offerMediaObject →
  before.remoteSdp.FreshSectionMid offerMediaObject.mid)
include fresh

theorem AnswersSlot.fills {ready : Handler} {next : RemoteSdp}
    (setUp : Handler.SetsUpTransport "client" before ready)
    (answers : AnswersSlot engine before ready next) :
    SlotsIndexed next.getSdp.2 ∧ FilledNextSlot engine before.remoteSdp next.getSdp.2 := by
  obtain ⟨_, _, _, _, _, _, described, read, answered⟩ := answers
  exact fillsNextSlot_answer slots (fresh described read) described read answered
    setUp.members.2.2.2.2.2

theorem SendBaseThrew.fillsNextSlot (threw : SendBaseThrew engine before after) :
    SlotsIndexed after.remoteSdp ∧ FillsNextSlot engine before.remoteSdp after.remoteSdp := by
  cases threw with
  | keeps => exact ⟨slots, .inl rfl⟩
  | undone tried =>
      rcases tried with rfl | ⟨-, rfl⟩ | setUp
      · exact ⟨slots, .inl rfl⟩
      · exact ⟨slots_updateDtlsRole slots _, .inl (sectionMids_updateDtlsRole _ _)⟩
      · exact (slots_of_setsUp slots setUp).imp_right .inl
  | named setUp => exact (slots_of_setsUp slots setUp).imp_right .inl
  | answered setUp _ _ answers => exact (answers.fills slots fresh setUp).imp_right .inr

theorem SendBaseReturned.fills {localId : String}
    (returned : SendBaseReturned engine before localId after) :
    SlotsIndexed after.remoteSdp ∧ FilledNextSlot engine before.remoteSdp after.remoteSdp := by
  obtain ⟨_, _, _, setUp, rfl, -, -, answers⟩ := returned
  exact answers.fills slots fresh setUp

end Send

section DataChannel

variable (fresh : ∀ {offer : LocalSdp} {offerMediaObject : LocalMediaObject},
  engine.createOffer = .ok offer →
  offer.media.find? (·.type = "application") = some offerMediaObject →
  before.remoteSdp.FreshSectionMid offerMediaObject.mid)
include fresh

theorem AssociatesOffer.appends {ready : Handler} {next : RemoteSdp}
    (setUp : Handler.SetsUpTransport "client" before ready)
    (associates : AssociatesOffer engine ready next) :
    SlotsIndexed next.getSdp.2 ∧ KeepsOrAppends before.remoteSdp next.getSdp.2 := by
  obtain ⟨_, _, offered, found, associated⟩ := associates
  exact appends_sendSctpAssociation slots (fresh offered found) associated
    setUp.members.2.2.2.2.2

theorem DataSectionThrew.appends (threw : DataSectionThrew engine before after) :
    SlotsIndexed after.remoteSdp ∧ KeepsOrAppends before.remoteSdp after.remoteSdp := by
  cases threw with
  | offer => exact ⟨slots, .inl rfl⟩
  | connect threw =>
      obtain ⟨-, rfl⟩ := threw
      exact ⟨slots_updateDtlsRole slots _, .inl (sectionMids_updateDtlsRole _ _)⟩
  | describe setUp => exact (slots_of_setsUp slots setUp).imp_right .inl
  | remoteDescription setUp associates => exact associates.appends slots fresh setUp

theorem DataChannelThrew.appends {helpers : Helpers} {dataChannelInit : DataChannelInit}
    (threw : DataChannelThrew helpers dataChannelInit engine before after) :
    SlotsIndexed after.remoteSdp ∧ KeepsOrAppends before.remoteSdp after.remoteSdp := by
  cases threw with
  | invalid | notCreated => exact ⟨slots, .inl rfl⟩
  | negotiation _ _ _ threw => exact (threw.appends (by exact slots) (by exact fresh) :)

theorem DataChannelReturned.appends {helpers : Helpers} {dataChannelInit : DataChannelInit}
    {channel : DataChannel}
    (returned : DataChannelReturned helpers dataChannelInit engine before channel after) :
    SlotsIndexed after.remoteSdp ∧ KeepsOrAppends before.remoteSdp after.remoteSdp := by
  obtain ⟨-, -, -, ⟨-, rfl⟩ | ⟨-, _, _, setUp, associates, rfl⟩⟩ := returned
  · exact ⟨slots, .inl rfl⟩
  · exact (associates.appends (by exact slots) (by exact fresh) setUp :)

end DataChannel

/-- A closed section keeps the slots indexed and the section mids. -/
theorem closesSection_keeps {localId : String} {transceiver : Nat} {closed : RemoteSdp}
    (closes : Handler.ClosesSection localId before transceiver closed) :
    SlotsIndexed closed ∧ KeepsOrAppends before.remoteSdp closed := by
  obtain ⟨_, -, -, closed⟩ := closes
  exact ⟨slots_closeMediaSection slots closed, .inl (sectionMids_closeMediaSection closed)⟩

theorem StopThrew.keeps {localId : String} (threw : StopThrew localId before after) :
    SlotsIndexed after.remoteSdp ∧ KeepsOrAppends before.remoteSdp after.remoteSdp := by
  cases threw with
  | notFound | untracked => exact ⟨slots, .inl rfl⟩
  | closed closes => exact closesSection_keeps slots closes
  | emitted closes => exact (closesSection_keeps slots closes).imp_left slots_getSdp

theorem StopReturned.keeps {localId : String} (returned : StopReturned localId before after) :
    SlotsIndexed after.remoteSdp ∧ KeepsOrAppends before.remoteSdp after.remoteSdp := by
  obtain ⟨_, _, closes, rfl⟩ := returned
  exact (closesSection_keeps slots closes).imp_left slots_getSdp

theorem restarted_keeps (iceParameters : IceParameters) :
    SlotsIndexed (restarted iceParameters before).remoteSdp ∧
      KeepsOrAppends before.remoteSdp (restarted iceParameters before).remoteSdp :=
  ⟨slots_updateIceParameters slots iceParameters, .inl (sectionMids_updateIceParameters _ _)⟩

end Steps

variable (helpers : Helpers) {handler : SendHandler}

/--
Every way out of `Send` keeps the slots indexed and fills at most the next
slot; a `Send` that returns fills it.
-/
theorem send_fillsNextSlot (track : Option Track) (encodings : List EncodingInput)
    (codecOptions : Option CodecOptions) (engine : Engine)
    (slots : SlotsIndexed handler.remoteSdp)
    (fresh : FreshMids handler (.send track encodings codecOptions, engine)) :
    Method.wp (send helpers track encodings codecOptions engine)
      (fun _ after => SlotsIndexed after.remoteSdp ∧
        FilledNextSlot engine handler.remoteSdp after.remoteSdp)
      (fun _ after => SlotsIndexed after.remoteSdp ∧
        FillsNextSlot engine handler.remoteSdp after.remoteSdp) handler :=
  Method.wp_mono (fun _ _ returned => returned.fills slots fresh.send)
    (fun _ _ threw => threw.fillsNextSlot slots fresh.send)
    (send_base helpers track encodings codecOptions engine handler)

/-- Every call of the send handler keeps the slots indexed and changes the mids as it may. -/
theorem call_sections (operation : Operation) (engine : Engine)
    (slots : SlotsIndexed handler.remoteSdp) (fresh : FreshMids handler (operation, engine)) :
    Method.wp (call helpers operation engine)
      (fun _ after => SlotsIndexed after.remoteSdp ∧
        SendSectionChange handler after operation engine)
      (fun _ after => SlotsIndexed after.remoteSdp ∧
        SendSectionChange handler after operation engine) handler := by
  have nextSlot := reuseMid_eq_empty_iff slots.midNonEmpty
  cases operation with
  | send track encodings codecOptions =>
      simp only [call, Method.wp_bind, Method.wp_pure]
      exact Method.wp_mono (fun _ _ holds => ⟨holds.1, .inr holds.2, nextSlot⟩)
        (fun _ _ holds => ⟨holds.1, holds.2, nextSlot⟩)
        (send_fillsNextSlot helpers track encodings codecOptions engine slots fresh)
  | sendDataChannel dataChannelInit =>
      simp only [call, Method.wp_bind, Method.wp_pure]
      exact Method.wp_mono (fun _ _ returned => returned.appends slots fresh.sendDataChannel)
        (fun _ _ threw => threw.appends slots fresh.sendDataChannel)
        (sendDataChannel_effect helpers dataChannelInit engine handler)
  | stopSending localId =>
      exact Method.wp_mono (fun _ _ returned => returned.keeps slots)
        (fun _ _ threw => threw.keeps slots) (stopSending_effect localId engine handler)
  | replaceTrack | setMaxSpatialLayer | getSenderStats =>
      refine Method.wp_mono (fun _ _ edits => ?_) (fun _ _ edits => ?_)
        (call_editsSender helpers (by rfl) engine handler) <;>
      exact slots_of_same slots edits.members.1
  | restartIce iceParameters =>
      have restarted := restarted_keeps slots iceParameters
      refine Method.wp_mono (fun _ after returned => ?_) (fun _ after threw => ?_)
        (restartIce_effect iceParameters engine handler)
      all_goals show SlotsIndexed after.toHandler.remoteSdp ∧
        KeepsOrAppends handler.remoteSdp after.toHandler.remoteSdp
      · rw [returned]
        split
        · exact restarted.imp_left slots_getSdp
        · exact restarted
      · rcases threw.2 with same | same <;> rw [same]
        · exact restarted
        · exact restarted.imp_left slots_getSdp

/-- One step of the send handler keeps the slots indexed and changes the mids as it may. -/
theorem step_sections {call : Operation × Engine} {after : SendHandler}
    (slots : SlotsIndexed handler.remoteSdp) (fresh : FreshMids handler call)
    (stepped : step helpers handler call = some after) :
    SlotsIndexed after.remoteSdp ∧ SendSectionChange handler after call.1 call.2 :=
  (Method.wp_state? (call_sections helpers call.1 call.2 slots fresh) stepped :)

/-- The slots stay indexed over every run whose engine gives fresh mids. -/
theorem slots_of_reachable {iceParameters : IceParameters}
    {iceCandidates : List IceCandidate} {dtlsParameters : DtlsParameters}
    {sctpParameters : Option SctpParameters}
    {sendingRtpParametersByKind sendingRemoteRtpParametersByKind : StringMap RtpParameters}
    {start : SendHandler}
    (created : create iceParameters iceCandidates dtlsParameters sctpParameters
      sendingRtpParametersByKind sendingRemoteRtpParametersByKind = .ok start)
    (reached : Reachable (step helpers) FreshMids start handler) :
    SlotsIndexed handler.remoteSdp := by
  induction reached with
  | refl =>
      obtain ⟨_, initial⟩ := create_ok (Handler.create_remoteSdp (create_toHandler created))
      rw [initial]
      exact ⟨fun _ member => absurd member (List.not_mem_nil _),
        fun _ _ found => absurd found (by simp [initialState])⟩
  | step call _ fresh stepped slots =>
      exact (step_sections helpers slots fresh stepped).1

end SendHandler

namespace RecvHandler

/-- Every call of the receive handler keeps the section mids or appends one section. -/
theorem call_keepsOrAppends (helpers : Helpers) (operation : Operation) (engine : Engine)
    (handler : Handler) :
    Method.wp (call helpers operation engine)
      (fun _ after => KeepsOrAppends handler.remoteSdp after.remoteSdp)
      (fun _ after => KeepsOrAppends handler.remoteSdp after.remoteSdp) handler :=
  Method.wp_mono (fun _ _ effect => effect.keepsOrAppends) (fun _ _ thrown => thrown.2.2.2)
    (call_summary helpers operation engine handler)

end RecvHandler

/--
Over every run of either handler, a call that completes keeps the mid at
every index: the send handler (its engine giving new sections fresh mids)
keeps the mids or appends one section, except that `Send` may instead answer
the engine's offer section read at `GetNextMediaSectionIdx`'s index in that
very slot; `reuseMid` is empty exactly when no section is closed.  A `Send`
that returns has answered in that slot, and the section count has grown by
one exactly when no section was closed.  The receive handler keeps the mids
or appends one section from any state.
-/
theorem handler_sections_stay_in_place (helpers : Helpers) :
    (∀ {iceParameters : IceParameters} {iceCandidates : List IceCandidate}
        {dtlsParameters : DtlsParameters} {sctpParameters : Option SctpParameters}
        {sendingRtpParametersByKind sendingRemoteRtpParametersByKind :
          StringMap RtpParameters}
        {start : SendHandler} (handler after : SendHandler)
        (call : SendHandler.Operation × Engine),
        SendHandler.create iceParameters iceCandidates dtlsParameters sctpParameters
            sendingRtpParametersByKind sendingRemoteRtpParametersByKind = .ok start →
          Reachable (SendHandler.step helpers) FreshMids start handler →
          FreshMids handler call →
          SendHandler.step helpers handler call = some after →
          SendSectionChange handler after call.1 call.2) ∧
      (∀ {iceParameters : IceParameters} {iceCandidates : List IceCandidate}
        {dtlsParameters : DtlsParameters} {sctpParameters : Option SctpParameters}
        {sendingRtpParametersByKind sendingRemoteRtpParametersByKind :
          StringMap RtpParameters}
        {start : SendHandler} (handler after : SendHandler) (track : Option Track)
        (encodings : List EncodingInput) (codecOptions : Option CodecOptions)
        (engine : Engine) (result : SendResult),
        SendHandler.create iceParameters iceCandidates dtlsParameters sctpParameters
            sendingRtpParametersByKind sendingRemoteRtpParametersByKind = .ok start →
          Reachable (SendHandler.step helpers) FreshMids start handler →
          FreshMids handler (.send track encodings codecOptions, engine) →
          SendHandler.send helpers track encodings codecOptions engine handler =
            .returned after result →
          FilledNextSlot engine handler.remoteSdp after.remoteSdp ∧
            (after.remoteSdp.mediaSections.length = handler.remoteSdp.mediaSections.length + 1 ↔
              ∀ mediaSection ∈ handler.remoteSdp.mediaSections, mediaSection.isClosed = false)) ∧
      ∀ (handler after : Handler) (call : RecvHandler.Operation × Engine),
        RecvHandler.step helpers handler call = some after →
          KeepsOrAppends handler.remoteSdp after.remoteSdp := by
  refine ⟨fun _ _ _ created reached fresh stepped =>
      (SendHandler.step_sections helpers
        (SendHandler.slots_of_reachable helpers created reached) fresh stepped).2,
    fun _ _ track encodings codecOptions engine _ created reached fresh returned => ?_,
    fun _ _ _ stepped =>
      (Method.wp_state? (RecvHandler.call_keepsOrAppends helpers _ _ _) stepped :)⟩
  have slots := SendHandler.slots_of_reachable helpers created reached
  have filled := (Method.wp_returned (SendHandler.send_fillsNextSlot helpers track encodings
    codecOptions engine slots fresh) returned).2
  exact ⟨filled, filled.grows_iff slots⟩

theorem handler_sections_first_calls :
    (∃ after, SendHandler.step exampleHelpers exampleSendHandler
        (.send (some (exampleTrack "a")) [] none, exampleEngine "0" ["0"]) = some after ∧
      SendSectionChange exampleSendHandler after
        (.send (some (exampleTrack "a")) [] none) (exampleEngine "0" ["0"])) ∧
    (∃ after result, SendHandler.send exampleHelpers (some (exampleTrack "a")) [] none
        (exampleEngine "0" ["0"]) exampleSendHandler = .returned after result ∧
      FilledNextSlot (exampleEngine "0" ["0"]) exampleSendHandler.remoteSdp after.remoteSdp ∧
      (after.remoteSdp.mediaSections.length =
          exampleSendHandler.remoteSdp.mediaSections.length + 1 ↔
        ∀ mediaSection ∈ exampleSendHandler.remoteSdp.mediaSections,
          mediaSection.isClosed = false)) ∧
    ∃ after, RecvHandler.step exampleHelpers exampleHandler
        (.receive "track" "audio" RemoteSdp.exampleRtpParameters,
          exampleEngine "" ["0"]) = some after ∧
      KeepsOrAppends exampleHandler.remoteSdp after.remoteSdp :=
  ⟨⟨_, rfl, (handler_sections_stay_in_place exampleHelpers).1 _ _
      (.send (some (exampleTrack "a")) [] none, exampleEngine "0" ["0"])
      create_exampleSendHandler .refl ⟨rfl, by decide⟩ rfl⟩,
    ⟨_, _, rfl, (handler_sections_stay_in_place exampleHelpers).2.1 _ _
      (some (exampleTrack "a")) [] none (exampleEngine "0" ["0"]) _
      create_exampleSendHandler .refl ⟨rfl, by decide⟩ rfl⟩,
    ⟨_, rfl, (handler_sections_stay_in_place exampleHelpers).2.2 _ _
      (.receive "track" "audio" RemoteSdp.exampleRtpParameters, exampleEngine "" ["0"])
      rfl⟩⟩

/-! ## A localId whose section was reused -/

/--
`StopSending` checks only that `mapMidTransceiver` has the localId, and no
call erases an entry.  Once the localId's section is closed and reused by a
later `Send`, `ReplaceMediaSection` has erased the mid from `midToIndex`: a
second `StopSending` of the stale localId passes the check, and
`midToIndex[mid]` inserts the mid at index `0`, so the first section, which
another transceiver still sends on, is closed.  The engine of the run gives
fresh mids.
-/
theorem stopSending_stale_localId_closes_first_section :
    ∃ handler after,
      Reachable (SendHandler.step exampleHelpers) FreshMids exampleSendHandler handler ∧
      handler.mapMidTransceiver.find? "1" = some 1 ∧
      handler.remoteSdp.midToIndex.find? "1" = none ∧
      handler.remoteSdp.mediaSections.map
          (fun mediaSection => (mediaSection.getMid, mediaSection.isClosed)) =
        [("0", false), ("2", false)] ∧
      SendHandler.stopSending "1" (exampleEngine "" ["0", "2"]) handler = .returned after () ∧
      after.remoteSdp.mediaSections.map
          (fun mediaSection => (mediaSection.getMid, mediaSection.isClosed)) =
        [("0", true), ("2", false)] :=
  ⟨_, _, .step (.send (some (exampleTrack "c")) [] none, exampleEngine "2" ["0", "2"])
      (.step (.stopSending "1", exampleEngine "" ["0", "1"])
        (.step (.send (some (exampleTrack "b")) [] none, exampleEngine "1" ["0", "1"])
          (.step (.send (some (exampleTrack "a")) [] none, exampleEngine "0" ["0"])
            .refl ⟨rfl, by decide⟩ rfl) ⟨rfl, by decide⟩ rfl) trivial rfl)
      ⟨rfl, by decide⟩ rfl,
    rfl, rfl, rfl, rfl, rfl⟩

end MediasoupClient
