import MediasoupClient.RecvHandlerEffects
import MediasoupClient.SendHandlerEffects

namespace MediasoupClient

open Sdp

/-!
# What a failed call leaves

The handlers write `mapMidTransceiver` and `hasDataChannelMediaSection`
only after their last engine call, so a call that throws leaves both as
they were.  The remote SDP is not rolled back: the section a call adds is
in it before `SetRemoteDescription`, and `Send`'s `catch` covers the
negotiation of the transceiver's mid but not `GetLocalDescription`.
-/

/-- The members a throw must leave alone: the localIds and the data section flag. -/
def KeepsLocalIds (before after : Handler) : Prop :=
  after.mapMidTransceiver = before.mapMidTransceiver ∧
    after.hasDataChannelMediaSection = before.hasDataChannelMediaSection

namespace KeepsLocalIds

variable {before after : Handler}

theorem refl (handler : Handler) : KeepsLocalIds handler handler :=
  ⟨rfl, rfl⟩

/-- Entries and flag kept through writes to other members. -/
theorem of_members {middle : Handler} (kept : KeepsLocalIds before middle)
    (entries : after.mapMidTransceiver = middle.mapMidTransceiver)
    (flag : after.hasDataChannelMediaSection = middle.hasDataChannelMediaSection) :
    KeepsLocalIds before after :=
  ⟨entries.trans kept.1, flag.trans kept.2⟩

theorem of_setsUp {role : String} (setUp : Handler.SetsUpTransport role before after) :
    KeepsLocalIds before after :=
  ⟨setUp.members.2.2.1, setUp.members.2.2.2.1⟩

theorem of_connectThrew {role : String} (threw : Handler.ConnectThrew role before after) :
    KeepsLocalIds before after := by
  obtain ⟨-, rfl⟩ := threw
  exact ⟨rfl, rfl⟩

end KeepsLocalIds

namespace SendHandler

section Steps

variable {engine : Engine} {before after : Handler}

theorem SendBaseThrew.keepsLocalIds (threw : SendBaseThrew engine before after) :
    KeepsLocalIds before after := by
  cases threw with
  | keeps => exact .refl _
  | undone tried =>
      rcases tried with rfl | threw | setUp
      · exact ⟨rfl, rfl⟩
      · exact (KeepsLocalIds.of_connectThrew threw).of_members rfl rfl
      · exact (KeepsLocalIds.of_setsUp setUp).of_members rfl rfl
  | named setUp | answered setUp => exact (KeepsLocalIds.of_setsUp setUp).of_members rfl rfl

theorem DataSectionThrew.keepsLocalIds (threw : DataSectionThrew engine before after) :
    KeepsLocalIds before after := by
  cases threw with
  | offer => exact .refl _
  | connect threw => exact .of_connectThrew threw
  | describe setUp => exact .of_setsUp setUp
  | remoteDescription setUp => exact (KeepsLocalIds.of_setsUp setUp).of_members rfl rfl

theorem DataChannelThrew.keepsLocalIds {helpers : Helpers} {dataChannelInit : DataChannelInit}
    (threw : DataChannelThrew helpers dataChannelInit engine before after) :
    KeepsLocalIds before after := by
  cases threw with
  | invalid | notCreated => exact .refl _
  | negotiation _ _ _ threw =>
      obtain ⟨entries, flag⟩ := threw.keepsLocalIds
      exact ⟨entries, flag⟩

theorem StopThrew.keepsLocalIds {localId : String} (threw : StopThrew localId before after) :
    KeepsLocalIds before after := by
  cases threw <;> exact ⟨rfl, rfl⟩

/--
What a `Send` that throws leaves of the transceivers: none added, or the one
it added, which the `catch` made inactive and trackless when the `try`
block threw before the mid was read (the section mids then as they were),
and which is still named and sending a track when a later step threw.
-/
theorem SendBaseThrew.sender (threw : SendBaseThrew engine before after) :
    after.transceivers = before.transceivers ∨
      ∃ sender, after.transceivers = before.transceivers ++ [sender] ∧
        ((sender.mid = none ∧ sender.direction = .inactive ∧ sender.track = none ∧
            sectionMids after.remoteSdp.mediaSections =
              sectionMids before.remoteSdp.mediaSections) ∨
          (sender.mid ≠ none ∧ sender.direction = .sendOnly ∧ sender.track ≠ none)) := by
  cases threw with
  | keeps => exact .inl rfl
  | undone tried noMid inactive untracked =>
      refine .inr ⟨_, rfl, .inl ⟨noMid, inactive, untracked, ?_⟩⟩
      rcases tried with rfl | threw | setUp
      · rfl
      · exact (RecvHandler.SameMembers.of_connectThrew threw).mids
      · exact (RecvHandler.SameMembers.of_setsUp setUp).mids
  | named _ _ named sendOnly tracked | answered _ _ named _ sendOnly tracked =>
      exact .inr ⟨_, rfl, .inr ⟨by simp [named], sendOnly, tracked⟩⟩

end Steps

/-- No call of the send handler that throws changes its localIds or data section flag. -/
theorem call_threw_keepsLocalIds (helpers : Helpers) (operation : Operation)
    (engine : Engine) (handler : SendHandler) :
    Method.wp (call helpers operation engine) (fun _ _ => True)
      (fun _ after => KeepsLocalIds handler.toHandler after.toHandler) handler := by
  cases operation with
  | send track encodings codecOptions =>
      simp only [call, Method.wp_bind, Method.wp_pure]
      exact Method.wp_mono (fun _ _ _ => trivial) (fun _ _ threw => threw.keepsLocalIds)
        (send_base helpers track encodings codecOptions engine handler)
  | sendDataChannel dataChannelInit =>
      simp only [call, Method.wp_bind, Method.wp_pure]
      exact Method.wp_mono (fun _ _ _ => trivial) (fun _ _ threw => threw.keepsLocalIds)
        (sendDataChannel_effect helpers dataChannelInit engine handler)
  | stopSending localId =>
      exact Method.wp_mono (fun _ _ _ => trivial) (fun _ _ threw => threw.keepsLocalIds)
        (stopSending_effect localId engine handler)
  | replaceTrack | setMaxSpatialLayer | getSenderStats =>
      refine Method.wp_mono (fun _ _ _ => trivial) (fun _ _ edits => ?_)
        (call_editsSender helpers (by rfl) engine handler)
      exact ⟨edits.members.2.2.1, edits.members.2.2.2.1⟩
  | restartIce iceParameters =>
      refine Method.wp_mono (fun _ _ _ => trivial) (fun _ _ threw => ?_)
        (restartIce_effect iceParameters engine handler)
      rcases threw.2 with same | same <;> rw [same] <;> exact ⟨rfl, rfl⟩

/-- What a `Send` that throws leaves of its transceivers and localIds. -/
theorem send_threw_sender (helpers : Helpers) (track : Option Track)
    (encodings : List EncodingInput) (codecOptions : Option CodecOptions) (engine : Engine)
    (handler : SendHandler) :
    Method.wp (send helpers track encodings codecOptions engine) (fun _ _ => True)
      (fun _ after => KeepsLocalIds handler.toHandler after.toHandler ∧
        (after.transceivers = handler.transceivers ∨
          ∃ sender, after.transceivers = handler.transceivers ++ [sender] ∧
            ((sender.mid = none ∧ sender.direction = .inactive ∧ sender.track = none ∧
                sectionMids after.remoteSdp.mediaSections =
                  sectionMids handler.remoteSdp.mediaSections) ∨
              (sender.mid ≠ none ∧ sender.direction = .sendOnly ∧ sender.track ≠ none))))
      handler :=
  Method.wp_mono (fun _ _ _ => trivial) (fun _ _ threw => ⟨threw.keepsLocalIds, threw.sender⟩)
    (send_base helpers track encodings codecOptions engine handler)

end SendHandler

namespace RecvHandler

/-- No call of the receive handler that throws changes its localIds or data section flag. -/
theorem call_threw_keepsLocalIds (helpers : Helpers) (operation : Operation)
    (engine : Engine) (handler : Handler) :
    Method.wp (call helpers operation engine) (fun _ _ => True)
      (fun _ after => KeepsLocalIds handler after) handler :=
  Method.wp_mono (fun _ _ _ => trivial) (fun _ _ thrown => ⟨thrown.1, thrown.2.1⟩)
    (call_summary helpers operation engine handler)

end RecvHandler

/--
A call of either handler that throws leaves `mapMidTransceiver` and
`hasDataChannelMediaSection` as they were.
-/
theorem failed_call_keeps_localIds (helpers : Helpers) :
    (∀ (handler after : SendHandler) (operation : SendHandler.Operation) (engine : Engine)
        (message : String),
        SendHandler.call helpers operation engine handler = .threw after message →
          KeepsLocalIds handler.toHandler after.toHandler) ∧
      ∀ (handler after : Handler) (operation : RecvHandler.Operation) (engine : Engine)
        (message : String),
        RecvHandler.call helpers operation engine handler = .threw after message →
          KeepsLocalIds handler after :=
  ⟨fun handler _ operation engine _ threw =>
      Method.wp_threw (SendHandler.call_threw_keepsLocalIds helpers operation engine handler) threw,
    fun handler _ operation engine _ threw =>
      Method.wp_threw (RecvHandler.call_threw_keepsLocalIds helpers operation engine handler) threw⟩

theorem failed_send_keeps_localIds_example :
    ∃ after,
      SendHandler.call exampleHelpers (.send (some (exampleTrack "a")) [] none)
          { exampleEngine "0" ["0"] with setRemoteDescription := .error "rejected" }
          exampleSendHandler = .threw after "rejected" ∧
        KeepsLocalIds exampleSendHandler.toHandler after.toHandler :=
  ⟨_, rfl, (failed_call_keeps_localIds exampleHelpers).1 _ _
    (.send (some (exampleTrack "a")) [] none)
    { exampleEngine "0" ["0"] with setRemoteDescription := .error "rejected" } _ rfl⟩

/--
A failed call keeps the localIds and the data section flag, and a failed
`Send` undoes only its `try` block: when that block throws, the transceiver
it added is left inactive without a track and the section mids are as they
were; when a later step throws, the transceiver stays named and sending.
-/
theorem failed_negotiation_undoes_try_block (helpers : Helpers) :
    (∀ (handler after : SendHandler) (operation : SendHandler.Operation) (engine : Engine)
        (message : String),
        SendHandler.call helpers operation engine handler = .threw after message →
          KeepsLocalIds handler.toHandler after.toHandler) ∧
      (∀ (handler after : Handler) (operation : RecvHandler.Operation) (engine : Engine)
        (message : String),
        RecvHandler.call helpers operation engine handler = .threw after message →
          KeepsLocalIds handler after) ∧
      ∀ (handler after : SendHandler) (track : Option Track) (encodings : List EncodingInput)
        (codecOptions : Option CodecOptions) (engine : Engine) (message : String),
        SendHandler.send helpers track encodings codecOptions engine handler =
            .threw after message →
          after.transceivers = handler.transceivers ∨
            ∃ sender, after.transceivers = handler.transceivers ++ [sender] ∧
              ((sender.mid = none ∧ sender.direction = .inactive ∧ sender.track = none ∧
                  sectionMids after.remoteSdp.mediaSections =
                    sectionMids handler.remoteSdp.mediaSections) ∨
                (sender.mid ≠ none ∧ sender.direction = .sendOnly ∧ sender.track ≠ none)) :=
  ⟨fun handler _ operation engine _ threw =>
      Method.wp_threw (SendHandler.call_threw_keepsLocalIds helpers operation engine handler) threw,
    fun handler _ operation engine _ threw =>
      Method.wp_threw (RecvHandler.call_threw_keepsLocalIds helpers operation engine handler) threw,
    fun handler _ track encodings codecOptions engine _ threw =>
      (Method.wp_threw
        (SendHandler.send_threw_sender helpers track encodings codecOptions engine handler)
        threw).2⟩

theorem failed_local_description_undoes_sender :
    ∃ after,
      SendHandler.send exampleHelpers (some (exampleTrack "a")) [] none
          { exampleEngine "0" ["0"] with setLocalDescription := .error "failed" }
          exampleSendHandler = .threw after "failed" ∧
        (after.transceivers = exampleSendHandler.transceivers ∨
          ∃ sender, after.transceivers = exampleSendHandler.transceivers ++ [sender] ∧
            ((sender.mid = none ∧ sender.direction = .inactive ∧ sender.track = none ∧
                sectionMids after.remoteSdp.mediaSections =
                  sectionMids exampleSendHandler.remoteSdp.mediaSections) ∨
              (sender.mid ≠ none ∧ sender.direction = .sendOnly ∧ sender.track ≠ none))) :=
  ⟨_, rfl, (failed_negotiation_undoes_try_block exampleHelpers).2.2 _ _
    (some (exampleTrack "a")) [] none
    { exampleEngine "0" ["0"] with setLocalDescription := .error "failed" } _ rfl⟩

/--
A failed negotiation is not rolled back.  A `Send` whose
`SetRemoteDescription` throws leaves its answer section in the remote SDP
and in `midToIndex`; a `Send` whose `GetLocalDescription` throws, after the
`try` block, leaves its transceiver sending the track; a `Receive` whose
`SetRemoteDescription` throws leaves its offered section.
-/
theorem failed_negotiation_keeps_section_and_sender :
    (∃ after,
      SendHandler.send exampleHelpers (some (exampleTrack "a")) [] none
          { exampleEngine "0" ["0"] with setRemoteDescription := .error "rejected" }
          exampleSendHandler = .threw after "rejected" ∧
        sectionMids exampleSendHandler.remoteSdp.mediaSections = [] ∧
        sectionMids after.remoteSdp.mediaSections = ["0"] ∧
        after.remoteSdp.midToIndex.find? "0" = some 0) ∧
    (∃ after,
      SendHandler.send exampleHelpers (some (exampleTrack "a")) [] none
          { exampleEngine "0" ["0"] with getLocalDescription := .error "failed" }
          exampleSendHandler = .threw after "failed" ∧
        after.transceivers =
          [{ mid := some "0", direction := .sendOnly, track := some "a"
             encodingsActive := [true] }]) ∧
    ∃ after,
      RecvHandler.receive "track" "audio" RemoteSdp.exampleRtpParameters
          { exampleEngine "" ["0"] with setRemoteDescription := .error "rejected" }
          exampleHandler = .threw after "rejected" ∧
        sectionMids exampleHandler.remoteSdp.mediaSections = [] ∧
        sectionMids after.remoteSdp.mediaSections = ["0"] ∧
        after.remoteSdp.midToIndex.find? "0" = some 0 :=
  ⟨⟨_, rfl, rfl, rfl, rfl⟩, ⟨_, rfl, rfl⟩, ⟨_, rfl, rfl, rfl, rfl⟩⟩

end MediasoupClient
