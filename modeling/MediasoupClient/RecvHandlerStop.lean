import MediasoupClient.HandlerDefined

namespace MediasoupClient

open Sdp Sdp.RemoteSdp

/-!
# `StopReceiving` closes the section `Receive` offered

`Receive` offers a section with the localId as mid, so `AddMediaSection`
maps the localId to the index of the section it appends, and `GetSdp` and
`UpdateDtlsRole` leave the map alone.  The entry `Receive` writes names the
transceiver `findIdx?` found with that mid.  So `StopReceiving` of the
localId `Receive` returned reads that index and closes that section, or only
disables it when its mid is `firstMid`, and changes no other section.
-/

namespace Sdp.RemoteSdp

variable {sdp : RemoteSdp}

@[simp] theorem midToIndex_getSdp : sdp.getSdp.2.midToIndex = sdp.midToIndex :=
  rfl

@[simp] theorem firstMid_getSdp : sdp.getSdp.2.firstMid = sdp.firstMid :=
  rfl

@[simp] theorem midToIndex_updateDtlsRole (role : String) :
    (sdp.updateDtlsRole role).midToIndex = sdp.midToIndex :=
  rfl

@[simp] theorem length_mediaSections_updateDtlsRole (role : String) :
    (sdp.updateDtlsRole role).mediaSections.length = sdp.mediaSections.length := by
  simp [updateDtlsRole]

/-- `CreateOffer` maps its mid to the index of the section it appends. -/
theorem createOffer_registers {mid kind streamId trackId : String}
    {offerRtpParameters : RtpParameters} {next : RemoteSdp}
    (offered : sdp.createOffer mid kind offerRtpParameters streamId trackId = .ok next) :
    next.midToIndex.find? mid = some sdp.mediaSections.length ∧
      next.mediaSections.length = sdp.mediaSections.length + 1 := by
  obtain ⟨mediaSection, constructed, rfl⟩ := createOffer_ok offered
  have named : mediaSection.getMid = mid := (offerMediaSection_spec constructed).2.mid_eq
  simp [named]

end Sdp.RemoteSdp

namespace RecvHandler

/-- A `Receive` that returns maps its localId to the index of the one section it appends. -/
theorem receive_registers (id kind : String) (rtpParameters : RtpParameters) (engine : Engine)
    (handler : Handler) :
    Method.wp (receive id kind rtpParameters engine)
      (fun result after =>
        after.remoteSdp.midToIndex.find? result.localId =
            some handler.remoteSdp.mediaSections.length ∧
          after.remoteSdp.mediaSections.length = handler.remoteSdp.mediaSections.length + 1)
      (fun _ _ => True) handler := by
  simp only [Method.wp_bind, ↓Method.wp_pure, ↓Method.wp_read, ↓Method.wp_modify,
    ↓Method.wp_throw, ↓Method.wp_undefined, ↓Method.wp_engine, ↓Method.wp_getOr,
    ↓Method.wp_remote, ↓Method.wp_ite, receive, Handler.updateRemoteSdp, Handler.getSdp,
    Handler.setupTransport, midToIndex_getSdp, midToIndex_updateDtlsRole,
    mediaSections_getSdp, length_mediaSections_updateDtlsRole]
  repeat' split
  all_goals first
    | exact True.intro
    | exact createOffer_registers ‹_›

/--
A `StopReceiving` that returns closes, with `CloseMediaSection`, the mid of
the transceiver its localId's entry names, and the answer leaves the
sections as they are.
-/
theorem stopReceiving_closes (localId : String) (engine : Engine) (handler : Handler) :
    Method.wp (stopReceiving localId engine)
      (fun _ after => ∃ transceiver mid next,
        handler.mapMidTransceiver.find? localId = some transceiver ∧
          handler.transceivers[transceiver]?.bind Transceiver.mid = some mid ∧
          handler.remoteSdp.closeMediaSection mid = .ok next ∧
          after.remoteSdp.mediaSections = next.mediaSections)
      (fun _ _ => True) handler := by
  simp only [Method.wp_bind, ↓Method.wp_pure, ↓Method.wp_read, ↓Method.wp_modify,
    ↓Method.wp_throw, ↓Method.wp_undefined, ↓Method.wp_engine, ↓Method.wp_getOr,
    ↓Method.wp_remote, stopReceiving, Handler.findTransceiver, Handler.transceiverMid,
    Handler.updateRemoteSdp, Handler.answerRemoteOffer, Handler.getSdp, mediaSections_getSdp]
  repeat' split
  all_goals try exact True.intro
  refine ⟨_, _, _, ‹_›, ?_, ‹_›, rfl⟩
  rw [‹handler.transceivers[_]? = _›]
  assumption

end RecvHandler

/--
`StopReceiving` of the localId a `Receive` has just returned undoes that
`Receive`'s section: `Receive` appended exactly one section, whose mid is
the localId, and `StopReceiving`, when it returns, closes that section (or
only disables it when its mid is `firstMid`) and leaves every other
section as it was.
-/
theorem stop_receiving_closes_received_section {id kind : String}
    {rtpParameters : RtpParameters} {engine engine' : Engine}
    {handler middle after : Handler} {result : RecvResult}
    (received : RecvHandler.receive id kind rtpParameters engine handler =
      .returned middle result)
    (stopped : RecvHandler.stopReceiving result.localId engine' middle = .returned after ()) :
    middle.remoteSdp.mediaSections.length = handler.remoteSdp.mediaSections.length + 1 ∧
      ∃ mediaSection,
        middle.remoteSdp.mediaSections[handler.remoteSdp.mediaSections.length]? =
            some mediaSection ∧
          mediaSection.getMid = result.localId ∧
          after.remoteSdp.mediaSections =
            middle.remoteSdp.mediaSections.set handler.remoteSdp.mediaSections.length
              (if result.localId = middle.remoteSdp.firstMid then mediaSection.disable
                else mediaSection.close) := by
  obtain ⟨registered, grown⟩ :=
    Method.wp_returned (RecvHandler.receive_registers id kind rtpParameters engine handler)
      received
  obtain ⟨-, entry, assigned, entryNamed, sectionsAdded, -⟩ :=
    (Method.wp_returned (RecvHandler.receive_effect id kind rtpParameters engine handler)
      received).adds
  obtain ⟨transceiver, mid, next, found, named, closed, sameSections⟩ :=
    Method.wp_returned (RecvHandler.stopReceiving_closes result.localId engine' middle) stopped
  have sameEntry : transceiver = entry := by
    simpa [assigned] using found.symm
  have sameMid : mid = result.localId := by
    rw [sameEntry, entryNamed] at named
    exact (Option.some.inj named).symm
  subst sameEntry sameMid
  obtain ⟨mediaSection, atIdx, rfl⟩ := closeMediaSection_ok closed
  rw [StringMap.subscript_of_find? registered] at atIdx sameSections
  have midAt : (sectionMids middle.remoteSdp.mediaSections)[
      handler.remoteSdp.mediaSections.length]? = some result.localId := by
    rw [sectionsAdded, List.getElem?_append_right (by simp [sectionMids])]
    simp [sectionMids]
  refine ⟨grown, mediaSection, atIdx, ?_, sameSections⟩
  simpa [sectionMids, atIdx] using midAt

theorem stop_receiving_closes_received_section_of_first_receive :
    ∃ middle after,
      RecvHandler.receive "track" "audio" exampleRtpParameters (exampleEngine "" ["0"])
          exampleHandler = .returned middle { localId := "0" } ∧
        RecvHandler.stopReceiving "0" (exampleEngine "" ["0"]) middle = .returned after () ∧
        middle.remoteSdp.mediaSections.length = 1 ∧
        ∃ mediaSection,
          middle.remoteSdp.mediaSections[0]? = some mediaSection ∧ mediaSection.getMid = "0" ∧
            after.remoteSdp.mediaSections =
              middle.remoteSdp.mediaSections.set 0
                (if "0" = middle.remoteSdp.firstMid then mediaSection.disable
                  else mediaSection.close) :=
  ⟨_, _, rfl, rfl, @stop_receiving_closes_received_section "track" "audio" exampleRtpParameters
    (exampleEngine "" ["0"]) (exampleEngine "" ["0"]) exampleHandler _ _ { localId := "0" }
    rfl rfl⟩

end MediasoupClient
