import MediasoupClient.RemoteSdpIceLite
import MediasoupClient.RemoteSdpTransport

namespace MediasoupClient.Sdp

/-!
# How the transport updates compose

`UpdateIceParameters` and `UpdateDtlsRole` patch every section in place
and restamp every copy in `sdpObject["media"]`: the first writes the ICE
credentials, the second the `a=setup` of each section (an answer maps the
role, an offer writes `actpass`), and both write the ICE-lite indicator
from the parameters they hold.  The patches touch different members, so
the two updates commute once the stored parameters' `iceLite` shows in
the document, as it does in every reachable state; a valid role overrides
whatever an earlier `UpdateDtlsRole` wrote, while an unknown one leaves an
answer's setup as the earlier call wrote it; and new ICE parameters
override earlier ones except for the indicator, which nothing erases.
-/

/-! ## One section -/

namespace MediaSection

/-- A valid role writes the setup whatever role was written before. -/
theorem setDtlsRole_setDtlsRole (mediaSection : MediaSection) (role : String)
    {role' : String} (valid : ValidDtlsRole role') :
    (mediaSection.setDtlsRole role).setDtlsRole role' = mediaSection.setDtlsRole role' := by
  obtain ⟨_, written⟩ := mediaSection.setDtlsRole_eq role
  rw [written]
  obtain ⟨variant, mediaObject⟩ := mediaSection
  cases variant <;> rcases valid with rfl | rfl | rfl <;> rfl

/-- The setup and the ICE credentials are written independently. -/
theorem setDtlsRole_setIceParameters (mediaSection : MediaSection) (role : String)
    (iceParameters : IceParameters) :
    (mediaSection.setIceParameters iceParameters).setDtlsRole role =
      (mediaSection.setDtlsRole role).setIceParameters iceParameters := by
  obtain ⟨variant, mediaObject⟩ := mediaSection
  cases variant
  · unfold setDtlsRole
    cases answerSetup role <;> rfl
  · rfl

@[simp] theorem setIceParameters_setIceParameters (mediaSection : MediaSection)
    (iceParameters iceParameters' : IceParameters) :
    (mediaSection.setIceParameters iceParameters).setIceParameters iceParameters' =
      mediaSection.setIceParameters iceParameters' :=
  rfl

end MediaSection

/-! ## The remote SDP -/

namespace RemoteSdp

/-- Restamping twice writes what the second restamp writes. -/
theorem restampMedia_restampMedia {mediaSections mediaSections' : List MediaSection}
    (sameLength : mediaSections'.length = mediaSections.length) (media : List MediaObject) :
    restampMedia mediaSections' (restampMedia mediaSections media) =
      restampMedia mediaSections' media := by
  rw [restampMedia_eq, restampMedia_eq, restampMedia_eq, sameLength,
    List.drop_left' (List.length_map _ _)]

/-- A second indicator write keeps the first unless only the first parameters were lite. -/
theorem iceliteFor_iceliteFor {iceParameters iceParameters' : IceParameters}
    {icelite : Option String}
    (kept : iceParameters.iceLite → iceParameters'.iceLite ∨ icelite = some "ice-lite") :
    iceliteFor iceParameters' (iceliteFor iceParameters icelite) =
      iceliteFor iceParameters' icelite := by
  unfold iceliteFor
  by_cases lite : iceParameters.iceLite
  · rcases kept lite with lite' | marked
    · simp [lite']
    · simp [lite, marked]
  · simp [lite]

section Laws

variable (sdp : RemoteSdp)

/-- A valid role overrides every earlier `UpdateDtlsRole`. -/
theorem updateDtlsRole_updateDtlsRole (role : String) {role' : String}
    (valid : ValidDtlsRole role') :
    (sdp.updateDtlsRole role).updateDtlsRole role' = sdp.updateDtlsRole role' := by
  simp only [updateDtlsRole, List.map_map, Function.comp_def,
    MediaSection.setDtlsRole_setDtlsRole _ role valid,
    iceliteFor_iceliteFor (fun lite => Or.inl lite),
    restampMedia_restampMedia, List.length_map]

/-- New ICE parameters override earlier ones, except for an indicator only the earlier wrote. -/
theorem updateIceParameters_updateIceParameters (iceParameters iceParameters' : IceParameters)
    (kept : iceParameters.iceLite →
      iceParameters'.iceLite ∨ sdp.sdpObject.icelite = some "ice-lite") :
    (sdp.updateIceParameters iceParameters).updateIceParameters iceParameters' =
      sdp.updateIceParameters iceParameters' := by
  simp only [updateIceParameters, List.map_map, Function.comp_def,
    MediaSection.setIceParameters_setIceParameters, iceliteFor_iceliteFor kept,
    restampMedia_restampMedia, List.length_map]

/-- Once the stored parameters' `iceLite` shows, the two updates commute. -/
theorem updateDtlsRole_updateIceParameters (marked : IceLiteMarked sdp)
    (iceParameters : IceParameters) (role : String) :
    (sdp.updateIceParameters iceParameters).updateDtlsRole role =
      (sdp.updateDtlsRole role).updateIceParameters iceParameters := by
  simp only [updateDtlsRole, updateIceParameters, List.map_map, Function.comp_def,
    MediaSection.setDtlsRole_setIceParameters, iceliteFor_of_marked marked,
    iceliteFor_iceliteFor (fun lite => Or.inl lite),
    restampMedia_restampMedia, List.length_map]

end Laws

/-- Every state reached from the constructor shows its stored parameters' `iceLite`. -/
theorem iceLiteMarked_of_reaches {iceParameters : IceParameters}
    {iceCandidates : List IceCandidate} {dtlsParameters : DtlsParameters}
    {sctpParameters : Option SctpParameters}
    {allowed : RemoteSdp → Operation → Prop} {start sdp : RemoteSdp}
    (created :
      create iceParameters iceCandidates dtlsParameters sctpParameters = .ok start)
    (reached : Reaches allowed start sdp) :
    IceLiteMarked sdp := by
  induction reached with
  | refl =>
      obtain ⟨_, rfl⟩ := create_ok created
      exact fun lite => if_pos lite
  | step _ _ _ stepped marked => exact (iceLite_step marked stepped).1

/--
In every state reached from the constructor by any calls that complete, the
transport updates compose as patches: `UpdateDtlsRole` with a valid role
leaves what it alone would leave, whatever role an `UpdateDtlsRole` just
before it wrote; `UpdateIceParameters` and `UpdateDtlsRole` give the same
state in either order; and `UpdateIceParameters` leaves what it alone would
leave after any other `UpdateIceParameters`, unless only that earlier one
was ICE-lite and the session not yet marked.
-/
theorem transport_updates_compose {iceParameters : IceParameters}
    {iceCandidates : List IceCandidate} {dtlsParameters : DtlsParameters}
    {sctpParameters : Option SctpParameters}
    {allowed : RemoteSdp → Operation → Prop} {start sdp : RemoteSdp}
    (created :
      create iceParameters iceCandidates dtlsParameters sctpParameters = .ok start)
    (reached : Reaches allowed start sdp) :
    (∀ role role', ValidDtlsRole role' →
      (sdp.updateDtlsRole role).updateDtlsRole role' = sdp.updateDtlsRole role') ∧
    (∀ newIceParameters role,
      (sdp.updateIceParameters newIceParameters).updateDtlsRole role =
        (sdp.updateDtlsRole role).updateIceParameters newIceParameters) ∧
    ∀ newIceParameters newIceParameters',
      (newIceParameters.iceLite →
        newIceParameters'.iceLite ∨ sdp.sdpObject.icelite = some "ice-lite") →
      (sdp.updateIceParameters newIceParameters).updateIceParameters newIceParameters' =
        sdp.updateIceParameters newIceParameters' :=
  ⟨fun role _ valid => sdp.updateDtlsRole_updateDtlsRole role valid,
    (sdp.updateDtlsRole_updateIceParameters (iceLiteMarked_of_reaches created reached)),
    fun newIceParameters newIceParameters' kept =>
      sdp.updateIceParameters_updateIceParameters newIceParameters newIceParameters' kept⟩

/-- An engine's audio offer section, with no extension and no simulcast. -/
def exampleAudioOffer : LocalMediaObject where
  mid := "0"
  type := "audio"
  protocol := "UDP/TLS/RTP/SAVPF"
  ext := none
  extmapAllowMixed := none
  simulcast := none
  rids := none

theorem transport_updates_compose_after_answer :
    ∃ sdp, Reaches anyCall exampleStart sdp ∧
      (sdp.updateDtlsRole "client").updateDtlsRole "unknown" ≠ sdp.updateDtlsRole "unknown" ∧
      (∀ role role', ValidDtlsRole role' →
        (sdp.updateDtlsRole role).updateDtlsRole role' = sdp.updateDtlsRole role') ∧
      (∀ newIceParameters role,
        (sdp.updateIceParameters newIceParameters).updateDtlsRole role =
          (sdp.updateDtlsRole role).updateIceParameters newIceParameters) ∧
      ∀ newIceParameters newIceParameters',
        (newIceParameters.iceLite →
          newIceParameters'.iceLite ∨ sdp.sdpObject.icelite = some "ice-lite") →
        (sdp.updateIceParameters newIceParameters).updateIceParameters newIceParameters' =
          sdp.updateIceParameters newIceParameters' :=
  have reached : Reaches anyCall exampleStart _ :=
    Reaches.refl.step
      (.createAnswer exampleAudioOffer "" exampleRtpParameters exampleRtpParameters none)
      trivial rfl
  ⟨_, reached, by decide, transport_updates_compose create_example reached⟩

end RemoteSdp

end MediasoupClient.Sdp
