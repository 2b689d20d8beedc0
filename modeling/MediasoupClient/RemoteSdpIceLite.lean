import MediasoupClient.RemoteSdp

namespace MediasoupClient.Sdp

/-!
# The ICE-lite indicator

The constructor writes `icelite: ice-lite` when its `iceParameters` have an
`iceLite` member; `UpdateIceParameters` writes it for new parameters that
have one, and `UpdateDtlsRole` for the stored ones.  Nothing erases it.  So
after every run from the constructor the session is marked ICE-lite exactly
when the constructor's parameters or those of some `UpdateIceParameters`
call of the run had `iceLite`: an ICE restart with full-ICE parameters
leaves a session once marked lite still marked.
-/

namespace RemoteSdp

/-- Whether a call gives new ICE parameters with an `iceLite` member. -/
def givesIceLite : Operation → Bool
  | .updateIceParameters iceParameters => iceParameters.iceLite
  | _ => false

/-- The stored ICE parameters' `iceLite` member shows in the document. -/
def IceLiteMarked (sdp : RemoteSdp) : Prop :=
  sdp.iceParameters.iceLite → sdp.sdpObject.icelite = some "ice-lite"

/-- `iceliteFor` keeps a marked document as it is. -/
theorem iceliteFor_of_marked {sdp : RemoteSdp} (marked : IceLiteMarked sdp) :
    iceliteFor sdp.iceParameters sdp.sdpObject.icelite = sdp.sdpObject.icelite := by
  unfold iceliteFor
  split
  · exact (marked ‹_›).symm
  · rfl

/--
A completed call keeps the stored parameters' flag shown, and writes the
indicator exactly when it gives new parameters with `iceLite`.
-/
theorem iceLite_step {sdp next : RemoteSdp} {operation : Operation}
    (marked : IceLiteMarked sdp) (stepped : sdp.step operation = .ok next) :
    IceLiteMarked next ∧
      next.sdpObject.icelite =
        if givesIceLite operation then some "ice-lite" else sdp.sdpObject.icelite := by
  cases operation with
  | createAnswer =>
      obtain ⟨_, _, ⟨_, rfl⟩ | ⟨reuse, replaced⟩⟩ := step_createAnswer_ok stepped
      · exact ⟨marked, rfl⟩
      · obtain ⟨_, _, rfl⟩ := replaceMediaSection_ok reuse replaced
        exact ⟨marked, rfl⟩
  | sendSctpAssociation =>
      obtain ⟨_, _, rfl⟩ := sendSctpAssociation_ok stepped
      exact ⟨marked, rfl⟩
  | recvSctpAssociation =>
      obtain ⟨_, _, rfl⟩ := recvSctpAssociation_ok stepped
      exact ⟨marked, rfl⟩
  | createOffer =>
      obtain ⟨_, _, rfl⟩ := createOffer_ok stepped
      exact ⟨marked, rfl⟩
  | disableMediaSection =>
      obtain ⟨_, _, rfl⟩ := disableMediaSection_ok stepped
      exact ⟨marked, rfl⟩
  | closeMediaSection =>
      obtain ⟨_, _, rfl⟩ := closeMediaSection_ok stepped
      exact ⟨marked, rfl⟩
  | updateIceParameters iceParameters =>
      cases stepped
      have written : (sdp.updateIceParameters iceParameters).sdpObject.icelite =
          if iceParameters.iceLite then some "ice-lite" else sdp.sdpObject.icelite := rfl
      exact ⟨fun lite => written.trans (if_pos lite), written⟩
  | updateDtlsRole =>
      cases stepped
      exact ⟨fun lite => (iceliteFor_of_marked marked).trans (marked lite),
        iceliteFor_of_marked marked⟩
  | getSdp | getNextMediaSectionIdx =>
      cases stepped
      exact ⟨marked, rfl⟩

/--
After a completed run the indicator is written when some call gave new
parameters with `iceLite`, and is as before otherwise.
-/
theorem iceLite_run {sdp next : RemoteSdp} {operations : List Operation}
    (marked : IceLiteMarked sdp) (ran : sdp.run operations = .ok next) :
    IceLiteMarked next ∧
      next.sdpObject.icelite =
        if operations.any givesIceLite then some "ice-lite" else sdp.sdpObject.icelite := by
  induction operations generalizing sdp with
  | nil =>
      cases ran
      exact ⟨marked, rfl⟩
  | cons operation rest inductionHypothesis =>
      simp only [run] at ran
      split at ran
      · rename_i middle stepped
        obtain ⟨middleMarked, middleIcelite⟩ := iceLite_step marked stepped
        obtain ⟨nextMarked, nextIcelite⟩ := inductionHypothesis middleMarked ran
        refine ⟨nextMarked, ?_⟩
        rw [nextIcelite, middleIcelite, List.any_cons]
        cases givesIceLite operation <;> simp
      · cases ran

/--
After every run from the constructor that completes, the document is
marked ICE-lite exactly when the constructor's ICE parameters or those of
some `UpdateIceParameters` call of the run had an `iceLite` member, and
carries no indicator otherwise.
-/
theorem icelite_marks_any_lite_parameters {iceParameters : IceParameters}
    {iceCandidates : List IceCandidate} {dtlsParameters : DtlsParameters}
    {sctpParameters : Option SctpParameters} {start sdp : RemoteSdp}
    {operations : List Operation}
    (created :
      create iceParameters iceCandidates dtlsParameters sctpParameters = .ok start)
    (ran : start.run operations = .ok sdp) :
    sdp.sdpObject.icelite =
      if iceParameters.iceLite || operations.any givesIceLite then some "ice-lite"
      else none := by
  obtain ⟨_, rfl⟩ := create_ok created
  have written : (initialState iceParameters iceCandidates dtlsParameters sctpParameters
      ‹_›).sdpObject.icelite = if iceParameters.iceLite then some "ice-lite" else none := rfl
  have initial : IceLiteMarked (initialState iceParameters iceCandidates dtlsParameters
      sctpParameters ‹_›) := fun lite => written.trans (if_pos lite)
  rw [(iceLite_run initial ran).2, written]
  cases iceParameters.iceLite <;> cases operations.any givesIceLite <;> rfl

/-- Full-ICE parameters for an ICE restart. -/
def exampleFullIceParameters : IceParameters :=
  { exampleIceParameters with iceLite := false }

theorem icelite_stays_after_full_ice_restart :
    ∃ start sdp,
      create exampleFullIceParameters [] exampleDtlsParameters none = .ok start ∧
        start.run [.updateIceParameters exampleIceParameters,
          .updateIceParameters exampleFullIceParameters] = .ok sdp ∧
        sdp.sdpObject.icelite = some "ice-lite" :=
  have created : create exampleFullIceParameters [] exampleDtlsParameters none = .ok _ := rfl
  have ran : RemoteSdp.run _ [.updateIceParameters exampleIceParameters,
      .updateIceParameters exampleFullIceParameters] = .ok _ := rfl
  ⟨_, _, created, ran, icelite_marks_any_lite_parameters created ran⟩

end RemoteSdp

end MediasoupClient.Sdp
