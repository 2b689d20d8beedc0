import MediasoupClient.RemoteSdpMedia

namespace MediasoupClient.Sdp

/-!
# ICE credentials and DTLS setup of every section

Sections made before an `UpdateIceParameters` or `UpdateDtlsRole` are patched
by its loop, sections made after it take the members the update wrote, and
an answer and an offer patch `a=setup` differently: the answer maps the role
(and ignores a role it does not know), the offer always writes `actpass`.
When every role the transport is given is `client`, `server` or `auto`,
every section and every copy in `sdpObject["media"]` carries the current
credentials and the setup its subclass gets from the current role.
-/

/-- The DTLS roles `AnswerMediaSection` maps to an `a=setup` value. -/
def ValidDtlsRole (role : String) : Prop :=
  role = "client" ∨ role = "server" ∨ role = "auto"

instance : DecidablePred ValidDtlsRole :=
  fun _ => inferInstanceAs (Decidable (_ ∨ _ ∨ _))

/-- The setup an answer takes from each valid role. -/
theorem answerSetup_of_valid {role : String} (valid : ValidDtlsRole role) :
    (role = "client" ∧ answerSetup role = some "active") ∨
      (role = "server" ∧ answerSetup role = some "passive") ∨
      (role = "auto" ∧ answerSetup role = some "actpass") := by
  rcases valid with rfl | rfl | rfl <;> decide

/-- The `a=setup` a section of the subclass carries under the role. -/
def setupFor (role : String) : Variant → Option String
  | .answer => answerSetup role
  | .offer => some "actpass"

/-- An object carries the credentials and the setup its subclass gets from the role. -/
structure TransportCurrent (iceParameters : IceParameters) (role : String)
    (variant : Variant) (mediaObject : MediaObject) : Prop where
  iceUfrag_eq : mediaObject.iceUfrag = iceParameters.usernameFragment
  icePwd_eq : mediaObject.icePwd = iceParameters.password
  setup_eq : mediaObject.setup = setupFor role variant

namespace TransportCurrent

variable {iceParameters : IceParameters} {role : String} {variant : Variant}

/-- A section's header carries the transport it was built with. -/
theorem of_header {mediaObject : MediaObject} {mid : String}
    (header : Header mediaObject iceParameters mid (setupFor role variant)) :
    TransportCurrent iceParameters role variant mediaObject :=
  ⟨header.iceUfrag_eq, header.icePwd_eq, header.setup_eq⟩

/-- `Disable` keeps the credentials and the setup. -/
theorem disable {mediaObject : MediaObject}
    (current : TransportCurrent iceParameters role variant mediaObject) :
    TransportCurrent iceParameters role variant mediaObject.disable :=
  ⟨current.iceUfrag_eq, current.icePwd_eq, current.setup_eq⟩

/-- A copy of a section carries what the section carries. -/
theorem of_copy {entry : MediaObject} {mediaSection : MediaSection}
    (copy : RemoteSdp.CopyOf entry mediaSection)
    (current :
      TransportCurrent iceParameters role variant mediaSection.getObject) :
    TransportCurrent iceParameters role variant entry := by
  rcases copy with same | same <;> rw [same] at current
  · exact current
  · exact ⟨current.iceUfrag_eq, current.icePwd_eq, current.setup_eq⟩

end TransportCurrent

namespace RemoteSdp

/-- Every `UpdateDtlsRole` is given a valid role. -/
def DtlsRoleAdmissible (_ : RemoteSdp) : Operation → Prop
  | .updateDtlsRole role => ValidDtlsRole role
  | _ => True

instance (sdp : RemoteSdp) (operation : Operation) :
    Decidable (DtlsRoleAdmissible sdp operation) :=
  match operation with
  | .createAnswer _ _ _ _ _ => inferInstanceAs (Decidable True)
  | .sendSctpAssociation _ => inferInstanceAs (Decidable True)
  | .recvSctpAssociation => inferInstanceAs (Decidable True)
  | .createOffer _ _ _ _ _ => inferInstanceAs (Decidable True)
  | .disableMediaSection _ => inferInstanceAs (Decidable True)
  | .closeMediaSection _ => inferInstanceAs (Decidable True)
  | .updateIceParameters _ => inferInstanceAs (Decidable True)
  | .updateDtlsRole role => inferInstanceAs (Decidable (ValidDtlsRole role))
  | .getSdp => inferInstanceAs (Decidable True)
  | .getNextMediaSectionIdx => inferInstanceAs (Decidable True)

/-- The section carries the transport's current credentials and role. -/
def SectionCurrent (sdp : RemoteSdp) (mediaSection : MediaSection) : Prop :=
  TransportCurrent sdp.iceParameters sdp.dtlsParameters.role
    mediaSection.variant mediaSection.getObject

/-- The role is valid and every section carries the current transport. -/
structure SectionsCurrent (sdp : RemoteSdp) : Prop where
  roleValid : ValidDtlsRole sdp.dtlsParameters.role
  current : ∀ mediaSection ∈ sdp.mediaSections, sdp.SectionCurrent mediaSection

/-- An answer section is built with the current transport. -/
theorem sectionCurrent_of_answer {sdp : RemoteSdp}
    {offerMediaObject : LocalMediaObject}
    {offerRtpParameters answerRtpParameters : RtpParameters}
    {codecOptions : Option CodecOptions} {built : MediaSection × RtpParameters}
    (constructed :
      answerMediaSection sdp.iceParameters sdp.iceCandidates sdp.dtlsParameters
        sdp.sctpParameters offerMediaObject offerRtpParameters
        answerRtpParameters codecOptions = .ok built) :
    sdp.SectionCurrent built.1 := by
  obtain ⟨isAnswer, header⟩ := answerMediaSection_spec constructed
  unfold SectionCurrent
  rw [isAnswer]
  exact .of_header header

/-- An offer section is built with the current credentials and `actpass`. -/
theorem sectionCurrent_of_offer {sdp : RemoteSdp}
    {sctpParameters : Option SctpParameters} {mid kind : String}
    {offerRtpParameters : RtpParameters} {streamId trackId : String}
    {mediaSection : MediaSection}
    (constructed :
      offerMediaSection sdp.iceParameters sdp.iceCandidates sctpParameters mid
        kind offerRtpParameters streamId trackId = .ok mediaSection) :
    sdp.SectionCurrent mediaSection := by
  obtain ⟨isOffer, header⟩ := offerMediaSection_spec constructed
  unfold SectionCurrent
  rw [isOffer]
  exact .of_header header

/-- `SetDtlsRole` with a valid role writes the setup the subclass gets from it. -/
theorem setup_setDtlsRole {role : String} (valid : ValidDtlsRole role)
    (mediaSection : MediaSection) :
    (mediaSection.setDtlsRole role).getObject.setup =
      setupFor role mediaSection.variant := by
  obtain ⟨variant, mediaObject⟩ := mediaSection
  cases variant <;> rcases valid with rfl | rfl | rfl <;> rfl

section Preservation

variable {sdp next : RemoteSdp} (sections : SectionsCurrent sdp)
include sections

theorem current_addMediaSection {newMediaSection : MediaSection}
    (fresh : sdp.SectionCurrent newMediaSection) :
    SectionsCurrent (sdp.addMediaSection newMediaSection) := by
  refine ⟨sections.roleValid, fun mediaSection member => ?_⟩
  rcases List.mem_append.mp member with old | added
  · exact sections.current _ old
  · exact List.mem_singleton.mp added ▸ fresh

/-- Writing a current section into a slot keeps every section current. -/
theorem current_set {idx : Nat} {newMediaSection : MediaSection}
    (fresh : sdp.SectionCurrent newMediaSection)
    {next : RemoteSdp}
    (sameTransport :
      next.iceParameters = sdp.iceParameters ∧
        next.dtlsParameters = sdp.dtlsParameters)
    (placed : next.mediaSections = sdp.mediaSections.set idx newMediaSection) :
    SectionsCurrent next := by
  unfold SectionCurrent at fresh
  refine ⟨sameTransport.2 ▸ sections.roleValid, fun mediaSection member => ?_⟩
  unfold SectionCurrent
  rw [sameTransport.1, sameTransport.2]
  rw [placed] at member
  rcases List.mem_or_eq_of_mem_set member with old | written
  · exact sections.current _ old
  · exact written ▸ fresh

theorem current_replaceMediaSection {newMediaSection : MediaSection}
    {reuseMid : String} (reuse : reuseMid ≠ "")
    (fresh : sdp.SectionCurrent newMediaSection)
    (replaced : sdp.replaceMediaSection newMediaSection reuseMid = .ok next) :
    SectionsCurrent next := by
  obtain ⟨_, _, rfl⟩ := replaceMediaSection_ok reuse replaced
  exact current_set sections fresh ⟨rfl, rfl⟩ rfl

theorem current_disableMediaSection {mid : String}
    (disabled : sdp.disableMediaSection mid = .ok next) :
    SectionsCurrent next := by
  obtain ⟨mediaSection, found, rfl⟩ := disableMediaSection_ok disabled
  have current : sdp.SectionCurrent mediaSection.disable :=
    (sections.current _ (List.getElem?_mem found)).disable
  exact current_set sections current ⟨rfl, rfl⟩ rfl

theorem current_closeMediaSection {mid : String}
    (closed : sdp.closeMediaSection mid = .ok next) :
    SectionsCurrent next := by
  obtain ⟨mediaSection, found, rfl⟩ := closeMediaSection_ok closed
  have current := sections.current _ (List.getElem?_mem found)
  refine current_set sections ?_ ⟨rfl, rfl⟩ rfl
  unfold closedFor
  split
  · exact current.disable
  · exact ⟨current.iceUfrag_eq, current.icePwd_eq, current.setup_eq⟩

theorem current_updateIceParameters (iceParameters : IceParameters) :
    SectionsCurrent (sdp.updateIceParameters iceParameters) := by
  refine ⟨sections.roleValid, fun mediaSection member => ?_⟩
  obtain ⟨old, oldMember, rfl⟩ := List.mem_map.mp member
  exact ⟨rfl, rfl, (sections.current old oldMember).setup_eq⟩

theorem current_updateDtlsRole {role : String} (valid : ValidDtlsRole role) :
    SectionsCurrent (sdp.updateDtlsRole role) := by
  refine ⟨valid, fun mediaSection member => ?_⟩
  obtain ⟨old, oldMember, rfl⟩ := List.mem_map.mp member
  have current := sections.current old oldMember
  obtain ⟨setup, written⟩ := old.setDtlsRole_eq role
  refine ⟨?_, ?_, by simpa using setup_setDtlsRole valid old⟩ <;>
    simp only [written, MediaSection.getObject] <;>
    simp only [MediaSection.getObject] at current
  · exact current.iceUfrag_eq
  · exact current.icePwd_eq

/-- Every completed admissible call keeps every section current. -/
theorem current_step {operation : Operation}
    (admissible : DtlsRoleAdmissible sdp operation)
    (stepped : sdp.step operation = .ok next) :
    SectionsCurrent next := by
  cases operation with
  | createAnswer =>
      obtain ⟨_, constructed, ⟨_, rfl⟩ | ⟨reuse, replaced⟩⟩ :=
        step_createAnswer_ok stepped
      · exact current_addMediaSection sections
          (sectionCurrent_of_answer constructed)
      · exact current_replaceMediaSection sections reuse
          (sectionCurrent_of_answer constructed) replaced
  | sendSctpAssociation =>
      obtain ⟨_, constructed, rfl⟩ := sendSctpAssociation_ok stepped
      exact current_addMediaSection sections (sectionCurrent_of_answer constructed)
  | recvSctpAssociation =>
      obtain ⟨_, constructed, rfl⟩ := recvSctpAssociation_ok stepped
      exact current_addMediaSection sections (sectionCurrent_of_offer constructed)
  | createOffer =>
      obtain ⟨_, constructed, rfl⟩ := createOffer_ok stepped
      exact current_addMediaSection sections (sectionCurrent_of_offer constructed)
  | disableMediaSection =>
      exact current_disableMediaSection sections stepped
  | closeMediaSection =>
      exact current_closeMediaSection sections stepped
  | updateIceParameters =>
      cases stepped
      exact current_updateIceParameters sections _
  | updateDtlsRole =>
      cases stepped
      exact current_updateDtlsRole sections admissible
  | getSdp =>
      cases stepped
      exact ⟨sections.roleValid, sections.current⟩
  | getNextMediaSectionIdx =>
      cases stepped
      exact sections

end Preservation

/-- Every state reached by admissible calls from a valid role is current. -/
theorem current_of_reaches {iceParameters : IceParameters}
    {iceCandidates : List IceCandidate} {dtlsParameters : DtlsParameters}
    {sctpParameters : Option SctpParameters} {start sdp : RemoteSdp}
    (created :
      create iceParameters iceCandidates dtlsParameters sctpParameters =
        .ok start)
    (validRole : ValidDtlsRole dtlsParameters.role)
    (reached : Reaches DtlsRoleAdmissible start sdp) :
    SectionsCurrent sdp := by
  induction reached with
  | refl =>
      obtain ⟨_, rfl⟩ := create_ok created
      exact ⟨validRole, fun _ member => absurd member (List.not_mem_nil _)⟩
  | step _ _ admissible stepped sections =>
      exact current_step sections admissible stepped

/--
Every entry of `sdpObject["media"]` carries the current ICE credentials;
an entry of an answer section carries `active`, `passive` or `actpass` as
the current role is `client`, `server` or `auto`, and an entry of an offer
section `actpass`.
-/
def EntriesCurrent (sdp : RemoteSdp) : Prop :=
  (∀ entry ∈ sdp.sdpObject.media,
    entry.iceUfrag = sdp.iceParameters.usernameFragment ∧
      entry.icePwd = sdp.iceParameters.password) ∧
  ∀ (idx : Nat) (entry : MediaObject) (mediaSection : MediaSection),
    sdp.sdpObject.media[idx]? = some entry →
    sdp.mediaSections[idx]? = some mediaSection →
    (mediaSection.variant = .answer →
      (sdp.dtlsParameters.role = "client" ∧ entry.setup = some "active") ∨
      (sdp.dtlsParameters.role = "server" ∧ entry.setup = some "passive") ∨
      (sdp.dtlsParameters.role = "auto" ∧ entry.setup = some "actpass")) ∧
    (mediaSection.variant = .offer → entry.setup = some "actpass")

/-- The entries are current in every state reached by calls with valid roles. -/
theorem entries_current_of_reaches {iceParameters : IceParameters}
    {iceCandidates : List IceCandidate} {dtlsParameters : DtlsParameters}
    {sctpParameters : Option SctpParameters} {start sdp : RemoteSdp}
    (created :
      create iceParameters iceCandidates dtlsParameters sctpParameters =
        .ok start)
    (validRole : ValidDtlsRole dtlsParameters.role)
    (reached : Reaches DtlsRoleAdmissible start sdp) :
    EntriesCurrent sdp := by
  have copies := media_copies_of_reaches created reached
  have sections := current_of_reaches created validRole reached
  have entryCurrent : ∀ (idx : Nat) (entry : MediaObject),
      sdp.sdpObject.media[idx]? = some entry →
      ∃ mediaSection : MediaSection,
        sdp.mediaSections[idx]? = some mediaSection ∧
          TransportCurrent sdp.iceParameters sdp.dtlsParameters.role
            mediaSection.variant entry := by
    intro idx entry atIdx
    obtain ⟨mediaSection, found, copy⟩ := forall₂_getElem? copies atIdx
    exact ⟨mediaSection, found,
      .of_copy copy (sections.current _ (List.getElem?_mem found))⟩
  refine ⟨fun entry member => ?_, fun idx entry mediaSection atIdx found => ?_⟩
  · obtain ⟨idx, atIdx⟩ := List.mem_iff_getElem?.mp member
    obtain ⟨_, _, current⟩ := entryCurrent idx entry atIdx
    exact ⟨current.iceUfrag_eq, current.icePwd_eq⟩
  · obtain ⟨other, foundOther, current⟩ := entryCurrent idx entry atIdx
    obtain rfl : other = mediaSection := Option.some.inj (foundOther.symm.trans found)
    refine ⟨fun isAnswer => ?_, fun isOffer => ?_⟩
    · have setup := current.setup_eq
      rw [isAnswer, setupFor] at setup
      rw [setup]
      exact answerSetup_of_valid sections.roleValid
    · simpa [isOffer, setupFor] using current.setup_eq

/-! ## The last update -/

/-- The ICE parameters an operation gives: those of `UpdateIceParameters`. -/
def Operation.iceUpdate : Operation → Option IceParameters
  | .updateIceParameters iceParameters => some iceParameters
  | _ => none

/-- The DTLS role an operation gives: that of `UpdateDtlsRole`. -/
def Operation.roleUpdate : Operation → Option String
  | .updateDtlsRole role => some role
  | _ => none

/-- The value the last update of a run gives, `initial` when none does. -/
def lastUpdate {κ α : Type} (update : κ → Option α) (initial : α) (calls : List κ) : α :=
  calls.foldl (fun current call => (update call).getD current) initial

/-- Only the updates write the ICE parameters and the DTLS role. -/
theorem step_transport {sdp next : RemoteSdp} {operation : Operation}
    (stepped : sdp.step operation = .ok next) :
    next.iceParameters = operation.iceUpdate.getD sdp.iceParameters ∧
      next.dtlsParameters.role = operation.roleUpdate.getD sdp.dtlsParameters.role := by
  cases operation with
  | createAnswer =>
      obtain ⟨_, -, ⟨_, rfl⟩ | ⟨reuse, replaced⟩⟩ := step_createAnswer_ok stepped
      · exact ⟨rfl, rfl⟩
      · obtain ⟨_, -, rfl⟩ := replaceMediaSection_ok reuse replaced
        exact ⟨rfl, rfl⟩
  | sendSctpAssociation =>
      obtain ⟨_, -, rfl⟩ := sendSctpAssociation_ok stepped
      exact ⟨rfl, rfl⟩
  | recvSctpAssociation =>
      obtain ⟨_, -, rfl⟩ := recvSctpAssociation_ok stepped
      exact ⟨rfl, rfl⟩
  | createOffer =>
      obtain ⟨_, -, rfl⟩ := createOffer_ok stepped
      exact ⟨rfl, rfl⟩
  | disableMediaSection =>
      obtain ⟨_, -, rfl⟩ := disableMediaSection_ok stepped
      exact ⟨rfl, rfl⟩
  | closeMediaSection =>
      obtain ⟨_, -, rfl⟩ := closeMediaSection_ok stepped
      exact ⟨rfl, rfl⟩
  | updateIceParameters | updateDtlsRole | getSdp | getNextMediaSectionIdx =>
      cases stepped
      exact ⟨rfl, rfl⟩

/-- After a run, the ICE parameters and the role are the last updates'. -/
theorem run_transport :
    ∀ {sdp final : RemoteSdp} (operations : List Operation), sdp.run operations = .ok final →
      final.iceParameters = lastUpdate Operation.iceUpdate sdp.iceParameters operations ∧
        final.dtlsParameters.role =
          lastUpdate Operation.roleUpdate sdp.dtlsParameters.role operations
  | _, _, [], ran => by
      cases ran
      exact ⟨rfl, rfl⟩
  | sdp, _, operation :: rest, ran => by
      simp only [RemoteSdp.run] at ran
      split at ran
      · next next stepped =>
        obtain ⟨ice, role⟩ := step_transport stepped
        rw [lastUpdate, lastUpdate, List.foldl_cons, List.foldl_cons, ← ice, ← role]
        exact run_transport rest ran
      · cases ran

/--
In every state a run from a constructor given a valid DTLS role reaches,
each `UpdateDtlsRole` of the run given a valid role, the ICE parameters are
the last `UpdateIceParameters` argument (the constructor's when there is
none) and the role the last `UpdateDtlsRole` argument (the constructor's
when there is none); every entry of `sdpObject["media"]` carries those ICE
credentials, an entry of an answer section carries `active`, `passive` or
`actpass` as that role is `client`, `server` or `auto`, and an entry of an
offer section `actpass`.
-/
theorem media_transport_current {iceParameters : IceParameters}
    {iceCandidates : List IceCandidate} {dtlsParameters : DtlsParameters}
    {sctpParameters : Option SctpParameters} {start sdp : RemoteSdp}
    {operations : List Operation}
    (created :
      create iceParameters iceCandidates dtlsParameters sctpParameters =
        .ok start)
    (validRole : ValidDtlsRole dtlsParameters.role)
    (validUpdates : ∀ role, Operation.updateDtlsRole role ∈ operations → ValidDtlsRole role)
    (ran : start.run operations = .ok sdp) :
    sdp.iceParameters = lastUpdate Operation.iceUpdate iceParameters operations ∧
    sdp.dtlsParameters.role = lastUpdate Operation.roleUpdate dtlsParameters.role operations ∧
    (∀ entry ∈ sdp.sdpObject.media,
      entry.iceUfrag = sdp.iceParameters.usernameFragment ∧
        entry.icePwd = sdp.iceParameters.password) ∧
    ∀ (idx : Nat) (entry : MediaObject) (mediaSection : MediaSection),
      sdp.sdpObject.media[idx]? = some entry →
      sdp.mediaSections[idx]? = some mediaSection →
      (mediaSection.variant = .answer →
        (sdp.dtlsParameters.role = "client" ∧ entry.setup = some "active") ∨
        (sdp.dtlsParameters.role = "server" ∧ entry.setup = some "passive") ∨
        (sdp.dtlsParameters.role = "auto" ∧ entry.setup = some "actpass")) ∧
      (mediaSection.variant = .offer → entry.setup = some "actpass") := by
  have reached : Reaches DtlsRoleAdmissible start sdp :=
    Reaches.refl.run (fun operation member _ => by
      cases operation with
      | updateDtlsRole role => exact validUpdates role member
      | _ => trivial) ran
  obtain ⟨_, rfl⟩ := create_ok created
  exact ⟨(run_transport operations ran).1, (run_transport operations ran).2,
    entries_current_of_reaches created validRole reached⟩

theorem media_transport_current_after_updates :
    ValidDtlsRole exampleDtlsParameters.role ∧
    (∀ role, Operation.updateDtlsRole role ∈
        [.createOffer "a" "audio" exampleRtpParameters "s" "t", .updateDtlsRole "client",
          .updateIceParameters
            { usernameFragment := "ufrag2", password := "pwd2", iceLite := false }] →
      ValidDtlsRole role) ∧
    ∃ sdp, exampleStart.run
        [.createOffer "a" "audio" exampleRtpParameters "s" "t", .updateDtlsRole "client",
          .updateIceParameters
            { usernameFragment := "ufrag2", password := "pwd2", iceLite := false }] = .ok sdp ∧
      sdp.iceParameters = { usernameFragment := "ufrag2", password := "pwd2", iceLite := false } ∧
      sdp.dtlsParameters.role = "client" ∧
      (∀ entry ∈ sdp.sdpObject.media,
        entry.iceUfrag = sdp.iceParameters.usernameFragment ∧
          entry.icePwd = sdp.iceParameters.password) ∧
      ∀ (idx : Nat) (entry : MediaObject) (mediaSection : MediaSection),
        sdp.sdpObject.media[idx]? = some entry →
        sdp.mediaSections[idx]? = some mediaSection →
        (mediaSection.variant = .answer →
          (sdp.dtlsParameters.role = "client" ∧ entry.setup = some "active") ∨
          (sdp.dtlsParameters.role = "server" ∧ entry.setup = some "passive") ∨
          (sdp.dtlsParameters.role = "auto" ∧ entry.setup = some "actpass")) ∧
        (mediaSection.variant = .offer → entry.setup = some "actpass") :=
  have validUpdates : ∀ role, Operation.updateDtlsRole role ∈
      [.createOffer "a" "audio" exampleRtpParameters "s" "t", .updateDtlsRole "client",
        .updateIceParameters
          { usernameFragment := "ufrag2", password := "pwd2", iceLite := false }] →
      ValidDtlsRole role := by
    intro role member
    simp only [List.mem_cons, Operation.updateDtlsRole.injEq, reduceCtorEq,
      List.mem_nil_iff, or_false, false_or] at member
    subst member
    decide
  ⟨by decide, validUpdates, _, rfl,
    media_transport_current create_example (by decide) validUpdates rfl⟩

end RemoteSdp

end MediasoupClient.Sdp
