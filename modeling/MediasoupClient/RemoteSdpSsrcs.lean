import MediasoupClient.RemoteSdp

namespace MediasoupClient.Sdp

/-!
# The SSRC lines of every section

`OfferMediaSection::OfferMediaSection` writes an `a=ssrc` line with `cname`
and one with `msid` for the first encoding's SSRC and, when the
retransmission SSRC is not `0`, two more for it and an `FID` group that
pairs the two, each SSRC read as `uint32_t`.  An answer writes no SSRC
line, `Disable` and `Close` erase both members, and the ICE and DTLS
updates do not touch them.  So in every state the constructor's object
reaches, every section and every copy in `sdpObject["media"]` has SSRC
lines that carry one `cname` and one `msid`, and its group, if any, names
two SSRCs those lines describe.
-/

/-- Both a `cname` and an `msid` line of `lines` describe `ssrc`. -/
def Describes (lines : List SsrcObject) (ssrc : Nat) : Prop :=
  (∃ line ∈ lines, line.id = ssrc ∧ line.attributeName = "cname") ∧
    ∃ line ∈ lines, line.id = ssrc ∧ line.attributeName = "msid"

/-- SSRC lines and groups as an offer writes them. -/
structure SsrcsDescribed (lines : List SsrcObject) (groups : List SsrcGroupObject) :
    Prop where
  /-- Every line is the one `cname` or the one `msid` of a 32-bit SSRC. -/
  sourced : ∃ cname msid, ∀ line ∈ lines, line.id < 2 ^ 32 ∧
    (line.attributeName = "cname" ∧ line.value = cname ∨
      line.attributeName = "msid" ∧ line.value = msid)
  single : groups.length ≤ 1
  /-- A group pairs two described SSRCs, the second not `0`, as `FID`. -/
  grouped : ∀ group ∈ groups, group.semantics = "FID" ∧
    ∃ ssrc rtxSsrc, rtxSsrc ≠ 0 ∧
      group.ssrcs = toString ssrc ++ " " ++ toString rtxSsrc ∧
      Describes lines ssrc ∧ Describes lines rtxSsrc

theorem ssrcsDescribed_nil : SsrcsDescribed [] [] :=
  ⟨⟨"", "", fun _ member => absurd member (List.not_mem_nil _)⟩, Nat.zero_le _,
    fun _ member => absurd member (List.not_mem_nil _)⟩

/-- The lines and the group an offer writes for two 32-bit SSRCs are described. -/
theorem ssrcsDescribed_ssrcAttributes {ssrc rtxSsrc : Nat} (ssrcLt : ssrc < 2 ^ 32)
    (rtxLt : rtxSsrc < 2 ^ 32) (cname : Option String) (msid : String) :
    SsrcsDescribed (ssrcAttributes ssrc rtxSsrc cname msid).1
      (ssrcAttributes ssrc rtxSsrc cname msid).2 := by
  cases cname with
  | none => exact ssrcsDescribed_nil
  | some cname =>
      by_cases noRtx : rtxSsrc = 0
      · simp only [ssrcAttributes, if_pos noRtx]
        exact ⟨⟨cname, msid, by simp; omega⟩, by simp, by simp⟩
      · simp only [ssrcAttributes, if_neg noRtx]
        refine ⟨⟨cname, msid, by simp; omega⟩, by simp, fun group member => ?_⟩
        rw [List.mem_singleton.mp member]
        exact ⟨rfl, ssrc, rtxSsrc, noRtx, rfl, by simp [Describes], by simp [Describes]⟩

namespace MediaObject

/-- The object's SSRC lines and groups are described; an absent member is empty. -/
def DescribesSsrcs (mediaObject : MediaObject) : Prop :=
  SsrcsDescribed (mediaObject.ssrcs.getD []) (mediaObject.ssrcGroups.getD [])

theorem describesSsrcs_disable (mediaObject : MediaObject) :
    mediaObject.disable.DescribesSsrcs :=
  ssrcsDescribed_nil

theorem describesSsrcs_close (mediaObject : MediaObject) :
    mediaObject.close.DescribesSsrcs :=
  ssrcsDescribed_nil

end MediaObject

namespace MediaSection

@[simp] theorem describesSsrcs_setIceParameters (mediaSection : MediaSection)
    (iceParameters : IceParameters) :
    (mediaSection.setIceParameters iceParameters).getObject.DescribesSsrcs ↔
      mediaSection.getObject.DescribesSsrcs :=
  Iff.rfl

@[simp] theorem describesSsrcs_setDtlsRole (mediaSection : MediaSection) (role : String) :
    (mediaSection.setDtlsRole role).getObject.DescribesSsrcs ↔
      mediaSection.getObject.DescribesSsrcs := by
  obtain ⟨setup, written⟩ := mediaSection.setDtlsRole_eq role
  rw [written]
  rfl

end MediaSection

/-- An answer section has no SSRC line and no group. -/
theorem describesSsrcs_answerMediaSection
    {iceParameters : IceParameters} {iceCandidates : List IceCandidate}
    {dtlsParameters : DtlsParameters} {sctpParameters : Option SctpParameters}
    {offerMediaObject : LocalMediaObject}
    {offerRtpParameters answerRtpParameters : RtpParameters}
    {codecOptions : Option CodecOptions} {built : MediaSection × RtpParameters}
    (constructed :
      answerMediaSection iceParameters iceCandidates dtlsParameters
        sctpParameters offerMediaObject offerRtpParameters answerRtpParameters
        codecOptions = .ok built) :
    built.1.getObject.DescribesSsrcs := by
  unfold answerMediaSection at constructed
  dsimp only [bind, Except.bind] at constructed
  split_ifs at constructed <;> repeat' split at constructed
  all_goals cases constructed
  all_goals exact ssrcsDescribed_nil

/-- An offer section describes the SSRCs it writes. -/
theorem describesSsrcs_offerMediaSection
    {iceParameters : IceParameters} {iceCandidates : List IceCandidate}
    {sctpParameters : Option SctpParameters} {mid kind : String}
    {offerRtpParameters : RtpParameters} {streamId trackId : String}
    {mediaSection : MediaSection}
    (constructed :
      offerMediaSection iceParameters iceCandidates sctpParameters mid kind
        offerRtpParameters streamId trackId = .ok mediaSection) :
    mediaSection.getObject.DescribesSsrcs := by
  unfold offerMediaSection at constructed
  dsimp only at constructed
  split_ifs at constructed <;> (try split at constructed) <;> cases constructed
  all_goals first
    | exact ssrcsDescribed_nil
    | exact ssrcsDescribed_ssrcAttributes (Nat.mod_lt _ (by omega)) (by split <;> omega) _ _

namespace RemoteSdp

/-- Every section and every entry of `sdpObject["media"]` describes its SSRCs. -/
structure DescribesSsrcs (sdp : RemoteSdp) : Prop where
  sections : ∀ mediaSection ∈ sdp.mediaSections, mediaSection.getObject.DescribesSsrcs
  media : ∀ entry ∈ sdp.sdpObject.media, entry.DescribesSsrcs

section Preservation

variable {sdp next : RemoteSdp} (described : sdp.DescribesSsrcs)
include described

theorem describesSsrcs_addMediaSection {newMediaSection : MediaSection}
    (fresh : newMediaSection.getObject.DescribesSsrcs) :
    (sdp.addMediaSection newMediaSection).DescribesSsrcs := by
  refine ⟨fun mediaSection member => ?_, fun entry member => ?_⟩
  · rcases List.mem_append.mp member with old | added
    · exact described.sections _ old
    · exact List.mem_singleton.mp added ▸ fresh
  · rw [addMediaSection_media] at member
    rcases List.mem_append.mp member with old | added
    · exact described.media _ old
    · exact List.mem_singleton.mp added ▸ fresh

/-- Writing a described section and its object at one index keeps both lists described. -/
theorem describesSsrcs_set {idx : Nat} {newMediaSection : MediaSection}
    (fresh : newMediaSection.getObject.DescribesSsrcs)
    (placed : next.mediaSections = sdp.mediaSections.set idx newMediaSection)
    (written : next.sdpObject.media = sdp.sdpObject.media.set idx newMediaSection.getObject) :
    next.DescribesSsrcs := by
  refine ⟨fun mediaSection member => ?_, fun entry member => ?_⟩
  · rw [placed] at member
    rcases List.mem_or_eq_of_mem_set member with old | rfl
    · exact described.sections _ old
    · exact fresh
  · rw [written] at member
    rcases List.mem_or_eq_of_mem_set member with old | rfl
    · exact described.media _ old
    · exact fresh

theorem describesSsrcs_replaceMediaSection {newMediaSection : MediaSection}
    {reuseMid : String} (reuse : reuseMid ≠ "")
    (fresh : newMediaSection.getObject.DescribesSsrcs)
    (replaced : sdp.replaceMediaSection newMediaSection reuseMid = .ok next) :
    next.DescribesSsrcs := by
  obtain ⟨_, _, rfl⟩ := replaceMediaSection_ok reuse replaced
  exact describesSsrcs_set described fresh rfl rfl

theorem describesSsrcs_disableMediaSection {mid : String}
    (disabled : sdp.disableMediaSection mid = .ok next) : next.DescribesSsrcs := by
  obtain ⟨mediaSection, _, rfl⟩ := disableMediaSection_ok disabled
  refine ⟨fun other member => ?_, described.media⟩
  rcases List.mem_or_eq_of_mem_set member with old | rfl
  · exact described.sections _ old
  · exact mediaSection.getObject.describesSsrcs_disable

theorem describesSsrcs_closeMediaSection {mid : String}
    (closed : sdp.closeMediaSection mid = .ok next) : next.DescribesSsrcs := by
  obtain ⟨mediaSection, _, rfl⟩ := closeMediaSection_ok closed
  refine describesSsrcs_set described ?_ rfl rfl
  unfold closedFor
  split
  · exact mediaSection.getObject.describesSsrcs_disable
  · exact mediaSection.getObject.describesSsrcs_close

/-- The update loops keep every section's SSRCs and restamp the entries with them. -/
theorem describesSsrcs_restamp {update : MediaSection → MediaSection}
    (keeps : ∀ mediaSection, (update mediaSection).getObject.DescribesSsrcs ↔
      mediaSection.getObject.DescribesSsrcs)
    (placed : next.mediaSections = sdp.mediaSections.map update)
    (written : next.sdpObject.media = restampMedia next.mediaSections sdp.sdpObject.media) :
    next.DescribesSsrcs := by
  have sections : ∀ mediaSection ∈ next.mediaSections,
      mediaSection.getObject.DescribesSsrcs := by
    intro mediaSection member
    rw [placed] at member
    obtain ⟨old, oldMember, rfl⟩ := List.mem_map.mp member
    exact (keeps old).mpr (described.sections old oldMember)
  refine ⟨sections, fun entry member => ?_⟩
  rw [written, restampMedia_eq] at member
  rcases List.mem_append.mp member with restamped | kept
  · obtain ⟨mediaSection, sectionMember, rfl⟩ := List.mem_map.mp restamped
    exact sections _ sectionMember
  · exact described.media _ (List.mem_of_mem_drop kept)

/-- Every call that completes keeps the SSRCs described. -/
theorem describesSsrcs_step {operation : Operation}
    (stepped : sdp.step operation = .ok next) : next.DescribesSsrcs := by
  cases operation with
  | createAnswer =>
      obtain ⟨_, constructed, ⟨_, rfl⟩ | ⟨reuse, replaced⟩⟩ := step_createAnswer_ok stepped
      · exact describesSsrcs_addMediaSection described
          (describesSsrcs_answerMediaSection constructed)
      · exact describesSsrcs_replaceMediaSection described reuse
          (describesSsrcs_answerMediaSection constructed) replaced
  | sendSctpAssociation =>
      obtain ⟨_, constructed, rfl⟩ := sendSctpAssociation_ok stepped
      exact describesSsrcs_addMediaSection described
        (describesSsrcs_answerMediaSection constructed)
  | recvSctpAssociation =>
      obtain ⟨_, constructed, rfl⟩ := recvSctpAssociation_ok stepped
      exact describesSsrcs_addMediaSection described
        (describesSsrcs_offerMediaSection constructed)
  | createOffer =>
      obtain ⟨_, constructed, rfl⟩ := createOffer_ok stepped
      exact describesSsrcs_addMediaSection described
        (describesSsrcs_offerMediaSection constructed)
  | disableMediaSection => exact describesSsrcs_disableMediaSection described stepped
  | closeMediaSection => exact describesSsrcs_closeMediaSection described stepped
  | updateIceParameters =>
      cases stepped
      exact describesSsrcs_restamp described
        (fun mediaSection => mediaSection.describesSsrcs_setIceParameters _) rfl rfl
  | updateDtlsRole =>
      cases stepped
      exact describesSsrcs_restamp described
        (fun mediaSection => mediaSection.describesSsrcs_setDtlsRole _) rfl rfl
  | getSdp | getNextMediaSectionIdx =>
      cases stepped
      exact ⟨described.sections, described.media⟩

end Preservation

/--
In every state reached from the constructor by any calls that complete,
every section and every entry of `sdpObject["media"]` has SSRC lines that
are the one `cname` or the one `msid` of a 32-bit SSRC, at most one
group, and a group only as an `FID` pair of two SSRCs, the second not `0`,
that both have a `cname` and an `msid` line.
-/
theorem ssrc_groups_name_described_ssrcs {iceParameters : IceParameters}
    {iceCandidates : List IceCandidate} {dtlsParameters : DtlsParameters}
    {sctpParameters : Option SctpParameters}
    {allowed : RemoteSdp → Operation → Prop} {start sdp : RemoteSdp}
    (created :
      create iceParameters iceCandidates dtlsParameters sctpParameters = .ok start)
    (reached : Reaches allowed start sdp) :
    (∀ mediaSection ∈ sdp.mediaSections, mediaSection.getObject.DescribesSsrcs) ∧
      ∀ entry ∈ sdp.sdpObject.media, entry.DescribesSsrcs := by
  have described : sdp.DescribesSsrcs := by
    induction reached with
    | refl =>
        obtain ⟨_, rfl⟩ := create_ok created
        exact ⟨fun _ member => absurd member (List.not_mem_nil _),
          fun _ member => absurd member (List.not_mem_nil _)⟩
    | step _ _ _ stepped described => exact describesSsrcs_step described stepped
  exact ⟨described.sections, described.media⟩

/-- Consumer parameters whose one encoding has a retransmission SSRC. -/
def exampleRtxRtpParameters : RtpParameters :=
  { exampleRtpParameters with
    encodings := [{ ssrc := some 1111, rtx := some { ssrc := some 2222 } }] }

theorem ssrc_groups_name_described_ssrcs_of_rtx_offer :
    ∃ sdp, Reaches anyCall exampleStart sdp ∧
      sdp.mediaSections.map (·.getObject.ssrcGroups) =
        [some [{ semantics := "FID", ssrcs := "1111 2222" }]] ∧
      (∀ mediaSection ∈ sdp.mediaSections, mediaSection.getObject.DescribesSsrcs) ∧
      ∀ entry ∈ sdp.sdpObject.media, entry.DescribesSsrcs :=
  have reached : Reaches anyCall exampleStart _ :=
    Reaches.refl.step (.createOffer "a" "video" exampleRtxRtpParameters "s" "t") trivial rfl
  ⟨_, reached, rfl, ssrc_groups_name_described_ssrcs create_example reached⟩

end RemoteSdp

end MediasoupClient.Sdp
