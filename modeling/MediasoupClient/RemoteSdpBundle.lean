import MediasoupClient.RemoteSdp

namespace MediasoupClient.Sdp

/-!
# The BUNDLE group

`RegenerateBundleMids` rewrites `groups[0].mids` from the sections that are
not closed.  Every method that can change which sections are closed, or
put a section in a slot, ends with it; every other method keeps the port
and the mid of every section.  So in every reachable state the group lists
the open sections, and when no mid is empty the list is the open mids
joined by single spaces.
-/

namespace MediaSection

/-- What `RegenerateBundleMids` reads of a section. -/
def bundleKey (mediaSection : MediaSection) : Bool × String :=
  (mediaSection.isClosed, mediaSection.getMid)

@[simp] theorem bundleKey_disable (mediaSection : MediaSection) :
    mediaSection.disable.bundleKey = mediaSection.bundleKey :=
  rfl

@[simp] theorem bundleKey_setIceParameters (mediaSection : MediaSection)
    (iceParameters : IceParameters) :
    (mediaSection.setIceParameters iceParameters).bundleKey =
      mediaSection.bundleKey :=
  rfl

@[simp] theorem bundleKey_setDtlsRole (mediaSection : MediaSection)
    (role : String) :
    (mediaSection.setDtlsRole role).bundleKey = mediaSection.bundleKey := by
  simp [bundleKey]

end MediaSection

namespace RemoteSdp

/-- The bundle string depends only on each section's `bundleKey`. -/
theorem bundleMids_congr {mediaSections others : List MediaSection}
    (sameKeys :
      mediaSections.map MediaSection.bundleKey =
        others.map MediaSection.bundleKey) :
    bundleMids mediaSections = bundleMids others := by
  unfold bundleMids
  generalize "" = mids
  induction mediaSections generalizing others mids with
  | nil =>
      cases others with
      | nil => rfl
      | cons _ _ => simp at sameKeys
  | cons mediaSection rest inductionHypothesis =>
      cases others with
      | nil => simp at sameKeys
      | cons other otherRest =>
          simp only [List.map_cons, List.cons.injEq, MediaSection.bundleKey,
            Prod.mk.injEq] at sameKeys
          obtain ⟨⟨sameClosed, sameMid⟩, restKeys⟩ := sameKeys
          simp only [List.foldl_cons, bundleStep, sameClosed, sameMid]
          exact inductionHypothesis restKeys _

/-- Disabling one section keeps the bundle string. -/
theorem bundleMids_set_disable {mediaSections : List MediaSection} {idx : Nat}
    {mediaSection : MediaSection}
    (found : mediaSections[idx]? = some mediaSection) :
    bundleMids (mediaSections.set idx mediaSection.disable) =
      bundleMids mediaSections :=
  bundleMids_congr (map_set_of_getElem? found (by simp))

/-- The group is the single `BUNDLE` entry and lists the open sections. -/
def BundleGroupListsOpenSections (sdp : RemoteSdp) : Prop :=
  sdp.sdpObject.groups = [{ type := "BUNDLE", mids := bundleMids sdp.mediaSections }]

/-- `RegenerateBundleMids` re-establishes the group from the sections. -/
theorem bundle_regenerateBundleMids {sdp : RemoteSdp} {mids : String}
    (single : sdp.sdpObject.groups = [{ type := "BUNDLE", mids := mids }]) :
    BundleGroupListsOpenSections sdp.regenerateBundleMids := by
  simp [BundleGroupListsOpenSections, regenerateBundleMids, single]

section Preservation

variable {sdp next : RemoteSdp} (listed : BundleGroupListsOpenSections sdp)
include listed

theorem bundle_addMediaSection (newMediaSection : MediaSection) :
    BundleGroupListsOpenSections (sdp.addMediaSection newMediaSection) :=
  bundle_regenerateBundleMids listed

theorem bundle_replaceMediaSection {newMediaSection : MediaSection}
    {reuseMid : String} (reuse : reuseMid ≠ "")
    (replaced : sdp.replaceMediaSection newMediaSection reuseMid = .ok next) :
    BundleGroupListsOpenSections next := by
  obtain ⟨_, _, rfl⟩ := replaceMediaSection_ok reuse replaced
  exact bundle_regenerateBundleMids listed

theorem bundle_disableMediaSection {mid : String}
    (disabled : sdp.disableMediaSection mid = .ok next) :
    BundleGroupListsOpenSections next := by
  obtain ⟨_, found, rfl⟩ := disableMediaSection_ok disabled
  simpa [BundleGroupListsOpenSections, bundleMids_set_disable found] using listed

theorem bundle_closeMediaSection {mid : String}
    (closed : sdp.closeMediaSection mid = .ok next) :
    BundleGroupListsOpenSections next := by
  obtain ⟨_, _, rfl⟩ := closeMediaSection_ok closed
  exact bundle_regenerateBundleMids listed

theorem bundle_updateIceParameters (iceParameters : IceParameters) :
    BundleGroupListsOpenSections (sdp.updateIceParameters iceParameters) := by
  have sameKeys :
      (sdp.mediaSections.map (·.setIceParameters iceParameters)).map
          MediaSection.bundleKey =
        sdp.mediaSections.map MediaSection.bundleKey := by
    simp [Function.comp_def]
  simpa [BundleGroupListsOpenSections, updateIceParameters,
    bundleMids_congr sameKeys] using listed

theorem bundle_updateDtlsRole (role : String) :
    BundleGroupListsOpenSections (sdp.updateDtlsRole role) := by
  have sameKeys :
      (sdp.mediaSections.map (·.setDtlsRole role)).map MediaSection.bundleKey =
        sdp.mediaSections.map MediaSection.bundleKey := by
    simp [Function.comp_def]
  simpa [BundleGroupListsOpenSections, updateDtlsRole,
    bundleMids_congr sameKeys] using listed

/-- Every completed call keeps the group listing the open sections. -/
theorem bundle_step {operation : Operation}
    (stepped : sdp.step operation = .ok next) :
    BundleGroupListsOpenSections next := by
  cases operation with
  | createAnswer =>
      obtain ⟨_, _, ⟨_, rfl⟩ | ⟨reuse, replaced⟩⟩ := step_createAnswer_ok stepped
      · exact bundle_addMediaSection listed _
      · exact bundle_replaceMediaSection listed reuse replaced
  | sendSctpAssociation offerMediaObject =>
      obtain ⟨_, _, rfl⟩ := sendSctpAssociation_ok stepped
      exact bundle_addMediaSection listed _
  | recvSctpAssociation =>
      obtain ⟨_, _, rfl⟩ := recvSctpAssociation_ok stepped
      exact bundle_addMediaSection listed _
  | createOffer mid kind offerRtpParameters streamId trackId =>
      obtain ⟨_, _, rfl⟩ := createOffer_ok stepped
      exact bundle_addMediaSection listed _
  | disableMediaSection mid =>
      exact bundle_disableMediaSection listed stepped
  | closeMediaSection mid =>
      exact bundle_closeMediaSection listed stepped
  | updateIceParameters iceParameters =>
      cases stepped
      exact bundle_updateIceParameters listed iceParameters
  | updateDtlsRole role =>
      cases stepped
      exact bundle_updateDtlsRole listed role
  | getSdp =>
      cases stepped
      exact listed
  | getNextMediaSectionIdx =>
      cases stepped
      exact listed

end Preservation

/-- The constructor's group lists no section. -/
theorem bundle_create {iceParameters : IceParameters}
    {iceCandidates : List IceCandidate} {dtlsParameters : DtlsParameters}
    {sctpParameters : Option SctpParameters} {sdp : RemoteSdp}
    (created :
      create iceParameters iceCandidates dtlsParameters sctpParameters = .ok sdp) :
    BundleGroupListsOpenSections sdp := by
  obtain ⟨_, rfl⟩ := create_ok created
  rfl

/-- Every state reached from the constructor lists the open sections. -/
theorem bundle_of_reaches {allowed : RemoteSdp → Operation → Prop}
    {start sdp : RemoteSdp} (initial : BundleGroupListsOpenSections start)
    (reached : Reaches allowed start sdp) :
    BundleGroupListsOpenSections sdp := by
  induction reached with
  | refl => exact initial
  | step _ _ _ stepped listed => exact bundle_step listed stepped

/-- The open mids, joined by single spaces. -/
def openMidsJoined (mediaSections : List MediaSection) : String :=
  String.intercalate " "
    ((mediaSections.filter fun mediaSection => !mediaSection.isClosed).map
      MediaSection.getMid)

/--
With no empty mid, the loop of `RegenerateBundleMids` joins the open mids
with single spaces: from a non-empty start it appends ` mid` for each.
-/
theorem foldl_bundle_of_nonempty {mediaSections : List MediaSection}
    (nonEmpty : ∀ mediaSection ∈ mediaSections, mediaSection.getMid ≠ "")
    (mids : String) :
    mediaSections.foldl bundleStep mids =
      String.intercalate " "
        ((if mids = "" then [] else [mids]) ++
          (mediaSections.filter fun mediaSection => !mediaSection.isClosed).map
            MediaSection.getMid) := by
  induction mediaSections generalizing mids with
  | nil =>
      by_cases emptyMids : mids = "" <;>
        simp [emptyMids, String.intercalate, String.intercalate.go]
  | cons mediaSection rest inductionHypothesis =>
      have restNonEmpty : ∀ other ∈ rest, other.getMid ≠ "" :=
        fun other member => nonEmpty other (List.mem_cons_of_mem _ member)
      have headNonEmpty : mediaSection.getMid ≠ "" :=
        nonEmpty mediaSection (List.mem_cons_self _ _)
      have appendNonEmpty : mids ++ " " ++ mediaSection.getMid ≠ "" := by
        intro isEmpty
        have lengths := congrArg String.length isEmpty
        simp only [String.length_append, String.length_empty,
          Nat.add_eq_zero] at lengths
        exact absurd lengths.1.2 (by decide)
      rw [List.foldl_cons, inductionHypothesis restNonEmpty]
      by_cases closed : mediaSection.isClosed <;>
        by_cases emptyMids : mids = "" <;>
        simp [bundleStep, closed, emptyMids, headNonEmpty, appendNonEmpty,
          String.intercalate, String.intercalate.go]

/-- With no empty mid, the bundle string is the open mids joined by spaces. -/
theorem bundleMids_eq_openMidsJoined {mediaSections : List MediaSection}
    (nonEmpty : ∀ mediaSection ∈ mediaSections, mediaSection.getMid ≠ "") :
    bundleMids mediaSections = openMidsJoined mediaSections := by
  simpa [openMidsJoined] using foldl_bundle_of_nonempty nonEmpty ""

/--
In every state reached from the constructor by calls that complete, when
no section's mid is empty, `groups[0].mids` is the mids of the sections that
are not closed, in index order, joined by single spaces.
-/
theorem bundle_mids_list_open_sections
    {iceParameters : IceParameters} {iceCandidates : List IceCandidate}
    {dtlsParameters : DtlsParameters} {sctpParameters : Option SctpParameters}
    {start sdp : RemoteSdp} {operations : List Operation}
    (created :
      create iceParameters iceCandidates dtlsParameters sctpParameters =
        .ok start)
    (ran : start.run operations = .ok sdp)
    (nonEmpty : ∀ mediaSection ∈ sdp.mediaSections, mediaSection.getMid ≠ "") :
    sdp.sdpObject.groups =
      [{ type := "BUNDLE", mids := openMidsJoined sdp.mediaSections }] := by
  rw [← bundleMids_eq_openMidsJoined nonEmpty]
  exact bundle_of_reaches (bundle_create created) (Reaches.refl.run (fun _ _ _ => trivial) ran)

theorem bundle_mids_after_close :
    ∃ sdp,
      exampleStart.run
          [.createOffer "a" "audio" exampleRtpParameters "s" "t",
            .createOffer "b" "video" exampleRtpParameters "s" "t",
            .closeMediaSection "b"] = .ok sdp ∧
        (∀ mediaSection ∈ sdp.mediaSections, mediaSection.getMid ≠ "") ∧
        sdp.sdpObject.groups =
          [{ type := "BUNDLE", mids := openMidsJoined sdp.mediaSections }] :=
  ⟨_, rfl, by decide,
    @bundle_mids_list_open_sections _ _ _ _ _ _
      [.createOffer "a" "audio" exampleRtpParameters "s" "t",
        .createOffer "b" "video" exampleRtpParameters "s" "t",
        .closeMediaSection "b"]
      create_example rfl (by decide)⟩

end RemoteSdp

end MediasoupClient.Sdp
