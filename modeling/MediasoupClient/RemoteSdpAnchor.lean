import MediasoupClient.RemoteSdpRegistry

namespace MediasoupClient.Sdp

/-!
# The first section

Closing the first section would invalidate the bundled transport, so
`CloseMediaSection` only disables the section whose mid is `firstMid`.  It
compares the mid it is given with `firstMid`, but finds the index with
`midToIndex[mid]`, which maps a mid the map does not hold to index `0`.  A
call with such a mid closes the first section.  When every mid the methods
are given is registered (the calls of the registry module), the first
section is never closed and keeps the mid `firstMid`.
-/

namespace RemoteSdp

/-- The first section carries `firstMid`, which is not empty, and is open. -/
structure AnchorOpen (sdp : RemoteSdp) : Prop where
  firstMid_empty : sdp.mediaSections = [] → sdp.firstMid = ""
  anchor : ∀ mediaSection, sdp.mediaSections[0]? = some mediaSection →
    mediaSection.getMid = sdp.firstMid ∧ sdp.firstMid ≠ "" ∧
      mediaSection.isClosed = false

/-- A non-empty `reuseMid` is the mid of a closed section. -/
theorem getNextMediaSectionIdx_closed (sdp : RemoteSdp)
    (nonEmpty : sdp.getNextMediaSectionIdx.reuseMid ≠ "") :
    ∃ (idx : Nat) (mediaSection : MediaSection),
      sdp.mediaSections[idx]? = some mediaSection ∧
        mediaSection.isClosed = true ∧
        mediaSection.getMid = sdp.getNextMediaSectionIdx.reuseMid := by
  rw [getNextMediaSectionIdx_eq] at nonEmpty ⊢
  cases found : sdp.mediaSections.findIdx? MediaSection.isClosed with
  | none =>
      simp [found] at nonEmpty
  | some idx =>
      obtain ⟨inside, closed, _⟩ := List.findIdx?_eq_some_iff_getElem.mp found
      refine ⟨idx, _, List.getElem?_eq_getElem inside, closed, ?_⟩
      simp [List.getElem?_eq_getElem inside]

namespace AnchorOpen

variable {sdp next : RemoteSdp} (anchored : AnchorOpen sdp)
include anchored

/--
A state with the same `firstMid`, with sections exactly when `sdp` has
some, whose first section has the mid and the port state of the old one.
-/
theorem of_first (sameFirstMid : next.firstMid = sdp.firstMid)
    (sameEmpty : next.mediaSections = [] → sdp.mediaSections = [])
    (sameFirst : ∀ mediaSection, next.mediaSections[0]? = some mediaSection →
      ∃ old, sdp.mediaSections[0]? = some old ∧
        mediaSection.getMid = old.getMid ∧
        mediaSection.isClosed = old.isClosed) :
    AnchorOpen next := by
  refine ⟨fun noSections => ?_, fun mediaSection first => ?_⟩
  · rw [sameFirstMid]
    exact anchored.firstMid_empty (sameEmpty noSections)
  · obtain ⟨old, oldFirst, sameMid, sameClosed⟩ := sameFirst mediaSection first
    rw [sameFirstMid, sameMid, sameClosed]
    exact anchored.anchor old oldFirst

/-- Writing at an index other than `0`, or a section like the old first one at `0`. -/
theorem of_set {idx : Nat} {newMediaSection : MediaSection}
    (sameFirstMid : next.firstMid = sdp.firstMid)
    (placed : next.mediaSections = sdp.mediaSections.set idx newMediaSection)
    (atFirst : idx = 0 → ∀ old, sdp.mediaSections[0]? = some old →
      newMediaSection.getMid = old.getMid ∧
        newMediaSection.isClosed = old.isClosed) :
    AnchorOpen next := by
  refine anchored.of_first sameFirstMid
    (fun noSections => by simpa [placed] using noSections)
    (fun mediaSection first => ?_)
  rw [placed, List.getElem?_set] at first
  split_ifs at first with isFirst inside
  · subst isFirst
    cases first
    have oldFirst := List.getElem?_eq_getElem inside
    exact ⟨_, oldFirst, atFirst rfl _ oldFirst⟩
  · exact ⟨mediaSection, first, rfl, rfl⟩

/-- Updating every section without touching its mid or port. -/
theorem of_map {update : MediaSection → MediaSection}
    (sameFirstMid : next.firstMid = sdp.firstMid)
    (mapped : next.mediaSections = sdp.mediaSections.map update)
    (sameKey : ∀ mediaSection, (update mediaSection).getMid = mediaSection.getMid ∧
      (update mediaSection).isClosed = mediaSection.isClosed) :
    AnchorOpen next := by
  refine anchored.of_first sameFirstMid
    (fun noSections => by simpa [mapped] using noSections)
    (fun mediaSection first => ?_)
  rw [mapped, List.getElem?_map] at first
  obtain ⟨old, oldFirst, rfl⟩ := Option.map_eq_some'.mp first
  exact ⟨old, oldFirst, sameKey old⟩

/-- Appending a section with a non-empty mid that is open. -/
theorem addMediaSection {newMediaSection : MediaSection}
    (opened : newMediaSection.getMid ≠ "" ∧ newMediaSection.isClosed = false) :
    AnchorOpen (sdp.addMediaSection newMediaSection) := by
  refine ⟨fun noSections => by simp at noSections, fun mediaSection first => ?_⟩
  simp only [addMediaSection_mediaSections, addMediaSection_firstMid] at first ⊢
  cases sections : sdp.mediaSections with
  | nil =>
      simp only [sections, List.nil_append, List.getElem?_cons_zero,
        Option.some.injEq] at first
      subst first
      simp [anchored.firstMid_empty sections, opened]
  | cons head rest =>
      simp only [sections, List.cons_append, List.getElem?_cons_zero,
        Option.some.injEq] at first
      subst first
      obtain ⟨sameMid, nonEmptyFirst, headOpen⟩ := anchored.anchor head (by simp [sections])
      simp [nonEmptyFirst, sameMid, headOpen]

end AnchorOpen

/-- A section built by a constructor carries its mid and is open: its port is `7`. -/
theorem opened_of_header {mediaSection : MediaSection}
    {iceParameters : IceParameters} {mid : String} {setup : Option String}
    (header : Header mediaSection.mediaObject iceParameters mid setup)
    (nonEmpty : mid ≠ "") :
    mediaSection.getMid ≠ "" ∧ mediaSection.isClosed = false :=
  ⟨fun isEmpty => nonEmpty (header.mid_eq ▸ isEmpty),
    by simp [MediaSection.isClosed, header.port_eq]⟩

section Preservation

variable {sdp next : RemoteSdp} (exact : RegistryExact sdp) (anchored : AnchorOpen sdp)
include exact anchored

theorem anchor_replaceMediaSection {newMediaSection : MediaSection}
    {reuseMid : String} (reuse : reuseMid ≠ "")
    (isNext : reuseMid = sdp.getNextMediaSectionIdx.reuseMid)
    (replaced : sdp.replaceMediaSection newMediaSection reuseMid = .ok next) :
    AnchorOpen next := by
  obtain ⟨old, found, rfl⟩ := replaceMediaSection_ok reuse replaced
  obtain ⟨idx, closedSection, atIdx, closed, closedMid⟩ :=
    getNextMediaSectionIdx_closed sdp (isNext ▸ reuse)
  rw [← isNext] at closedMid
  have registered : sdp.Registered reuseMid := by
    simp [Registered, exact.indexes.find?_of_getElem?
      (show (sectionMids sdp.mediaSections)[idx]? = some reuseMid by
        simp [sectionMids, atIdx, closedMid])]
  obtain ⟨slot, atSlot, read⟩ := subscript_of_registry exact registered
  have sameSlot : slot = idx := getElem?_inj_of_nodup exact.midsNodup atSlot
    (by simp [sectionMids, atIdx, closedMid])
  refine anchored.of_set rfl rfl fun isFirst first firstFound => ?_
  rw [read, sameSlot] at isFirst
  subst isFirst
  rw [atIdx, Option.some.injEq] at firstFound
  subst firstFound
  exact absurd closed (by simp [(anchored.anchor _ atIdx).2.2])

omit exact in
theorem anchor_disableMediaSection {mid : String}
    (disabled : sdp.disableMediaSection mid = .ok next) :
    AnchorOpen next := by
  obtain ⟨mediaSection, found, rfl⟩ := disableMediaSection_ok disabled
  refine anchored.of_set rfl rfl fun isFirst first firstFound => ?_
  rw [isFirst, firstFound, Option.some.injEq] at found
  subst found
  exact ⟨rfl, rfl⟩

theorem anchor_closeMediaSection {mid : String} (registered : sdp.Registered mid)
    (closed : sdp.closeMediaSection mid = .ok next) :
    AnchorOpen next := by
  obtain ⟨mediaSection, found, rfl⟩ := closeMediaSection_ok closed
  obtain ⟨idx, atIdx, read⟩ := subscript_of_registry exact registered
  refine anchored.of_set rfl rfl fun isFirst first firstFound => ?_
  rw [read] at isFirst found
  subst isFirst
  rw [firstFound, Option.some.injEq] at found
  subst found
  have isFirstMid : mid = sdp.firstMid := by
    simpa [sectionMids, firstFound, (anchored.anchor _ firstFound).1] using atIdx.symm
  simp [closedFor, isFirstMid]

/-- Every completed call the registry allows keeps the first section open. -/
theorem anchor_step {operation : Operation}
    (admissible : RegistryAdmissible sdp operation)
    (stepped : sdp.step operation = .ok next) :
    AnchorOpen next := by
  cases operation with
  | createAnswer =>
      obtain ⟨⟨nonEmpty, _⟩, reuseChoice⟩ := admissible
      obtain ⟨_, constructed, ⟨_, rfl⟩ | ⟨reuse, replaced⟩⟩ :=
        step_createAnswer_ok stepped
      · exact anchored.addMediaSection
          (opened_of_header (answerMediaSection_spec constructed).2 nonEmpty)
      · exact anchor_replaceMediaSection exact anchored reuse
          (reuseChoice.resolve_left reuse) replaced
  | sendSctpAssociation =>
      obtain ⟨_, constructed, rfl⟩ := sendSctpAssociation_ok stepped
      exact anchored.addMediaSection
        (opened_of_header (answerMediaSection_spec constructed).2 admissible.1)
  | recvSctpAssociation =>
      obtain ⟨_, constructed, rfl⟩ := recvSctpAssociation_ok stepped
      exact anchored.addMediaSection
        (opened_of_header (offerMediaSection_spec constructed).2 admissible.1)
  | createOffer =>
      obtain ⟨_, constructed, rfl⟩ := createOffer_ok stepped
      exact anchored.addMediaSection
        (opened_of_header (offerMediaSection_spec constructed).2 admissible.1)
  | disableMediaSection =>
      exact anchor_disableMediaSection anchored stepped
  | closeMediaSection =>
      exact anchor_closeMediaSection exact anchored admissible stepped
  | updateIceParameters =>
      cases stepped
      exact anchored.of_map rfl rfl fun _ => ⟨rfl, rfl⟩
  | updateDtlsRole =>
      cases stepped
      exact anchored.of_map rfl rfl fun _ => ⟨by simp, by simp⟩
  | getSdp =>
      cases stepped
      exact ⟨anchored.firstMid_empty, anchored.anchor⟩
  | getNextMediaSectionIdx =>
      cases stepped
      exact anchored

end Preservation

/--
In every state reached from the constructor by the calls the registry
module allows (fresh non-empty mids for new sections, registered mids for
`DisableMediaSection` and `CloseMediaSection`, the slot
`GetNextMediaSectionIdx` names for reuse), the first section carries
`firstMid` and is not closed.
-/
theorem first_section_stays_open {iceParameters : IceParameters}
    {iceCandidates : List IceCandidate} {dtlsParameters : DtlsParameters}
    {sctpParameters : Option SctpParameters} {start sdp : RemoteSdp}
    (created :
      create iceParameters iceCandidates dtlsParameters sctpParameters =
        .ok start)
    (reached : Reaches RegistryAdmissible start sdp) :
    ∀ mediaSection, sdp.mediaSections[0]? = some mediaSection →
      mediaSection.getMid = sdp.firstMid ∧ mediaSection.isClosed = false := by
  have anchored : AnchorOpen sdp := by
    induction reached with
    | refl =>
        obtain ⟨_, rfl⟩ := create_ok created
        exact ⟨fun _ => rfl, fun _ first => by simp [initialState] at first⟩
    | step _ reachedBefore admissible stepped anchored =>
        exact anchor_step (registry_of_reaches created reachedBefore) anchored
          admissible stepped
  exact fun mediaSection first =>
    ⟨(anchored.anchor mediaSection first).1, (anchored.anchor mediaSection first).2.2⟩

theorem first_section_open_after_close :
    ∃ sdp,
      Reaches RegistryAdmissible exampleStart sdp ∧
        ∀ mediaSection, sdp.mediaSections[0]? = some mediaSection →
          mediaSection.getMid = sdp.firstMid ∧ mediaSection.isClosed = false :=
  have reached : Reaches RegistryAdmissible exampleStart _ :=
    ((Reaches.refl.step (.createOffer "a" "audio" exampleRtpParameters "s" "t")
      (by decide) rfl).step (.createOffer "b" "video" exampleRtpParameters "s" "t")
      (by decide) rfl).step (.closeMediaSection "a") (by decide) rfl
  ⟨_, reached, first_section_stays_open create_example reached⟩

/--
`CloseMediaSection` with a mid the map does not hold closes the first
section: `midToIndex["zz"]` inserts `zz ↦ 0`, `zz` is not `firstMid`, and
the section `a` at index `0` gets port `0` and leaves the `BUNDLE` group.
-/
theorem closeMediaSection_unknown_mid_closes_first :
    ∃ sdp,
      exampleStart.run
          [.createOffer "a" "audio" exampleRtpParameters "s" "t",
            .closeMediaSection "zz"] = .ok sdp ∧
        sdp.firstMid = "a" ∧
        sdp.mediaSections.map (fun mediaSection =>
          (mediaSection.getMid, mediaSection.getObject.port)) = [("a", 0)] ∧
        sdp.sdpObject.groups = [{ type := "BUNDLE", mids := "" }] ∧
        sdp.midToIndex.find? "zz" = some 0 :=
  ⟨_, rfl, rfl, rfl, rfl, rfl⟩

end RemoteSdp

end MediasoupClient.Sdp
