import MediasoupClient.RemoteSdpRegistry

namespace MediasoupClient.Sdp

/-!
# Slots under stale keys

The registry module needs every mid given to `CloseMediaSection` to be
registered.  The handlers do not guarantee that: a stale localId makes
`midToIndex[mid]` insert a key.  What survives any mids given to
`CloseMediaSection` and `DisableMediaSection` is weaker: every section's own
mid is a key mapped to the section's index, whatever the other keys are.
It is enough for `ReplaceMediaSection` to fill the slot that
`GetNextMediaSectionIdx` named.
-/

namespace RemoteSdp

/-- Every section's mid is non-empty and `midToIndex` maps it to the section's index. -/
structure SlotsIndexed (sdp : RemoteSdp) : Prop where
  midNonEmpty : ∀ mediaSection ∈ sdp.mediaSections, mediaSection.getMid ≠ ""
  indexed : ∀ idx mediaSection, sdp.mediaSections[idx]? = some mediaSection →
    sdp.midToIndex.find? mediaSection.getMid = some idx

/-- A mid a new section may take: not empty and no section's. -/
def FreshSectionMid (sdp : RemoteSdp) (mid : String) : Prop :=
  mid ≠ "" ∧ mid ∉ sectionMids sdp.mediaSections

instance (sdp : RemoteSdp) (mid : String) : Decidable (sdp.FreshSectionMid mid) :=
  inferInstanceAs (Decidable (_ ∧ _))

namespace SlotsIndexed

variable {sdp next : RemoteSdp} (slots : SlotsIndexed sdp)
include slots

/-- A state with the same mids in the same slots and the same map. -/
theorem of_same
    (sameMids : sectionMids next.mediaSections = sectionMids sdp.mediaSections)
    (sameMap : next.midToIndex = sdp.midToIndex) :
    SlotsIndexed next := by
  have atSlot : ∀ (idx : Nat) (mediaSection : MediaSection),
      next.mediaSections[idx]? = some mediaSection → ∃ old : MediaSection,
        sdp.mediaSections[idx]? = some old ∧ old.getMid = mediaSection.getMid := by
    intro idx mediaSection found
    have mids := congrArg (·[idx]?) sameMids
    simp only [sectionMids, List.getElem?_map, found, Option.map_some'] at mids
    obtain ⟨old, oldFound, sameMid⟩ := Option.map_eq_some'.mp mids.symm
    exact ⟨old, oldFound, sameMid⟩
  refine ⟨fun mediaSection member => ?_, fun idx mediaSection found => ?_⟩
  · obtain ⟨idx, found⟩ := List.mem_iff_getElem?.mp member
    obtain ⟨old, oldFound, sameMid⟩ := atSlot idx mediaSection found
    exact sameMid ▸ slots.midNonEmpty old (List.getElem?_mem oldFound)
  · obtain ⟨old, oldFound, sameMid⟩ := atSlot idx mediaSection found
    rw [sameMap, ← sameMid]
    exact slots.indexed idx old oldFound

/-- `midToIndex[mid]` for a section's mid reads its slot and inserts nothing. -/
theorem subscript_getMid {idx : Nat} {mediaSection : MediaSection}
    (found : sdp.mediaSections[idx]? = some mediaSection) :
    sdp.midToIndex.subscript mediaSection.getMid 0 = (idx, sdp.midToIndex) :=
  StringMap.subscript_of_find? (slots.indexed idx mediaSection found)

/-- A key the map does not hold is no section's mid. -/
theorem not_mem_of_find?_eq_none {mid : String}
    (absent : sdp.midToIndex.find? mid = none) :
    mid ∉ sectionMids sdp.mediaSections := by
  intro member
  obtain ⟨idx, atIdx⟩ := List.mem_iff_getElem?.mp member
  simp only [sectionMids, List.getElem?_map] at atIdx
  obtain ⟨mediaSection, found, rfl⟩ := Option.map_eq_some'.mp atIdx
  simp [slots.indexed idx mediaSection found] at absent

/-- `midToIndex[mid]` with any mid keeps every section's entry. -/
theorem subscript_keeps (mid : String) {idx : Nat} {mediaSection : MediaSection}
    (found : sdp.mediaSections[idx]? = some mediaSection) :
    (sdp.midToIndex.subscript mid 0).2.find? mediaSection.getMid = some idx := by
  cases known : sdp.midToIndex.find? mid with
  | some _ =>
      rw [StringMap.subscript_of_find? known]
      exact slots.indexed idx mediaSection found
  | none =>
      have notMid := slots.not_mem_of_find?_eq_none known
      have differs : mediaSection.getMid ≠ mid := fun same =>
        notMid (same ▸ List.mem_map_of_mem _ (List.getElem?_mem found))
      simp [StringMap.subscript, known, differs, slots.indexed idx mediaSection found]

end SlotsIndexed

/-- A non-empty `reuseMid` is the mid of the closed section at `idx`. -/
theorem getNextMediaSectionIdx_found {sdp : RemoteSdp}
    (nonEmpty : sdp.getNextMediaSectionIdx.reuseMid ≠ "") :
    ∃ mediaSection,
      sdp.mediaSections[sdp.getNextMediaSectionIdx.idx]? = some mediaSection ∧
        mediaSection.isClosed = true ∧
        mediaSection.getMid = sdp.getNextMediaSectionIdx.reuseMid := by
  rw [getNextMediaSectionIdx_eq] at nonEmpty ⊢
  cases found : sdp.mediaSections.findIdx? MediaSection.isClosed with
  | none =>
      simp [found] at nonEmpty
  | some idx =>
      obtain ⟨inside, closed, _⟩ := List.findIdx?_eq_some_iff_getElem.mp found
      exact ⟨_, by simp [List.getElem?_eq_getElem inside], closed,
        by simp [List.getElem?_eq_getElem inside]⟩

/-- With no empty mid, `reuseMid` is empty exactly when no section is closed. -/
theorem reuseMid_eq_empty_iff {sdp : RemoteSdp}
    (midNonEmpty : ∀ mediaSection ∈ sdp.mediaSections, mediaSection.getMid ≠ "") :
    sdp.getNextMediaSectionIdx.reuseMid = "" ↔
      ∀ mediaSection ∈ sdp.mediaSections, mediaSection.isClosed = false := by
  rw [getNextMediaSectionIdx_eq]
  cases found : sdp.mediaSections.findIdx? MediaSection.isClosed with
  | none =>
      simpa using List.findIdx?_eq_none_iff.mp found
  | some idx =>
      obtain ⟨inside, closed, _⟩ := List.findIdx?_eq_some_iff_getElem.mp found
      simp only [List.getElem?_eq_getElem inside, Option.map_some', Option.getD_some]
      constructor
      · exact fun isEmpty => absurd isEmpty
          (midNonEmpty _ (List.getElem_mem inside))
      · exact fun allOpen => absurd closed
          (by simp [allOpen _ (List.getElem_mem inside)])

section Preservation

variable {sdp next : RemoteSdp} (slots : SlotsIndexed sdp)
include slots

/-- `AddMediaSection` with a fresh mid keeps the slots indexed. -/
theorem slots_addMediaSection {newMediaSection : MediaSection}
    (fresh : sdp.FreshSectionMid newMediaSection.getMid) :
    SlotsIndexed (sdp.addMediaSection newMediaSection) := by
  refine ⟨fun mediaSection member => ?_, fun idx mediaSection found => ?_⟩
  · rcases List.mem_append.mp member with old | added
    · exact slots.midNonEmpty _ old
    · exact List.mem_singleton.mp added ▸ fresh.1
  · simp only [addMediaSection_mediaSections, getElem?_append_singleton] at found
    simp only [addMediaSection_midToIndex, StringMap.find?_assign]
    split_ifs at found with inside atEnd
    · have differs : mediaSection.getMid ≠ newMediaSection.getMid := fun same =>
        fresh.2 (same ▸ List.mem_map_of_mem _ (List.getElem?_mem found))
      rw [if_neg differs]
      exact slots.indexed idx mediaSection found
    · cases found
      simp [atEnd]

/-- `ReplaceMediaSection` with `GetNextMediaSectionIdx`'s `reuseMid` fills its slot. -/
theorem slots_replaceMediaSection {newMediaSection : MediaSection}
    (reuse : sdp.getNextMediaSectionIdx.reuseMid ≠ "")
    (fresh : sdp.FreshSectionMid newMediaSection.getMid)
    (replaced :
      sdp.replaceMediaSection newMediaSection sdp.getNextMediaSectionIdx.reuseMid =
        .ok next) :
    next.mediaSections =
        sdp.mediaSections.set sdp.getNextMediaSectionIdx.idx newMediaSection ∧
      SlotsIndexed next := by
  obtain ⟨closedSection, atSlot, _, closedMid⟩ := getNextMediaSectionIdx_found reuse
  obtain ⟨old, found, rfl⟩ := replaceMediaSection_ok reuse replaced
  rw [← closedMid, slots.subscript_getMid atSlot] at found ⊢
  rw [atSlot, Option.some.injEq] at found
  subst found
  refine ⟨rfl, fun mediaSection member => ?_, fun idx mediaSection atIdx => ?_⟩
  · rcases List.mem_or_eq_of_mem_set member with old | written
    · exact slots.midNonEmpty _ old
    · exact written ▸ fresh.1
  · simp only [regenerateBundleMids_mediaSections, List.getElem?_set] at atIdx
    simp only [regenerateBundleMids_midToIndex, StringMap.find?_assign,
      StringMap.find?_erase]
    split_ifs at atIdx with isSlot inside
    · cases atIdx
      simp [isSlot]
    · have differs : mediaSection.getMid ≠ newMediaSection.getMid := fun same =>
        fresh.2 (same ▸ List.mem_map_of_mem _ (List.getElem?_mem atIdx))
      have notOld : mediaSection.getMid ≠ closedSection.getMid := fun same =>
        isSlot (Option.some.inj ((slots.indexed _ _ atSlot).symm.trans
          (same ▸ slots.indexed idx mediaSection atIdx)))
      simp [differs, notOld, slots.indexed idx mediaSection atIdx]

/-- `CloseMediaSection` keeps the slots indexed. -/
theorem slots_closeMediaSection {mid : String}
    (closed : sdp.closeMediaSection mid = .ok next) :
    SlotsIndexed next := by
  obtain ⟨mediaSection, found, rfl⟩ := closeMediaSection_ok closed
  have sameMid : (sdp.closedFor mid mediaSection).getMid = mediaSection.getMid := by
    unfold closedFor
    split <;> simp
  refine ⟨fun other member => ?_, fun idx other atIdx => ?_⟩
  · rcases List.mem_or_eq_of_mem_set member with old | written
    · exact slots.midNonEmpty _ old
    · exact written ▸ sameMid ▸ slots.midNonEmpty _ (List.getElem?_mem found)
  · simp only [regenerateBundleMids_mediaSections, List.getElem?_set] at atIdx
    split_ifs at atIdx with isSlot inside
    · cases atIdx
      rw [regenerateBundleMids_midToIndex, sameMid, ← isSlot]
      exact slots.subscript_keeps mid found
    · exact slots.subscript_keeps mid atIdx

/-- `UpdateIceParameters` keeps the slots indexed. -/
theorem slots_updateIceParameters (iceParameters : IceParameters) :
    SlotsIndexed (sdp.updateIceParameters iceParameters) :=
  slots.of_same (by simp [updateIceParameters, sectionMids, Function.comp_def]) rfl

/-- `UpdateDtlsRole` keeps the slots indexed. -/
theorem slots_updateDtlsRole (role : String) :
    SlotsIndexed (sdp.updateDtlsRole role) :=
  slots.of_same (by simp [updateDtlsRole, sectionMids, Function.comp_def]) rfl

/-- `GetSdp` keeps the slots indexed. -/
theorem slots_getSdp : SlotsIndexed sdp.getSdp.2 :=
  slots.of_same rfl rfl

end Preservation

/-! ## The section mids after each method a handler calls -/

@[simp] theorem sectionMids_getSdp (sdp : RemoteSdp) :
    sectionMids sdp.getSdp.2.mediaSections = sectionMids sdp.mediaSections :=
  rfl

@[simp] theorem sectionMids_updateDtlsRole (sdp : RemoteSdp) (role : String) :
    sectionMids (sdp.updateDtlsRole role).mediaSections = sectionMids sdp.mediaSections := by
  simp [updateDtlsRole, sectionMids, Function.comp_def]

@[simp] theorem sectionMids_updateIceParameters (sdp : RemoteSdp)
    (iceParameters : IceParameters) :
    sectionMids (sdp.updateIceParameters iceParameters).mediaSections =
      sectionMids sdp.mediaSections := by
  simp [updateIceParameters, sectionMids, Function.comp_def]

/-- A DTLS role change leaves which sections are closed. -/
theorem nextMediaSectionIdxFrom_setDtlsRole (role : String) (idx : Nat)
    (mediaSections : List MediaSection) :
    nextMediaSectionIdxFrom idx (mediaSections.map (·.setDtlsRole role)) =
      nextMediaSectionIdxFrom idx mediaSections := by
  induction mediaSections generalizing idx with
  | nil => rfl
  | cons mediaSection rest inductionHypothesis =>
      simp [nextMediaSectionIdxFrom, inductionHypothesis]

@[simp] theorem getNextMediaSectionIdx_updateDtlsRole (sdp : RemoteSdp) (role : String) :
    (sdp.updateDtlsRole role).getNextMediaSectionIdx = sdp.getNextMediaSectionIdx :=
  nextMediaSectionIdxFrom_setDtlsRole role 0 sdp.mediaSections

@[simp] theorem freshSectionMid_updateDtlsRole (sdp : RemoteSdp) (role mid : String) :
    (sdp.updateDtlsRole role).FreshSectionMid mid ↔ sdp.FreshSectionMid mid := by
  simp [FreshSectionMid]

/-- `AddMediaSection` appends the new section's mid. -/
theorem sectionMids_addMediaSection (sdp : RemoteSdp) (mediaSection : MediaSection) :
    sectionMids (sdp.addMediaSection mediaSection).mediaSections =
      sectionMids sdp.mediaSections ++ [mediaSection.getMid] := by
  simp [sectionMids]

/-- `CreateOffer` appends a section with the given mid. -/
theorem sectionMids_createOffer {sdp next : RemoteSdp} {mid kind : String}
    {offerRtpParameters : RtpParameters} {streamId trackId : String}
    (offered : sdp.createOffer mid kind offerRtpParameters streamId trackId = .ok next) :
    sectionMids next.mediaSections = sectionMids sdp.mediaSections ++ [mid] := by
  obtain ⟨mediaSection, constructed, rfl⟩ := createOffer_ok offered
  rw [sectionMids_addMediaSection, MediaSection.getMid,
    (offerMediaSection_spec constructed).2.mid_eq]

/-- `RecvSctpAssociation` appends the `datachannel` section. -/
theorem sectionMids_recvSctpAssociation {sdp next : RemoteSdp}
    (associated : sdp.recvSctpAssociation = .ok next) :
    sectionMids next.mediaSections = sectionMids sdp.mediaSections ++ ["datachannel"] := by
  obtain ⟨mediaSection, constructed, rfl⟩ := recvSctpAssociation_ok associated
  rw [sectionMids_addMediaSection, MediaSection.getMid,
    (offerMediaSection_spec constructed).2.mid_eq]

/-- `CloseMediaSection` keeps the mids. -/
theorem sectionMids_closeMediaSection {sdp next : RemoteSdp} {mid : String}
    (closed : sdp.closeMediaSection mid = .ok next) :
    sectionMids next.mediaSections = sectionMids sdp.mediaSections := by
  obtain ⟨mediaSection, found, rfl⟩ := closeMediaSection_ok closed
  refine sectionMids_set_of_getMid found ?_
  unfold closedFor
  split <;> simp

/--
The mids after an answer to a section with `mid` fills the slot
`GetNextMediaSectionIdx` names.
-/
def nextSlotMids (sdp : RemoteSdp) (mid : String) : List String :=
  if sdp.getNextMediaSectionIdx.reuseMid = "" then sectionMids sdp.mediaSections ++ [mid]
  else (sectionMids sdp.mediaSections).set sdp.getNextMediaSectionIdx.idx mid

/-- Filling the next slot adds a section exactly when `reuseMid` is empty. -/
theorem length_nextSlotMids (sdp : RemoteSdp) (mid : String) :
    (sdp.nextSlotMids mid).length =
      sdp.mediaSections.length + if sdp.getNextMediaSectionIdx.reuseMid = "" then 1 else 0 := by
  unfold nextSlotMids
  split <;> simp [sectionMids]

section Answers

variable {sdp : RemoteSdp} (slots : SlotsIndexed sdp)
include slots

/-- `SendSctpAssociation` with a fresh mid appends its section. -/
theorem slots_sendSctpAssociation {next : RemoteSdp} {offerMediaObject : LocalMediaObject}
    (fresh : sdp.FreshSectionMid offerMediaObject.mid)
    (associated : sdp.sendSctpAssociation offerMediaObject = .ok next) :
    SlotsIndexed next ∧
      sectionMids next.mediaSections =
        sectionMids sdp.mediaSections ++ [offerMediaObject.mid] := by
  obtain ⟨built, constructed, rfl⟩ := sendSctpAssociation_ok associated
  have builtMid := (answerMediaSection_spec constructed).2.mid_eq
  exact ⟨slots_addMediaSection slots (by rwa [MediaSection.getMid, builtMid]),
    by rw [sectionMids_addMediaSection, MediaSection.getMid, builtMid]⟩

/--
`CreateAnswer` with `GetNextMediaSectionIdx`'s `reuseMid` and a fresh mid
puts the answer in the slot `GetNextMediaSectionIdx` names.
-/
theorem slots_createAnswer {offerMediaObject : LocalMediaObject}
    {offerRtpParameters answerRtpParameters : RtpParameters}
    {codecOptions : Option CodecOptions} {result : RemoteSdp × RtpParameters}
    (fresh : sdp.FreshSectionMid offerMediaObject.mid)
    (answered :
      sdp.createAnswer offerMediaObject sdp.getNextMediaSectionIdx.reuseMid
        offerRtpParameters answerRtpParameters codecOptions = .ok result) :
    SlotsIndexed result.1 ∧
      sectionMids result.1.mediaSections = sdp.nextSlotMids offerMediaObject.mid := by
  obtain ⟨built, constructed, _, added | replaced⟩ := createAnswer_ok answered
  all_goals have builtMid : built.1.getMid = offerMediaObject.mid :=
    (answerMediaSection_spec constructed).2.mid_eq
  · obtain ⟨reuse, next⟩ := added
    rw [next, nextSlotMids, if_pos reuse, ← builtMid]
    exact ⟨slots_addMediaSection slots (builtMid ▸ fresh), sectionMids_addMediaSection _ _⟩
  · obtain ⟨reuse, replaced⟩ := replaced
    obtain ⟨placed, indexed⟩ :=
      slots_replaceMediaSection slots reuse (builtMid ▸ fresh) replaced
    rw [nextSlotMids, if_neg reuse, placed, ← builtMid]
    exact ⟨indexed, List.map_set⟩

end Answers

end RemoteSdp

end MediasoupClient.Sdp
