import MediasoupClient.RemoteSdp

namespace MediasoupClient.Sdp

/-!
# The mid registry

`midToIndex` and `mediaSections` are kept in step by hand.
`AddMediaSection` appends and maps the new mid to the last index;
`ReplaceMediaSection` erases the old mid and maps the new one to the same
index; every other method reads the map with `operator[]`, which inserts an
absent key.  When each new section carries a fresh mid and the methods that
read the map are given registered mids, the map is exactly
`{mediaSections[i]->GetMid() ↦ i}` and the mids are distinct.
-/

/-- The mids of the sections, in index order. -/
def sectionMids (mediaSections : List MediaSection) : List String :=
  mediaSections.map MediaSection.getMid

/-- `midToIndex` maps exactly each mid of `mids` to its position. -/
def IndexesMids (midToIndex : StringMap Nat) (mids : List String) : Prop :=
  ∀ key idx, midToIndex.find? key = some idx ↔ mids[idx]? = some key

/-- Positions of one value in a duplicate-free list coincide. -/
theorem getElem?_inj_of_nodup {items : List α} (noDuplicates : items.Nodup)
    {first second : Nat} {value : α}
    (atFirst : items[first]? = some value)
    (atSecond : items[second]? = some value) :
    first = second := by
  obtain ⟨firstBound, firstValue⟩ := List.getElem?_eq_some_iff.mp atFirst
  obtain ⟨secondBound, secondValue⟩ := List.getElem?_eq_some_iff.mp atSecond
  exact (noDuplicates.getElem_inj_iff).mp (firstValue.trans secondValue.symm)

/-- Reading one past the end of a list with an element appended. -/
theorem getElem?_append_singleton (items : List α) (last : α) (idx : Nat) :
    (items ++ [last])[idx]? =
      if idx < items.length then items[idx]?
      else if idx = items.length then some last else none := by
  split_ifs with inside atEnd
  · exact List.getElem?_append_left inside
  · subst atEnd
    simp
  · rw [List.getElem?_append_right (Nat.le_of_not_lt inside)]
    have beyond : 0 < idx - items.length := by omega
    simp [List.getElem?_eq_none, Nat.one_le_iff_ne_zero, Nat.pos_iff_ne_zero.mp beyond]

namespace IndexesMids

variable {midToIndex : StringMap Nat} {mids : List String}

/-- A key the map does not hold is no mid. -/
theorem not_mem (indexes : IndexesMids midToIndex mids) {key : String}
    (absent : midToIndex.find? key = none) : key ∉ mids := by
  intro member
  obtain ⟨idx, atIdx⟩ := List.mem_iff_getElem?.mp member
  simp [(indexes key idx).mpr atIdx] at absent

/-- Every mid is a key of the map. -/
theorem find?_of_getElem? (indexes : IndexesMids midToIndex mids)
    {key : String} {idx : Nat} (atIdx : mids[idx]? = some key) :
    midToIndex.find? key = some idx :=
  (indexes key idx).mpr atIdx

/-- Appending a fresh mid and mapping it to the old length. -/
theorem append (indexes : IndexesMids midToIndex mids) {newMid : String}
    (fresh : newMid ∉ mids) :
    IndexesMids (midToIndex.assign newMid mids.length) (mids ++ [newMid]) := by
  intro key idx
  rw [StringMap.find?_assign, getElem?_append_singleton]
  by_cases isNew : key = newMid
  · subst isNew
    simp only [if_true, Option.some.injEq]
    split_ifs with inside atEnd
    · have notInside : mids[idx]? ≠ some key := fun atIdx =>
        fresh (List.mem_iff_getElem?.mpr ⟨idx, atIdx⟩)
      simp only [notInside, iff_false]
      omega
    · simp [atEnd]
    · simp only [reduceCtorEq, iff_false]
      omega
  · rw [if_neg isNew, indexes key idx]
    split_ifs with inside atEnd
    · rfl
    · have beyond : mids[idx]? = none := List.getElem?_eq_none (by omega)
      simp [beyond, Ne.symm isNew]
    · have beyond : mids[idx]? = none := List.getElem?_eq_none (by omega)
      simp [beyond]

/-- Moving the slot of `oldMid` at `idx` to a fresh mid. -/
theorem replace (indexes : IndexesMids midToIndex mids) (noDuplicates : mids.Nodup)
    {idx : Nat} {oldMid newMid : String} (atIdx : mids[idx]? = some oldMid)
    (fresh : newMid ∉ mids) :
    IndexesMids ((midToIndex.erase oldMid).assign newMid idx)
      (mids.set idx newMid) := by
  have inside : idx < mids.length := (List.getElem?_eq_some_iff.mp atIdx).1
  have oldNeNew : oldMid ≠ newMid := fun same =>
    fresh (same ▸ List.mem_iff_getElem?.mpr ⟨idx, atIdx⟩)
  intro key position
  rw [StringMap.find?_assign, StringMap.find?_erase, List.getElem?_set]
  by_cases isNew : key = newMid
  · subst isNew
    by_cases atSlot : idx = position
    · subst atSlot
      simp [inside]
    · have elsewhere : mids[position]? ≠ some key := fun found =>
        fresh (List.mem_iff_getElem?.mpr ⟨position, found⟩)
      simp [atSlot, elsewhere]
  · rw [if_neg isNew]
    by_cases isOld : key = oldMid
    · subst isOld
      by_cases atSlot : idx = position
      · subst atSlot
        simp [inside, Ne.symm isNew]
      · have elsewhere : mids[position]? ≠ some key := fun found =>
          atSlot (getElem?_inj_of_nodup noDuplicates atIdx found)
        simp [atSlot, elsewhere]
    · rw [if_neg isOld, indexes key position]
      by_cases atSlot : idx = position
      · subst atSlot
        simp only [atIdx, Option.some.injEq, inside, if_true]
        constructor
        · exact fun same => absurd same.symm isOld
        · exact fun same => absurd same.symm isNew
      · simp [atSlot]

end IndexesMids

/-- Distinct mids, each mapped to its own index, and no other key. -/
structure RegistryExact (sdp : RemoteSdp) : Prop where
  midsNodup : (sectionMids sdp.mediaSections).Nodup
  indexes : IndexesMids sdp.midToIndex (sectionMids sdp.mediaSections)

/-- The registry only reads the mids and the map. -/
theorem RegistryExact.of_same {sdp other : RemoteSdp} (exact : RegistryExact sdp)
    (sameMids : sectionMids other.mediaSections = sectionMids sdp.mediaSections)
    (sameMap : other.midToIndex = sdp.midToIndex) :
    RegistryExact other :=
  ⟨sameMids ▸ exact.midsNodup, sameMap ▸ sameMids ▸ exact.indexes⟩

namespace RemoteSdp

/-- A mid a new section may take: not empty and not a key of `midToIndex`. -/
def FreshMid (sdp : RemoteSdp) (mid : String) : Prop :=
  mid ≠ "" ∧ sdp.midToIndex.find? mid = none

/-- A mid `midToIndex` holds. -/
def Registered (sdp : RemoteSdp) (mid : String) : Prop :=
  sdp.midToIndex.find? mid ≠ none

instance (sdp : RemoteSdp) (mid : String) : Decidable (sdp.FreshMid mid) :=
  inferInstanceAs (Decidable (_ ∧ _))

instance (sdp : RemoteSdp) (mid : String) : Decidable (sdp.Registered mid) :=
  inferInstanceAs (Decidable (_ ≠ _))

/--
Calls that keep to the mid registry: a new section carries a fresh mid,
`CreateAnswer` reuses nothing or the slot `GetNextMediaSectionIdx` names,
and only registered mids are disabled or closed.
-/
def RegistryAdmissible (sdp : RemoteSdp) : Operation → Prop
  | .createAnswer offerMediaObject reuseMid _ _ _ =>
      sdp.FreshMid offerMediaObject.mid ∧
        (reuseMid = "" ∨ reuseMid = sdp.getNextMediaSectionIdx.reuseMid)
  | .sendSctpAssociation offerMediaObject => sdp.FreshMid offerMediaObject.mid
  | .recvSctpAssociation => sdp.FreshMid "datachannel"
  | .createOffer mid _ _ _ _ => sdp.FreshMid mid
  | .disableMediaSection mid => sdp.Registered mid
  | .closeMediaSection mid => sdp.Registered mid
  | _ => True

instance (sdp : RemoteSdp) (operation : Operation) :
    Decidable (RegistryAdmissible sdp operation) :=
  match operation with
  | .createAnswer _ _ _ _ _ => inferInstanceAs (Decidable (_ ∧ _))
  | .sendSctpAssociation _ => inferInstanceAs (Decidable (sdp.FreshMid _))
  | .recvSctpAssociation => inferInstanceAs (Decidable (sdp.FreshMid _))
  | .createOffer _ _ _ _ _ => inferInstanceAs (Decidable (sdp.FreshMid _))
  | .disableMediaSection _ => inferInstanceAs (Decidable (sdp.Registered _))
  | .closeMediaSection _ => inferInstanceAs (Decidable (sdp.Registered _))
  | .updateIceParameters _ => inferInstanceAs (Decidable True)
  | .updateDtlsRole _ => inferInstanceAs (Decidable True)
  | .getSdp => inferInstanceAs (Decidable True)
  | .getNextMediaSectionIdx => inferInstanceAs (Decidable True)

/-- A non-empty `reuseMid` is the mid of a section. -/
theorem reuseMid_mem_sectionMids (sdp : RemoteSdp)
    (nonEmpty : sdp.getNextMediaSectionIdx.reuseMid ≠ "") :
    sdp.getNextMediaSectionIdx.reuseMid ∈ sectionMids sdp.mediaSections := by
  rw [getNextMediaSectionIdx_eq] at nonEmpty ⊢
  split at nonEmpty
  · rename_i idx found
    obtain ⟨inside, _, _⟩ := List.findIdx?_eq_some_iff_getElem.mp found
    simp only [List.getElem?_eq_getElem inside, Option.map_some',
      Option.getD_some]
    exact List.mem_map_of_mem _ (List.getElem_mem inside)
  · exact absurd rfl nonEmpty

/-- A registered mid reads its own index and leaves the map alone. -/
theorem subscript_of_registry {sdp : RemoteSdp} (exact : RegistryExact sdp)
    {mid : String} (registered : sdp.Registered mid) :
    ∃ idx, (sectionMids sdp.mediaSections)[idx]? = some mid ∧
      sdp.midToIndex.subscript mid 0 = (idx, sdp.midToIndex) := by
  obtain ⟨idx, found⟩ := Option.ne_none_iff_exists'.mp registered
  exact ⟨idx, (exact.indexes mid idx).mp found, StringMap.subscript_of_find? found⟩

/-- Replacing the section at a position with the same mid. -/
theorem sectionMids_set_of_getMid {mediaSections : List MediaSection}
    {idx : Nat} {old new : MediaSection} (found : mediaSections[idx]? = some old)
    (sameMid : new.getMid = old.getMid) :
    sectionMids (mediaSections.set idx new) = sectionMids mediaSections :=
  map_set_of_getElem? found sameMid

section Preservation

variable {sdp next : RemoteSdp} (exact : RegistryExact sdp)
include exact

theorem registry_addMediaSection {newMediaSection : MediaSection}
    (fresh : sdp.midToIndex.find? newMediaSection.getMid = none) :
    RegistryExact (sdp.addMediaSection newMediaSection) := by
  have notMid := exact.indexes.not_mem fresh
  have lengthEq : (sectionMids sdp.mediaSections).length = sdp.mediaSections.length :=
    List.length_map _ _
  constructor
  · simpa [sectionMids] using List.Nodup.concat notMid exact.midsNodup
  · simpa [sectionMids, lengthEq] using exact.indexes.append notMid

theorem registry_replaceMediaSection {newMediaSection : MediaSection}
    {reuseMid : String} (reuse : reuseMid ≠ "") (registered : sdp.Registered reuseMid)
    (fresh : sdp.midToIndex.find? newMediaSection.getMid = none)
    (replaced : sdp.replaceMediaSection newMediaSection reuseMid = .ok next) :
    RegistryExact next := by
  obtain ⟨old, found, rfl⟩ := replaceMediaSection_ok reuse replaced
  obtain ⟨idx, atIdx, read⟩ := subscript_of_registry exact registered
  rw [read] at found ⊢
  have oldMid : old.getMid = reuseMid := by
    simpa [sectionMids, found] using atIdx
  have notMid := exact.indexes.not_mem fresh
  constructor
  · simpa [sectionMids, List.map_set] using exact.midsNodup.set notMid
  · simpa [sectionMids, List.map_set, oldMid] using
      exact.indexes.replace exact.midsNodup atIdx notMid

theorem registry_disableMediaSection {mid : String} (registered : sdp.Registered mid)
    (disabled : sdp.disableMediaSection mid = .ok next) :
    RegistryExact next := by
  obtain ⟨mediaSection, found, rfl⟩ := disableMediaSection_ok disabled
  obtain ⟨idx, _, read⟩ := subscript_of_registry exact registered
  rw [read] at found ⊢
  exact exact.of_same (sectionMids_set_of_getMid found (MediaSection.getMid_disable _)) rfl

theorem registry_closeMediaSection {mid : String} (registered : sdp.Registered mid)
    (closed : sdp.closeMediaSection mid = .ok next) :
    RegistryExact next := by
  obtain ⟨mediaSection, found, rfl⟩ := closeMediaSection_ok closed
  obtain ⟨idx, _, read⟩ := subscript_of_registry exact registered
  rw [read] at found ⊢
  have sameMid : (sdp.closedFor mid mediaSection).getMid = mediaSection.getMid := by
    unfold closedFor
    split <;> simp
  exact exact.of_same (sectionMids_set_of_getMid found sameMid) rfl

theorem registry_updateIceParameters (iceParameters : IceParameters) :
    RegistryExact (sdp.updateIceParameters iceParameters) :=
  exact.of_same (by simp [updateIceParameters, sectionMids, Function.comp_def]) rfl

theorem registry_updateDtlsRole (role : String) :
    RegistryExact (sdp.updateDtlsRole role) :=
  exact.of_same (by simp [updateDtlsRole, sectionMids, Function.comp_def]) rfl

/-- Every allowed call that completes keeps the registry exact. -/
theorem registry_step {operation : Operation}
    (admissible : RegistryAdmissible sdp operation)
    (stepped : sdp.step operation = .ok next) :
    RegistryExact next := by
  cases operation with
  | createAnswer offerMediaObject reuseMid =>
      obtain ⟨⟨_, fresh⟩, reuseChoice⟩ := admissible
      obtain ⟨built, constructed, placed⟩ := step_createAnswer_ok stepped
      have sameMid : built.1.getMid = offerMediaObject.mid :=
        (answerMediaSection_spec constructed).2.mid_eq
      rcases placed with ⟨_, rfl⟩ | ⟨reuse, replaced⟩
      · exact registry_addMediaSection exact (sameMid ▸ fresh)
      · have isNext : reuseMid = sdp.getNextMediaSectionIdx.reuseMid :=
          reuseChoice.resolve_left reuse
        have registered : sdp.Registered reuseMid := by
          obtain ⟨idx, atIdx⟩ := List.mem_iff_getElem?.mp
            (isNext ▸ reuseMid_mem_sectionMids sdp (isNext ▸ reuse))
          simp [Registered, exact.indexes.find?_of_getElem? atIdx]
        exact registry_replaceMediaSection exact reuse registered
          (sameMid ▸ fresh) replaced
  | sendSctpAssociation offerMediaObject =>
      obtain ⟨built, constructed, rfl⟩ := sendSctpAssociation_ok stepped
      have sameMid : built.1.getMid = offerMediaObject.mid :=
        (answerMediaSection_spec constructed).2.mid_eq
      exact registry_addMediaSection exact (sameMid ▸ admissible.2)
  | recvSctpAssociation =>
      obtain ⟨built, constructed, rfl⟩ := recvSctpAssociation_ok stepped
      have sameMid : built.getMid = "datachannel" :=
        (offerMediaSection_spec constructed).2.mid_eq
      exact registry_addMediaSection exact (sameMid ▸ admissible.2)
  | createOffer mid kind offerRtpParameters streamId trackId =>
      obtain ⟨built, constructed, rfl⟩ := createOffer_ok stepped
      have sameMid : built.getMid = mid :=
        (offerMediaSection_spec constructed).2.mid_eq
      exact registry_addMediaSection exact (sameMid ▸ admissible.2)
  | disableMediaSection mid =>
      exact registry_disableMediaSection exact admissible stepped
  | closeMediaSection mid =>
      exact registry_closeMediaSection exact admissible stepped
  | updateIceParameters iceParameters =>
      cases stepped
      exact registry_updateIceParameters exact iceParameters
  | updateDtlsRole role =>
      cases stepped
      exact registry_updateDtlsRole exact role
  | getSdp =>
      cases stepped
      exact exact.of_same rfl rfl
  | getNextMediaSectionIdx =>
      cases stepped
      exact exact

end Preservation

/-- The constructor's registry is empty, as are its sections. -/
theorem registry_create {iceParameters : IceParameters}
    {iceCandidates : List IceCandidate} {dtlsParameters : DtlsParameters}
    {sctpParameters : Option SctpParameters} {sdp : RemoteSdp}
    (created :
      create iceParameters iceCandidates dtlsParameters sctpParameters = .ok sdp) :
    RegistryExact sdp := by
  obtain ⟨_, rfl⟩ := create_ok created
  exact ⟨List.nodup_nil, fun key idx => by simp [initialState, sectionMids]⟩

/-- Every state reached by admissible calls keeps the registry exact. -/
theorem registry_of_reaches {iceParameters : IceParameters}
    {iceCandidates : List IceCandidate} {dtlsParameters : DtlsParameters}
    {sctpParameters : Option SctpParameters} {start sdp : RemoteSdp}
    (created :
      create iceParameters iceCandidates dtlsParameters sctpParameters =
        .ok start)
    (reached : Reaches RegistryAdmissible start sdp) :
    RegistryExact sdp := by
  induction reached with
  | refl => exact registry_create created
  | step _ _ admissible stepped exact => exact registry_step exact admissible stepped

/--
In every state reached from the constructor by calls in which each new
section carries a non-empty mid that is not registered, `CreateAnswer`'s
`reuseMid` is empty or the one `GetNextMediaSectionIdx` returns, and only
registered mids are disabled or closed, the sections' mids are pairwise
distinct and `midToIndex` maps exactly each of them to its index.
-/
theorem midToIndex_exact
    {iceParameters : IceParameters} {iceCandidates : List IceCandidate}
    {dtlsParameters : DtlsParameters} {sctpParameters : Option SctpParameters}
    {start sdp : RemoteSdp}
    (created :
      create iceParameters iceCandidates dtlsParameters sctpParameters =
        .ok start)
    (reached : Reaches RegistryAdmissible start sdp) :
    (sdp.mediaSections.map MediaSection.getMid).Nodup ∧
      ∀ mid idx, sdp.midToIndex.find? mid = some idx ↔
        ∃ mediaSection, sdp.mediaSections[idx]? = some mediaSection ∧
          mediaSection.getMid = mid := by
  have exact := registry_of_reaches created reached
  refine ⟨exact.midsNodup, fun mid idx => ?_⟩
  rw [exact.indexes mid idx]
  simp [sectionMids]

theorem midToIndex_exact_after_close :
    ∃ sdp,
      Reaches RegistryAdmissible exampleStart sdp ∧
        ((sdp.mediaSections.map MediaSection.getMid).Nodup ∧
          ∀ mid idx, sdp.midToIndex.find? mid = some idx ↔
            ∃ mediaSection, sdp.mediaSections[idx]? = some mediaSection ∧
              mediaSection.getMid = mid) :=
  have reached : Reaches RegistryAdmissible exampleStart _ :=
    (Reaches.refl.step (.createOffer "a" "audio" exampleRtpParameters "s" "t")
      (by decide) rfl).step (.closeMediaSection "a") (by decide) rfl
  ⟨_, reached, midToIndex_exact create_example reached⟩

end RemoteSdp

end MediasoupClient.Sdp
