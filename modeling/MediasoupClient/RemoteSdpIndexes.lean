import MediasoupClient.RemoteSdp

namespace MediasoupClient.Sdp

/-!
# Every index `midToIndex` holds names a section

`CloseMediaSection`, `DisableMediaSection` and `ReplaceMediaSection` read
`midToIndex` with `operator[]`, which inserts `0` for an absent mid, and
index `mediaSections` with what they read, without a bound check.  Every
method keeps each stored index below the number of sections:
`AddMediaSection` stores the index of the section it appends,
`ReplaceMediaSection` the index it has just replaced at, and a read that
inserts `0` completes only when a section is there.  So in every state the
constructor's object reaches, whatever calls it takes, the three methods
are defined for every mid exactly when there is a section.
-/

namespace RemoteSdp

/-- Every index `midToIndex` holds names a section. -/
def IndexesInRange (sdp : RemoteSdp) : Prop :=
  ∀ mid idx, sdp.midToIndex.find? mid = some idx → idx < sdp.mediaSections.length

section Preservation

variable {sdp next : RemoteSdp} (inRange : IndexesInRange sdp)
include inRange

/-- The index `operator[]` reads names a section whenever there is one. -/
theorem IndexesInRange.subscript_lt (present : sdp.mediaSections ≠ []) (mid : String) :
    (sdp.midToIndex.subscript mid 0).1 < sdp.mediaSections.length := by
  rw [StringMap.subscript_fst]
  cases found : sdp.midToIndex.find? mid with
  | none => exact List.length_pos.mpr present
  | some idx => exact inRange mid idx found

/-- The map `operator[]` leaves keeps the indexes in range once its read found a section. -/
theorem IndexesInRange.subscript {mid : String} {mediaSection : MediaSection}
    (found : sdp.mediaSections[(sdp.midToIndex.subscript mid 0).1]? = some mediaSection)
    (key : String) (idx : Nat)
    (stored : (sdp.midToIndex.subscript mid 0).2.find? key = some idx) :
    idx < sdp.mediaSections.length := by
  unfold StringMap.subscript at found stored
  cases lookup : sdp.midToIndex.find? mid with
  | some _ =>
      simp only [lookup] at stored
      exact inRange key idx stored
  | none =>
      simp only [lookup, StringMap.find?_assign] at found stored
      split at stored
      · cases stored
        exact (List.getElem?_eq_some_iff.mp found).1
      · exact inRange key idx stored

theorem indexesInRange_addMediaSection (newMediaSection : MediaSection) :
    IndexesInRange (sdp.addMediaSection newMediaSection) := by
  intro key idx stored
  simp only [addMediaSection_midToIndex, StringMap.find?_assign] at stored
  simp only [addMediaSection_mediaSections, List.length_append, List.length_singleton]
  split at stored
  · cases stored
    omega
  · have := inRange key idx stored
    omega

theorem indexesInRange_replaceMediaSection {newMediaSection : MediaSection}
    {reuseMid : String} (reuse : reuseMid ≠ "")
    (replaced : sdp.replaceMediaSection newMediaSection reuseMid = .ok next) :
    IndexesInRange next := by
  obtain ⟨oldMediaSection, found, rfl⟩ := replaceMediaSection_ok reuse replaced
  intro key idx stored
  simp only [regenerateBundleMids_midToIndex, StringMap.find?_assign,
    StringMap.find?_erase] at stored
  simp only [regenerateBundleMids_mediaSections, List.length_set]
  split at stored
  · cases stored
    exact (List.getElem?_eq_some_iff.mp found).1
  · split at stored
    · cases stored
    · exact inRange.subscript found key idx stored

theorem indexesInRange_disableMediaSection {mid : String}
    (disabled : sdp.disableMediaSection mid = .ok next) : IndexesInRange next := by
  obtain ⟨_, found, rfl⟩ := disableMediaSection_ok disabled
  intro key idx stored
  rw [List.length_set]
  exact inRange.subscript found key idx stored

theorem indexesInRange_closeMediaSection {mid : String}
    (closed : sdp.closeMediaSection mid = .ok next) : IndexesInRange next := by
  obtain ⟨_, found, rfl⟩ := closeMediaSection_ok closed
  intro key idx stored
  rw [regenerateBundleMids_mediaSections, List.length_set]
  exact inRange.subscript found key idx stored

/-- Every call that completes keeps the indexes in range. -/
theorem indexesInRange_step {operation : Operation}
    (stepped : sdp.step operation = .ok next) : IndexesInRange next := by
  cases operation with
  | createAnswer =>
      obtain ⟨_, _, ⟨_, rfl⟩ | ⟨reuse, replaced⟩⟩ := step_createAnswer_ok stepped
      · exact indexesInRange_addMediaSection inRange _
      · exact indexesInRange_replaceMediaSection inRange reuse replaced
  | sendSctpAssociation =>
      obtain ⟨_, _, rfl⟩ := sendSctpAssociation_ok stepped
      exact indexesInRange_addMediaSection inRange _
  | recvSctpAssociation =>
      obtain ⟨_, _, rfl⟩ := recvSctpAssociation_ok stepped
      exact indexesInRange_addMediaSection inRange _
  | createOffer =>
      obtain ⟨_, _, rfl⟩ := createOffer_ok stepped
      exact indexesInRange_addMediaSection inRange _
  | disableMediaSection => exact indexesInRange_disableMediaSection inRange stepped
  | closeMediaSection => exact indexesInRange_closeMediaSection inRange stepped
  | updateIceParameters | updateDtlsRole =>
      cases stepped
      simpa [IndexesInRange, updateIceParameters, updateDtlsRole] using inRange
  | getSdp | getNextMediaSectionIdx =>
      cases stepped
      exact inRange

/-- A read of `operator[]` that names a section makes the three methods complete. -/
theorem IndexesInRange.defined (present : sdp.mediaSections ≠ []) (mid : String) :
    (∃ next, sdp.closeMediaSection mid = .ok next) ∧
      (∃ next, sdp.disableMediaSection mid = .ok next) ∧
      ∀ newMediaSection : MediaSection,
        ∃ next, sdp.replaceMediaSection newMediaSection mid = .ok next := by
  have sectionAt : ∀ key,
      ∃ mediaSection, sdp.mediaSections[(sdp.midToIndex.subscript key 0).1]? =
        some mediaSection := fun key =>
    ⟨_, List.getElem?_eq_getElem (inRange.subscript_lt present key)⟩
  obtain ⟨_, found⟩ := sectionAt mid
  refine ⟨?_, ?_, fun newMediaSection => ?_⟩
  · simp only [RemoteSdp.closeMediaSection, found, Except.ok.injEq, exists_eq']
  · simp only [RemoteSdp.disableMediaSection, found, Except.ok.injEq, exists_eq']
  · obtain ⟨_, foundNew⟩ := sectionAt newMediaSection.getMid
    unfold RemoteSdp.replaceMediaSection
    split
    · simp only [found, Except.ok.injEq, exists_eq']
    · simp only [foundNew, Except.ok.injEq, exists_eq']

end Preservation

/-- The constructor's object stores no index. -/
theorem indexesInRange_create {iceParameters : IceParameters}
    {iceCandidates : List IceCandidate} {dtlsParameters : DtlsParameters}
    {sctpParameters : Option SctpParameters} {sdp : RemoteSdp}
    (created :
      create iceParameters iceCandidates dtlsParameters sctpParameters = .ok sdp) :
    IndexesInRange sdp := by
  obtain ⟨_, rfl⟩ := create_ok created
  intro _ _ stored
  cases stored

/-- Over every run from the constructor, the indexes stay in range. -/
theorem indexesInRange_of_reaches {iceParameters : IceParameters}
    {iceCandidates : List IceCandidate} {dtlsParameters : DtlsParameters}
    {sctpParameters : Option SctpParameters}
    {allowed : RemoteSdp → Operation → Prop} {start sdp : RemoteSdp}
    (created :
      create iceParameters iceCandidates dtlsParameters sctpParameters = .ok start)
    (reached : Reaches allowed start sdp) :
    IndexesInRange sdp := by
  induction reached with
  | refl => exact indexesInRange_create created
  | step _ _ _ stepped inRange => exact indexesInRange_step inRange stepped

/-- Without a section, every read of `mediaSections` is undefined. -/
theorem undefined_of_mediaSections_nil {sdp : RemoteSdp} (empty : sdp.mediaSections = [])
    (mid : String) :
    sdp.closeMediaSection mid = .error .undefined ∧
      sdp.disableMediaSection mid = .error .undefined ∧
      ∀ newMediaSection : MediaSection,
        sdp.replaceMediaSection newMediaSection mid = .error .undefined := by
  refine ⟨?_, ?_, fun _ => ?_⟩
  · simp only [RemoteSdp.closeMediaSection, empty, List.getElem?_nil]
  · simp only [RemoteSdp.disableMediaSection, empty, List.getElem?_nil]
  · unfold RemoteSdp.replaceMediaSection
    split <;> simp only [empty, List.getElem?_nil]

/--
In every state reached from the constructor by any calls that complete,
each index `midToIndex` holds names a section, and `CloseMediaSection`,
`DisableMediaSection` and `ReplaceMediaSection` complete, for every mid
and every new section, exactly when there is a section; without one each
is undefined.
-/
theorem midToIndex_reads_defined_iff_sections {iceParameters : IceParameters}
    {iceCandidates : List IceCandidate} {dtlsParameters : DtlsParameters}
    {sctpParameters : Option SctpParameters}
    {allowed : RemoteSdp → Operation → Prop} {start sdp : RemoteSdp}
    (created :
      create iceParameters iceCandidates dtlsParameters sctpParameters = .ok start)
    (reached : Reaches allowed start sdp) (mid : String) :
    (∀ key idx, sdp.midToIndex.find? key = some idx → idx < sdp.mediaSections.length) ∧
      ((∃ next, sdp.closeMediaSection mid = .ok next) ↔ sdp.mediaSections ≠ []) ∧
      ((∃ next, sdp.disableMediaSection mid = .ok next) ↔ sdp.mediaSections ≠ []) ∧
      ∀ newMediaSection : MediaSection,
        (∃ next, sdp.replaceMediaSection newMediaSection mid = .ok next) ↔
          sdp.mediaSections ≠ [] := by
  have inRange := indexesInRange_of_reaches created reached
  have defined := fun present => inRange.defined present mid
  have undefinedWithout : sdp.mediaSections = [] → _ :=
    fun empty => undefined_of_mediaSections_nil empty mid
  refine ⟨inRange, ⟨?_, fun present => (defined present).1⟩,
    ⟨?_, fun present => (defined present).2.1⟩,
    fun newMediaSection => ⟨?_, fun present => (defined present).2.2 newMediaSection⟩⟩
  all_goals
    rintro ⟨_, completed⟩ empty
    simp only [undefinedWithout empty, reduceCtorEq] at completed

theorem midToIndex_reads_defined_after_offer :
    ∃ sdp, Reaches anyCall exampleStart sdp ∧
      ∃ next, sdp.closeMediaSection "b" = .ok next :=
  have reached : Reaches anyCall exampleStart _ :=
    Reaches.refl.step (.createOffer "a" "audio" exampleRtpParameters "s" "t") trivial rfl
  ⟨_, reached, ((midToIndex_reads_defined_iff_sections create_example reached "b").2.1).2
    (List.cons_ne_nil _ _)⟩

end RemoteSdp

end MediasoupClient.Sdp
