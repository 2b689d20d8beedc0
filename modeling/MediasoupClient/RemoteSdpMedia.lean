import MediasoupClient.RemoteSdp

namespace MediasoupClient.Sdp

/-!
# The document's copies of the sections

`GetObject` returns a copy, so a method that changes a section has to write
the copy into `sdpObject["media"]` at the section's index by hand.
`AddMediaSection`, `ReplaceMediaSection` with a `reuseMid`,
`CloseMediaSection` and the loops of `UpdateIceParameters` and
`UpdateDtlsRole` do; `DisableMediaSection` does not.

The preservation lemmas below are stated for any relation `related` between
an entry of `media` and the section at its index that holds of every
section's own object.  With equality they show that every run without
`DisableMediaSection` keeps the document exact; with `CopyOf` (the object,
or the object before a later `Disable`) they give what every run keeps.  A
run that ends with `DisableMediaSection` shows that exactness fails.
-/

namespace RemoteSdp

/-- Writing related elements at one index keeps two lists related. -/
theorem forall₂_set {related : α → β → Prop} {left : List α} {right : List β}
    (pairs : List.Forall₂ related left right) (idx : Nat) {a : α} {b : β}
    (relatedAt : related a b) :
    List.Forall₂ related (left.set idx a) (right.set idx b) := by
  induction pairs generalizing idx with
  | nil =>
      exact .nil
  | cons head _ inductionHypothesis =>
      cases idx with
      | zero => exact .cons relatedAt ‹_›
      | succ idx => exact .cons head (inductionHypothesis idx)

/--
Writing at one index of the right list keeps the relation when the new
element is related to everything the old one was related to.
-/
theorem forall₂_set_right {related : α → β → Prop} {left : List α}
    {right : List β} (pairs : List.Forall₂ related left right) {idx : Nat}
    {old new : β} (found : right[idx]? = some old)
    (keeps : ∀ a, related a old → related a new) :
    List.Forall₂ related left (right.set idx new) := by
  induction pairs generalizing idx with
  | nil =>
      simp at found
  | cons head _ inductionHypothesis =>
      cases idx with
      | zero =>
          simp only [List.getElem?_cons_zero, Option.some.injEq] at found
          exact .cons (keeps _ (found ▸ head)) ‹_›
      | succ idx =>
          exact .cons head (inductionHypothesis (by simpa using found))

/-- The element of the right list at an index of the left one is related to it. -/
theorem forall₂_getElem? {related : α → β → Prop} {left : List α}
    {right : List β} (pairs : List.Forall₂ related left right) {idx : Nat}
    {a : α} (atLeft : left[idx]? = some a) :
    ∃ b, right[idx]? = some b ∧ related a b := by
  induction pairs generalizing idx with
  | nil =>
      simp at atLeft
  | cons head _ inductionHypothesis =>
      cases idx with
      | zero =>
          simp only [List.getElem?_cons_zero, Option.some.injEq] at atLeft
          exact ⟨_, List.getElem?_cons_zero, atLeft ▸ head⟩
      | succ idx =>
          simpa using inductionHypothesis (by simpa using atLeft)

/-- `sdpObject["media"]` holds, entry by entry, something `related` to the sections. -/
def MediaCopies (related : MediaObject → MediaSection → Prop) (sdp : RemoteSdp) :
    Prop :=
  List.Forall₂ related sdp.sdpObject.media sdp.mediaSections

section Preservation

variable {related : MediaObject → MediaSection → Prop}
  (copied : ∀ mediaSection, related mediaSection.getObject mediaSection)
include copied

/-- Writing every section's object gives related lists. -/
theorem forall₂_getObject (mediaSections : List MediaSection) :
    List.Forall₂ related (mediaSections.map MediaSection.getObject)
      mediaSections :=
  List.forall₂_map_left_iff.mpr (List.forall₂_same.mpr fun _ _ => copied _)

/-- The update loops restamp every entry when there is one per section. -/
theorem forall₂_restampMedia {media : List MediaObject}
    {mediaSections : List MediaSection}
    (pairs : List.Forall₂ related media mediaSections)
    (update : MediaSection → MediaSection) :
    List.Forall₂ related (restampMedia (mediaSections.map update) media)
      (mediaSections.map update) := by
  rw [restampMedia_eq, List.length_map, ← pairs.length_eq, List.drop_length,
    List.append_nil]
  exact forall₂_getObject copied _

variable {sdp next : RemoteSdp} (copies : MediaCopies related sdp)
include copies

theorem copies_addMediaSection (newMediaSection : MediaSection) :
    MediaCopies related (sdp.addMediaSection newMediaSection) :=
  List.rel_append copies (.cons (copied _) .nil)

theorem copies_replaceMediaSection {newMediaSection : MediaSection}
    {reuseMid : String} (reuse : reuseMid ≠ "")
    (replaced : sdp.replaceMediaSection newMediaSection reuseMid = .ok next) :
    MediaCopies related next := by
  obtain ⟨_, _, rfl⟩ := replaceMediaSection_ok reuse replaced
  exact forall₂_set copies _ (copied _)

theorem copies_closeMediaSection {mid : String}
    (closed : sdp.closeMediaSection mid = .ok next) :
    MediaCopies related next := by
  obtain ⟨_, _, rfl⟩ := closeMediaSection_ok closed
  exact forall₂_set copies _ (copied _)

omit copied in
theorem copies_disableMediaSection {mid : String}
    (keepsDisable :
      ∀ entry mediaSection, related entry mediaSection →
        related entry mediaSection.disable)
    (disabled : sdp.disableMediaSection mid = .ok next) :
    MediaCopies related next := by
  obtain ⟨_, found, rfl⟩ := disableMediaSection_ok disabled
  exact forall₂_set_right copies found fun _ => keepsDisable _ _

/--
Every completed call keeps the relation, `DisableMediaSection` when the
relation survives disabling the section.
-/
theorem copies_step {operation : Operation}
    (keepsDisable :
      ∀ mid, operation = .disableMediaSection mid →
        ∀ entry mediaSection, related entry mediaSection →
          related entry mediaSection.disable)
    (stepped : sdp.step operation = .ok next) :
    MediaCopies related next := by
  cases operation with
  | createAnswer =>
      obtain ⟨_, _, ⟨_, rfl⟩ | ⟨reuse, replaced⟩⟩ := step_createAnswer_ok stepped
      · exact copies_addMediaSection copied copies _
      · exact copies_replaceMediaSection copied copies reuse replaced
  | sendSctpAssociation =>
      obtain ⟨_, _, rfl⟩ := sendSctpAssociation_ok stepped
      exact copies_addMediaSection copied copies _
  | recvSctpAssociation =>
      obtain ⟨_, _, rfl⟩ := recvSctpAssociation_ok stepped
      exact copies_addMediaSection copied copies _
  | createOffer =>
      obtain ⟨_, _, rfl⟩ := createOffer_ok stepped
      exact copies_addMediaSection copied copies _
  | disableMediaSection mid =>
      exact copies_disableMediaSection copies (keepsDisable mid rfl)
        stepped
  | closeMediaSection =>
      exact copies_closeMediaSection copied copies stepped
  | updateIceParameters =>
      cases stepped
      exact forall₂_restampMedia copied copies _
  | updateDtlsRole =>
      cases stepped
      exact forall₂_restampMedia copied copies _
  | getSdp =>
      cases stepped
      exact copies
  | getNextMediaSectionIdx =>
      cases stepped
      exact copies

end Preservation

/-- The constructor's document has no media entry and there is no section. -/
theorem copies_create {related : MediaObject → MediaSection → Prop}
    {iceParameters : IceParameters} {iceCandidates : List IceCandidate}
    {dtlsParameters : DtlsParameters} {sctpParameters : Option SctpParameters}
    {sdp : RemoteSdp}
    (created :
      create iceParameters iceCandidates dtlsParameters sctpParameters = .ok sdp) :
    MediaCopies related sdp := by
  obtain ⟨_, rfl⟩ := create_ok created
  exact .nil

/--
`entry` is the copy `GetObject` gave of the section: its object, or its
object before a later `Disable`.
-/
def CopyOf (entry : MediaObject) (mediaSection : MediaSection) : Prop :=
  mediaSection.getObject = entry ∨ mediaSection.getObject = entry.disable

theorem CopyOf.disable {entry : MediaObject} {mediaSection : MediaSection}
    (copy : CopyOf entry mediaSection) : CopyOf entry mediaSection.disable := by
  rcases copy with same | same <;> exact .inr (by simp [same])

/--
In every state reached from the constructor, `sdpObject["media"]` has one
entry per section, and each entry is its section's object or that object
before a later `Disable`.
-/
theorem media_copies_of_reaches {iceParameters : IceParameters}
    {iceCandidates : List IceCandidate} {dtlsParameters : DtlsParameters}
    {sctpParameters : Option SctpParameters}
    {allowed : RemoteSdp → Operation → Prop} {start sdp : RemoteSdp}
    (created :
      create iceParameters iceCandidates dtlsParameters sctpParameters =
        .ok start)
    (reached : Reaches allowed start sdp) :
    MediaCopies CopyOf sdp := by
  induction reached with
  | refl => exact copies_create created
  | step _ _ _ stepped copies =>
      exact copies_step (fun _ => .inl rfl) copies
        (fun _ _ _ _ copy => copy.disable) stepped

/-- Whether the call is `DisableMediaSection`. -/
def Operation.isDisable : Operation → Bool
  | .disableMediaSection _ => true
  | _ => false

/-- No call is `DisableMediaSection`. -/
def NoDisable (_ : RemoteSdp) (operation : Operation) : Prop :=
  operation.isDisable = false

instance (sdp : RemoteSdp) (operation : Operation) :
    Decidable (NoDisable sdp operation) :=
  inferInstanceAs (Decidable (operation.isDisable = false))

/--
In every state reached from the constructor by calls none of which is
`DisableMediaSection`, `sdpObject["media"]` is exactly the sections' objects.
-/
theorem media_eq_getObject_without_disable {iceParameters : IceParameters}
    {iceCandidates : List IceCandidate} {dtlsParameters : DtlsParameters}
    {sctpParameters : Option SctpParameters} {start sdp : RemoteSdp}
    (created :
      create iceParameters iceCandidates dtlsParameters sctpParameters =
        .ok start)
    (reached : Reaches NoDisable start sdp) :
    sdp.sdpObject.media = sdp.mediaSections.map MediaSection.getObject := by
  have exact : MediaCopies (fun entry mediaSection => entry = mediaSection.getObject)
      sdp := by
    induction reached with
    | refl => exact copies_create created
    | step operation _ noDisable stepped copies =>
        refine copies_step (fun _ => rfl) copies (fun mid isDisable => ?_) stepped
        subst isDisable
        cases noDisable
  rw [← List.forall₂_eq_eq_eq, List.forall₂_map_right_iff]
  exact exact

theorem media_eq_getObject_after_close :
    ∃ sdp,
      Reaches NoDisable exampleStart sdp ∧
        sdp.sdpObject.media = sdp.mediaSections.map MediaSection.getObject :=
  have reached : Reaches NoDisable exampleStart _ :=
    (Reaches.refl.step (.createOffer "a" "audio" exampleRtpParameters "s" "t")
      (by decide) rfl).step (.closeMediaSection "a") (by decide) rfl
  ⟨_, reached, media_eq_getObject_without_disable create_example reached⟩

/--
`DisableMediaSection` leaves the document's copy as the section was: after
offering `a` and disabling it, the copy is `sendonly` while the section is
`inactive`.  The branch of `ReplaceMediaSection` without a `reuseMid`
writes its copy at index `size() - 1`, not at the slot it replaced.
-/
theorem media_differs_from_getObject :
    (∃ sdp,
      exampleStart.run
          [.createOffer "a" "audio" exampleRtpParameters "s" "t",
            .disableMediaSection "a"] = .ok sdp ∧
        sdp.sdpObject.media ≠ sdp.mediaSections.map MediaSection.getObject ∧
        sdp.sdpObject.media.map MediaObject.direction = [some "sendonly"] ∧
        sdp.mediaSections.map (·.getObject.direction) = [some "inactive"]) ∧
    ∃ sdp mediaSection next,
      exampleStart.run
          [.createOffer "a" "audio" exampleRtpParameters "s" "t",
            .createOffer "b" "video" exampleRtpParameters "s" "t"] = .ok sdp ∧
        offerMediaSection exampleIceParameters [] none "a" "video"
          exampleRtpParameters "s" "t" = .ok mediaSection ∧
        sdp.replaceMediaSection mediaSection "" = .ok next ∧
        next.sdpObject.media ≠ next.mediaSections.map MediaSection.getObject :=
  ⟨⟨_, rfl, by decide, rfl, rfl⟩, ⟨_, _, _, rfl, rfl, rfl, by decide⟩⟩

end RemoteSdp

end MediasoupClient.Sdp
