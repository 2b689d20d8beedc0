import MediasoupClient.StringMap
import MediasoupClient.MediaSection

namespace MediasoupClient.Sdp

/-!
# The remote SDP

`Sdp::RemoteSdp` fabricates the remote peer's session description from its
ICE, DTLS and SCTP parameters.  It keeps three views of the same sections:
the vector `mediaSections`, the map `midToIndex` from a section's mid to its
position, and the JSON document `sdpObject`, whose `media` array holds a copy
of each section's object and whose `groups[0].mids` lists the open sections
for `BUNDLE`.

Every method is a function of the state.  A method that can read past the
end of `mediaSections` returns `Except Failure`.  The text that `GetSdp`
returns is `sdptransform::write` of the document, so the model returns the
document itself.
-/

/-- `Sdp::RemoteSdp::MediaSectionIdx`. -/
structure MediaSectionIdx where
  idx : Nat
  reuseMid : String
  deriving Repr, DecidableEq

/-- The `o=` member. -/
structure Origin where
  address : String
  ipVer : Nat
  netType : String
  sessionId : Nat
  sessionVersion : Nat
  username : String
  deriving Repr, DecidableEq

/-- The `t=` member. -/
structure Timing where
  start : Nat
  stop : Nat
  deriving Repr, DecidableEq

/-- The `a=msid-semantic` member. -/
structure MsidSemantic where
  semantic : String
  token : String
  deriving Repr, DecidableEq

/-- The session-level `a=fingerprint` member. -/
structure Fingerprint where
  type : String
  hash : String
  deriving Repr, DecidableEq

/-- An `a=group` entry. -/
structure Group where
  type : String
  mids : String
  deriving Repr, DecidableEq

/-- The document `sdpObject`. -/
structure SdpObject where
  version : Nat
  origin : Origin
  name : String
  timing : Timing
  media : List MediaObject
  icelite : Option String
  msidSemantic : MsidSemantic
  fingerprint : Fingerprint
  groups : List Group
  deriving Repr, DecidableEq

/-- The members of an `Sdp::RemoteSdp` object. -/
structure RemoteSdp where
  iceParameters : IceParameters
  iceCandidates : List IceCandidate
  dtlsParameters : DtlsParameters
  sctpParameters : Option SctpParameters
  sdpObject : SdpObject
  mediaSections : List MediaSection
  midToIndex : StringMap Nat
  firstMid : String
  deriving DecidableEq

/-- The JSON value `null` read as RTP parameters: every member empty. -/
def RtpParameters.null : RtpParameters where
  mid := none
  codecs := []
  headerExtensions := []
  encodings := []
  rtcp := none

namespace RemoteSdp

/-- The members `RemoteSdp::RemoteSdp` initializes, given the fingerprint it takes. -/
def initialState
    (iceParameters : IceParameters) (iceCandidates : List IceCandidate)
    (dtlsParameters : DtlsParameters) (sctpParameters : Option SctpParameters)
    (fingerprint : DtlsFingerprint) : RemoteSdp where
  iceParameters := iceParameters
  iceCandidates := iceCandidates
  dtlsParameters := dtlsParameters
  sctpParameters := sctpParameters
  sdpObject := {
    version := 0
    origin := {
      address := "0.0.0.0"
      ipVer := 4
      netType := "IN"
      sessionId := 10000
      sessionVersion := 0
      username := "libmediasoupclient" }
    name := "-"
    timing := { start := 0, stop := 0 }
    media := []
    icelite := if iceParameters.iceLite then some "ice-lite" else none
    msidSemantic := { semantic := "WMS", token := "*" }
    fingerprint := { type := fingerprint.algorithm, hash := fingerprint.value }
    groups := [{ type := "BUNDLE", mids := "" }] }
  mediaSections := []
  midToIndex := .empty
  firstMid := ""

/--
`RemoteSdp::RemoteSdp`.  The fingerprint is the last entry of
`dtlsParameters.fingerprints`; with no entry the index `size() - 1` wraps.
-/
def create
    (iceParameters : IceParameters) (iceCandidates : List IceCandidate)
    (dtlsParameters : DtlsParameters) (sctpParameters : Option SctpParameters) :
    Except Failure RemoteSdp :=
  match dtlsParameters.fingerprints.getLast? with
  | none => .error .undefined
  | some fingerprint =>
      .ok (initialState iceParameters iceCandidates dtlsParameters sctpParameters
        fingerprint)

/-- The constructor builds `initialState` from the last fingerprint. -/
theorem create_ok {iceParameters : IceParameters}
    {iceCandidates : List IceCandidate} {dtlsParameters : DtlsParameters}
    {sctpParameters : Option SctpParameters} {sdp : RemoteSdp}
    (created :
      create iceParameters iceCandidates dtlsParameters sctpParameters = .ok sdp) :
    ∃ fingerprint,
      sdp = initialState iceParameters iceCandidates dtlsParameters
        sctpParameters fingerprint := by
  unfold create at created
  split at created
  · cases created
  · cases created
    exact ⟨_, rfl⟩

/--
The update loops' `sdpObject["media"][idx] = mediaSection->GetObject()` for
every index of `mediaSections`, in order.
-/
def restampMedia : List MediaSection → List MediaObject → List MediaObject
  | [], media => media
  | mediaSection :: rest, media =>
      mediaSection.getObject :: restampMedia rest media.tail

/-- The update loops write every section's object over the front of `media`. -/
theorem restampMedia_eq (mediaSections : List MediaSection)
    (media : List MediaObject) :
    restampMedia mediaSections media =
      mediaSections.map MediaSection.getObject ++ media.drop mediaSections.length := by
  induction mediaSections generalizing media with
  | nil =>
      rfl
  | cons mediaSection rest inductionHypothesis =>
      simp [restampMedia, inductionHypothesis, List.drop_tail]

/-- The `a=ice-lite` member after `iceParameters` were checked for `iceLite`. -/
def iceliteFor (iceParameters : IceParameters) (icelite : Option String) :
    Option String :=
  if iceParameters.iceLite then some "ice-lite" else icelite

/-- `UpdateIceParameters`. -/
def updateIceParameters (sdp : RemoteSdp) (iceParameters : IceParameters) :
    RemoteSdp :=
  let mediaSections :=
    sdp.mediaSections.map (·.setIceParameters iceParameters)
  { sdp with
    iceParameters := iceParameters
    mediaSections := mediaSections
    sdpObject :=
      { sdp.sdpObject with
        icelite := iceliteFor iceParameters sdp.sdpObject.icelite
        media := restampMedia mediaSections sdp.sdpObject.media } }

/-- `UpdateDtlsRole`. -/
def updateDtlsRole (sdp : RemoteSdp) (role : String) : RemoteSdp :=
  let mediaSections := sdp.mediaSections.map (·.setDtlsRole role)
  { sdp with
    dtlsParameters := { sdp.dtlsParameters with role := role }
    mediaSections := mediaSections
    sdpObject :=
      { sdp.sdpObject with
        icelite := iceliteFor sdp.iceParameters sdp.sdpObject.icelite
        media := restampMedia mediaSections sdp.sdpObject.media } }

/-- The loop of `GetNextMediaSectionIdx` from index `idx`. -/
def nextMediaSectionIdxFrom (idx : Nat) : List MediaSection → MediaSectionIdx
  | [] => ⟨idx, ""⟩
  | mediaSection :: rest =>
      if mediaSection.isClosed then ⟨idx, mediaSection.getMid⟩
      else nextMediaSectionIdxFrom (idx + 1) rest

/--
`GetNextMediaSectionIdx`: the first closed section and its mid, or the
index past the end with an empty `reuseMid`.
-/
def getNextMediaSectionIdx (sdp : RemoteSdp) : MediaSectionIdx :=
  nextMediaSectionIdxFrom 0 sdp.mediaSections

/-- One iteration of the loop of `RegenerateBundleMids`. -/
def bundleStep (mids : String) (mediaSection : MediaSection) : String :=
  if mediaSection.isClosed then mids
  else if mids = "" then mediaSection.getMid
  else mids ++ " " ++ mediaSection.getMid

/-- The string `RegenerateBundleMids` builds: the open sections' mids. -/
def bundleMids (mediaSections : List MediaSection) : String :=
  mediaSections.foldl bundleStep ""

/-- `RegenerateBundleMids`: write `groups[0].mids`. -/
def regenerateBundleMids (sdp : RemoteSdp) : RemoteSdp :=
  { sdp with
    sdpObject :=
      { sdp.sdpObject with
        groups := sdp.sdpObject.groups.modifyHead
          fun group => { group with mids := bundleMids sdp.mediaSections } } }

/-- `AddMediaSection`. -/
def addMediaSection (sdp : RemoteSdp) (newMediaSection : MediaSection) :
    RemoteSdp :=
  regenerateBundleMids
    { sdp with
      firstMid :=
        if sdp.firstMid = "" then newMediaSection.getMid else sdp.firstMid
      mediaSections := sdp.mediaSections ++ [newMediaSection]
      midToIndex :=
        sdp.midToIndex.assign newMediaSection.getMid sdp.mediaSections.length
      sdpObject :=
        { sdp.sdpObject with
          media := sdp.sdpObject.media ++ [newMediaSection.getObject] } }

/--
`ReplaceMediaSection`.  With a `reuseMid` it replaces the section that
`midToIndex[reuseMid]` names and moves the map entry to the new mid; without
one it replaces the section `midToIndex[newMid]` names, leaves the map and
the bundle alone, and writes the object at index `size() - 1`.
-/
def replaceMediaSection (sdp : RemoteSdp) (newMediaSection : MediaSection)
    (reuseMid : String) : Except Failure RemoteSdp :=
  if reuseMid ≠ "" then
    let read := sdp.midToIndex.subscript reuseMid 0
    match sdp.mediaSections[read.1]? with
    | none => .error .undefined
    | some oldMediaSection =>
        .ok (regenerateBundleMids
          { sdp with
            mediaSections := sdp.mediaSections.set read.1 newMediaSection
            midToIndex :=
              (read.2.erase oldMediaSection.getMid).assign
                newMediaSection.getMid read.1
            sdpObject :=
              { sdp.sdpObject with
                media := sdp.sdpObject.media.set read.1 newMediaSection.getObject } })
  else
    let read := sdp.midToIndex.subscript newMediaSection.getMid 0
    match sdp.mediaSections[read.1]? with
    | none => .error .undefined
    | some _ =>
        .ok
          { sdp with
            mediaSections := sdp.mediaSections.set read.1 newMediaSection
            midToIndex := read.2
            sdpObject :=
              { sdp.sdpObject with
                media :=
                  sdp.sdpObject.media.set (sdp.mediaSections.length - 1)
                    newMediaSection.getObject } }

/--
`CreateAnswer`: an answer section for the engine's offer section, put in
place of the closed section `reuseMid` or appended.  It also returns the
offer RTP parameters, which the section constructor writes into.
-/
def createAnswer (sdp : RemoteSdp) (offerMediaObject : LocalMediaObject)
    (reuseMid : String) (offerRtpParameters answerRtpParameters : RtpParameters)
    (codecOptions : Option CodecOptions) :
    Except Failure (RemoteSdp × RtpParameters) :=
  match answerMediaSection sdp.iceParameters sdp.iceCandidates
      sdp.dtlsParameters sdp.sctpParameters offerMediaObject
      offerRtpParameters answerRtpParameters codecOptions with
  | .error failure => .error failure
  | .ok (mediaSection, offerRtpParameters) =>
      if reuseMid ≠ "" then
        (sdp.replaceMediaSection mediaSection reuseMid).map
          (·, offerRtpParameters)
      else .ok (sdp.addMediaSection mediaSection, offerRtpParameters)

/-- `SendSctpAssociation`: append an answer for the engine's data section. -/
def sendSctpAssociation (sdp : RemoteSdp) (offerMediaObject : LocalMediaObject) :
    Except Failure RemoteSdp :=
  (answerMediaSection sdp.iceParameters sdp.iceCandidates sdp.dtlsParameters
      sdp.sctpParameters offerMediaObject RtpParameters.null RtpParameters.null
      none).map
    fun built => sdp.addMediaSection built.1

/-- `RecvSctpAssociation`: append an offered data section `datachannel`. -/
def recvSctpAssociation (sdp : RemoteSdp) : Except Failure RemoteSdp :=
  (offerMediaSection sdp.iceParameters sdp.iceCandidates sdp.sctpParameters
      "datachannel" "application" RtpParameters.null "" "").map
    sdp.addMediaSection

/-- `CreateOffer`: append an offered media section. -/
def createOffer (sdp : RemoteSdp) (mid kind : String)
    (offerRtpParameters : RtpParameters) (streamId trackId : String) :
    Except Failure RemoteSdp :=
  (offerMediaSection sdp.iceParameters sdp.iceCandidates none mid kind
      offerRtpParameters streamId trackId).map
    sdp.addMediaSection

/--
`DisableMediaSection`: disable the section `midToIndex[mid]` names.  The
document's copy of the section is not written.
-/
def disableMediaSection (sdp : RemoteSdp) (mid : String) :
    Except Failure RemoteSdp :=
  let read := sdp.midToIndex.subscript mid 0
  match sdp.mediaSections[read.1]? with
  | none => .error .undefined
  | some mediaSection =>
      .ok
        { sdp with
          midToIndex := read.2
          mediaSections := sdp.mediaSections.set read.1 mediaSection.disable }

/--
`CloseMediaSection`: close the section `midToIndex[mid]` names, or only
disable it when `mid` is `firstMid`; then write its copy and the bundle.
-/
def closeMediaSection (sdp : RemoteSdp) (mid : String) :
    Except Failure RemoteSdp :=
  let read := sdp.midToIndex.subscript mid 0
  match sdp.mediaSections[read.1]? with
  | none => .error .undefined
  | some mediaSection =>
      let mediaSection :=
        if mid = sdp.firstMid then mediaSection.disable else mediaSection.close
      .ok (regenerateBundleMids
        { sdp with
          midToIndex := read.2
          mediaSections := sdp.mediaSections.set read.1 mediaSection
          sdpObject :=
            { sdp.sdpObject with
              media := sdp.sdpObject.media.set read.1 mediaSection.getObject } })

/--
`GetSdp`: the session version is read as `uint32_t`, incremented and
stored; the emitted document is the result.
-/
def getSdp (sdp : RemoteSdp) : SdpObject × RemoteSdp :=
  let version := (sdp.sdpObject.origin.sessionVersion % 2 ^ 32 + 1) % 2 ^ 32
  let sdp :=
    { sdp with
      sdpObject :=
        { sdp.sdpObject with
          origin := { sdp.sdpObject.origin with sessionVersion := version } } }
  (sdp.sdpObject, sdp)

@[simp] theorem regenerateBundleMids_mediaSections (sdp : RemoteSdp) :
    sdp.regenerateBundleMids.mediaSections = sdp.mediaSections :=
  rfl

@[simp] theorem regenerateBundleMids_midToIndex (sdp : RemoteSdp) :
    sdp.regenerateBundleMids.midToIndex = sdp.midToIndex :=
  rfl

@[simp] theorem regenerateBundleMids_firstMid (sdp : RemoteSdp) :
    sdp.regenerateBundleMids.firstMid = sdp.firstMid :=
  rfl

@[simp] theorem regenerateBundleMids_media (sdp : RemoteSdp) :
    sdp.regenerateBundleMids.sdpObject.media = sdp.sdpObject.media :=
  rfl

@[simp] theorem regenerateBundleMids_origin (sdp : RemoteSdp) :
    sdp.regenerateBundleMids.sdpObject.origin = sdp.sdpObject.origin :=
  rfl

@[simp] theorem addMediaSection_mediaSections (sdp : RemoteSdp)
    (newMediaSection : MediaSection) :
    (sdp.addMediaSection newMediaSection).mediaSections =
      sdp.mediaSections ++ [newMediaSection] :=
  rfl

@[simp] theorem addMediaSection_midToIndex (sdp : RemoteSdp)
    (newMediaSection : MediaSection) :
    (sdp.addMediaSection newMediaSection).midToIndex =
      sdp.midToIndex.assign newMediaSection.getMid sdp.mediaSections.length :=
  rfl

@[simp] theorem addMediaSection_media (sdp : RemoteSdp)
    (newMediaSection : MediaSection) :
    (sdp.addMediaSection newMediaSection).sdpObject.media =
      sdp.sdpObject.media ++ [newMediaSection.getObject] :=
  rfl

@[simp] theorem addMediaSection_firstMid (sdp : RemoteSdp)
    (newMediaSection : MediaSection) :
    (sdp.addMediaSection newMediaSection).firstMid =
      if sdp.firstMid = "" then newMediaSection.getMid else sdp.firstMid :=
  rfl

@[simp] theorem addMediaSection_origin (sdp : RemoteSdp)
    (newMediaSection : MediaSection) :
    (sdp.addMediaSection newMediaSection).sdpObject.origin =
      sdp.sdpObject.origin :=
  rfl

/-- The loop of `GetNextMediaSectionIdx` finds the first closed section. -/
theorem nextMediaSectionIdxFrom_eq (base : Nat)
    (mediaSections : List MediaSection) :
    nextMediaSectionIdxFrom base mediaSections =
      match mediaSections.findIdx? MediaSection.isClosed with
      | some idx =>
          ⟨base + idx, ((mediaSections[idx]?).map MediaSection.getMid).getD ""⟩
      | none => ⟨base + mediaSections.length, ""⟩ := by
  induction mediaSections generalizing base with
  | nil =>
      simp [nextMediaSectionIdxFrom]
  | cons mediaSection rest inductionHypothesis =>
      by_cases closed : mediaSection.isClosed
      · simp [nextMediaSectionIdxFrom, closed, List.findIdx?_cons]
      · simp only [nextMediaSectionIdxFrom, closed, List.findIdx?_cons,
          List.findIdx?_succ, inductionHypothesis]
        cases rest.findIdx? MediaSection.isClosed <;>
          simp [Nat.add_assoc, Nat.add_comm 1]

/-- `GetNextMediaSectionIdx`: the first closed section and its mid, or the end. -/
theorem getNextMediaSectionIdx_eq (sdp : RemoteSdp) :
    sdp.getNextMediaSectionIdx =
      match sdp.mediaSections.findIdx? MediaSection.isClosed with
      | some idx =>
          ⟨idx, ((sdp.mediaSections[idx]?).map MediaSection.getMid).getD ""⟩
      | none => ⟨sdp.mediaSections.length, ""⟩ := by
  simpa using nextMediaSectionIdxFrom_eq 0 sdp.mediaSections

/-- Writing an element that `f` cannot tell from the old one keeps `map f`. -/
theorem map_set_of_getElem? {f : α → β} {items : List α} {idx : Nat}
    {old new : α} (found : items[idx]? = some old) (same : f new = f old) :
    (items.set idx new).map f = items.map f := by
  apply List.ext_getElem?
  intro position
  simp only [List.getElem?_map, List.getElem?_set]
  split_ifs with atIdx withinBounds
  · subst atIdx
    simp [found, same]
  · subst atIdx
    exact absurd (List.getElem?_eq_some_iff.mp found).1 withinBounds
  · rfl

/-! ## What each method does when it completes -/

/-- `CreateAnswer` builds an answer section, then appends it or reuses a slot. -/
theorem createAnswer_ok {sdp : RemoteSdp} {offerMediaObject : LocalMediaObject}
    {reuseMid : String} {offerRtpParameters answerRtpParameters : RtpParameters}
    {codecOptions : Option CodecOptions} {result : RemoteSdp × RtpParameters}
    (answered :
      sdp.createAnswer offerMediaObject reuseMid offerRtpParameters
        answerRtpParameters codecOptions = .ok result) :
    ∃ built,
      answerMediaSection sdp.iceParameters sdp.iceCandidates sdp.dtlsParameters
          sdp.sctpParameters offerMediaObject offerRtpParameters
          answerRtpParameters codecOptions = .ok built ∧
        result.2 = built.2 ∧
        ((reuseMid = "" ∧ result.1 = sdp.addMediaSection built.1) ∨
          (reuseMid ≠ "" ∧
            sdp.replaceMediaSection built.1 reuseMid = .ok result.1)) := by
  unfold createAnswer at answered
  split at answered
  · cases answered
  · rename_i mediaSection answerOfferRtpParameters constructed
    refine ⟨(mediaSection, answerOfferRtpParameters), constructed, ?_⟩
    split_ifs at answered with reuse
    · cases replaced : sdp.replaceMediaSection mediaSection reuseMid <;>
        simp only [replaced, Except.map, reduceCtorEq, Except.ok.injEq] at answered
      subst result
      exact ⟨rfl, .inr ⟨reuse, rfl⟩⟩
    · cases answered
      exact ⟨rfl, .inl ⟨not_not.mp reuse, rfl⟩⟩

/-- `SendSctpAssociation` appends an answer section. -/
theorem sendSctpAssociation_ok {sdp next : RemoteSdp}
    {offerMediaObject : LocalMediaObject}
    (associated : sdp.sendSctpAssociation offerMediaObject = .ok next) :
    ∃ built,
      answerMediaSection sdp.iceParameters sdp.iceCandidates sdp.dtlsParameters
          sdp.sctpParameters offerMediaObject RtpParameters.null
          RtpParameters.null none = .ok built ∧
        next = sdp.addMediaSection built.1 := by
  unfold sendSctpAssociation at associated
  cases constructed : answerMediaSection sdp.iceParameters sdp.iceCandidates
      sdp.dtlsParameters sdp.sctpParameters offerMediaObject RtpParameters.null
      RtpParameters.null none <;>
    simp only [constructed, Except.map, reduceCtorEq, Except.ok.injEq]
      at associated
  exact ⟨_, rfl, associated.symm⟩

/-- `RecvSctpAssociation` appends the offered data section `datachannel`. -/
theorem recvSctpAssociation_ok {sdp next : RemoteSdp}
    (associated : sdp.recvSctpAssociation = .ok next) :
    ∃ mediaSection,
      offerMediaSection sdp.iceParameters sdp.iceCandidates sdp.sctpParameters
          "datachannel" "application" RtpParameters.null "" "" =
        .ok mediaSection ∧
        next = sdp.addMediaSection mediaSection := by
  unfold recvSctpAssociation at associated
  cases constructed : offerMediaSection sdp.iceParameters sdp.iceCandidates
      sdp.sctpParameters "datachannel" "application" RtpParameters.null "" "" <;>
    simp only [constructed, Except.map, reduceCtorEq, Except.ok.injEq]
      at associated
  exact ⟨_, rfl, associated.symm⟩

/-- `CreateOffer` appends an offered section. -/
theorem createOffer_ok {sdp next : RemoteSdp} {mid kind : String}
    {offerRtpParameters : RtpParameters} {streamId trackId : String}
    (offered :
      sdp.createOffer mid kind offerRtpParameters streamId trackId = .ok next) :
    ∃ mediaSection,
      offerMediaSection sdp.iceParameters sdp.iceCandidates none mid kind
          offerRtpParameters streamId trackId = .ok mediaSection ∧
        next = sdp.addMediaSection mediaSection := by
  unfold createOffer at offered
  cases constructed : offerMediaSection sdp.iceParameters sdp.iceCandidates
      none mid kind offerRtpParameters streamId trackId <;>
    simp only [constructed, Except.map, reduceCtorEq, Except.ok.injEq] at offered
  exact ⟨_, rfl, offered.symm⟩

/-- `ReplaceMediaSection` with a `reuseMid` fills the slot `midToIndex[reuseMid]`. -/
theorem replaceMediaSection_ok {sdp next : RemoteSdp}
    {newMediaSection : MediaSection} {reuseMid : String}
    (reuse : reuseMid ≠ "")
    (replaced : sdp.replaceMediaSection newMediaSection reuseMid = .ok next) :
    ∃ oldMediaSection,
      sdp.mediaSections[(sdp.midToIndex.subscript reuseMid 0).1]? =
          some oldMediaSection ∧
        next = regenerateBundleMids
          { sdp with
            mediaSections :=
              sdp.mediaSections.set (sdp.midToIndex.subscript reuseMid 0).1
                newMediaSection
            midToIndex :=
              (((sdp.midToIndex.subscript reuseMid 0).2.erase
                oldMediaSection.getMid).assign newMediaSection.getMid
                (sdp.midToIndex.subscript reuseMid 0).1)
            sdpObject :=
              { sdp.sdpObject with
                media :=
                  sdp.sdpObject.media.set (sdp.midToIndex.subscript reuseMid 0).1
                    newMediaSection.getObject } } := by
  unfold replaceMediaSection at replaced
  simp only [reuse, ne_eq, not_false_eq_true, ↓reduceIte] at replaced
  cases lookup : sdp.mediaSections[(sdp.midToIndex.subscript reuseMid 0).1]? with
  | none =>
      simp only [lookup, reduceCtorEq] at replaced
  | some oldMediaSection =>
      simp only [lookup, Except.ok.injEq] at replaced
      exact ⟨oldMediaSection, rfl, replaced.symm⟩

/-- `DisableMediaSection` disables the section `midToIndex[mid]` names. -/
theorem disableMediaSection_ok {sdp next : RemoteSdp} {mid : String}
    (disabled : sdp.disableMediaSection mid = .ok next) :
    ∃ mediaSection,
      sdp.mediaSections[(sdp.midToIndex.subscript mid 0).1]? =
          some mediaSection ∧
        next =
          { sdp with
            midToIndex := (sdp.midToIndex.subscript mid 0).2
            mediaSections :=
              sdp.mediaSections.set (sdp.midToIndex.subscript mid 0).1
                mediaSection.disable } := by
  unfold disableMediaSection at disabled
  cases lookup : sdp.mediaSections[(sdp.midToIndex.subscript mid 0).1]? with
  | none =>
      simp only [lookup, reduceCtorEq] at disabled
  | some mediaSection =>
      simp only [lookup, Except.ok.injEq] at disabled
      exact ⟨mediaSection, rfl, disabled.symm⟩

/-- The section `CloseMediaSection` leaves in place of `mediaSection`. -/
def closedFor (sdp : RemoteSdp) (mid : String) (mediaSection : MediaSection) :
    MediaSection :=
  if mid = sdp.firstMid then mediaSection.disable else mediaSection.close

/-- `CloseMediaSection` closes (or, for `firstMid`, disables) one section. -/
theorem closeMediaSection_ok {sdp next : RemoteSdp} {mid : String}
    (closed : sdp.closeMediaSection mid = .ok next) :
    ∃ mediaSection,
      sdp.mediaSections[(sdp.midToIndex.subscript mid 0).1]? =
          some mediaSection ∧
        next = regenerateBundleMids
          { sdp with
            midToIndex := (sdp.midToIndex.subscript mid 0).2
            mediaSections :=
              sdp.mediaSections.set (sdp.midToIndex.subscript mid 0).1
                (sdp.closedFor mid mediaSection)
            sdpObject :=
              { sdp.sdpObject with
                media :=
                  sdp.sdpObject.media.set (sdp.midToIndex.subscript mid 0).1
                    (sdp.closedFor mid mediaSection).getObject } } := by
  unfold closeMediaSection at closed
  cases lookup : sdp.mediaSections[(sdp.midToIndex.subscript mid 0).1]? with
  | none =>
      simp only [lookup, reduceCtorEq] at closed
  | some mediaSection =>
      simp only [lookup, Except.ok.injEq] at closed
      exact ⟨mediaSection, rfl, closed.symm⟩

/-- A call of a public method of `Sdp::RemoteSdp`, with its arguments. -/
inductive Operation where
  | createAnswer (offerMediaObject : LocalMediaObject) (reuseMid : String)
      (offerRtpParameters answerRtpParameters : RtpParameters)
      (codecOptions : Option CodecOptions)
  | sendSctpAssociation (offerMediaObject : LocalMediaObject)
  | recvSctpAssociation
  | createOffer (mid kind : String) (offerRtpParameters : RtpParameters)
      (streamId trackId : String)
  | disableMediaSection (mid : String)
  | closeMediaSection (mid : String)
  | updateIceParameters (iceParameters : IceParameters)
  | updateDtlsRole (role : String)
  | getSdp
  | getNextMediaSectionIdx
  deriving Repr, DecidableEq

/-- The state after a call that completes, or how the call fails. -/
def step (sdp : RemoteSdp) : Operation → Except Failure RemoteSdp
  | .createAnswer offerMediaObject reuseMid offerRtpParameters
      answerRtpParameters codecOptions =>
      (sdp.createAnswer offerMediaObject reuseMid offerRtpParameters
        answerRtpParameters codecOptions).map Prod.fst
  | .sendSctpAssociation offerMediaObject =>
      sdp.sendSctpAssociation offerMediaObject
  | .recvSctpAssociation => sdp.recvSctpAssociation
  | .createOffer mid kind offerRtpParameters streamId trackId =>
      sdp.createOffer mid kind offerRtpParameters streamId trackId
  | .disableMediaSection mid => sdp.disableMediaSection mid
  | .closeMediaSection mid => sdp.closeMediaSection mid
  | .updateIceParameters iceParameters =>
      .ok (sdp.updateIceParameters iceParameters)
  | .updateDtlsRole role => .ok (sdp.updateDtlsRole role)
  | .getSdp => .ok sdp.getSdp.2
  | .getNextMediaSectionIdx => .ok sdp

/-- Calls made in order, stopping at the first that fails. -/
def run (sdp : RemoteSdp) : List Operation → Except Failure RemoteSdp
  | [] => .ok sdp
  | operation :: rest =>
      match sdp.step operation with
      | .ok next => next.run rest
      | .error failure => .error failure

/--
States reached from `start` by calls that complete, each call allowed by
`allowed` in the state it is made in.
-/
inductive Reaches (allowed : RemoteSdp → Operation → Prop) (start : RemoteSdp) :
    RemoteSdp → Prop where
  | refl : Reaches allowed start start
  | step {sdp next : RemoteSdp} (operation : Operation) :
      Reaches allowed start sdp → allowed sdp operation →
      sdp.step operation = .ok next → Reaches allowed start next

/-- Every call is allowed. -/
def anyCall (_ : RemoteSdp) (_ : Operation) : Prop := True

/-- A run of allowed calls from a reached state that completes ends in a reached state. -/
theorem Reaches.run {allowed : RemoteSdp → Operation → Prop} {start middle sdp : RemoteSdp}
    {operations : List Operation} (reached : Reaches allowed start middle)
    (admits : ∀ operation ∈ operations, ∀ state, allowed state operation)
    (ran : middle.run operations = .ok sdp) :
    Reaches allowed start sdp := by
  induction operations generalizing middle with
  | nil =>
      simp only [RemoteSdp.run, Except.ok.injEq] at ran
      exact ran ▸ reached
  | cons operation rest inductionHypothesis =>
      simp only [RemoteSdp.run] at ran
      split at ran
      · exact inductionHypothesis
          (reached.step operation (admits _ (List.mem_cons_self _ _) _) ‹_›)
          (fun other member => admits other (List.mem_cons_of_mem _ member)) ran
      · cases ran

/-- A completed `CreateAnswer` call appends its section or fills a slot. -/
theorem step_createAnswer_ok {sdp next : RemoteSdp}
    {offerMediaObject : LocalMediaObject} {reuseMid : String}
    {offerRtpParameters answerRtpParameters : RtpParameters}
    {codecOptions : Option CodecOptions}
    (stepped :
      sdp.step (.createAnswer offerMediaObject reuseMid offerRtpParameters
        answerRtpParameters codecOptions) = .ok next) :
    ∃ built,
      answerMediaSection sdp.iceParameters sdp.iceCandidates sdp.dtlsParameters
          sdp.sctpParameters offerMediaObject offerRtpParameters
          answerRtpParameters codecOptions = .ok built ∧
        ((reuseMid = "" ∧ next = sdp.addMediaSection built.1) ∨
          (reuseMid ≠ "" ∧
            sdp.replaceMediaSection built.1 reuseMid = .ok next)) := by
  simp only [step] at stepped
  cases answered : sdp.createAnswer offerMediaObject reuseMid
      offerRtpParameters answerRtpParameters codecOptions <;>
    simp only [answered, Except.map, reduceCtorEq, Except.ok.injEq] at stepped
  subst next
  obtain ⟨built, constructed, _, slot⟩ := createAnswer_ok answered
  exact ⟨built, constructed, slot⟩

/-! ## Parameters of the concrete runs below and in later modules -/

/-- ICE parameters of a remote ICE-lite transport. -/
def exampleIceParameters : IceParameters where
  usernameFragment := "ufrag"
  password := "pwd"
  iceLite := true

/-- DTLS parameters with one fingerprint and role `auto`. -/
def exampleDtlsParameters : DtlsParameters where
  role := "auto"
  fingerprints := [{ algorithm := "sha-256", value := "AB:CD" }]

/-- The state the constructor builds from the example parameters. -/
def exampleStart : RemoteSdp :=
  initialState exampleIceParameters [] exampleDtlsParameters none
    { algorithm := "sha-256", value := "AB:CD" }

theorem create_example :
    create exampleIceParameters [] exampleDtlsParameters none = .ok exampleStart :=
  rfl

/-- RTP parameters of a consumer: one encoding with an SSRC, and a CNAME. -/
def exampleRtpParameters : RtpParameters where
  mid := none
  codecs := []
  headerExtensions := []
  encodings := [{ ssrc := some 1111, rtx := none }]
  rtcp := some { cname := some "cname" }

end RemoteSdp

end MediasoupClient.Sdp
