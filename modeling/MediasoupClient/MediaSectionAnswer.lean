import MediasoupClient.RecvHandler

namespace MediasoupClient.Sdp

/-!
# What an answer section takes from the offer

`AnswerMediaSection::AnswerMediaSection` copies into an audio or video
answer only what the offer and the answer parameters share: the answer's
header extensions whose URI the offer lists, and the offer's simulcast
object with its `send` rids turned to `recv`.  Its codec loop writes into
the offer RTP parameters the mirrored opus flags only: the caller gets them
back with the same codecs, in the same order and with the same MIME types,
and with every other member as it gave them.

The constructor reads the offer's `ext` through a `const` reference and
tests the `rids` iterator without comparing it with `end()`, so an offer
without either member is undefined behaviour where the code reads it.
-/

/--
The header extensions an answer may carry: the answer's own, in its order,
whose URI the offer's `ext` lists, each as `{uri, value: id}`.
-/
def offeredExtensions (localExts : List ExtObject)
    (headerExtensions : List RtpHeaderExtensionParameters) : List ExtObject :=
  (headerExtensions.filter fun ext => localExts.any (·.uri = ext.uri)).map
    fun ext => { uri := ext.uri, value := ext.id }

/--
The simulcast members of an answer to an offer: none without an offered
simulcast object; with one and a `rids` array, `recv` simulcast with the
offer's `list1`, and the offer's `send` rids, in order, as `recv`.
-/
inductive AnswersSimulcast (offer : LocalMediaObject) (answer : MediaObject) : Prop where
  | notOffered : offer.simulcast = none → answer.simulcast = none →
      answer.rids = none → AnswersSimulcast offer answer
  | offered (simulcast : SimulcastObject) (rids : List RidObject) :
      offer.simulcast = some simulcast → offer.rids = some rids →
      answer.simulcast = some { dir1 := "recv", list1 := simulcast.list1 } →
      answer.rids = some ((rids.filter (·.direction = "send")).map
        fun rid => { id := rid.id, direction := "recv" }) →
      AnswersSimulcast offer answer

/-! ## The header extension and simulcast loops -/

/-- With the offer's `ext` present, the extension loop is the filter. -/
theorem answerExtensions_some (localExts : List ExtObject) :
    ∀ headerExtensions : List RtpHeaderExtensionParameters,
      answerExtensions (some localExts) headerExtensions =
        .ok (offeredExtensions localExts headerExtensions)
  | [] => rfl
  | ext :: rest => by
    simp only [answerExtensions, answerExtensions_some localExts rest, Except.map,
      offeredExtensions, List.filter_cons]
    split <;> simp_all

/-- Whatever the loop returns is the filter over the offer's `ext`, absent read as empty. -/
theorem answerExtensions_ok {offerExt : Option (List ExtObject)}
    {headerExtensions : List RtpHeaderExtensionParameters} {ext : List ExtObject}
    (answered : answerExtensions offerExt headerExtensions = .ok ext) :
    ext = offeredExtensions (offerExt.getD []) headerExtensions := by
  cases offerExt with
  | some localExts =>
    rw [answerExtensions_some] at answered
    exact (Except.ok.inj answered).symm
  | none =>
    cases headerExtensions with
    | nil => cases answered; rfl
    | cons _ _ => cases answered

/-- An answer with what the simulcast block returns answers the offer's simulcast. -/
theorem answerSimulcast_ok {offerMediaObject : LocalMediaObject} {answer : MediaObject}
    {simulcast : Option SimulcastObject} {rids : Option (List RidObject)}
    (answered : answerSimulcast offerMediaObject = .ok (simulcast, rids))
    (simulcast_eq : answer.simulcast = simulcast) (rids_eq : answer.rids = rids) :
    AnswersSimulcast offerMediaObject answer := by
  unfold answerSimulcast at answered
  split at answered <;> cases answered
  · exact .notOffered ‹_› simulcast_eq rids_eq
  · exact .offered _ _ ‹_› ‹_› simulcast_eq rids_eq

/-! ## The codec loop -/

/-- `Except.map` returns only what it maps. -/
theorem except_map_eq_ok {ε α β : Type} {f : α → β} {result : Except ε α} {value : β}
    (mapped : result.map f = .ok value) : ∃ found, result = .ok found ∧ f found = value := by
  cases result <;> simp_all [Except.map]

/-- The write through the `find_if` iterator keeps the MIME types when the update does. -/
theorem updateOfferCodec_mimeTypes {payloadType : Nat}
    {update : RtpCodecParameters → RtpCodecParameters}
    (keeps : ∀ codec, (update codec).mimeType = codec.mimeType) :
    ∀ {codecs updated : List RtpCodecParameters},
      updateOfferCodec payloadType update codecs = .ok updated →
        updated.map (·.mimeType) = codecs.map (·.mimeType)
  | [], _, written => by cases written
  | codec :: rest, updated, written => by
    unfold updateOfferCodec at written
    split_ifs at written
    · cases written
      simp [keeps]
    · cases rewritten : updateOfferCodec payloadType update rest <;>
        simp only [rewritten, Except.map, reduceCtorEq, Except.ok.injEq] at written
      subst updated
      simp [updateOfferCodec_mimeTypes keeps rewritten]

/-- One codec's step keeps the offer codecs' MIME types. -/
theorem answerCodecParameters_mimeTypes {codecOptions : Option CodecOptions}
    {offerCodecs : List RtpCodecParameters} {codec : RtpCodecParameters}
    {parameters : List (String × ParameterValue)} {updated : List RtpCodecParameters}
    (answered : answerCodecParameters codecOptions offerCodecs codec =
      .ok (parameters, updated)) :
    updated.map (·.mimeType) = offerCodecs.map (·.mimeType) := by
  unfold answerCodecParameters at answered
  split at answered
  · cases answered; rfl
  · dsimp only at answered
    split_ifs at answered
    · cases answered; rfl
    all_goals
      obtain ⟨_, found, written⟩ := except_map_eq_ok answered
      obtain ⟨-, rfl⟩ := Prod.mk.inj written
      exact updateOfferCodec_mimeTypes (by intro; rfl) found

/-- The codec loop keeps the offer codecs' MIME types. -/
theorem answerCodecLoop_mimeTypes (codecOptions : Option CodecOptions) :
    ∀ {offerCodecs : List RtpCodecParameters} (codecs : List RtpCodecParameters)
      {entries : CodecEntries} {updated : List RtpCodecParameters},
      answerCodecLoop codecOptions offerCodecs codecs = .ok (entries, updated) →
        updated.map (·.mimeType) = offerCodecs.map (·.mimeType)
  | _, [], _, _, answered => by cases answered; rfl
  | offerCodecs, codec :: rest, _, _, answered => by
    simp only [answerCodecLoop, bind, Except.bind] at answered
    split at answered
    · cases answered
    · rename_i first stepped
      split at answered
      · cases answered
      · rename_i loop looped
        cases answered
        rw [answerCodecLoop_mimeTypes codecOptions rest looped,
          answerCodecParameters_mimeTypes stepped]

/-- Without a `codecOptions` member, one codec's step keeps its parameters and the offer codecs. -/
theorem answerCodecParameters_without_options {codecOptions : Option CodecOptions}
    (noOptions : codecOptions.all CodecOptions.empty)
    (offerCodecs : List RtpCodecParameters) (codec : RtpCodecParameters) :
    answerCodecParameters codecOptions offerCodecs codec =
      .ok (codec.parameters, offerCodecs) := by
  rcases codecOptions with _ | options
  · rfl
  · simp only [Option.all_some] at noOptions
    simp [answerCodecParameters, noOptions]

/-- Without a `codecOptions` member, the codec loop writes nothing into the offer codecs. -/
theorem answerCodecLoop_without_options {codecOptions : Option CodecOptions}
    (noOptions : codecOptions.all CodecOptions.empty) :
    ∀ {offerCodecs : List RtpCodecParameters} (codecs : List RtpCodecParameters)
      {entries : CodecEntries} {updated : List RtpCodecParameters},
      answerCodecLoop codecOptions offerCodecs codecs = .ok (entries, updated) →
        updated = offerCodecs
  | _, [], _, _, answered => by cases answered; rfl
  | offerCodecs, codec :: rest, _, _, answered => by
    simp only [answerCodecLoop, bind, Except.bind,
      answerCodecParameters_without_options noOptions] at answered
    split at answered
    · cases answered
    · rename_i loop looped
      cases answered
      exact answerCodecLoop_without_options noOptions rest looped

/-! ## The constructor -/

/-- What an audio or video answer section is built from. -/
theorem answerMediaSection_media {iceParameters : IceParameters}
    {iceCandidates : List IceCandidate} {dtlsParameters : DtlsParameters}
    {sctpParameters : Option SctpParameters} {offerMediaObject : LocalMediaObject}
    {offerRtpParameters answerRtpParameters : RtpParameters}
    {codecOptions : Option CodecOptions} {built : MediaSection × RtpParameters}
    (media : offerMediaObject.type = "audio" ∨ offerMediaObject.type = "video")
    (constructed :
      answerMediaSection iceParameters iceCandidates dtlsParameters
        sctpParameters offerMediaObject offerRtpParameters answerRtpParameters
        codecOptions = .ok built) :
    ∃ entries offerCodecs ext,
      answerCodecLoop codecOptions offerRtpParameters.codecs
          answerRtpParameters.codecs = .ok (entries, offerCodecs) ∧
        answerExtensions offerMediaObject.ext answerRtpParameters.headerExtensions =
          .ok ext ∧
        built.1.mediaObject.ext = some ext ∧
        answerSimulcast offerMediaObject =
          .ok (built.1.mediaObject.simulcast, built.1.mediaObject.rids) ∧
        built.2 = { offerRtpParameters with codecs := offerCodecs } ∧
        built.1.mediaObject.rtp = some entries.rtp ∧
        built.1.mediaObject.fmtp = some entries.fmtp ∧
        built.1.mediaObject.rtcpFb = some entries.rtcpFb ∧
        built.1.mediaObject.payloads = some (payloadsString answerRtpParameters.codecs) := by
  simp only [answerMediaSection, if_pos media, bind, Except.bind] at constructed
  split at constructed
  · cases constructed
  · rename_i loop looped
    split at constructed
    · cases constructed
    · rename_i ext extended
      split at constructed
      · cases constructed
      · rename_i simulcast simulcastAnswered
        cases constructed
        exact ⟨_, _, _, looped, extended, rfl, simulcastAnswered, rfl, rfl, rfl, rfl, rfl⟩

/--
The offer RTP parameters an answer section gives back: the caller's, with
codecs of the same MIME types, and the very same codecs without a
`codecOptions` member.
-/
theorem answerMediaSection_offerRtpParameters {iceParameters : IceParameters}
    {iceCandidates : List IceCandidate} {dtlsParameters : DtlsParameters}
    {sctpParameters : Option SctpParameters} {offerMediaObject : LocalMediaObject}
    {offerRtpParameters answerRtpParameters : RtpParameters}
    {codecOptions : Option CodecOptions} {built : MediaSection × RtpParameters}
    (constructed :
      answerMediaSection iceParameters iceCandidates dtlsParameters
        sctpParameters offerMediaObject offerRtpParameters answerRtpParameters
        codecOptions = .ok built) :
    built.2 = { offerRtpParameters with codecs := built.2.codecs } ∧
      built.2.codecs.map (·.mimeType) = offerRtpParameters.codecs.map (·.mimeType) ∧
      (codecOptions.all CodecOptions.empty → built.2.codecs = offerRtpParameters.codecs) := by
  by_cases media : offerMediaObject.type = "audio" ∨ offerMediaObject.type = "video"
  · obtain ⟨_, _, _, looped, -, -, -, returned, -⟩ := answerMediaSection_media media constructed
    rw [returned]
    exact ⟨rfl, answerCodecLoop_mimeTypes codecOptions _ looped,
      fun noOptions => answerCodecLoop_without_options noOptions _ looped⟩
  · simp only [answerMediaSection, if_neg media] at constructed
    split_ifs at constructed
    · split at constructed <;> cases constructed
      exact ⟨rfl, rfl, fun _ => rfl⟩
    · cases constructed
      exact ⟨rfl, rfl, fun _ => rfl⟩

/-- `CreateAnswer` gives back the offer RTP parameters its answer section wrote. -/
theorem RemoteSdp.createAnswer_offerRtpParameters {sdp : RemoteSdp}
    {offerMediaObject : LocalMediaObject} {reuseMid : String}
    {offerRtpParameters answerRtpParameters : RtpParameters}
    {codecOptions : Option CodecOptions} {result : RemoteSdp × RtpParameters}
    (answered :
      sdp.createAnswer offerMediaObject reuseMid offerRtpParameters
        answerRtpParameters codecOptions = .ok result) :
    result.2 = { offerRtpParameters with codecs := result.2.codecs } ∧
      result.2.codecs.map (·.mimeType) = offerRtpParameters.codecs.map (·.mimeType) ∧
      (codecOptions.all CodecOptions.empty → result.2.codecs = offerRtpParameters.codecs) := by
  obtain ⟨_, constructed, same, -⟩ := RemoteSdp.createAnswer_ok answered
  rw [same]
  exact answerMediaSection_offerRtpParameters constructed

/--
An audio or video answer section that is built carries exactly the offered
header extensions and answers the offer's simulcast.
-/
theorem answer_copies_offered_attributes {iceParameters : IceParameters}
    {iceCandidates : List IceCandidate} {dtlsParameters : DtlsParameters}
    {sctpParameters : Option SctpParameters} {offerMediaObject : LocalMediaObject}
    {offerRtpParameters answerRtpParameters : RtpParameters}
    {codecOptions : Option CodecOptions} {built : MediaSection × RtpParameters}
    (media : offerMediaObject.type = "audio" ∨ offerMediaObject.type = "video")
    (constructed :
      answerMediaSection iceParameters iceCandidates dtlsParameters
        sctpParameters offerMediaObject offerRtpParameters answerRtpParameters
        codecOptions = .ok built) :
    built.1.mediaObject.ext =
        some (offeredExtensions (offerMediaObject.ext.getD [])
          answerRtpParameters.headerExtensions) ∧
      AnswersSimulcast offerMediaObject built.1.mediaObject := by
  obtain ⟨_, _, _, -, extended, written, simulcastAnswered, -⟩ :=
    answerMediaSection_media media constructed
  exact ⟨written.trans (congrArg some (answerExtensions_ok extended)),
    answerSimulcast_ok simulcastAnswered rfl rfl⟩

/-- A video offer with one header extension, simulcast, and a `send` and a `recv` rid. -/
def exampleSimulcastOffer : LocalMediaObject :=
  { exampleLocalMediaObject "0" with
    type := "video"
    ext := some [{ uri := "urn:ietf:params:rtp-hdrext:sdes:mid", value := 4 }]
    simulcast := some { dir1 := "send", list1 := "r0;r1" }
    rids := some [{ id := "r0", direction := "send" }, { id := "r1", direction := "recv" }] }

/-- Answer parameters with the offered header extension and one the offer lacks. -/
def exampleSimulcastAnswer : RtpParameters :=
  { exampleSendingRtpParameters with
    headerExtensions := [{ uri := "urn:ietf:params:rtp-hdrext:sdes:mid", id := 1 },
      { uri := "urn:3gpp:video-orientation", id := 2 }] }

theorem answer_copies_offered_attributes_of_simulcast_offer :
    ∃ built,
      answerMediaSection RemoteSdp.exampleIceParameters [] RemoteSdp.exampleDtlsParameters
          none exampleSimulcastOffer exampleSendingRtpParameters exampleSimulcastAnswer
          none = .ok built ∧
        built.1.mediaObject.ext =
          some (offeredExtensions [{ uri := "urn:ietf:params:rtp-hdrext:sdes:mid", value := 4 }]
            exampleSimulcastAnswer.headerExtensions) ∧
        AnswersSimulcast exampleSimulcastOffer built.1.mediaObject :=
  ⟨_, rfl, @answer_copies_offered_attributes RemoteSdp.exampleIceParameters []
    RemoteSdp.exampleDtlsParameters none exampleSimulcastOffer exampleSendingRtpParameters
    exampleSimulcastAnswer none _ (.inr rfl) rfl⟩

/--
Two offers the constructor reads past: one with a simulcast object and no
`rids` (it tests `ridsIt->is_array()` on the `end()` iterator), and one
without `ext` when the answer has a header extension (it reads
`offerMediaObject["ext"]` through a `const` reference).
-/
theorem answer_reads_absent_offer_members :
    answerMediaSection RemoteSdp.exampleIceParameters [] RemoteSdp.exampleDtlsParameters
        none
        { exampleLocalMediaObject "0" with
          simulcast := some { dir1 := "send", list1 := "r0;r1" } }
        exampleSendingRtpParameters exampleSendingRtpParameters none =
      .error .undefined ∧
    answerMediaSection RemoteSdp.exampleIceParameters [] RemoteSdp.exampleDtlsParameters
        none (exampleLocalMediaObject "0") exampleSendingRtpParameters
        { exampleSendingRtpParameters with
          headerExtensions := [{ uri := "urn:ietf:params:rtp-hdrext:sdes:mid", id := 1 }] }
        none =
      .error .undefined :=
  ⟨rfl, rfl⟩

end MediasoupClient.Sdp
