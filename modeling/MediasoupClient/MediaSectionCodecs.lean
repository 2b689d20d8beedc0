import MediasoupClient.MediaSectionAnswer

namespace MediasoupClient.Sdp

/-!
# The codec tables of the two section constructors

`AnswerMediaSection::AnswerMediaSection` and
`OfferMediaSection::OfferMediaSection` each loop over a codec list and
write from it the `rtp`, `fmtp` and `rtcpFb` entries and the `payloads`
member.  The answer's loop also writes the `codecOptions` members, and to
mirror them it looks up the offer codec with the answer codec's payload
type by `find_if` and dereferences the iterator without comparing it with
`end()`, for every answer codec and whatever its MIME type.

The write through the iterator keeps every offer codec's payload type, so
the answer's loop is undefined exactly when `codecOptions` has a member and
some answer codec's payload type is missing from the offer codecs, and it
never throws.  Its `rtp` and `rtcpFb` entries are the offer loop's for the
same codecs, and without a `codecOptions` member so are its `fmtp` entries:
the two copies of the loop agree.
-/

/-! ## The `find_if` write -/

/-- With an offer codec of the payload type, the write completes and keeps the payload types. -/
theorem updateOfferCodec_of_mem {payloadType : Nat}
    {update : RtpCodecParameters → RtpCodecParameters}
    (keeps : ∀ codec, (update codec).payloadType = codec.payloadType) :
    ∀ {codecs : List RtpCodecParameters}, payloadType ∈ codecs.map (·.payloadType) →
      ∃ updated, updateOfferCodec payloadType update codecs = .ok updated ∧
        updated.map (·.payloadType) = codecs.map (·.payloadType)
  | [], member => by cases member
  | codec :: rest, member => by
    unfold updateOfferCodec
    split_ifs with found
    · exact ⟨_, rfl, by simp [keeps]⟩
    · have inRest : payloadType ∈ rest.map (·.payloadType) :=
        (List.mem_cons.mp member).resolve_left fun same => found same.symm
      obtain ⟨updated, written, same⟩ := updateOfferCodec_of_mem keeps inRest
      exact ⟨codec :: updated, by rw [written]; rfl, by simp [same]⟩

/-- Without an offer codec of the payload type, the write dereferences `end()`. -/
theorem updateOfferCodec_of_not_mem {payloadType : Nat}
    {update : RtpCodecParameters → RtpCodecParameters} :
    ∀ {codecs : List RtpCodecParameters}, payloadType ∉ codecs.map (·.payloadType) →
      updateOfferCodec payloadType update codecs = .error .undefined
  | [], _ => rfl
  | codec :: rest, absent => by
    simp only [List.map_cons, List.mem_cons, not_or] at absent
    rw [updateOfferCodec, if_neg (Ne.symm absent.1), updateOfferCodec_of_not_mem absent.2]
    rfl

/-! ## One codec's `codecOptions` step -/

/-- A step whose lookup finds an offer codec completes and keeps the payload types. -/
theorem answerCodecParameters_of_mem {codecOptions : Option CodecOptions}
    {offerCodecs : List RtpCodecParameters} {codec : RtpCodecParameters}
    (member : codec.payloadType ∈ offerCodecs.map (·.payloadType)) :
    ∃ parameters updated,
      answerCodecParameters codecOptions offerCodecs codec = .ok (parameters, updated) ∧
        updated.map (·.payloadType) = offerCodecs.map (·.payloadType) := by
  unfold answerCodecParameters
  split
  · exact ⟨_, _, rfl, rfl⟩
  · rename_i options
    dsimp only
    split_ifs
    · exact ⟨_, _, rfl, rfl⟩
    · obtain ⟨updated, written, same⟩ := @updateOfferCodec_of_mem codec.payloadType
        (fun offerCodec =>
          { offerCodec with parameters := mirrorOpusOptions options offerCodec.parameters })
        (fun _ => rfl) offerCodecs member
      exact ⟨_, updated, by rw [written]; rfl, same⟩
    all_goals
      obtain ⟨updated, written, same⟩ :=
        @updateOfferCodec_of_mem codec.payloadType id (fun _ => rfl) offerCodecs member
      exact ⟨_, updated, by rw [written]; rfl, same⟩

/-- A step with a `codecOptions` member whose lookup misses is undefined. -/
theorem answerCodecParameters_of_not_mem {codecOptions : Option CodecOptions}
    (withOptions : ¬ codecOptions.all CodecOptions.empty)
    {offerCodecs : List RtpCodecParameters} {codec : RtpCodecParameters}
    (absent : codec.payloadType ∉ offerCodecs.map (·.payloadType)) :
    answerCodecParameters codecOptions offerCodecs codec = .error .undefined := by
  rcases codecOptions with _ | options
  · exact absurd rfl withOptions
  · simp only [Option.all_some, Bool.not_eq_true] at withOptions
    simp only [answerCodecParameters, withOptions, Bool.false_eq_true, ↓reduceIte]
    split_ifs <;> rw [updateOfferCodec_of_not_mem absent] <;> rfl

/-- A step completes without a `codecOptions` member or when its lookup finds an offer codec. -/
theorem answerCodecParameters_completes {codecOptions : Option CodecOptions}
    {offerCodecs : List RtpCodecParameters} {codec : RtpCodecParameters}
    (either : codecOptions.all CodecOptions.empty ∨
      codec.payloadType ∈ offerCodecs.map (·.payloadType)) :
    ∃ parameters updated,
      answerCodecParameters codecOptions offerCodecs codec = .ok (parameters, updated) ∧
        updated.map (·.payloadType) = offerCodecs.map (·.payloadType) := by
  rcases either with noOptions | member
  · exact ⟨_, _, answerCodecParameters_without_options noOptions offerCodecs codec, rfl⟩
  · exact answerCodecParameters_of_mem member

/-! ## The answer's codec loop -/

/--
The loop completes without a `codecOptions` member or when every answer
codec's payload type is an offer codec's, and keeps the payload types.
-/
theorem answerCodecLoop_completes {codecOptions : Option CodecOptions} :
    ∀ {offerCodecs : List RtpCodecParameters} (codecs : List RtpCodecParameters),
      (codecOptions.all CodecOptions.empty ∨
          ∀ codec ∈ codecs, codec.payloadType ∈ offerCodecs.map (·.payloadType)) →
        ∃ entries updated,
          answerCodecLoop codecOptions offerCodecs codecs = .ok (entries, updated) ∧
            updated.map (·.payloadType) = offerCodecs.map (·.payloadType)
  | _, [], _ => ⟨_, _, rfl, rfl⟩
  | offerCodecs, codec :: rest, either => by
    obtain ⟨parameters, middle, stepped, sameFirst⟩ := answerCodecParameters_completes
      (either.imp id fun found => found codec (List.mem_cons_self _ _))
    have restEither : codecOptions.all CodecOptions.empty ∨
        ∀ codec ∈ rest, codec.payloadType ∈ middle.map (·.payloadType) :=
      either.imp id fun found other member => by
        rw [sameFirst]
        exact found other (List.mem_cons_of_mem _ member)
    obtain ⟨entries, updated, looped, sameRest⟩ := answerCodecLoop_completes rest restEither
    simp only [answerCodecLoop, bind, Except.bind, stepped, looped]
    exact ⟨_, updated, rfl, sameRest.trans sameFirst⟩

/--
With a `codecOptions` member, the loop is undefined when some answer
codec's payload type is no offer codec's: the steps before it keep the
payload types, so its lookup misses.
-/
theorem answerCodecLoop_of_not_mem {codecOptions : Option CodecOptions}
    (withOptions : ¬ codecOptions.all CodecOptions.empty) :
    ∀ {offerCodecs : List RtpCodecParameters} (codecs : List RtpCodecParameters),
      (∃ codec ∈ codecs, codec.payloadType ∉ offerCodecs.map (·.payloadType)) →
        answerCodecLoop codecOptions offerCodecs codecs = .error .undefined
  | _, [], ⟨_, outside, _⟩ => by cases outside
  | offerCodecs, codec :: rest, ⟨missing, member, absent⟩ => by
    by_cases found : codec.payloadType ∈ offerCodecs.map (·.payloadType)
    · obtain ⟨parameters, middle, stepped, same⟩ :=
        @answerCodecParameters_of_mem codecOptions _ _ found
      have restMissing : ∃ codec ∈ rest, codec.payloadType ∉ middle.map (·.payloadType) := by
        rcases List.mem_cons.mp member with rfl | inRest
        · exact absurd found absent
        · exact ⟨missing, inRest, by rwa [same]⟩
      simp only [answerCodecLoop, bind, Except.bind, stepped,
        answerCodecLoop_of_not_mem withOptions rest restMissing]
    · simp only [answerCodecLoop, bind, Except.bind,
        answerCodecParameters_of_not_mem withOptions found]

/--
What the loop writes: the `rtp` and `rtcpFb` entries of the offer's loop
for the same codecs, and without a `codecOptions` member its `fmtp`
entries too.
-/
theorem answerCodecLoop_entries (codecOptions : Option CodecOptions) :
    ∀ {offerCodecs : List RtpCodecParameters} (codecs : List RtpCodecParameters)
      {entries : CodecEntries} {updated : List RtpCodecParameters},
      answerCodecLoop codecOptions offerCodecs codecs = .ok (entries, updated) →
        entries.rtp = (offerCodecEntries codecs).rtp ∧
          entries.rtcpFb = (offerCodecEntries codecs).rtcpFb ∧
          (codecOptions.all CodecOptions.empty →
            entries.fmtp = (offerCodecEntries codecs).fmtp)
  | _, [], _, _, answered => by
    cases answered
    exact ⟨rfl, rfl, fun _ => rfl⟩
  | offerCodecs, codec :: rest, _, _, answered => by
    simp only [answerCodecLoop, bind, Except.bind] at answered
    split at answered
    · cases answered
    · rename_i first stepped
      split at answered
      · cases answered
      · rename_i loop looped
        cases answered
        obtain ⟨rtp, rtcpFb, fmtp⟩ := answerCodecLoop_entries codecOptions rest looped
        refine ⟨by simp [offerCodecEntries, rtp], by simp [offerCodecEntries, rtcpFb],
          fun noOptions => ?_⟩
        rw [answerCodecParameters_without_options noOptions] at stepped
        cases stepped
        simp [offerCodecEntries, fmtp noOptions]

/--
The answer's codec loop never throws, and is undefined exactly when
`codecOptions` has a member and some answer codec has a payload type no
offer codec has; an audio or video answer section is then undefined.
-/
theorem answer_codec_lookup_undefined_iff_not_offered {iceParameters : IceParameters}
    {iceCandidates : List IceCandidate} {dtlsParameters : DtlsParameters}
    {sctpParameters : Option SctpParameters} {offerMediaObject : LocalMediaObject}
    {offerRtpParameters answerRtpParameters : RtpParameters}
    {codecOptions : Option CodecOptions}
    (media : offerMediaObject.type = "audio" ∨ offerMediaObject.type = "video") :
    (∀ message, answerCodecLoop codecOptions offerRtpParameters.codecs
      answerRtpParameters.codecs ≠ .error (.thrown message)) ∧
    (answerCodecLoop codecOptions offerRtpParameters.codecs answerRtpParameters.codecs =
        .error .undefined ↔
      ¬ codecOptions.all CodecOptions.empty ∧
        ∃ codec ∈ answerRtpParameters.codecs,
          codec.payloadType ∉ offerRtpParameters.codecs.map (·.payloadType)) ∧
    (¬ codecOptions.all CodecOptions.empty →
      (∃ codec ∈ answerRtpParameters.codecs,
        codec.payloadType ∉ offerRtpParameters.codecs.map (·.payloadType)) →
      answerMediaSection iceParameters iceCandidates dtlsParameters sctpParameters
          offerMediaObject offerRtpParameters answerRtpParameters codecOptions =
        .error .undefined) := by
  have sectionUndefined : ¬ codecOptions.all CodecOptions.empty →
      (∃ codec ∈ answerRtpParameters.codecs,
        codec.payloadType ∉ offerRtpParameters.codecs.map (·.payloadType)) →
      answerMediaSection iceParameters iceCandidates dtlsParameters sctpParameters
          offerMediaObject offerRtpParameters answerRtpParameters codecOptions =
        .error .undefined := fun withOptions missing => by
    simp only [answerMediaSection, if_pos media, bind, Except.bind,
      answerCodecLoop_of_not_mem withOptions _ missing]
  by_cases undefined : ¬ codecOptions.all CodecOptions.empty ∧
      ∃ codec ∈ answerRtpParameters.codecs,
        codec.payloadType ∉ offerRtpParameters.codecs.map (·.payloadType)
  · rw [answerCodecLoop_of_not_mem undefined.1 _ undefined.2]
    exact ⟨fun _ => by simp, iff_of_true rfl undefined, sectionUndefined⟩
  · have either : codecOptions.all CodecOptions.empty ∨
        ∀ codec ∈ answerRtpParameters.codecs,
          codec.payloadType ∈ offerRtpParameters.codecs.map (·.payloadType) := by
      by_cases noOptions : codecOptions.all CodecOptions.empty
      · exact .inl noOptions
      · exact .inr fun codec member =>
          by_contra fun absent => undefined ⟨noOptions, codec, member, absent⟩
    obtain ⟨_, _, looped, -⟩ := answerCodecLoop_completes _ either
    rw [looped]
    exact ⟨fun _ => by simp, iff_of_false (by simp) undefined, sectionUndefined⟩

/-- `codecOptions` with only `opusFec`. -/
def exampleFecOptions : CodecOptions where
  opusStereo := none
  opusFec := some true
  opusDtx := none
  opusMaxPlaybackRate := none
  opusPtime := none
  videoGoogleStartBitrate := none
  videoGoogleMaxBitrate := none
  videoGoogleMinBitrate := none

/-- Answer parameters whose opus has payload type `101`, which the example offer lacks. -/
def exampleUnofferedAnswer : RtpParameters :=
  { exampleSendingRtpParameters with codecs := [{ exampleOpus with payloadType := 101 }] }

theorem answer_codec_lookup_undefined_of_unoffered_opus :
    answerMediaSection RemoteSdp.exampleIceParameters [] RemoteSdp.exampleDtlsParameters none
        (exampleLocalMediaObject "0") exampleSendingRtpParameters exampleUnofferedAnswer
        (some exampleFecOptions) =
      .error .undefined :=
  (answer_codec_lookup_undefined_iff_not_offered (.inl rfl)).2.2 (by decide)
    ⟨_, List.mem_singleton_self _, by decide⟩

/-! ## The two constructors' tables -/

/-- An audio or video offer section's codec members are the offer loop's. -/
theorem offerMediaSection_codecTables {iceParameters : IceParameters}
    {iceCandidates : List IceCandidate} {sctpParameters : Option SctpParameters}
    {mid kind : String} {offerRtpParameters : RtpParameters} {streamId trackId : String}
    {mediaSection : MediaSection} (media : kind = "audio" ∨ kind = "video")
    (constructed :
      offerMediaSection iceParameters iceCandidates sctpParameters mid kind
        offerRtpParameters streamId trackId = .ok mediaSection) :
    mediaSection.mediaObject.rtp = some (offerCodecEntries offerRtpParameters.codecs).rtp ∧
      mediaSection.mediaObject.fmtp =
        some (offerCodecEntries offerRtpParameters.codecs).fmtp ∧
      mediaSection.mediaObject.rtcpFb =
        some (offerCodecEntries offerRtpParameters.codecs).rtcpFb ∧
      mediaSection.mediaObject.payloads = some (payloadsString offerRtpParameters.codecs) := by
  simp only [offerMediaSection, if_pos media] at constructed
  split at constructed
  · cases constructed
    exact ⟨rfl, rfl, rfl, rfl⟩
  · cases constructed

/-- Consumer parameters with opus, whose `minptime` and `useinbandfec` make an `fmtp` entry. -/
def exampleOpusRtpParameters : RtpParameters :=
  { RemoteSdp.exampleRtpParameters with
    codecs := [{ exampleOpus with
      parameters := [("minptime", .integer 10), ("useinbandfec", .integer 1)] }] }

end MediasoupClient.Sdp
