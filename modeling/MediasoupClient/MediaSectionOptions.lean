import MediasoupClient.MediaSectionCodecs

namespace MediasoupClient.Sdp

/-!
# What `codecOptions` writes into the codec parameters

`AnswerMediaSection::AnswerMediaSection` writes the members of
`codecOptions` into the answer codec's `parameters` with
`codecParameters[key] = value`, one key per member: for an opus codec
`stereo`, `useinbandfec`, `usedtx`, `maxplaybackrate` and `ptime`, for a
VP8, VP9, H264 or H265 codec the three `x-google-*` bitrates.  For opus it
also writes `sprop-stereo`, `useinbandfec` and `usedtx` into the first
offer codec with the answer codec's payload type.

A `json` object keeps its keys sorted, and `operator[]` on a key replaces
its value or inserts it in place.  So each write sets its own key and no
other, the keys stay sorted, and after the whole block every key reads as
the member that names it gives it (flags as `1` or `0`, `opusStereo` as `1`
exactly when positive, numbers narrowed to `uint32_t`), or as before.
-/

/-- A parameter list is a `json` object: its keys are strictly sorted. -/
def ParametersSorted (parameters : List (String × ParameterValue)) : Prop :=
  (parameters.map Prod.fst).Sorted (· < ·)

/-- A block of `codecOptions` writes, in order: a key and the value its member gives, if present. -/
def setOptions (writes : List (String × Option ParameterValue))
    (parameters : List (String × ParameterValue)) : List (String × ParameterValue) :=
  writes.foldl (fun parameters write => setOption write.1 write.2 parameters) parameters

section Writes

/-- `List.lookup` on a `json` object's entries, as an `if` on the key. -/
theorem lookup_cons_eq {β : Type} (key : String) (value : β) (rest : List (String × β))
    (other : String) :
    ((key, value) :: rest).lookup other = if other = key then some value else rest.lookup other := by
  rw [List.lookup_cons]
  cases compared : other == key
  · simp [beq_eq_false_iff_ne.mp compared]
  · simp [beq_iff_eq.mp compared]

/-- `operator[]` sets its key and reads every other key as before. -/
theorem lookup_setParameter (key : String) (value : ParameterValue) :
    ∀ (parameters : List (String × ParameterValue)) (other : String),
      (setParameter key value parameters).lookup other =
        if other = key then some value else parameters.lookup other
  | [], other => by
      simp only [setParameter, lookup_cons_eq, List.lookup_nil]
  | (name, current) :: rest, other => by
      by_cases replaced : key = name
      · subst replaced
        by_cases same : other = key <;> simp [setParameter, lookup_cons_eq, same]
      · by_cases inserted : key < name
        · simp only [setParameter, if_neg replaced, if_pos inserted, lookup_cons_eq]
        · simp only [setParameter, if_neg replaced, if_neg inserted, lookup_cons_eq,
            lookup_setParameter key value rest other]
          by_cases same : other = key
          · subst same
            simp [replaced]
          · simp [same]

/-- The keys after `operator[]` are its key and the keys before. -/
theorem mem_keys_setParameter (key : String) (value : ParameterValue) :
    ∀ {parameters : List (String × ParameterValue)} {name : String},
      name ∈ (setParameter key value parameters).map Prod.fst →
        name = key ∨ name ∈ parameters.map Prod.fst
  | [], _, member => by
      simp only [setParameter, List.map_cons, List.map_nil, List.mem_singleton] at member
      exact .inl member
  | (first, current) :: rest, name, member => by
      unfold setParameter at member
      split_ifs at member with replaced inserted
      · simp only [List.map_cons, List.mem_cons] at member ⊢
        exact member.imp_right .inr
      · simpa only [List.map_cons, List.mem_cons] using member
      · simp only [List.map_cons, List.mem_cons] at member ⊢
        rcases member with same | later
        · exact .inr (.inl same)
        · exact (mem_keys_setParameter key value later).imp id .inr

/-- `operator[]` keeps a `json` object's keys sorted. -/
theorem sorted_setParameter (key : String) (value : ParameterValue) :
    ∀ {parameters : List (String × ParameterValue)},
      ParametersSorted parameters → ParametersSorted (setParameter key value parameters)
  | [], _ => List.sorted_singleton key
  | (name, current) :: rest, sorted => by
      unfold ParametersSorted at sorted ⊢
      rw [List.map_cons, List.sorted_cons] at sorted
      obtain ⟨below, restSorted⟩ := sorted
      unfold setParameter
      split_ifs with replaced inserted
      · subst replaced
        exact List.sorted_cons.mpr ⟨below, restSorted⟩
      · refine List.sorted_cons.mpr ⟨fun later member => ?_, List.sorted_cons.mpr
          ⟨below, restSorted⟩⟩
        rcases List.mem_cons.mp member with rfl | later
        · exact inserted
        · exact inserted.trans (below _ later)
      · have above : name < key :=
          (lt_trichotomy name key).resolve_right (by
            rintro (same | lower)
            · exact replaced same.symm
            · exact inserted lower)
        refine List.sorted_cons.mpr ⟨fun later member => ?_,
          sorted_setParameter key value restSorted⟩
        rcases mem_keys_setParameter key value member with rfl | old
        · exact above
        · exact below _ old

/-- A present member sets its key; an absent one writes nothing. -/
theorem lookup_setOption (key : String) (value : Option ParameterValue)
    (parameters : List (String × ParameterValue)) (other : String) :
    (setOption key value parameters).lookup other =
      (if other = key then value else none).or (parameters.lookup other) := by
  cases value with
  | none => by_cases same : other = key <;> simp [setOption, same]
  | some value =>
      rw [setOption, lookup_setParameter]
      by_cases same : other = key <;> simp [same]

theorem sorted_setOption (key : String) (value : Option ParameterValue)
    {parameters : List (String × ParameterValue)} (sorted : ParametersSorted parameters) :
    ParametersSorted (setOption key value parameters) := by
  cases value with
  | none => exact sorted
  | some value => exact sorted_setParameter key value sorted

/-- A key no write names reads as `none` in the writes. -/
theorem lookup_eq_none_of_not_mem {key : String} :
    ∀ {writes : List (String × Option ParameterValue)}, key ∉ writes.map Prod.fst →
      writes.lookup key = none
  | [], _ => rfl
  | (name, _) :: rest, absent => by
      simp only [List.map_cons, List.mem_cons, not_or] at absent
      simp [lookup_cons_eq, absent.1, lookup_eq_none_of_not_mem absent.2]

/--
After a block of writes to distinct keys, every key reads as the write that
names it gives it, or as before.
-/
theorem lookup_setOptions :
    ∀ {writes : List (String × Option ParameterValue)}, (writes.map Prod.fst).Nodup →
      ∀ (parameters : List (String × ParameterValue)) (key : String),
        (setOptions writes parameters).lookup key =
          (writes.lookup key).join.or (parameters.lookup key)
  | [], _, _, _ => rfl
  | (name, value) :: rest, distinct, parameters, key => by
      rw [List.map_cons, List.nodup_cons] at distinct
      have stepped : setOptions ((name, value) :: rest) parameters =
          setOptions rest (setOption name value parameters) := rfl
      rw [stepped, lookup_setOptions distinct.2, lookup_setOption, lookup_cons_eq]
      by_cases same : key = name
      · subst same
        simp [lookup_eq_none_of_not_mem distinct.1]
      · simp [same]

theorem sorted_setOptions :
    ∀ (writes : List (String × Option ParameterValue))
      {parameters : List (String × ParameterValue)},
      ParametersSorted parameters → ParametersSorted (setOptions writes parameters)
  | [], _, sorted => sorted
  | (name, value) :: rest, _, sorted =>
      sorted_setOptions rest (sorted_setOption name value sorted)

end Writes

/-! ## The source's three blocks of writes -/

section Blocks

variable (options : CodecOptions)

/-- The opus members' writes into the answer codec, in the source's order. -/
def opusWrites : List (String × Option ParameterValue) :=
  [("stereo", opusStereoFlag options), ("useinbandfec", options.opusFec.map flagValue),
    ("usedtx", options.opusDtx.map flagValue),
    ("maxplaybackrate", options.opusMaxPlaybackRate.map uint32Value),
    ("ptime", options.opusPtime.map uint32Value)]

/-- The opus flags' writes into the matching offer codec. -/
def mirrorWrites : List (String × Option ParameterValue) :=
  [("sprop-stereo", opusStereoFlag options), ("useinbandfec", options.opusFec.map flagValue),
    ("usedtx", options.opusDtx.map flagValue)]

/-- The video members' writes into the answer codec. -/
def videoWrites : List (String × Option ParameterValue) :=
  [("x-google-start-bitrate", options.videoGoogleStartBitrate.map uint32Value),
    ("x-google-max-bitrate", options.videoGoogleMaxBitrate.map uint32Value),
    ("x-google-min-bitrate", options.videoGoogleMinBitrate.map uint32Value)]

theorem applyOpusOptions_eq (parameters : List (String × ParameterValue)) :
    applyOpusOptions options parameters = setOptions (opusWrites options) parameters :=
  rfl

theorem mirrorOpusOptions_eq (parameters : List (String × ParameterValue)) :
    mirrorOpusOptions options parameters = setOptions (mirrorWrites options) parameters :=
  rfl

theorem applyVideoOptions_eq (parameters : List (String × ParameterValue)) :
    applyVideoOptions options parameters = setOptions (videoWrites options) parameters :=
  rfl

end Blocks

/-- What `codecOptions` writes into an answer codec of a lower-cased MIME type. -/
def answerOptionWrites : Option CodecOptions → String → List (String × Option ParameterValue)
  | none, _ => []
  | some options, mimeType =>
      if options.empty then []
      else if mimeType = "audio/opus" then opusWrites options
      else if isVideoOptionCodec mimeType then videoWrites options
      else []

/-- Every block writes distinct keys. -/
theorem answerOptionWrites_nodup (codecOptions : Option CodecOptions) (mimeType : String) :
    ((answerOptionWrites codecOptions mimeType).map Prod.fst).Nodup := by
  unfold answerOptionWrites
  split
  · exact List.nodup_nil
  · split_ifs <;> simp [opusWrites, videoWrites]

/-- `find_if` and a write through the iterator: the first offer codec of the payload type. -/
theorem updateOfferCodec_split {payloadType : Nat}
    {update : RtpCodecParameters → RtpCodecParameters} :
    ∀ {codecs updated : List RtpCodecParameters},
      updateOfferCodec payloadType update codecs = .ok updated →
        ∃ before offerCodec after,
          codecs = before ++ offerCodec :: after ∧
            (∀ other ∈ before, other.payloadType ≠ payloadType) ∧
            offerCodec.payloadType = payloadType ∧
            updated = before ++ update offerCodec :: after
  | [], _, written => by cases written
  | offerCodec :: rest, updated, written => by
      unfold updateOfferCodec at written
      split_ifs at written with found
      · cases written
        exact ⟨[], offerCodec, rest, rfl, nofun, found, rfl⟩
      · cases restWritten : updateOfferCodec payloadType update rest with
        | error => simp [restWritten, Except.map] at written
        | ok restUpdated =>
            simp only [restWritten, Except.map, Except.ok.injEq] at written
            obtain ⟨before, matched, after, rfl, skipped, hasType, rfl⟩ :=
              updateOfferCodec_split restWritten
            refine ⟨offerCodec :: before, matched, after, rfl, ?_, hasType, written.symm⟩
            rintro other (_ | ⟨_, member⟩)
            · exact found
            · exact skipped other member

/--
An answer codec's `codecOptions` step writes exactly the keys its members
name: every key of the answer codec's parameters reads as the member that
names it gives it (for the codec's lower-cased MIME type, when
`codecOptions` has a member), or as before, and the keys stay sorted.  The
offer codecs stay as they are, except that for opus the first offer codec
with the answer codec's payload type takes the mirrored flags the same way.
-/
theorem answer_codec_options_write_their_keys {codecOptions : Option CodecOptions}
    {offerCodecs : List RtpCodecParameters} {codec : RtpCodecParameters}
    {parameters : List (String × ParameterValue)} {updated : List RtpCodecParameters}
    (answered : answerCodecParameters codecOptions offerCodecs codec = .ok (parameters, updated)) :
    (∀ key, parameters.lookup key =
        ((answerOptionWrites codecOptions (lowerCase codec.mimeType)).lookup key).join.or
          (codec.parameters.lookup key)) ∧
      (ParametersSorted codec.parameters → ParametersSorted parameters) ∧
      (updated = offerCodecs ∨
        ∃ options before offerCodec after mirrored,
          codecOptions = some options ∧ lowerCase codec.mimeType = "audio/opus" ∧
            offerCodecs = before ++ offerCodec :: after ∧
            (∀ other ∈ before, other.payloadType ≠ codec.payloadType) ∧
            offerCodec.payloadType = codec.payloadType ∧
            updated = before ++ { offerCodec with parameters := mirrored } :: after ∧
            (∀ key, mirrored.lookup key =
              ((mirrorWrites options).lookup key).join.or (offerCodec.parameters.lookup key)) ∧
            (ParametersSorted offerCodec.parameters → ParametersSorted mirrored)) := by
  have written : parameters =
      setOptions (answerOptionWrites codecOptions (lowerCase codec.mimeType)) codec.parameters →
      (∀ key, parameters.lookup key =
        ((answerOptionWrites codecOptions (lowerCase codec.mimeType)).lookup key).join.or
          (codec.parameters.lookup key)) ∧
        (ParametersSorted codec.parameters → ParametersSorted parameters) := by
    rintro rfl
    exact ⟨lookup_setOptions (answerOptionWrites_nodup _ _) _, sorted_setOptions _⟩
  unfold answerCodecParameters at answered
  rcases codecOptions with _ | options
  · cases answered
    exact ⟨(written rfl).1, (written rfl).2, .inl rfl⟩
  dsimp only at answered
  by_cases empty : options.empty
  · rw [if_pos empty] at answered
    cases answered
    exact ⟨(written (by simp [answerOptionWrites, empty, setOptions])).1,
      (written (by simp [answerOptionWrites, empty, setOptions])).2, .inl rfl⟩
  rw [if_neg empty] at answered
  by_cases opus : lowerCase codec.mimeType = "audio/opus"
  · rw [if_pos opus] at answered
    cases mirrored : updateOfferCodec codec.payloadType
        (fun offerCodec =>
          { offerCodec with parameters := mirrorOpusOptions options offerCodec.parameters })
        offerCodecs with
    | error => simp [mirrored, Except.map] at answered
    | ok mirroredCodecs =>
        simp only [mirrored, Except.map, Except.ok.injEq, Prod.mk.injEq] at answered
        obtain ⟨rfl, rfl⟩ := answered
        obtain ⟨before, offerCodec, after, split, skipped, hasType, rfl⟩ :=
          updateOfferCodec_split mirrored
        have writes := written (by simp only [answerOptionWrites, empty, opus, if_false,
          if_true, Bool.false_eq_true]; rfl)
        exact ⟨writes.1, writes.2, .inr ⟨options, before, offerCodec, after, _, rfl, opus, split,
          skipped, hasType, rfl, @lookup_setOptions (mirrorWrites options) (by simp [mirrorWrites]) _,
          sorted_setOptions (mirrorWrites options)⟩⟩
  rw [if_neg opus] at answered
  by_cases video : isVideoOptionCodec (lowerCase codec.mimeType) <;>
    simp only [video, if_true, if_false, Bool.false_eq_true] at answered <;>
    cases checked : updateOfferCodec codec.payloadType id offerCodecs with
    | error => simp [checked, Except.map] at answered
    | ok checkedCodecs =>
        simp only [checked, Except.map, Except.ok.injEq, Prod.mk.injEq] at answered
        obtain ⟨rfl, rfl⟩ := answered
        obtain ⟨before, offerCodec, after, split, -, -, rfl⟩ := updateOfferCodec_split checked
        have writes := written (by simp only [answerOptionWrites, empty, opus, video, if_false,
          if_true, Bool.false_eq_true]; rfl)
        exact ⟨writes.1, writes.2, .inl split.symm⟩

theorem answer_codec_options_write_their_keys_for_fec :
    ∃ parameters updated,
      answerCodecParameters (some exampleFecOptions) [exampleOpus] exampleOpus =
          .ok (parameters, updated) ∧
        parameters.lookup "useinbandfec" = some (.integer 1) ∧
        parameters.lookup "stereo" = none :=
  have answered : answerCodecParameters (some exampleFecOptions) [exampleOpus] exampleOpus =
      .ok _ := rfl
  ⟨_, _, answered, ((answer_codec_options_write_their_keys answered).1 "useinbandfec").trans
      (by decide),
    ((answer_codec_options_write_their_keys answered).1 "stereo").trans (by decide)⟩

end MediasoupClient.Sdp
